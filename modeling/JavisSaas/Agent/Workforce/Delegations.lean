import Mathlib.Data.Int.Notation
import JavisSaas.Lib.Dict
import JavisSaas.Lib.Transition

/-!
# Delegations of the founder's authority

`packages/agent/workforce/delegation.py`. Both repositories write and select in the same way. A
check selects the delegations in one step; the clock that it then reads is in its label.

* `delegationLaw_of_along`: who passes has a delegation for the key of the request, if no request
  without a key meets restricted delegations only and none is revoked twice.
* `not_delegationLaw_noKey`: a delegation for one key lets a request without a key pass.
-/

namespace JavisSaas.Agent.Workforce

open JavisSaas.Lib

/-! ## The repositories -/

inductive DelegationStatus
  | active
  | revoked
  deriving DecidableEq

structure WorkforceDelegationRecord where
  delegationId : ℕ
  workspaceId : String
  grantorId : String
  principalId : String
  actionScope : String
  functionalKey : Option String
  status : DelegationStatus := .active
  grantedAt : ℤ
  expiresAt : Option ℤ := none
  revokedAt : Option ℤ := none
  revokedBy : Option String := none

def WorkforceDelegationRecord.isEffective (d : WorkforceDelegationRecord) (now : ℤ) : Bool :=
  d.status = .active && !d.expiresAt.any (· ≤ now)

abbrev DelegationRows := Dict ℕ WorkforceDelegationRecord

/-- What a check asks for. -/
structure AuthorityRequest where
  workspaceId : String
  principalId : String
  action : String
  functionalKey : Option String := none

def grantDelegation (rows : DelegationRows) (row : WorkforceDelegationRecord) : DelegationRows :=
  rows.set row.delegationId { row with status := .active, revokedAt := none, revokedBy := none }

/-- `revoke_delegation`; a text that is no UUID is `none`. -/
def revokeDelegation (rows : DelegationRows) (workspaceId : String) (delegationId : Option ℕ)
    (revokedBy : String) (now : ℤ) : DelegationRows :=
  match delegationId with
  | none => rows
  | some did => rows.modify did fun row =>
    if row.workspaceId = workspaceId then
      { row with status := .revoked, revokedAt := some now, revokedBy := some revokedBy }
    else row

def listActiveDelegations (rows : DelegationRows) (q : AuthorityRequest) :
    List WorkforceDelegationRecord :=
  rows.values.filter fun r => r.workspaceId = q.workspaceId ∧ r.principalId = q.principalId ∧
    r.actionScope = q.action ∧ r.status = .active

/-- The loop of `require_founder_or_delegate`, which returns at the first that is not skipped. -/
def hasDelegation (q : AuthorityRequest) (now : ℤ) (ds : List WorkforceDelegationRecord) : Bool :=
  ds.any fun d => d.isEffective now &&
    !(d.functionalKey.isSome && q.functionalKey.isSome && d.functionalKey ≠ q.functionalKey)

/-- The texts of the error need no escapes. -/
def requireFounderOrDelegate (rows : DelegationRows) (isFounder : Bool) (q : AuthorityRequest)
    (now : ℤ) : Except String Unit :=
  if isFounder then .ok ()
  else if hasDelegation q now (listActiveDelegations rows q) then .ok ()
  else
    let functionalKey := q.functionalKey.elim "None" fun key => s!"'{key}'"
    .error (s!"principal '{q.principalId}' lacks founder authority or an active " ++
      s!"delegation for '{q.action}' (functional_key={functionalKey})")

/-! ## Grants, revocations and checks -/

inductive DelegationLabel
  | grant (row : WorkforceDelegationRecord)
  | revoke (workspaceId : String) (delegationId : Option ℕ) (revokedBy : String) (now : ℤ)
  | check (isFounder : Bool) (q : AuthorityRequest) (now : ℤ)

/-- A grant takes an id that `uuid4` has not given before. -/
def delegations : System DelegationRows DelegationLabel where
  next rows
    | .grant row =>
      if (rows.get? row.delegationId).isNone then some (grantDelegation rows row) else none
    | .revoke workspaceId delegationId revokedBy now =>
      some (revokeDelegation rows workspaceId delegationId revokedBy now)
    | .check .. => some rows

/-- A delegation to the principal for the action, in force and unrestricted or for the very key. -/
def Authorises (d : WorkforceDelegationRecord) (q : AuthorityRequest) (now : ℤ) : Prop :=
  (d.workspaceId = q.workspaceId ∧ d.principalId = q.principalId ∧ d.actionScope = q.action) ∧
    d.isEffective now = true ∧ (d.functionalKey = none ∨ d.functionalKey = q.functionalKey)
deriving Decidable

/-- Who passes a check is a founder or has a delegation that authorises the request. -/
def PassesRightly (rows : DelegationRows) : DelegationLabel → Prop
  | .check isFounder q now => requireFounderOrDelegate rows isFounder q now = .ok () →
    isFounder = false → ∃ d ∈ rows.values, Authorises d q now
  | _ => True

/-- A request without a key meets not only restricted delegations, and none is revoked twice. -/
def Careful (rows : DelegationRows) : DelegationLabel → Prop
  | .check isFounder q now => isFounder = false → q.functionalKey = none →
    ∀ d ∈ listActiveDelegations rows q, d.isEffective now = true →
      ∃ d ∈ listActiveDelegations rows q, d.isEffective now = true ∧ d.functionalKey = none
  | .revoke workspaceId delegationId _ _ => ∀ did ∈ delegationId, ∀ row ∈ rows.get? did,
    row.workspaceId = workspaceId → row.status = .active
  | .grant _ => True

instance (rows : DelegationRows) (l : DelegationLabel) :
    Decidable (Careful rows l) := by
  unfold Careful
  split <;> infer_instance

section Run

variable {rows rows' : DelegationRows} {l : DelegationLabel} {q : AuthorityRequest} {now : ℤ}
  {d : WorkforceDelegationRecord}

theorem authorises_of_listed (hd : d ∈ listActiveDelegations rows q)
    (heffective : d.isEffective now = true)
    (hkey : d.functionalKey = none ∨ d.functionalKey = q.functionalKey) :
    ∃ d ∈ rows.values, Authorises d q now := by
  obtain ⟨hmem, hfor⟩ := List.mem_filter.mp hd
  obtain ⟨hworkspace, hprincipal, haction, -⟩ := of_decide_eq_true hfor
  exact ⟨d, hmem, ⟨hworkspace, hprincipal, haction⟩, heffective, hkey⟩

theorem passesRightly_of_careful (h : Careful rows l) : PassesRightly rows l := by
  cases l with
  | grant | revoke => trivial
  | check _ q =>
    intro hpasses hfounder
    subst hfounder
    unfold requireFounderOrDelegate at hpasses
    rw [if_neg (by decide)] at hpasses
    split_ifs at hpasses with hany
    obtain ⟨d, hd, hfits⟩ := List.any_eq_true.mp hany
    rw [Bool.and_eq_true] at hfits
    cases hkey : q.functionalKey with
    | none =>
      obtain ⟨d', hd', heffective, hnone⟩ := h rfl hkey d hd hfits.1
      exact authorises_of_listed hd' heffective (.inl hnone)
    | some =>
      refine authorises_of_listed hd hfits.1 ?_
      have hskip := hfits.2
      cases hown : d.functionalKey with
      | none => exact .inl rfl
      | some =>
        rw [hown, hkey] at hskip
        exact .inr (by simpa [hkey] using hskip)

theorem revoked_kept (hl : Careful rows l) (h : delegations.next rows l = some rows') {id : ℕ}
    {row : WorkforceDelegationRecord} (hrow : rows.get? id = some row)
    (hrevoked : row.status = .revoked) : rows'.get? id = some row := by
  cases l with
  | grant =>
    simp only [delegations] at h
    split_ifs at h with hnew
    cases h
    rw [grantDelegation, Dict.get?_set_of_ne _ ?_, hrow]
    rintro rfl
    rw [hrow] at hnew
    cases hnew
  | revoke _ delegationId =>
    cases h
    cases delegationId with
    | none => exact hrow
    | some did =>
      simp only [revokeDelegation, Dict.get?_modify, hrow, Option.map_some, Option.some.injEq]
      split_ifs with hid hown
      · subst hid
        have hactive := hl did rfl row hrow hown
        rw [hrevoked] at hactive
        cases hactive
      · rfl
      · rfl
  | check =>
    cases h
    exact hrow

end Run

/-- Only delegations for the request let it pass, and what is revoked never authorises again. -/
theorem delegationLaw_of_along {rows rows' : DelegationRows} {ls : List DelegationLabel}
    (hl : delegations.Along Careful rows ls) (hs : delegations.run rows ls = some rows') :
    delegations.Along PassesRightly rows ls ∧
      ∀ id row, rows.get? id = some row → row.status = .revoked → rows'.get? id = some row := by
  refine ⟨hl.mono _ fun _ _ h => passesRightly_of_careful h, fun id row hrow hrevoked => ?_⟩
  exact delegations.inv_of_along (fun _ _ _ hkept hG hn => revoked_kept hG hn hkept hrevoked) hrow
    hl hs

/-- The finance delegation of an agent. -/
def financeDelegation : WorkforceDelegationRecord where
  delegationId := 1
  workspaceId := "ws"
  grantorId := "founder"
  principalId := "agent"
  actionScope := "evaluation"
  functionalKey := some "finance"
  grantedAt := 0

theorem delegationLaw_of_along_revoked :
    delegations.Along PassesRightly ∅ [.grant financeDelegation,
      .check false ⟨"ws", "agent", "evaluation", some "finance"⟩ 1,
      .revoke "ws" (some 1) "founder" 2] ∧
    ∀ id row, (∅ : DelegationRows).get? id = some row → row.status = .revoked →
      ((delegations.run ∅ [.grant financeDelegation,
        .check false ⟨"ws", "agent", "evaluation", some "finance"⟩ 1,
        .revoke "ws" (some 1) "founder" 2]).get (by decide +kernel)).get? id = some row :=
  delegationLaw_of_along (by decide +kernel) (Option.some_get _).symm

/-- The delegation for finance lets the agent evaluate what has no key. -/
theorem not_delegationLaw_noKey :
    ¬delegations.Along PassesRightly ∅ [.grant financeDelegation,
      .check false ⟨"ws", "agent", "evaluation", none⟩ 1] := by
  intro h
  obtain ⟨d, hd, hfor⟩ := (h.2 _ rfl).1 (by decide +kernel) rfl
  have hnone : ∀ d ∈ (grantDelegation ∅ financeDelegation).values,
      ¬Authorises d ⟨"ws", "agent", "evaluation", none⟩ 1 := by decide +kernel
  exact hnone d hd hfor

end JavisSaas.Agent.Workforce
