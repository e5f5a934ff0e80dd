import JavisSaas.Lib.Dict
import JavisSaas.Lib.Newest
import JavisSaas.Lib.Transition

/-!
# Enablements of capabilities

`packages/agent/capabilities/enablements.py`: the two stores, and the check before an invocation.
Each store looks at one of the enablements that cover the target.

* `memoryRight_iff`, `postgresRight_iff`: a check is right if these are all active, or none is.
* `enablementLaw_along`: the stores agree, and a revoked enablement stays revoked.
-/

namespace JavisSaas.Agent.Capabilities

open JavisSaas.Lib

/-! ## Enablements -/

inductive EnablementStatus
  | enabled
  | revoked
  | expired
  deriving DecidableEq

structure CapabilityEnablement where
  id : String
  workspaceId : String := ""
  capabilityId : String := ""
  skillHash : String := ""
  actionClass : String := "B"
  targetFingerprint : String := "*"
  status : EnablementStatus := .enabled
  expiresAt : Option ℤ := none
  createdAt : ℤ
  deriving DecidableEq

def CapabilityEnablement.isActive (e : CapabilityEnablement) (now : ℤ) : Bool :=
  e.status = .enabled ∧ ∀ t ∈ e.expiresAt, now < t

/-- What `assert_enabled_for_invocation` is called with. -/
structure InvocationQuery where
  workspaceId : String
  capabilityId : String
  skillHash : Option String
  actionClass : String := "R"
  targetFingerprint : String := "*"

/-- The lookup of `get_enablement`. -/
def Covers (q : InvocationQuery) (skillHash : String) (e : CapabilityEnablement) : Bool :=
  e.workspaceId = q.workspaceId ∧ e.capabilityId = q.capabilityId ∧ e.skillHash = skillHash ∧
    e.actionClass = q.actionClass ∧
    (e.targetFingerprint = "*" ∨ e.targetFingerprint = q.targetFingerprint)

/-! ## The stores -/

abbrev Enablements := Dict String CapabilityEnablement

/-- `get_enablement` in memory: the first one in the order of the dictionary. -/
def memoryGet (order : List CapabilityEnablement) (q : InvocationQuery) (skillHash : String) :
    Option CapabilityEnablement :=
  order.find? (Covers q skillHash)

/-- `get_enablement` in Postgres: the newest one; of several the first that is scanned. -/
def postgresGet (scan : List CapabilityEnablement) (q : InvocationQuery) (skillHash : String) :
    Option CapabilityEnablement :=
  newest (·.createdAt) (scan.filter (Covers q skillHash))

/-- `save_enablement` in memory. -/
def memorySave (d : Enablements) (e : CapabilityEnablement) : Enablements := d.set e.id e

/-- `save_enablement` in Postgres: a row that is there keeps what it is for. -/
def postgresSave (d : Enablements) (e : CapabilityEnablement) : Enablements :=
  match d.get? e.id with
  | some row => d.set e.id { row with status := e.status, expiresAt := e.expiresAt }
  | none => d.set e.id e

def revokeEnablement (d : Enablements) (id : String) : Enablements :=
  d.modify id ({ · with status := .revoked })

/-! ## The check -/

/-- Why an invocation is refused, by the data in the texts. -/
inductive EnablementRefusal
  | noSkillHash (capabilityId actionClass : String)
  | noWorkspace (capabilityId actionClass : String)
  | noRecord (capabilityId workspaceId actionClass skillHash : String)
  | notActive (id capabilityId : String) (status : EnablementStatus) (expiresAt : Option ℤ)

def assertEnabledForInvocation
    (getEnablement : InvocationQuery → String → Option CapabilityEnablement) (q : InvocationQuery)
    (now : ℤ) : Except EnablementRefusal Unit :=
  if q.actionClass ∈ ["R", "A"] then .ok ()
  else match q.skillHash with
    | none => .error (.noSkillHash q.capabilityId q.actionClass)
    | some skillHash =>
      if skillHash = "" then .error (.noSkillHash q.capabilityId q.actionClass)
      else if q.workspaceId = "" then .error (.noWorkspace q.capabilityId q.actionClass)
      else match getEnablement q skillHash with
        | none => .error (.noRecord q.capabilityId q.workspaceId q.actionClass skillHash)
        | some e =>
          if e.isActive now then .ok ()
          else .error (.notActive e.id q.capabilityId e.status e.expiresAt)

/-- The invocation is permitted. -/
def Permits (getEnablement : InvocationQuery → String → Option CapabilityEnablement)
    (q : InvocationQuery) (now : ℤ) : Prop :=
  assertEnabledForInvocation getEnablement q now = .ok ()

instance (getEnablement : InvocationQuery → String → Option CapabilityEnablement)
    (q : InvocationQuery) (now : ℤ) : Decidable (Permits getEnablement q now) :=
  match h : assertEnabledForInvocation getEnablement q now with
  | .ok () => isTrue h
  | .error _ => isFalse fun hok => nomatch h.symm.trans hok

/-! ## What the check should say -/

/-- An action class that needs an enablement. -/
def InvocationQuery.Gated (q : InvocationQuery) : Prop := q.actionClass ∉ ["R", "A"]
deriving Decidable

/-- The invocation names a skill and a workspace. -/
def InvocationQuery.Names (q : InvocationQuery) (skillHash : String) : Prop :=
  q.skillHash = some skillHash ∧ skillHash ≠ "" ∧ q.workspaceId ≠ ""

/-- The enablement is one of those that the invocation may rely on. -/
def InvocationQuery.Covered (q : InvocationQuery) (e : CapabilityEnablement) : Prop :=
  q.Names e.skillHash ∧ Covers q e.skillHash e

instance (q : InvocationQuery) (e : CapabilityEnablement) : Decidable (q.Covered e) :=
  inferInstanceAs (Decidable ((_ ∧ _ ∧ _) ∧ _))

/-- Some enablement covers the target and is active, and none for exactly the target is revoked. -/
def Enabled (rows : List CapabilityEnablement) (q : InvocationQuery) (now : ℤ) : Prop :=
  (∃ e ∈ rows, q.Covered e ∧ e.isActive now) ∧
    ¬ ∃ e ∈ rows, q.Covered e ∧ e.targetFingerprint = q.targetFingerprint ∧ e.status = .revoked
deriving Decidable

/-- The enablements as if they had been created at other times. -/
def createdAt (created : String → ℤ) (rows : List CapabilityEnablement) :
    List CapabilityEnablement :=
  rows.map fun e => { e with createdAt := created e.id }

/-- The store in memory decides right, in whatever order the enablements are looked at. -/
def MemoryRight (rows : List CapabilityEnablement) (q : InvocationQuery) (now : ℤ) : Prop :=
  ∀ order, order.Perm rows → (Permits (memoryGet order) q now ↔ Enabled rows q now)

/-- The same of Postgres, in whatever order the enablements were created and are scanned. -/
def PostgresRight (rows : List CapabilityEnablement) (q : InvocationQuery) (now : ℤ) : Prop :=
  ∀ created scan, scan.Perm (createdAt created rows) →
    (Permits (postgresGet scan) q now ↔ Enabled rows q now)

/-- The enablements that cover the target are all active, or none of them is. -/
def Uniform (rows : List CapabilityEnablement) (q : InvocationQuery) (now : ℤ) : Prop :=
  (∀ e ∈ rows, q.Covered e → e.isActive now) ∨
    ∀ e ∈ rows, q.Covered e → e.isActive now = false

/-! ## The decision -/

section

variable {rows : List CapabilityEnablement} {q : InvocationQuery} {now : ℤ}
  {getEnablement : InvocationQuery → String → Option CapabilityEnablement}

theorem covered_iff {skillHash : String} (hnames : q.Names skillHash) (e : CapabilityEnablement) :
    q.Covered e ↔ Covers q skillHash e := by
  constructor
  · rintro ⟨⟨hhash, -, -⟩, hcovers⟩
    cases hnames.1.symm.trans hhash
    exact hcovers
  · intro hcovers
    have hhash : e.skillHash = skillHash := by
      have := of_decide_eq_true hcovers
      exact this.2.2.1
    subst hhash
    exact ⟨hnames, hcovers⟩

/-- A gated invocation is permitted where the enablement that is looked at is active. -/
theorem permits_iff (hgated : q.Gated) : Permits getEnablement q now ↔
    ∃ skillHash, q.Names skillHash ∧ ∃ e, getEnablement q skillHash = some e ∧ e.isActive now := by
  unfold Permits assertEnabledForInvocation
  rw [if_neg hgated]
  cases hhash : q.skillHash with
  | none =>
    refine iff_of_false (fun h => nomatch h) ?_
    rintro ⟨skillHash, ⟨hsome, -⟩, -⟩
    nomatch hhash.symm.trans hsome
  | some skillHash =>
    dsimp only
    have hnames : ∀ skillHash', q.Names skillHash' ↔
        skillHash' = skillHash ∧ skillHash ≠ "" ∧ q.workspaceId ≠ "" := by
      intro skillHash'
      unfold InvocationQuery.Names
      rw [hhash]
      constructor
      · rintro ⟨hsame, hrest⟩
        cases hsame
        exact ⟨rfl, hrest⟩
      · rintro ⟨rfl, hrest⟩
        exact ⟨rfl, hrest⟩
    by_cases hblank : skillHash = ""
    · rw [if_pos hblank]
      refine iff_of_false (fun h => nomatch h) ?_
      rintro ⟨skillHash', hname, -⟩
      exact ((hnames skillHash').mp hname).2.1 hblank
    rw [if_neg hblank]
    by_cases hworkspace : q.workspaceId = ""
    · rw [if_pos hworkspace]
      refine iff_of_false (fun h => nomatch h) ?_
      rintro ⟨skillHash', hname, -⟩
      exact ((hnames skillHash').mp hname).2.2 hworkspace
    rw [if_neg hworkspace]
    have hself : q.Names skillHash := (hnames skillHash).mpr ⟨rfl, hblank, hworkspace⟩
    cases hget : getEnablement q skillHash with
    | none =>
      refine iff_of_false (fun h => nomatch h) ?_
      rintro ⟨skillHash', hname, e, he, -⟩
      obtain rfl := ((hnames skillHash').mp hname).1
      nomatch hget.symm.trans he
    | some e =>
      dsimp only
      by_cases hactive : e.isActive now
      · rw [if_pos hactive]
        exact iff_of_true rfl ⟨skillHash, hself, e, hget, hactive⟩
      · rw [if_neg hactive]
        refine iff_of_false (fun h => nomatch h) ?_
        rintro ⟨skillHash', hname, e', he', hactive'⟩
        obtain rfl := ((hnames skillHash').mp hname).1
        cases hget.symm.trans he'
        exact hactive hactive'

/-- A store that looks at one of the enablements that cover the target, if there is one. -/
structure LooksAt (rows : List CapabilityEnablement) (q : InvocationQuery)
    (getEnablement : InvocationQuery → String → Option CapabilityEnablement) : Prop where
  some : ∀ skillHash e, q.Names skillHash → getEnablement q skillHash = some e →
    e ∈ rows ∧ q.Covered e
  none : ∀ skillHash, q.Names skillHash → getEnablement q skillHash = none →
    ∀ e ∈ rows, ¬ q.Covered e

theorem looksAt_memoryGet : LooksAt rows q (memoryGet rows) where
  some _ e hnames h :=
    ⟨List.mem_of_find?_eq_some h, (covered_iff hnames e).mpr (List.find?_some h)⟩
  none _ hnames h e he hcovered :=
    List.find?_eq_none.mp h e he ((covered_iff hnames e).mp hcovered)

theorem looksAt_postgresGet : LooksAt rows q (postgresGet rows) where
  some _ e hnames h := by
    obtain ⟨he, hcovers⟩ := List.mem_filter.mp (mem_of_newest h)
    exact ⟨he, (covered_iff hnames e).mpr hcovers⟩
  none _ hnames h e he hcovered := by
    have hnil := newest_eq_none.mp h
    have hmem := List.mem_filter.mpr ⟨he, (covered_iff hnames e).mp hcovered⟩
    rw [hnil] at hmem
    nomatch hmem

/-- A store that looks at any of the enablements decides right if they are uniform. -/
theorem LooksAt.permits_iff_enabled (h : LooksAt rows q getEnablement) (hgated : q.Gated)
    (huniform : Uniform rows q now) : Permits getEnablement q now ↔ Enabled rows q now := by
  rw [permits_iff hgated]
  constructor
  · rintro ⟨skillHash, hnames, e, he, hactive⟩
    obtain ⟨hmem, hcovered⟩ := h.some skillHash e hnames he
    refine ⟨⟨e, hmem, hcovered, hactive⟩, ?_⟩
    rintro ⟨e', hmem', hcovered', -, hrevoked⟩
    rcases huniform with hall | hnone
    · have hactive' := of_decide_eq_true (hall e' hmem' hcovered')
      rw [hrevoked] at hactive'
      nomatch hactive'.1
    · rw [hnone e hmem hcovered] at hactive
      nomatch hactive
  · rintro ⟨⟨e, hmem, hcovered, hactive⟩, -⟩
    rcases huniform with hall | hnone
    · have hnames := hcovered.1
      cases hget : getEnablement q e.skillHash with
      | none => exact absurd hcovered (h.none e.skillHash hnames hget e hmem)
      | some e' =>
        obtain ⟨hmem', hcovered'⟩ := h.some e.skillHash e' hnames hget
        exact ⟨e.skillHash, hnames, e', hget, hall e' hmem' hcovered'⟩
    · rw [hnone e hmem hcovered] at hactive
      nomatch hactive

/-! ## The order of the enablements -/

theorem enabled_of_perm {order : List CapabilityEnablement} (h : order.Perm rows) :
    Enabled order q now ↔ Enabled rows q now := by
  unfold Enabled
  simp only [h.mem_iff]

theorem uniform_of_perm {order : List CapabilityEnablement} (h : order.Perm rows)
    (huniform : Uniform rows q now) : Uniform order q now := by
  unfold Uniform
  simp only [h.mem_iff]
  exact huniform

/-- The time of creation says nothing about what an enablement covers. -/
theorem enabled_createdAt (created : String → ℤ) :
    Enabled (createdAt created rows) q now ↔ Enabled rows q now := by
  unfold Enabled createdAt
  simp only [List.mem_map, exists_exists_and_eq_and]
  exact Iff.rfl

theorem uniform_createdAt {created : String → ℤ} (huniform : Uniform rows q now) :
    Uniform (createdAt created rows) q now := by
  unfold Uniform createdAt
  simp only [List.forall_mem_map]
  exact huniform

/-- What is looked at first decides; if that is right for each of them, they are uniform. -/
theorem uniform_of_active (h : ∀ e ∈ rows, q.Covered e → (e.isActive now ↔ Enabled rows q now)) :
    Uniform rows q now := by
  by_cases henabled : Enabled rows q now
  · exact .inl fun e he hcovered => (h e he hcovered).mpr henabled
  · refine .inr fun e he hcovered => Bool.eq_false_iff.mpr fun hactive => ?_
    exact henabled ((h e he hcovered).mp hactive)

theorem permits_iff_active {e : CapabilityEnablement} (hgated : q.Gated) (hcovered : q.Covered e)
    (hget : getEnablement q e.skillHash = some e) :
    Permits getEnablement q now ↔ e.isActive now := by
  rw [permits_iff hgated]
  constructor
  · rintro ⟨skillHash, hnames, e', he', hactive⟩
    cases hnames.1.symm.trans hcovered.1.1
    cases he'.symm.trans hget
    exact hactive
  · exact fun hactive => ⟨e.skillHash, hcovered.1, e, hget, hactive⟩

theorem memoryRight_iff (hgated : q.Gated) : MemoryRight rows q now ↔ Uniform rows q now := by
  constructor
  · intro hright
    refine uniform_of_active fun e he hcovered => ?_
    -- the enablement is looked at first
    have hperm : (e :: rows.erase e).Perm rows := (List.perm_cons_erase he).symm
    have hget : memoryGet (e :: rows.erase e) q e.skillHash = some e :=
      List.find?_cons_of_pos hcovered.2
    exact (permits_iff_active hgated hcovered hget).symm.trans (hright _ hperm)
  · intro huniform order hperm
    rw [← enabled_of_perm hperm]
    exact looksAt_memoryGet.permits_iff_enabled hgated (uniform_of_perm hperm huniform)

/-- The enablement that was created last is the one that Postgres finds. -/
theorem postgresGet_of_newest {e : CapabilityEnablement} {skillHash : String} (he : e ∈ rows)
    (hcovers : Covers q skillHash e)
    (hnewest : ∀ e' ∈ rows, e' ≠ e → e'.createdAt < e.createdAt) :
    postgresGet rows q skillHash = some e := by
  have hmem := List.mem_filter.mpr ⟨he, hcovers⟩
  cases hget : postgresGet rows q skillHash with
  | none =>
    rw [newest_eq_none.mp hget] at hmem
    nomatch hmem
  | some e' =>
    have hle := le_of_newest hmem hget
    have hmem' := (List.mem_filter.mp (mem_of_newest hget)).1
    by_cases hsame : e' = e
    · rw [hsame]
    · exact absurd (hnewest e' hmem' hsame) (Int.not_lt.mpr hle)

theorem postgresRight_iff (hids : (rows.map (·.id)).Nodup) (hgated : q.Gated) :
    PostgresRight rows q now ↔ Uniform rows q now := by
  constructor
  · intro hright
    refine uniform_of_active fun e he hcovered => ?_
    -- the enablement is the one that was created last
    let created : String → ℤ := fun id => if id = e.id then 1 else 0
    let newest : CapabilityEnablement := { e with createdAt := created e.id }
    have hnewest : ∀ e' ∈ createdAt created rows, e' ≠ newest → e'.createdAt < newest.createdAt := by
      intro e' he' hne
      obtain ⟨e'', he'', rfl⟩ := List.mem_map.mp he'
      by_cases hid : e''.id = e.id
      · obtain rfl := List.inj_on_of_nodup_map hids he'' he hid
        exact absurd rfl hne
      · show created e''.id < created e.id
        simp [created, hid]
    have hget : postgresGet (createdAt created rows) q newest.skillHash = some newest :=
      postgresGet_of_newest (List.mem_map.mpr ⟨e, he, rfl⟩) hcovered.2 hnewest
    have hpermits : Permits (postgresGet (createdAt created rows)) q now ↔ newest.isActive now :=
      permits_iff_active hgated hcovered hget
    exact hpermits.symm.trans (hright created _ (List.Perm.refl _))
  · intro huniform created scan hperm
    rw [← enabled_createdAt created, ← enabled_of_perm hperm]
    exact looksAt_postgresGet.permits_iff_enabled hgated
      (uniform_of_perm hperm (uniform_createdAt huniform))

end

/-! ## The stores over time -/

/-- The two stores, and the enablements that were revoked. -/
structure EnablementStores where
  memory : Enablements := ∅
  postgres : Enablements := ∅
  revoked : List String := []

inductive EnablementLabel
  | save (e : CapabilityEnablement)
  | revoke (id : String)

def enablementNext (s : EnablementStores) : EnablementLabel → Option EnablementStores
  | .save e => some { s with
      memory := memorySave s.memory e
      postgres := postgresSave s.postgres e }
  | .revoke id => some {
      memory := revokeEnablement s.memory id
      postgres := revokeEnablement s.postgres id
      revoked := if (s.memory.get? id).isSome then id :: s.revoked else s.revoked }

def enablementSystem : System EnablementStores EnablementLabel := ⟨enablementNext⟩

/-- The stores hold the same enablements, and a revoked one is still revoked. -/
structure EnablementLaw (s : EnablementStores) : Prop where
  agree : s.memory = s.postgres
  revoked : ∀ id ∈ s.revoked, ∃ e, s.memory.get? id = some e ∧ e.status = .revoked
  /-- the key of a row is its id -/
  ids : ∀ id e, s.memory.get? id = some e → e.id = id

/-- A save of a stored id changes the status, the limits and the expiry alone, and revives nothing. -/
def Faithful (s : EnablementStores) : EnablementLabel → Prop
  | .save e => ∀ row ∈ s.memory.get? e.id,
    e = { row with status := e.status, expiresAt := e.expiresAt } ∧
      (row.status = .revoked → e.status = .revoked)
  | .revoke _ => True

instance (s : EnablementStores) : (l : EnablementLabel) → Decidable (Faithful s l)
  | .save e => inferInstanceAs (Decidable (∀ row ∈ s.memory.get? e.id, _))
  | .revoke _ => instDecidableTrue

section

variable {s s' : EnablementStores} {l : EnablementLabel}

theorem EnablementLaw.save (h : EnablementLaw s) {e : CapabilityEnablement}
    (hfaithful : Faithful s (.save e)) (hs : enablementNext s (.save e) = some s') :
    EnablementLaw s' := by
  cases hs
  have hpostgres : postgresSave s.postgres e = memorySave s.memory e := by
    unfold postgresSave memorySave
    rw [← h.agree]
    cases hrow : s.memory.get? e.id with
    | none => rfl
    | some row =>
      dsimp only
      rw [← (hfaithful row hrow).1]
  have hget : ∀ id, (memorySave s.memory e).get? id = if e.id = id then some e else
      s.memory.get? id := fun id => Dict.get?_set s.memory e.id id e
  refine ⟨hpostgres.symm, fun id hid => ?_, fun id e' he' => ?_⟩
  · obtain ⟨row, hrow, hrevoked⟩ := h.revoked id hid
    show ∃ e', (memorySave s.memory e).get? id = some e' ∧ _
    rw [hget]
    split_ifs with hsame
    · subst hsame
      exact ⟨e, rfl, (hfaithful row hrow).2 hrevoked⟩
    · exact ⟨row, hrow, hrevoked⟩
  · replace he' : (memorySave s.memory e).get? id = some e' := he'
    rw [hget] at he'
    split_ifs at he' with hsame
    · cases he'
      exact hsame
    · exact h.ids id e' he'

theorem EnablementLaw.revoke (h : EnablementLaw s) {id : String}
    (hs : enablementNext s (.revoke id) = some s') : EnablementLaw s' := by
  cases hs
  let revoked (id' : String) (e : CapabilityEnablement) : CapabilityEnablement :=
    if id = id' then { e with status := .revoked } else e
  have hget : ∀ id', (revokeEnablement s.memory id).get? id' = (s.memory.get? id').map (revoked id') :=
    fun id' => Dict.get?_modify s.memory id id' _
  refine ⟨by rw [h.agree], fun id' hid' => ?_, fun id' e he => ?_⟩
  · have hrow : ∃ row, s.memory.get? id' = some row ∧ (revoked id' row).status = .revoked := by
      by_cases hnew : id' ∈ s.revoked
      · obtain ⟨row, hrow, hrevoked⟩ := h.revoked id' hnew
        refine ⟨row, hrow, ?_⟩
        show (if id = id' then _ else row).status = .revoked
        split_ifs
        · rfl
        · exact hrevoked
      · -- it is the one that was revoked now
        replace hid' : id' ∈ if (s.memory.get? id).isSome then id :: s.revoked else s.revoked := hid'
        split_ifs at hid' with hsome
        · rcases List.mem_cons.mp hid' with rfl | hold
          · obtain ⟨row, hrow⟩ := Option.isSome_iff_exists.mp hsome
            refine ⟨row, hrow, ?_⟩
            show (if id' = id' then _ else row).status = .revoked
            rw [if_pos rfl]
          · exact absurd hold hnew
        · exact absurd hid' hnew
    obtain ⟨row, hrow, hstatus⟩ := hrow
    exact ⟨revoked id' row, by rw [hget, hrow]; rfl, hstatus⟩
  · replace he : (revokeEnablement s.memory id).get? id' = some e := he
    rw [hget] at he
    obtain ⟨row, hrow, rfl⟩ := Option.map_eq_some_iff.mp he
    show (if id = id' then _ else row).id = id'
    split_ifs
    · exact h.ids id' row hrow
    · exact h.ids id' row hrow

theorem EnablementLaw.next (h : EnablementLaw s) (hfaithful : Faithful s l)
    (hs : enablementSystem.next s l = some s') : EnablementLaw s' := by
  cases l with
  | save => exact h.save hfaithful hs
  | revoke => exact h.revoke hs

theorem enablementLaw_empty : EnablementLaw {} where
  agree := rfl
  revoked _ h := nomatch h
  ids _ _ h := nomatch h

theorem EnablementLaw.nodup_ids (h : EnablementLaw s) :
    (s.postgres.values.map (·.id)).Nodup := by
  have hkeys : s.postgres.values.map (·.id) = s.postgres.keys := by
    unfold Dict.values Dict.keys
    rw [List.map_map]
    refine List.map_congr_left fun row hrow => ?_
    exact h.ids row.1 row.2 (h.agree ▸ Dict.get?_eq_some.mpr hrow)
  rw [hkeys]
  exact s.postgres.nodup_keys

end

/-- While saves are faithful the stores agree and what was revoked stays revoked; and each decides
right exactly if the enablements that cover the target are uniform. -/
theorem enablementLaw_along {ls : List EnablementLabel} {s : EnablementStores}
    (hfaithful : enablementSystem.Along Faithful {} ls)
    (hrun : enablementSystem.run {} ls = some s) :
    EnablementLaw s ∧ ∀ (q : InvocationQuery) (now : ℤ), q.Gated →
      (MemoryRight s.memory.values q now ↔ Uniform s.memory.values q now) ∧
      (PostgresRight s.postgres.values q now ↔ Uniform s.postgres.values q now) := by
  have hlaw : EnablementLaw s := enablementSystem.inv_of_along
    (fun _ _ _ h hf hs => h.next hf hs) enablementLaw_empty hfaithful hrun
  exact ⟨hlaw, fun q now hgated => ⟨memoryRight_iff hgated,
    postgresRight_iff hlaw.nodup_ids hgated⟩⟩

namespace Sample

/-- Every target of the capability is enabled, and one of them is revoked. -/
def wildcard : CapabilityEnablement :=
  { id := "enb_1", workspaceId := "w", capabilityId := "c", skillHash := "h", createdAt := 1 }

def exact : CapabilityEnablement :=
  { id := "enb_2", workspaceId := "w", capabilityId := "c", skillHash := "h", createdAt := 0
    targetFingerprint := "t" }

def query : InvocationQuery :=
  { workspaceId := "w", capabilityId := "c", skillHash := some "h", actionClass := "B"
    targetFingerprint := "t" }

def ls : List EnablementLabel := [.save wildcard, .save exact, .revoke "enb_2"]

end Sample

theorem enablementLaw_along_revoked :
    EnablementLaw ((enablementSystem.run {} Sample.ls).get (by decide +kernel)) :=
  (enablementLaw_along (by decide +kernel) (Option.some_get _).symm).1

/-- The invocation of the target that was revoked is permitted in both stores. -/
theorem not_right_revoked :
    ¬ ∀ (ls : List EnablementLabel) (s : EnablementStores),
      enablementSystem.run {} ls = some s → EnablementLaw s ∧
        ∀ (q : InvocationQuery) (now : ℤ), q.Gated →
          MemoryRight s.memory.values q now ∧ PostgresRight s.postgres.values q now := by
  intro h
  let reached := (enablementSystem.run {} Sample.ls).get (by decide +kernel)
  obtain ⟨-, hright⟩ := h Sample.ls reached (Option.some_get _).symm
  have hmemory := (hright Sample.query 0 (by decide)).1 reached.memory.values (List.Perm.refl _)
  have hpermits : Permits (memoryGet reached.memory.values) Sample.query 0 := by decide +kernel
  have hrevoked : ¬ Enabled reached.memory.values Sample.query 0 := by decide +kernel
  exact hrevoked (hmemory.mp hpermits)

end JavisSaas.Agent.Capabilities
