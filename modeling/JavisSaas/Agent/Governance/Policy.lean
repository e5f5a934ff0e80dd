import Mathlib.Data.List.Infix

/-!
# Governance decisions

`packages/agent/governance/contracts.py`, `floor.py`, `accumulator.py`,
`ambient.py`.

* `rank_combineDecisions`: accumulating takes the stricter outcome.
* `rank_le_observe`: an invocation's accumulated outcome never gets weaker.
-/

namespace JavisSaas.Agent.Governance

/-! ## Contracts -/

inductive PolicyOutcome where
  | allow
  | deny
  | requireApproval
  | nonApprovable
  deriving DecidableEq

def PolicyOutcome.value : PolicyOutcome → String
  | allow => "ALLOW"
  | deny => "DENY"
  | requireApproval => "REQUIRE_APPROVAL"
  | nonApprovable => "NON_APPROVABLE"

inductive ApprovalRequirement where
  | roleApproval (role : String)
  | userApproval (userId : String)
  | allOf (predicates : List ApprovalRequirement)
  | anyOf (predicates : List ApprovalRequirement)
  | quorum (count : Int) (roles : List String)

namespace ApprovalRequirement

mutual

def decEq : (a b : ApprovalRequirement) → Decidable (a = b)
  | roleApproval r, roleApproval r' => decidable_of_iff (r = r') (by simp)
  | userApproval u, userApproval u' => decidable_of_iff (u = u') (by simp)
  | allOf ps, allOf ps' => have := decEqList ps ps'; decidable_of_iff (ps = ps') (by simp)
  | anyOf ps, anyOf ps' => have := decEqList ps ps'; decidable_of_iff (ps = ps') (by simp)
  | quorum n rs, quorum n' rs' => decidable_of_iff (n = n' ∧ rs = rs') (by simp)
  | roleApproval _, userApproval _ | roleApproval _, allOf _ | roleApproval _, anyOf _
  | roleApproval _, quorum _ _ | userApproval _, roleApproval _ | userApproval _, allOf _
  | userApproval _, anyOf _ | userApproval _, quorum _ _ | allOf _, roleApproval _
  | allOf _, userApproval _ | allOf _, anyOf _ | allOf _, quorum _ _ | anyOf _, roleApproval _
  | anyOf _, userApproval _ | anyOf _, allOf _ | anyOf _, quorum _ _
  | quorum _ _, roleApproval _ | quorum _ _, userApproval _ | quorum _ _, allOf _
  | quorum _ _, anyOf _ => isFalse nofun

def decEqList : (ps qs : List ApprovalRequirement) → Decidable (ps = qs)
  | [], [] => isTrue rfl
  | p :: ps, q :: qs =>
    have := decEq p q
    have := decEqList ps qs
    decidable_of_iff (p = q ∧ ps = qs) (by simp)
  | [], _ :: _ => isFalse nofun
  | _ :: _, [] => isFalse nofun

end

instance : DecidableEq ApprovalRequirement := decEq

end ApprovalRequirement

inductive CapabilityRisk where
  | low
  | medium
  | high
  | critical
  deriving DecidableEq

inductive ApprovalPolicy where
  | never
  | always
  | conditional
  | policyDriven
  deriving DecidableEq

structure PolicyDecision where
  outcome : PolicyOutcome
  requirement : Option ApprovalRequirement := none
  reasons : List String := []

/-- What a tenant's policy evaluator may return: a decision, an outcome, a text or `None`. -/
inductive Evaluation where
  | decision (d : PolicyDecision)
  | outcome (o : PolicyOutcome)
  | text (s : String)
  | none

/-! ## The capability floor -/

def capabilityFloor (risk : CapabilityRisk) (approvalPolicy : ApprovalPolicy) : PolicyOutcome :=
  if approvalPolicy = .always then .requireApproval
  else if risk = .high ∨ risk = .critical then .requireApproval
  else .allow

/-- The white space that `str.strip` removes. -/
def isPySpace (c : Char) : Bool :=
  c ∈ [' ', '\t', '\n', '\r', '\x0b', '\x0c', '\x1c', '\x1d', '\x1e', '\x1f', '\u0085', '\u00a0',
    '\u1680', '\u2028', '\u2029', '\u202f', '\u205f', '\u3000'] ||
    ('\u2000' ≤ c && c ≤ '\u200a')

/-- `s.strip()`. -/
def strip (s : String) : String :=
  String.ofList ((s.toList.dropWhile isPySpace).reverse.dropWhile isPySpace).reverse

/-- `part in s`. -/
def contains (s part : String) : Bool := decide (part.toList <:+: s.toList)

/-- `_normalize_decision`; `upper` is `str.upper`. -/
def normalizeDecision (upper : String → String) (val : Evaluation) (source : String) :
    PolicyDecision :=
  match val with
  | .none => { outcome := .allow, reasons := [s!"{source}: default allow"] }
  | .decision d => d
  | .outcome o => { outcome := o, reasons := [s!"{source}: {o.value}"] }
  | .text val =>
    let valStr := strip (upper val)
    if contains valStr "DENY" then { outcome := .deny, reasons := [s!"{source}: {valStr}"] }
    else if contains valStr "APPROVAL" then
      { outcome := .requireApproval, reasons := [s!"{source}: {valStr}"] }
    else { outcome := .allow, reasons := [s!"{source}: {valStr}"] }

/-- `reasons or (fallback,)`. -/
def reasonsOr (reasons : List String) (fallback : String) : List String :=
  if reasons = [] then [fallback] else reasons

def conjoin (upper : String → String) (a b : Evaluation) : PolicyDecision :=
  let decA := normalizeDecision upper a "floor"
  let decB := normalizeDecision upper b "tenant"
  let reasons := decA.reasons ++ decB.reasons
  if decA.outcome ∈ [.deny, .nonApprovable] ∨ decB.outcome ∈ [.deny, .nonApprovable] then
    { outcome := .deny, reasons := reasonsOr reasons "Execution denied by conjoined policy" }
  else if .requireApproval ∈ [decA.outcome, decB.outcome] then
    { outcome := .requireApproval
      requirement := (decB.requirement.or decA.requirement).or (some (.roleApproval "admin"))
      reasons := reasonsOr reasons "Action requires human approval" }
  else { outcome := .allow, reasons := reasonsOr reasons "Allowed by conjoined policy" }

/-! ## Accumulation -/

def outcomeRank : PolicyOutcome → ℕ
  | .allow => 0
  | .requireApproval => 1
  | .deny => 2
  | .nonApprovable => 3

def combineRequirements : Option ApprovalRequirement → Option ApprovalRequirement →
    Option ApprovalRequirement
  | none, b => b
  | a, none => a
  | some a, some b => if a == b then some a else some (.allOf [a, b])

def combineDecisions (a b : PolicyDecision) : PolicyDecision where
  outcome := if outcomeRank b.outcome ≤ outcomeRank a.outcome then a.outcome else b.outcome
  requirement := combineRequirements a.requirement b.requirement
  reasons := (a.reasons ++ b.reasons).eraseDups

/-- Keyed by `(run_id, tool_call_id)`. -/
structure InvocationGovernanceState where
  runId : String
  toolCallId : String
  accumulated : PolicyDecision

namespace InvocationGovernanceState

def start (runId toolCallId : String) (initial : PolicyDecision) : InvocationGovernanceState :=
  { runId, toolCallId, accumulated := initial }

def accumulate (s : InvocationGovernanceState) (observation : PolicyDecision) :
    InvocationGovernanceState :=
  { s with accumulated := combineDecisions s.accumulated observation }

end InvocationGovernanceState

/-! ## Monotonicity -/

theorem rank_combineDecisions (a b : PolicyDecision) :
    outcomeRank (combineDecisions a b).outcome =
      max (outcomeRank a.outcome) (outcomeRank b.outcome) := by
  show outcomeRank (if _ then _ else _) = _
  split_ifs with h <;> omega

/-- What an invocation has once observed stays: the outcome never gets weaker. -/
theorem rank_le_observe (s : InvocationGovernanceState) (d : PolicyDecision) :
    outcomeRank s.accumulated.outcome ≤ outcomeRank (s.accumulate d).accumulated.outcome ∧
      outcomeRank d.outcome ≤ outcomeRank (s.accumulate d).accumulated.outcome := by
  show _ ≤ outcomeRank (combineDecisions s.accumulated d).outcome ∧ _
  rw [InvocationGovernanceState.accumulate, rank_combineDecisions]
  omega

/-- The strictest outcome of the decisions. -/
structure IsStrictest (outcome : PolicyOutcome) (decisions : List PolicyDecision) : Prop where
  mem : ∃ d ∈ decisions, d.outcome = outcome
  le : ∀ d ∈ decisions, outcomeRank d.outcome ≤ outcomeRank outcome

theorem isStrictest_start (d : PolicyDecision) : IsStrictest d.outcome [d] where
  mem := ⟨d, List.mem_singleton_self d, rfl⟩
  le d' hd' := by rw [List.mem_singleton.mp hd']

/-- Accumulating an observation gives the strictest outcome with it. -/
theorem IsStrictest.accumulate {s : InvocationGovernanceState} {decisions : List PolicyDecision}
    (h : IsStrictest s.accumulated.outcome decisions) (d : PolicyDecision) :
    IsStrictest (s.accumulate d).accumulated.outcome (decisions ++ [d]) where
  mem := by
    show ∃ d' ∈ decisions ++ [d], d'.outcome = (combineDecisions s.accumulated d).outcome
    by_cases hrank : outcomeRank d.outcome ≤ outcomeRank s.accumulated.outcome
    · obtain ⟨d', hd', houtcome⟩ := h.mem
      refine ⟨d', List.mem_append_left _ hd', houtcome.trans ?_⟩
      rw [combineDecisions, if_pos hrank]
    · refine ⟨d, List.mem_concat_self, ?_⟩
      rw [combineDecisions, if_neg hrank]
  le := by
    intro d' hd'
    obtain ⟨hold, hnew⟩ := rank_le_observe s d
    rcases List.mem_append.mp hd' with hd' | hd'
    · exact (h.le d' hd').trans hold
    · rw [List.mem_singleton.mp hd']
      exact hnew

/-- No conjunction makes an invocation non-approvable: that becomes a denial. -/
theorem conjoin_ne_nonApprovable (upper : String → String) (a b : Evaluation) :
    (conjoin upper a b).outcome ≠ .nonApprovable := by
  unfold conjoin
  dsimp only
  split_ifs <;> nofun

/-! ## Ambient governance -/

/-- The `compliance_snapshot` of a context; an empty one counts as missing. -/
structure ComplianceSnapshot where
  status : Option String := none
  snapshotHash : Option String := none
  policySnapshotHash : Option String := none
  deploymentId : Option String := none
  evidenceHashes : List String := []
  ruleVersionIds : List String := []
  providerProfileVersion : Option String := none

/-- The entries of a request's context that governance and the gateway read. -/
structure InvocationContext where
  workspaceId : Option String := none
  principal : Option String := none
  tenantStatus : String := "active"
  principalStatus : String := "active"
  emergencyLock : Bool := false
  killSwitch : Bool := false
  humanTakeover : Bool := false
  takeover : Bool := false
  threadTakeover : Bool := false
  actionClass : Option String := none
  skillHash : Option String := none
  delegationJti : Option String := none
  complianceSnapshot : Option ComplianceSnapshot := none

/-- `verify_ambient_governance`: the reason of a denial, or nothing. -/
def verifyAmbientGovernance (context : InvocationContext) : Option String :=
  if context.tenantStatus = "suspended" ∨ context.tenantStatus = "disabled" then
    some s!"Tenant is currently {context.tenantStatus}"
  else if context.principalStatus = "revoked" ∨ context.principalStatus = "disabled" then
    some s!"Principal is currently {context.principalStatus}"
  else if context.emergencyLock ∨ context.killSwitch then
    some "Emergency lock / kill switch is active"
  else if context.humanTakeover ∨ context.takeover ∨ context.threadTakeover then
    some "Human takeover is active"
  else none

end JavisSaas.Agent.Governance
