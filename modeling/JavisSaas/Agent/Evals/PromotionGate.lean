import Mathlib.Algebra.Order.Ring.Rat
import JavisSaas.Agent.Registry.SpecRegistry

/-!
# Promotion evidence and the gates that read it

`packages/agent/evals/promotion.py` and `promotion_gate.py`, and `trigger_promotion.py` and
`fingerprints.py` of `apps/cosa/events`. Rates are rationals, and the registry is its `get`.

* `promotionLaw_iff`: the inputs on which the gates say what the evidence was built for.
* `not_promotionLaw_diamond`: a spec that is listed with two hashes.
-/

namespace JavisSaas.Agent.Evals

open JavisSaas.Lib JavisSaas.Agent.Registry

/-! ## The evidence -/

structure EvalRun where
  runId : String
  status : String := "running"
  passRate : Option ℚ := none

structure SpecDependencyEdge where
  dependency : PinnedRef

/-- A value of `check_details`. -/
inductive CheckDetail
  | number (q : ℚ)
  | text (s : String)
  | statuses (d : Dict String String)
  | passRates (d : Dict String (Option ℚ))
  deriving DecidableEq

structure PromotionEvidence where
  evidenceId : String
  targetRef : PinnedRef
  requiredEvalRunIds : List String
  observedFingerprints : Dict String String
  policyVersion : String
  policyChecksPassed : Bool
  checkDetails : Dict String CheckDetail

def PromotionEvidence.isStale (e : PromotionEvidence) (current : Dict String String) : Bool :=
  e.observedFingerprints.items.any fun kv => current.get? kv.1 ≠ some kv.2

/-- The run completed at or above the threshold. -/
def EvalRun.passed (threshold : ℚ) (run : EvalRun) : Bool :=
  run.status = "completed" ∧ run.passRate.getD 0 ≥ threshold

/-- The arguments of `build_promotion_evidence`, and the id that is drawn. -/
structure PromotionInput where
  targetRef : PinnedRef
  dependencyEdges : List SpecDependencyEdge := []
  evalRuns : List EvalRun
  policyVersion : String
  passRateThreshold : ℚ
  evidenceId : String

def buildPromotionEvidence (p : PromotionInput) : PromotionEvidence where
  evidenceId := p.evidenceId
  targetRef := p.targetRef
  requiredEvalRunIds := p.evalRuns.map (·.runId)
  observedFingerprints := ((∅ : Dict String String).set p.targetRef.specId
    p.targetRef.definitionHash).update
      (p.dependencyEdges.map fun e => (e.dependency.specId, e.dependency.definitionHash))
  policyVersion := p.policyVersion
  policyChecksPassed := p.evalRuns ≠ [] ∧ p.evalRuns.all (·.passed p.passRateThreshold)
  checkDetails := (∅ : Dict String CheckDetail).update
    [("pass_rate_threshold", .number p.passRateThreshold),
      ("eval_run_statuses", .statuses ((∅ : Dict String String).update
        (p.evalRuns.map fun run => (run.runId, run.status)))),
      ("eval_run_pass_rates", .passRates ((∅ : Dict String (Option ℚ)).update
        (p.evalRuns.map fun run => (run.runId, run.passRate))))]

/-! ## The gates -/

inductive PromotionIssueCode
  | policyVersionMismatch
  | noEvalRun
  | checksNotPassed
  | evidenceStale
  deriving DecidableEq

structure PromotionGateResult where
  approved : Bool
  blockingIssues : List String
  blockingIssueCodes : List PromotionIssueCode
  targetRef : PinnedRef
  evidenceId : String

/-- The issues of `PromotionGate.check`, each if its condition holds. -/
def promotionIssues (policyVersion : String) (e : PromotionEvidence)
    (current : Dict String String) : List (String × PromotionIssueCode) :=
  (if e.policyVersion ≠ policyVersion then
    [("Evidence dùng policy_version '" ++ e.policyVersion ++ "', gate hiện yêu cầu '" ++
      policyVersion ++ "'", .policyVersionMismatch)] else []) ++
  (if e.requiredEvalRunIds = [] then
    [("Evidence không có eval_run_id nào — chưa từng eval", .noEvalRun)] else []) ++
  (if !e.policyChecksPassed then
    [("Eval checks trong evidence chưa pass (policy_checks_passed=False)", .checksNotPassed)]
    else []) ++
  (if e.isStale current then
    [("Evidence stale — fingerprint (target hoặc dependency) đã đổi kể từ khi tạo evidence",
      .evidenceStale)] else [])

def check (policyVersion : String) (e : PromotionEvidence) (current : Dict String String) :
    PromotionGateResult :=
  let issues := promotionIssues policyVersion e current
  { approved := issues.length = 0
    blockingIssues := issues.map (·.1)
    blockingIssueCodes := issues.map (·.2)
    targetRef := e.targetRef
    evidenceId := e.evidenceId }

/-- `PinnedSpecIdentity` of `trigger_policy.py` -/
structure PinnedAgentSpec where
  id : String
  version : String
  definitionHash : String

inductive TriggerMode
  | artifactOnly
  | proposal
  | write
  deriving DecidableEq

structure EventTriggerRule where
  agentSpec : PinnedAgentSpec
  mode : TriggerMode
  evalEvidenceRef : Option String := none
  eventSchemaVersion : ℤ := 1

/-- `SpecFingerprintProvider.current`; `registry kind id version` is the hash of the record. -/
def currentFingerprints (registry : String → String → String → Option String)
    (rule : EventTriggerRule) : Dict String String :=
  (∅ : Dict String String).set rule.agentSpec.id
    ((registry "agent" rule.agentSpec.id rule.agentSpec.version).getD "<missing>")

structure GateResult where
  allowed : Bool
  reason : Option String := none
  requiresHumanApproval : Bool := false

/-- `_BOUNDARY_RANK[rule.mode]` -/
def TriggerMode.rank : TriggerMode → ℕ
  | .artifactOnly => 0
  | .proposal => 1
  | .write => 2

/-- `_BOUNDARY_RANK.get(ev_boundary, 0)`; a dictionary cannot be looked up. -/
def boundaryRank : CheckDetail → Except String ℕ
  | .number _ => .ok 0
  | .text s => .ok (if s = "proposal" then 1 else if s = "write" then 2 else 0)
  | .statuses _ | .passRates _ => .error "unhashable type: 'dict'"

def canEnableTrigger (rule : EventTriggerRule) (evidence : Option PromotionEvidence)
    (current : Dict String String) (policyVersion : String) : Except String GateResult := do
  let some e := evidence | return ⟨false, some "no_eval_evidence", false⟩
  if !truthy rule.evalEvidenceRef then return ⟨false, some "no_eval_evidence", false⟩
  let gate := check policyVersion e current
  if !gate.approved then
    return ⟨false, some (if .evidenceStale ∈ gate.blockingIssueCodes then "stale_evidence"
      else "checks_failed"), false⟩
  let changed := (e.checkDetails.get? "event_schema_version").any
    (· ≠ .number rule.eventSchemaVersion)
  if changed then return ⟨false, some "event_schema_changed", false⟩
  let rank ← boundaryRank ((e.checkDetails.get? "action_boundary").getD (.text "artifact_only"))
  if rule.mode.rank > rank then return ⟨false, some "action_boundary_exceeded", false⟩
  return ⟨true, none, rule.mode = .write⟩

/-! ## What the gates are to say -/

section Law

variable (p : PromotionInput) (gateVersion : String)

/-- The target and its dependencies. -/
def PromotionInput.refs : List PinnedRef := p.targetRef :: p.dependencyEdges.map (·.dependency)

/-- There is a run, and all pass, under the policy of the gate. -/
def ChecksPass : Prop :=
  p.evalRuns ≠ [] ∧ (∀ run ∈ p.evalRuns, run.passed p.passRateThreshold = true) ∧
    p.policyVersion = gateVersion

/-- Each spec has the hash that is recorded for it. -/
def AllCurrent (current : Dict String String) : Prop :=
  ∀ ref ∈ p.refs, current.get? ref.specId = some ref.definitionHash

/-- A rule with evidence for the agent that it pins, of which nothing changed in the registry. -/
structure Unchanged (rule : EventTriggerRule)
    (registry : String → String → String → Option String) : Prop where
  pinned : p.targetRef = ⟨"agent", rule.agentSpec.id, rule.agentSpec.version,
    rule.agentSpec.definitionHash⟩
  evidence : truthy rule.evalEvidenceRef = true
  registered : ∀ ref ∈ p.refs,
    registry ref.specKind ref.specId ref.specVersion = some ref.definitionHash

structure PromotionLaw (current : Dict String String) (rule : EventTriggerRule)
    (registry : String → String → String → Option String) : Prop where
  gate : (check gateVersion (buildPromotionEvidence p) current).approved = true ↔
    ChecksPass p gateVersion ∧ AllCurrent p current
  trigger : ChecksPass p gateVersion → Unchanged p rule registry →
    ∃ result, canEnableTrigger rule (some (buildPromotionEvidence p))
      (currentFingerprints registry rule) gateVersion = .ok result ∧ result.allowed = true

/-- The hash with which a spec is listed last. -/
def PromotionInput.lastHash (specId : String) : Option String :=
  (p.refs.reverse.find? (·.specId = specId)).map (·.definitionHash)

/-- No spec id is listed with two hashes. -/
def SingleHashed : Prop :=
  ∀ ref ∈ p.refs, ∀ ref' ∈ p.refs, ref.specId = ref'.specId →
    ref.definitionHash = ref'.definitionHash

/-- Each spec has the hash with which it is listed last. -/
def LastCurrent (current : Dict String String) : Prop :=
  ∀ ref ∈ p.refs, current.get? ref.specId = p.lastHash ref.specId

end Law

section

variable {p : PromotionInput} {gateVersion : String} {current : Dict String String}
  {rule : EventTriggerRule} {registry : String → String → String → Option String}

theorem lookup_refs (rs : List PinnedRef) (k : String) :
    Dict.lookup (rs.map fun ref => (ref.specId, ref.definitionHash)) k =
      (rs.find? (·.specId = k)).map (·.definitionHash) := by
  induction rs with
  | nil => rfl
  | cons ref _ ih =>
    rw [List.map_cons, Dict.lookup, List.find?_cons]
    by_cases hk : ref.specId = k
    · simp [hk]
    · simpa [hk] using ih

theorem get?_observedFingerprints (k : String) :
    (buildPromotionEvidence p).observedFingerprints.get? k = p.lastHash k := by
  have hall : (buildPromotionEvidence p).observedFingerprints = (∅ : Dict String String).update
      (p.refs.map fun ref => (ref.specId, ref.definitionHash)) := by
    simp [buildPromotionEvidence, PromotionInput.refs, Dict.update, List.foldl_map]
  rw [hall, Dict.get?_update, Dict.get?_empty, Option.or_none, ← List.map_reverse, lookup_refs]
  rfl

theorem lastHash_eq_some {k hash : String} (h : p.lastHash k = some hash) :
    ∃ ref ∈ p.refs, ref.specId = k ∧ ref.definitionHash = hash := by
  obtain ⟨ref, hfind, hhash⟩ := Option.map_eq_some_iff.mp h
  have hk := List.find?_some hfind
  rw [decide_eq_true_eq] at hk
  exact ⟨ref, List.mem_reverse.mp (List.mem_of_find?_eq_some hfind), hk, hhash⟩

theorem lastHash_of_mem {ref : PinnedRef} (h : ref ∈ p.refs) :
    ∃ hash, p.lastHash ref.specId = some hash := by
  unfold PromotionInput.lastHash
  cases hfind : p.refs.reverse.find? (·.specId = ref.specId) with
  | none =>
    have hnone := List.find?_eq_none.mp hfind ref (List.mem_reverse.mpr h)
    exact absurd (decide_eq_true rfl) hnone
  | some => exact ⟨_, rfl⟩

theorem isStale_eq_false :
    (buildPromotionEvidence p).isStale current = false ↔ LastCurrent p current := by
  simp only [PromotionEvidence.isStale, List.any_eq_false, decide_eq_true_eq, not_not, Prod.forall,
    ← Dict.get?_eq_some, get?_observedFingerprints]
  constructor
  · intro h ref href
    obtain ⟨hash, hlast⟩ := lastHash_of_mem href
    rw [h _ _ hlast, hlast]
  · intro h k hash hlast
    obtain ⟨ref, href, rfl, -⟩ := lastHash_eq_some hlast
    rw [h ref href, hlast]

theorem approved_iff : (check gateVersion (buildPromotionEvidence p) current).approved = true ↔
    ChecksPass p gateVersion ∧ LastCurrent p current := by
  rw [← isStale_eq_false]
  generalize hstale : PromotionEvidence.isStale _ current = stale
  simp only [check, promotionIssues, hstale, ChecksPass]
  by_cases hversion : p.policyVersion = gateVersion <;> by_cases hruns : p.evalRuns = [] <;>
    cases stale <;> simp [buildPromotionEvidence, hversion, hruns]

theorem lastCurrent_of_allCurrent (h : AllCurrent p current) : LastCurrent p current := by
  intro ref href
  obtain ⟨hash, hlast⟩ := lastHash_of_mem href
  obtain ⟨ref', href', hid, rfl⟩ := lastHash_eq_some hlast
  rw [hlast, ← hid, h ref' href']

theorem allCurrent_iff (h : LastCurrent p current) : AllCurrent p current ↔ SingleHashed p := by
  constructor
  · intro hall ref href ref' href' hid
    have hsame := (hall ref href).symm.trans (hid ▸ hall ref' href')
    exact Option.some.inj hsame
  · intro hsingle ref href
    obtain ⟨hash, hlast⟩ := lastHash_of_mem href
    obtain ⟨ref', href', hid, rfl⟩ := lastHash_eq_some hlast
    rw [h ref href, hlast, hsingle ref' href' ref href hid]

/-- The evidence has no action boundary, so that only an artifact is let through. -/
theorem canEnableTrigger_iff :
    (∃ result, canEnableTrigger rule (some (buildPromotionEvidence p)) current gateVersion =
      .ok result ∧ result.allowed = true) ↔
    truthy rule.evalEvidenceRef = true ∧
      (check gateVersion (buildPromotionEvidence p) current).approved = true ∧
      rule.mode = .artifactOnly := by
  have hschema : (buildPromotionEvidence p).checkDetails.get? "event_schema_version" = none := by
    simp [buildPromotionEvidence, Dict.get?_update, Dict.lookup]
  have hboundary : (buildPromotionEvidence p).checkDetails.get? "action_boundary" = none := by
    simp [buildPromotionEvidence, Dict.get?_update, Dict.lookup]
  cases href : truthy rule.evalEvidenceRef with
  | false => simp [canEnableTrigger, href, pure, Except.pure]
  | true =>
    cases happroved : (check gateVersion (buildPromotionEvidence p) current).approved with
    | false => simp [canEnableTrigger, href, happroved, pure, Except.pure]
    | true =>
      cases hmode : rule.mode <;>
        simp [canEnableTrigger, href, happroved, hschema, hboundary, hmode, boundaryRank,
          TriggerMode.rank, pure, Except.pure, bind, Except.bind]

theorem lastCurrent_currentFingerprints (h : Unchanged p rule registry) :
    LastCurrent p (currentFingerprints registry rule) ↔
      (∀ ref ∈ p.refs, ref.specId = p.targetRef.specId) ∧
        p.lastHash p.targetRef.specId = some p.targetRef.definitionHash := by
  have htarget : p.targetRef ∈ p.refs := List.mem_cons_self
  have hagent := h.registered p.targetRef htarget
  have hcurrent : ∀ k, (currentFingerprints registry rule).get? k =
      if p.targetRef.specId = k then some p.targetRef.definitionHash else none := by
    intro k
    rw [h.pinned] at hagent ⊢
    simp [currentFingerprints, Dict.get?_set, hagent]
  constructor
  · intro hlast
    have hself := hlast p.targetRef htarget
    rw [hcurrent, if_pos rfl] at hself
    refine ⟨fun ref href => ?_, hself.symm⟩
    obtain ⟨hash, hsome⟩ := lastHash_of_mem href
    have hthere := hlast ref href
    rw [hcurrent, hsome] at hthere
    split_ifs at hthere with hid
    exact hid.symm
  · rintro ⟨hids, hself⟩ ref href
    rw [hids ref href, hcurrent, if_pos rfl, hself]

end

/-- The law, exactly if a spec listed with two hashes has another reason to be refused, and what
passes is for an artifact whose evidence names no other spec. -/
theorem promotionLaw_iff (p : PromotionInput) (gateVersion : String)
    (current : Dict String String) (rule : EventTriggerRule)
    (registry : String → String → String → Option String) :
    PromotionLaw p gateVersion current rule registry ↔
    (ChecksPass p gateVersion → LastCurrent p current → SingleHashed p) ∧
    (ChecksPass p gateVersion → Unchanged p rule registry →
      rule.mode = .artifactOnly ∧ (∀ ref ∈ p.refs, ref.specId = p.targetRef.specId) ∧
        p.lastHash p.targetRef.specId = some p.targetRef.definitionHash) := by
  constructor
  · rintro ⟨hgate, htrigger⟩
    constructor
    · intro hpass hlast
      exact (allCurrent_iff hlast).mp (hgate.mp (approved_iff.mpr ⟨hpass, hlast⟩)).2
    · intro hpass hsame
      obtain ⟨-, happroved, hmode⟩ := canEnableTrigger_iff.mp (htrigger hpass hsame)
      exact ⟨hmode, (lastCurrent_currentFingerprints hsame).mp (approved_iff.mp happroved).2⟩
  · rintro ⟨hsingle, hown⟩
    constructor
    · rw [approved_iff]
      constructor
      · rintro ⟨hpass, hlast⟩
        exact ⟨hpass, (allCurrent_iff hlast).mpr (hsingle hpass hlast)⟩
      · exact fun h => ⟨h.1, lastCurrent_of_allCurrent h.2⟩
    · intro hpass hsame
      obtain ⟨hmode, hids⟩ := hown hpass hsame
      exact canEnableTrigger_iff.mpr ⟨hsame.evidence,
        approved_iff.mpr ⟨hpass, (lastCurrent_currentFingerprints hsame).mpr hids⟩, hmode⟩

/-- The agent uses a skill in two versions, and the map has the hash of the second. -/
theorem not_promotionLaw_diamond :
    ¬PromotionLaw
      { targetRef := ⟨"agent", "cosa.agent", "1", "a"⟩
        dependencyEdges := [⟨⟨"skill", "s", "1", "old"⟩⟩, ⟨⟨"skill", "s", "2", "new"⟩⟩]
        evalRuns := [{ runId := "run", status := "completed", passRate := some 1 }]
        policyVersion := "p1"
        passRateThreshold := 1 / 2
        evidenceId := "ev" } "p1"
      ((∅ : Dict String String).update [("cosa.agent", "a"), ("s", "new")])
      { agentSpec := ⟨"cosa.agent", "1", "a"⟩, mode := .artifactOnly, evalEvidenceRef := some "ev" }
      fun _ _ _ => none := by
  intro h
  have hcurrent := (h.gate.mp (by decide +kernel)).2 ⟨"skill", "s", "1", "old"⟩ (by decide)
  exact absurd hcurrent (by decide +kernel)

end JavisSaas.Agent.Evals
