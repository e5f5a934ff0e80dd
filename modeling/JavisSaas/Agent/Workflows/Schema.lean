import JavisSaas.Lib.CycleSearch
import JavisSaas.Lib.Dict

/-!
# Workflow specifications

`packages/agent/workflows/schema.py`: the declared steps of a workflow, and
`WorkflowSpec._validate_dag`.

* `validateDag_eq_ok`: what the validator accepts.
* `exists_ready`: while forward steps are open, one has all its dependencies among the closed ones.
-/

namespace JavisSaas.Agent.Workflows

open JavisSaas.Lib

inductive StepType where
  | toolCall
  | agent
  | deterministic
  | approvalGate
  | parallel
  | retry
  | compensating
  | router
  deriving DecidableEq

structure WorkflowStepSpec (V : Type) where
  id : String
  name : Option String := none
  type : StepType := .toolCall
  tool : Option String := none
  inputs : Dict String V := ∅
  dependsOn : List String := []
  onFailure : Option String := none
  compensateWith : Option String := none
  outputKey : Option String := none
  action : Option String := none
  subjectKey : Option String := none
  projectAgentDeploymentId : Option String := none
  metadata : Dict String V := ∅

/-- The fields of a `WorkflowSpec` before validation. -/
structure SpecFields (V : Type) where
  id : String
  name : String := ""
  version : String := "1.0.0"
  steps : List (WorkflowStepSpec V) := []
  definitionHash : Option String := none

/-- A list of texts as `str` prints it, if they hold no quotes, backslashes and control characters. -/
def listText (texts : List String) : String :=
  "[" ++ ", ".intercalate (texts.map fun text => s!"'{text}'") ++ "]"

/-- The `ValueError`s of `_validate_dag`. -/
inductive SpecError where
  | noSteps
  | agentUnpinned (step : String)
  | duplicateIds (duplicates : List String)
  | noForwardSteps
  | unknownDependency (step dep : String)
  | unknownOnFailure (step target : String)
  | unknownCompensateWith (step target : String)
  | cycle (step : String)
  | dependsOnCompensation (step dep : String)
  deriving DecidableEq

def SpecError.message : SpecError → String
  | noSteps => "WorkflowSpec has no steps"
  | agentUnpinned step => s!"step '{step}' of type AGENT requires project_agent_deployment_id pin"
  | duplicateIds duplicates => s!"duplicate step id(s) in WorkflowSpec: {listText duplicates}"
  | noForwardSteps => "WorkflowSpec has no forward steps: every step is a compensation target"
  | unknownDependency step dep => s!"step '{step}' depends_on unknown step '{dep}'"
  | unknownOnFailure step target => s!"step '{step}' on_failure targets unknown step '{target}'"
  | unknownCompensateWith step target =>
    s!"step '{step}' compensate_with targets unknown step '{target}'"
  | cycle step => s!"dependency cycle detected in WorkflowSpec involving step '{step}'"
  | dependsOnCompensation step dep =>
    s!"step '{step}' depends_on '{dep}', which is a compensation target and never runs as a forward step"

variable {V : Type}

namespace SpecFields

def stepIds (spec : SpecFields V) : List String := spec.steps.map (·.id)

def getStep (spec : SpecFields V) (stepId : String) : Option (WorkflowStepSpec V) :=
  spec.steps.find? (·.id = stepId)

/-- `{s.on_failure for s in steps if s.on_failure}`, as a list. -/
def compensationTargets (spec : SpecFields V) : List String :=
  spec.steps.filterMap fun s => s.onFailure.filter truthy

def forwardSteps (spec : SpecFields V) : List (WorkflowStepSpec V) :=
  spec.steps.filter (·.id ∉ spec.compensationTargets)

def forwardIds (spec : SpecFields V) : List String := spec.forwardSteps.map (·.id)

/-- `graph.get(node, [])`. -/
def graph (spec : SpecFields V) (node : String) : List String :=
  (spec.getStep node).elim [] (·.dependsOn)

end SpecFields

/-- The deployment an agent step is pinned to, in one of its three places. -/
def WorkflowStepSpec.pinned [Truthy V] (step : WorkflowStepSpec V) : Bool :=
  truthy step.projectAgentDeploymentId
    || truthy (step.inputs.get? "project_agent_deployment_id")
    || truthy (step.metadata.get? "project_agent_deployment_id")

/-- The references of one step to others. -/
def checkReferences (ids : List String) (step : WorkflowStepSpec V) : Except SpecError Unit := do
  forM step.dependsOn fun dep => require (dep ∈ ids) (.unknownDependency step.id dep)
  require (∀ target ∈ step.onFailure, target ∈ ids)
    (.unknownOnFailure step.id (step.onFailure.getD ""))
  require (∀ target ∈ step.compensateWith, target ∈ ids)
    (.unknownCompensateWith step.id (step.compensateWith.getD ""))

/-- Python's order of a set is here that of the steps; it only decides which step of a cycle is
named. -/
def checkAcyclic (spec : SpecFields V) : Except SpecError Unit :=
  match cycleSearch spec.graph spec.stepIds with
  | .ok _ => .ok ()
  | .error path => .error (.cycle (path.headD ""))

def validateDag [Truthy V] (spec : SpecFields V) : Except SpecError Unit := do
  require (spec.steps ≠ []) .noSteps
  forM spec.steps fun step => require (step.type = .agent → step.pinned) (.agentUnpinned step.id)
  require spec.stepIds.Nodup
    (.duplicateIds ((spec.stepIds.filter (spec.stepIds.count · > 1)).dedup.mergeSort (· ≤ ·)))
  require (spec.forwardSteps ≠ []) .noForwardSteps
  forM spec.steps (checkReferences spec.stepIds)
  checkAcyclic spec
  forM spec.steps fun step =>
    if step.id ∈ spec.compensationTargets then .ok ()
    else forM step.dependsOn fun dep =>
      require (dep ∉ spec.compensationTargets) (.dependsOnCompensation step.id dep)

/-- A `WorkflowSpec`: its fields have passed the model validator. -/
structure WorkflowSpec (V : Type) [Truthy V] extends SpecFields V where
  valid : validateDag toSpecFields = .ok ()

/-! ## What the validator accepts -/

structure WellFormed [Truthy V] (spec : SpecFields V) : Prop where
  pinned : ∀ step ∈ spec.steps, step.type = .agent → step.pinned
  nodup : spec.stepIds.Nodup
  forward : spec.forwardSteps ≠ []
  dependsOn : ∀ step ∈ spec.steps, ∀ dep ∈ step.dependsOn, dep ∈ spec.stepIds
  onFailure : ∀ step ∈ spec.steps, ∀ target ∈ step.onFailure, target ∈ spec.stepIds
  compensateWith : ∀ step ∈ spec.steps, ∀ target ∈ step.compensateWith, target ∈ spec.stepIds
  acyclic : ∀ id ∈ spec.stepIds, Acc (DepOf spec.graph) id
  forwardDeps : ∀ step ∈ spec.forwardSteps, ∀ dep ∈ step.dependsOn,
    dep ∉ spec.compensationTargets

variable {step : WorkflowStepSpec V} {spec : SpecFields V}

theorem checkReferences_eq_ok {ids : List String} :
    checkReferences ids step = .ok () ↔
      (∀ dep ∈ step.dependsOn, dep ∈ ids) ∧ (∀ target ∈ step.onFailure, target ∈ ids) ∧
        ∀ target ∈ step.compensateWith, target ∈ ids := by
  simp only [checkReferences, check_bind_eq_ok, forM_eq_ok, require_eq_ok]

theorem notMem_targets_of_forward {id : String} (h : id ∈ spec.forwardIds) :
    id ∉ spec.compensationTargets := by
  obtain ⟨s, hs, rfl⟩ := List.mem_map.mp h
  exact of_decide_eq_true (List.mem_filter.mp hs).2

theorem getStep_eq_some {spec : SpecFields V} (hnodup : spec.stepIds.Nodup)
    {step : WorkflowStepSpec V} (hstep : step ∈ spec.steps) : spec.getStep step.id = some step := by
  obtain ⟨l, r, hsteps⟩ := List.append_of_mem hstep
  unfold SpecFields.getStep
  unfold SpecFields.stepIds at hnodup
  rw [hsteps, List.map_append, List.nodup_append] at hnodup
  rw [hsteps, List.find?_append, List.find?_eq_none.mpr, Option.none_or, List.find?_cons_of_pos]
  · simp
  · intro s hs heq
    have hne := hnodup.2.2 s.id (List.mem_map_of_mem hs) step.id (by simp)
    exact hne (of_decide_eq_true heq)

theorem graph_eq {spec : SpecFields V} (hnodup : spec.stepIds.Nodup) {step : WorkflowStepSpec V}
    (hstep : step ∈ spec.steps) : spec.graph step.id = step.dependsOn := by
  unfold SpecFields.graph
  rw [getStep_eq_some hnodup hstep]
  rfl

/-- Once ids are unique and declared, exactly the well-founded dependencies are accepted. -/
theorem checkAcyclic_eq_ok (hnodup : spec.stepIds.Nodup)
    (hdeps : ∀ step ∈ spec.steps, ∀ dep ∈ step.dependsOn, dep ∈ spec.stepIds) :
    checkAcyclic spec = .ok () ↔ ∀ id ∈ spec.stepIds, Acc (DepOf spec.graph) id := by
  have hclosed : ∀ x ∈ spec.stepIds, ∀ d ∈ spec.graph x, d ∈ spec.stepIds := by
    intro x hx d hd
    obtain ⟨step, hstep, rfl⟩ := List.mem_map.mp hx
    rw [graph_eq hnodup hstep] at hd
    exact hdeps step hstep d hd
  rw [← cycleSearch_isOk_iff hclosed]
  unfold checkAcyclic
  cases h : cycleSearch spec.graph spec.stepIds with
  | ok | error => simp

theorem validateDag_eq_ok [Truthy V] : validateDag spec = .ok () ↔ WellFormed spec := by
  simp only [validateDag, check_bind_eq_ok, forM_eq_ok, require_eq_ok, checkReferences_eq_ok]
  constructor
  · rintro ⟨-, hpin, hnodup, hforward, href, hacyc, hcomp⟩
    have hdeps : ∀ step ∈ spec.steps, ∀ dep ∈ step.dependsOn, dep ∈ spec.stepIds :=
      fun step hs => (href step hs).1
    refine ⟨hpin, hnodup, hforward, hdeps, fun step hs => (href step hs).2.1,
      fun step hs => (href step hs).2.2, (checkAcyclic_eq_ok hnodup hdeps).mp hacyc, ?_⟩
    intro step hstep dep hdep
    obtain ⟨hs, hnot⟩ := List.mem_filter.mp hstep
    have h := hcomp step hs
    rw [if_neg (of_decide_eq_true hnot), forM_eq_ok] at h
    exact require_eq_ok.mp (h dep hdep)
  · intro h
    refine ⟨?_, h.pinned, h.nodup, h.forward,
      fun step hs => ⟨h.dependsOn step hs, h.onFailure step hs, h.compensateWith step hs⟩,
      (checkAcyclic_eq_ok h.nodup h.dependsOn).mpr h.acyclic, ?_⟩
    · intro hnil
      apply h.forward
      unfold SpecFields.forwardSteps
      rw [hnil]
      rfl
    · intro step hs
      split_ifs with hc
      · rfl
      · rw [forM_eq_ok]
        intro dep hdep
        have hf : step ∈ spec.forwardSteps := List.mem_filter.mpr ⟨hs, decide_eq_true hc⟩
        exact require_eq_ok.mpr (h.forwardDeps step hf dep hdep)

theorem WorkflowSpec.wellFormed [Truthy V] (spec : WorkflowSpec V) :
    WellFormed spec.toSpecFields :=
  validateDag_eq_ok.mp spec.valid

/-- While some forward step is open, one whose dependencies are all closed is. -/
theorem WellFormed.exists_ready [Truthy V] (h : WellFormed spec) (closed : String → Prop)
    (hstep : step ∈ spec.forwardSteps) (hopen : ¬closed step.id) :
    ∃ s ∈ spec.forwardSteps, ¬closed s.id ∧ ∀ dep ∈ s.dependsOn, closed dep := by
  have hid : step.id ∈ spec.stepIds := List.mem_map_of_mem (List.mem_filter.mp hstep).1
  -- by induction along the dependencies, which lead from a forward step to forward steps
  have hmain : ∀ id, Acc (DepOf spec.graph) id → ∀ s ∈ spec.forwardSteps, s.id = id →
      ¬closed s.id → ∃ s ∈ spec.forwardSteps, ¬closed s.id ∧ ∀ dep ∈ s.dependsOn, closed dep := by
    intro id hacc
    induction hacc with
    | intro _ _ ih =>
      rintro s hs rfl hopen
      by_cases hall : ∀ dep ∈ s.dependsOn, closed dep
      · exact ⟨s, hs, hopen, hall⟩
      · push Not at hall
        obtain ⟨dep, hdep, hdepOpen⟩ := hall
        have hs' : s ∈ spec.steps := (List.mem_filter.mp hs).1
        obtain ⟨t, ht, rfl⟩ := List.mem_map.mp (h.dependsOn s hs' dep hdep)
        have htf : t ∈ spec.forwardSteps :=
          List.mem_filter.mpr ⟨ht, decide_eq_true (h.forwardDeps s hs t.id hdep)⟩
        refine ih t.id ?_ t htf rfl hdepOpen
        show t.id ∈ spec.graph s.id
        rw [graph_eq h.nodup hs']
        exact hdep
  exact hmain step.id (h.acyclic step.id hid) step hstep rfl hopen

end JavisSaas.Agent.Workflows
