import JavisSaas.Lib.Transition
import JavisSaas.Agent.Workflows.Schema
import JavisSaas.Agent.Workflows.Steps

/-!
# The workflow engine

`packages/agent/workflows/engine.py` (`execute_spec`, `resume_spec`, `_execute_dag`) as a labelled
transition system. A call runs up to the next `asyncio.gather`; what the gathered steps are answered
is the label of a `wave`.

* `buildStep`: what a step specification is compiled to.
* `loopHead`, `foldWave`, `resumeSpec`: the pieces of a call between two waves.
* `next_wave_cases`, `next_resume_cases`: what a step of a run can do.
-/

namespace JavisSaas.Agent.Workflows

open JavisSaas.Lib
open WorkflowStatus (allowed completed failed waitingApproval)

/-! ## Compiling a specification -/

inductive BuildError where
  | gatewayRequired (step : String)
  | unsupported (step reason : String)

/-- What `build_steps_from_spec` reads; `buildOther` compiles the other step types. -/
structure WorkflowEngine (V O : Type) where
  hasGateway : Bool := true
  hasPolicyEngine : Bool := false
  resolver : Option (V → Manifest V) := none
  resolveInputs : WorkflowStepSpec V → Dict String V → Dict String V
  customStepBuilders : String → Option (WorkflowStepSpec V → WorkflowStep (Answers V O) V) :=
    fun _ => none
  buildOther : WorkflowStepSpec V → Except BuildError (WorkflowStep (Answers V O) V) :=
    fun s => .error (.unsupported s.id "")

section Build

variable {V O : Type} [PyValue V] [DecidableEq V] (engine : WorkflowEngine V O)

def WorkflowStepSpec.stepName (s : WorkflowStepSpec V) : String := (s.name.filter truthy).getD s.id

/-- The tool step that a `TOOL_CALL` specification is compiled to. -/
def WorkflowEngine.toolStep (s : WorkflowStepSpec V) : GatewayToolCallStep V where
  name := s.stepName
  toolName := (s.tool.filter truthy).getD s.id
  resolveInputs := engine.resolveInputs s
  outputKey := (s.outputKey.filter truthy).getD s.stepName
  resolver := engine.resolver

/-- The gate that an `APPROVAL_GATE` specification is compiled to. -/
def WorkflowEngine.gateStep (s : WorkflowStepSpec V) : ApprovalGateStep V where
  name := s.stepName
  action := (s.action.filter truthy).getD s.stepName
  subjectKey := (s.subjectKey.filter truthy).getD "subject"
  hasPolicyEngine := engine.hasPolicyEngine
  resolver := engine.resolver

def WorkflowEngine.buildStep (s : WorkflowStepSpec V) :
    Except BuildError (WorkflowStep (Answers V O) V) :=
  match engine.customStepBuilders s.id with
  | some builder => .ok (builder s)
  | none =>
    match s.type with
    | .toolCall =>
      if engine.hasGateway then .ok (engine.toolStep s).step
      else .error (.gatewayRequired s.stepName)
    | .approvalGate => .ok (engine.gateStep s).step
    | _ => engine.buildOther s

def WorkflowEngine.buildStepsFromSpec (spec : SpecFields V) :
    Except BuildError (List (WorkflowStep (Answers V O) V)) :=
  spec.steps.mapM engine.buildStep

end Build

/-! ## Executions and engine states -/

/-- One execution of a step: the state it was given, what it was answered and
    its outcome. -/
structure Execution (A V : Type) where
  stepId : String
  given : Dict String V
  answer : A
  outcome : StepOutcome V

/-- The last call has returned, or stands at the `gather` of the `ready` steps. -/
inductive Phase where
  | returned
  | gathering (completedSet failedSet ready : List String)
  deriving DecidableEq

/-- The workflow; the executions, the pauses, and the gates completed by `resume_spec`. -/
structure EngineState (A V : Type) where
  workflow : Workflow V
  phase : Phase
  log : List (Execution A V) := []
  pauses : List String := []
  resumes : List (Option String) := []

inductive EngineLabel (A : Type) where
  /-- The answers to the gathered steps, and to a compensation step. -/
  | wave (answers : List A) (compensation : A)
  /-- `resume_spec`, and the answer to a `check_pending`. -/
  | resume (answer : A)

inductive Verdict where
  | merged
  | paused (stepId : String)
  | failed

/-- What the loop over the results of a wave leaves behind. -/
structure Folded (A V : Type) where
  workflow : Workflow V
  completedSet : List String
  failedSet : List String
  verdict : Verdict
  compensations : List (Execution A V) := []

section Dag

variable {A V : Type}

namespace Workflow

/-- The merge of a completed step into the workflow. -/
def complete (w : Workflow V) (stepId : String) (updates : Dict String V) : Workflow V :=
  let state := w.state.update updates.items
  { w with
    state := state
    completedSteps := w.completedSteps ++ [stepId]
    checkpoints := w.checkpoints.set stepId state }

def record (w : Workflow V) (stepId : String) (outcome : StepOutcome V) : Workflow V :=
  { w with stepOutcomes := w.stepOutcomes.set stepId outcome }

/-- The merge of the completed results of a wave. -/
def mergeAll (w : Workflow V) (done : List (Execution A V)) : Workflow V :=
  done.foldl (fun w x => (w.record x.stepId x.outcome).complete x.stepId x.outcome.updates) w

@[simp] theorem mergeAll_nil (w : Workflow V) : w.mergeAll ([] : List (Execution A V)) = w := rfl

theorem mergeAll_cons (w : Workflow V) (x : Execution A V) (done : List (Execution A V)) :
    w.mergeAll (x :: done) =
      ((w.record x.stepId x.outcome).complete x.stepId x.outcome.updates).mergeAll done := rfl

@[simp] theorem mergeAll_status (w : Workflow V) (done : List (Execution A V)) :
    (w.mergeAll done).status = w.status := by
  induction done generalizing w with
  | nil => rfl
  | cons _ _ ih => rw [mergeAll_cons, ih]; rfl

@[simp] theorem mergeAll_completedSteps (w : Workflow V) (done : List (Execution A V)) :
    (w.mergeAll done).completedSteps = w.completedSteps ++ done.map (·.stepId) := by
  induction done generalizing w with
  | nil => simp
  | cons x done ih =>
    rw [mergeAll_cons, ih, List.map_cons]
    show (w.completedSteps ++ [x.stepId]) ++ done.map (·.stepId) = _
    rw [List.append_assoc, List.singleton_append]

theorem stepOutcomes_mergeAll_of_notMem (w : Workflow V) {done : List (Execution A V)}
    {id : String} (h : id ∉ done.map (·.stepId)) :
    (w.mergeAll done).stepOutcomes.get? id = w.stepOutcomes.get? id := by
  induction done generalizing w with
  | nil => rfl
  | cons _ _ ih =>
    rw [List.map_cons, List.mem_cons, not_or] at h
    rw [mergeAll_cons, ih _ h.2]
    exact Dict.get?_set_of_ne _ (Ne.symm h.1) _

theorem stepOutcomes_mergeAll_of_mem (w : Workflow V) {done : List (Execution A V)}
    (hnodup : (done.map (·.stepId)).Nodup) {x : Execution A V} (hx : x ∈ done) :
    (w.mergeAll done).stepOutcomes.get? x.stepId = some x.outcome := by
  induction done generalizing w with
  | nil => exact absurd hx List.not_mem_nil
  | cons _ _ ih =>
    rw [List.map_cons, List.nodup_cons] at hnodup
    rw [mergeAll_cons]
    rcases List.mem_cons.mp hx with rfl | hx
    · rw [stepOutcomes_mergeAll_of_notMem _ hnodup.1]
      exact Dict.get?_set_self _ _ _
    · exact ih _ hnodup.2 hx

end Workflow

variable [PyValue V]

variable (spec : WorkflowSpec V) (steps : String → Option (WorkflowStep A V))

def readyStepIds (completedSet failedSet : List String) : List String :=
  (spec.forwardSteps.filter fun s => s.id ∉ completedSet ∧ s.id ∉ failedSet ∧
    ∀ dep ∈ s.dependsOn, dep ∈ completedSet).map (·.id)

/-- A call that ends in `FAILED` with an error of the engine. -/
def failWith (w : Workflow V) (step : Option String) (error : String) :
    Option (Workflow V × Phase) :=
  ({ w with failedStepName := step, error := some error }.transition .failed).map (·, .returned)

/-- After the loop of `_execute_dag`. -/
def exitLoop (w : Workflow V) (completedSet : List String) : Option (Workflow V × Phase) :=
  if w.status = .running then
    match (spec.forwardSteps.filter (·.id ∉ completedSet)).map (·.id) with
    | id :: ids =>
      failWith w (some id) s!"workflow reached exit with incomplete forward step(s): {listText (id :: ids)}"
    | [] => (w.transition .completed).map (·, .returned)
  else some (w, .returned)

/-- The head of the loop of `_execute_dag`, up to the `gather`. -/
def loopHead (w : Workflow V) (completedSet failedSet : List String) :
    Option (Workflow V × Phase) :=
  if (spec.forwardSteps.filter (·.id ∈ completedSet)).length < spec.forwardSteps.length then
    match readyStepIds spec completedSet failedSet with
    | [] =>
      let stuck := (spec.forwardSteps.filter fun s => s.id ∉ completedSet ∧ s.id ∉ failedSet).map
        (·.id)
      failWith w stuck.head?
        s!"workflow DAG stuck: {stuck.length} step(s) can never become ready (cycle or dangling dependency bypassed schema validation): {listText stuck}"
    | ready => some (w, .gathering completedSet failedSet ready)
  else exitLoop spec w completedSet

/-- `_execute_dag`, up to its first `gather`. -/
def executeDag (w : Workflow V) : Option (Workflow V × Phase) :=
  if spec.forwardSteps = [] then
    failWith w w.failedStepName
      "workflow has no forward steps (empty spec or all-compensation spec bypassed schema validation)"
  else loopHead spec w w.completedSteps []

/-- `execute_spec`; `id` is the new workflow's uuid. -/
def executeSpec (id : String) (computeHash : SpecFields V → String) (initialState : Dict String V)
    (workflow : Option (Workflow V)) : Option (EngineState A V) := do
  let w ← match workflow with
    | none =>
      let name := (if truthy spec.name then spec.name else spec.id)
      ({ id := id, name := name, state := initialState } : Workflow V).transition .running
    | some w =>
      if w.status = .waitingApproval then
        (w.transition .running).map fun w => { w with pendingApprovalId := none }
      else some w
  let hash := (firstTruthy [spec.definitionHash, some (computeHash spec.toSpecFields),
    some spec.version]).getD "v1"
  let state := (w.state.set "_workflow_instance_id" (PyValue.ofStr w.id)).set
    "_workflow_definition_hash" (PyValue.ofStr hash)
  let (w, phase) ← executeDag spec { w with state := state }
  return { workflow := w, phase := phase }

/-- The `gather` of a wave: every step runs on a copy of the state of its own. -/
def gather (state : Dict String V) : List String → List A → Option (List (Execution A V))
  | [], [] => some []
  | stepId :: ids, answer :: answers =>
    let given := state.set "_workflow_step_id" (PyValue.ofStr stepId)
    match steps stepId, gather state ids answers with
    | some step, some results => some (⟨stepId, given, answer, (step.run given answer).1⟩ :: results)
    | _, _ => none
  | _, _ => none

/-- A failed step, and the step that its `on_failure` names, on the workflow's own state. -/
def failStep (w : Workflow V) (failed : Execution A V) (answer : A) :
    Workflow V × List (Execution A V) :=
  let w := { w with failedStepName := some failed.stepId, error := failed.outcome.error }
  match ((spec.getStep failed.stepId).bind (·.onFailure)).filter truthy with
  | none => (w, [])
  | some target =>
    match steps target with
    | none => (w, [])
    | some step =>
      let (outcome, state) := step.run w.state answer
      let entry : Execution A V := ⟨target, w.state, answer, outcome⟩
      let w := { w with state := state }.record target outcome
      if outcome.status = .completed then
        let w := w.complete target outcome.updates
        ({ w with state := w.state.set "_compensated_step" (PyValue.ofStr failed.stepId) }, [entry])
      else (w, [entry])

/-- The loop over `wave_results`; it breaks at a waiting and at a failed step. -/
def foldWave (compensation : A) : List (Execution A V) → Workflow V → List String → List String →
    Option (Folded A V)
  | [], w, completedSet, failedSet => some ⟨w, completedSet, failedSet, .merged, []⟩
  | x :: results, w, completedSet, failedSet =>
    let w := w.record x.stepId x.outcome
    match x.outcome.status with
    | .waitingApproval =>
      let w :=
        { w with
          pendingApprovalId := x.outcome.approvalId
          hadApprovalGate := true
          checkpoints := w.checkpoints.set x.stepId w.state }
      (w.transition .waitingApproval).map fun w =>
        ⟨w, completedSet, failedSet, .paused x.stepId, []⟩
    | .failed =>
      let (w, compensations) := failStep spec steps w x compensation
      some ⟨w, completedSet, failedSet ++ [x.stepId], .failed, compensations⟩
    | .completed =>
      foldWave compensation results (w.complete x.stepId x.outcome.updates)
        (completedSet ++ [x.stepId]) failedSet

/-- The first step, in the order of `step_outcomes`, whose stored outcome is waiting. -/
def pausedStepId (w : Workflow V) : Option String :=
  (w.stepOutcomes.items.find? (·.2.status = .waitingApproval)).map (·.1)

/-- The paused step, if it is an `ApprovalGateStep`, with its `check_pending`. -/
def pausedGate (w : Workflow V) :
    Option (String × (String → Dict String V → A → StepOutcome V)) :=
  ((pausedStepId w).filter truthy).bind fun id => (steps id).bind fun step =>
    step.checkPending.map (id, ·)

/-- `resume_spec`: the gate it completes, the workflow and the phase. -/
def resumeSpec (w : Workflow V) (answer : A) : Option (Option (Option String) × Workflow V × Phase) :=
  if w.status ≠ .waitingApproval then some (none, w, .returned)
  else
    let continue_ (gate : Option String) (w : Workflow V) := do
      let w ← w.transition .running
      let (w, phase) ← executeDag spec { w with pendingApprovalId := none }
      return (some gate, w, phase)
    match pausedGate steps w with
    | none => continue_ none w
    | some (id, checkPending) =>
      let outcome := checkPending (w.pendingApprovalId.getD "") w.state answer
      match outcome.status with
      | .waitingApproval => some (none, w, .returned)
      | .failed =>
        ({ w with failedStepName := some id, error := outcome.error }.transition .failed).map
          (none, ·, .returned)
      | .completed => continue_ (some id) (w.complete id outcome.updates)

/-- One step of a run. -/
def next (s : EngineState A V) : EngineLabel A → Option (EngineState A V)
  | .wave answers compensation =>
    match s.phase with
    | .returned => none
    | .gathering completedSet failedSet ready => do
      let results ← gather steps s.workflow.state ready answers
      let f ← foldWave spec steps compensation results s.workflow completedSet failedSet
      let log := s.log ++ results ++ f.compensations
      match f.verdict with
      | .paused stepId =>
        return { s with
          workflow := f.workflow, phase := .returned, log := log, pauses := s.pauses ++ [stepId] }
      | .failed =>
        let w ← f.workflow.transition .failed
        return { s with workflow := w, phase := .returned, log := log }
      | .merged =>
        let (w, phase) ← loopHead spec f.workflow f.completedSet f.failedSet
        return { s with workflow := w, phase := phase, log := log }
  | .resume answer =>
    match s.phase with
    | .gathering _ _ _ => none
    | .returned => do
      let (gate, w, phase) ← resumeSpec spec steps s.workflow answer
      return { s with workflow := w, phase := phase, resumes := s.resumes ++ gate.toList }

/-- The runs of `execute_spec` and `resume_spec` over compiled steps. -/
def workflowRuns : System (EngineState A V) (EngineLabel A) := ⟨next spec steps⟩

/-! ## What a wave does -/

variable {results : List (Execution A V)} {w : Workflow V} {completedSet : List String}
  {s : EngineState A V}

variable {steps : String → Option (WorkflowStep A V)}

theorem gather_eq_some {state : Dict String V}
    {ready : List String} {answers : List A} (h : gather steps state ready answers = some results) :
    results.map (·.stepId) = ready ∧ ∀ x ∈ results, ∃ step, steps x.stepId = some step ∧
      x.given = state.set "_workflow_step_id" (PyValue.ofStr x.stepId) ∧
      x.outcome = (step.run x.given x.answer).1 := by
  induction ready generalizing answers results with
  | nil =>
    cases answers with
    | nil =>
      obtain rfl : [] = results := by simpa [gather] using h
      simp
    | cons => simp [gather] at h
  | cons id ready ih =>
    cases answers with
    | nil => simp [gather] at h
    | cons _ answers =>
      rw [gather] at h
      cases hstep : steps id with
      | none => simp [hstep] at h
      | some step =>
        cases hrest : gather steps state ready answers with
        | none => simp [hstep, hrest] at h
        | some =>
          simp only [hstep, hrest, Option.some.injEq] at h
          subst h
          obtain ⟨hids, hall⟩ := ih hrest
          refine ⟨by rw [List.map_cons, hids], List.forall_mem_cons.mpr ⟨?_, hall⟩⟩
          exact ⟨step, hstep, rfl, rfl⟩

/-- Results are merged up to the first that is not completed, which decides; the rest is dropped. -/
inductive FoldCase (spec : WorkflowSpec V) (steps : String → Option (WorkflowStep A V))
    (compensation : A) (results : List (Execution A V)) (w : Workflow V)
    (completedSet failedSet : List String) : Folded A V → Prop where
  | merged (hdone : ∀ x ∈ results, x.outcome.status = .completed) :
    FoldCase spec steps compensation results w completedSet failedSet
      { workflow := w.mergeAll results, completedSet := completedSet ++ results.map (·.stepId),
        failedSet := failedSet, verdict := .merged }
  | paused (done rest : List (Execution A V)) (x : Execution A V)
    (hresults : results = done ++ x :: rest)
    (hdone : ∀ x ∈ done, x.outcome.status = .completed)
    (hx : x.outcome.status = .waitingApproval) :
    FoldCase spec steps compensation results w completedSet failedSet
      { workflow :=
          { (w.mergeAll done).record x.stepId x.outcome with
            pendingApprovalId := x.outcome.approvalId
            hadApprovalGate := true
            checkpoints := (w.mergeAll done).checkpoints.set x.stepId (w.mergeAll done).state
            status := .waitingApproval }
        completedSet := completedSet ++ done.map (·.stepId)
        failedSet := failedSet
        verdict := .paused x.stepId }
  | failed (done rest : List (Execution A V)) (x : Execution A V)
    (hresults : results = done ++ x :: rest)
    (hdone : ∀ x ∈ done, x.outcome.status = .completed) (hx : x.outcome.status = .failed)
    {w' : Workflow V} {compensations : List (Execution A V)}
    (hfail : failStep spec steps ((w.mergeAll done).record x.stepId x.outcome) x compensation =
      (w', compensations)) :
    FoldCase spec steps compensation results w completedSet failedSet
      { workflow := w', completedSet := completedSet ++ done.map (·.stepId),
        failedSet := failedSet ++ [x.stepId], verdict := .failed, compensations := compensations }

variable {spec : WorkflowSpec V}

theorem FoldCase.cons
    {compensation : A} {failedSet : List String} {f : Folded A V} {x : Execution A V}
    (hx : x.outcome.status = .completed) (h : FoldCase spec steps compensation results
      ((w.record x.stepId x.outcome).complete x.stepId x.outcome.updates)
      (completedSet ++ [x.stepId]) failedSet f) :
    FoldCase spec steps compensation (x :: results) w completedSet failedSet f := by
  have hset (done : List (Execution A V)) : (completedSet ++ [x.stepId]) ++ done.map (·.stepId) =
      completedSet ++ (x :: done).map (·.stepId) := by simp
  cases h with
  | merged hdone =>
    rw [hset, ← Workflow.mergeAll_cons]
    exact .merged (List.forall_mem_cons.mpr ⟨hx, hdone⟩)
  | paused done rest y hresults hdone hy =>
    rw [hset, ← Workflow.mergeAll_cons]
    exact .paused (x :: done) rest y (by rw [hresults]; rfl)
      (List.forall_mem_cons.mpr ⟨hx, hdone⟩) hy
  | failed done rest y hresults hdone hy hfail =>
    rw [hset]
    exact .failed (x :: done) rest y (by rw [hresults]; rfl)
      (List.forall_mem_cons.mpr ⟨hx, hdone⟩) hy hfail

theorem foldWave_cases (spec : WorkflowSpec V) (steps : String → Option (WorkflowStep A V))
    (compensation : A) (results : List (Execution A V)) (hw : w.status = .running)
    (completedSet failedSet : List String) :
    ∃ f, foldWave spec steps compensation results w completedSet failedSet = some f ∧
      FoldCase spec steps compensation results w completedSet failedSet f := by
  induction results generalizing w completedSet with
  | nil =>
    refine ⟨_, rfl, ?_⟩
    have hcase : FoldCase spec steps compensation [] w completedSet failedSet _ :=
      .merged (by simp)
    rwa [List.map_nil, List.append_nil, Workflow.mergeAll_nil] at hcase
  | cons x results ih =>
    rw [foldWave]
    dsimp only
    cases hx : x.outcome.status with
    | completed =>
      have hw' : ((w.record x.stepId x.outcome).complete x.stepId x.outcome.updates).status =
          .running := hw
      obtain ⟨f, hf, hcase⟩ := ih hw' (completedSet ++ [x.stepId])
      exact ⟨f, hf, hcase.cons hx⟩
    | waitingApproval =>
      have hcase : FoldCase spec steps compensation (x :: results) w completedSet failedSet _ :=
        .paused [] results x rfl (by simp) hx
      rw [List.map_nil, List.append_nil, Workflow.mergeAll_nil] at hcase
      refine ⟨_, ?_, hcase⟩
      have hallowed : waitingApproval ∈ w.status.allowed := by
        rw [hw]
        decide
      simp only [Workflow.transition, Workflow.record, hallowed, if_true, Option.map_some]
    | failed =>
      obtain ⟨w', compensations, hfail⟩ : ∃ w' compensations,
          failStep spec steps (w.record x.stepId x.outcome) x compensation = (w', compensations) :=
        ⟨_, _, rfl⟩
      have hcase : FoldCase spec steps compensation (x :: results) w completedSet failedSet _ :=
        .failed [] results x rfl (by simp) hx hfail
      rw [List.map_nil, List.append_nil] at hcase
      exact ⟨_, by rw [hfail], hcase⟩

theorem failStep_cases
    {w' : Workflow V} {x : Execution A V} {answer : A} {compensations : List (Execution A V)}
    (h : failStep spec steps w x answer = (w', compensations)) :
    w'.status = w.status ∧
      ((compensations = [] ∧ w'.completedSteps = w.completedSteps ∧
          w'.stepOutcomes = w.stepOutcomes) ∨
        ∃ entry, compensations = [entry] ∧ entry.stepId ∈ spec.compensationTargets ∧
          entry.answer = answer ∧ entry.given = w.state ∧
          (∃ step, steps entry.stepId = some step ∧
            entry.outcome = (step.run entry.given entry.answer).1) ∧
          w'.completedSteps = w.completedSteps ++
            (if entry.outcome.status = .completed then [entry.stepId] else []) ∧
          w'.stepOutcomes = w.stepOutcomes.set entry.stepId entry.outcome) := by
  unfold failStep at h
  dsimp only at h
  split at h
  · cases h
    exact ⟨rfl, .inl ⟨rfl, rfl, rfl⟩⟩
  · rename_i target htarget
    have hmem : target ∈ spec.compensationTargets := by
      obtain ⟨hfind, htruthy⟩ := Option.filter_eq_some_iff.mp htarget
      obtain ⟨t, ht, hfail⟩ := Option.bind_eq_some_iff.mp hfind
      refine List.mem_filterMap.mpr ⟨t, List.mem_of_find?_eq_some ht, ?_⟩
      rw [hfail]
      exact Option.filter_eq_some_iff.mpr ⟨rfl, htruthy⟩
    split at h
    · cases h
      exact ⟨rfl, .inl ⟨rfl, rfl, rfl⟩⟩
    · rename_i step hstep
      split_ifs at h with hcompleted
      · cases h
        exact ⟨rfl, .inr ⟨_, rfl, hmem, rfl, rfl, ⟨step, hstep, rfl⟩, by simp [hcompleted,
          Workflow.complete, Workflow.record], rfl⟩⟩
      · cases h
        exact ⟨rfl, .inr ⟨_, rfl, hmem, rfl, rfl, ⟨step, hstep, rfl⟩, by simp [hcompleted,
          Workflow.record], rfl⟩⟩

/-- Where a running call stands at the head of the loop. -/
inductive LoopCase (spec : WorkflowSpec V) (w : Workflow V) (completedSet failedSet : List String) :
    Workflow V × Phase → Prop where
  | gathering (hready : readyStepIds spec completedSet failedSet ≠ []) :
    LoopCase spec w completedSet failedSet
      (w, .gathering completedSet failedSet (readyStepIds spec completedSet failedSet))
  | stuck (hready : readyStepIds spec completedSet failedSet = [])
    (hopen : ∃ s ∈ spec.forwardSteps, s.id ∉ completedSet) (step error : Option String) :
    LoopCase spec w completedSet failedSet
      ({ w with failedStepName := step, error := error, status := .failed }, .returned)
  | completed (hall : ∀ s ∈ spec.forwardSteps, s.id ∈ completedSet) :
    LoopCase spec w completedSet failedSet ({ w with status := .completed }, .returned)

omit [PyValue V] in
theorem failWith_eq {w : Workflow V} (hw : w.status = .running) (step : Option String)
    (error : String) : failWith w step error =
      some ({ w with failedStepName := step, error := some error, status := .failed }, .returned) := by
  have hallowed : failed ∈ w.status.allowed := by
    rw [hw]
    decide
  simp only [failWith, Workflow.transition, hallowed, if_true, Option.map_some]

theorem exitLoop_eq (hw : w.status = .running)
    (hall : ∀ s ∈ spec.forwardSteps, s.id ∈ completedSet) :
    exitLoop spec w completedSet = some ({ w with status := .completed }, .returned) := by
  have hnone : spec.forwardSteps.filter (·.id ∉ completedSet) = [] := by
    refine List.filter_eq_nil_iff.mpr fun s hs => ?_
    simpa using hall s hs
  have hallowed : completed ∈ w.status.allowed := by
    rw [hw]
    decide
  rw [exitLoop, if_pos hw, hnone]
  simp only [List.map_nil, Workflow.transition, hallowed, if_true, Option.map_some]

theorem loopHead_cases (spec : WorkflowSpec V) (hw : w.status = .running)
    (completedSet failedSet : List String) :
    ∃ r, loopHead spec w completedSet failedSet = some r ∧
      LoopCase spec w completedSet failedSet r := by
  rw [loopHead]
  by_cases hall : ∀ s ∈ spec.forwardSteps, s.id ∈ completedSet
  · have hlen : spec.forwardSteps.filter (·.id ∈ completedSet) = spec.forwardSteps :=
      List.filter_eq_self.mpr fun s hs => decide_eq_true (hall s hs)
    rw [hlen, if_neg (lt_irrefl _)]
    exact ⟨_, exitLoop_eq hw hall, .completed hall⟩
  · have hlt : (spec.forwardSteps.filter (·.id ∈ completedSet)).length < spec.forwardSteps.length := by
      refine lt_of_le_of_ne (List.length_filter_le _ _) fun heq => hall fun s hs => ?_
      have heq' := List.length_filter_eq_length_iff.mp heq s hs
      exact of_decide_eq_true heq'
    rw [if_pos hlt]
    push Not at hall
    cases hready : readyStepIds spec completedSet failedSet with
    | nil => exact ⟨_, failWith_eq hw _ _, .stuck hready hall _ _⟩
    | cons =>
      refine ⟨_, rfl, ?_⟩
      rw [← hready]
      exact .gathering (by rw [hready]; exact List.cons_ne_nil _ _)

theorem executeDag_eq (spec : WorkflowSpec V) (w : Workflow V) :
    executeDag spec w = loopHead spec w w.completedSteps [] := by
  rw [executeDag, if_neg spec.wellFormed.forward]

theorem executeSpec_cases {id : String}
    {computeHash : SpecFields V → String} {initialState : Dict String V}
    (h : executeSpec spec id computeHash initialState none = some s) :
    ∃ (w : Workflow V) (r : Workflow V × Phase), w.status = .running ∧ w.completedSteps = [] ∧
      w.stepOutcomes = ∅ ∧
      (∀ key, key ≠ "_workflow_instance_id" → key ≠ "_workflow_definition_hash" →
        w.state.get? key = initialState.get? key) ∧
      LoopCase spec w [] [] r ∧ s = { workflow := r.1, phase := r.2 } := by
  simp only [executeSpec, bind, Option.bind_eq_some_iff, pure, Option.some.injEq] at h
  obtain ⟨w0, hw0, r, hr, rfl⟩ := h
  obtain ⟨-, rfl⟩ := transition_eq_some.mp hw0
  rw [executeDag_eq] at hr
  have hloop {w : Workflow V} (hstatus : w.status = .running)
      (hr : loopHead spec w w.completedSteps [] = some r) :
      LoopCase spec w w.completedSteps [] r := by
    obtain ⟨r', hr', hcase⟩ := loopHead_cases spec hstatus w.completedSteps []
    rwa [Option.some.inj (hr.symm.trans hr')]
  refine ⟨_, r, ?_, ?_, ?_, ?_, hloop ?_ hr, rfl⟩
  · rfl
  · rfl
  · rfl
  · intro key h1 h2
    rw [Dict.get?_set_of_ne _ (Ne.symm h2), Dict.get?_set_of_ne _ (Ne.symm h1)]
  · rfl

/-! ## What a step of a run does -/

/-- A wave that has been answered. -/
inductive WaveCase (spec : WorkflowSpec V) (steps : String → Option (WorkflowStep A V))
    (compensation : A) (results : List (Execution A V)) (completedSet failedSet : List String)
    (s : EngineState A V) : EngineState A V → Prop where
  | merged (hdone : ∀ x ∈ results, x.outcome.status = .completed) {r : Workflow V × Phase}
    (hloop : LoopCase spec (s.workflow.mergeAll results)
      (completedSet ++ results.map (·.stepId)) failedSet r) :
    WaveCase spec steps compensation results completedSet failedSet s
      { s with workflow := r.1, phase := r.2, log := s.log ++ results }
  | paused (done rest : List (Execution A V)) (x : Execution A V)
    (hresults : results = done ++ x :: rest)
    (hdone : ∀ x ∈ done, x.outcome.status = .completed)
    (hx : x.outcome.status = .waitingApproval) :
    WaveCase spec steps compensation results completedSet failedSet s
      { s with
        workflow :=
          { (s.workflow.mergeAll done).record x.stepId x.outcome with
            pendingApprovalId := x.outcome.approvalId
            hadApprovalGate := true
            checkpoints := (s.workflow.mergeAll done).checkpoints.set x.stepId
              (s.workflow.mergeAll done).state
            status := .waitingApproval }
        phase := .returned
        log := s.log ++ results
        pauses := s.pauses ++ [x.stepId] }
  | failed (done rest : List (Execution A V)) (x : Execution A V)
    (hresults : results = done ++ x :: rest)
    (hdone : ∀ x ∈ done, x.outcome.status = .completed) (hx : x.outcome.status = .failed)
    {w' : Workflow V} {compensations : List (Execution A V)}
    (hfail : failStep spec steps ((s.workflow.mergeAll done).record x.stepId x.outcome) x
      compensation = (w', compensations)) :
    WaveCase spec steps compensation results completedSet failedSet s
      { s with
        workflow := { w' with status := .failed }
        phase := .returned
        log := s.log ++ (results ++ compensations) }

/-- A wave of a running workflow raises nothing, and does one of three things. -/
theorem next_wave_cases (spec : WorkflowSpec V)
    {answers : List A} (compensation : A) {failedSet ready : List String}
    (hw : s.workflow.status = .running) (hphase : s.phase = .gathering completedSet failedSet ready)
    (hgather : gather steps s.workflow.state ready answers = some results) :
    ∃ s', next spec steps s (.wave answers compensation) = some s' ∧
      WaveCase spec steps compensation results completedSet failedSet s s' := by
  obtain ⟨f, hf, hcase⟩ :=
    foldWave_cases spec steps compensation results hw completedSet failedSet
  simp only [next, hphase, hgather, hf, bind, Option.bind_some, pure]
  cases hcase with
  | merged hdone =>
    have hmerged : (s.workflow.mergeAll results).status = .running :=
      (Workflow.mergeAll_status _ _).trans hw
    obtain ⟨r, hr, hloop⟩ :=
      loopHead_cases spec hmerged (completedSet ++ results.map (·.stepId)) failedSet
    simp only [hr, Option.bind_some, List.append_nil]
    exact ⟨_, rfl, .merged hdone hloop⟩
  | paused done rest x hresults hdone hx =>
    simp only [List.append_nil]
    exact ⟨_, rfl, .paused done rest x hresults hdone hx⟩
  | @failed done rest x hresults hdone hx w' compensations hfail =>
    have hstatus : w'.status = .running :=
      (failStep_cases hfail).1.trans ((Workflow.mergeAll_status _ _).trans hw)
    have hallowed : failed ∈ w'.status.allowed := by
      rw [hstatus]
      decide
    simp only [Workflow.transition, hallowed, if_true, Option.bind_some, List.append_assoc]
    exact ⟨_, rfl, .failed done rest x hresults hdone hx hfail⟩

/-- A `resume_spec`. -/
inductive ResumeCase (spec : WorkflowSpec V) (steps : String → Option (WorkflowStep A V))
    (answer : A) (s : EngineState A V) : EngineState A V → Prop where
  | notWaiting (hw : s.workflow.status ≠ .waitingApproval) : ResumeCase spec steps answer s s
  | pending {id : String} {check : String → Dict String V → A → StepOutcome V}
    (hgate : pausedGate steps s.workflow = some (id, check))
    (hcheck : (check (s.workflow.pendingApprovalId.getD "") s.workflow.state answer).status =
      .waitingApproval) :
    ResumeCase spec steps answer s s
  | refused (hw : s.workflow.status = .waitingApproval) {id : String}
    {check : String → Dict String V → A → StepOutcome V}
    (hgate : pausedGate steps s.workflow = some (id, check)) (error : Option String)
    (hcheck : (check (s.workflow.pendingApprovalId.getD "") s.workflow.state answer).status =
      .failed) :
    ResumeCase spec steps answer s
      { s with workflow :=
          { s.workflow with failedStepName := some id, error := error, status := .failed } }
  | noGate (hw : s.workflow.status = .waitingApproval)
    (hgate : pausedGate steps s.workflow = none) {r : Workflow V × Phase}
    (hloop : LoopCase spec { s.workflow with status := .running, pendingApprovalId := none }
      s.workflow.completedSteps [] r) :
    ResumeCase spec steps answer s
      { s with workflow := r.1, phase := r.2, resumes := s.resumes ++ [none] }
  | approved (hw : s.workflow.status = .waitingApproval) {id : String}
    {check : String → Dict String V → A → StepOutcome V}
    (hgate : pausedGate steps s.workflow = some (id, check)) {outcome : StepOutcome V}
    (houtcome : check (s.workflow.pendingApprovalId.getD "") s.workflow.state answer = outcome)
    (hcheck : outcome.status = .completed) {r : Workflow V × Phase}
    (hloop : LoopCase spec
      { s.workflow.complete id outcome.updates with
        status := .running, pendingApprovalId := none }
      (s.workflow.completedSteps ++ [id]) [] r) :
    ResumeCase spec steps answer s
      { s with workflow := r.1, phase := r.2, resumes := s.resumes ++ [some id] }

theorem next_resume_cases (spec : WorkflowSpec V) (steps : String → Option (WorkflowStep A V))
    (hphase : s.phase = .returned) (answer : A) :
    ∃ s', next spec steps s (.resume answer) = some s' ∧ ResumeCase spec steps answer s s' := by
  obtain ⟨w, phase, log, pauses, resumes⟩ := s
  dsimp only at hphase
  subst hphase
  simp only [next]
  by_cases hw : w.status ≠ .waitingApproval
  · refine ⟨_, ?_, .notWaiting hw⟩
    simp [resumeSpec, hw]
  · rw [not_not] at hw
    cases hgate : pausedGate steps w with
    | none =>
      obtain ⟨r, hr, hloop⟩ := loopHead_cases spec
        (w := { w with status := .running, pendingApprovalId := none }) rfl w.completedSteps []
      refine ⟨_, ?_, .noGate hw hgate hloop⟩
      simp [resumeSpec, hw, hgate, Workflow.transition, allowed, executeDag_eq, hr]
    | some g =>
      obtain ⟨id, check⟩ := g
      cases hcheck : (check (w.pendingApprovalId.getD "") w.state answer).status with
      | waitingApproval =>
        refine ⟨_, ?_, .pending hgate hcheck⟩
        simp [resumeSpec, hw, hgate, hcheck]
      | failed =>
        refine ⟨_, ?_, .refused hw hgate
          (check (w.pendingApprovalId.getD "") w.state answer).error hcheck⟩
        simp [resumeSpec, hw, hgate, hcheck, Workflow.transition, allowed]
      | completed =>
        obtain ⟨outcome, houtcome⟩ :
            ∃ o, check (w.pendingApprovalId.getD "") w.state answer = o := ⟨_, rfl⟩
        rw [houtcome] at hcheck
        obtain ⟨r, hr, hloop⟩ := loopHead_cases spec
          (w := { w.complete id outcome.updates with
            status := .running, pendingApprovalId := none }) rfl (w.completedSteps ++ [id]) []
        refine ⟨_, ?_, .approved hw hgate houtcome hcheck hloop⟩
        have hstatus : (w.complete id outcome.updates).status = .waitingApproval := hw
        have hsteps : (w.complete id outcome.updates).completedSteps = w.completedSteps ++ [id] :=
          rfl
        rw [← hsteps] at hr
        dsimp only at hr
        simp [resumeSpec, hw, hgate, houtcome, hcheck, hstatus, Workflow.transition,
          allowed, executeDag_eq, hr]

end Dag

def stepsMap {A V : Type} (spec : SpecFields V) (built : List (WorkflowStep A V))
    (stepId : String) : Option (WorkflowStep A V) :=
  Dict.lookup (spec.stepIds.zip built) stepId

theorem stepsMap_eq {V O : Type} [PyValue V] [DecidableEq V] {engine : WorkflowEngine V O}
    {spec : SpecFields V} (hnodup : spec.stepIds.Nodup)
    {built : List (WorkflowStep (Answers V O) V)} (hbuilt : engine.buildStepsFromSpec spec = .ok built)
    {s : WorkflowStepSpec V} (hs : s ∈ spec.steps) :
    ∃ b, engine.buildStep s = .ok b ∧ stepsMap spec built s.id = some b := by
  unfold WorkflowEngine.buildStepsFromSpec at hbuilt
  unfold stepsMap SpecFields.stepIds
  unfold SpecFields.stepIds at hnodup
  generalize spec.steps = l at *
  induction l generalizing built with
  | nil => exact absurd hs List.not_mem_nil
  | cons t _ ih =>
    rw [List.mapM_cons] at hbuilt
    obtain ⟨b, hb, hbuilt⟩ := bind_eq_ok.mp hbuilt
    obtain ⟨bs, hbs, hbuilt⟩ := bind_eq_ok.mp hbuilt
    cases hbuilt
    rw [List.map_cons, List.nodup_cons] at hnodup
    rw [List.map_cons, List.zip_cons_cons]
    rcases List.mem_cons.mp hs with rfl | hs
    · exact ⟨b, hb, if_pos rfl⟩
    · obtain ⟨b', hb', hget⟩ := ih hnodup.2 hbs hs
      have hne : t.id ≠ s.id := fun h => hnodup.1 (h ▸ List.mem_map_of_mem hs)
      exact ⟨b', hb', (if_neg hne).trans hget⟩

end JavisSaas.Agent.Workflows
