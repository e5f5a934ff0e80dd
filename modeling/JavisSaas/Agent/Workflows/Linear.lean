import JavisSaas.Lib.Transition
import JavisSaas.Agent.Workflows.Models

/-!
# Linear pipelines

`start`, `resume`, `_run_from` and `_run_compensations` of `packages/agent/workflows/engine.py`. A
label is what a step of the pipeline is answered, or that it raises. A step that raises ends the
run: the workflow stays `RUNNING`, and no later call goes on with it.

* `runCompensations_snd`: which steps a failure compensates, in which order.
* `linearLaw_iff`: the compensations of every run.
-/

namespace JavisSaas.Agent.Workflows

open JavisSaas.Lib

variable {A V : Type}

/-! ## Steps and runs -/

/-- A `CompensatingStep` has `compensate`: the state that it leaves, or the text of an exception. -/
structure LinearStep (A V : Type) extends WorkflowStep A V where
  compensate : Option (Dict String V → A → Dict String V × Option String) := none

/-- The positions completed and compensated, in order, and whether a step has raised. -/
structure LinearRun (V : Type) where
  workflow : Workflow V
  currentStepIndex : ℕ := 0
  /-- A call of the engine is in the loop of `_run_from`. -/
  calling : Bool
  completed : List ℕ := []
  compensated : List ℕ := []
  raised : Bool := false

inductive LinearLabel (A V : Type)
  /-- The answer to the step, and those to the compensations, by position. -/
  | step (answer : A) (compensations : ℕ → A)
  /-- The step raises and leaves this state. -/
  | raised (state : Dict String V)
  /-- `resume`, and the answer to `check_pending`. -/
  | resume (answer : A) (compensations : ℕ → A)

section Engine

variable (ofErrors : List String → V) (steps : List (LinearStep A V))

/-- The loop's body of `_run_compensations`: the state, the errors and what was compensated. -/
def compensateStep (answers : ℕ → A) (acc : Dict String V × List String × List ℕ) (i : ℕ) :
    Dict String V × List String × List ℕ :=
  match steps[i]?.bind fun step => step.compensate.map (step.name, ·) with
  | none => acc
  | some (name, compensate) =>
    let (state, error) := compensate acc.1 (answers i)
    (state, acc.2.1 ++ (error.map fun exc => name ++ ": " ++ exc).toList, acc.2.2 ++ [i])

/-- `_run_compensations`: the workflow, and the positions that were compensated. -/
def runCompensations (w : Workflow V) (currentStepIndex : ℕ) (answers : ℕ → A) :
    Workflow V × List ℕ :=
  let (state, errors, compensated) :=
    (List.range currentStepIndex).reverse.foldl (compensateStep steps answers) (w.state, [], [])
  let state := if errors ≠ [] then state.set "_compensation_errors" (ofErrors errors) else state
  ({ w with state := state }, compensated)

/-- A failed step, or a denied approval. -/
def failRun (s : LinearRun V) (name : String) (error : Option String) (answers : ℕ → A) :
    Option (LinearRun V) := do
  let w ← { s.workflow with failedStepName := some name, error := error }.transition .failed
  let (w, compensated) := runCompensations ofErrors steps w s.currentStepIndex answers
  return { s with workflow := w, calling := false, compensated := s.compensated ++ compensated }

/-- The head of the loop of `_run_from`. -/
def runHead (s : LinearRun V) : Option (LinearRun V) :=
  if s.currentStepIndex < steps.length then some { s with calling := true }
  else (s.workflow.transition .completed).map fun w => { s with workflow := w, calling := false }

/-- The merge of a completed step, and the head of the loop after it. -/
def advanceRun (s : LinearRun V) (name : String) (updates : Dict String V) :
    Option (LinearRun V) :=
  let state := s.workflow.state.update updates.items
  runHead steps { s with
    workflow := { s.workflow with
      state := state
      completedSteps := s.workflow.completedSteps ++ [name]
      checkpoints := s.workflow.checkpoints.set name state }
    currentStepIndex := s.currentStepIndex + 1
    completed := s.completed ++ [s.currentStepIndex] }

/-- A step of the pipeline that waits for an approval. -/
def pauseRun (s : LinearRun V) (name : String) (approvalId : Option String) :
    Option (LinearRun V) :=
  ({ s.workflow with
      pendingApprovalId := approvalId
      hadApprovalGate := true
      checkpoints := s.workflow.checkpoints.set name s.workflow.state }.transition
    .waitingApproval).map fun w => { s with workflow := w, calling := false }

/-- `start`; `id` is the new workflow's uuid. -/
def startRun (id name : String) (initialState : Dict String V) : Option (LinearRun V) := do
  let w ← ({ id := id, name := name, state := initialState } : Workflow V).transition .running
  runHead steps { workflow := w, calling := false }

/-- The outcome of the step at the current index. -/
def stepRun (s : LinearRun V) (step : LinearStep A V) (answer : A) (answers : ℕ → A) :
    Option (LinearRun V) :=
  let (outcome, state) := step.run s.workflow.state answer
  let s := { s with workflow := { s.workflow with state := state } }
  match outcome.status with
  | .waitingApproval => pauseRun s step.name outcome.approvalId
  | .failed => failRun ofErrors steps s step.name outcome.error answers
  | .completed => advanceRun steps s step.name outcome.updates

/-- `resume`. A paused step that is no gate raises a `TypeError`, which leaves the workflow as it
    is. -/
def resumeRun (s : LinearRun V) (answer : A) (answers : ℕ → A) : Option (LinearRun V) :=
  if s.workflow.status ≠ .waitingApproval then some s
  else
    match steps[s.currentStepIndex]?.bind fun step => step.checkPending.map (step.name, ·) with
    | none => some s
    | some (name, checkPending) =>
      let outcome := checkPending (s.workflow.pendingApprovalId.getD "") s.workflow.state answer
      match outcome.status with
      | .waitingApproval => some s
      | .failed => do
        let w ← s.workflow.transition .running
        failRun ofErrors steps { s with workflow := { w with pendingApprovalId := none } } name
          outcome.error answers
      | .completed => do
        let w ← s.workflow.transition .running
        advanceRun steps { s with workflow := { w with pendingApprovalId := none } } name
          outcome.updates

/-- The steps of the calls on one workflow. -/
def linearRuns : System (LinearRun V) (LinearLabel A V) where
  next s
    | .step answer answers =>
      if s.calling then
        (steps[s.currentStepIndex]?).bind fun step => stepRun ofErrors steps s step answer answers
      else none
    | .raised state =>
      if s.calling then
        some { s with workflow := { s.workflow with state := state }, calling := false, raised := true }
      else none
    | .resume answer answers =>
      if s.calling then none else resumeRun ofErrors steps s answer answers

end Engine

/-! ## What is compensated -/

section Law

variable {ofErrors : List String → V} {steps : List (LinearStep A V)}

/-- The step at a position can be compensated. -/
def IsCompensating (steps : List (LinearStep A V)) (i : ℕ) : Bool :=
  (steps[i]?.bind (·.compensate)).isSome

theorem foldl_compensateStep (answers : ℕ → A) (is : List ℕ)
    (acc : Dict String V × List String × List ℕ) :
    (is.foldl (compensateStep steps answers) acc).2.2 = acc.2.2 ++ is.filter (IsCompensating steps) := by
  induction is generalizing acc with
  | nil => exact (List.append_nil _).symm
  | cons i _ ih =>
    have hstep : (compensateStep steps answers acc i).2.2 =
        acc.2.2 ++ [i].filter (IsCompensating steps) := by
      unfold compensateStep IsCompensating
      cases hi : steps[i]? with
      | none => simp [hi]
      | some step =>
        cases hcomp : step.compensate with
        | none | some => simp [hi, hcomp]
    rw [List.foldl_cons, ih, hstep, List.append_assoc, ← List.filter_append, List.singleton_append]

/-- A failure compensates what can be compensated before the current step, the last one first. -/
theorem runCompensations_snd (w : Workflow V) (n : ℕ) (answers : ℕ → A) :
    (runCompensations ofErrors steps w n answers).2 =
      ((List.range n).filter (IsCompensating steps)).reverse := by
  rw [← List.filter_reverse]
  exact (foldl_compensateStep answers _ _).trans (List.nil_append _)

/-! ## The invariant -/

/-- What holds of a workflow and the history of its run. -/
structure LinearInv (steps : List (LinearStep A V)) (s : LinearRun V) : Prop where
  completed : s.completed = List.range s.currentStepIndex
  failed : s.workflow.status = .failed →
    s.compensated = (s.completed.filter (IsCompensating steps)).reverse
  others : s.workflow.status ≠ .failed → s.compensated = []
  calling : s.calling = true → s.workflow.status = .running
  raised : s.raised = true → s.workflow.status = .running ∧ s.calling = false

variable {s s' : LinearRun V}

theorem linearInv_head (hcompleted : s.completed = List.range s.currentStepIndex)
    (hcompensated : s.compensated = []) (hraised : s.raised = false)
    (hrunning : s.workflow.status = .running) (h : runHead steps s = some s') :
    LinearInv steps s' := by
  unfold runHead at h
  split_ifs at h with hlt
  · cases h
    refine ⟨hcompleted, fun hfailed => ?_, fun _ => hcompensated, fun _ => hrunning,
      fun hr => absurd (hraised.symm.trans hr) (by decide)⟩
    exact absurd (hrunning.symm.trans hfailed) (by decide)
  · obtain ⟨w, hw, rfl⟩ := Option.map_eq_some_iff.mp h
    obtain ⟨-, rfl⟩ := transition_eq_some.mp hw
    exact ⟨hcompleted, fun hfailed => (nomatch hfailed), fun _ => hcompensated,
      fun hcalling => (nomatch hcalling), fun hr => absurd (hraised.symm.trans hr) (by decide)⟩

variable {name : String} {answers : ℕ → A}

theorem linearInv_advance (hI : LinearInv steps s) (hraised : s.raised = false)
    (hrunning : s.workflow.status = .running) {updates : Dict String V}
    (h : advanceRun steps s name updates = some s') : LinearInv steps s' := by
  unfold advanceRun at h
  refine linearInv_head ?_ ?_ ?_ ?_ h
  · show s.completed ++ [s.currentStepIndex] = List.range (s.currentStepIndex + 1)
    rw [List.range_succ, hI.completed]
  · exact hI.others fun hfailed => absurd (hrunning.symm.trans hfailed) (by decide)
  · exact hraised
  · exact hrunning

theorem linearInv_fail (hI : LinearInv steps s) (hraised : s.raised = false)
    (hrunning : s.workflow.status = .running) {error : Option String}
    (h : failRun ofErrors steps s name error answers = some s') :
    LinearInv steps s' := by
  have hnone : s.compensated = [] :=
    hI.others fun hfailed => absurd (hrunning.symm.trans hfailed) (by decide)
  unfold failRun at h
  obtain ⟨w, hw, h⟩ := Option.bind_eq_some_iff.mp h
  obtain ⟨-, rfl⟩ := transition_eq_some.mp hw
  cases h
  have hstatus : (runCompensations ofErrors steps
      { s.workflow with failedStepName := some name, error := error, status := .failed }
      s.currentStepIndex answers).1.status = .failed := rfl
  refine ⟨hI.completed, fun _ => ?_, fun hother => absurd hstatus hother,
    fun hcalling => (nomatch hcalling), fun hr => absurd (hraised.symm.trans hr) (by decide)⟩
  show s.compensated ++ (runCompensations ofErrors steps _ s.currentStepIndex answers).2 = _
  rw [hnone, List.nil_append, runCompensations_snd, hI.completed]

theorem linearInv_pause (hI : LinearInv steps s) (hraised : s.raised = false)
    (hrunning : s.workflow.status = .running) {approvalId : Option String}
    (h : pauseRun s name approvalId = some s') : LinearInv steps s' := by
  unfold pauseRun at h
  obtain ⟨w, hw, rfl⟩ := Option.map_eq_some_iff.mp h
  obtain ⟨-, rfl⟩ := transition_eq_some.mp hw
  exact ⟨hI.completed, fun hfailed => (nomatch hfailed),
    fun _ => hI.others fun hfailed => absurd (hrunning.symm.trans hfailed) (by decide),
    fun hcalling => (nomatch hcalling), fun hr => absurd (hraised.symm.trans hr) (by decide)⟩

/-- The state of a workflow is nothing that the invariant reads. -/
theorem LinearInv.withState (hI : LinearInv steps s) (state : Dict String V) :
    LinearInv steps { s with workflow := { s.workflow with state := state } } :=
  ⟨hI.completed, hI.failed, hI.others, hI.calling, hI.raised⟩

theorem LinearInv.raised_eq_false (hI : LinearInv steps s) (hcalling : s.calling = true) :
    s.raised = false := by
  by_contra hraised
  have hstopped := (hI.raised (eq_true_of_ne_false hraised)).2
  exact absurd (hcalling.symm.trans hstopped) (by decide)

theorem LinearInv.step (hI : LinearInv steps s) (hcalling : s.calling = true)
    {step : LinearStep A V} {answer : A}
    (h : stepRun ofErrors steps s step answer answers = some s') : LinearInv steps s' := by
  have hraised := hI.raised_eq_false hcalling
  have hrunning := hI.calling hcalling
  have hmid := hI.withState (step.run s.workflow.state answer).2
  unfold stepRun at h
  dsimp only at h
  split at h
  · exact linearInv_pause hmid hraised hrunning h
  · exact linearInv_fail hmid hraised hrunning h
  · exact linearInv_advance hmid hraised hrunning h

theorem LinearInv.reopened (hI : LinearInv steps s)
    (hraised : s.raised = false) (hwaiting : s.workflow.status = .waitingApproval)
    {w : Workflow V} (hw : s.workflow.transition .running = some w) :
    LinearInv steps { s with workflow := { w with pendingApprovalId := none } } ∧
      ({ w with pendingApprovalId := none } : Workflow V).status = .running := by
  obtain ⟨-, rfl⟩ := transition_eq_some.mp hw
  refine ⟨⟨hI.completed, fun hfailed => (nomatch hfailed), fun _ => ?_, fun _ => rfl,
    fun hr => absurd (hraised.symm.trans hr) (by decide)⟩, rfl⟩
  exact hI.others fun hfailed => absurd (hwaiting.symm.trans hfailed) (by decide)

theorem LinearInv.resume (hI : LinearInv steps s) {answer : A}
    (h : resumeRun ofErrors steps s answer answers = some s') :
    LinearInv steps s' := by
  unfold resumeRun at h
  split_ifs at h with hstatus
  · cases h
    exact hI
  have hwaiting : s.workflow.status = .waitingApproval := not_not.mp hstatus
  have hraised : s.raised = false := by
    by_contra hraised
    have hrunning := (hI.raised (eq_true_of_ne_false hraised)).1
    exact absurd (hrunning.symm.trans hwaiting) (by decide)
  split at h
  · cases h
    exact hI
  · dsimp only at h
    split at h
    · cases h
      exact hI
    · obtain ⟨w, hw, h⟩ := Option.bind_eq_some_iff.mp h
      obtain ⟨hmid, hrunning⟩ := hI.reopened hraised hwaiting hw
      exact linearInv_fail hmid hraised hrunning h
    · obtain ⟨w, hw, h⟩ := Option.bind_eq_some_iff.mp h
      obtain ⟨hmid, hrunning⟩ := hI.reopened hraised hwaiting hw
      exact linearInv_advance hmid hraised hrunning h

theorem LinearInv.next {l : LinearLabel A V} (hI : LinearInv steps s)
    (h : (linearRuns ofErrors steps).next s l = some s') : LinearInv steps s' := by
  cases l with
  | step =>
    dsimp only [linearRuns] at h
    split_ifs at h with hcalling
    obtain ⟨step, -, h⟩ := Option.bind_eq_some_iff.mp h
    exact hI.step hcalling h
  | raised =>
    dsimp only [linearRuns] at h
    split_ifs at h with hcalling
    cases h
    exact ⟨hI.completed, hI.failed, hI.others, fun hc => (nomatch hc),
      fun _ => ⟨hI.calling hcalling, rfl⟩⟩
  | resume =>
    dsimp only [linearRuns] at h
    split_ifs at h with hcalling
    exact hI.resume h

theorem linearInv_start {id : String} {initialState : Dict String V}
    (h : startRun steps id name initialState = some s) : LinearInv steps s := by
  unfold startRun at h
  obtain ⟨w, hw, h⟩ := Option.bind_eq_some_iff.mp h
  obtain ⟨-, rfl⟩ := transition_eq_some.mp hw
  exact linearInv_head rfl rfl rfl rfl h

/-! ## The law of a run -/

/-- A step has failed or raised, or an approval was denied: what has completed is compensated. -/
structure LinearLaw (steps : List (LinearStep A V)) (s : LinearRun V) : Prop where
  exact : s.workflow.status = .failed ∨ s.raised = true →
    s.compensated = (s.completed.filter (IsCompensating steps)).reverse
  otherwise : ¬ (s.workflow.status = .failed ∨ s.raised = true) → s.compensated = []
  once : s.compensated.Nodup
  completed : ∀ i ∈ s.compensated, i ∈ s.completed

/-- The run is one of a workflow that `start` has made. -/
def LinearReached (ofErrors : List String → V) (steps : List (LinearStep A V)) (s : LinearRun V) :
    Prop :=
  ∃ id name initialState s₀ ls, startRun steps id name initialState = some s₀ ∧
    (linearRuns ofErrors steps).run s₀ ls = some s

theorem LinearReached.inv (h : LinearReached ofErrors steps s) : LinearInv steps s := by
  obtain ⟨id, name, initialState, s₀, ls, hstart, hrun⟩ := h
  exact (linearRuns ofErrors steps).inv_of_run (fun _ _ _ hI hn => hI.next hn)
    (linearInv_start hstart) hrun

/-- A step that raises compensates nothing, which is right when there is nothing to compensate. -/
theorem linearLaw_iff (h : LinearReached ofErrors steps s) :
    LinearLaw steps s ↔
      (s.raised = true → ∀ i ∈ s.completed, IsCompensating steps i = false) := by
  have hI := h.inv
  constructor
  · intro hlaw hraised i hi
    have hrunning := (hI.raised hraised).1
    have hnone : s.compensated = [] :=
      hI.others fun hfailed => absurd (hrunning.symm.trans hfailed) (by decide)
    have hfilter := List.reverse_eq_nil_iff.mp ((hlaw.exact (.inr hraised)).symm.trans hnone)
    exact eq_false_of_ne_true (List.filter_eq_nil_iff.mp hfilter i hi)
  · intro hnothing
    have hexact : s.workflow.status = .failed ∨ s.raised = true →
        s.compensated = (s.completed.filter (IsCompensating steps)).reverse := by
      rintro (hfailed | hraised)
      · exact hI.failed hfailed
      · have hrunning := (hI.raised hraised).1
        have hfilter : s.completed.filter (IsCompensating steps) = [] :=
          List.filter_eq_nil_iff.mpr fun i hi =>
            Bool.not_eq_true _ ▸ hnothing hraised i hi
        rw [hfilter, hI.others fun hfailed => absurd (hrunning.symm.trans hfailed) (by decide)]
        rfl
    have hsub : s.compensated = [] ∨
        s.compensated = (s.completed.filter (IsCompensating steps)).reverse := by
      by_cases hfailed : s.workflow.status = .failed
      · exact .inr (hI.failed hfailed)
      · exact .inl (hI.others hfailed)
    refine ⟨hexact, fun hother => hI.others fun hfailed => hother (.inl hfailed), ?_, ?_⟩
    · rcases hsub with hnil | hrev
      · rw [hnil]
        exact List.nodup_nil
      · rw [hrev, List.nodup_reverse, hI.completed]
        exact List.Nodup.filter _ List.nodup_range
    · intro i hi
      rcases hsub with hnil | hrev
      · rw [hnil] at hi
        nomatch hi
      · rw [hrev, List.mem_reverse] at hi
        exact (List.mem_filter.mp hi).1

end Law

end JavisSaas.Agent.Workflows
