import JavisSaas.Agent.Workflows.EngineRuns
import JavisSaas.Agent.Workflows.Linear

/-!
# Compensations of both engines

A linear pipeline compensates alike when a step fails, when a gate is denied in a call and when it
is denied at `resume`. The DAG engine runs the `on_failure` step of a gate that is denied in a wave,
but nothing at `resume_spec`.

* `ran_of_deniedInRun`, `ran_of_deniedAtResume`: what a denied gate runs.
* `compensationLaw_iff`: when both engines do what they should.
-/

namespace JavisSaas.Agent.Workflows

open JavisSaas.Lib

variable {A V : Type} [PyValue V]

/-! ## A denied gate -/

/-- The step that the engine runs when a step has failed. -/
def compensationStep (spec : WorkflowSpec V) (steps : String → Option (WorkflowStep A V))
    (id : String) : Option String :=
  (((spec.getStep id).bind (·.onFailure)).filter truthy).filter fun target =>
    (steps target).isSome

/-- How many steps a call waits for. -/
def gatheredCount (s : EngineState A V) : ℕ :=
  match s.phase with
  | .gathering _ _ ready => ready.length
  | .returned => 0

/-- What a step of a run has executed beside the gathered steps. -/
def ranCompensations (s s' : EngineState A V) : List String :=
  (s'.log.drop (s.log.length + gatheredCount s)).map (·.stepId)

/-- The gate is the first step of a wave that is not completed, and it fails. -/
def DeniedInRun (spec : WorkflowSpec V) (steps : String → Option (WorkflowStep A V)) (gate : String)
    (s s' : EngineState A V) : Prop :=
  ∃ cs fs ready answers compensation results x,
    s.workflow.status = .running ∧ s.phase = .gathering cs fs ready ∧
      gather steps s.workflow.state ready answers = some results ∧
      results.find? (fun y => decide (y.outcome.status ≠ .completed)) = some x ∧
      x.stepId = gate ∧ x.outcome.status = .failed ∧
      next spec steps s (.wave answers compensation) = some s'

/-- The gate that the workflow is paused at is denied when the workflow is resumed. -/
def DeniedAtResume (spec : WorkflowSpec V) (steps : String → Option (WorkflowStep A V))
    (gate : String) (s s' : EngineState A V) : Prop :=
  ∃ check answer, s.workflow.status = .waitingApproval ∧
    pausedGate steps s.workflow = some (gate, check) ∧
      (check (s.workflow.pendingApprovalId.getD "") s.workflow.state answer).status = .failed ∧
      next spec steps s (.resume answer) = some s'

section Denied

variable {spec : WorkflowSpec V} {steps : String → Option (WorkflowStep A V)} {gate : String}
  {s s' : EngineState A V}

theorem failStep_stepIds {w w' : Workflow V} {x : Execution A V} {answer : A}
    {compensations : List (Execution A V)}
    (h : failStep spec steps w x answer = (w', compensations)) :
    compensations.map (·.stepId) = (compensationStep spec steps x.stepId).toList := by
  unfold failStep at h
  unfold compensationStep
  dsimp only at h
  cases htarget : ((spec.getStep x.stepId).bind (·.onFailure)).filter truthy with
  | none =>
    rw [htarget] at h
    cases h
    rfl
  | some target =>
    rw [htarget] at h
    dsimp only at h
    cases hstep : steps target with
    | none =>
      rw [hstep] at h
      cases h
      simp [hstep]
    | some =>
      rw [hstep] at h
      dsimp only at h
      have hsome : Option.filter (fun target => (steps target).isSome) (some target) =
          some target := by simp [hstep]
      rw [hsome]
      split_ifs at h with hcompleted
      · cases h
        rfl
      · cases h
        rfl

omit [PyValue V] in
theorem find?_of_done {done rest : List (Execution A V)} {x : Execution A V}
    (hdone : ∀ y ∈ done, y.outcome.status = .completed) (hx : x.outcome.status ≠ .completed) :
    (done ++ x :: rest).find? (fun y => decide (y.outcome.status ≠ .completed)) = some x := by
  have hnone : done.find? (fun y => decide (y.outcome.status ≠ .completed)) = none :=
    List.find?_eq_none.mpr fun y hy => by simpa using hdone y hy
  rw [List.find?_append, hnone, Option.none_or, List.find?_cons_of_pos (by simpa using hx)]

theorem ran_of_deniedInRun (h : DeniedInRun spec steps gate s s') :
    ranCompensations s s' = (compensationStep spec steps gate).toList := by
  obtain ⟨cs, fs, ready, answers, compensation, results, x, hrunning, hphase, hgather, hfind, rfl,
    hfailed, hnext⟩ := h
  obtain ⟨s'', hnext', hcase⟩ :=
    next_wave_cases spec compensation hrunning hphase hgather
  cases hnext'.symm.trans hnext
  have hcount : gatheredCount s = results.length := by
    have hready : ready.length = results.length := by
      rw [← (gather_eq_some hgather).1, List.length_map]
    rw [gatheredCount, hphase]
    exact hready
  cases hcase with
  | merged hdone =>
    have hopen := List.find?_some hfind
    rw [hdone x (List.mem_of_find?_eq_some hfind)] at hopen
    nomatch hopen
  | paused _ _ _ hresults hdone hy =>
    rw [hresults, find?_of_done hdone (by rw [hy]; decide)] at hfind
    rw [← Option.some.inj hfind, hy] at hfailed
    nomatch hfailed
  | failed _ _ _ hresults hdone hy hfail =>
    rw [hresults, find?_of_done hdone (by rw [hy]; decide)] at hfind
    cases hfind
    rw [ranCompensations, hcount, ← failStep_stepIds hfail, ← List.append_assoc, ← List.length_append,
      List.drop_left]

theorem log_of_resume {answer : A} (h : next spec steps s (.resume answer) = some s') :
    s'.log = s.log := by
  unfold next at h
  dsimp only at h
  split at h
  · nomatch h
  · obtain ⟨r, -, h⟩ := Option.bind_eq_some_iff.mp h
    cases h
    rfl

theorem ran_of_deniedAtResume (h : DeniedAtResume spec steps gate s s') :
    ranCompensations s s' = [] := by
  obtain ⟨check, answer, -, -, -, hnext⟩ := h
  rw [ranCompensations, log_of_resume hnext, List.drop_eq_nil_of_le (Nat.le_add_right _ _),
    List.map_nil]

theorem sameCompensations_iff {t t' : EngineState A V} (hrun : DeniedInRun spec steps gate s s')
    (hresume : DeniedAtResume spec steps gate t t') :
    ranCompensations s s' = ranCompensations t t' ↔ compensationStep spec steps gate = none := by
  rw [ran_of_deniedInRun hrun, ran_of_deniedAtResume hresume]
  cases compensationStep spec steps gate with
  | none => exact iff_of_true rfl rfl
  | some => exact iff_of_false (List.cons_ne_nil _ _) (Option.some_ne_none _)

/-- The compensations of a linear run, and those of a gate that is denied in either way. -/
theorem compensationLaw_iff {B : Type} {ofErrors : List String → V}
    {pipeline : List (LinearStep B V)} {r : LinearRun V} {t t' : EngineState A V}
    (hlinear : LinearReached ofErrors pipeline r) (hrun : DeniedInRun spec steps gate s s')
    (hresume : DeniedAtResume spec steps gate t t') :
    (LinearLaw pipeline r ∧ ranCompensations s s' = ranCompensations t t') ↔
      (r.raised = true → ∀ i ∈ r.completed, IsCompensating pipeline i = false) ∧
        compensationStep spec steps gate = none :=
  and_congr (linearLaw_iff hlinear) (sameCompensations_iff hrun hresume)

end Denied

/-! ## A pipeline and a gate -/

namespace Sample

/-- A step that does what it is told to. -/
def obedient (name : String) : WorkflowStep StepStatus String where
  name := name
  run state answer := ({ status := answer }, state)
  checkPending := none
  noUpdates := nofun

def obedientGate (name : String) : WorkflowStep StepStatus String where
  name := name
  run state answer := ({ status := answer }, state)
  checkPending := some fun _ _ answer => { status := answer }
  noUpdates := by
    rintro check ⟨⟩ approvalId state answer
    rfl

/-- Two writes that can be undone, and a gate behind them. -/
def writes : List (LinearStep StepStatus String) :=
  [{ obedient "write" with compensate := some fun state _ => (state, none) },
    { obedient "charge" with compensate := some fun state _ => (state, some "broken") },
    { obedientGate "gate" with }]

def writesStart : LinearRun String := (startRun writes "wf" "flow" ∅).get (by decide)

def writesCalls : List (LinearLabel StepStatus String) :=
  [.step .completed fun _ => .completed, .step .completed fun _ => .completed,
    .step .waitingApproval fun _ => .completed, .resume .failed fun _ => .completed]

def writesDenied : LinearRun String :=
  ((linearRuns (String.intercalate "; ") writes).run writesStart writesCalls).get
    (by decide +kernel)

theorem writesDenied_reached :
    LinearReached (String.intercalate "; ") writes writesDenied :=
  ⟨"wf", "flow", ∅, writesStart, writesCalls, (Option.some_get _).symm, (Option.some_get _).symm⟩

/-- A gate with a step that undoes, and one without. -/
def undoneSpec : WorkflowSpec String where
  id := "flow"
  steps := [{ id := "gate", type := .approvalGate, onFailure := some "undo" }, { id := "undo" }]
  valid := by decide

def plainSpec : WorkflowSpec String where
  id := "flow"
  steps := [{ id := "gate", type := .approvalGate }]
  valid := by decide

def gateSteps : String → Option (WorkflowStep StepStatus String)
  | "gate" => some (obedientGate "gate")
  | "undo" => some (obedient "undo")
  | _ => none

/-- A call of the engine that is at its first wave. -/
def gathering (spec : WorkflowSpec String) : Option (EngineState StepStatus String) :=
  executeSpec spec "wf" (fun _ => "h") ∅ none

/-- The state after a run of calls. -/
def after (spec : WorkflowSpec String) (ls : List (EngineLabel StepStatus)) :
    Option (EngineState StepStatus String) :=
  (gathering spec).bind fun s => (workflowRuns spec gateSteps).run s ls

def denyInRun : List (EngineLabel StepStatus) := [.wave [.failed] .completed]

def waitFirst : List (EngineLabel StepStatus) := [.wave [.waitingApproval] .completed]

def denyAtResume : List (EngineLabel StepStatus) := waitFirst ++ [EngineLabel.resume .failed]

def undoneBefore : EngineState StepStatus String := (gathering undoneSpec).get (by decide +kernel)

def undoneDenied : EngineState StepStatus String :=
  (after undoneSpec denyInRun).get (by decide +kernel)

def undonePaused : EngineState StepStatus String :=
  (after undoneSpec waitFirst).get (by decide +kernel)

def undoneResumed : EngineState StepStatus String :=
  (after undoneSpec denyAtResume).get (by decide +kernel)

def plainBefore : EngineState StepStatus String := (gathering plainSpec).get (by decide +kernel)

def plainDenied : EngineState StepStatus String :=
  (after plainSpec denyInRun).get (by decide +kernel)

def plainPaused : EngineState StepStatus String :=
  (after plainSpec waitFirst).get (by decide +kernel)

def plainResumed : EngineState StepStatus String :=
  (after plainSpec denyAtResume).get (by decide +kernel)

end Sample

open Sample in
/-- Two writes are undone when the gate behind them is denied. -/
theorem compensationLaw_writes :
    LinearLaw writes writesDenied ∧
      ranCompensations plainBefore plainDenied = ranCompensations plainPaused plainResumed := by
  have hrun : DeniedInRun plainSpec gateSteps "gate" plainBefore plainDenied :=
    ⟨[], [], ["gate"], [.failed], .completed, _, _, rfl, rfl, rfl, rfl, rfl, rfl, rfl⟩
  have hresume : DeniedAtResume plainSpec gateSteps "gate" plainPaused plainResumed :=
    ⟨_, .failed, rfl, rfl, rfl, rfl⟩
  exact (compensationLaw_iff writesDenied_reached hrun hresume).mpr
    ⟨fun hraised => (nomatch hraised), by decide +kernel⟩

open Sample in
/-- A gate whose compensation step runs when it is denied in a wave only. -/
theorem not_sameCompensations :
    ∃ s s' t t' : EngineState StepStatus String,
      DeniedInRun undoneSpec gateSteps "gate" s s' ∧
        DeniedAtResume undoneSpec gateSteps "gate" t t' ∧
          ranCompensations s s' ≠ ranCompensations t t' :=
  ⟨undoneBefore, undoneDenied, undonePaused, undoneResumed,
    ⟨[], [], ["gate"], [.failed], .completed, _, _, rfl, rfl, rfl, rfl, rfl, rfl, rfl⟩,
    ⟨_, .failed, rfl, rfl, rfl, rfl⟩, by decide +kernel⟩

end JavisSaas.Agent.Workflows
