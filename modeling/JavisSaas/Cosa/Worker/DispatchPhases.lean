import JavisSaas.Cosa.Worker.GovernedWorkflowRun

/-!
# What a dispatch does to its run

The phases of one dispatch, and its contract: it writes a status only after it has read an open run;
it goes on from the steps that were completed in the workflow it has loaded, and executes none of
them again; it saves a checkpoint that has them all; and it reports the status that it has written.

* `Going.wave`, `Going.resume`: what the engine keeps of the completed steps.
* `executeGovernedWorkflowRun_meets`: the dispatch keeps the contract.
-/

namespace JavisSaas.Cosa.Worker

open JavisSaas.Lib JavisSaas.Agent.Runs JavisSaas.Agent.Workflows
open Prog (meets_attempt meets_bind meets_ofExcept meets_perform)

variable {V O : Type}

/-! ## Phases -/

inductive DispatchPhase (V : Type) where
  /-- nothing read yet -/
  | reading
  /-- the run is not there -/
  | creating
  /-- read an open run, which waited for an approval or not -/
  | opening (resuming : Bool)
  /-- will go on from the latest checkpoint -/
  | resuming
  /-- goes on from a workflow in which these steps were completed -/
  | executing (base : List String)
  /-- has counted the checkpoints of the run -/
  | counted (base : List String) (count : ℕ)
  /-- has saved this workflow -/
  | saved (w : Workflow V)
  /-- has left the run waiting -/
  | paused
  /-- has read or written this terminal status -/
  | closed (status : RunStatus)

namespace DispatchPhase

/-- Between the reading of the run and the last status write. -/
def inCharge : DispatchPhase V → Bool
  | creating => true
  | opening _ => true
  | resuming => true
  | executing _ => true
  | counted _ _ => true
  | saved _ => true
  | _ => false

def afterGetRun : Option (RunRecord (Payload V)) → DispatchPhase V
  | none => creating
  | some r =>
    if r.status.IsTerminal then closed r.status else opening (r.status = .waitingApproval)

def afterUpdate (status : RunStatus) : DispatchPhase V → DispatchPhase V
  | opening true => resuming
  | opening false => executing []
  | _ => if status = .waitingApproval then paused else closed status

def afterCount (count : ℕ) : DispatchPhase V → DispatchPhase V
  | executing base => counted base count
  | φ => φ

def after (φ : DispatchPhase V) : (o : DispatchOp V O) → Except String o.Ans → DispatchPhase V
  | .getRun _, .ok run => afterGetRun run
  | .createRun _, .ok _ => executing []
  | .updateRunStatus _ status _ _, .ok _ => φ.afterUpdate status
  | .getLatestCheckpoint _, .ok (some c) =>
    c.serializedState.workflow?.elim resuming fun w => executing w.completedSteps
  | .listCheckpoints _, .ok l => φ.afterCount l.length
  | .saveCheckpoint c, .ok (.ok ()) => c.serializedState.workflow?.elim φ saved
  | _, _ => φ

/-- The statuses that may be written in a phase. -/
def MayWrite : DispatchPhase V → RunStatus → Prop
  | opening _, status => status = .running
  | resuming, status => status = .failed
  | executing _, status => status = .failed
  | saved w, status => status = .completed ∨ status = .failed ∨
      status = .waitingApproval ∧ w.status = .waitingApproval
  | _, _ => False

/-- The events that may be appended in a phase. -/
def MayReport : DispatchPhase V → String → Prop
  | closed status, eventType =>
    (eventType = "run.completed" → status = .completed) ∧
      (eventType = "run.failed" → status = .failed)
  | _, eventType => eventType ≠ "run.completed" ∧ eventType ≠ "run.failed"

end DispatchPhase

/-! ## The contract -/

/-- Everything that has completed or has an outcome is a forward step. -/
structure OnForward (spec : SpecFields V) (w : Workflow V) : Prop where
  completed : ∀ id ∈ w.completedSteps, id ∈ spec.forwardIds
  outcome : ∀ id o, w.stepOutcomes.get? id = some o → id ∈ spec.forwardIds

theorem OnForward.withState {spec : SpecFields V} {w : Workflow V} (h : OnForward spec w)
    (state : Dict String V) : OnForward spec { w with state } :=
  ⟨h.completed, h.outcome⟩

/-- The steps that a wave executes, or may execute as a compensation. -/
def mayRun {A : Type} (spec : SpecFields V) (s : EngineState A V) : List String :=
  match s.phase with
  | .returned => []
  | .gathering _ _ ready =>
    ready ++ ready.filterMap fun id => ((spec.getStep id).bind (·.onFailure)).filter truthy

section

variable [PyValue V] [DecidableEq V]

/-- A workflow that has paused, on the specification of the run. -/
def Resumable (plane : ControlPlane V O) (runId : String) (w : Workflow V) : Prop :=
  w.status = .waitingApproval ∧ ∀ spec, plane.resolvePinnedSpec (plane.manifest runId) = .ok spec →
    OnForward spec.toSpecFields w

/-- A workflow that a dispatch may save when it went on from these completed steps. -/
structure MaySave (plane : ControlPlane V O) (runId : String) (base : List String)
    (w : Workflow V) : Prop where
  kept : base ⊆ w.completedSteps
  resumable : w.status = .waitingApproval → Resumable plane runId w

omit [DecidableEq V] in
theorem MaySave.withState {plane : ControlPlane V O} {runId : String} {base : List String}
    {w : Workflow V} (h : MaySave plane runId base w) (state : Dict String V) :
    MaySave plane runId base { w with state } := by
  refine ⟨h.kept, fun hw => ⟨hw, fun spec hspec => ?_⟩⟩
  exact ((h.resumable hw).2 spec hspec).withState state

def dispatchAllowed (plane : ControlPlane V O) (runId : String) (φ : DispatchPhase V) :
    DispatchOp V O → Prop
  | .getRun r => φ = .reading ∧ r = runId
  | .createRun run => φ = .creating ∧ run.runId = runId ∧ run.workspaceId.isSome ∧
      run.status = .running
  | .updateRunStatus r status _ _ => r = runId ∧ φ.MayWrite status
  | .appendEvent r eventType => r = runId ∧ φ.MayReport eventType
  | .getLatestCheckpoint r => φ = .resuming ∧ r = runId
  | .listCheckpoints r => r = runId ∧ ∃ base, φ = .executing base
  | .saveCheckpoint c => ∃ base count, φ = .counted base count ∧ c.runId = runId ∧
      c.sequenceNo = count + 1 ∧
      ∃ w, c.serializedState = .workflow w ∧ MaySave plane runId base w
  | .gather spec s => ∃ base, φ = .executing base ∧ ∀ id ∈ mayRun spec s, id ∉ base
  | _ => True

def dispatchContract (plane : ControlPlane V O) (runId : String) :
    Contract (DispatchOp V O) DispatchOp.Ans String (DispatchPhase V) where
  allowed := dispatchAllowed plane runId
  assumed
    | _, .getLatestCheckpoint _, .ok (some c) =>
      ∀ w, c.serializedState = .workflow w → Resumable plane runId w
    | _, _, _ => True
  after := DispatchPhase.after

/-- The status that is returned was read or written, or the run waits. -/
def Reports (φ : DispatchPhase V) : Except String GovernedWorkflowRunOutcome → Prop
  | .ok outcome => outcome.status = .waitingApproval ∨ φ = .closed outcome.status
  | .error _ => True

end

/-! ## What the engine keeps -/

section Engine

variable {A : Type} [PyValue V] {spec : WorkflowSpec V}
  {steps : String → Option (WorkflowStep A V)} {base : List String} {s s' : EngineState A V}

/-- A call of the engine that goes on from these completed steps. -/
structure Going (spec : WorkflowSpec V) (base : List String) (s : EngineState A V) : Prop where
  run : RunInv spec s
  kept : base ⊆ s.workflow.completedSteps
  base : ∀ id ∈ base, id ∈ spec.forwardIds
  forward : s.workflow.status ≠ .failed → OnForward spec.toSpecFields s.workflow

omit [PyValue V] in
theorem OnForward.mergeAll {spec : SpecFields V} {w : Workflow V} (h : OnForward spec w)
    {done : List (Execution A V)} (hdone : ∀ x ∈ done, x.stepId ∈ spec.forwardIds) :
    OnForward spec (w.mergeAll done) := by
  constructor
  · rw [Workflow.mergeAll_completedSteps]
    intro id hid
    rcases List.mem_append.mp hid with hid | hid
    · exact h.completed id hid
    · obtain ⟨x, hx, rfl⟩ := List.mem_map.mp hid
      exact hdone x hx
  · intro id o hget
    rcases stepOutcomes_mergeAll_cases hget with ⟨x, hx, rfl, -⟩ | hget
    · exact hdone x hx
    · exact h.outcome id o hget

/-- A step that a wave may execute was not completed before the call. -/
theorem Going.notMem_base (h : Going spec base s) {id : String}
    (hid : id ∈ mayRun spec.toSpecFields s) : id ∉ base := by
  unfold mayRun at hid
  cases hphase : s.phase with
  | returned =>
    rw [hphase] at hid
    nomatch hid
  | gathering cs fs ready =>
    rw [hphase] at hid
    obtain ⟨-, hcs, -, hready, -⟩ := h.run.gathering cs fs ready hphase
    rcases List.mem_append.mp hid with hid | hid
    · rw [hready] at hid
      intro hbase
      apply (mem_readyStepIds hid).1
      rw [hcs]
      exact h.kept hbase
    · -- a compensation is no forward step
      obtain ⟨failed, -, htarget⟩ := List.mem_filterMap.mp hid
      obtain ⟨hbind, htruthy⟩ := Option.filter_eq_some_iff.mp htarget
      obtain ⟨step, hstep, hfailure⟩ := Option.bind_eq_some_iff.mp hbind
      have hmem : id ∈ spec.compensationTargets := by
        refine List.mem_filterMap.mpr ⟨step, List.mem_of_find?_eq_some hstep, ?_⟩
        rw [hfailure]
        exact Option.filter_eq_some_iff.mpr ⟨rfl, htruthy⟩
      exact fun hbase => notMem_targets_of_forward (h.base id hbase) hmem

theorem missing_pos_of_gathering (h : RunInv spec s) {cs fs ready : List String}
    (hphase : s.phase = .gathering cs fs ready) :
    0 < missing spec.forwardIds s.workflow.completedSteps := by
  obtain ⟨-, hcs, -, hready, hne⟩ := h.gathering cs fs ready hphase
  obtain ⟨id, hid⟩ := List.exists_mem_of_ne_nil _ hne
  rw [hready] at hid
  obtain ⟨hopen, hforward⟩ := mem_readyStepIds hid
  rw [hcs] at hopen
  apply List.length_pos_of_mem (a := id)
  exact List.mem_filter.mpr ⟨hforward, decide_eq_true hopen⟩

/-- A wave keeps what was completed, and ends the call or completes a further step. -/
theorem Going.wave (h : Going spec base s) {answers : List A} {compensation : A}
    (hnext : next spec steps s (.wave answers compensation) = some s') :
    Going spec base s' ∧ (s'.phase = .returned ∨
      missing spec.forwardIds s'.workflow.completedSteps <
        missing spec.forwardIds s.workflow.completedSteps) := by
  have hrun := h.run.next hnext
  rcases h.run.next_cases hnext with
    ⟨_, _, results, cs, ready, -, hphase, hgather, hwave, hcase⟩ | ⟨_, hl, -⟩
  · obtain ⟨hw, hcs, -, hready, hne⟩ := h.run.gathering cs [] ready hphase
    have hforward := h.forward (by rw [hw]; decide)
    cases hcase with
    | @merged hdone r hloop =>
      have hsteps : r.1.completedSteps = s.workflow.completedSteps ++ results.map (·.stepId) := by
        rw [hloop.completedSteps_eq, Workflow.mergeAll_completedSteps]
      have hmerged := hforward.mergeAll hwave.mem
      refine ⟨⟨hrun, ?_, h.base, fun _ => ⟨?_, ?_⟩⟩, .inr ?_⟩
      · show base ⊆ r.1.completedSteps
        rw [hsteps]
        exact fun id hid => List.mem_append_left _ (h.kept hid)
      · show ∀ id ∈ r.1.completedSteps, _
        rw [hloop.completedSteps_eq]
        exact hmerged.completed
      · show ∀ id o, r.1.stepOutcomes.get? id = some o → _
        rw [hloop.stepOutcomes_eq]
        exact hmerged.outcome
      · show missing spec.forwardIds r.1.completedSteps < _
        obtain ⟨x, hx⟩ : ∃ x, x ∈ results := by
          apply List.exists_mem_of_ne_nil
          rintro rfl
          exact hne (gather_eq_some hgather).1.symm
        rw [hsteps]
        exact missing_lt (List.subset_append_left _ _) (hwave.mem x hx)
          (hwave.notCompleted x hx) (List.mem_append_right _ (List.mem_map_of_mem hx))
    | paused done rest x hresults =>
      have hmem : ∀ y ∈ done ++ x :: rest, y.stepId ∈ spec.forwardIds := by
        rw [← hresults]
        exact hwave.mem
      have hmerged := hforward.mergeAll fun y hy => hmem y (List.mem_append_left _ hy)
      refine ⟨⟨hrun, ?_, h.base, fun _ => ⟨hmerged.completed, ?_⟩⟩, .inl rfl⟩
      · show base ⊆ (s.workflow.mergeAll done).completedSteps
        rw [Workflow.mergeAll_completedSteps]
        exact fun id hid => List.mem_append_left _ (h.kept hid)
      · intro id o hget
        have hget' : ((s.workflow.mergeAll done).stepOutcomes.set x.stepId x.outcome).get? id =
            some o := hget
        rw [Dict.get?_set] at hget'
        split_ifs at hget' with heq
        · rw [← heq]
          exact hmem x (List.mem_append_right _ List.mem_cons_self)
        · exact hmerged.outcome id o hget'
    | @failed done rest x hresults hdone hx w' compensations hfail =>
      refine ⟨⟨hrun, ?_, h.base, fun hne => absurd rfl hne⟩, .inl rfl⟩
      show base ⊆ w'.completedSteps
      have hmerged : base ⊆ (s.workflow.mergeAll done).completedSteps := by
        rw [Workflow.mergeAll_completedSteps]
        exact fun id hid => List.mem_append_left _ (h.kept hid)
      rcases (failStep_cases hfail).2 with ⟨-, hsteps, -⟩ | ⟨entry, -, -, -, -, -, hsteps, -⟩
      · rw [hsteps]
        exact hmerged
      · rw [hsteps]
        exact fun id hid => List.mem_append_left _ (hmerged hid)
  · nomatch hl

theorem going_init {id : String} {computeHash : SpecFields V → String}
    {initialState : Dict String V}
    (h : executeSpec spec id computeHash initialState none = some s) : Going spec [] s := by
  refine ⟨runInv_init h, List.nil_subset _, by simp, fun _ => ⟨?_, ?_⟩⟩
  · obtain ⟨w, r, -, hsteps, -, -, hloop, rfl⟩ := executeSpec_cases h
    show ∀ id ∈ r.1.completedSteps, _
    rw [hloop.completedSteps_eq, hsteps]
    exact fun _ hid => nomatch hid
  · obtain ⟨w, r, -, -, houtcomes, -, hloop, rfl⟩ := executeSpec_cases h
    show ∀ id o, r.1.stepOutcomes.get? id = some o → _
    rw [hloop.stepOutcomes_eq, houtcomes]
    exact fun _ _ hget => nomatch hget

theorem OnForward.gate {w : Workflow V} (h : OnForward spec.toSpecFields w) {id : String}
    {check : String → Dict String V → A → StepOutcome V}
    (hgate : pausedGate steps w = some (id, check)) : id ∈ spec.forwardIds := by
  obtain ⟨id', hpaused, hbind⟩ := Option.bind_eq_some_iff.mp hgate
  obtain ⟨step, -, hmap⟩ := Option.bind_eq_some_iff.mp hbind
  obtain ⟨check', -, heq⟩ := Option.map_eq_some_iff.mp hmap
  obtain rfl : id' = id := (Prod.mk.inj heq).1
  obtain ⟨hid, -⟩ := Option.filter_eq_some_iff.mp hpaused
  obtain ⟨⟨key, o⟩, hitem, rfl⟩ := Option.map_eq_some_iff.mp hid
  exact h.outcome key o (Dict.get?_eq_some.mpr (List.mem_of_find?_eq_some hitem))

theorem Going.resume {w : Workflow V} (hw : w.status = .waitingApproval)
    (h : OnForward spec.toSpecFields w) {answer : A}
    (hnext : next spec steps { workflow := w, phase := .returned } (.resume answer) = some s') :
    Going spec w.completedSteps s' := by
  have hinit : RunInv spec ({ workflow := w, phase := .returned } : EngineState A V) :=
    ⟨nofun, fun _ => .inl hw, fun _ x hx => nomatch hx⟩
  have hrun := hinit.next hnext
  rcases hinit.next_cases hnext with ⟨_, _, _, _, _, hl, -⟩ | ⟨_, hl, -, hcase⟩
  · nomatch hl
  · cases hcase with
    | notWaiting hne => exact absurd hw hne
    | pending => exact ⟨hrun, fun _ hid => hid, h.completed, fun _ => h⟩
    | refused =>
      exact ⟨hrun, fun _ hid => hid, h.completed, fun hne => absurd rfl hne⟩
    | @noGate _ hgate r hloop =>
      refine ⟨hrun, ?_, h.completed, fun _ => ⟨?_, ?_⟩⟩
      · show w.completedSteps ⊆ r.1.completedSteps
        rw [hloop.completedSteps_eq]
        exact fun _ hid => hid
      · show ∀ id ∈ r.1.completedSteps, _
        rw [hloop.completedSteps_eq]
        exact h.completed
      · show ∀ id o, r.1.stepOutcomes.get? id = some o → _
        rw [hloop.stepOutcomes_eq]
        exact h.outcome
    | @approved _ id check hgate outcome houtcome hcheck r hloop =>
      have hsteps : r.1.completedSteps = w.completedSteps ++ [id] := hloop.completedSteps_eq
      refine ⟨hrun, ?_, h.completed, fun _ => ⟨?_, ?_⟩⟩
      · show w.completedSteps ⊆ r.1.completedSteps
        rw [hsteps]
        exact List.subset_append_left _ _
      · show ∀ id ∈ r.1.completedSteps, _
        rw [hsteps]
        intro id' hid'
        rcases mem_concat hid' with hid' | hid'
        · exact h.completed id' hid'
        · rw [hid']
          exact h.gate hgate
      · show ∀ id o, r.1.stepOutcomes.get? id = some o → _
        rw [hloop.stepOutcomes_eq]
        exact h.outcome

end Engine

/-! ## The program keeps the contract -/

theorem missing_le_forwardSteps (spec : SpecFields V) (completed : List String) :
    missing spec.forwardIds completed ≤ spec.forwardSteps.length :=
  (List.length_filter_le _ _).trans (List.length_map _).le

section Program

variable [PyValue V] {plane : ControlPlane V O} {runId : String}

variable {s : EngineState (Answers V O) V} {spec : WorkflowSpec V} {base : List String}

theorem runDag_of_returned (spec : WorkflowSpec V)
    (steps : String → Option (WorkflowStep (Answers V O) V)) (fuel : ℕ) (h : s.phase = .returned) :
    runDag spec steps fuel s = (return s : DispatchProg V O _) := by
  cases fuel with
  | zero => rfl
  | succ => rw [runDag, h]

theorem Going.maySave (hspec : plane.resolvePinnedSpec (plane.manifest runId) = .ok spec)
    (h : Going spec base s) :
    MaySave plane runId base s.workflow := by
  refine ⟨h.kept, fun hw => ⟨hw, fun spec' hspec' => ?_⟩⟩
  obtain rfl : spec = spec' := Except.ok.inj (hspec.symm.trans hspec')
  exact h.forward (by rw [hw]; decide)

/-- What the loop hands back, with the phase it leaves alone. -/
def Returned (spec : WorkflowSpec V) (base : List String) (φ : DispatchPhase V) :
    Except String (EngineState (Answers V O) V) → Prop
  | .ok s => φ = .executing base ∧ Going spec base s ∧ s.phase = .returned
  | .error _ => φ = .executing base

/-- With as many waves as there are forward steps the loop comes to its end. -/
theorem runDag_meets {steps : String → Option (WorkflowStep (Answers V O) V)} (fuel : ℕ)
    (h : Going spec base s) (hfuel : missing spec.forwardIds s.workflow.completedSteps ≤ fuel) :
    (runDag spec steps fuel s).Meets (dispatchContract plane runId) (Returned spec base)
      (.executing base) := by
  induction fuel generalizing s with
  | zero =>
    refine ⟨rfl, h, ?_⟩
    cases hphase : s.phase with
    | returned => rfl
    | gathering =>
      have hpos := missing_pos_of_gathering h.run hphase
      omega
  | succ fuel ih =>
    cases hphase : s.phase with
    | returned =>
      rw [runDag_of_returned spec steps _ hphase]
      exact ⟨rfl, h, hphase⟩
    | gathering =>
      rw [runDag, hphase]
      refine meets_bind.mpr (meets_perform.mpr ⟨⟨base, rfl, ?_⟩, fun r _ => ?_⟩)
      · exact fun id hid => h.notMem_base hid
      · cases r with
        | error => exact rfl
        | ok answer =>
          obtain ⟨answers, compensation⟩ := answer
          show Prog.Meets _ (orRaise _ _ >>= _) _ _
          cases hnext : next spec steps s (.wave answers compensation) with
          | none => exact rfl
          | some s' =>
            show (runDag spec steps fuel s').Meets _ _ _
            obtain ⟨hgoing, hreturned | hlt⟩ := h.wave hnext
            · rw [runDag_of_returned spec steps _ hreturned]
              exact ⟨rfl, hgoing, hreturned⟩
            · exact ih hgoing (by omega)

/-- A workflow that is handed back, in a phase that goes on from `base`. -/
def Saves (plane : ControlPlane V O) (runId : String) (base : List String) (φ : DispatchPhase V) :
    Except String (Workflow V) → Prop
  | .ok w => φ = .executing base ∧ MaySave plane runId base w
  | .error _ => φ = .executing base

theorem runDag_saves (hspec : plane.resolvePinnedSpec (plane.manifest runId) = .ok spec)
    {steps : String → Option (WorkflowStep (Answers V O) V)} (h : Going spec base s) :
    (do let s ← runDag spec steps spec.forwardSteps.length s; return s.workflow :
      DispatchProg V O (Workflow V)).Meets (dispatchContract plane runId)
        (Saves plane runId base) (.executing base) := by
  refine (runDag_meets _ h (missing_le_forwardSteps _ _)).bind (fun φ s' hs' => ?_) fun φ e he => he
  obtain ⟨rfl, hgoing, -⟩ := hs'
  exact ⟨rfl, hgoing.maySave hspec⟩

variable [DecidableEq V]

theorem executeManifest_meets : (plane.executeManifest (plane.manifest runId)).Meets
    (dispatchContract plane runId) (Saves plane runId []) (.executing []) := by
  unfold ControlPlane.executeManifest
  refine meets_bind.mpr (meets_ofExcept.mpr ?_)
  cases hspec : plane.resolvePinnedSpec (plane.manifest runId) with
  | error => exact rfl
  | ok spec =>
    refine meets_bind.mpr (meets_perform.mpr ⟨trivial, fun r _ => ?_⟩)
    cases r with
    | error => exact rfl
    | ok id =>
      refine meets_bind.mpr (meets_ofExcept.mpr ?_)
      cases plane.stepsOf spec with
      | error => exact rfl
      | ok =>
        show Prog.Meets _ (orRaise _ _ >>= _) _ _
        cases hexec : (executeSpec spec id plane.computeHash
            (seedManifestState (plane.manifest runId) ∅) none :
            Option (EngineState (Answers V O) V)) with
        | none => exact rfl
        | some => exact runDag_saves hspec (going_init hexec)

theorem resumeManifest_meets {w : Workflow V} (hw : Resumable plane runId w) :
    (plane.resumeManifest (plane.manifest runId) w).Meets (dispatchContract plane runId)
      (Saves plane runId w.completedSteps) (.executing w.completedSteps) := by
  unfold ControlPlane.resumeManifest
  refine meets_bind.mpr (meets_ofExcept.mpr ?_)
  cases hspec : plane.resolvePinnedSpec (plane.manifest runId) with
  | error => exact rfl
  | ok spec =>
    obtain ⟨hstatus, hforward⟩ := hw
    show Prog.Meets _ (if w.status ≠ .waitingApproval then _ else _) _ _
    rw [if_neg (not_not.mpr hstatus)]
    refine meets_bind.mpr (meets_ofExcept.mpr ?_)
    cases plane.stepsOf spec with
    | error => exact rfl
    | ok steps =>
      refine meets_bind.mpr (meets_perform.mpr ⟨trivial, fun r _ => ?_⟩)
      cases r with
      | error => exact rfl
      | ok answer =>
        show Prog.Meets _ (orRaise _ _ >>= _) _ _
        obtain ⟨w', hw'⟩ : ∃ w', w' = { w with
          state := seedManifestState (plane.manifest runId) w.state } := ⟨_, rfl⟩
        rw [← hw']
        have hseeded : OnForward spec.toSpecFields w' := by
          rw [hw']
          exact (hforward spec hspec).withState _
        have hsteps : w'.completedSteps = w.completedSteps := by rw [hw']
        cases hnext : next spec steps { workflow := w', phase := .returned } (.resume answer) with
        | none => exact rfl
        | some =>
          rw [← hsteps]
          exact runDag_saves hspec (Going.resume (by rw [hw']; exact hstatus) hseeded hnext)

/-- The `try` hands back a workflow to save, or the run may be failed. -/
def Orchestrated (plane : ControlPlane V O) (runId : String) (φ : DispatchPhase V) :
    Except String (Workflow V) → Prop
  | .ok w => ∃ base, φ = .executing base ∧ MaySave plane runId base w
  | .error _ => φ.MayWrite .failed

omit [DecidableEq V] in
theorem orchestrated_of_saves {φ : DispatchPhase V} {r : Except String (Workflow V)}
    (h : Saves plane runId base φ r) :
    Orchestrated plane runId φ r := by
  cases r with
  | ok => exact ⟨base, h⟩
  | error =>
    obtain rfl : φ = .executing base := h
    exact rfl

/-- The phase in which the `try` is entered. -/
def entered (resuming : Bool) : DispatchPhase V := if resuming then .resuming else .executing []

theorem orchestrate_meets (resuming : Bool) :
    (plane.orchestrate (plane.manifest runId) resuming).Meets (dispatchContract plane runId)
      (Orchestrated plane runId) (entered resuming) := by
  cases resuming with
  | false => exact executeManifest_meets.mono fun φ r h => orchestrated_of_saves h
  | true =>
    show Prog.Meets _ (Await.getLatestCheckpoint _ >>= _) _ _
    refine meets_bind.mpr (meets_perform.mpr ⟨⟨rfl, plane.runId_manifest runId⟩, ?_⟩)
    intro r hassumed
    cases r with
    | error => exact rfl
    | ok checkpoint =>
      cases checkpoint with
      | none => exact rfl
      | some c =>
        show Prog.Meets _ (orRaise (Option.filter _ (some c)) _ >>= _) _
          (c.serializedState.workflow?.elim DispatchPhase.resuming fun w =>
            .executing w.completedSteps)
        rw [Option.filter_some]
        cases hstate : c.serializedState with
        | state =>
          split_ifs
          · show Prog.Meets _ (orRaise c.serializedState.workflow? _ >>= _) _ _
            rw [hstate]
            exact rfl
          · exact rfl
        | workflow w =>
          have hmay : (DispatchPhase.executing w.completedSteps : DispatchPhase V).MayWrite .failed :=
            rfl
          split_ifs
          · show Prog.Meets _ (orRaise c.serializedState.workflow? _ >>= _) _ _
            rw [hstate]
            exact (resumeManifest_meets (hassumed w hstate)).mono fun φ r h =>
              orchestrated_of_saves h
          · exact hmay

omit [DecidableEq V] in
/-- The last status write of a terminal status, its event and its report. -/
theorem close_meets {φ : DispatchPhase V} {status : RunStatus} (hwrite : φ.MayWrite status)
    (hafter : φ.afterUpdate status = .closed status) {eventType : String}
    (hevent : (DispatchPhase.closed status : DispatchPhase V).MayReport eventType)
    (finalOutput : Option (Payload V)) (errorDetails : Option ErrorDetails)
    {outcome : GovernedWorkflowRunOutcome} (houtcome : outcome.status = status) :
    (do
      let _ ← Await.updateRunStatus (plane.manifest runId).runId status finalOutput errorDetails
      Await.appendEvent (plane.manifest runId).runId eventType
      return outcome : DispatchProg V O GovernedWorkflowRunOutcome).Meets
        (dispatchContract plane runId) Reports φ := by
  have hid := plane.runId_manifest runId
  refine meets_bind.mpr (meets_perform.mpr ⟨⟨hid, hwrite⟩, fun r _ => ?_⟩)
  cases r with
  | error => trivial
  | ok =>
    show Prog.Meets _ _ _ (φ.afterUpdate status)
    rw [hafter]
    refine meets_bind.mpr (meets_perform.mpr ⟨⟨hid, hevent⟩, fun r _ => ?_⟩)
    cases r with
    | error => trivial
    | ok _ => exact .inr (congrArg _ houtcome.symm)

omit [DecidableEq V] in
theorem settle_meets {w saved : Workflow V} (hsaved : saved.status = w.status) :
    (ControlPlane.settle (plane.manifest runId) w).Meets (dispatchContract plane runId) Reports
      (.saved saved) := by
  have hid := plane.runId_manifest runId
  have hfailed : (DispatchPhase.saved saved).MayWrite .failed := .inr (.inl rfl)
  have hreport : (DispatchPhase.closed .failed : DispatchPhase V).MayReport "run.failed" :=
    ⟨by decide, fun _ => rfl⟩
  unfold ControlPlane.settle
  cases hw : w.status with
  | completed =>
    exact close_meets (φ := .saved saved) (.inl rfl) rfl ⟨fun _ => rfl, by decide⟩ _ _ rfl
  | waitingApproval =>
    refine meets_bind.mpr (meets_perform.mpr ⟨⟨hid, ?_⟩, fun r _ => ?_⟩)
    · exact .inr (.inr ⟨rfl, hsaved.trans hw⟩)
    · cases r with
      | error => trivial
      | ok =>
        refine meets_bind.mpr (meets_perform.mpr ⟨⟨hid, by decide, by decide⟩, ?_⟩)
        intro r _
        cases r with
        | error => trivial
        | ok _ => exact .inl rfl
  | pending | running | failed | cancelled => exact close_meets hfailed rfl hreport _ _ rfl

theorem proceed_meets (resuming : Bool) :
    (plane.proceed (plane.manifest runId) resuming).Meets (dispatchContract plane runId) Reports
      (entered resuming) := by
  have hid := plane.runId_manifest runId
  refine meets_bind.mpr (meets_attempt.mpr ((orchestrate_meets resuming).mono ?_))
  intro φ r hr
  cases r with
  | error =>
    have hafter : φ.afterUpdate .failed = .closed .failed := by
      cases φ with
      | opening => exact absurd (show RunStatus.failed = .running from hr) (by decide)
      | _ => rfl
    exact close_meets hr hafter ⟨by decide, fun _ => rfl⟩ _ _ rfl
  | ok =>
    obtain ⟨base, rfl, hsave⟩ := hr
    refine meets_bind.mpr (meets_perform.mpr ⟨⟨hid, base, rfl⟩, fun r _ => ?_⟩)
    cases r with
    | error => trivial
    | ok existing =>
      refine meets_bind.mpr (meets_perform.mpr ⟨trivial, fun r _ => ?_⟩)
      cases r with
      | error => trivial
      | ok =>
        refine meets_bind.mpr (meets_perform.mpr ⟨?_, fun r _ => ?_⟩)
        · exact ⟨base, existing.length, rfl, hid, rfl, _, rfl, hsave.withState _⟩
        · cases r with
          | error => trivial
          | ok answer =>
            cases answer with
            | error => trivial
            | ok _ => exact settle_meets rfl

theorem executeGovernedWorkflowRun_meets :
    (plane.executeGovernedWorkflowRun (plane.manifest runId)).Meets (dispatchContract plane runId)
      Reports .reading := by
  have hid := plane.runId_manifest runId
  unfold ControlPlane.executeGovernedWorkflowRun
  refine meets_bind.mpr (meets_perform.mpr ⟨⟨rfl, hid⟩, fun r _ => ?_⟩)
  cases r with
  | error => trivial
  | ok run =>
    cases run with
    | none =>
      refine meets_bind.mpr (meets_perform.mpr ⟨⟨rfl, hid, rfl, rfl⟩, fun r _ => ?_⟩)
      cases r with
      | error => trivial
      | ok _ =>
        refine meets_bind.mpr (meets_perform.mpr ⟨⟨hid, by decide, by decide⟩, ?_⟩)
        intro r _
        cases r with
        | error => trivial
        | ok _ => exact proceed_meets false
    | some r =>
      show Prog.Meets _ (if r.status.IsTerminal then _ else _) _
        (if r.status.IsTerminal then DispatchPhase.closed r.status else _)
      split_ifs with hterminal
      · exact .inr rfl
      · refine meets_bind.mpr (meets_perform.mpr ⟨⟨hid, rfl⟩, fun answer _ => ?_⟩)
        cases answer with
        | error => trivial
        | ok _ =>
          show Prog.Meets _ _ _ ((DispatchPhase.opening _).afterUpdate .running)
          by_cases hwaiting : r.status = .waitingApproval
          · rw [decide_eq_true hwaiting]
            exact proceed_meets true
          · rw [decide_eq_false hwaiting]
            exact proceed_meets false

end Program

end JavisSaas.Cosa.Worker
