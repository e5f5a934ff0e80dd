import JavisSaas.Cosa.Worker.DispatchPhases

/-!
# Duplicate dispatches, crashes and resumes of a governed workflow run

A step that a checkpoint has completed must not be executed again, a terminal run must not be
executed, opened or written over, and what a dispatch reports must be what the run is.

* `RunView`, `Facts`: what the repository holds of one run, and what a dispatch may rely on.
* `operation_ok`: what one operation of a dispatch does to the views.
* `Guarded`: a run is read or cancelled while no dispatch is in charge of it, and one that is read
  open, without waiting for an approval, has no completed step in its checkpoints.
* `governedLaw_of_run`: runs of guarded steps obey the law.
* `not_governedLaw_crash`: a worker stops between the checkpoint and the status.
-/

namespace JavisSaas.Cosa.Worker

open JavisSaas.Lib JavisSaas.Agent.Runs JavisSaas.Agent.Workflows

variable {V O : Type}

/-! ## Views -/

/-- What the repository holds of one run. -/
@[ext]
structure RunView (V : Type) where
  run : Option (RunRecord (Payload V))
  latest : Option (RunCheckpointRecord (Payload V))
  saved : List (RunCheckpointRecord (Payload V))

def viewOf (b : Backend (Payload V)) (runId : String) : RunView V where
  run := b.getRun runId
  latest := b.getLatestCheckpoint runId
  saved := b.listCheckpoints runId

/-- The steps that are completed in a checkpoint. -/
def completedIn (c : RunCheckpointRecord (Payload V)) : List String :=
  c.serializedState.workflow?.elim [] (·.completedSteps)

namespace RunView

/-- The steps whose completion was checkpointed. -/
def completions (v : RunView V) : List String := v.saved.flatMap completedIn

/-- The run is there, in a status with this property. -/
def Has (v : RunView V) (p : RunStatus → Prop) : Prop := ∃ r ∈ v.run, p r.status

theorem Has.not {v : RunView V} {p p' : RunStatus → Prop} (h : v.Has p)
    (hp : ∀ status, p status → ¬p' status) : ¬v.Has p' := by
  rintro ⟨r', hr', hstatus'⟩
  obtain ⟨r, hr, hstatus⟩ := h
  obtain rfl : r = r' := Option.some.inj (hr.symm.trans hr')
  exact hp _ hstatus hstatus'

instance (v : RunView V) (p : RunStatus → Prop) [DecidablePred p] : Decidable (v.Has p) :=
  inferInstanceAs (Decidable (∃ r ∈ v.run, p r.status))

end RunView

section Facts

variable [PyValue V] (plane : ControlPlane V O) (runId : String)

/-- The latest checkpoint can be resumed from, and has everything that was checkpointed. -/
def LatestCovers (v : RunView V) : Prop :=
  ∃ c w, v.latest = some c ∧ c.serializedState = .workflow w ∧ Resumable plane runId w ∧
    v.completions ⊆ w.completedSteps

/-- A run that waits can be resumed, and a run that is not there has no checkpoints. -/
structure ViewOk (v : RunView V) : Prop where
  waiting : v.Has (· = .waitingApproval) → LatestCovers plane runId v
  absent : v.run = none → v.completions ⊆ []

/-- What holds of the run while a dispatch is in this phase. -/
def Facts (v : RunView V) : DispatchPhase V → Prop
  | .reading => True
  | .creating => v.run = none ∧ v.completions ⊆ []
  | .opening resuming => v.Has (¬·.IsTerminal) ∧
      (resuming = true → LatestCovers plane runId v) ∧ (resuming = false → v.completions ⊆ [])
  | .resuming => v.Has (· = .running) ∧ LatestCovers plane runId v
  | .executing base => v.Has (· = .running) ∧ v.completions ⊆ base
  | .counted base count => v.Has (· = .running) ∧ v.completions ⊆ base ∧ v.saved.length = count
  | .saved w => v.Has (· = .running) ∧ (w.status = .waitingApproval → LatestCovers plane runId v)
  | .paused => True
  | .closed status => v.Has (· = status) ∧ status.IsTerminal

variable {plane runId} {v : RunView V} {φ : DispatchPhase V}

theorem not_terminal_of_running {status : RunStatus} (h : status = .running) :
    ¬status.IsTerminal := by
  rw [h]
  decide

theorem Facts.not_closed (h : Facts plane runId v φ) (hφ : φ.inCharge = true)
    {status : RunStatus} : ¬Facts plane runId v (.closed status) := by
  rintro ⟨hclosed, hterminal⟩
  have hopen : v.run = none ∨ v.Has (¬·.IsTerminal) := by
    have hrunning (hv : v.Has (· = .running)) : v.Has (¬·.IsTerminal) := by
      obtain ⟨r, hr, hstatus⟩ := hv
      exact ⟨r, hr, not_terminal_of_running hstatus⟩
    cases φ with
    | creating => exact .inl h.1
    | opening => exact .inr h.1
    | resuming | executing | counted | saved => exact .inr (hrunning h.1)
    | _ => nomatch hφ
  obtain ⟨r, hr, rfl⟩ := hclosed
  rcases hopen with hnone | ⟨r', hr', hopen⟩
  · rw [hnone] at hr
    nomatch hr
  · obtain rfl : r = r' := Option.some.inj (hr.symm.trans hr')
    exact hopen hterminal

end Facts

/-! ## One operation -/

section Writes

variable {b : Backend (Payload V)} {runId : String} {r : RunRecord (Payload V)}
  {status : RunStatus} {finalOutput : Option (Payload V)}
  {errorDetails : Option ErrorDetails}

/-- The views after a status write. -/
structure StatusWritten (b : Backend (Payload V)) (runId : String) (status : RunStatus)
    (b' : Backend (Payload V)) : Prop where
  ok : b.CheckpointsOk → b'.CheckpointsOk
  has : (viewOf b' runId).Has (· = status)
  latest : (viewOf b' runId).latest = (viewOf b runId).latest
  saved : (viewOf b' runId).saved = (viewOf b runId).saved
  others : ∀ runId', runId' ≠ runId → viewOf b' runId' = viewOf b runId'

theorem statusWritten_update (hr : b.getRun runId = some r) :
    StatusWritten b runId status (b.updateRunStatus runId status finalOutput errorDetails).2 := by
  have hruns : (b.updateRunStatus runId status finalOutput errorDetails).2.runs =
      b.runs.set runId (r.withStatus status finalOutput errorDetails) := by
    have hget : b.runs.get? runId = some r := hr
    rw [Backend.runs_updateRunStatus, RunRepository.writeStatus, hget]
    rfl
  have hsame : ∀ runId', (b.updateRunStatus runId status finalOutput errorDetails).2.getLatestCheckpoint
      runId' = b.getLatestCheckpoint runId' := by
    intro runId'
    cases b <;> rfl
  have hlist : ∀ runId', (b.updateRunStatus runId status finalOutput errorDetails).2.listCheckpoints
      runId' = b.listCheckpoints runId' := by
    intro runId'
    cases b <;> rfl
  refine ⟨fun hok => ?_, ?_, hsame runId, hlist runId, fun runId' hne => ?_⟩
  · cases b <;> exact hok
  · refine ⟨r.withStatus status finalOutput errorDetails, ?_, rfl⟩
    show Dict.get? _ _ = _
    rw [hruns, Dict.get?_set_self]
  · unfold viewOf
    rw [hsame, hlist]
    congr 1
    show Dict.get? _ _ = _
    rw [hruns, Dict.get?_set_of_ne _ (Ne.symm hne)]
    rfl

theorem statusWritten_create {run : RunRecord (Payload V)} (hnew : b.getRun run.runId = none)
    (hworkspace : run.workspaceId.isSome) :
    StatusWritten b run.runId run.status (b.createRun run) := by
  have hruns : (b.createRun run).runs = b.runs.set run.runId run := by
    cases b with
    | memory => rfl
    | postgres db =>
      have hget : db.runs.get? run.runId = none := hnew
      have hsome : run.workspaceId ≠ none := Option.isSome_iff_ne_none.mp hworkspace
      simp only [Backend.createRun, PostgresRepository.createRun, if_neg hsome, hget]
      rfl
  have hkept : (∀ runId', (b.createRun run).getLatestCheckpoint runId' =
      b.getLatestCheckpoint runId') ∧ (∀ runId', (b.createRun run).listCheckpoints runId' =
      b.listCheckpoints runId') ∧ (b.CheckpointsOk → (b.createRun run).CheckpointsOk) := by
    cases b with
    | memory => exact ⟨fun _ => rfl, fun _ => rfl, fun hok => hok⟩
    | postgres =>
      unfold Backend.createRun PostgresRepository.createRun
      split_ifs <;> exact ⟨fun _ => rfl, fun _ => rfl, fun hok => hok⟩
  obtain ⟨hsame, hlist, hok⟩ := hkept
  refine ⟨hok, ?_, hsame _, hlist _, fun runId' hne => ?_⟩
  · refine ⟨run, ?_, rfl⟩
    show Dict.get? _ _ = _
    rw [hruns, Dict.get?_set_self]
  · unfold viewOf
    rw [hsame, hlist]
    congr 1
    show Dict.get? _ _ = _
    rw [hruns, Dict.get?_set_of_ne _ (Ne.symm hne)]
    rfl

end Writes

/-- An open run that does not wait has no completed step in its checkpoints. -/
def MayOpen (v : RunView V) : Prop :=
  v.Has (fun status => ¬status.IsTerminal ∧ status ≠ .waitingApproval) → v.completions = []
deriving Decidable

/-- A run that is read may be opened. -/
def OpensAt (b : Backend (Payload V)) : DispatchOp V O → Prop
  | .getRun runId => MayOpen (viewOf b runId)
  | _ => True

/-- `uuid4` makes references that no checkpoint has. -/
def FreshAt (b : Backend (Payload V)) : DispatchOp V O → Prop
  | .saveCheckpoint c => b.getCheckpoint c.checkpointRef = none
  | _ => True

theorem completions_eq {v v' : RunView V} (h : v'.saved = v.saved) :
    v'.completions = v.completions := by
  unfold RunView.completions
  rw [h]

section Operation

variable [PyValue V] [DecidableEq V] (plane : ControlPlane V O) (runId : String)

/-- What an operation of a dispatch of this run leaves behind. -/
structure OperationOk (b b' : Backend (Payload V)) (φ φ' : DispatchPhase V) : Prop where
  ok : b'.CheckpointsOk
  view : ViewOk plane runId (viewOf b' runId)
  facts : Facts plane runId (viewOf b' runId) φ'
  others : ∀ runId', runId' ≠ runId → viewOf b' runId' = viewOf b runId'
  idle : φ.inCharge = false → b' = b
  terminal : TerminalKept b.runs b'.runs

variable {plane runId} {b : Backend (Payload V)} {φ φ' : DispatchPhase V}

omit [DecidableEq V] in
theorem operationOk_of_same (hok : b.CheckpointsOk) (hview : ViewOk plane runId (viewOf b runId))
    (hfacts : Facts plane runId (viewOf b runId) φ') : OperationOk plane runId b b φ φ' :=
  ⟨hok, hview, hfacts, fun _ _ => rfl, fun _ => rfl, .refl _⟩

omit [DecidableEq V] in
theorem LatestCovers.congr {v v' : RunView V} (h : LatestCovers plane runId v)
    (hlatest : v'.latest = v.latest) (hsaved : v'.saved = v.saved) :
    LatestCovers plane runId v' := by
  unfold LatestCovers
  rw [hlatest, completions_eq hsaved]
  exact h

omit [DecidableEq V] in
theorem operationOk_getRun (hok : b.CheckpointsOk) (hview : ViewOk plane runId (viewOf b runId))
    (hguard : MayOpen (viewOf b runId)) :
    OperationOk plane runId b b φ (.afterGetRun (b.getRun runId)) := by
  refine operationOk_of_same hok hview ?_
  cases hrun : b.getRun runId with
  | none => exact ⟨hrun, hview.absent hrun⟩
  | some r =>
    unfold DispatchPhase.afterGetRun
    dsimp only
    split_ifs with hterminal
    · exact ⟨⟨r, hrun, rfl⟩, hterminal⟩
    · refine ⟨⟨r, hrun, hterminal⟩, fun hwaiting => ?_, fun hwaiting => ?_⟩
      · exact hview.waiting ⟨r, hrun, of_decide_eq_true hwaiting⟩
      · rw [hguard ⟨r, hrun, hterminal, of_decide_eq_false hwaiting⟩]
        exact List.Subset.refl _

omit [DecidableEq V] in
theorem operationOk_createRun (hok : b.CheckpointsOk) {run : RunRecord (Payload V)}
    (hfacts : Facts plane run.runId (viewOf b run.runId) .creating)
    (hworkspace : run.workspaceId.isSome) (hstatus : run.status = .running) :
    OperationOk plane run.runId b (b.createRun run) .creating (.executing []) := by
  obtain ⟨hnone, hempty⟩ := hfacts
  have hw := statusWritten_create hnone hworkspace
  have hhas : (viewOf (b.createRun run) run.runId).Has (· = .running) := hstatus ▸ hw.has
  refine ⟨hw.ok hok, ⟨fun hwaiting => ?_, fun habsent => ?_⟩, ⟨hhas, ?_⟩, hw.others, nofun, ?_⟩
  · exact absurd hwaiting (hhas.not fun status h => by rw [h]; decide)
  · obtain ⟨r, hr, -⟩ := hhas
    rw [habsent] at hr
    nomatch hr
  · rw [completions_eq hw.saved]
    exact hempty
  · exact Backend.terminalKept_createRun hnone

omit [DecidableEq V] in
theorem operationOk_updateRunStatus (hok : b.CheckpointsOk)
    (hfacts : Facts plane runId (viewOf b runId) φ) {status : RunStatus}
    (hwrite : φ.MayWrite status) (finalOutput : Option (Payload V))
    (errorDetails : Option ErrorDetails) :
    OperationOk plane runId b (b.updateRunStatus runId status finalOutput errorDetails).2 φ
      (φ.afterUpdate status) := by
  -- the run is there and open, and is left waiting only with a checkpoint to resume from
  have hopen : (viewOf b runId).Has (¬·.IsTerminal) ∧ φ.inCharge = true ∧
      (status = .waitingApproval → LatestCovers plane runId (viewOf b runId)) := by
    have hrunning (hv : (viewOf b runId).Has (· = .running)) :
        (viewOf b runId).Has (¬·.IsTerminal) := by
      obtain ⟨r, hr, hstatus⟩ := hv
      exact ⟨r, hr, not_terminal_of_running hstatus⟩
    cases φ with
    | opening =>
      obtain rfl : status = .running := hwrite
      exact ⟨hfacts.1, rfl, nofun⟩
    | resuming | executing =>
      obtain rfl : status = .failed := hwrite
      exact ⟨hrunning hfacts.1, rfl, nofun⟩
    | saved =>
      refine ⟨hrunning hfacts.1, rfl, fun hwaiting => ?_⟩
      subst hwaiting
      rcases hwrite with h | h | ⟨-, hw⟩
      · nomatch h
      · nomatch h
      · exact hfacts.2 hw
    | _ => exact absurd hwrite (by exact fun h => h)
  obtain ⟨⟨r, hr, hrOpen⟩, hcharge, hwaits⟩ := hopen
  have hw : StatusWritten b runId status
      (b.updateRunStatus runId status finalOutput errorDetails).2 := statusWritten_update hr
  have hcovers : LatestCovers plane runId (viewOf b runId) →
      LatestCovers plane runId (viewOf (b.updateRunStatus runId status finalOutput
        errorDetails).2 runId) := fun h => h.congr hw.latest hw.saved
  refine ⟨hw.ok hok, ⟨fun hwaiting => ?_, fun habsent => ?_⟩, ?_, hw.others, ?_, ?_⟩
  · obtain ⟨r', hr', hstatus'⟩ := hw.has
    obtain ⟨r'', hr'', hstatus''⟩ := hwaiting
    obtain rfl : r' = r'' := Option.some.inj (hr'.symm.trans hr'')
    exact hcovers (hwaits (hstatus'.symm.trans hstatus''))
  · obtain ⟨r', hr', -⟩ := hw.has
    rw [habsent] at hr'
    nomatch hr'
  · have hlast (hclosing : status = .completed ∨ status = .failed ∨ status = .waitingApproval) :
        Facts plane runId (viewOf (b.updateRunStatus runId status finalOutput errorDetails).2 runId)
          (if status = .waitingApproval then .paused else .closed status) := by
      split_ifs with hwaiting
      · trivial
      · refine ⟨hw.has, ?_⟩
        rcases hclosing with rfl | rfl | h
        · exact .inl rfl
        · exact .inr (.inl rfl)
        · exact absurd h hwaiting
    cases φ with
    | opening resuming =>
      obtain rfl : status = .running := hwrite
      cases resuming with
      | true => exact ⟨hw.has, hcovers (hfacts.2.1 rfl)⟩
      | false =>
        refine ⟨hw.has, ?_⟩
        rw [completions_eq hw.saved]
        exact hfacts.2.2 rfl
    | resuming | executing => exact hlast (.inr (.inl hwrite))
    | saved =>
      rcases hwrite with h | h | ⟨h, -⟩
      · exact hlast (.inl h)
      · exact hlast (.inr (.inl h))
      · exact hlast (.inr (.inr h))
    | _ => exact absurd hwrite (by exact fun h => h)
  · rw [hcharge]
    exact nofun
  · rw [Backend.runs_updateRunStatus, TerminalKept.writeStatus_iff]
    intro r' hr' hterminal _
    obtain rfl : r = r' := Option.some.inj (hr.symm.trans hr')
    exact absurd hterminal hrOpen

omit [DecidableEq V] in
theorem operationOk_saveCheckpoint (hok : b.CheckpointsOk) {base : List String}
    {c : RunCheckpointRecord (Payload V)}
    (hfacts : Facts plane c.runId (viewOf b c.runId)
      (.counted base (b.listCheckpoints c.runId).length))
    (hseq : c.sequenceNo = (b.listCheckpoints c.runId).length + 1) {w : Workflow V}
    (hstate : c.serializedState = .workflow w) (hsave : MaySave plane c.runId base w)
    (hfresh : b.getCheckpoint c.checkpointRef = none) {b' : Backend (Payload V)}
    (h : b.saveCheckpoint c = .ok b') :
    OperationOk plane c.runId b b' (.counted base (b.listCheckpoints c.runId).length)
      (.saved w) := by
  obtain ⟨hrunning, hbase, -⟩ := hfacts
  have hw := Backend.checkpointSaved_of_saveCheckpoint hok hseq hfresh h
  have hrun : ∀ runId, b'.getRun runId = b.getRun runId := by
    intro runId
    unfold Backend.getRun
    rw [hw.runs]
  have hcompletions : (viewOf b' c.runId).completions ⊆ w.completedSteps := by
    intro id hid
    obtain ⟨c', hc', hid'⟩ := List.mem_flatMap.mp hid
    rcases (hw.mem c').mp hc' with hold | hnew
    · exact hsave.kept (hbase (List.mem_flatMap.mpr ⟨c', hold, hid'⟩))
    · rw [hnew, completedIn, hstate] at hid'
      exact hid'
  have hlatest : (viewOf b' c.runId).latest = some c :=
    (hw.latest c.runId).trans (if_pos rfl)
  have hrunning' : (viewOf b' c.runId).Has (· = .running) := by
    obtain ⟨r, hr, hstatus⟩ := hrunning
    exact ⟨r, (hrun c.runId).trans hr, hstatus⟩
  refine ⟨hw.ok, ⟨fun hwaiting => ?_, fun habsent => ?_⟩, ⟨hrunning', fun hpaused => ?_⟩,
    fun runId' hne => ?_, nofun, ?_⟩
  · exact absurd hwaiting (hrunning'.not fun status hs => by rw [hs]; decide)
  · obtain ⟨r, hr, -⟩ := hrunning'
    rw [habsent] at hr
    nomatch hr
  · exact ⟨c, w, hlatest, hstate, hsave.resumable hpaused, hcompletions⟩
  · unfold viewOf
    rw [hrun, hw.latest, if_neg (Ne.symm hne), hw.others _ (Ne.symm hne)]
  · rw [hw.runs]
    exact .refl _

omit [PyValue V] [DecidableEq V] in
@[simp] theorem after_error (φ : DispatchPhase V) (o : DispatchOp V O) (e : String) :
    φ.after o (.error e) = φ := by
  cases o <;> rfl

theorem respond_saveCheckpoint (c : RunCheckpointRecord (Payload V))
    (a : Except IntegrityError Unit) :
    (governedWorkload plane).respond (.saveCheckpoint c) (.ok a) b =
      match b.saveCheckpoint c with
      | .ok b' => (.ok (.ok ()), b')
      | .error e => (.ok (.error e), b) := by
  simp only [Workload.respond, governedWorkload, DispatchOp.exec]
  cases b.saveCheckpoint c <;> rfl

theorem operation_ok (hok : b.CheckpointsOk) (hview : ViewOk plane runId (viewOf b runId))
    (hfacts : Facts plane runId (viewOf b runId) φ) {o : DispatchOp V O}
    (hallowed : dispatchAllowed plane runId φ o) {answer r : Except String o.Ans}
    (hguard : answer.isOk → OpensAt b o) (hfresh : answer.isOk → FreshAt b o)
    {b' : Backend (Payload V)} (hr : (governedWorkload plane).respond o answer b = (r, b')) :
    OperationOk plane runId b b' φ (φ.after o r) := by
  cases answer with
  | error =>
    cases hr
    rw [after_error]
    exact operationOk_of_same hok hview hfacts
  | ok =>
    replace hguard := hguard rfl
    replace hfresh := hfresh rfl
    cases o with
    | getRun =>
      obtain ⟨rfl, rfl⟩ := hallowed
      cases hr
      exact operationOk_getRun hok hview hguard
    | createRun =>
      obtain ⟨rfl, rfl, hworkspace, hstatus⟩ := hallowed
      cases hr
      exact operationOk_createRun hok hfacts hworkspace hstatus
    | updateRunStatus _ _ finalOutput errorDetails =>
      obtain ⟨rfl, hwrite⟩ := hallowed
      cases hr
      exact operationOk_updateRunStatus hok hfacts hwrite finalOutput errorDetails
    | appendEvent | uuid | checkPending | gather =>
      cases hr
      exact operationOk_of_same hok hview hfacts
    | getLatestCheckpoint runId =>
      obtain ⟨rfl, rfl⟩ := hallowed
      cases hr
      refine operationOk_of_same hok hview ?_
      obtain ⟨hrunning, c, w, hlatest, hstate, -, hcovers⟩ := hfacts
      have hget : b.getLatestCheckpoint runId = some c := hlatest
      rw [hget]
      show Facts _ _ _ (c.serializedState.workflow?.elim _ _)
      rw [hstate]
      exact ⟨hrunning, hcovers⟩
    | listCheckpoints =>
      obtain ⟨rfl, base, rfl⟩ := hallowed
      cases hr
      exact operationOk_of_same hok hview ⟨hfacts.1, hfacts.2, rfl⟩
    | saveCheckpoint c =>
      obtain ⟨base, count, rfl, rfl, hseq, w, hstate, hsave⟩ := hallowed
      obtain rfl : (b.listCheckpoints c.runId).length = count := hfacts.2.2
      rw [respond_saveCheckpoint] at hr
      cases hsaved : b.saveCheckpoint c with
      | error =>
        rw [hsaved] at hr
        cases hr
        exact operationOk_of_same hok hview hfacts
      | ok =>
        rw [hsaved] at hr
        cases hr
        show OperationOk _ _ _ _ _ (c.serializedState.workflow?.elim _ _)
        rw [hstate]
        exact operationOk_saveCheckpoint hok hfacts hseq hstate hsave hfresh hsaved

end Operation

/-! ## The law -/

abbrev GovernedPool (V O : Type) :=
  Pool (DispatchOp V O) DispatchOp.Ans String GovernedWorkflowRunOutcome String
    (Backend (Payload V))

abbrev Dispatch (V O : Type) :=
  Thread (DispatchOp V O) DispatchOp.Ans String GovernedWorkflowRunOutcome String

abbrev GovernedLabel (V O : Type) :=
  PoolLabel (DispatchOp V O) DispatchOp.Ans String String CancelRequest

/-- A wave executes no checkpointed step and no terminal run; what is announced has ended so. -/
def Lawful (v : RunView V) : DispatchOp V O → Prop
  | .gather spec s => v.Has (¬·.IsTerminal) ∧ ∀ id ∈ mayRun spec s, id ∉ v.completions
  | .appendEvent _ eventType => (eventType = "run.completed" → v.Has (· = .completed)) ∧
      (eventType = "run.failed" → v.Has (· = .failed))
  | _ => True

/-- The operation that begins or ends is lawful. -/
def LawfulAt (s : GovernedPool V O) (i : ℕ) : Prop :=
  ∀ t ∈ s.threads[i]?, t.alive = true → ∀ o ∈ t.code.pending, Lawful (viewOf s.store t.tag) o

def LawfulStep (s : GovernedPool V O) : GovernedLabel V O → Prop
  | .begin i => LawfulAt s i
  | .step i _ => LawfulAt s i
  | _ => True

/-- `s'` was reached from `s`. -/
structure GovernedLaw (s s' : GovernedPool V O) : Prop where
  terminal : TerminalKept s.store.runs s'.store.runs
  /-- what a dispatch has returned is what the run is -/
  reported : ∀ (i : ℕ) (t : Dispatch V O), s'.threads[i]? = some t →
    ∀ outcome, t.code = .ret outcome → outcome.status ≠ .waitingApproval →
      (viewOf s'.store t.tag).Has (· = outcome.status)

/-! ## The steps that do no harm -/

/-- What dispatch `i` has done. -/
def dispatchPhase (i : ℕ) (log : List (Entry (DispatchOp V O) DispatchOp.Ans String String)) :
    DispatchPhase V :=
  phase DispatchPhase.after .reading i log

/-- A dispatch that has not stopped and has something left to do. -/
def Active (t : Dispatch V O) : Prop := t.alive = true ∧ t.code.pending.isSome = true

theorem active_of_call {tag : String} {o : DispatchOp V O}
    {k : Except String o.Ans → DispatchProg V O GovernedWorkflowRunOutcome} {busy : Bool} :
    Active (⟨tag, .call o k, busy, true⟩ : Dispatch V O) :=
  ⟨rfl, rfl⟩

/-- Dispatch `i` is between its reading of the run and its last status write. -/
def InCharge (s : GovernedPool V O) (i : ℕ) (runId : String) : Prop :=
  ∃ t ∈ s.threads[i]?, t.tag = runId ∧ Active t ∧ (dispatchPhase i s.log).inCharge = true

/-- No dispatch is in charge of the run. -/
def Unattended (s : GovernedPool V O) (runId : String) : Prop :=
  ∀ i < s.threads.length, ¬InCharge s i runId

/-- The run is read while no dispatch is in charge of it. -/
def ReadsUnattended (s : GovernedPool V O) : DispatchOp V O → Prop
  | .getRun runId => Unattended s runId
  | _ => True

/-- An operation that raises reads and writes nothing. -/
def Guarded (s : GovernedPool V O) : GovernedLabel V O → Prop
  | .step i answer => ∀ x ∈ s.pendingAt i, (answer x.2).isOk →
      ReadsUnattended s x.2 ∧ OpensAt s.store x.2
  | .act e => Unattended s e.runId
  | _ => True

/-- `uuid4` makes references that no checkpoint has. -/
def FreshReferences (s : GovernedPool V O) : GovernedLabel V O → Prop
  | .step i answer => ∀ x ∈ s.pendingAt i, (answer x.2).isOk → FreshAt s.store x.2
  | _ => True

instance (v : RunView V) (o : DispatchOp V O) : Decidable (Lawful v o) := by
  cases o <;> unfold Lawful <;> infer_instance

instance (s : GovernedPool V O) (i : ℕ) : Decidable (LawfulAt s i) :=
  inferInstanceAs (Decidable (∀ t ∈ s.threads[i]?, t.alive = true → ∀ o ∈ t.code.pending, _))

instance (s : GovernedPool V O) (l : GovernedLabel V O) : Decidable (LawfulStep s l) := by
  cases l <;> unfold LawfulStep <;> infer_instance

instance (s : GovernedPool V O) (i : ℕ) (runId : String) : Decidable (InCharge s i runId) :=
  inferInstanceAs (Decidable (∃ t ∈ s.threads[i]?,
    t.tag = runId ∧ (t.alive = true ∧ t.code.pending.isSome = true) ∧ _))

instance (s : GovernedPool V O) (runId : String) : Decidable (Unattended s runId) :=
  inferInstanceAs (Decidable (∀ i < s.threads.length, ¬InCharge s i runId))

instance (s : GovernedPool V O) (o : DispatchOp V O) : Decidable (ReadsUnattended s o) := by
  cases o <;> unfold ReadsUnattended <;> infer_instance

instance (b : Backend (Payload V)) (o : DispatchOp V O) : Decidable (OpensAt b o) := by
  cases o <;> unfold OpensAt <;> infer_instance

instance (b : Backend (Payload V)) (o : DispatchOp V O) : Decidable (FreshAt b o) := by
  cases o <;> unfold FreshAt <;> infer_instance

instance (s : GovernedPool V O) (l : GovernedLabel V O) : Decidable (Guarded s l) := by
  cases l <;> unfold Guarded <;> infer_instance

instance (s : GovernedPool V O) (l : GovernedLabel V O) : Decidable (FreshReferences s l) := by
  cases l <;> unfold FreshReferences <;> infer_instance

/-- A repository without runs and checkpoints. -/
def NoRuns : Backend (Payload V) → Prop
  | .memory repo => repo.runs = ∅ ∧ repo.runCheckpoints = ∅
  | .postgres db => db.runs = ∅ ∧ db.checkpoints = ∅

theorem viewOf_of_noRuns {b : Backend (Payload V)} (h : NoRuns b) (runId : String) :
    (viewOf b runId).run = none ∧ (viewOf b runId).completions = [] := by
  cases b with
  | memory repo =>
    obtain ⟨hruns, hrefs⟩ := h
    constructor
    · show repo.runs.get? runId = none
      rw [hruns, Dict.get?_empty]
    · show List.flatMap completedIn (repo.listCheckpoints runId) = []
      rw [RunRepository.listCheckpoints, hrefs, Dict.get?_empty]
      rfl
  | postgres db =>
    obtain ⟨hruns, hrows⟩ := h
    constructor
    · show db.runs.get? runId = none
      rw [hruns, Dict.get?_empty]
    · show List.flatMap completedIn (List.mergeSort (PostgresRepository.checkpointRows _ _) _) = []
      have hnil : PostgresRepository.checkpointRows (∅ : Dict String (RunCheckpointRecord (Payload V)))
          runId = [] := rfl
      rw [hrows, hnil, List.mergeSort_nil]
      rfl

theorem checkpointsOk_of_noRuns {b : Backend (Payload V)} (h : NoRuns b) : b.CheckpointsOk := by
  cases b with
  | memory =>
    intro runId refs hrefs
    rw [h.2, Dict.get?_empty] at hrefs
    nomatch hrefs
  | postgres =>
    intro runId c hc
    rw [h.2] at hc
    nomatch hc

/-! ## Runs -/

section Runs

variable [PyValue V] [DecidableEq V] {plane : ControlPlane V O} {s s' : GovernedPool V O}
  {l : GovernedLabel V O}

structure GovernedInv (plane : ControlPlane V O) (s : GovernedPool V O) : Prop where
  conforms : (governedWorkload plane).Conforms (dispatchContract plane) .reading
    (fun _ => Reports) s
  ok : s.store.CheckpointsOk
  view : ∀ runId, ViewOk plane runId (viewOf s.store runId)
  sole : ∀ i j runId, InCharge s i runId → InCharge s j runId → i = j
  facts : ∀ (i : ℕ) (t : Dispatch V O), s.threads[i]? = some t →
    Active t ∨ (dispatchPhase i s.log).inCharge = false →
      Facts plane t.tag (viewOf s.store t.tag) (dispatchPhase i s.log)

variable {store : Backend (Payload V)} {runId : String} {o : DispatchOp V O}
  {r : Except String o.Ans} {i : ℕ}

theorem governedInv_init (h : NoRuns store) : GovernedInv plane { store } := by
  refine ⟨Workload.conforms_empty, checkpointsOk_of_noRuns h, fun runId => ⟨?_, fun _ => ?_⟩,
    ?_, fun i t ht => nomatch ht⟩
  · rintro ⟨r, hr, -⟩
    rw [(viewOf_of_noRuns h runId).1] at hr
    nomatch hr
  · rw [(viewOf_of_noRuns h runId).2]
    exact List.Subset.refl _
  · rintro i j runId ⟨t, ht, -⟩
    nomatch ht

omit [PyValue V] [DecidableEq V] in
theorem Unattended.not_inCharge (h : Unattended s runId) (i : ℕ) : ¬InCharge s i runId := by
  rintro ⟨t, ht, hrest⟩
  exact h i (List.getElem?_eq_some_iff.mp ht).1 ⟨t, ht, hrest⟩

theorem GovernedInv.answersAs (h : GovernedInv plane s)
    (hs : (governedWorkload plane).next s l = some s') :
    (governedWorkload plane).AnswersAs (dispatchContract plane) .reading s l := by
  cases (governedWorkload plane).moves_of_next hs with
  | @step i runId o k busy answer r store ht hlast hr =>
    rintro x hx
    obtain rfl : (runId, o) = x := Option.some.inj ((s.pendingAt_of_call ht).symm.trans hx)
    have hallowed := h.conforms.allowed ht rfl
    have hfacts := h.facts i _ ht (.inl active_of_call)
    cases o with
    | getLatestCheckpoint runId' =>
      obtain ⟨hphase, rfl⟩ := hallowed
      have hphase' : dispatchPhase i s.log = .resuming := hphase
      rw [hphase'] at hfacts
      obtain ⟨-, c, w, hlatest, hstate, hresumable, -⟩ := hfacts
      cases hanswer : answer (.getLatestCheckpoint runId') with
      | error => exact trivial
      | ok =>
        have hget : s.store.getLatestCheckpoint runId' = some c := hlatest
        show (dispatchContract plane runId').assumed _ (.getLatestCheckpoint runId')
          (.ok (s.store.getLatestCheckpoint runId'))
        rw [hget]
        intro w' hw'
        obtain rfl : w = w' := Payload.workflow.inj (hstate.symm.trans hw')
        exact hresumable
    | _ => exact trivial
  | _ => exact trivial

omit [DecidableEq V] in
theorem inCharge_after {φ : DispatchPhase V} (hallowed : dispatchAllowed plane runId φ o)
    (h : (φ.after o r).inCharge = true) : φ.inCharge = true ∨ r.isOk ∧ o = .getRun runId := by
  cases r with
  | error =>
    rw [after_error] at h
    exact .inl h
  | ok =>
    cases o with
    | getRun => exact .inr ⟨rfl, congrArg _ hallowed.2⟩
    | createRun | getLatestCheckpoint =>
      rw [hallowed.1]
      exact .inl rfl
    | updateRunStatus =>
      have hwrite := hallowed.2
      cases φ with
      | reading | creating | counted | paused | closed => exact hwrite.elim
      | _ => exact .inl rfl
    | listCheckpoints =>
      obtain ⟨-, base, rfl⟩ := hallowed
      exact .inl rfl
    | saveCheckpoint =>
      obtain ⟨base, count, rfl, -⟩ := hallowed
      exact .inl rfl
    | _ => exact .inl h

theorem GovernedInv.operation (h : GovernedInv plane s)
    {k : Except String o.Ans → DispatchProg V O GovernedWorkflowRunOutcome} {busy : Bool}
    {answer : (o : DispatchOp V O) → Except String o.Ans}
    (ht : s.threads[i]? = some ⟨runId, .call o k, busy, true⟩)
    (hr : (governedWorkload plane).respond o (answer o) s.store = (r, store))
    (hguard : Guarded s (.step i answer)) (hfresh : FreshReferences s (.step i answer)) :
    OperationOk plane runId s.store store (dispatchPhase i s.log)
      ((dispatchPhase i s.log).after o r) := by
  have hpending := s.pendingAt_of_call ht
  exact operation_ok h.ok (h.view runId) (h.facts i _ ht (.inl active_of_call))
    (h.conforms.allowed ht rfl) (fun hans => (hguard _ hpending hans).2) (hfresh _ hpending) hr

omit [PyValue V] [DecidableEq V] in
/-- The pool after an operation of dispatch `i`. -/
def performed (s : GovernedPool V O) (i : ℕ) (runId : String) (o : DispatchOp V O)
    (r : Except String o.Ans) (code : DispatchProg V O GovernedWorkflowRunOutcome)
    (store : Backend (Payload V)) : GovernedPool V O where
  store := store
  threads := s.threads.set i ⟨runId, code, false, true⟩
  log := s.log ++ [Entry.did i runId o r]

/-- The operation of one dispatch keeps the invariant. -/
theorem GovernedInv.step (h : GovernedInv plane s)
    {k : Except String o.Ans → DispatchProg V O GovernedWorkflowRunOutcome} {busy : Bool}
    {answer : (o : DispatchOp V O) → Except String o.Ans}
    (ht : s.threads[i]? = some ⟨runId, .call o k, busy, true⟩)
    (hr : (governedWorkload plane).respond o (answer o) s.store = (r, store))
    (hguard : Guarded s (.step i answer)) (hfresh : FreshReferences s (.step i answer))
    (hconforms : (governedWorkload plane).Conforms (dispatchContract plane) .reading
      (fun _ => Reports) (performed s i runId o r (k r) store)) :
    GovernedInv plane (performed s i runId o r (k r) store) := by
  have hop := h.operation ht hr hguard hfresh
  have hallowed : dispatchAllowed plane runId (dispatchPhase i s.log) o :=
    h.conforms.allowed ht rfl
  have hself : dispatchPhase i (s.log ++ [Entry.did i runId o r]) =
      (dispatchPhase i s.log).after o r := phase_did_self
  have hother {j : ℕ} (hij : i ≠ j) : dispatchPhase j (s.log ++ [Entry.did i runId o r]) =
      dispatchPhase j s.log := phase_did_of_ne hij
  have hactive : Active (⟨runId, .call o k, busy, true⟩ : Dispatch V O) := active_of_call
  have hanswered (hans : r.isOk) : (answer o).isOk := by
    cases hanswer : answer o with
    | ok => rfl
    | error =>
      rw [hanswer] at hr
      cases hr
      exact hans
  -- whoever is in charge now was so before, or has just read an unattended run
  have hbefore {j : ℕ} {runId' : String}
      (hj : InCharge (performed s i runId o r (k r) store) j runId') :
      InCharge s j runId' ∨ j = i ∧ runId' = runId ∧ Unattended s runId := by
    obtain ⟨t, htj, htag, hact, hcharge⟩ := hj
    rcases Workload.getElem?_set htj with ⟨rfl, rfl⟩ | ⟨hij, htj⟩
    · have hcharge' :
          (dispatchPhase i (s.log ++ [Entry.did i runId o r])).inCharge = true := hcharge
      rw [hself] at hcharge'
      rcases inCharge_after hallowed hcharge' with hcharge' | ⟨hans, rfl⟩
      · exact .inl ⟨_, ht, htag, hactive, hcharge'⟩
      · exact .inr ⟨rfl, htag.symm,
          (hguard _ (s.pendingAt_of_call ht) (hanswered hans)).1⟩
    · have hcharge' :
          (dispatchPhase j (s.log ++ [Entry.did i runId o r])).inCharge = true := hcharge
      rw [hother hij] at hcharge'
      exact .inl ⟨t, htj, htag, hact, hcharge'⟩
  refine ⟨hconforms, hop.ok, fun runId' => ?_, fun j j' runId' hj hj' => ?_, fun j t htj hphase => ?_⟩
  · by_cases hid : runId' = runId
    · exact hid ▸ hop.view
    · show ViewOk plane runId' (viewOf store runId')
      rw [hop.others runId' hid]
      exact h.view runId'
  · rcases hbefore hj with hold | ⟨rfl, rfl, hfree⟩
    · rcases hbefore hj' with hold' | ⟨rfl, rfl, hfree⟩
      · exact h.sole j j' runId' hold hold'
      · exact absurd hold (hfree.not_inCharge j)
    · rcases hbefore hj' with hold' | ⟨rfl, -, -⟩
      · exact absurd hold' (hfree.not_inCharge j')
      · rfl
  · rcases Workload.getElem?_set htj with ⟨rfl, rfl⟩ | ⟨hij, htj⟩
    · show Facts plane runId (viewOf store runId)
        (dispatchPhase i (s.log ++ [Entry.did i runId o r]))
      rw [hself]
      exact hop.facts
    · show Facts plane t.tag (viewOf store t.tag)
        (dispatchPhase j (s.log ++ [Entry.did i runId o r]))
      replace hphase : Active t ∨
          (dispatchPhase j (s.log ++ [Entry.did i runId o r])).inCharge = false := hphase
      rw [hother hij] at hphase ⊢
      have hfacts := h.facts j t htj hphase
      by_cases htag : t.tag = runId
      · by_cases hcharge : (dispatchPhase i s.log).inCharge = true
        · -- the other dispatch of the run is not in charge, and has not seen its end
          have hidle : (dispatchPhase j s.log).inCharge = false := by
            rcases hphase with hact | hidle
            · rw [← Bool.not_eq_true]
              intro hcharge'
              exact hij (h.sole i j runId ⟨_, ht, rfl, hactive, hcharge⟩
                ⟨t, htj, htag, hact, hcharge'⟩)
            · exact hidle
          have hnot (status : RunStatus) :
              ¬Facts plane runId (viewOf s.store runId) (.closed status) :=
            (h.facts i _ ht (.inl hactive)).not_closed hcharge
          rw [htag] at hfacts
          cases hj : dispatchPhase j s.log with
          | reading | paused => trivial
          | closed status =>
            rw [hj] at hfacts
            exact absurd hfacts (hnot status)
          | _ =>
            rw [hj] at hidle
            nomatch hidle
        · rw [Bool.not_eq_true] at hcharge
          rw [hop.idle hcharge]
          exact hfacts
      · rw [hop.others t.tag htag]
        exact hfacts

theorem GovernedInv.quiet (h : GovernedInv plane s)
    (hconforms : (governedWorkload plane).Conforms (dispatchContract plane) .reading
      (fun _ => Reports) s') (hstore : s'.store = s.store)
    (hthreads : ∀ (j : ℕ) (t' : Dispatch V O), s'.threads[j]? = some t' →
      dispatchPhase j s'.log = .reading ∨ ∃ t : Dispatch V O, s.threads[j]? = some t ∧
        t'.tag = t.tag ∧ (Active t' → Active t) ∧ dispatchPhase j s'.log = dispatchPhase j s.log) :
    GovernedInv plane s' := by
  have hbefore {j : ℕ} {runId : String} (hj : InCharge s' j runId) : InCharge s j runId := by
    obtain ⟨t', ht', htag, hact, hcharge⟩ := hj
    rcases hthreads j t' ht' with hreading | ⟨t, ht, htag', hact', hphase⟩
    · rw [hreading] at hcharge
      nomatch hcharge
    · rw [hphase] at hcharge
      exact ⟨t, ht, htag'.symm.trans htag, hact' hact, hcharge⟩
  refine ⟨hconforms, hstore ▸ h.ok, hstore ▸ h.view, fun i j runId hi hj => ?_, fun j t' ht' hidle => ?_⟩
  · exact h.sole i j runId (hbefore hi) (hbefore hj)
  · rcases hthreads j t' ht' with hreading | ⟨t, ht, htag, hact, hphase⟩
    · rw [hreading]
      trivial
    · rw [hphase] at hidle ⊢
      rw [hstore, htag]
      exact h.facts j t ht (hidle.imp_left hact)

omit [PyValue V] [DecidableEq V] in
theorem cancelRequest_apply (e : CancelRequest) (b : Backend (Payload V)) :
    e.apply b = (b.transitionRunStatus e.runId
      [.pending, .running, .waitingApproval, .waitingInput, .cancelled] .cancelled none
      (some ((∅ : ErrorDetails).set "reason" e.reason))).2 := by
  unfold CancelRequest.apply cancelRun
  rw [Prog.runOn_perform_bind]
  cases (RunOp.exec (.transitionRunStatus e.runId _ _ _ _) b).1 <;> rfl

omit [PyValue V] [DecidableEq V] in
theorem terminalKept_cancel (e : CancelRequest) (b : Backend (Payload V)) :
    TerminalKept b.runs (e.apply b).runs := by
  rw [cancelRequest_apply, Backend.runs_transitionRunStatus, TerminalKept.writeStatus_iff]
  intro r hr hterminal hfrom
  rcases hterminal with h | h | h
  · rw [h] at hfrom
    nomatch hfrom
  · rw [h] at hfrom
    nomatch hfrom
  · exact h.symm

theorem GovernedInv.cancel (h : GovernedInv plane s) {e : CancelRequest}
    (hfree : Unattended s e.runId)
    (hconforms : (governedWorkload plane).Conforms (dispatchContract plane) .reading
      (fun _ => Reports) { s with store := e.apply s.store }) :
    GovernedInv plane { s with store := e.apply s.store } := by
  have hok : (e.apply s.store).CheckpointsOk := by
    rw [cancelRequest_apply]
    have hok := h.ok
    revert hok
    cases s.store <;> exact id
  have hlatest (runId : String) : (viewOf (e.apply s.store) runId).latest =
      (viewOf s.store runId).latest := by
    rw [cancelRequest_apply]
    cases s.store <;> rfl
  have hsaved (runId : String) : (viewOf (e.apply s.store) runId).saved =
      (viewOf s.store runId).saved := by
    rw [cancelRequest_apply]
    cases s.store <;> rfl
  have hrun (runId : String) : (viewOf (e.apply s.store) runId).run =
      if e.runId = runId then (viewOf s.store runId).run.map fun r =>
        if r.status ∈ [.pending, .running, .waitingApproval, .waitingInput, .cancelled] then
          r.withStatus .cancelled none (some ((∅ : ErrorDetails).set "reason" e.reason))
        else r
      else (viewOf s.store runId).run := by
    show Dict.get? (e.apply s.store).runs runId = _
    rw [cancelRequest_apply, Backend.runs_transitionRunStatus, RunRepository.get?_writeStatus]
    split_ifs with hid
    · rw [hid]
      simp only [decide_eq_true_eq]
      rfl
    · rfl
  have hsame (runId : String) (hne : e.runId ≠ runId) :
      viewOf (e.apply s.store) runId = viewOf s.store runId :=
    RunView.ext ((hrun runId).trans (if_neg hne)) (hlatest runId) (hsaved runId)
  refine ⟨hconforms, hok, fun runId => ?_, h.sole, fun j t ht hidle => ?_⟩
  · show ViewOk plane runId (viewOf (e.apply s.store) runId)
    by_cases hid : e.runId = runId
    · subst hid
      have hview := h.view e.runId
      have hself := (hrun e.runId).trans (if_pos rfl)
      refine ⟨fun hwaiting => ?_, fun habsent => ?_⟩
      · obtain ⟨r, hr, hstatus⟩ := hwaiting
        rw [hself] at hr
        obtain ⟨r', hr', heq⟩ := Option.map_eq_some_iff.mp hr
        split_ifs at heq with hfrom
        · rw [← heq] at hstatus
          nomatch hstatus
        · rw [← heq] at hstatus
          rw [hstatus] at hfrom
          exact absurd (by decide) hfrom
      · rw [completions_eq (hsaved e.runId)]
        rw [hself, Option.map_eq_none_iff] at habsent
        exact hview.absent habsent
    · rw [hsame runId hid]
      exact h.view runId
  · show Facts plane t.tag (viewOf (e.apply s.store) t.tag) (dispatchPhase j s.log)
    have hfacts := h.facts j t ht hidle
    by_cases hid : e.runId = t.tag
    · have hcharge : (dispatchPhase j s.log).inCharge = false := by
        rcases hidle with hact | hidle
        · rw [← Bool.not_eq_true]
          intro hcharge
          exact hfree.not_inCharge j ⟨t, ht, hid.symm, hact, hcharge⟩
        · exact hidle
      cases hphase : dispatchPhase j s.log with
      | reading | paused => trivial
      | closed =>
        rw [hphase] at hfacts
        obtain ⟨⟨r, hr, rfl⟩, hterminal⟩ := hfacts
        obtain ⟨r', hr', hstatus⟩ := terminalKept_cancel e s.store t.tag r hr hterminal
        exact ⟨⟨r', hr', hstatus⟩, hterminal⟩
      | _ =>
        rw [hphase] at hcharge
        nomatch hcharge
    · rw [hsame t.tag hid]
      exact hfacts

theorem GovernedInv.next (h : GovernedInv plane s) (hguard : Guarded s l)
    (hfresh : FreshReferences s l) (hs : (governedWorkload plane).next s l = some s') :
    GovernedInv plane s' ∧ TerminalKept s.store.runs s'.store.runs := by
  have hconforms := h.conforms.next (fun _ => executeGovernedWorkflowRun_meets) (h.answersAs hs) hs
  cases (governedWorkload plane).moves_of_next hs with
  | act e => exact ⟨h.cancel hguard hconforms, terminalKept_cancel e s.store⟩
  | @step i runId o k busy answer r store ht hlast hr =>
    exact ⟨h.step ht hr hguard hfresh hconforms, (h.operation ht hr hguard hfresh).terminal⟩
  | start =>
    refine ⟨h.quiet hconforms rfl fun j t' ht' => ?_, .refl _⟩
    rcases Workload.getElem?_start ht' with ht | ⟨rfl, -⟩
    · exact .inr ⟨t', ht, rfl, id, rfl⟩
    · exact .inl (phase_of_fresh h.conforms.threads)
  | @begin i runId o k ht hlast =>
    refine ⟨h.quiet hconforms rfl fun j t' ht' => .inr ?_, .refl _⟩
    rcases Workload.getElem?_set ht' with ⟨rfl, rfl⟩ | ⟨-, htj⟩
    · exact ⟨_, ht, rfl, fun _ => active_of_call, phase_began⟩
    · exact ⟨t', htj, rfl, id, phase_began⟩
  | @crash i runId code busy ht =>
    refine ⟨h.quiet hconforms rfl fun j t' ht' => .inr ?_, .refl _⟩
    rcases Workload.getElem?_set ht' with ⟨rfl, rfl⟩ | ⟨-, htj⟩
    · exact ⟨_, ht, rfl, fun hact => (nomatch hact.1), rfl⟩
    · exact ⟨t', htj, rfl, id, rfl⟩

theorem GovernedInv.lawfulAt (h : GovernedInv plane s) (i : ℕ) : LawfulAt s i := by
  rintro ⟨runId, code, busy, alive⟩ ht halive o ho
  have hact : Active (⟨runId, code, busy, alive⟩ : Dispatch V O) := by
    refine ⟨halive, ?_⟩
    show code.pending.isSome = true
    rw [show code.pending = some o from ho]
    rfl
  have hfacts := h.facts i _ ht (.inl hact)
  have hallowed : dispatchAllowed plane runId (dispatchPhase i s.log) o :=
    h.conforms.allowed ht ho
  cases o with
  | gather =>
    obtain ⟨base, hphase, hnew⟩ := hallowed
    rw [hphase] at hfacts
    obtain ⟨⟨r, hr, hstatus⟩, hcovered⟩ := hfacts
    exact ⟨⟨r, hr, not_terminal_of_running hstatus⟩, fun id hid hdone => hnew id hid (hcovered hdone)⟩
  | appendEvent =>
    obtain ⟨-, hreport⟩ := hallowed
    cases hphase : dispatchPhase i s.log with
    | closed =>
      rw [hphase] at hreport hfacts
      constructor
      · intro hevent
        exact hreport.1 hevent ▸ hfacts.1
      · intro hevent
        exact hreport.2 hevent ▸ hfacts.1
    | _ =>
      rw [hphase] at hreport
      exact ⟨fun hevent => absurd hevent hreport.1, fun hevent => absurd hevent hreport.2⟩
  | _ => exact trivial

theorem GovernedInv.reported (h : GovernedInv plane s) {t : Dispatch V O}
    (ht : s.threads[i]? = some t) {outcome : GovernedWorkflowRunOutcome}
    (hcode : t.code = .ret outcome) (hstatus : outcome.status ≠ .waitingApproval) :
    (viewOf s.store t.tag).Has (· = outcome.status) := by
  have hmeets := h.conforms.meets i t ht
  rw [hcode] at hmeets
  have hclosed : dispatchPhase i s.log = .closed outcome.status := hmeets.resolve_left hstatus
  have hfacts := h.facts i t ht (.inr (by rw [hclosed]; rfl))
  rw [hclosed] at hfacts
  exact hfacts.1

/-- Along guarded steps no checkpointed step and no terminal run is executed, terminal runs stay,
and dispatches report what the run is. -/
theorem governedLaw_of_run (plane : ControlPlane V O) {store : Backend (Payload V)}
    (hstore : NoRuns store) {ls ls' : List (GovernedLabel V O)}
    (hrun : (governedWorkload plane).system.run { store } ls = some s)
    (hrun' : (governedWorkload plane).system.run s ls' = some s')
    (hguarded : (governedWorkload plane).system.Along Guarded { store } (ls ++ ls'))
    (hfresh : (governedWorkload plane).system.Along FreshReferences { store } (ls ++ ls')) :
    (governedWorkload plane).system.Along LawfulStep { store } (ls ++ ls') ∧
      GovernedLaw s s' := by
  have hboth := (governedWorkload plane).system.along_and hguarded hfresh
  have hstep : ∀ (s : GovernedPool V O) (l : GovernedLabel V O) (s' : GovernedPool V O),
      GovernedInv plane s → Guarded s l ∧ FreshReferences s l →
      (governedWorkload plane).next s l = some s' →
      GovernedInv plane s' ∧ TerminalKept s.store.runs s'.store.runs :=
    fun _ _ _ h hl hs => h.next hl.1 hl.2 hs
  have hinit : GovernedInv plane { store } := governedInv_init hstore
  obtain ⟨hbefore, hafter⟩ := ((governedWorkload plane).system.along_append hrun).mp hboth
  have hinv := (governedWorkload plane).system.inv_of_along (I := GovernedInv plane)
    (fun s l s' h hl hs => (hstep s l s' h hl hs).1) hinit hbefore hrun
  have hinv' := (governedWorkload plane).system.inv_of_along (I := GovernedInv plane)
    (fun s l s' h hl hs => (hstep s l s' h hl hs).1) hinv hafter hrun'
  refine ⟨?_, ?_, fun i t ht outcome hcode hstatus => hinv'.reported ht hcode hstatus⟩
  · refine (governedWorkload plane).system.along_of_inv (I := GovernedInv plane)
      (fun s l s' h hl hs => (hstep s l s' h hl hs).1) (fun s l h _ => ?_) hinit hboth
    cases l with
    | begin i => exact h.lawfulAt i
    | step i => exact h.lawfulAt i
    | _ => trivial
  · exact (governedWorkload plane).system.rel_of_along (I := GovernedInv plane)
      (R := fun s s' => TerminalKept s.store.runs s'.store.runs) (fun _ => .refl _)
      (fun _ _ _ h h' => h.trans h') hstep hinv hafter hrun'

end Runs

/-! ## A pause that is resumed, and a worker that stops -/

/-- A message is sent, and a founder approves the publication. -/
def publishSpec : SpecFields String where
  id := "publish"
  steps := [{ id := "notify" },
    { id := "gate", type := .approvalGate, dependsOn := ["notify"]
      subjectKey := some "project_id" }]

def publishPlane : ControlPlane String Unit where
  engine := { resolveInputs := fun _ state => state }
  computeHash _ := "h"
  definitions := (∅ : Dict (String × String × String) (WorkflowDefinitionRecord String)).set
    ("ws_1", "publish", "1.0.0") { definitionHash := "h", specData := publishSpec }
  manifest runId := {
    runId, projectId := "prj_1", workspaceId := "ws_1", workflowAssetId := "publish"
    workflowDefinitionHash := "h", object := "manifest" }
  runId_manifest _ := rfl

/-- The gateway completes the call, and the approval is given. -/
def approved : Answers String Unit where
  createApproval _ := "appr_1"
  getApproval _ := some { status := "approved" }
  gateway request := { toolCallId := request.toolCallId, status := .completed }
  other := ()

/-- Nothing raises, and the next identifier is `uuid`. -/
def replies (uuid : String) : (o : DispatchOp String Unit) → Except String o.Ans
  | .uuid => .ok uuid
  | .checkPending _ => .ok approved
  | .gather _ _ => .ok ([approved], approved)
  | .getRun _ => .ok none
  | .createRun _ => .ok ()
  | .updateRunStatus _ _ _ _ => .ok none
  | .appendEvent _ _ => .ok ()
  | .getLatestCheckpoint _ => .ok none
  | .listCheckpoints _ => .ok []
  | .saveCheckpoint _ => .ok (.ok ())

/-- Dispatch `i` performs its next `n` operations. -/
def goOn (i n : ℕ) (uuid : String) : List (GovernedLabel String Unit) :=
  List.replicate n (.step i (replies uuid))

/-- The first dispatch sends the message, pauses at the gate and saves its checkpoint. -/
def untilSaved : List (GovernedLabel String Unit) :=
  [PoolLabel.start "run_1"] ++ goOn 0 4 "wf_1" ++ [PoolLabel.begin 0] ++ goOn 0 1 "" ++
    [PoolLabel.begin 0] ++
    goOn 0 4 "ckpt_1"

/-- A duplicate of the dispatch. -/
def duplicate (i n : ℕ) : List (GovernedLabel String Unit) :=
  [PoolLabel.start "run_1"] ++ goOn i n "ckpt_2"

def pausedPool : GovernedPool String Unit :=
  ((governedWorkload publishPlane).system.run { store := .memory .empty }
    (untilSaved ++ goOn 0 2 "")).get (by decide +kernel)

def donePool : GovernedPool String Unit :=
  ((governedWorkload publishPlane).system.run pausedPool
    (duplicate 1 9 ++ duplicate 2 1)).get (by decide +kernel)

/-- The run is resumed and completed, and a third dispatch finds it so. -/
theorem governedLaw_donePool :
    (governedWorkload publishPlane).system.Along LawfulStep { store := .memory {} }
      ((untilSaved ++ goOn 0 2 "") ++ (duplicate 1 9 ++ duplicate 2 1)) ∧
      GovernedLaw pausedPool donePool :=
  governedLaw_of_run publishPlane (show NoRuns (.memory {}) from ⟨rfl, rfl⟩)
    (Option.some_get _).symm (Option.some_get _).symm (by decide +kernel) (by decide +kernel)

/-- The worker stops before it writes the status, and a duplicate starts the manifest over. -/
def afterCrash : List (GovernedLabel String Unit) :=
  untilSaved ++ [PoolLabel.crash 0] ++ duplicate 1 3 ++ [PoolLabel.begin 1]

def cancelledPool : GovernedPool String Unit :=
  ((governedWorkload publishPlane).system.run { store := .memory .empty }
    (untilSaved ++ [.act ⟨"run_1", "not needed"⟩])).get (by decide +kernel)

/-- The dispatch writes its status over the cancellation. -/
def reopenedPool : GovernedPool String Unit :=
  ((governedWorkload publishPlane).system.run cancelledPool (goOn 0 2 "")).get (by decide +kernel)

/-- The message is sent again, and a cancelled run waits again for its approval. -/
theorem not_governedLaw_crash :
    (((governedWorkload publishPlane).system.run { store := .memory {} } afterCrash).isSome ∧
      ¬(governedWorkload publishPlane).system.Along LawfulStep { store := .memory {} } afterCrash) ∧
    ¬TerminalKept cancelledPool.store.runs reopenedPool.store.runs := by
  refine ⟨by decide +kernel, fun h => ?_⟩
  have hcancelled : ∃ r ∈ cancelledPool.store.runs.get? "run_1", r.status = .cancelled := by
    decide +kernel
  obtain ⟨r, hr, hstatus⟩ := hcancelled
  obtain ⟨r', hr', hstatus'⟩ := h "run_1" r hr (.inr (.inr hstatus))
  have hwaiting : ∀ r ∈ reopenedPool.store.runs.get? "run_1", r.status = .waitingApproval := by
    decide +kernel
  rw [hwaiting r' hr', hstatus] at hstatus'
  nomatch hstatus'

end JavisSaas.Cosa.Worker
