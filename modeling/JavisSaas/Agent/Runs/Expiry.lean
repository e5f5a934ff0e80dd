import JavisSaas.Lib.Pool
import JavisSaas.Agent.Runs.Backends

/-!
# Run statuses and the expiry sweep

The writers of a run's status, interleaved at every `await`: `cancel_run`, `transition_run_status`,
`update_run_status`, decisions, and `sweep_dormant_runs` of `packages/agent/runs/expiry.py`, which
decides each expired approval and then updates its run.

* `RunStatusLaw`: a terminal status stays, and the sweep fails a run only for an approval that its
  own decision found pending.
* `Guarded`: an update meets no terminal run, and no approval is decided between the sweep's
  reading and its decision.
* `runStatusLaw_of_run`, `not_runStatusLaw_lateSweep`.
-/

namespace JavisSaas.Agent.Runs

open JavisSaas.Lib

variable {P : Type}

/-! ## Operations -/

inductive RunOp (P : Type) where
  | getRun (runId : String)
  | updateRunStatus (runId : String) (status : RunStatus) (finalOutput : Option P)
      (errorDetails : Option ErrorDetails)
  | transitionRunStatus (runId : String) (fromStatuses : List RunStatus) (toStatus : RunStatus)
      (finalOutput : Option P) (errorDetails : Option ErrorDetails)
  | decideApproval (approvalId reviewer : String) (approved : Bool) (reason : Option String)
      (evidence : Option Evidence)
  /-- `createdAt` orders the rows in Postgres -/
  | listPendingApprovals (createdAt : String → ℤ)

namespace RunOp

abbrev Ans : RunOp P → Type
  | getRun _ => Option (RunRecord P)
  | updateRunStatus _ _ _ _ => Option (RunRecord P)
  | transitionRunStatus _ _ _ _ _ => Option (RunRecord P)
  | decideApproval _ _ _ _ _ => Option RunApprovalRecord
  | listPendingApprovals _ => List RunApprovalRecord

def exec : (o : RunOp P) → Backend P → o.Ans × Backend P
  | getRun runId, b => (b.getRun runId, b)
  | updateRunStatus runId status finalOutput errorDetails, b =>
    b.updateRunStatus runId status finalOutput errorDetails
  | transitionRunStatus runId fromStatuses toStatus finalOutput errorDetails, b =>
    b.transitionRunStatus runId fromStatuses toStatus finalOutput errorDetails
  | decideApproval approvalId reviewer approved reason evidence, b =>
    b.decideApproval approvalId reviewer approved reason evidence
  | listPendingApprovals createdAt, b => (b.listPendingApprovals createdAt, b)

end RunOp

/-- An exception is its text. -/
abbrev RunProg (P α : Type) := Prog (RunOp P) RunOp.Ans String α

namespace Await

abbrev getRun (runId : String) : RunProg P (Option (RunRecord P)) :=
  Prog.perform (RunOp.getRun runId)

abbrev updateRunStatus (runId : String) (status : RunStatus) (finalOutput : Option P)
    (errorDetails : Option ErrorDetails) : RunProg P (Option (RunRecord P)) :=
  Prog.perform (RunOp.updateRunStatus runId status finalOutput errorDetails)

abbrev transitionRunStatus (runId : String) (fromStatuses : List RunStatus)
    (toStatus : RunStatus) (finalOutput : Option P) (errorDetails : Option ErrorDetails) :
    RunProg P (Option (RunRecord P)) :=
  Prog.perform (RunOp.transitionRunStatus runId fromStatuses toStatus finalOutput errorDetails)

abbrev decideApproval (approvalId reviewer : String) (approved : Bool) (reason : Option String)
    (evidence : Option Evidence) : RunProg P (Option RunApprovalRecord) :=
  Prog.perform (RunOp.decideApproval approvalId reviewer approved reason evidence)

abbrev listPendingApprovals (createdAt : String → ℤ) : RunProg P (List RunApprovalRecord) :=
  Prog.perform (RunOp.listPendingApprovals createdAt)

end Await

/-! ## Programs -/

def cancelRun (runId reason : String) : RunProg P (Option (RunRecord P)) := do
  let result ← Await.transitionRunStatus runId
    [.pending, .running, .waitingApproval, .waitingInput, .cancelled] .cancelled none
    (some ((∅ : ErrorDetails).set "reason" reason))
  match result with
  | some r => return some r
  | none => Await.getRun runId

structure ExpirySweepResult where
  totalSwept : ℕ
  expiredRuns : List String := []
  archivedRuns : List String := []
  timestamp : ℤ

/-- `appr.expires_at and now > appr.expires_at`. -/
def RunApprovalRecord.IsExpired (a : RunApprovalRecord) (now : ℤ) : Prop :=
  ∃ t ∈ a.expiresAt, t < now
deriving Decidable

/-- The body of the loop of `sweep_dormant_runs`. -/
def sweepApproval (now : ℤ) (appr : RunApprovalRecord) : RunProg P (List String) :=
  if appr.IsExpired now then do
    let _ ← Await.decideApproval appr.approvalId "system:expiry_daemon" false
      (some "Approval expired due to inactivity timeout") none
    match appr.runId with
    | some runId =>
      if truthy runId then do
        let _ ← Await.updateRunStatus runId .failed none
          (some ((∅ : ErrorDetails).set "error"
            "Run timed out waiting for human approval"))
        return [runId]
      else return []
    | none => return []
  else return []

/-- The loop, with the runs it has failed. -/
def sweepAll (now : ℤ) : List RunApprovalRecord → RunProg P (List String)
  | [] => return []
  | appr :: rest => do
    let runs ← sweepApproval now appr
    let more ← sweepAll now rest
    return runs ++ more

def sweepDormantRuns (now : ℤ) (createdAt : String → ℤ) : RunProg P ExpirySweepResult := do
  let pending ← Await.listPendingApprovals createdAt
  let expired ← sweepAll now pending
  return { totalSwept := expired.length, expiredRuns := expired, timestamp := now }

inductive RunTask (P : Type) where
  | cancel (runId reason : String)
  | transition (runId : String) (fromStatuses : List RunStatus) (toStatus : RunStatus)
      (finalOutput : Option P) (errorDetails : Option ErrorDetails)
  | complete (runId : String) (status : RunStatus) (finalOutput : Option P)
      (errorDetails : Option ErrorDetails)
  | decide (approvalId reviewer : String) (approved : Bool) (reason : Option String)
      (evidence : Option Evidence)
  | sweep (now : ℤ) (createdAt : String → ℤ)

inductive TaskResult (P : Type) where
  | run (r : Option (RunRecord P))
  | approval (a : Option RunApprovalRecord)
  | swept (r : ExpirySweepResult)

def RunTask.program : RunTask P → RunProg P (TaskResult P)
  | cancel runId reason => do return .run (← cancelRun runId reason)
  | transition runId fromStatuses toStatus finalOutput errorDetails => do
    return .run (← Await.transitionRunStatus runId fromStatuses toStatus finalOutput errorDetails)
  | complete runId status finalOutput errorDetails => do
    return .run (← Await.updateRunStatus runId status finalOutput errorDetails)
  | decide approvalId reviewer approved reason evidence => do
    return .approval (← Await.decideApproval approvalId reviewer approved reason evidence)
  | sweep now createdAt => do return .swept (← sweepDormantRuns now createdAt)

/-- What happens beside the programs: new approvals, and new runs under new identifiers. -/
inductive Creation (P : Type) where
  | approval (a : RunApprovalRecord)
  | run (r : RunRecord P)

def Creation.apply : Creation P → Backend P → Backend P
  | approval a, b => b.createApproval a
  | run r, b => if (b.getRun r.runId).isSome then b else b.createRun r

def runWorkload (P : Type) :
    Workload (RunOp P) RunOp.Ans String (TaskResult P) (RunTask P) (Backend P) (Creation P) where
  program := RunTask.program
  exec o b := some (o.exec b)
  lasting _ := false
  act := Creation.apply

abbrev RunPool (P : Type) :=
  Pool (RunOp P) RunOp.Ans String (TaskResult P) (RunTask P) (Backend P)

abbrev RunPoolLabel (P : Type) :=
  PoolLabel (RunOp P) RunOp.Ans String (RunTask P) (Creation P)

/-! ## The law -/

/-- The approvals listed, and the identifier and the answer of the last decision. -/
structure Sweeping where
  listed : List RunApprovalRecord := []
  decided : Option (String × Option RunApprovalRecord) := none

def Sweeping.after (φ : Sweeping) : (o : RunOp P) → Except String o.Ans → Sweeping
  | .listPendingApprovals _, .ok l => { φ with listed := l }
  | .decideApproval approvalId _ _ _ _, .ok r => { φ with decided := some (approvalId, r) }
  | _, _ => φ

/-- What program `i` has read in this history. -/
def sweeping (i : ℕ) (log : List (Entry (RunOp P) RunOp.Ans String (RunTask P))) : Sweeping :=
  phase Sweeping.after {} i log

/-- The run is that of an expired approval that this sweep has decided, and found pending. -/
def Sweeping.MayFail (φ : Sweeping) (now : ℤ) (runId : String) : Prop :=
  ∃ a ∈ φ.listed, a.IsExpired now ∧ a.runId = some runId ∧
    ∃ r, φ.decided = some (a.approvalId, some r)

/-- Whenever a sweep updated a run, it was allowed to fail it. -/
def SweepLaw (log : List (Entry (RunOp P) RunOp.Ans String (RunTask P))) : Prop :=
  ∀ pre e post, log = pre ++ e :: post →
    ∀ i now createdAt runId status finalOutput errorDetails r,
      e = .did i (.sweep now createdAt)
        (.updateRunStatus runId status finalOutput errorDetails) r →
      (sweeping i pre).MayFail now runId

/-- `s'` was reached from `s`. -/
structure RunStatusLaw (s s' : RunPool P) : Prop where
  terminal : TerminalKept s.store.runs s'.store.runs
  sweep : SweepLaw s'.log

/-! ## The steps that do no harm -/

/-- Nobody has decided the approval since program `i` listed it, or no run waits for it. -/
def StillPending (s : RunPool P) (i : ℕ) (approvalId : String) : Prop :=
  (∃ a ∈ s.store.approvals.get? approvalId, a.status = .pending) ∨
    ∀ a ∈ (sweeping i s.log).listed, a.approvalId = approvalId → truthy a.runId = false
deriving Decidable

/-- No terminal run is given another status; a sweep decides an approval that is still pending. -/
def GuardedOp (s : RunPool P) (i : ℕ) : RunTask P → RunOp P → Prop
  | _, .updateRunStatus runId status _ _ =>
    ∀ r ∈ s.store.runs.get? runId, r.status.IsTerminal → status = r.status
  | _, .transitionRunStatus runId fromStatuses toStatus _ _ =>
    ∀ r ∈ s.store.runs.get? runId, r.status.IsTerminal → r.status ∈ fromStatuses →
      toStatus = r.status
  | .sweep _ _, .decideApproval approvalId _ _ _ _ => StillPending s i approvalId
  | _, _ => True

/-- An operation that raises writes nothing. -/
def Guarded (s : RunPool P) : RunPoolLabel P → Prop
  | .step i answer => ∀ x ∈ s.pendingAt i, (answer x.2).isOk → GuardedOp s i x.1 x.2
  | _ => True

instance (s : RunPool P) (i : ℕ) (task : RunTask P) (o : RunOp P) :
    Decidable (GuardedOp s i task o) := by
  cases o <;> cases task <;> unfold GuardedOp <;> infer_instance

instance (s : RunPool P) (l : RunPoolLabel P) : Decidable (Guarded s l) :=
  match l with
  | .step i answer =>
    inferInstanceAs (Decidable (∀ x ∈ s.pendingAt i, (answer x.2).isOk → GuardedOp s i x.1 x.2))
  | .start _ | .begin _ | .crash _ | .act _ => instDecidableTrue

/-! ## What a sweep does -/

/-- No run waits for an approval that the decision did not find pending. -/
def Sweeping.DecidedInTime (φ : Sweeping) (approvalId : String) (r : Option RunApprovalRecord) :
    Prop :=
  r = none → ∀ a ∈ φ.listed, a.approvalId = approvalId → truthy a.runId = false

/-- A sweep fails a run only after its decision, and counts on that to be in time. -/
def sweepContract (task : RunTask P) : Contract (RunOp P) RunOp.Ans String Sweeping where
  allowed φ o :=
    match task, o with
    | .sweep now _, .updateRunStatus runId _ _ _ => φ.MayFail now runId
    | _, _ => True
  assumed φ o r :=
    match task, o, r with
    | .sweep _ _, .decideApproval approvalId _ _ _ _, .ok r => φ.DecidedInTime approvalId r
    | _, _, _ => True
  after := Sweeping.after

section

variable {now : ℤ} {createdAt : String → ℤ} {φ : Sweeping}

theorem sweepApproval_meets {appr : RunApprovalRecord} (happr : appr ∈ φ.listed) :
    (sweepApproval now appr : RunProg P (List String)).Meets
      (sweepContract (.sweep now createdAt)) (fun φ' _ => φ'.listed = φ.listed) φ := by
  unfold sweepApproval
  split_ifs with hexpired
  · refine Prog.meets_bind.mpr (Prog.meets_perform.mpr ⟨trivial, fun r hr => ?_⟩)
    cases r with
    | error => exact rfl
    | ok decided =>
      show Prog.Meets _ _ _ { φ with decided := some (appr.approvalId, decided) }
      cases hrun : appr.runId with
      | none => exact rfl
      | some =>
        dsimp only
        split_ifs with htruthy
        · -- the run is failed, so the decision has to be the sweep's own
          cases decided with
          | none =>
            have hno := hr rfl appr happr rfl
            rw [hrun] at hno
            exact absurd htruthy (Bool.eq_false_iff.mp hno)
          | some a =>
            refine Prog.meets_bind.mpr (Prog.meets_perform.mpr ⟨?_, fun r _ => ?_⟩)
            · exact ⟨appr, happr, hexpired, hrun, a, rfl⟩
            · cases r <;> exact rfl
        · exact rfl
  · exact rfl

theorem sweepAll_meets {rest : List RunApprovalRecord} (hrest : ∀ a ∈ rest, a ∈ φ.listed) :
    (sweepAll now rest : RunProg P (List String)).Meets
      (sweepContract (.sweep now createdAt)) (fun φ' _ => φ'.listed = φ.listed) φ := by
  induction rest generalizing φ with
  | nil => exact rfl
  | cons appr rest ih =>
    rw [sweepAll]
    refine (sweepApproval_meets (hrest appr List.mem_cons_self)).bind (fun φ' runs hφ' => ?_)
      fun _ _ h => h
    have hrest' : ∀ a ∈ rest, a ∈ φ'.listed := by
      intro a ha
      rw [hφ']
      exact hrest a (List.mem_cons_of_mem _ ha)
    refine (ih hrest').bind (fun φ'' more hφ'' => ?_) fun _ _ h => h.trans hφ'
    exact hφ''.trans hφ'

theorem sweepDormantRuns_meets : (sweepDormantRuns now createdAt : RunProg P _).Meets
    (sweepContract (.sweep now createdAt)) (fun _ _ => True) φ := by
  refine Prog.meets_bind.mpr (Prog.meets_perform.mpr ⟨trivial, fun r _ => ?_⟩)
  cases r with
  | error => exact trivial
  | ok pending =>
    have hall : (sweepAll now pending : RunProg P _).Meets (sweepContract (.sweep now createdAt))
        (fun φ' _ => φ'.listed = pending) { φ with listed := pending } :=
      sweepAll_meets (φ := { φ with listed := pending }) fun a ha => ha
    exact hall.bind (fun _ _ _ => trivial) fun _ _ _ => trivial

end

theorem meets_of_allowed {A : Type} {C : Contract (RunOp P) RunOp.Ans String Sweeping}
    (hC : ∀ φ o, C.allowed φ o) (p : RunProg P A) (φ : Sweeping) :
    p.Meets C (fun _ _ => True) φ := by
  induction p generalizing φ with
  | ret | raise => exact trivial
  | call o _ ih => exact ⟨hC φ o, fun r _ => ih r _⟩

theorem program_meets (task : RunTask P) :
    task.program.Meets (sweepContract task) (fun _ _ => True) {} := by
  cases task with
  | sweep =>
    exact sweepDormantRuns_meets.bind (fun _ _ _ => trivial) fun _ _ _ => trivial
  | cancel | transition | complete | decide => exact meets_of_allowed (fun _ _ => trivial) _ _

/-! ## Runs -/

variable {s s' : RunPool P} {l : RunPoolLabel P}

theorem decidedInTime_of_stillPending {i : ℕ} {approvalId : String}
    (h : StillPending s i approvalId) (reviewer : String) (approved : Bool)
    (reason : Option String) (evidence : Option Evidence) :
    (sweeping i s.log).DecidedInTime approvalId
      (s.store.decideApproval approvalId reviewer approved reason evidence).1 := by
  intro hnone
  refine h.resolve_left fun hpending => ?_
  rw [← Backend.decideApproval_isSome, hnone] at hpending
  nomatch hpending

theorem answersAs_of_guarded (hl : Guarded s l) :
    (runWorkload P).AnswersAs sweepContract {} s l := by
  cases l with
  | step _ answer =>
    rintro ⟨task, o⟩ hpending
    have hop := hl _ hpending
    cases task with
    | sweep =>
      cases o with
      | decideApproval approvalId reviewer approved reason evidence =>
        revert hop
        dsimp only
        cases answer (.decideApproval approvalId reviewer approved reason evidence) with
        | error => exact fun _ => trivial
        | ok => exact fun hop => decidedInTime_of_stillPending (hop rfl) _ _ _ _
      | _ => exact trivial
    | _ => exact trivial
  | _ => exact trivial

/-- The histories that obey the law, together with the programs that go on with them. -/
structure SweepInv (s : RunPool P) : Prop where
  conforms : (runWorkload P).Conforms sweepContract {} (fun _ _ _ => True) s
  law : SweepLaw s.log

theorem sweepLaw_snoc {log : List (Entry (RunOp P) RunOp.Ans String (RunTask P))}
    {e : Entry (RunOp P) RunOp.Ans String (RunTask P)} (h : SweepLaw log)
    (he : ∀ i now createdAt runId status finalOutput errorDetails r,
      e = .did i (.sweep now createdAt)
        (.updateRunStatus runId status finalOutput errorDetails) r →
      (sweeping i log).MayFail now runId) : SweepLaw (log ++ [e]) :=
  forall_split_snoc.mpr ⟨h, he⟩

theorem SweepInv.next (h : SweepInv s) (hl : Guarded s l)
    (hs : (runWorkload P).next s l = some s') : SweepInv s' := by
  refine ⟨h.conforms.next program_meets (answersAs_of_guarded hl) hs, ?_⟩
  cases (runWorkload P).moves_of_next hs with
  | start | crash | act => exact h.law
  | begin _ hlast => nomatch hlast
  | @step i task o k busy answer r store ht hlast hr =>
    refine sweepLaw_snoc h.law fun j now createdAt runId status finalOutput errorDetails r' he => ?_
    obtain ⟨rfl, rfl, rfl, -⟩ := Entry.did.inj he
    exact h.conforms.allowed ht rfl

theorem terminalKept_exec {i : ℕ} {task : RunTask P} {o : RunOp P} (h : GuardedOp s i task o) :
    TerminalKept s.store.runs (o.exec s.store).2.runs := by
  cases o with
  | getRun | listPendingApprovals => exact .refl _
  | decideApproval =>
    show TerminalKept _ (s.store.decideApproval _ _ _ _ _).2.runs
    rw [Backend.runs_decideApproval]
    exact .refl _
  | updateRunStatus =>
    show TerminalKept _ (s.store.updateRunStatus _ _ _ _).2.runs
    rw [Backend.runs_updateRunStatus, TerminalKept.writeStatus_iff]
    exact fun r hr hterminal _ => h r hr hterminal
  | transitionRunStatus =>
    show TerminalKept _ (s.store.transitionRunStatus _ _ _ _ _).2.runs
    rw [Backend.runs_transitionRunStatus, TerminalKept.writeStatus_iff]
    exact fun r hr hterminal hfrom => h r hr hterminal (of_decide_eq_true hfrom)

theorem terminalKept_apply (e : Creation P) (b : Backend P) :
    TerminalKept b.runs (e.apply b).runs := by
  cases e with
  | approval a =>
    show TerminalKept _ (b.createApproval a).runs
    rw [Backend.runs_createApproval]
    exact .refl _
  | run =>
    rw [Creation.apply]
    split_ifs with hthere
    · exact .refl _
    · rw [Bool.not_eq_true, Option.isSome_eq_false_iff, Option.isNone_iff_eq_none] at hthere
      exact Backend.terminalKept_createRun hthere

theorem terminalKept_next (hl : Guarded s l) (hs : (runWorkload P).next s l = some s') :
    TerminalKept s.store.runs s'.store.runs := by
  cases (runWorkload P).moves_of_next hs with
  | start | crash => exact .refl _
  | begin _ hlast => nomatch hlast
  | act e => exact terminalKept_apply e s.store
  | @step i task o k busy answer r store ht hlast hr =>
    have hop := hl _ (s.pendingAt_of_call ht)
    unfold Workload.respond at hr
    cases hanswer : answer o with
    | error =>
      rw [hanswer] at hr
      cases hr
      exact .refl _
    | ok =>
      rw [hanswer] at hop hr
      cases hr
      exact terminalKept_exec (hop rfl)

/-- Along guarded steps a terminal status stays, and a sweep fails a run only for its own decision. -/
theorem runStatusLaw_of_run {store : Backend P} {ls ls' : List (RunPoolLabel P)}
    (hrun : (runWorkload P).system.run { store } ls = some s)
    (hrun' : (runWorkload P).system.run s ls' = some s')
    (hguarded : (runWorkload P).system.Along Guarded { store } (ls ++ ls')) :
    RunStatusLaw s s' := by
  obtain ⟨-, hguarded'⟩ := ((runWorkload P).system.along_append hrun).mp hguarded
  constructor
  · exact (runWorkload P).system.rel_of_along (I := fun _ => True)
      (R := fun s s' => TerminalKept s.store.runs s'.store.runs) (fun _ => .refl _)
      (fun _ _ _ h h' => h.trans h') (fun _ _ _ _ hl hs => ⟨trivial, terminalKept_next hl hs⟩)
      trivial hguarded' hrun'
  · have hinit : SweepInv ({ store } : RunPool P) :=
      ⟨Workload.conforms_empty, fun pre e post h => by simp at h⟩
    have hinv := (runWorkload P).system.inv_of_along (I := SweepInv)
      (fun _ _ _ h hl hs => h.next hl hs) hinit hguarded
      ((runWorkload P).system.run_append hrun hrun')
    exact hinv.law

/-! ## A sweep in time and a sweep that is late -/

/-- No operation raises. -/
def proceed : (o : RunOp P) → Except String o.Ans
  | .getRun _ => .ok none
  | .updateRunStatus _ _ _ _ => .ok none
  | .transitionRunStatus _ _ _ _ _ => .ok none
  | .decideApproval _ _ _ _ _ => .ok none
  | .listPendingApprovals _ => .ok []

/-- A run that waits for an approval, and a sweep after the approval has expired that has
    listed it. -/
def waitingRun : List (RunPoolLabel String) :=
  [.act (.run { runId := "run_1", workspaceId := some "ws_1", status := .waitingApproval }),
    .act (.approval {
      approvalId := "appr_1", runId := some "run_1", toolCallId := some "call_1"
      checkpointRef := some "cp_1", expiresAt := some 1000 }),
    .start (.sweep 2000 fun _ => 0), .step 0 proceed]

/-- The sweep goes on. -/
def sweepOn : List (RunPoolLabel String) := [.step 0 proceed, .step 0 proceed]

/-- A cancellation that comes after the sweep. -/
def lateCancel : List (RunPoolLabel String) :=
  [.start (.cancel "run_1" "not needed"), .step 1 proceed, .step 1 proceed]

/-- Where the sweep has failed the run in time. -/
def sweptPool : RunPool String :=
  ((runWorkload String).system.run { store := .memory .empty } (waitingRun ++ sweepOn)).get
    (by decide +kernel)

theorem runStatusLaw_orderlySweep : RunStatusLaw sweptPool
    (((runWorkload String).system.run sweptPool lateCancel).get (by decide +kernel)) :=
  runStatusLaw_of_run (Option.some_get _).symm (Option.some_get _).symm
    (show (runWorkload String).system.Along Guarded { store := .memory .empty }
      ((waitingRun ++ sweepOn) ++ lateCancel) by decide +kernel)

/-- While the sweep is under way the founder approves and the worker completes the run. -/
def finishMeanwhile : List (RunPoolLabel String) :=
  [.start (.decide "appr_1" "founder" true none none), .step 1 proceed,
    .start (.complete "run_1" .completed none none), .step 2 proceed]

def finishedPool : RunPool String :=
  ((runWorkload String).system.run { store := .memory .empty } (waitingRun ++ finishMeanwhile)).get
    (by decide +kernel)

def latePool : RunPool String :=
  ((runWorkload String).system.run finishedPool sweepOn).get (by decide +kernel)

/-- The sweep then fails the completed run, for an approval that was approved. -/
theorem not_runStatusLaw_lateSweep :
    ¬TerminalKept finishedPool.store.runs latePool.store.runs ∧ ¬SweepLaw latePool.log := by
  constructor
  · intro h
    obtain ⟨r, hr, hstatus⟩ := h "run_1"
      { runId := "run_1", workspaceId := some "ws_1", status := .completed } (by decide +kernel)
      (by decide)
    have hfailed : ∀ r ∈ latePool.store.runs.get? "run_1", r.status = .failed := by decide +kernel
    rw [hfailed r hr] at hstatus
    cases hstatus
  · intro h
    obtain ⟨a, -, -, -, r, hr⟩ := h (latePool.log.take 4) _ [] rfl 0 2000 (fun _ => 0) "run_1"
      .failed none _ _ rfl
    have hmissed : (sweeping 0 (latePool.log.take 4)).decided = some ("appr_1", none) := rfl
    rw [hmissed] at hr
    cases (Prod.mk.inj (Option.some.inj hr)).2

end JavisSaas.Agent.Runs
