import JavisSaas.Lib.Custody
import JavisSaas.Lib.Trails
import JavisSaas.Cosa.KnowledgeIngestion.LocalIngestions

/-!
# Executions of ingestion tasks

Uploads, executions of their tasks and reviews in any interleaving.

* `localIngestionLaw_along`: if an attempt is queued once, and no execution dies or raises before
  its result, an attempt without a result can be brought to one; a candidate was scanned clean and
  converted from the same bytes; and the new states are those of one path. The events are that path
  exactly as long as no result is recorded.
* `stuck_of_run`: an attempt whose execution died stays in `VALIDATING`.
* `not_localIngestionLaw_crash`: an execution that dies after its claim.
-/

namespace JavisSaas.Cosa.KnowledgeIngestion

open JavisSaas.Lib
open IngestionCall (claimed reviewing scanned step transact)

/-! ## The law -/

/-- The execution of a call, once it has claimed its attempt. -/
def IngestionCall.run? : IngestionCall → Option Execution
  | .loading run _ | .scanning run _ _ | .converting run _ _ | .persisting run _
  | .recording run _ _ | .rejecting run _ => some run
  | .creating _ | .reviewing _ | .publishing _ _ _ | .received _ => none

def IngestionCall.Holds (call : IngestionCall) (key : UploadKey) : Prop :=
  ∃ run ∈ call.run?, run.key = key

/-- Every column that the handler needs is given, as `complete_upload` does. -/
def CreateQueued.Complete (input : CreateQueued) : Prop :=
  input.workspaceId ≠ "" ∧ input.uploadId ≠ "" ∧ input.attempt.quarantined.toOption.isSome
deriving Decidable

/-- The condition of the calls that end without a result: the attempt does not wait for it. -/
def MayDie (s : LocalIngestions) (call : IngestionCall) : Prop :=
  ∀ run ∈ call.run?, ∀ row ∈ s.attempts.get? run.key, row.state ≠ .validating
deriving Decidable

/-- An attempt is complete and queued once, an execution learns of its claim, and then raises
nothing before the result. -/
def Completes (s : LocalIngestions) : IngestionCall → IngestionAnswer → Prop
  | .creating _, .raised => True
  | .creating input, _ => s.attempts.get? input.key = none ∧ input.Complete
  | .received task, .lost =>
    ∀ r ∈ task.check.toOption, ∀ row ∈ s.attempts.get? r.1, row.state ≠ .queued
  | call, .raised => MayDie s call
  | _, _ => True

instance (s : LocalIngestions) (call : IngestionCall) (a : IngestionAnswer) :
    Decidable (Completes s call a) := by
  unfold Completes
  split <;> infer_instance

/-- The call records no result: it raises, or the attempt is in no state that it expects. -/
def RecordsNothing (s : LocalIngestions) : IngestionCall → IngestionAnswer → Prop
  | _, .raised => True
  | .reviewing key, _ | .rejecting ⟨key, _⟩ _, _ =>
    ∀ row ∈ s.attempts.get? key, row.state ∉ [.queued, .validating, .converting]
  | .recording run _ _, _ =>
    ∀ row ∈ s.attempts.get? run.key, row.state ∉ [.validating, .converting]
  | _, _ => True

instance (s : LocalIngestions) (call : IngestionCall) (a : IngestionAnswer) :
    Decidable (RecordsNothing s call a) := by
  unfold RecordsNothing
  split <;> infer_instance

namespace LocalIngestionState

/-- A state without a result. -/
def Pending (state : LocalIngestionState) : Prop := state ∈ [queued, validating, converting]
deriving Decidable

/-- A state that an execution ends in. -/
def Settled (state : LocalIngestionState) : Prop := state ∈ [reviewPending, rejected, failed]
deriving Decidable

abbrev Allowed (state state' : LocalIngestionState) : Prop := state' ∈ state.transitions

end LocalIngestionState

/-- Its claim token, and what the store, the scanner, the sandbox and the service answer. -/
structure Conduct where
  claimToken : String
  content : Bytes
  verdict : String
  failureCode : Option FailureCode
  knowledgeSourceId : String
  manifestJson : String

namespace Conduct

def answers (w : Conduct) : List IngestionAnswer :=
  [.ok, .content w.content, .verdict w.verdict, .converted w.failureCode,
    .persisted w.knowledgeSourceId w.manifestJson]

def task (w : Conduct) (key : UploadKey) : IngestionTask where
  taskType := some "knowledge_ingestion"
  workspaceId := some key.1
  uploadId := some key.2
  claimToken := some w.claimToken

/-- Executions of the task with these answers. -/
def Admits (w : Conduct) (key : UploadKey) : CallLabel IngestionRequest IngestionAnswer → Prop
  | .start req => req = .execute (w.task key)
  | .step _ a => a ∈ w.answers
  | .giveUp _ => False

end Conduct

/-- An attempt without a result can be brought to one, and is held by one execution; a candidate was
scanned clean and converted from the same bytes; the new states are one path. -/
structure ExecutionLaw (p : Platform) (f : InFlight LocalIngestions IngestionCall) : Prop where
  ends : ∀ key row, f.store.attempts.get? key = some row → row.state.Pending →
    ∀ w : Conduct, w.claimToken ≠ "" → ∃ ls f', (∀ l ∈ ls, w.Admits key l) ∧
      (ingestions p).system.run f ls = some f' ∧
        ∃ row', f'.store.attempts.get? key = some row' ∧ row'.state.Settled
  exclusive : ∀ i j c d key, f.call? i = some c → f.call? j = some d → c.Holds key → d.Holds key →
    i = j
  scanned : ∀ key row, f.store.attempts.get? key = some row →
    row.state ∈ [.reviewPending, .published] →
      ∃ content, f.store.workOf key = [.scanned content "clean", .converted content]
  path : ∀ key row, f.store.attempts.get? key = some row →
    ∃ es, Trail .queued LocalIngestionState.Allowed es row.state ∧ Fills es (f.store.eventsOf key)

/-- And the events are one path of the state machine, with a single initial event. -/
structure IngestionLaw (p : Platform) (f : InFlight LocalIngestions IngestionCall) : Prop extends
    ExecutionLaw p f where
  events : ∀ key row, f.store.attempts.get? key = some row →
    Trail .queued LocalIngestionState.Allowed (f.store.eventsOf key) row.state

/-- What an execution writes after its claim, it writes to the attempt that its own token has
    claimed. -/
def IngestionStepLaw (p : Platform) (s : LocalIngestions) (call : IngestionCall)
    (a : IngestionAnswer) : Prop :=
  ∀ r ∈ call.step p s a, ∀ run ∈ call.run?, ∃ row, s.attempts.get? run.key = some row ∧
    row.claimTokenHash = some (p.hashToken run.claimToken) ∧
    ∀ key, key ≠ run.key → r.1.attempts.get? key = s.attempts.get? key

/-! ## What the steps keep -/

/-- The events of an attempt. -/
structure Recorded (events : List (Option LocalIngestionState × LocalIngestionState))
    (state : LocalIngestionState) : Prop where
  path : ∃ es, Trail .queued LocalIngestionState.Allowed es state ∧ Fills es events
  exact : state ∈ [.queued, .validating] → Trail .queued LocalIngestionState.Allowed events state
  gap : state ∉ [.queued, .validating] → ∃ e ∈ events.tail, e.1 = none

section

variable {events : List (Option LocalIngestionState × LocalIngestionState)}
  {state state' : LocalIngestionState}

theorem recorded_created : Recorded [(none, .queued)] .queued where
  path := ⟨_, .start, .refl _⟩
  exact _ := .start
  gap h := absurd List.mem_cons_self h

theorem Recorded.ne_nil (h : Recorded events state) : events ≠ [] := by
  obtain ⟨es, htrail, hfills⟩ := h.path
  exact hfills.ne_nil htrail.ne_nil

theorem Recorded.mem_tail_concat (h : Recorded events state)
    {e e' : Option LocalIngestionState × LocalIngestionState} (he : e ∈ events.tail ∨ e = e') :
    e ∈ (events ++ [e']).tail := by
  rw [List.tail_append_of_ne_nil h.ne_nil]
  exact List.mem_append.mpr (he.imp_right List.mem_singleton.mpr)

theorem Recorded.path_concat (h : Recorded events state) (ha : state.Allowed state')
    {o : Option LocalIngestionState} (ho : o = none ∨ o = some state) :
    ∃ es, Trail .queued LocalIngestionState.Allowed es state' ∧ Fills es (events ++ [(o, state')]) := by
  obtain ⟨es, htrail, hfills⟩ := h.path
  exact ⟨_, htrail.next ha, hfills.concat ho⟩

theorem Recorded.changed (h : Recorded events state) (ha : state.Allowed state')
    (hlive : state ∈ [.queued, .validating] ↔ state' ∈ [.queued, .validating]) :
    Recorded (events ++ [(some state, state')]) state' where
  path := h.path_concat ha (.inr rfl)
  exact hstate := (h.exact (hlive.mpr hstate)).next ha
  gap hstate := by
    obtain ⟨e, he, hnone⟩ := h.gap (hstate ∘ hlive.mp)
    exact ⟨e, h.mem_tail_concat (.inl he), hnone⟩

theorem Recorded.result (h : Recorded events state) (ha : state.Allowed state')
    (hstate : state' ∉ [.queued, .validating]) : Recorded (events ++ [(none, state')]) state' where
  path := h.path_concat ha (.inl rfl)
  exact hstate' := absurd hstate' hstate
  gap _ := ⟨_, h.mem_tail_concat (.inr rfl), rfl⟩

theorem Recorded.trail_iff (h : Recorded events state) :
    Trail .queued LocalIngestionState.Allowed events state ↔ state ∈ [.queued, .validating] := by
  refine ⟨fun htrail => ?_, h.exact⟩
  by_contra hstate
  obtain ⟨e, he, hnone⟩ := h.gap hstate
  exact Trail.not_of_gap he hnone htrail

theorem Recorded.ne_converting (h : Recorded events state) : state ≠ .converting := by
  obtain ⟨es, htrail, -⟩ := h.path
  cases htrail with
  | start => decide
  | @next _ s _ _ ha => cases s <;> rintro rfl <;> exact absurd ha (by decide)

end

/-- What the tables say about an upload. -/
structure UploadInv (attempt : Option LocalIngestionAttempt)
    (events : List (Option LocalIngestionState × LocalIngestionState)) (work : List DocumentWork)
    (key : UploadKey) : Prop where
  absent : attempt = none → events = [] ∧ work = []
  recorded : ∀ row ∈ attempt, Recorded events row.state
  fresh : ∀ row ∈ attempt, row.state = .queued →
    work = [] ∧ key.1 ≠ "" ∧ key.2 ≠ "" ∧ row.quarantined.toOption.isSome
  scanned : ∀ row ∈ attempt, row.state ∈ [.reviewPending, .published] →
    ∃ content, work = [.scanned content "clean", .converted content]

def IngestionInv (s : LocalIngestions) : Prop :=
  ∀ key, UploadInv (s.attempts.get? key) (s.eventsOf key) (s.workOf key) key

/-- The work that is done when the call takes its next step. -/
def IngestionCall.WorkDone : IngestionCall → List DocumentWork → Prop
  | .loading _ _, work | .scanning _ _ _, work => work = []
  | .converting _ content _, work => work = [.scanned content "clean"]
  | .persisting _ _, work | .recording _ _ _, work =>
    ∃ content, work = [.scanned content "clean", .converted content]
  | _, _ => True

/-- The claim of the execution, which a reviewer may have answered with a rejection. -/
def Claimed (p : Platform) (s : LocalIngestions) (run : Execution) : Prop :=
  ∃ row ∈ s.attempts.get? run.key, row.state ∈ [.validating, .rejected] ∧
    row.claimTokenHash = some (p.hashToken run.claimToken)

/-- What a call knows of the store. -/
def Remembers (p : Platform) (s : LocalIngestions) (call : IngestionCall) : Prop :=
  ∀ run ∈ call.run?, Claimed p s run ∧ call.WorkDone (s.workOf run.key)

/-- The attempt waits for the execution that has claimed it. -/
def Owed (s : LocalIngestions) (key : UploadKey) : Prop :=
  ∃ row ∈ s.attempts.get? key, row.state = .validating

/-! ### Tables -/

/-- A row and an event are written together. -/
def LocalIngestions.put (s : LocalIngestions) (row : LocalIngestionAttempt)
    (e : LocalIngestionEvent) : LocalIngestions :=
  { s with attempts := s.attempts.set e.key row }.appendEvent e

section

variable {s : LocalIngestions} {key key' : UploadKey} {row row' : LocalIngestionAttempt}
  {e : LocalIngestionEvent} {w : DocumentWork}

theorem get?_put : (s.put row e).attempts.get? key =
    if e.key = key then some row else s.attempts.get? key :=
  Dict.get?_set _ _ _ _

theorem eventsOf_appendEvent : (s.appendEvent e).eventsOf key =
    s.eventsOf key ++ if e.key = key then [(e.oldState, e.newState)] else [] := by
  unfold LocalIngestions.appendEvent LocalIngestions.eventsOf
  dsimp only
  rw [List.filter_append, List.map_append, List.filter_singleton]
  by_cases h : e.key = key <;> simp [h]

theorem eventsOf_put : (s.put row e).eventsOf key =
    s.eventsOf key ++ if e.key = key then [(e.oldState, e.newState)] else [] :=
  eventsOf_appendEvent

theorem workOf_put : (s.put row e).workOf key = s.workOf key := rfl

theorem workOf_log : (s.log key' w).workOf key =
    s.workOf key ++ if key' = key then [w] else [] := by
  unfold LocalIngestions.log LocalIngestions.workOf
  dsimp only
  rw [List.filter_append, List.map_append, List.filter_singleton]
  by_cases h : key' = key <;> simp [h]

theorem eventsOf_log : (s.log key' w).eventsOf key = s.eventsOf key := rfl

theorem change_eq (s : LocalIngestions) {expected : List LocalIngestionState}
    {update : LocalIngestionAttempt → LocalIngestionAttempt} (he : e.key = key) :
    (∃ row, s.attempts.get? key = some row ∧ row.state ∈ expected ∧
        s.change key expected update e = (s.put (update row) e, some (update row))) ∨
      (∀ row ∈ s.attempts.get? key, row.state ∉ expected) ∧
        s.change key expected update e = (s, none) := by
  unfold LocalIngestions.change
  cases hrow : s.attempts.get? key with
  | none => exact .inr ⟨fun row h => (nomatch h), rfl⟩
  | some row =>
    dsimp only
    split_ifs with hstate
    · refine .inl ⟨row, rfl, hstate, ?_⟩
      rw [LocalIngestions.put, he]
    · refine .inr ⟨fun row' h => ?_, rfl⟩
      exact Option.some.inj h ▸ hstate

theorem claim_eq (s : LocalIngestions) (p : Platform) (key : UploadKey) (taskToken : String) :
    (∃ row, s.attempts.get? key = some row ∧ row.state ∈ [.queued] ∧ s.claim p key taskToken =
        (s.put { row with state := .validating, claimTokenHash := some (p.hashToken taskToken) }
          ⟨key, some .queued, .validating, none⟩,
        some { row with state := .validating, claimTokenHash := some (p.hashToken taskToken) })) ∨
    (∀ row ∈ s.attempts.get? key, row.state ∉ [.queued]) ∧ s.claim p key taskToken = (s, none) :=
  change_eq s rfl

theorem recordCandidate_eq (s : LocalIngestions) (key : UploadKey)
    (knowledgeSourceId manifestJson : String) :
    (∃ row, s.attempts.get? key = some row ∧ row.state ∈ [.validating, .converting] ∧
      s.recordCandidate key knowledgeSourceId manifestJson =
        (s.put { row with
          state := .reviewPending
          knowledgeSourceId := some knowledgeSourceId
          manifestJson := some manifestJson } ⟨key, none, .reviewPending, none⟩,
        some { row with
          state := .reviewPending
          knowledgeSourceId := some knowledgeSourceId
          manifestJson := some manifestJson })) ∨
    (∀ row ∈ s.attempts.get? key, row.state ∉ [.validating, .converting]) ∧
      s.recordCandidate key knowledgeSourceId manifestJson = (s, none) :=
  change_eq s rfl

theorem publish_eq (s : LocalIngestions) (key : UploadKey)
    (vaultDocumentId vaultVersionId : String) :
    (∃ row, s.attempts.get? key = some row ∧ row.state ∈ [.reviewPending] ∧
      s.publish key vaultDocumentId vaultVersionId =
        (s.put { row with
          state := .published
          vaultDocumentId := some vaultDocumentId
          vaultVersionId := some vaultVersionId } ⟨key, some .reviewPending, .published, none⟩,
        some { row with
          state := .published
          vaultDocumentId := some vaultDocumentId
          vaultVersionId := some vaultVersionId })) ∨
    (∀ row ∈ s.attempts.get? key, row.state ∉ [.reviewPending]) ∧
      s.publish key vaultDocumentId vaultVersionId = (s, none) :=
  change_eq s rfl

theorem reject_eq (s : LocalIngestions) (key : UploadKey) (reason : String) :
    (∃ row, s.attempts.get? key = some row ∧ row.state ∈ [.queued, .validating, .converting] ∧
      s.reject key reason true =
        (s.put { row with state := .rejected, failureCode := some reason }
          ⟨key, none, .rejected, some reason⟩,
        some { row with state := .rejected, failureCode := some reason })) ∨
    (∀ row ∈ s.attempts.get? key, row.state ∉ [.queued, .validating, .converting]) ∧
      s.reject key reason true = (s, none) :=
  change_eq s rfl

theorem IngestionInv.put (h : IngestionInv s) (state : LocalIngestionState)
    (hstate : row.state = state) (hevent : e.newState = state)
    (hrecorded : Recorded (s.eventsOf e.key ++ [(e.oldState, state)]) state)
    (hfresh : state = .queued → s.workOf e.key = [] ∧ e.key.1 ≠ "" ∧ e.key.2 ≠ "" ∧
      row.quarantined.toOption.isSome)
    (hscanned : state ∈ [.reviewPending, .published] →
      ∃ content, s.workOf e.key = [.scanned content "clean", .converted content]) :
    IngestionInv (s.put row e) := by
  rw [← hstate] at hfresh hscanned
  intro key
  rw [get?_put, eventsOf_put, workOf_put]
  by_cases hkey : e.key = key
  · subst hkey
    rw [if_pos rfl, if_pos rfl]
    refine ⟨(fun h => nomatch h), fun _ hr => ?_, fun _ hr => ?_, fun _ hr => ?_⟩
    · cases hr
      rw [hevent, hstate]
      exact hrecorded
    · exact Option.some.inj hr ▸ hfresh
    · exact Option.some.inj hr ▸ hscanned
  · rw [if_neg hkey, if_neg hkey, List.append_nil]
    exact h key

theorem not_candidate_of_claimed : ∀ state : LocalIngestionState,
    state ∈ [.validating, .rejected] → state ∉ [.reviewPending, .published] := by
  intro state
  cases state <;> decide

theorem IngestionInv.log (h : IngestionInv s) (hrow : s.attempts.get? key = some row)
    (hstate : row.state ∈ [.validating, .rejected]) (w : DocumentWork) :
    IngestionInv (s.log key w) := by
  intro key'
  rw [workOf_log, eventsOf_log]
  show UploadInv (s.attempts.get? key') _ _ key'
  by_cases hkey : key = key'
  · subst hkey
    rw [if_pos rfl]
    have hold := h key
    rw [hrow] at hold ⊢
    refine ⟨(fun h => nomatch h), hold.recorded, fun r hr hqueued => ?_, fun r hr hdone => ?_⟩
    · cases hr
      rw [hqueued] at hstate
      exact absurd hstate (by decide)
    · cases hr
      exact absurd hdone (not_candidate_of_claimed _ hstate)
  · rw [if_neg hkey, List.append_nil]
    exact h key'

end

/-! ### Steps -/

section

variable {p : Platform} {s s' : LocalIngestions} {call : IngestionCall} {a : IngestionAnswer}
  {call' : Option IngestionCall} {key : UploadKey}

/-- What a step does. -/
inductive Moved (p : Platform) (s : LocalIngestions) (call : IngestionCall) (a : IngestionAnswer) :
    LocalIngestions → Option IngestionCall → Prop
  | ended (h : ∀ run ∈ call.run?, a = .raised ∨
      ∀ row ∈ s.attempts.get? run.key, row.state ≠ .validating) : Moved p s call a s none
  | created (input : CreateQueued) (hcall : call = .creating input) (ha : a ≠ .raised)
      (hnew : s.attempts.get? input.key = none) :
    Moved p s call a (s.put input.attempt ⟨input.key, none, .queued, none⟩) none
  | recreated (input : CreateQueued) (hcall : call = .creating input) (ha : a ≠ .raised)
      (hold : (s.attempts.get? input.key).isSome) :
    Moved p s call a (s.appendEvent ⟨input.key, none, .queued, none⟩) none
  | claimed (task : IngestionTask) (run : Execution) (row : LocalIngestionAttempt)
      (o : Option IngestionCall) (hcall : call = .received task)
      (htask : task.check = .ok (run.key, run.claimToken))
      (hrow : s.attempts.get? run.key = some row) (hstate : row.state = .queued)
      (ho : (o = none ∧ (a = .lost ∨ row.quarantined.toOption = none)) ∨
        ∃ object, o = some (.loading run object)) :
    Moved p s call a (s.put { row with
      state := .validating, claimTokenHash := some (p.hashToken run.claimToken) }
      ⟨run.key, some .queued, .validating, none⟩) o
  | progressed (run : Execution) (d : IngestionCall) (hrun : call.run? = some run)
      (hd : d.run? = some run) (hwork : ∀ work, call.WorkDone work → d.WorkDone work) :
    Moved p s call a s (some d)
  | logged (run : Execution) (w : DocumentWork) (d : IngestionCall) (hrun : call.run? = some run)
      (hd : d.run? = some run) (hwork : ∀ work, call.WorkDone work → d.WorkDone (work ++ [w])) :
    Moved p s call a (s.log run.key w) (some d)
  | candidate (run : Execution) (knowledgeSourceId manifestJson : String)
      (row : LocalIngestionAttempt) (hcall : call = .recording run knowledgeSourceId manifestJson)
      (hrow : s.attempts.get? run.key = some row) (hstate : row.state ∈ [.validating, .converting]) :
    Moved p s call a (s.put { row with
      state := .reviewPending
      knowledgeSourceId := some knowledgeSourceId
      manifestJson := some manifestJson } ⟨run.key, none, .reviewPending, none⟩) none
  | rejected (key : UploadKey) (reason : String) (row : LocalIngestionAttempt)
      (hcall : (∃ run ∈ call.run?, run.key = key) ∨ call = .reviewing key)
      (hrow : s.attempts.get? key = some row)
      (hstate : row.state ∈ [.queued, .validating, .converting]) :
    Moved p s call a (s.put { row with state := .rejected, failureCode := some reason }
      ⟨key, none, .rejected, some reason⟩) none
  | published (key : UploadKey) (vaultDocumentId vaultVersionId : String)
      (row : LocalIngestionAttempt) (hcall : call.run? = none)
      (hrow : s.attempts.get? key = some row) (hstate : row.state = .reviewPending) :
    Moved p s call a (s.put { row with
      state := .published
      vaultDocumentId := some vaultDocumentId
      vaultVersionId := some vaultVersionId } ⟨key, some .reviewPending, .published, none⟩) none

theorem transact_eq_some {R : Type} {r : LocalIngestions × R} {next : R → Option IngestionCall}
    (h : transact s r next a = some (s', call')) :
    (a = .raised ∧ s' = s ∧ call' = none) ∨
      a ≠ .raised ∧ s' = r.1 ∧ (a = .lost ∧ call' = none ∨ call' = next r.2) := by
  cases a with
  | ok =>
    cases h
    exact .inr ⟨nofun, rfl, .inr rfl⟩
  | lost =>
    cases h
    exact .inr ⟨nofun, rfl, .inl ⟨rfl, rfl⟩⟩
  | raised =>
    cases h
    exact .inl ⟨rfl, rfl, rfl⟩
  | content | verdict | converted | persisted => nomatch h

theorem transact_end_eq_some {R : Type} {r : LocalIngestions × R}
    (h : transact s r (fun _ => none) a = some (s', call')) :
    (a = .raised ∧ s' = s ∧ call' = none) ∨ a ≠ .raised ∧ s' = r.1 ∧ call' = none := by
  rcases transact_eq_some h with h | ⟨ha, hs, ⟨-, hcall⟩ | hcall⟩
  · exact .inl h
  · exact .inr ⟨ha, hs, hcall⟩
  · exact .inr ⟨ha, hs, hcall⟩

theorem ended_of_raised (ha : a = .raised) : Moved p s call a s none := .ended fun _ _ => .inl ha

theorem moved_of_reject {reason : String}
    (hcall : (∃ run ∈ call.run?, run.key = key) ∨ call = .reviewing key)
    (h : transact s (s.reject key reason true) (fun _ => none) a =
      some (s', call')) : Moved p s call a s' call' := by
  rcases transact_end_eq_some h with ⟨ha, rfl, rfl⟩ | ⟨-, rfl, rfl⟩
  · exact ended_of_raised ha
  · rcases reject_eq s key reason with ⟨row, hrow, hstate, heq⟩ | ⟨hno, heq⟩
    · rw [heq]
      exact .rejected key reason row hcall hrow hstate
    · rw [heq]
      refine .ended fun run hrun => .inr fun row hrow hvalidating => ?_
      rcases hcall with ⟨run', hrun', rfl⟩ | rfl
      · cases hrun.symm.trans hrun'
        exact hno row hrow (by rw [hvalidating]; decide)
      · nomatch hrun

theorem claimed_cases (run : Execution) (row : LocalIngestionAttempt) :
    claimed run (some row) = none ∧ row.quarantined.toOption = none ∨
      ∃ object, claimed run (some row) = some (.loading run object) := by
  unfold claimed
  dsimp only
  cases row.quarantined with
  | error => exact .inl ⟨rfl, rfl⟩
  | ok object => exact .inr ⟨object, rfl⟩

theorem moved_of_claim {task : IngestionTask} (run : Execution) (hcall : call = .received task)
    (htask : task.check = .ok (run.key, run.claimToken))
    (h : transact s (s.claim p run.key run.claimToken) (claimed run) a =
      some (s', call')) : Moved p s call a s' call' := by
  subst hcall
  have hnone : ∀ o, o = none → Moved p s (.received task) a s o := by
    rintro _ rfl
    exact .ended fun run hrun => nomatch hrun
  rcases transact_eq_some h with ⟨ha, rfl, rfl⟩ | ⟨-, rfl, hnext⟩
  · exact hnone _ rfl
  · rcases claim_eq s p run.key run.claimToken with ⟨row, hrow, hstate, heq⟩ | ⟨-, heq⟩
    · rw [heq] at hnext ⊢
      refine .claimed task run row call' rfl htask hrow (List.mem_singleton.mp hstate) ?_
      rcases hnext with ⟨ha, rfl⟩ | rfl
      · exact .inl ⟨rfl, .inl ha⟩
      · rcases claimed_cases run { row with
          state := .validating, claimTokenHash := some (p.hashToken run.claimToken) } with
          ⟨hnone, hmissing⟩ | ⟨object, hobject⟩
        · exact .inl ⟨hnone, .inr hmissing⟩
        · exact .inr ⟨object, hobject⟩
    · rw [heq] at hnext ⊢
      rcases hnext with ⟨-, hnext⟩ | hnext
      · exact hnone _ hnext
      · exact hnone _ hnext

theorem moved_of_step (h : call.step p s a = some (s', call')) : Moved p s call a s' call' := by
  cases call with
  | creating input =>
    rcases transact_end_eq_some h with ⟨ha, rfl, rfl⟩ | ⟨ha, rfl, rfl⟩
    · exact ended_of_raised ha
    · cases hrow : s.attempts.get? input.key with
      | none =>
        have heq : s.createQueued input = s.put input.attempt ⟨input.key, none, .queued, none⟩ := by
          rw [LocalIngestions.createQueued, hrow]
          rfl
        exact heq ▸ .created input rfl ha hrow
      | some =>
        have heq : s.createQueued input = s.appendEvent ⟨input.key, none, .queued, none⟩ := by
          rw [LocalIngestions.createQueued, hrow]
        exact heq ▸ .recreated input rfl ha (hrow ▸ rfl)
  | reviewing => exact moved_of_reject (.inr rfl) h
  | publishing key vaultDocumentId vaultVersionId =>
    rcases transact_end_eq_some h with ⟨ha, rfl, rfl⟩ | ⟨-, rfl, rfl⟩
    · exact ended_of_raised ha
    · rcases publish_eq s key vaultDocumentId vaultVersionId with ⟨row, hrow, hstate, heq⟩ | ⟨-, heq⟩
      · rw [heq]
        exact .published key _ _ row rfl hrow (List.mem_singleton.mp hstate)
      · rw [heq]
        exact .ended fun run hrun => nomatch hrun
  | received task =>
    rw [step] at h
    cases htask : task.check with
    | error =>
      rw [htask] at h
      rcases transact_end_eq_some h with ⟨ha, rfl, rfl⟩ | ⟨-, rfl, rfl⟩
      · exact ended_of_raised ha
      · exact .ended fun run hrun => nomatch hrun
    | ok r =>
      rw [htask] at h
      exact moved_of_claim ⟨r.1, r.2⟩ rfl htask h
  | loading run object =>
    cases a with
    | content bytes =>
      rw [step] at h
      cases hpreflight : preflight p object bytes with
      | ok =>
        rw [hpreflight] at h
        cases h
        exact .progressed run _ rfl rfl fun _ hwork => hwork
      | error =>
        rw [hpreflight] at h
        cases h
        exact .progressed run _ rfl rfl fun _ _ => trivial
    | raised =>
      cases h
      exact ended_of_raised rfl
    | ok | lost | verdict | converted | persisted => nomatch h
  | scanning run content =>
    cases a with
    | verdict =>
      cases h
      unfold scanned
      split_ifs with hinfected hunavailable hclean
      · exact .logged run _ _ rfl rfl fun _ _ => trivial
      · exact .logged run _ _ rfl rfl fun _ _ => trivial
      · exact .logged run _ _ rfl rfl fun _ _ => trivial
      · refine .logged run _ _ rfl rfl fun work hwork => ?_
        obtain rfl := not_not.mp hclean
        exact congrArg (· ++ [_]) hwork
    | raised =>
      cases h
      exact ended_of_raised rfl
    | ok | lost | content | converted | persisted => nomatch h
  | converting run content =>
    cases a with
    | converted failureCode =>
      cases failureCode with
      | none =>
        cases h
        exact .logged run _ _ rfl rfl fun work hwork => ⟨content, congrArg (· ++ [_]) hwork⟩
      | some =>
        cases h
        exact .logged run _ _ rfl rfl fun _ _ => trivial
    | raised =>
      cases h
      exact ended_of_raised rfl
    | ok | lost | content | verdict | persisted => nomatch h
  | persisting run =>
    cases a with
    | persisted =>
      cases h
      exact .progressed run _ rfl rfl fun _ hwork => hwork
    | raised =>
      cases h
      exact ended_of_raised rfl
    | ok | lost | content | verdict | converted => nomatch h
  | recording run knowledgeSourceId manifestJson =>
    rcases transact_end_eq_some h with ⟨ha, rfl, rfl⟩ | ⟨-, rfl, rfl⟩
    · exact ended_of_raised ha
    · rcases recordCandidate_eq s run.key knowledgeSourceId manifestJson with
        ⟨row, hrow, hstate, heq⟩ | ⟨hno, heq⟩
      · rw [heq]
        exact .candidate run _ _ row rfl hrow hstate
      · rw [heq]
        refine .ended fun run' hrun => .inr fun row hrow hvalidating => ?_
        cases hrun
        exact hno row hrow (by rw [hvalidating]; decide)
  | rejecting run => exact moved_of_reject (.inl ⟨run, rfl, rfl⟩) h

/-! ### What a step keeps -/

variable {row : LocalIngestionAttempt}

theorem IngestionInv.events (h : IngestionInv s)
    (hrow : s.attempts.get? key = some row) : Recorded (s.eventsOf key) row.state :=
  (h key).recorded row hrow

variable {d : IngestionCall} {e : LocalIngestionEvent}

theorem Remembers.of_ne (h : Remembers p s d)
    (hattempt : ∀ run ∈ d.run?, s'.attempts.get? run.key = s.attempts.get? run.key)
    (hwork : ∀ run ∈ d.run?, s'.workOf run.key = s.workOf run.key) : Remembers p s' d := by
  intro run hrun
  obtain ⟨⟨row, hrow, hstate⟩, hdone⟩ := h run hrun
  refine ⟨⟨row, ?_, hstate⟩, ?_⟩
  · rw [hattempt run hrun]
    exact hrow
  · rw [hwork run hrun]
    exact hdone

variable {d : IngestionCall}

theorem Remembers.put (h : Remembers p s d)
    {e : LocalIngestionEvent} (hd : ¬d.Holds e.key) : Remembers p (s.put row e) d := by
  refine h.of_ne (fun run hrun => ?_) fun run _ => workOf_put
  rw [get?_put, if_neg]
  exact fun hkey => hd ⟨run, hrun, hkey.symm⟩

theorem Remembers.attempt (h : Remembers p s d) (hd : d.Holds key)
    (hrow : s.attempts.get? key = some row) :
    row.state ∈ [.validating, .rejected] := by
  obtain ⟨run, hrun, rfl⟩ := hd
  obtain ⟨row', hrow', hstate, -⟩ := (h run hrun).1
  exact Option.some.inj (hrow'.symm.trans hrow) ▸ hstate

theorem Remembers.not_holds (h : Remembers p s d)
    (hrow : s.attempts.get? key = some row)
    (hstate : row.state ∉ [.validating, .rejected]) : ¬d.Holds key :=
  fun hd => hstate (h.attempt hd hrow)

theorem Remembers.not_holds_new (h : Remembers p s d)
    (hnew : s.attempts.get? key = none) : ¬d.Holds key := by
  rintro ⟨run, hrun, rfl⟩
  obtain ⟨row, hrow, -⟩ := (h run hrun).1
  nomatch hnew.symm.trans hrow

theorem Remembers.reject (h : Remembers p s d)
    (hrow : s.attempts.get? e.key = some row) (reason : String) :
    Remembers p (s.put { row with state := .rejected, failureCode := some reason } e) d := by
  intro run hrun
  obtain ⟨⟨row', hrow', hstate, hhash⟩, hdone⟩ := h run hrun
  refine ⟨?_, hdone⟩
  by_cases hkey : e.key = run.key
  · rw [hkey] at hrow
    cases hrow.symm.trans hrow'
    refine ⟨{ row with state := .rejected, failureCode := some reason }, ?_,
      List.mem_cons_of_mem _ List.mem_cons_self, hhash⟩
    rw [get?_put, if_pos hkey]
    rfl
  · refine ⟨row', ?_, hstate, hhash⟩
    rw [get?_put, if_neg hkey]
    exact hrow'

theorem Remembers.log (h : Remembers p s d) {w : DocumentWork}
    (hd : ¬d.Holds key) : Remembers p (s.log key w) d := by
  refine h.of_ne (fun _ _ => rfl) fun run hrun => ?_
  rw [workOf_log, if_neg, List.append_nil]
  exact fun hkey => hd ⟨run, hrun, hkey.symm⟩

theorem Remembers.next {run : Execution} (h : Remembers p s call) (hrun : call.run? = some run)
    (hd : d.run? = some run) (hattempt : s'.attempts.get? run.key = s.attempts.get? run.key)
    (hwork : call.WorkDone (s.workOf run.key) → d.WorkDone (s'.workOf run.key)) :
    Remembers p s' d := by
  intro run' hrun'
  cases hd.symm.trans hrun'
  obtain ⟨⟨row, hrow, hstate⟩, hdone⟩ := h run hrun
  refine ⟨⟨row, ?_, hstate⟩, hwork hdone⟩
  rw [hattempt]
  exact hrow

theorem Moved.inv (h : Moved p s call a s' call') (hI : IngestionInv s) (hJ : Remembers p s call)
    (hG : Completes s call a) : IngestionInv s' := by
  cases h with
  | ended | progressed => exact hI
  | created input hcall ha hnew =>
    subst hcall
    have hcomplete : input.Complete := by
      cases a with
      | raised => exact absurd rfl ha
      | ok | lost | content | verdict | converted | persisted => exact hG.2
    obtain ⟨hevents, hwork⟩ := (hI input.key).absent hnew
    refine hI.put .queued rfl rfl ?_ (fun _ => ⟨hwork, hcomplete⟩) fun hstate => absurd hstate (by decide)
    show Recorded (s.eventsOf input.key ++ _) _
    rw [hevents]
    exact recorded_created
  | recreated input hcall ha hold =>
    subst hcall
    have hnew : s.attempts.get? input.key = none := by
      cases a with
      | raised => exact absurd rfl ha
      | ok | lost | content | verdict | converted | persisted => exact hG.1
    rw [hnew] at hold
    nomatch hold
  | claimed _ _ _ _ _ _ hrow hstate =>
    refine hI.put .validating rfl rfl ?_ (fun hqueued => nomatch hqueued)
      fun hdone => absurd hdone (by decide)
    have hevents := hI.events hrow
    rw [hstate] at hevents
    exact hevents.changed (by decide) (by decide)
  | logged run w _ hrun =>
    obtain ⟨row, hrow, hstate, -⟩ := (hJ run hrun).1
    exact hI.log hrow hstate w
  | candidate run _ _ _ hcall hrow hstate =>
    subst hcall
    have ha : ∀ state : LocalIngestionState, state ∈ [.validating, .converting] →
        state.Allowed .reviewPending := by
      intro state
      cases state <;> decide
    exact hI.put .reviewPending rfl rfl ((hI.events hrow).result (ha _ hstate) (by decide))
      (fun hqueued => nomatch hqueued) fun _ => (hJ run rfl).2
  | rejected _ _ _ _ hrow hstate =>
    have ha : ∀ state : LocalIngestionState, state ∈ [.queued, .validating, .converting] →
        state.Allowed .rejected := by
      intro state
      cases state <;> decide
    exact hI.put .rejected rfl rfl ((hI.events hrow).result (ha _ hstate) (by decide))
      (fun hqueued => nomatch hqueued) fun hdone => absurd hdone (by decide)
  | published key _ _ row _ hrow hstate =>
    refine hI.put .published rfl rfl ?_ (fun hqueued => nomatch hqueued) fun _ =>
      (hI key).scanned row hrow (hstate ▸ List.mem_cons_self)
    have hevents := hI.events hrow
    rw [hstate] at hevents
    exact hevents.changed (by decide) (by decide)

theorem Moved.others (h : Moved p s call a s' call') (hd : Remembers p s d)
    (hapart : Service.Apart IngestionCall.Holds call d) : Remembers p s' d := by
  cases h with
  | ended | progressed => exact hd
  | created _ _ _ hnew => exact hd.put (hd.not_holds_new hnew)
  | recreated => exact hd.of_ne (fun _ _ => rfl) fun _ _ => rfl
  | claimed _ _ _ _ _ _ hrow hstate =>
    exact hd.put (hd.not_holds hrow (by rw [hstate]; decide))
  | logged run _ _ hrun => exact hd.log (hapart run.key ⟨run, hrun, rfl⟩)
  | candidate run _ _ _ hcall =>
    exact hd.put (hapart run.key ⟨run, hcall ▸ rfl, rfl⟩)
  | rejected key reason _ _ hrow => exact hd.reject (e := ⟨key, _, _, _⟩) hrow reason
  | published _ _ _ _ _ hrow hstate =>
    exact hd.put (hd.not_holds hrow (by rw [hstate]; decide))

theorem Moved.own (h : Moved p s call a s' call') (hI : IngestionInv s)
    (hJ : Remembers p s call) : ∀ d ∈ call', Remembers p s' d := by
  cases h with
  | claimed _ run row _ _ _ hrow hstate ho =>
    rintro d rfl
    rcases ho with ⟨ho, -⟩ | ⟨object, ho⟩
    · nomatch ho
    · cases ho
      intro run' hrun'
      cases hrun'
      refine ⟨⟨{ row with
        state := .validating, claimTokenHash := some (p.hashToken run.claimToken) }, ?_,
        List.mem_cons_self, rfl⟩, ?_⟩
      · rw [get?_put, if_pos rfl]
        rfl
      · exact ((hI run.key).fresh row hrow hstate).1
  | progressed _ _ hrun hd hwork =>
    rintro _ ⟨⟩
    exact hJ.next hrun hd rfl (hwork _)
  | logged _ _ _ hrun hd hwork =>
    rintro _ ⟨⟩
    refine hJ.next hrun hd rfl fun hdone => ?_
    rw [workOf_log, if_pos rfl]
    exact hwork _ hdone
  | ended | created | recreated | candidate | rejected | published => exact fun d hd => nomatch hd

/-- An upload that the call holds after the step was queued before, or the call held it. -/
theorem Moved.taken (h : Moved p s call a s' (some d)) (hd : d.Holds key) :
    call.Holds key ∨ ∀ e, Remembers p s e → ¬e.Holds key := by
  obtain ⟨run', hrun', rfl⟩ := hd
  cases h with
  | claimed _ _ _ _ _ _ hrow hstate ho =>
    rcases ho with ⟨ho, -⟩ | ⟨object, ho⟩
    · nomatch ho
    · cases ho
      cases hrun'
      exact .inr fun e he => he.not_holds hrow (by rw [hstate]; decide)
  | progressed run _ hrun hd =>
    obtain rfl := Option.some.inj (hd.symm.trans hrun')
    exact .inl ⟨run, hrun, rfl⟩
  | logged run _ _ hrun hd =>
    obtain rfl := Option.some.inj (hd.symm.trans hrun')
    exact .inl ⟨run, hrun, rfl⟩

theorem owed_put {e : LocalIngestionEvent}
    (h : Owed (s.put row e) key) : e.key = key ∧ row.state = .validating ∨
      e.key ≠ key ∧ Owed s key := by
  obtain ⟨row', hrow', hstate⟩ := h
  rw [get?_put] at hrow'
  split_ifs at hrow' with hkey
  · exact .inl ⟨hkey, Option.some.inj hrow' ▸ hstate⟩
  · exact .inr ⟨hkey, row', hrow', hstate⟩

/-- An attempt that waits after the step waited before, or the call has claimed it. -/
theorem Moved.debts (h : Moved p s call a s' call') (hI : IngestionInv s)
    (hG : Completes s call a) (howed : Owed s' key) :
    Owed s key ∧ ¬call.Holds key ∨ ∃ d ∈ call', d.Holds key := by
  cases h with
  | ended h =>
    refine .inl ⟨howed, ?_⟩
    rintro ⟨run, hrun, rfl⟩
    obtain ⟨row, hrow, hstate⟩ := howed
    rcases h run hrun with rfl | h
    · have hdies : MayDie s call := by
        cases call with
        | creating | reviewing | publishing | received => nomatch hrun
        | loading | scanning | converting | persisting | recording | rejecting => exact hG
      exact hdies run hrun row hrow hstate
    · exact h row hrow hstate
  | created _ hcall =>
    subst hcall
    rcases owed_put howed with ⟨-, hstate⟩ | ⟨-, howed⟩
    · nomatch hstate
    · exact .inl ⟨howed, fun ⟨run, hrun, _⟩ => nomatch hrun⟩
  | recreated _ hcall =>
    subst hcall
    exact .inl ⟨howed, fun ⟨run, hrun, _⟩ => nomatch hrun⟩
  | claimed _ run row _ hcall htask hrow hstate ho =>
    subst hcall
    rcases owed_put howed with ⟨rfl, -⟩ | ⟨-, howed⟩
    · rcases ho with ⟨-, rfl | hmissing⟩ | ⟨object, rfl⟩
      · exact absurd hstate (hG (run.key, run.claimToken) (by rw [htask]; rfl) row hrow)
      · have hcomplete := ((hI run.key).fresh row hrow hstate).2.2.2
        rw [hmissing] at hcomplete
        nomatch hcomplete
      · exact .inr ⟨_, rfl, run, rfl, rfl⟩
    · exact .inl ⟨howed, fun ⟨run, hrun, _⟩ => nomatch hrun⟩
  | progressed run d hrun hd =>
    by_cases hkey : run.key = key
    · exact .inr ⟨d, rfl, run, hd, hkey⟩
    · refine .inl ⟨howed, fun ⟨run', hrun', hkey'⟩ => hkey ?_⟩
      exact Option.some.inj (hrun.symm.trans hrun') ▸ hkey'
  | logged run _ d hrun hd =>
    by_cases hkey : run.key = key
    · exact .inr ⟨d, rfl, run, hd, hkey⟩
    · refine .inl ⟨howed, fun ⟨run', hrun', hkey'⟩ => hkey ?_⟩
      exact Option.some.inj (hrun.symm.trans hrun') ▸ hkey'
  | candidate _ _ _ _ hcall _ hstate =>
    subst hcall
    rcases owed_put howed with ⟨-, hstate⟩ | ⟨hkey, howed⟩
    · nomatch hstate
    · refine .inl ⟨howed, fun ⟨run', hrun', hkey'⟩ => hkey ?_⟩
      exact Option.some.inj hrun' ▸ hkey'
  | rejected _ _ _ hcall _ hstate =>
    rcases owed_put howed with ⟨-, hstate⟩ | ⟨hkey, howed⟩
    · nomatch hstate
    · refine .inl ⟨howed, fun ⟨run', hrun', hkey'⟩ => ?_⟩
      rcases hcall with ⟨run, hrun, rfl⟩ | rfl
      · exact hkey (Option.some.inj (hrun.symm.trans hrun') ▸ hkey')
      · nomatch hrun'
  | published _ _ _ _ hcall _ hstate =>
    rcases owed_put howed with ⟨-, hstate⟩ | ⟨-, howed⟩
    · nomatch hstate
    · refine .inl ⟨howed, fun ⟨run', hrun', _⟩ => ?_⟩
      nomatch hcall.symm.trans hrun'

theorem ingestionRule (p : Platform) : (ingestions p).CustodyRule IngestionCall.Holds Owed Completes
    MayDie IngestionInv (Remembers p) where
  start s req _ := by
    have hrun : req.call.run? = none := by cases req <;> rfl
    refine ⟨fun run h => ?_, fun key ⟨run, h, _⟩ => ?_⟩ <;> nomatch hrun.symm.trans h
  step s c a s' c' hI hJ hG h :=
    have hmoved := moved_of_step (p := p) h
    ⟨hmoved.inv hI hJ hG, fun _ hd hapart => hmoved.others hd hapart, hmoved.own hI hJ⟩
  taken s c a s' d _ _ _ h _ hd := (moved_of_step (p := p) h).taken hd
  debts s c a s' c' hI _ hG h _ howed := (moved_of_step (p := p) h).debts hI hG howed
  abort s c hI _ _ := ⟨hI, fun _ hd _ => hd⟩
  abandoned s c _ _ hA key howed := by
    refine ⟨howed, ?_⟩
    rintro ⟨run, hrun, rfl⟩
    obtain ⟨row, hrow, hstate⟩ := howed
    exact hA run hrun row hrow hstate

theorem ingestionStepLaw_of_remembers (hJ : Remembers p s call) : IngestionStepLaw p s call a := by
  rintro ⟨s', call'⟩ hr run hrun
  obtain ⟨row, hrow, -, hhash⟩ := (hJ run hrun).1
  refine ⟨row, hrow, hhash, fun key hkey => ?_⟩
  have hput : ∀ {row : LocalIngestionAttempt} {e : LocalIngestionEvent}, e.key = run.key →
      (s.put row e).attempts.get? key = s.attempts.get? key := by
    rintro row e he
    rw [get?_put, if_neg]
    exact fun h => hkey (h.symm.trans he)
  cases moved_of_step hr with
  | ended | progressed | logged => rfl
  | created _ hcall => nomatch hcall ▸ hrun
  | recreated _ hcall => nomatch hcall ▸ hrun
  | claimed _ _ _ _ hcall => nomatch hcall ▸ hrun
  | candidate _ _ _ _ hcall =>
    subst hcall
    cases hrun
    exact hput rfl
  | rejected _ _ _ hcall =>
    rcases hcall with ⟨run', hrun', rfl⟩ | rfl
    · cases hrun'.symm.trans hrun
      exact hput rfl
    · nomatch hrun
  | published _ _ _ _ hcall => nomatch hcall.symm.trans hrun

/-! ## How an execution ends -/

/-- The attempt has a result. -/
def LocalIngestions.Done (s : LocalIngestions) (key : UploadKey) : Prop :=
  ∃ row, s.attempts.get? key = some row ∧ row.state.Settled

/-- The call brings the attempt to a result, with these answers and while no other moves. -/
def Finishes (p : Platform) (w : Conduct) (s : LocalIngestions) (call : IngestionCall)
    (key : UploadKey) : Prop :=
  ∃ as s' call', (∀ a ∈ as, a ∈ w.answers) ∧ (ingestions p).solo s call as = some (s', call') ∧
    s'.Done key

variable {w : Conduct} {run : Execution} {row : LocalIngestionAttempt}

theorem Finishes.last (ha : a ∈ w.answers) (h : call.step p s a = some (s', none))
    (hdone : s'.Done key) : Finishes p w s call key := by
  refine ⟨[a], s', none, fun b hb => List.mem_singleton.mp hb ▸ ha, ?_, hdone⟩
  have hstep : (ingestions p).step s call a = some (s', none) := h
  rw [Service.solo, hstep]
  rfl

theorem Finishes.step (ha : a ∈ w.answers) (h : call.step p s a = some (s', some d))
    (hd : Finishes p w s' d key) :
    Finishes p w s call key := by
  obtain ⟨as, s'', call'', has, hsolo, hdone⟩ := hd
  refine ⟨a :: as, s'', call'', fun b hb => ?_, ?_, hdone⟩
  · rcases List.mem_cons.mp hb with rfl | hb
    · exact ha
    · exact has b hb
  · have hstep : (ingestions p).step s call a = some (s', some d) := h
    rw [Service.solo, hstep]
    exact hsolo

theorem ok_mem_answers (w : Conduct) : IngestionAnswer.ok ∈ w.answers := List.mem_cons_self

theorem done_put (h : row.state.Settled) : (s.put row e).Done e.key :=
  ⟨row, by rw [get?_put, if_pos rfl], h⟩

theorem finishes_rejecting (hrow : s.attempts.get? run.key = some row)
    (hstate : row.state = .validating) (code : FailureCode) :
    Finishes p w s (.rejecting run code) run.key := by
  have hdone : (s.reject run.key code.text true).1.Done run.key := by
    rcases reject_eq s run.key code.text with ⟨row', -, -, heq⟩ | ⟨hno, -⟩
    · rw [heq]
      exact done_put (e := ⟨run.key, _, _, _⟩) (by decide : LocalIngestionState.rejected.Settled)
    · exact absurd (by rw [hstate]; decide) (hno row hrow)
  exact .last (ok_mem_answers w) rfl hdone

theorem finishes_recording (hrow : s.attempts.get? run.key = some row)
    (hstate : row.state = .validating) (knowledgeSourceId manifestJson : String) :
    Finishes p w s (.recording run knowledgeSourceId manifestJson) run.key := by
  have hdone : (s.recordCandidate run.key knowledgeSourceId manifestJson).1.Done run.key := by
    rcases recordCandidate_eq s run.key knowledgeSourceId manifestJson with
      ⟨row', -, -, heq⟩ | ⟨hno, -⟩
    · rw [heq]
      exact done_put (e := ⟨run.key, _, _, _⟩)
        (by decide : LocalIngestionState.reviewPending.Settled)
    · exact absurd (by rw [hstate]; decide) (hno row hrow)
  exact .last (ok_mem_answers w) rfl hdone

theorem finishes_persisting (hrow : s.attempts.get? run.key = some row)
    (hstate : row.state = .validating) (document : ValidatedDocument) :
    Finishes p w s (.persisting run document) run.key :=
  .step (a := .persisted w.knowledgeSourceId w.manifestJson) (by simp [Conduct.answers]) rfl
    (finishes_recording hrow hstate _ _)

theorem finishes_converting (hrow : s.attempts.get? run.key = some row)
    (hstate : row.state = .validating) (content : Bytes) (document : ValidatedDocument) :
    Finishes p w s (.converting run content document) run.key := by
  have ha : IngestionAnswer.converted w.failureCode ∈ w.answers := by simp [Conduct.answers]
  have hrow' : (s.log run.key (.converted content)).attempts.get? run.key = some row := hrow
  cases hcode : w.failureCode with
  | none =>
    rw [hcode] at ha
    exact .step ha rfl (finishes_persisting hrow' hstate document)
  | some code =>
    rw [hcode] at ha
    exact .step ha rfl (finishes_rejecting hrow' hstate code)

theorem finishes_scanning (hrow : s.attempts.get? run.key = some row)
    (hstate : row.state = .validating) (content : Bytes) (document : ValidatedDocument) :
    Finishes p w s (.scanning run content document) run.key := by
  refine .step (a := .verdict w.verdict) (by simp [Conduct.answers]) rfl ?_
  have hrow' : (s.log run.key (.scanned content w.verdict)).attempts.get? run.key = some row := hrow
  unfold scanned
  split_ifs
  · exact finishes_rejecting hrow' hstate _
  · exact finishes_rejecting hrow' hstate _
  · exact finishes_rejecting hrow' hstate _
  · exact finishes_converting hrow' hstate content document

theorem finishes_loading (hrow : s.attempts.get? run.key = some row)
    (hstate : row.state = .validating) (object : QuarantinedObject) :
    Finishes p w s (.loading run object) run.key := by
  have ha : IngestionAnswer.content w.content ∈ w.answers := by simp [Conduct.answers]
  cases hpreflight : preflight p object w.content with
  | ok document =>
    refine .step ha ?_ (finishes_scanning hrow hstate w.content document)
    rw [step, hpreflight]
  | error code =>
    refine .step ha ?_ (finishes_rejecting hrow hstate code)
    rw [step, hpreflight]

theorem finishes_of_holds (hrow : s.attempts.get? key = some row)
    (hstate : row.state = .validating) (hholds : call.Holds key) : Finishes p w s call key := by
  obtain ⟨run, hrun, rfl⟩ := hholds
  cases call with
  | creating | reviewing | publishing | received => nomatch hrun
  | loading _ object =>
    cases hrun
    exact finishes_loading hrow hstate object
  | scanning _ content document =>
    cases hrun
    exact finishes_scanning hrow hstate content document
  | converting _ content document =>
    cases hrun
    exact finishes_converting hrow hstate content document
  | persisting _ document =>
    cases hrun
    exact finishes_persisting hrow hstate document
  | recording =>
    cases hrun
    exact finishes_recording hrow hstate _ _
  | rejecting _ code =>
    cases hrun
    exact finishes_rejecting hrow hstate code

theorem check_task (w : Conduct) (hkey : key.1 ≠ "" ∧ key.2 ≠ "") (hw : w.claimToken ≠ "") :
    (w.task key).check = .ok (key, w.claimToken) := by
  simp [IngestionTask.check, Conduct.task, present, require, hkey, hw, bind, Except.bind, pure,
    Except.pure]

theorem finishes_received (hI : IngestionInv s) (hrow : s.attempts.get? key = some row)
    (hstate : row.state = .queued) (hw : w.claimToken ≠ "") :
    Finishes p w s (.received (w.task key)) key := by
  obtain ⟨-, hworkspace, hupload, hquarantined⟩ := (hI key).fresh row hrow hstate
  have hcheck := check_task w ⟨hworkspace, hupload⟩ hw
  rcases claim_eq s p key w.claimToken with ⟨row', hrow', -, heq⟩ | ⟨hno, -⟩
  · cases hrow.symm.trans hrow'
    rcases claimed_cases ⟨key, w.claimToken⟩ { row with
        state := .validating, claimTokenHash := some (p.hashToken w.claimToken) } with
      ⟨-, hmissing⟩ | ⟨object, hobject⟩
    · have hmissing : row.quarantined.toOption = none := hmissing
      rw [hmissing] at hquarantined
      nomatch hquarantined
    · have hclaimed : (s.claim p key w.claimToken).1.attempts.get? key = some { row with
          state := .validating, claimTokenHash := some (p.hashToken w.claimToken) } := by
        rw [heq, get?_put, if_pos rfl]
      refine .step (d := .loading ⟨key, w.claimToken⟩ object) (ok_mem_answers w) ?_
        (finishes_loading (show _ = _ from hclaimed) rfl object)
      rw [step, hcheck]
      show some (_, claimed _ (s.claim p key w.claimToken).2) = _
      rw [heq]
      exact congrArg (fun o => some (_, o)) hobject
  · exact absurd (by rw [hstate]; decide) (hno row hrow)

/-- The invariant of the executions. -/
abbrev ExecutionsInv (p : Platform) (f : InFlight LocalIngestions IngestionCall) : Prop :=
  Service.CustodyInv IngestionCall.Holds Owed IngestionInv (Remembers p) f

variable {f f' : InFlight LocalIngestions IngestionCall}

theorem admits_of_mem_map {i : ℕ} {as : List IngestionAnswer} (has : ∀ a ∈ as, a ∈ w.answers)
    {l : CallLabel IngestionRequest IngestionAnswer} (hl : l ∈ as.map (.step i)) :
    w.Admits key l := by
  obtain ⟨a, ha, rfl⟩ := List.mem_map.mp hl
  exact has a ha

theorem ends_of_inv (h : ExecutionsInv p f) (hrow : f.store.attempts.get? key = some row)
    (hpending : row.state.Pending) (hw : w.claimToken ≠ "") :
    ∃ ls f', (∀ l ∈ ls, w.Admits key l) ∧ (ingestions p).system.run f ls = some f' ∧
      f'.store.Done key := by
  have hstate : row.state = .queued ∨ row.state = .validating := by
    rcases List.mem_cons.mp hpending with hstate | hpending
    · exact .inl hstate
    · rcases List.mem_cons.mp hpending with hstate | hpending
      · exact .inr hstate
      · exact absurd (List.mem_singleton.mp hpending) (h.inv.store.events hrow).ne_converting
  rcases hstate with hstate | hstate
  · let f₁ : InFlight LocalIngestions IngestionCall :=
      { f with calls := f.calls ++ [some (.received (w.task key))] }
    have hstart : (ingestions p).system.next f (.start (.execute (w.task key))) = some f₁ := rfl
    have hc : f₁.call? f.calls.length = some (.received (w.task key)) := by
      rw [InFlight.call?_eq_some]
      exact List.getElem?_concat_length
    obtain ⟨as, s', call', has, hsolo, hdone⟩ := finishes_received h.inv.store hrow hstate hw
    obtain ⟨f', hf', rfl⟩ := Service.run_solo hc hsolo
    refine ⟨.start (.execute (w.task key)) :: as.map (.step f.calls.length), f', fun l hl => ?_,
      (ingestions p).system.run_cons_eq_some.mpr ⟨f₁, hstart, hf'⟩, hdone⟩
    rcases List.mem_cons.mp hl with rfl | hl
    · rfl
    · exact admits_of_mem_map has hl
  · obtain ⟨i, c, hc, hholds⟩ := h.held key ⟨row, hrow, hstate⟩
    obtain ⟨as, s', call', has, hsolo, hdone⟩ := finishes_of_holds hrow hstate hholds
    obtain ⟨f', hf', rfl⟩ := Service.run_solo hc hsolo
    exact ⟨_, f', fun l hl => admits_of_mem_map has hl, hf', hdone⟩

/-! ## Results -/

/-- No attempt has a result. -/
def Unrecorded (s : LocalIngestions) : Prop :=
  ∀ key row, s.attempts.get? key = some row → row.state ∈ [.queued, .validating]

theorem unrecorded_set {s : LocalIngestions} {key : UploadKey} {row : LocalIngestionAttempt}
    {events : List LocalIngestionEvent} (h : Unrecorded s) (hrow : row.state ∈ [.queued, .validating]) :
    Unrecorded { s with attempts := s.attempts.set key row, events } := by
  intro key' row' hrow'
  rw [Dict.get?_set] at hrow'
  split_ifs at hrow'
  · cases hrow'
    exact hrow
  · exact h key' row' hrow'

theorem unrecorded_change {s : LocalIngestions} {key : UploadKey}
    {expected : List LocalIngestionState} {update : LocalIngestionAttempt → LocalIngestionAttempt}
    {e : LocalIngestionEvent} (hupdate : ∀ row, (update row).state ∉ [.queued, .validating]) :
    Unrecorded (s.change key expected update e).1 ↔
      Unrecorded s ∧ ∀ row ∈ s.attempts.get? key, row.state ∉ expected := by
  unfold LocalIngestions.change
  cases hrow : s.attempts.get? key with
  | none => exact (and_iff_left fun _ h => nomatch h).symm
  | some row =>
    dsimp only
    split_ifs with hstate
    · constructor
      · intro h
        exact absurd (h key (update row) (Dict.get?_set_self _ _ _)) (hupdate row)
      · rintro ⟨-, hno⟩
        exact absurd hstate (hno row rfl)
    · refine (and_iff_left ?_).symm
      rintro _ ⟨⟩
      exact hstate

theorem unrecorded_createQueued {s : LocalIngestions} {input : CreateQueued} :
    Unrecorded (s.createQueued input) ↔ Unrecorded s := by
  unfold LocalIngestions.createQueued
  cases hrow : s.attempts.get? input.key with
  | some => exact Iff.rfl
  | none =>
    refine ⟨fun h key row hold => h key row ?_, fun h => unrecorded_set h List.mem_cons_self⟩
    refine (Dict.get?_set_of_ne _ ?_ _).trans hold
    rintro rfl
    nomatch hrow.symm.trans hold

theorem unrecorded_claim {s : LocalIngestions} {key : UploadKey} {taskToken : String} :
    Unrecorded (s.claim p key taskToken).1 ↔ Unrecorded s := by
  unfold LocalIngestions.claim LocalIngestions.change
  cases hrow : s.attempts.get? key with
  | none => exact Iff.rfl
  | some =>
    dsimp only
    split_ifs with hstate
    · refine ⟨fun h key' row' hold => ?_, fun h =>
        unrecorded_set h (List.mem_cons_of_mem _ List.mem_cons_self)⟩
      by_cases hkey : key = key'
      · subst hkey
        cases hrow.symm.trans hold
        exact List.mem_cons.mpr (.inl (List.mem_singleton.mp hstate))
      · exact h key' row' ((Dict.get?_set_of_ne _ hkey _).trans hold)
    · exact Iff.rfl

theorem unrecorded_transact {R : Type} {s s' : LocalIngestions} {r : LocalIngestions × R}
    {next : R → Option IngestionCall} {call' : Option IngestionCall} {a : IngestionAnswer} {P : Prop}
    (h : transact s r next a = some (s', call')) (hr : Unrecorded r.1 ↔ Unrecorded s ∧ P) :
    Unrecorded s' ↔ Unrecorded s ∧ (a = .raised ∨ P) := by
  rcases transact_eq_some h with ⟨ha, rfl, -⟩ | ⟨ha, rfl, -⟩
  · exact (and_iff_left (.inl ha)).symm
  · rw [hr, or_iff_right ha]

theorem unrecorded_step {s s' : LocalIngestions} {call : IngestionCall} {a : IngestionAnswer}
    {call' : Option IngestionCall} (h : call.step p s a = some (s', call')) :
    Unrecorded s' ↔ Unrecorded s ∧ RecordsNothing s call a := by
  have htrue : ∀ {Q : Prop}, (Q ↔ Q ∧ True) := (and_iff_left trivial).symm
  cases call with
  | creating =>
    rw [step] at h
    rw [unrecorded_transact h (unrecorded_createQueued.trans htrue)]
    cases a <;> simp [RecordsNothing]
  | reviewing =>
    rw [step] at h
    rw [unrecorded_transact h
      (unrecorded_change fun row => show LocalIngestionState.rejected ∉ _ by decide)]
    cases a <;> simp [RecordsNothing]
  | publishing key =>
    -- an attempt without a result is not published
    have hno : (Unrecorded s ∧ ∀ row ∈ s.attempts.get? key, row.state ∉ [.reviewPending]) ↔
        Unrecorded s ∧ True := by
      refine and_congr_right fun hs => iff_true_intro fun row hrow hpending => ?_
      have hstate := hs key row hrow
      rw [List.mem_singleton.mp hpending] at hstate
      exact absurd hstate (by decide)
    rw [step] at h
    rw [unrecorded_transact h
      ((unrecorded_change fun row => show LocalIngestionState.published ∉ _ by decide).trans hno)]
    cases a <;> simp [RecordsNothing]
  | received task =>
    rw [step] at h
    cases htask : task.check with
    | error =>
      rw [htask] at h
      rw [unrecorded_transact h htrue]
      cases a <;> simp [RecordsNothing]
    | ok =>
      rw [htask] at h
      rw [unrecorded_transact h (unrecorded_claim.trans htrue)]
      cases a <;> simp [RecordsNothing]
  | recording =>
    rw [step] at h
    rw [unrecorded_transact h
      (unrecorded_change fun row => show LocalIngestionState.reviewPending ∉ _ by decide)]
    cases a <;> simp [RecordsNothing]
  | rejecting =>
    rw [step] at h
    rw [unrecorded_transact h
      (unrecorded_change fun row => show LocalIngestionState.rejected ∉ _ by decide)]
    cases a <;> simp [RecordsNothing]
  | loading | scanning | converting | persisting =>
    have hsame : s'.attempts = s.attempts := by
      cases a with
      | content => first | (rw [step] at h; split at h <;> cases h <;> rfl) | cases h
      | converted failureCode => cases failureCode <;> cases h <;> rfl
      | ok | lost | raised | verdict | persisted => cases h <;> rfl
    rw [and_iff_left (by cases a <;> trivial), Unrecorded, hsame]
    rfl

/-! ## Runs -/

theorem ingestionInv_empty : IngestionInv {} := fun _ =>
  ⟨fun _ => ⟨rfl, rfl⟩, fun _ h => (nomatch h), fun _ h => (nomatch h), fun _ h => (nomatch h)⟩

theorem unrecorded_iff_along {ls : List (CallLabel IngestionRequest IngestionAnswer)}
    (hrun : (ingestions p).system.run { store := {} } ls = some f) : Unrecorded f.store ↔
      (ingestions p).system.Along (Service.Meets RecordsNothing) { store := {} } ls := by
  have hstep : ∀ (f : InFlight LocalIngestions IngestionCall) l f',
      (ingestions p).system.next f l = some f' →
        (Unrecorded f'.store ↔ Unrecorded f.store ∧ Service.Meets RecordsNothing f l) := by
    intro f l f' hnext
    cases l with
    | start =>
      cases hnext
      exact (and_iff_left trivial).symm
    | step =>
      obtain ⟨c, hc, s', c', hs, rfl⟩ := (ingestions p).next_step_eq_some.mp hnext
      rw [unrecorded_step hs]
      refine and_congr_right fun _ => ⟨fun h d hd => ?_, fun h => h c hc⟩
      cases hc.symm.trans hd
      exact h
    | giveUp i =>
      cases hnext
      cases f.call? i <;> exact (and_iff_left trivial).symm
  rw [System.iff_along _ hstep hrun]
  exact and_iff_right fun _ _ h => nomatch h

/-- The events are one path exactly if no step has recorded a result. -/
theorem localIngestionLaw_along (ls : List (CallLabel IngestionRequest IngestionAnswer))
    (hcond : (ingestions p).system.Along
      (fun s l => Service.Meets Completes s l ∧ Service.Spares MayDie s l) { store := {} } ls)
    (hrun : (ingestions p).system.run { store := {} } ls = some f) :
    ExecutionLaw p f ∧
      (ingestions p).system.Along (Service.Meets (IngestionStepLaw p)) { store := {} } ls ∧
      (IngestionLaw p f ↔
        (ingestions p).system.Along (Service.Meets RecordsNothing) { store := {} } ls) := by
  have hempty : ExecutionsInv p { store := {} } :=
    .of_empty ingestionInv_empty fun key ⟨row, hrow, _⟩ => nomatch hrow
  have hinv := (ingestionRule p).inv_of_along hempty hcond hrun
  have hexecution : ExecutionLaw p f :=
    ⟨fun key row hrow hpending w hw => ends_of_inv hinv hrow hpending hw, hinv.exclusive,
      fun key row hrow => (hinv.inv.store key).scanned row hrow,
      fun key row hrow => (hinv.inv.store.events hrow).path⟩
  refine ⟨hexecution, (ingestionRule p).along hempty
    (fun s c a _ hJ _ => ingestionStepLaw_of_remembers hJ) hcond, ?_⟩
  rw [← unrecorded_iff_along hrun]
  constructor
  · exact fun h key row hrow => (hinv.inv.store.events hrow).trail_iff.mp (h.events key row hrow)
  · exact fun h =>
      ⟨hexecution, fun key row hrow => (hinv.inv.store.events hrow).trail_iff.mpr (h key row hrow)⟩

/-! ## An execution that dies -/

/-- A call that neither holds the upload nor reviews it. -/
def Elsewhere (key : UploadKey) (call : IngestionCall) : Prop :=
  ¬call.Holds key ∧ call ≠ .reviewing key

theorem elsewhere_of_run (hd : d.run? = some run) (hkey : run.key ≠ key) : Elsewhere key d := by
  refine ⟨fun ⟨run', hrun', hkey'⟩ => hkey ?_, ?_⟩
  · exact Option.some.inj (hd.symm.trans hrun') ▸ hkey'
  · rintro rfl
    nomatch hd

/-- A step of a call that is elsewhere leaves the attempt in `VALIDATING`. -/
theorem Moved.stuck (h : Moved p s call a s' call') (howed : Owed s key)
    (hcall : Elsewhere key call) : Owed s' key ∧ ∀ d ∈ call', Elsewhere key d := by
  have hstays : ∀ {row₁ : LocalIngestionAttempt} {e : LocalIngestionEvent}, e.key ≠ key →
      Owed (s.put row₁ e) key := by
    intro row₁ e he
    obtain ⟨row, hrow, hstate⟩ := howed
    exact ⟨row, by rw [get?_put, if_neg he]; exact hrow, hstate⟩
  -- an attempt in another state is not this one
  have hother : ∀ {key' row₁}, s.attempts.get? key' = some row₁ →
      row₁.state ≠ .validating → key' ≠ key := by
    rintro key' row₁ hrow₁ hstate₁ rfl
    obtain ⟨row, hrow, hstate⟩ := howed
    exact hstate₁ (Option.some.inj (hrow₁.symm.trans hrow) ▸ hstate)
  cases h with
  | ended | recreated => exact ⟨howed, fun d hd => nomatch hd⟩
  | created _ _ _ hnew =>
    refine ⟨hstays ?_, fun d hd => nomatch hd⟩
    rintro rfl
    obtain ⟨row, hrow, -⟩ := howed
    nomatch hnew.symm.trans hrow
  | claimed _ run _ _ _ _ hrow hstate ho =>
    have hkey : run.key ≠ key := hother hrow (by rw [hstate]; decide)
    refine ⟨hstays hkey, ?_⟩
    rcases ho with ⟨rfl, -⟩ | ⟨object, rfl⟩
    · exact fun d hd => nomatch hd
    · rintro _ ⟨⟩
      exact elsewhere_of_run rfl hkey
  | progressed run _ hrun hd =>
    refine ⟨howed, ?_⟩
    rintro _ ⟨⟩
    exact elsewhere_of_run hd fun hkey => hcall.1 ⟨run, hrun, hkey⟩
  | logged run _ _ hrun hd =>
    refine ⟨howed, ?_⟩
    rintro _ ⟨⟩
    exact elsewhere_of_run hd fun hkey => hcall.1 ⟨run, hrun, hkey⟩
  | candidate run _ _ _ hcall' =>
    exact ⟨hstays fun hkey => hcall.1 ⟨run, hcall' ▸ rfl, hkey⟩, fun d hd => nomatch hd⟩
  | rejected _ _ _ hcall' =>
    refine ⟨hstays ?_, fun d hd => nomatch hd⟩
    rintro rfl
    exact hcall'.elim hcall.1 hcall.2
  | published _ _ _ _ _ hrow hstate =>
    exact ⟨hstays (hother hrow (by rw [hstate]; decide)), fun d hd => nomatch hd⟩

/-- The attempt is claimed, and no call holds it or reviews it. -/
abbrev Stuck (key : UploadKey) (f : InFlight LocalIngestions IngestionCall) : Prop :=
  Service.Inv (Owed · key) (fun _ call => Elsewhere key call) f

theorem stuck_next {l : CallLabel IngestionRequest IngestionAnswer} (h : Stuck key f)
    (hl : l ≠ .start (.review key)) (hn : (ingestions p).system.next f l = some f') :
    Stuck key f' := by
  cases l with
  | start req =>
    cases hn
    refine ⟨h.store, fun i c hc => ?_⟩
    rcases Service.call?_start hc with hc | ⟨-, rfl⟩
    · exact h.calls i c hc
    · cases req with
      | review =>
        refine ⟨fun ⟨run, hrun, _⟩ => (nomatch hrun), fun heq => hl ?_⟩
        cases heq
        rfl
      | create | execute | publish =>
        exact ⟨fun ⟨run, hrun, _⟩ => (nomatch hrun), fun heq => nomatch heq⟩
  | step i =>
    obtain ⟨c, hc, s', c', hstep, rfl⟩ := (ingestions p).next_step_eq_some.mp hn
    obtain ⟨howed, hown⟩ := (moved_of_step (p := p) hstep).stuck h.store (h.calls i c hc)
    refine ⟨howed, fun j d hd => ?_⟩
    rcases Service.call?_set hd with ⟨-, hd⟩ | ⟨-, hd⟩
    · exact hown d hd
    · exact h.calls j d hd
  | giveUp i =>
    cases hn
    have hstore : (f.call? i).elim f.store (fun c => (ingestions p).abort c f.store) = f.store := by
      cases f.call? i <;> rfl
    rw [hstore]
    refine ⟨h.store, fun j d hd => ?_⟩
    rcases Service.call?_set hd with ⟨-, hd⟩ | ⟨-, hd⟩
    · nomatch hd
    · exact h.calls j d hd

/-- Without a review, no execution takes up an attempt whose execution died. -/
theorem stuck_of_run {ls : List (CallLabel IngestionRequest IngestionAnswer)} (h : Stuck key f)
    (hls : ∀ l ∈ ls, l ≠ .start (.review key))
    (hrun : (ingestions p).system.run f ls = some f') : Owed f'.store key := by
  induction ls generalizing f with
  | nil => exact Option.some.inj hrun ▸ h.store
  | cons l _ ih =>
    obtain ⟨m, hm, hrun⟩ := (ingestions p).system.run_cons_eq_some.mp hrun
    exact ih (stuck_next h (hls l List.mem_cons_self) hm)
      (fun l' hl' => hls l' (List.mem_cons_of_mem l hl')) hrun

end

/-! ## One upload -/

/-- A platform on which every content has the same hash. -/
def testPlatform : Platform where
  sha256 _ := "sha"
  hashToken token := token
  infolist _ := .ok []
  ratio _ _ := ""

def notesUpload : CreateQueued where
  workspaceId := "ws-1"
  uploadId := "up-1"
  quarantineRelativePath := "quarantine/ws-1/up-1/original"
  declaredMediaType := none
  detectedMediaType := some "text/plain"
  sourceSha256 := some "sha"
  sizeBytes := some 2
  createdBy := "7"

def notesTask (claimToken : String) : IngestionTask where
  taskType := some "knowledge_ingestion"
  workspaceId := some "ws-1"
  uploadId := some "up-1"
  claimToken := some claimToken

/-- The first execution brings the upload to its review, a second does nothing, and it is published. -/
def publishedRun : List (CallLabel IngestionRequest IngestionAnswer) :=
  [.start (.create notesUpload), .step 0 .ok, .start (.execute (notesTask "token-1")),
    .start (.execute (notesTask "token-2")), .step 1 .ok, .step 1 (.content [104, 105]), .step 2 .ok,
    .step 1 (.verdict "clean"), .step 1 (.converted none), .step 1 (.persisted "doc-1" "manifest"),
    .step 1 .ok, .start (.publish notesUpload.key "vault-1" "version-1"), .step 3 .ok]

/-- As far as the conversion, no result is recorded. -/
theorem localIngestionLaw_along_published :
    IngestionLaw testPlatform (((ingestions testPlatform).system.run { store := {} }
      (publishedRun.take 10)).get (by decide +kernel)) ∧
    ExecutionLaw testPlatform (((ingestions testPlatform).system.run { store := {} }
      publishedRun).get (by decide +kernel)) ∧
    ¬IngestionLaw testPlatform (((ingestions testPlatform).system.run { store := {} }
      publishedRun).get (by decide +kernel)) := by
  refine ⟨?_, ?_, ?_⟩
  · exact (localIngestionLaw_along (publishedRun.take 10) (by decide +kernel)
      (Option.some_get _).symm).2.2.mpr (by decide +kernel)
  · exact (localIngestionLaw_along publishedRun (by decide +kernel)
      (Option.some_get _).symm).1
  · exact (localIngestionLaw_along publishedRun (by decide +kernel)
      (Option.some_get _).symm).2.2.not.mpr (by decide +kernel)

/-- The worker dies right after its execution has claimed the attempt. -/
def crashRun : List (CallLabel IngestionRequest IngestionAnswer) :=
  [.start (.create notesUpload), .step 0 .ok, .start (.execute (notesTask "token-1")), .step 1 .ok,
    .giveUp 1]

theorem not_localIngestionLaw_crash :
    ¬∀ p ls f, (ingestions p).system.run { store := {} } ls = some f → IngestionLaw p f ∧
      (ingestions p).system.Along (Service.Meets (IngestionStepLaw p)) { store := {} } ls := by
  intro h
  let reached := ((ingestions testPlatform).system.run { store := {} } crashRun).get
    (by decide +kernel)
  obtain ⟨hlaw, -⟩ := h testPlatform crashRun reached (Option.some_get _).symm
  have hclaimed : (reached.store.attempts.get? notesUpload.key).map (·.state) = some .validating := by
    decide +kernel
  obtain ⟨row, hrow, hstate⟩ := Option.map_eq_some_iff.mp hclaimed
  obtain ⟨ls, f', hls, hrun, row', hrow', hsettled⟩ := hlaw.ends notesUpload.key row hrow
    (hstate ▸ by decide) ⟨"token-2", [], "clean", none, "doc-1", ""⟩ (by decide)
  have hcalls : ∀ i c, reached.call? i ≠ some c := by
    have hended : reached.calls.map Option.isSome = [false, false] := by decide +kernel
    intro i c hc
    have hsome := congrArg (Option.map Option.isSome) (InFlight.call?_eq_some.mp hc)
    rw [← List.getElem?_map, hended] at hsome
    match i with
    | 0 | 1 => nomatch hsome
    | i + 2 => nomatch hsome
  have hstuck : Stuck notesUpload.key reached :=
    ⟨⟨row, hrow, hstate⟩, fun i c hc => absurd hc (hcalls i c)⟩
  obtain ⟨row'', hrow'', hvalidating⟩ := stuck_of_run hstuck (fun l hl heq => by
      have hadmits := hls l hl
      rw [heq] at hadmits
      nomatch hadmits) hrun
  cases hrow'.symm.trans hrow''
  rw [hvalidating] at hsettled
  exact absurd hsettled (by decide)

end JavisSaas.Cosa.KnowledgeIngestion
