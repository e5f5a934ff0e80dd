import JavisSaas.Company.Operations.TaskStatuses

/-!
# Completed tasks and their commitments

* `statusLaw_along`: no agent takes a task out of its end, completions are announced once and
  overwrite only what they have seen, and a commitment stays done exactly when all its tasks are, if
  no writer of a status is overtaken and only completions finish or reopen a commitment.
* `not_statusLaw_overtaken`: a cancelled task is completed, an agent goes on with it, and two
  completions close no commitment.
-/

namespace JavisSaas.Company.Operations

open JavisSaas.Lib

/-! ## The law -/

/-- No agent moves an ended task; no completion is announced twice, or has not seen the status. -/
structure StatusLaw (s : TaskStore) : Prop where
  agent : ∀ w ∈ s.writes, w.writer = .agent → w.before = .cancelled ∨ w.before = .done →
    w.after = w.before
  events : ∀ id, s.db.completed.count id ≤
    (s.writes.filter fun w => w.taskId = id && w.before ≠ .done && w.after = .done).length
  seen : ∀ w ∈ s.writes, w.after = .done → ∀ status ∈ w.seen, status = w.before

/-- All undeleted tasks of a commitment are done. -/
def TaskDb.AllDone (db : TaskDb) (commitmentId workspaceId : ℕ) : Prop :=
  ∀ id t, db.tasks.get? id = some t → t.weeklyCommitmentId = some commitmentId →
    t.workspaceId = workspaceId → t.deleted = false → t.status = .done

/-- The commitment is done exactly when all its undeleted tasks are. -/
def TaskDb.Reflects (db : TaskDb) (commitmentId : ℕ) : Prop :=
  ∀ c, db.commitments.get? commitmentId = some c →
    (c.status = "done" ↔ db.AllDone commitmentId c.workspaceId)

/-- A status of a task is written that does not change whether all tasks of its commitment are
    done. -/
def TaskDb.LeavesCommitment (db : TaskDb) (id workspaceId : ℕ) (status : TaskStatus) : Prop :=
  ∀ row ∈ db.taskOf id workspaceId, row.deleted = false → ∀ c ∈ row.weeklyCommitmentId,
    (row.status = .done ↔ status = .done) ∨ db.pendingSibling c row.workspaceId id
deriving Decidable

/-- A person completes a task that is not done, an agent finds one that has not ended, and a
completion what it has read. -/
def NotDisturbed (s : TaskStore) : TaskCall → TaskAnswers → Prop
  | .updateStatus id status workspaceId, _ =>
    (∀ row ∈ s.db.taskOf id workspaceId, status = .done → row.status ≠ .done) ∧
      s.db.LeavesCommitment id workspaceId status
  | .advancing p workspaceId seen, _ =>
    (∀ row ∈ s.db.taskOf p.taskId workspaceId, row.status ∉ [.cancelled, .done] ∧
      (p.toStatus = .done → row.status = seen.status)) ∧
      s.db.LeavesCommitment p.taskId workspaceId p.toStatus
  | .validating p workspaceId task, _ =>
    ∀ row ∈ s.db.taskOf p.taskId workspaceId, row.revision = task.revision →
      row.status = task.status
  | .completing taskId, _ => ∀ c ∈ s.completing.get? taskId, ∀ closes ∈ c.closes,
      closes = c.look s.db taskId
  | _, _ => True

instance (s : TaskStore) (call : TaskCall) (answers : TaskAnswers) :
    Decidable (NotDisturbed s call answers) := by
  unfold NotDisturbed
  split <;> infer_instance

/-! ## One write -/

section Write

variable {s : TaskStore} {db db' : TaskDb} {id : ℕ} {row row' : TrackedTask}

theorem StatusLaw.write (h : StatusLaw s) {w : StatusWrite} (row : TrackedTask)
    (hagent : w.writer = .agent → w.before ∉ [.cancelled, .done])
    (hdone : w.after = .done → w.before ≠ .done)
    (hseen : w.after = .done → ∀ status ∈ w.seen, status = w.before) :
    StatusLaw (s.write w row) where
  agent w' hw' hwriter hbefore := by
    rcases mem_concat hw' with hold | rfl
    · exact h.agent w' hold hwriter hbefore
    · exact absurd (by simpa using hbefore) (hagent hwriter)
  events id' := by
    show (if w.after = .done then s.db.completed ++ [w.taskId] else s.db.completed).count id' ≤
      ((s.writes ++ [w]).filter _).length
    have hold := h.events id'
    rw [List.filter_append, List.length_append]
    split_ifs with hafter
    · rw [List.count_append]
      by_cases hid : w.taskId = id'
      · have hone : ([w].filter fun w => w.taskId = id' && w.before ≠ .done && w.after = .done) =
            [w] := by simp [hid, hdone hafter, hafter]
        rw [hone]
        have hcount : [w.taskId].count id' ≤ 1 := List.count_le_length
        simp only [List.length_singleton]
        omega
      · rw [List.count_eq_zero_of_not_mem (fun hmem => hid (List.mem_singleton.mp hmem).symm)]
        omega
    · omega
  seen w' hw' hafter := by
    rcases mem_concat hw' with hold | rfl
    · exact h.seen w' hold hafter
    · exact hseen hafter

/-- The row belongs to a commitment. -/
def TrackedTask.InScope (t : TrackedTask) (commitmentId workspaceId : ℕ) : Prop :=
  t.weeklyCommitmentId = some commitmentId ∧ t.workspaceId = workspaceId ∧ t.deleted = false

/-- The same task, with another status. -/
structure SameTask (t t' : TrackedTask) : Prop where
  workspace : t'.workspaceId = t.workspaceId
  commitment : t'.weeklyCommitmentId = t.weeklyCommitmentId
  deleted : t'.deleted = t.deleted

theorem SameTask.trans {a b c : TrackedTask} (h : SameTask a b) (h' : SameTask b c) :
    SameTask a c :=
  ⟨h'.workspace.trans h.workspace, h'.commitment.trans h.commitment,
    h'.deleted.trans h.deleted⟩

variable {commitmentId workspaceId : ℕ}

theorem SameTask.inScope (h : SameTask row row') :
    row'.InScope commitmentId workspaceId ↔ row.InScope commitmentId workspaceId := by
  rw [TrackedTask.InScope, TrackedTask.InScope, h.workspace, h.commitment, h.deleted]

theorem pendingSibling_eq_false :
    db.pendingSibling commitmentId workspaceId id = false ↔
      ∀ id' t, db.tasks.get? id' = some t → t.InScope commitmentId workspaceId → id' ≠ id →
        t.status = .done := by
  rw [TaskDb.pendingSibling, List.any_eq_false]
  constructor
  · intro hall id' t ht hscope hne
    have hentry := hall (id', t) (Dict.get?_eq_some.mp ht)
    simpa [hscope.1, hscope.2.1, hscope.2.2, hne] using hentry
  · rintro hall ⟨id', t⟩ hmem
    simp only [Bool.and_eq_true, decide_eq_true_eq, Bool.not_eq_true']
    rintro ⟨⟨⟨⟨hcommitment, hworkspace⟩, hdeleted⟩, hne⟩, hstatus⟩
    exact hstatus (hall id' t (Dict.get?_eq_some.mpr hmem) ⟨hcommitment, hworkspace, hdeleted⟩ hne)

theorem allDone_iff (h : db.tasks.get? id = some row) :
    db.AllDone commitmentId workspaceId ↔
      (row.InScope commitmentId workspaceId → row.status = .done) ∧
        db.pendingSibling commitmentId workspaceId id = false := by
  rw [pendingSibling_eq_false]
  constructor
  · intro hall
    exact ⟨fun hscope => hall id row h hscope.1 hscope.2.1 hscope.2.2,
      fun id' t ht hscope _ => hall id' t ht hscope.1 hscope.2.1 hscope.2.2⟩
  · rintro ⟨hown, hothers⟩ id' t ht hcommitment hworkspace hdeleted
    by_cases heq : id' = id
    · subst heq
      cases h.symm.trans ht
      exact hown ⟨hcommitment, hworkspace, hdeleted⟩
    · exact hothers id' t ht ⟨hcommitment, hworkspace, hdeleted⟩ heq

theorem pendingSibling_set (htasks : db'.tasks = db.tasks.set id row')
    {commitmentId workspaceId : ℕ} : db'.pendingSibling commitmentId workspaceId id = false ↔
      db.pendingSibling commitmentId workspaceId id = false := by
  rw [pendingSibling_eq_false, pendingSibling_eq_false]
  constructor
  · intro hall id' t ht hscope hne
    exact hall id' t (by rw [htasks, Dict.get?_set_of_ne _ (Ne.symm hne), ht]) hscope hne
  · intro hall id' t ht hscope hne
    rw [htasks, Dict.get?_set_of_ne _ (Ne.symm hne)] at ht
    exact hall id' t ht hscope hne

theorem allDone_set (hsame : SameTask row row') (htasks : db'.tasks = db.tasks.set id row')
    {commitmentId workspaceId : ℕ} : db'.AllDone commitmentId workspaceId ↔
      (row.InScope commitmentId workspaceId → row'.status = .done) ∧
        db.pendingSibling commitmentId workspaceId id = false := by
  have hrow' : db'.tasks.get? id = some row' := by rw [htasks, Dict.get?_set_self]
  rw [allDone_iff hrow', hsame.inScope, pendingSibling_set htasks]

/-- A commitment is done exactly when its tasks are, if it was and a write leaves it. -/
theorem reflects_set (h : db.tasks.get? id = some row) (hsame : SameTask row row')
    (htasks : db'.tasks = db.tasks.set id row') (hcommitments : db'.commitments = db.commitments)
    (hleaves : row.deleted = false → ∀ c ∈ row.weeklyCommitmentId,
      (row.status = .done ↔ row'.status = .done) ∨ db.pendingSibling c row.workspaceId id)
    (hreflects : db.Reflects commitmentId) : db'.Reflects commitmentId := by
  intro c hc
  rw [hcommitments] at hc
  rw [hreflects c hc, allDone_iff h, allDone_set hsame htasks]
  by_cases hscope : row.InScope commitmentId c.workspaceId
  · rcases hleaves hscope.2.2 commitmentId hscope.1 with hiff | hpending
    · simp only [hscope, true_implies, hiff]
    · rw [hscope.2.1] at hpending
      simp only [hpending, Bool.true_eq_false, and_false]
  · simp only [hscope, false_implies]

theorem get?_closeCommitment {commitments : Dict ℕ CommitmentRow} {k : ℕ} {c' : CommitmentRow}
    (h : (closeCommitment commitments commitmentId workspaceId).get? k =
      some c') : ∃ c, commitments.get? k = some c ∧ c'.workspaceId = c.workspaceId ∧
        (k = commitmentId ∧ c.workspaceId = workspaceId ∧ c'.status = "done" ∨
          ¬(k = commitmentId ∧ c.workspaceId = workspaceId) ∧ c'.status = c.status) := by
  unfold closeCommitment at h
  split at h
  · next c hc =>
    obtain ⟨hget, hworkspace⟩ := Option.filter_eq_some_iff.mp hc
    rw [decide_eq_true_eq] at hworkspace
    rw [Dict.get?_set] at h
    split_ifs at h with heq
    · cases h
      exact ⟨c, heq ▸ hget, rfl, .inl ⟨heq.symm, hworkspace, rfl⟩⟩
    · exact ⟨c', h, rfl, .inr ⟨fun hboth => heq hboth.1.symm, rfl⟩⟩
  · next hnone =>
    refine ⟨c', h, rfl, .inr ⟨fun hboth => ?_, rfl⟩⟩
    rw [← hboth.1, h] at hnone
    simp [hboth.2] at hnone

end Write

/-! ## The commit of a completion -/

/-- The row that a completion holds is as the completion has read it. -/
structure Completion.Holds (db : TaskDb) (taskId : ℕ) (c : Completion) (row : TrackedTask) :
    Prop where
  get : db.tasks.get? taskId = some row
  same : SameTask c.task row
  status : row.status = c.task.status
  notDone : c.task.status ≠ .done
  undeleted : c.task.deleted = false

section Commit

variable {s : TaskStore} {taskId : ℕ} {c : Completion} {row : TrackedTask}

theorem statusLaw_commit (h : StatusLaw s) (hholds : c.Holds s.db taskId row) (closes : Bool) :
    StatusLaw (commitCompletion s taskId c closes row) := by
  have hlaw := h.write (w := ⟨.validation, taskId, some c.task.status, row.status, .done⟩)
    { row with status := .done, revision := c.task.revision + 1 } (fun hw => (nomatch hw))
    (fun _ => hholds.status ▸ hholds.notDone)
    fun _ status hstatus => (Option.some.inj hstatus).symm.trans hholds.status.symm
  exact ⟨hlaw.agent, hlaw.events, hlaw.seen⟩

theorem commitments_of_none {closes : Bool} (h : c.task.weeklyCommitmentId = none) :
    (commitCompletion s taskId c closes row).db.commitments = s.db.commitments := by
  unfold commitCompletion
  rw [h]
  rfl

theorem commitments_of_some {closes : Bool} {k : ℕ} (h : c.task.weeklyCommitmentId = some k) :
    (commitCompletion s taskId c closes row).db.commitments =
      if closes then closeCommitment s.db.commitments k c.task.workspaceId
      else s.db.commitments := by
  unfold commitCompletion
  rw [h]
  rfl

theorem reflects_commit (hholds : c.Holds s.db taskId row) {commitmentId : ℕ}
    (h : s.db.Reflects commitmentId) :
    (commitCompletion s taskId c (c.look s.db taskId) row).db.Reflects commitmentId := by
  let row' : TrackedTask := { row with status := .done, revision := c.task.revision + 1 }
  have hsame : SameTask row row' := ⟨rfl, rfl, rfl⟩
  have hscope : ∀ {k ws}, row.InScope k ws → c.task.weeklyCommitmentId = some k ∧
      c.task.workspaceId = ws :=
    fun hs => ⟨hholds.same.commitment ▸ hs.1, hholds.same.workspace ▸ hs.2.1⟩
  have hopen : row.status ≠ .done := hholds.status ▸ hholds.notDone
  intro w' hw'
  -- a commitment of which the task is no part stays as it was
  have hother : ∀ w, s.db.commitments.get? commitmentId = some w →
      ¬row.InScope commitmentId w.workspaceId → (w.status = "done" ↔
        (commitCompletion s taskId c (c.look s.db taskId) row).db.AllDone commitmentId
          w.workspaceId) := by
    intro w hw hnot
    rw [h w hw, allDone_iff hholds.get, allDone_set hsame rfl]
    simp only [hnot, false_implies]
  cases hcommitment : c.task.weeklyCommitmentId with
  | none =>
    rw [commitments_of_none hcommitment] at hw'
    exact hother w' hw' fun hs => by cases hcommitment.symm.trans (hscope hs).1
  | some k =>
    have hlook : c.look s.db taskId = !s.db.pendingSibling k c.task.workspaceId taskId := by
      rw [Completion.look, hcommitment, Option.any_some]
    rw [commitments_of_some hcommitment] at hw'
    split_ifs at hw' with hcloses
    · rw [hlook, Bool.not_eq_true'] at hcloses
      obtain ⟨w, hw, hworkspace, ⟨rfl, hws, hdone⟩ | ⟨hnot, hstatus⟩⟩ := get?_closeCommitment hw'
      · refine iff_of_true hdone ((allDone_set hsame rfl).mpr ⟨fun _ => rfl, ?_⟩)
        rw [hworkspace, hws]
        exact hcloses
      · rw [hstatus, hworkspace]
        refine hother w hw fun hs => hnot ?_
        obtain ⟨hk, hws⟩ := hscope hs
        exact ⟨Option.some.inj (hk.symm.trans hcommitment), hws.symm⟩
    · rw [hlook, Bool.not_eq_true', Bool.not_eq_false] at hcloses
      by_cases hs : row.InScope commitmentId w'.workspaceId
      · obtain ⟨hk, hws⟩ := hscope hs
        cases hcommitment.symm.trans hk
        rw [hws] at hcloses
        rw [h w' hw', allDone_iff hholds.get, allDone_set hsame rfl]
        simp only [hcloses, Bool.true_eq_false, and_false]
      · exact hother w' hw' hs

end Commit

/-! ## The calls keep the law -/

/-- Tasks keep what does not depend on their status. -/
def KeepsTasks (db db' : TaskDb) : Prop :=
  ∀ id row, db.tasks.get? id = some row → ∃ row', db'.tasks.get? id = some row' ∧ SameTask row row'

/-- Every completion holds its row. -/
def CompletionsHold (s : TaskStore) : Prop :=
  ∀ id c, s.completing.get? id = some c → ∃ row, c.Holds s.db id row

/-- What a call has read. -/
def TaskCall.Read (s : TaskStore) : TaskCall → Prop
  | .validating p _ task => ∃ row, s.db.tasks.get? p.taskId = some row ∧ SameTask task row ∧
      task.deleted = false ∧ task.status ≠ .done
  | _ => True

/-- The law, the rows that are held, and the commitments that are done with their tasks. -/
structure KeepsStatuses (s s' : TaskStore) : Prop where
  law : StatusLaw s'
  hold : CompletionsHold s'
  tasks : KeepsTasks s.db s'.db
  reflects : ∀ c, s.db.Reflects c → s'.db.Reflects c

section Steps

variable {s s' : TaskStore} {id : ℕ} {row row' : TrackedTask}

theorem KeepsTasks.refl (db : TaskDb) : KeepsTasks db db :=
  fun _ row hrow => ⟨row, hrow, rfl, rfl, rfl⟩

theorem KeepsStatuses.refl (hlaw : StatusLaw s) (hhold : CompletionsHold s) : KeepsStatuses s s :=
  ⟨hlaw, hhold, .refl s.db, fun _ h => h⟩

theorem keepsTasks_set {db db' : TaskDb} (h : db.tasks.get? id = some row)
    (hsame : SameTask row row') (htasks : db'.tasks = db.tasks.set id row') : KeepsTasks db db' := by
  intro id' t ht
  rw [htasks, Dict.get?_set]
  split_ifs with heq
  · subst heq
    cases h.symm.trans ht
    exact ⟨row', rfl, hsame⟩
  · exact ⟨t, ht, rfl, rfl, rfl⟩

theorem Completion.Holds.set {c : Completion} {db db' : TaskDb} {id' : ℕ} {t : TrackedTask}
    (h : c.Holds db id' t) (htasks : db'.tasks = db.tasks.set id row') (hne : id' ≠ id) :
    c.Holds db' id' t :=
  ⟨by rw [htasks, Dict.get?_set_of_ne _ hne.symm, h.get], h.same, h.status, h.notDone,
    h.undeleted⟩

theorem keepsStatuses_write (hlaw : StatusLaw s) (hhold : CompletionsHold s) {w : StatusWrite}
    (hrow : s.db.tasks.get? w.taskId = some row) (hfree : s.completing.get? w.taskId = none)
    (hagent : w.writer = .agent → w.before ∉ [.cancelled, .done])
    (hdone : w.after = .done → w.before ≠ .done)
    (hseen : w.after = .done → ∀ status ∈ w.seen, status = w.before)
    (hleaves : row.deleted = false → ∀ c ∈ row.weeklyCommitmentId,
      (row.status = .done ↔ w.after = .done) ∨
        s.db.pendingSibling c row.workspaceId w.taskId) :
    KeepsStatuses s (s.write w { row with status := w.after }) := by
  have hsame : SameTask row { row with status := w.after } := ⟨rfl, rfl, rfl⟩
  have htasks : (s.write w { row with status := w.after }).db.tasks =
      s.db.tasks.set w.taskId { row with status := w.after } := rfl
  refine ⟨hlaw.write _ hagent hdone hseen, fun id c hc => ?_, keepsTasks_set hrow hsame htasks,
    fun c h => reflects_set hrow hsame htasks rfl hleaves h⟩
  obtain ⟨t, ht⟩ := hhold id c hc
  refine ⟨t, Completion.Holds.set ht rfl ?_⟩
  rintro rfl
  nomatch hfree.symm.trans hc

theorem keepsStatuses_commit (hlaw : StatusLaw s) (hhold : CompletionsHold s) {c : Completion}
    (hc : s.completing.get? id = some c) (hrow : s.db.tasks.get? id = some row) :
    KeepsStatuses s (commitCompletion s id c (c.look s.db id) row) := by
  obtain ⟨row₁, hholds⟩ := hhold id c hc
  obtain rfl := Option.some.inj (hholds.get.symm.trans hrow)
  have hsame : SameTask row₁ { row₁ with status := .done, revision := c.task.revision + 1 } :=
    ⟨rfl, rfl, rfl⟩
  refine ⟨statusLaw_commit hlaw hholds _, fun id' c' hc' => ?_, keepsTasks_set hrow hsame rfl,
    fun k h => reflects_commit hholds h⟩
  have herase : (s.completing.erase id).get? id' = some c' := hc'
  rw [Dict.get?_erase] at herase
  split_ifs at herase with heq
  obtain ⟨t, ht⟩ := hhold id' c' herase
  exact ⟨t, Completion.Holds.set ht rfl (Ne.symm heq)⟩

theorem keepsStatuses_completing (hlaw : StatusLaw s) {completing : Dict ℕ Completion}
    (h : ∀ id c, completing.get? id = some c → ∃ row, c.Holds s.db id row) :
    KeepsStatuses s { s with completing } :=
  ⟨⟨hlaw.agent, hlaw.events, hlaw.seen⟩, h, .refl s.db, fun _ h => h⟩

theorem KeepsStatuses.record (h : KeepsStatuses s s') (records : List ExecutionRecord) :
    KeepsStatuses s { s' with db := { s'.db with records } } := by
  refine ⟨⟨h.law.agent, h.law.events, h.law.seen⟩, fun id c hc => ?_, h.tasks, h.reflects⟩
  obtain ⟨t, ht⟩ := h.hold id c hc
  exact ⟨t, ht.get, ht.same, ht.status, ht.notDone, ht.undeleted⟩

theorem get?_of_taskOf {db : TaskDb} {workspaceId : ℕ} (h : db.taskOf id workspaceId = some row) :
    db.tasks.get? id = some row := (Option.filter_eq_some_iff.mp h).1

theorem loadForCompletion_eq_ok {db : TaskDb} {p : CompletionParams} {workspaceId : ℕ}
    {task : TrackedTask} (h : loadForCompletion db p workspaceId = .ok task) :
    db.tasks.get? p.taskId = some task ∧ task.deleted = false := by
  have h := of_require h
  split at h
  · nomatch h
  · next row hrow =>
    have h := of_require h
    cases h
    obtain ⟨hget, hdeleted⟩ := Option.filter_eq_some_iff.mp hrow
    exact ⟨get?_of_taskOf hget, by simpa using hdeleted⟩

theorem TaskCall.kept_of_perform {call : TaskCall} {answers : TaskAnswers}
    {call' : Option TaskCall} (hlaw : StatusLaw s) (hhold : CompletionsHold s)
    (hread : call.Read s) (hnot : NotDisturbed s call answers) (hfree : call.waits s = false)
    (hok : call.perform s answers = .ok (s', call')) :
    KeepsStatuses s s' ∧ ∀ d ∈ call', d.Read s' := by
  have hstays : KeepsStatuses s s := .refl hlaw hhold
  have hend : ∀ d ∈ (none : Option TaskCall), d.Read s' := fun _ hd => nomatch hd
  cases call with
  | updateStatus id =>
    obtain ⟨s₁, hupdate, hok⟩ := bind_eq_ok.mp hok
    cases hok
    unfold updateTaskStatusService at hupdate
    split at hupdate
    · next row hrow =>
      cases hupdate
      have hheld : s.completing.get? id = none := by
        simpa [TaskCall.waits, TaskCall.updates] using hfree
      exact ⟨keepsStatuses_write hlaw hhold (get?_of_taskOf hrow) hheld (fun hw => (nomatch hw))
        (hnot.1 row hrow) (fun _ _ hs => (nomatch hs)) (hnot.2 row hrow), hend⟩
    · nomatch hupdate
  | advance =>
    obtain ⟨seen, -, hok⟩ := bind_eq_ok.mp hok
    cases hok
    exact ⟨hstays, fun d hd => Option.some.inj hd ▸ trivial⟩
  | advancing p _ seen =>
    obtain ⟨s₁, hadvance, hok⟩ := bind_eq_ok.mp hok
    cases hok
    unfold advanceWrites at hadvance
    split at hadvance
    · next row hrow =>
      cases hadvance
      have hheld : s.completing.get? p.taskId = none := by
        simpa [TaskCall.waits, TaskCall.updates] using hfree
      obtain ⟨hopen, hseen⟩ := hnot.1 row hrow
      have hkeeps := keepsStatuses_write hlaw hhold
        (w := ⟨.agent, p.taskId, some seen.status, row.status, p.toStatus⟩) (get?_of_taskOf hrow)
        hheld (fun _ => hopen) (fun _ (hdone : row.status = .done) => hopen (by rw [hdone]; decide))
        (fun hdone _ hs => (Option.some.inj hs).symm.trans (hseen hdone).symm) (hnot.2 row hrow)
      exact ⟨hkeeps.record _, hend⟩
    · nomatch hadvance
  | validate =>
    obtain ⟨task, hload, hok⟩ := bind_eq_ok.mp hok
    split_ifs at hok with hdone
    · cases hok
      exact ⟨hstays, hend⟩
    · cases hok
      obtain ⟨hget, hdeleted⟩ := loadForCompletion_eq_ok hload
      refine ⟨hstays, fun d hd => ?_⟩
      cases hd
      exact ⟨task, hget, ⟨rfl, rfl, rfl⟩, hdeleted, hdone⟩
  | validating =>
    obtain ⟨s₁, hclaim, hok⟩ := bind_eq_ok.mp hok
    cases hok
    obtain ⟨hmatch, hclaim⟩ := require_bind_eq_ok.mp hclaim
    cases hclaim
    obtain ⟨row, hrow, hsame, hdeleted, hdone⟩ := hread
    refine ⟨keepsStatuses_completing hlaw fun id c hc => ?_,
      fun d hd => Option.some.inj hd ▸ trivial⟩
    rw [Dict.get?_set] at hc
    split_ifs at hc with heq
    · subst heq
      cases hc
      obtain ⟨row', hrow', hrevision⟩ := (Option.any_eq_true _ _).mp hmatch
      cases hrow.symm.trans (get?_of_taskOf hrow')
      exact ⟨row, hrow, hsame, hnot row hrow' (by simpa using hrevision), hdone, hdeleted⟩
    · exact hhold id c hc
  | completing taskId =>
    simp only [TaskCall.perform] at hok
    split at hok
    · next c row hc hrow =>
      split at hok
      · cases hok
        refine ⟨keepsStatuses_completing hlaw fun id c' hc' => ?_,
          fun d hd => Option.some.inj hd ▸ trivial⟩
        rw [Dict.get?_set] at hc'
        split_ifs at hc' with heq
        · subst heq
          cases hc'
          obtain ⟨row', hholds⟩ := hhold taskId c hc
          exact ⟨row', hholds.get, hholds.same, hholds.status, hholds.notDone, hholds.undeleted⟩
        · exact hhold id c' hc'
      · next closes hcloses =>
        cases hok
        rw [hnot c hc closes hcloses]
        exact ⟨keepsStatuses_commit hlaw hhold hc hrow, fun _ hd => nomatch hd⟩
    · cases hok
      exact ⟨hstays, hend⟩

end Steps

theorem TaskCall.Read.keeps {s s' : TaskStore} (h : KeepsTasks s.db s'.db) {call : TaskCall}
    (hread : call.Read s) : call.Read s' := by
  cases call with
  | validating p =>
    obtain ⟨row, hrow, hsame, htask⟩ := hread
    obtain ⟨row', hrow', hsame'⟩ := h p.taskId row hrow
    exact ⟨row', hrow', hsame.trans hsame', htask⟩
  | updateStatus | advance | advancing | validate | completing => trivial

theorem TaskCall.keepsStatuses_abort {s : TaskStore} (hlaw : StatusLaw s)
    (hhold : CompletionsHold s) (call : TaskCall) : KeepsStatuses s (call.abort s) := by
  cases call with
  | completing =>
    refine keepsStatuses_completing hlaw fun id c hc => ?_
    rw [Dict.get?_erase] at hc
    split_ifs at hc
    exact hhold id c hc
  | updateStatus | advance | advancing | validate | validating => exact .refl hlaw hhold

theorem TaskCall.kept_of_step {s s' : TaskStore} {call : TaskCall} {answers : TaskAnswers}
    {call' : Option TaskCall} (hlaw : StatusLaw s) (hhold : CompletionsHold s)
    (hread : call.Read s) (hnot : NotDisturbed s call answers)
    (hstep : call.step s answers = some (s', call')) :
    KeepsStatuses s s' ∧ ∀ d ∈ call', d.Read s' := by
  unfold TaskCall.step at hstep
  split_ifs at hstep with hwaits
  cases hperform : call.perform s answers with
  | error =>
    rw [hperform] at hstep
    cases hstep
    exact ⟨TaskCall.keepsStatuses_abort hlaw hhold call, fun _ hd => nomatch hd⟩
  | ok =>
    rw [hperform] at hstep
    cases hstep
    exact TaskCall.kept_of_perform hlaw hhold hread hnot (by simpa using hwaits) hperform

def LawAndHolds (s : TaskStore) : Prop := StatusLaw s ∧ CompletionsHold s

theorem taskRule : taskStatuses.Rule NotDisturbed LawAndHolds fun s call => call.Read s where
  start s req _ := by cases req <;> trivial
  step s c a s' c' hI hJ hG hstep := by
    obtain ⟨hkeeps, hread⟩ := TaskCall.kept_of_step hI.1 hI.2 hJ hG hstep
    exact ⟨⟨hkeeps.law, hkeeps.hold⟩, fun d hd => hd.keeps hkeeps.tasks, hread⟩
  abort s c hI _ :=
    have hkeeps := TaskCall.keepsStatuses_abort hI.1 hI.2 c
    ⟨⟨hkeeps.law, hkeeps.hold⟩, fun _ hd => hd.keeps hkeeps.tasks⟩

/-- The law holds if no writer is disturbed, and a commitment that is done with its tasks stays so. -/
theorem statusLaw_along (s : TaskStore) (hlaw : StatusLaw s) (hidle : s.completing = ∅)
    (ls : List (CallLabel TaskRequest TaskAnswers)) (s' : InFlight TaskStore TaskCall)
    (hrun : taskStatuses.system.run ⟨s, []⟩ ls = some s')
    (hnot : taskStatuses.system.Along (Service.Meets NotDisturbed) ⟨s, []⟩ ls) :
    StatusLaw s'.store ∧ ∀ c, s.db.Reflects c → s'.store.db.Reflects c := by
  have hhold : CompletionsHold s := fun id c hc => by
    rw [hidle] at hc
    nomatch hc
  have hinv : Service.Inv LawAndHolds (fun s call => TaskCall.Read s call) ⟨s, []⟩ :=
    .of_empty ⟨hlaw, hhold⟩
  refine ⟨(taskRule.inv_of_along hinv hnot hrun).store.1, ?_⟩
  refine taskStatuses.rel_of_along (R := fun a b => ∀ c, a.db.Reflects c → b.db.Reflects c)
    (fun _ _ h => h) (fun _ _ _ h h' c hc => h' c (h c hc)) (fun _ _ _ => taskRule.inv_next) ?_ ?_
    hinv hnot hrun
  · intro f i call answers s' call' hI hG hcall hstep
    exact (TaskCall.kept_of_step hI.store.1 hI.store.2 (hI.calls i call hcall) (hG call hcall)
      hstep).1.reflects
  · exact fun f call hI => (TaskCall.keepsStatuses_abort hI.store.1 hI.store.2 call).reflects

/-! ### Two tasks of a commitment -/

/-- The tasks 1 and 2 of the commitment 7. -/
def twoTracked : TaskStore where
  db := {
    tasks := Dict.update ∅ [
      (1, ⟨1, .inProgress, 1, some 4, some 7, false⟩),
      (2, ⟨1, .waitingApproval, 1, some 4, some 7, false⟩)]
    commitments := Dict.update ∅ [(7, ⟨1, "todo"⟩)] }

theorem statusLaw_twoTracked : StatusLaw twoTracked :=
  ⟨fun _ hw => absurd hw List.not_mem_nil, fun _ => Nat.zero_le _,
    fun _ hw => absurd hw List.not_mem_nil⟩

def completeTask (id : ℕ) : TaskRequest := .validate ⟨id, some 1, ["report.pdf"]⟩ 1

def cancelTask (id : ℕ) : TaskRequest := .updateStatus id .cancelled 1

def goOnWithTask (id : ℕ) : TaskRequest := .advance ⟨id, .inProgress, "run-1", none, []⟩ 1

/-- The steps of a call. -/
def stepsOfTask (i n : ℕ) : List (CallLabel TaskRequest TaskAnswers) :=
  List.replicate n (.step i { memberType := some "AI_AGENT" })

/-- One completion after the other. -/
def completeBoth : List (CallLabel TaskRequest TaskAnswers) :=
  [CallLabel.start (completeTask 1)] ++ stepsOfTask 0 4 ++
    [CallLabel.start (completeTask 2)] ++ stepsOfTask 1 4

def completedBoth : InFlight TaskStore TaskCall :=
  (taskStatuses.system.run ⟨twoTracked, []⟩ completeBoth).get (by decide +kernel)

theorem statusLaw_along_completeBoth : StatusLaw completedBoth.store ∧
    ∀ c, twoTracked.db.Reflects c → completedBoth.store.db.Reflects c :=
  statusLaw_along twoTracked statusLaw_twoTracked rfl completeBoth completedBoth
    (Option.some_get _).symm (by decide +kernel)

/-- A completion has read the task 1 when a person cancels it. -/
def completeCancelled : List (CallLabel TaskRequest TaskAnswers) :=
  [CallLabel.start (completeTask 1), .start (cancelTask 1)] ++ stepsOfTask 0 1 ++ stepsOfTask 1 1 ++
    stepsOfTask 0 3

def completedCancelled : InFlight TaskStore TaskCall :=
  (taskStatuses.system.run ⟨twoTracked, []⟩ completeCancelled).get (by decide +kernel)

/-- An agent goes on with a task that a person has cancelled. -/
def goOnCancelled : List (CallLabel TaskRequest TaskAnswers) :=
  [CallLabel.start (cancelTask 1)] ++ stepsOfTask 0 1 ++
    [CallLabel.start (goOnWithTask 1)] ++ stepsOfTask 1 2

def goneOnCancelled : InFlight TaskStore TaskCall :=
  (taskStatuses.system.run ⟨twoTracked, []⟩ goOnCancelled).get (by decide +kernel)

/-- Two completions look at each other's task before they commit. -/
def completeTogether : List (CallLabel TaskRequest TaskAnswers) :=
  [CallLabel.start (completeTask 1), .start (completeTask 2)] ++ stepsOfTask 0 3 ++
    stepsOfTask 1 3 ++
    stepsOfTask 0 1 ++ stepsOfTask 1 1

def completedTogether : InFlight TaskStore TaskCall :=
  (taskStatuses.system.run ⟨twoTracked, []⟩ completeTogether).get (by decide +kernel)

theorem not_statusLaw_overtaken :
    (taskStatuses.system.run ⟨twoTracked, []⟩ completeCancelled = some completedCancelled ∧
      ¬StatusLaw completedCancelled.store) ∧
    (taskStatuses.system.run ⟨twoTracked, []⟩ goOnCancelled = some goneOnCancelled ∧
      ¬StatusLaw goneOnCancelled.store) ∧
    taskStatuses.system.run ⟨twoTracked, []⟩ completeTogether = some completedTogether ∧
      twoTracked.db.Reflects 7 ∧ ¬completedTogether.store.db.Reflects 7 := by
  refine ⟨⟨(Option.some_get _).symm, fun h => ?_⟩, ⟨(Option.some_get _).symm, fun h => ?_⟩,
    (Option.some_get _).symm, fun c hc => ?_, fun h => ?_⟩
  · have hseen := h.seen ⟨.validation, 1, some .inProgress, .cancelled, .done⟩ (by decide +kernel)
      rfl .inProgress rfl
    nomatch hseen
  · have hagent := h.agent ⟨.agent, 1, some .cancelled, .cancelled, .inProgress⟩
      (by decide +kernel) rfl (.inl rfl)
    nomatch hagent
  · have hrow : twoTracked.db.commitments.get? 7 = some ⟨1, "todo"⟩ := by decide +kernel
    cases hc.symm.trans hrow
    refine iff_of_false (by decide) fun hall => ?_
    nomatch hall 1 _ (rfl : twoTracked.db.tasks.get? 1 = some ⟨1, .inProgress, 1, some 4, some 7,
      false⟩) rfl rfl rfl
  · have hrow : completedTogether.store.db.commitments.get? 7 = some ⟨1, "todo"⟩ := by
      decide +kernel
    have hrows : ∀ entry ∈ completedTogether.store.db.tasks.items, entry.2.status = .done := by
      decide +kernel
    have hdone := (h _ hrow).mpr fun id t ht _ _ _ => hrows (id, t) (Dict.get?_eq_some.mp ht)
    revert hdone
    decide

end JavisSaas.Company.Operations
