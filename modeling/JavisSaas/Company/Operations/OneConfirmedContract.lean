import JavisSaas.Company.Operations.ConfirmedContracts

/-!
# The confirmed contract of a task

* `contractLaw_along`: the law, if a draft still is one when it is superseded, no two confirmations
  of a task look for its confirmed contracts before one has committed, and the contract of a new
  package is still confirmed.
* `not_contractLaw_twice`: a draft that is confirmed twice.
-/

namespace JavisSaas.Company.Operations

open JavisSaas.Lib

/-! ## The calls keep the invariant -/

/-- Contracts keep their task, and both keep their workspace. -/
structure Grows (db db' : WorkDb) : Prop where
  contracts : ∀ id c, db.contracts.get? id = some c → ∃ c', db'.contracts.get? id = some c' ∧
    c'.taskId = c.taskId ∧ c'.workspaceId = c.workspaceId
  tasks : ∀ id task, db.tasks.get? id = some task → ∃ task', db'.tasks.get? id = some task' ∧
    task'.workspaceId = task.workspaceId

theorem Grows.of_eq {db db' : WorkDb} (hcontracts : db'.contracts = db.contracts)
    (htasks : db'.tasks = db.tasks) : Grows db db' := by
  constructor
  · rw [hcontracts]
    exact fun id c hc => ⟨c, hc, rfl, rfl⟩
  · rw [htasks]
    exact fun id task htask => ⟨task, htask, rfl⟩

theorem Inserts.grows {db db' : WorkDb} {row : OutcomeContract} (h : Inserts db db' row) :
    Grows db db' where
  contracts id c hc := by
    have hne : row.id ≠ id := by
      rintro rfl
      nomatch h.fresh.symm.trans hc
    exact ⟨c, by rw [h.contracts, Dict.get?_set_of_ne _ hne, hc], rfl, rfl⟩
  tasks id task htask := ⟨task, h.kept id task htask, rfl⟩

theorem Commits.grows {s : ContractStore} {id : ℕ} {t : Confirmation} {db : WorkDb}
    (h : Commits s id t db) : Grows s.db db where
  contracts x c hc := by
    obtain ⟨c', hc', htask, hworkspace, -⟩ := h.get?_old hc
    exact ⟨c', hc', htask, hworkspace⟩
  tasks x row hrow := by
    obtain ⟨task, htask, -, htasks⟩ := h.tasks_eq
    rw [htasks, Dict.get?_set]
    split_ifs with heq
    · subst heq
      cases htask.symm.trans hrow
      exact ⟨_, rfl, rfl⟩
    · exact ⟨row, hrow, rfl⟩

/-- What a call has read. -/
def ContractCall.Read (s : ContractStore) : ContractCall → Prop
  | .proposing input ctx | .inserting input ctx =>
    ∃ task, s.db.tasks.get? input.taskId = some task ∧ task.workspaceId = ctx.workspaceId
  | .confirming input ctx _ => ∃ c, s.db.contracts.get? input.draftContractId = some c ∧
      c.taskId = input.proposalTaskId ∧ c.workspaceId = ctx.workspaceId
  | .queueing input _ => ∃ c, s.db.contracts.get? input.outcomeContractId = some c ∧
      c.taskId = input.taskId
  | _ => True

theorem ContractCall.Read.grows {s s' : ContractStore} (h : Grows s.db s'.db)
    {call : ContractCall} (hread : call.Read s) : call.Read s' := by
  cases call with
  | proposing | inserting =>
    obtain ⟨task, htask, hworkspace⟩ := hread
    obtain ⟨task', htask', heq⟩ := h.tasks _ task htask
    exact ⟨task', htask', heq.trans hworkspace⟩
  | confirming =>
    obtain ⟨c, hc, htask, hworkspace⟩ := hread
    obtain ⟨c', hc', htask', hworkspace'⟩ := h.contracts _ c hc
    exact ⟨c', hc', htask'.trans htask, hworkspace'.trans hworkspace⟩
  | queueing =>
    obtain ⟨c, hc, htask⟩ := hread
    obtain ⟨c', hc', htask', -⟩ := h.contracts _ c hc
    exact ⟨c', hc', htask'.trans htask⟩
  | propose | proposeTask | confirm | checkDraft | running | createTask | creatingTask | queue
  | gate | checkContract => trivial

section Steps

variable {indexed : Bool} {s : ContractStore}

theorem ContractInv.erase (hinv : ContractInv s) (id : ℕ) :
    ContractInv { s with confirming := s.confirming.erase id } := by
  have herase : ∀ {id' t'}, (s.confirming.erase id).get? id' = some t' →
      s.confirming.get? id' = some t' := by
    intro id' t' h
    rw [Dict.get?_erase] at h
    split_ifs at h
    exact h
  exact ⟨⟨hinv.law.single, hinv.law.active, hinv.law.confirmed, hinv.law.once, hinv.law.queued⟩,
    hinv.keyed, hinv.known, hinv.superseded, fun a x ha => hinv.sound a x (herase ha),
    fun a x b y ha hb => hinv.drafts a x b y (herase ha) (herase hb),
    fun a x b y ha hb => hinv.looking a x b y (herase ha) (herase hb)⟩

theorem ContractInv.abort (hinv : ContractInv s) (call : ContractCall) :
    ContractInv (call.abort s) ∧ Grows s.db (call.abort s).db := by
  cases call with
  | running contractId => exact ⟨hinv.erase contractId, .of_eq rfl rfl⟩
  | propose | proposing | inserting | proposeTask | confirm | checkDraft | confirming
  | createTask | creatingTask | queue | gate | checkContract | queueing =>
    exact ⟨hinv, .of_eq rfl rfl⟩

variable {db : WorkDb} {row : OutcomeContract} {db' : WorkDb} {answers : ContractAnswers}
  {id workspaceId : ℕ} {ctx : TenantContext}

theorem ContractInv.queue (hinv : ContractInv s) (hcontracts : db.contracts = s.db.contracts)
    (htasks : db.tasks = s.db.tasks) {packageId : ℕ} {input : PackageInput} {c : OutcomeContract}
    (hc : s.db.contracts.get? input.outcomeContractId = some c) (hconfirmed : c.status = .confirmed)
    (htask : c.taskId = input.taskId) : ContractInv (s.queue db packageId input) := by
  have hrecord : ∀ r ∈ (s.queue db packageId input).queued, r.wasConfirmed := by
    intro r hr
    rcases mem_concat hr with hr | rfl
    · exact hinv.law.queued r hr
    · show (db.contracts.get? input.outcomeContractId).any _ = true
      rw [hcontracts, hc]
      simp [hconfirmed, htask]
  obtain ⟨hlaw, hkeyed, hknown, hsuperseded, hsound, hdrafts, hlooking⟩ := hinv
  obtain ⟨hsingle, hactive, hcurrent, honce, -⟩ := hlaw
  have hsound' : ∀ id t, s.confirming.get? id = some t → t.Sound db id := by
    intro id t ht
    obtain ⟨hfresh, hdraft, hlocked, hrest, hfound⟩ := hsound id t ht
    constructor <;> rw [hcontracts] <;> assumption
  refine ⟨⟨?_, ?_, ?_, ?_, hrecord⟩, ?_, ?_, ?_, hsound', hdrafts, hlooking⟩ <;>
    simp only [ContractStore.queue, hcontracts, htasks] <;> assumption

theorem ContractStore.get?_of_not_pends (h : s.pends indexed row = false) :
    s.confirming.get? row.id = none := by
  rw [ContractStore.pends, List.any_eq_false] at h
  cases ht : s.confirming.get? row.id with
  | none => rfl
  | some t =>
    have hentry := h (row.id, t) (Dict.get?_eq_some.mp ht)
    simp [Confirmation.newContract] at hentry

theorem insertContractRevision_eq_ok (h : insertContractRevision indexed db row answers = .ok db') :
    db.contracts.get? row.id = none ∧
      db' = { db with contracts := db.contracts.set row.id row } := by
  obtain ⟨_, h⟩ := of_bind h
  obtain ⟨hfresh, h⟩ := require_bind_eq_ok.mp h
  have h := of_require h
  exact ⟨hfresh, (pure_eq_ok.mp h).symm⟩

theorem insertTask_eq_ok {status : String}
    (h : ContractCall.insertTask db id workspaceId status = .ok db') :
    db.tasks.get? id = none ∧
      db' = { db with tasks := db.tasks.set id { workspaceId, status } } := by
  obtain ⟨hfresh, h⟩ := require_bind_eq_ok.mp h
  exact ⟨hfresh, (pure_eq_ok.mp h).symm⟩

theorem inserts_newTask {task : QueueTask}
    (hcontracts : db'.contracts = db.contracts.set row.id row)
    (htasks : ∀ id, db'.tasks.get? id = if row.taskId = id then some task else db.tasks.get? id)
    (hfresh : db.contracts.get? row.id = none) (hnew : db.tasks.get? row.taskId = none)
    (hsupersedes : row.supersedesContractId = none)
    (hworkspace : task.workspaceId = row.workspaceId)
    (hactive : ∀ id, task.activeOutcomeContractId = some id ↔
      id = row.id ∧ row.status = .confirmed) :
    Inserts db db' row where
  contracts := hcontracts
  fresh := hfresh
  supersedes := hsupersedes
  kept taskId row' hrow' := by
    rw [htasks, if_neg, hrow']
    rintro rfl
    nomatch hnew.symm.trans hrow'
  task := by
    refine ⟨task, by rw [htasks, if_pos rfl], hworkspace, fun hconfirmed => ?_⟩
    exact (hactive row.id).mpr ⟨rfl, hconfirmed⟩
  added taskId row' hrow' := by
    rw [htasks] at hrow'
    split_ifs at hrow' with heq
    · cases hrow'
      exact .inr ⟨heq.symm, fun id hid => (hactive id).mp hid⟩
    · exact .inl hrow'
  first _ := hnew

theorem inserts_draft {taskId : ℕ} {task : QueueTask} (htask : db.tasks.get? taskId = some task)
    (hworkspace : task.workspaceId = workspaceId) (hfresh : db.contracts.get? id = none)
    (hcontracts : db'.contracts = db.contracts.set id (newContract workspaceId taskId id .draft))
    (htasks : db'.tasks = db.tasks) :
    Inserts db db' (newContract workspaceId taskId id .draft) where
  contracts := hcontracts
  fresh := hfresh
  supersedes := rfl
  kept _ _ htask' := htasks ▸ htask'
  task := ⟨task, htasks ▸ htask, hworkspace, fun h => nomatch h⟩
  added _ _ htask' := .inl (htasks ▸ htask')
  first h := nomatch h

theorem loadDraft_eq_ok {input : ConfirmInput} {draft : OutcomeContract}
    (h : ContractCall.loadDraft db input ctx = .ok draft) :
    db.contracts.get? input.draftContractId = some draft ∧
      draft.taskId = input.proposalTaskId ∧ draft.workspaceId = ctx.workspaceId := by
  unfold ContractCall.loadDraft at h
  split at h
  · nomatch h
  · next row hrow =>
    have h := of_require h
    have h := of_require h
    cases h
    obtain ⟨hget, hcond⟩ := Option.filter_eq_some_iff.mp hrow
    simp only [Bool.and_eq_true, decide_eq_true_eq] at hcond
    exact ⟨hget, hcond.2, hcond.1⟩

theorem requireCurrentConfirmedContract_eq_ok {taskId contractId : ℕ} {u : Unit}
    (h : requireCurrentConfirmedContract db workspaceId taskId contractId = .ok u) :
    ∃ c, db.contracts.get? contractId = some c ∧ c.taskId = taskId := by
  unfold requireCurrentConfirmedContract at h
  split at h
  · nomatch h
  · next c hc =>
    obtain ⟨hget, hcond⟩ := Option.filter_eq_some_iff.mp hc
    simp only [Bool.and_eq_true, decide_eq_true_eq] at hcond
    exact ⟨c, hget, hcond.2⟩

theorem inserts_proposeTask {db db' : WorkDb} {ctx : TenantContext} {answers : ContractAnswers}
    (h : ContractCall.proposeTaskWrites indexed db ctx answers = .ok db') : Inserts db db'
      (newContract ctx.workspaceId answers.newTaskId answers.newContractId .draft) := by
  obtain ⟨db₁, htask, h⟩ := bind_eq_ok.mp h
  obtain ⟨hnew, rfl⟩ := insertTask_eq_ok htask
  obtain ⟨hfresh, rfl⟩ := insertContractRevision_eq_ok h
  refine inserts_newTask rfl (fun id => Dict.get?_set _ _ _ _) hfresh hnew rfl rfl
    fun id => ⟨fun h => ?_, fun h => ?_⟩
  · nomatch h
  · nomatch h.2

theorem inserts_createTask {input : CreateTaskInput}
    (h : ContractCall.createTaskWrites indexed db input ctx answers = .ok db') : ∃ db₁,
      Inserts db db₁ (newContract ctx.workspaceId answers.newTaskId answers.newContractId
        .confirmed) ∧ db'.contracts = db₁.contracts ∧ db'.tasks = db₁.tasks := by
  obtain ⟨_, htask, h⟩ := bind_eq_ok.mp h
  obtain ⟨hnew, rfl⟩ := insertTask_eq_ok htask
  obtain ⟨_, hcontract, h⟩ := bind_eq_ok.mp h
  obtain ⟨hfresh, rfl⟩ := insertContractRevision_eq_ok hcontract
  refine ⟨_, ?_, insertQueuedPackage_frame h⟩
  simp only [activateContract, Dict.get?_set_self]
  refine inserts_newTask rfl (fun id => Dict.get?_set_set _ _ _ _ _) hfresh hnew rfl rfl
    fun id => ?_
  · show some answers.newContractId = some id ↔ id = answers.newContractId ∧ _
    rw [Option.some_inj, eq_comm]
    exact (and_iff_left rfl).symm

/-- A statement of a confirmation keeps the invariant. -/
theorem ContractInv.statement (hinv : ContractInv s) {t : Confirmation} {more : Bool}
    {s' : ContractStore} (ht : s.confirming.get? id = some t) (hnot : t.NotOvertaken s)
    (hfree : t.wants.any (s.heldByOther id) = false)
    (hok : t.perform indexed s id answers = .ok (s', more)) :
    ContractInv s' ∧ Grows s.db s'.db := by
  unfold Confirmation.perform at hok
  split at hok
  · next hphase =>
    cases hok
    refine ⟨hinv.lockDraft ht hphase hnot ?_, .of_eq rfl rfl⟩
    rwa [Confirmation.wants, hphase] at hfree
  · next hphase =>
    cases hok
    exact ⟨hinv.look ht hphase hnot, .of_eq rfl rfl⟩
  · next x rest hphase =>
    cases hok
    exact ⟨hinv.supersede ht hphase, .of_eq rfl rfl⟩
  · next hphase =>
    obtain ⟨s'', hcommit, hok⟩ := bind_eq_ok.mp hok
    cases hok
    obtain ⟨db, hinsert, hcommit⟩ := bind_eq_ok.mp hcommit
    cases hcommit
    obtain ⟨hcontracts, htasks⟩ := insertQueuedPackage_frame hinsert
    have hcommits : Commits s id t db := ⟨hinv, ht, hphase, hcontracts, htasks⟩
    refine ⟨hcommits.contractInv fun r hr => ?_, hcommits.grows⟩
    rcases mem_concat hr with hr | rfl
    · exact hinv.law.queued r hr
    · show (db.contracts.get? id).any _ = true
      rw [hcommits.get?_new]
      simp [Confirmation.newContract, Confirmation.packageInput, InitialPackage.input,
        Confirmation.taskId]

/-- A successful step keeps the invariant, and what the call has read after it. -/
theorem ContractCall.kept_of_perform {call : ContractCall} {s' : ContractStore}
    {call' : Option ContractCall} (hinv : ContractInv s) (hread : call.Read s)
    (hnot : NothingOvertakes s call answers) (hfree : call.waits indexed s answers = false)
    (hok : call.perform indexed s answers = .ok (s', call')) :
    ContractInv s' ∧ Grows s.db s'.db ∧ ∀ d ∈ call', d.Read s' := by
  have hstays : Grows s.db s.db := .of_eq rfl rfl
  have hend : ∀ d ∈ (none : Option ContractCall), d.Read s' := fun _ hd => nomatch hd
  cases call with
  | propose =>
    have hok := of_require hok
    obtain ⟨htask, hok⟩ := require_bind_eq_ok.mp hok
    cases hok
    refine ⟨hinv, hstays, fun d hd => ?_⟩
    cases hd
    obtain ⟨task, htask, hworkspace⟩ := (Option.any_eq_true _ _).mp htask
    exact ⟨task, htask, by simpa using hworkspace⟩
  | proposing =>
    have hok := of_require hok
    cases hok
    refine ⟨hinv, hstays, fun d hd => ?_⟩
    cases hd
    exact hread
  | inserting input ctx =>
    obtain ⟨task, htask, hworkspace⟩ := hread
    obtain ⟨db, hinsert, hok⟩ := bind_eq_ok.mp hok
    cases hok
    obtain ⟨hfresh, rfl⟩ := insertContractRevision_eq_ok hinsert
    have hpending := ContractStore.get?_of_not_pends hfree
    have hinserts := inserts_draft htask hworkspace hfresh (rfl : ({ s.db with
      contracts := s.db.contracts.set answers.newContractId (newContract ctx.workspaceId
        input.taskId answers.newContractId .draft) } : WorkDb).contracts = _) rfl
    exact ⟨hinserts.inv hinv hpending, hinserts.grows, hend⟩
  | proposeTask =>
    obtain ⟨db, hwrites, hok⟩ := bind_eq_ok.mp hok
    cases hok
    have hpending := ContractStore.get?_of_not_pends hfree
    have hinserts := inserts_proposeTask hwrites
    exact ⟨hinserts.inv hinv hpending, hinserts.grows, hend⟩
  | confirm | createTask =>
    obtain ⟨_, hok⟩ := of_bind hok
    split_ifs at hok
    · cases hok
      exact ⟨hinv, hstays, hend⟩
    · cases hok
      exact ⟨hinv, hstays, fun d hd => Option.some.inj hd ▸ trivial⟩
  | checkDraft =>
    obtain ⟨draft, hload, hok⟩ := bind_eq_ok.mp hok
    obtain ⟨_, hok⟩ := of_bind hok
    cases hok
    obtain ⟨hget, htask, hworkspace⟩ := loadDraft_eq_ok hload
    refine ⟨hinv, hstays, fun d hd => ?_⟩
    cases hd
    exact ⟨draft, hget, htask, hworkspace⟩
  | confirming =>
    obtain ⟨db, hinsert, hok⟩ := bind_eq_ok.mp hok
    cases hok
    obtain ⟨c, hc, htask, hworkspace⟩ := hread
    refine ⟨hinv.goOn ⟨(insertContractRevision_eq_ok hinsert).1,
      ⟨c, hc, htask, hworkspace, fun h => absurd rfl h⟩, fun _ h => absurd h List.not_mem_nil,
      fun _ h => (nomatch h), fun _ h => (nomatch h)⟩ (fun h => absurd rfl h) fun h => (nomatch h),
      .of_eq rfl rfl, fun d hd => Option.some.inj hd ▸ trivial⟩
  | running =>
    simp only [ContractCall.perform] at hok
    split at hok
    · next t ht =>
      obtain ⟨⟨s₁, more⟩, hstatement, hok⟩ := bind_eq_ok.mp hok
      cases hok
      rw [ContractCall.waits, ht] at hfree
      obtain ⟨hinv', hgrows⟩ := hinv.statement ht (hnot t ht) hfree hstatement
      refine ⟨hinv', hgrows, fun d hd => ?_⟩
      cases more with
      | true => exact Option.some.inj hd ▸ trivial
      | false => nomatch hd
    · cases hok
      exact ⟨hinv, hstays, hend⟩
  | creatingTask _ ctx =>
    obtain ⟨_, hok⟩ := of_bind hok
    obtain ⟨db, hwrites, hok⟩ := bind_eq_ok.mp hok
    cases hok
    have hpending := ContractStore.get?_of_not_pends hfree
    obtain ⟨db₁, hinserts, hcontracts, htasks⟩ := inserts_createTask hwrites
    have hrow : db₁.contracts.get? answers.newContractId = some (newContract ctx.workspaceId
        answers.newTaskId answers.newContractId .confirmed) := by
      rw [hinserts.contracts]
      exact Dict.get?_set_self _ _ _
    have hgrows : Grows s.db db := by
      constructor
      · rw [hcontracts]
        exact hinserts.grows.contracts
      · rw [htasks]
        exact hinserts.grows.tasks
    exact ⟨(hinserts.inv hinv hpending).queue hcontracts htasks hrow rfl rfl, hgrows, hend⟩
  | queue =>
    obtain ⟨_, hok⟩ := of_bind hok
    split_ifs at hok
    · cases hok
      exact ⟨hinv, hstays, hend⟩
    · obtain ⟨_, hok⟩ := of_bind hok
      cases hok
      exact ⟨hinv, hstays, fun d hd => Option.some.inj hd ▸ trivial⟩
  | gate =>
    obtain ⟨_, hok⟩ := of_bind hok
    cases hok
    exact ⟨hinv, hstays, fun d hd => Option.some.inj hd ▸ trivial⟩
  | checkContract =>
    obtain ⟨_, hcurrent, hok⟩ := bind_eq_ok.mp hok
    obtain ⟨_, hok⟩ := of_bind hok
    cases hok
    refine ⟨hinv, hstays, fun d hd => ?_⟩
    cases hd
    exact requireCurrentConfirmedContract_eq_ok hcurrent
  | queueing =>
    obtain ⟨db, hinsert, hok⟩ := bind_eq_ok.mp hok
    cases hok
    obtain ⟨c, hc, htask⟩ := hread
    have hconfirmed : c.status = .confirmed := by
      simpa [NothingOvertakes, hc] using hnot
    obtain ⟨hcontracts, htasks⟩ := insertQueuedPackage_frame hinsert
    exact ⟨hinv.queue hcontracts htasks hc hconfirmed htask, .of_eq hcontracts htasks, hend⟩

end Steps

theorem contractRule (indexed : Bool) :
    (contractCalls indexed).Rule NothingOvertakes ContractInv fun s call => call.Read s where
  start s req _ := by cases req <;> trivial
  step s c a s' c' hI hJ hG hstep := by
    have hstep : ContractCall.step indexed s c a = some (s', c') := hstep
    unfold ContractCall.step at hstep
    split_ifs at hstep with hwaits
    have hfree : c.waits indexed s a = false := by simpa using hwaits
    cases hperform : c.perform indexed s a with
    | error =>
      rw [hperform] at hstep
      cases hstep
      obtain ⟨hinv, hgrows⟩ := hI.abort c
      exact ⟨hinv, fun d hd => hd.grows hgrows, fun d hd => nomatch hd⟩
    | ok =>
      rw [hperform] at hstep
      cases hstep
      obtain ⟨hinv, hgrows, hread⟩ := ContractCall.kept_of_perform hI hJ hG hfree hperform
      exact ⟨hinv, fun d hd => hd.grows hgrows, hread⟩
  abort s c hI _ :=
    have habort := hI.abort c
    ⟨habort.1, fun _ hd => hd.grows habort.2⟩

/-- Contracts are under their identifiers, in the workspace of their task, and supersede no draft. -/
structure ContractTables (db : WorkDb) : Prop where
  keyed : ∀ id c, db.contracts.get? id = some c → c.id = id
  known : ∀ id c, db.contracts.get? id = some c →
    ∃ task, db.tasks.get? c.taskId = some task ∧ task.workspaceId = c.workspaceId
  superseded : ∀ id c draftId, db.contracts.get? id = some c →
    c.supersedesContractId = some draftId →
      ∃ draft, db.contracts.get? draftId = some draft ∧ draft.status ≠ .draft

/-- If nothing overtakes a confirmation or a new package, the law holds after every run. -/
theorem contractLaw_along (indexed : Bool) (db : WorkDb) (hrows : ContractTables db)
    (hlaw : ContractLaw ⟨db, ∅, []⟩) (ls : List (CallLabel ContractRequest ContractAnswers))
    (s : InFlight ContractStore ContractCall)
    (hrun : (contractCalls indexed).system.run ⟨⟨db, ∅, []⟩, []⟩ ls = some s)
    (hnot : (contractCalls indexed).system.Along (Service.Meets NothingOvertakes) ⟨⟨db, ∅, []⟩, []⟩
      ls) : ContractLaw s.store := by
  have hinv : ContractInv ⟨db, ∅, []⟩ :=
    ⟨hlaw, hrows.keyed, hrows.known, hrows.superseded, fun _ _ h => (nomatch h),
      fun _ _ _ _ h => (nomatch h), fun _ _ _ _ h => (nomatch h)⟩
  exact ((contractRule indexed).inv_of_along (.of_empty hinv) hnot hrun).store.law

/-! ### One draft, two confirmations -/

/-- The task 1 with the draft 4. -/
def draftTask : WorkDb where
  tasks := Dict.update ∅ [(1, ⟨1, none, "draft"⟩)]
  contracts := Dict.update ∅ [(4, newContract 1 1 4 .draft)]

def confirmDraft (key : String) : ContractRequest :=
  .confirm ⟨1, 4, ⟨"agent-a", "Write the report", [("format", "markdown")], [("clarity", 3)], none⟩,
    1, key⟩ ⟨1, "founder", some 3⟩

/-- The steps of a call, with the identifiers of its contract, its package and its attempt. -/
def stepsOf (i n contractId : ℕ) : List (CallLabel ContractRequest ContractAnswers) :=
  List.replicate n (.step i
    { newContractId := contractId, newId := contractId + 10, newAttemptId := contractId + 20 })

theorem get?_draftTask {id : ℕ} {c : OutcomeContract} (h : draftTask.contracts.get? id = some c) :
    id = 4 ∧ c = newContract 1 1 4 .draft := by
  have hmem : (id, c) ∈ [(4, newContract 1 1 4 .draft)] := Dict.get?_eq_some.mp h
  obtain ⟨rfl, rfl⟩ := Prod.mk.inj (List.mem_singleton.mp hmem)
  exact ⟨rfl, rfl⟩

theorem contractTables_draftTask : ContractTables draftTask where
  keyed id c h := by
    obtain ⟨rfl, rfl⟩ := get?_draftTask h
    rfl
  known id c h := by
    obtain ⟨rfl, rfl⟩ := get?_draftTask h
    exact ⟨_, rfl, rfl⟩
  superseded id c draftId h hdraft := by
    obtain ⟨rfl, rfl⟩ := get?_draftTask h
    nomatch hdraft

theorem contractLaw_draftTask : ContractLaw ⟨draftTask, ∅, []⟩ where
  single id c id' c' h h' _ _ _ := by
    obtain ⟨rfl, -⟩ := get?_draftTask h
    exact (get?_draftTask h').1.symm
  active id c h hconfirmed := by
    obtain ⟨rfl, rfl⟩ := get?_draftTask h
    nomatch hconfirmed
  confirmed taskId task id h hactive := by
    have hmem : (taskId, task) ∈ [(1, (⟨1, none, "draft"⟩ : QueueTask))] := Dict.get?_eq_some.mp h
    obtain ⟨rfl, rfl⟩ := Prod.mk.inj (List.mem_singleton.mp hmem)
    nomatch hactive
  once id c id' c' draftId h _ hdraft _ := by
    obtain ⟨rfl, rfl⟩ := get?_draftTask h
    nomatch hdraft
  queued _ hr := absurd hr List.not_mem_nil

def confirmRun : List (CallLabel ContractRequest ContractAnswers) :=
  [CallLabel.start (confirmDraft "a")] ++ stepsOf 0 6 5

def confirmedDraft : InFlight ContractStore ContractCall :=
  ((contractCalls false).system.run ⟨⟨draftTask, ∅, []⟩, []⟩ confirmRun).get (by decide +kernel)

theorem contractLaw_along_confirm : ContractLaw confirmedDraft.store :=
  contractLaw_along false draftTask contractTables_draftTask contractLaw_draftTask confirmRun
    confirmedDraft (Option.some_get _).symm (by decide +kernel)

/-- Two confirmations read the draft, and the second one supersedes it when the first one has
    committed. -/
def confirmTwice : List (CallLabel ContractRequest ContractAnswers) :=
  [CallLabel.start (confirmDraft "a"), .start (confirmDraft "b")] ++
    stepsOf 0 3 5 ++ stepsOf 1 3 6 ++
    stepsOf 0 3 5 ++ stepsOf 1 4 6

def confirmedTwice : InFlight ContractStore ContractCall :=
  ((contractCalls false).system.run ⟨⟨draftTask, ∅, []⟩, []⟩ confirmTwice).get (by decide +kernel)

theorem not_contractLaw_twice : (contractCalls false).system.run ⟨⟨draftTask, ∅, []⟩, []⟩
    confirmTwice = some confirmedTwice ∧ ¬ContractLaw confirmedTwice.store := by
  refine ⟨(Option.some_get _).symm, fun h => ?_⟩
  have hfive : confirmedTwice.store.db.contracts.get? 5 = some { newContract 1 1 5 .superseded with
      revision := 2
      supersedesContractId := some 4 } := by decide +kernel
  have hsix : confirmedTwice.store.db.contracts.get? 6 = some { newContract 1 1 6 .confirmed with
      revision := 2
      supersedesContractId := some 4 } := by decide +kernel
  nomatch h.once 5 _ 6 _ 4 hfive hsix rfl rfl

end JavisSaas.Company.Operations
