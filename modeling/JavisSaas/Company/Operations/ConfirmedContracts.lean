import JavisSaas.Company.Operations.ContractConfirmation

/-!
# The invariant of contracts and confirmations

What holds of the tables and of the transactions that have not ended, and what it says of a
new contract (`Inserts.inv`), of each statement of a confirmation (`ContractInv.lockDraft`,
`ContractInv.look`, `ContractInv.supersede`) and of its commit (`Commits.contractInv`).
-/

namespace JavisSaas.Company.Operations

open JavisSaas.Lib

/-! ## The invariant -/

/-- A superseded draft stays one, and the confirmed contracts of the task are those found. -/
structure Confirmation.Sound (db : WorkDb) (id : ℕ) (t : Confirmation) : Prop where
  fresh : db.contracts.get? id = none
  draft : ∃ c, db.contracts.get? t.input.draftContractId = some c ∧ c.taskId = t.taskId ∧
    c.workspaceId = t.ctx.workspaceId ∧ (t.phase ≠ .inserted → c.status = .draft)
  locked : ∀ id' ∈ t.locked, ∃ c, db.contracts.get? id' = some c ∧ c.taskId = t.taskId ∧
    c.status ≠ .draft
  rest : ∀ rest, t.phase = .superseding rest → ∀ id' ∈ rest, ∃ c,
    db.contracts.get? id' = some c ∧ c.taskId = t.taskId ∧ c.status ≠ .draft
  found : ∀ rest, t.phase = .superseding rest → ∀ id' c, db.contracts.get? id' = some c →
    c.taskId = t.taskId → c.status = .confirmed → id' ∈ t.locked ∨ id' ∈ rest

structure ContractInv (s : ContractStore) : Prop where
  law : ContractLaw s
  keyed : ∀ id c, s.db.contracts.get? id = some c → c.id = id
  known : ∀ id c, s.db.contracts.get? id = some c →
    ∃ task, s.db.tasks.get? c.taskId = some task ∧ task.workspaceId = c.workspaceId
  superseded : ∀ id c draftId, s.db.contracts.get? id = some c →
    c.supersedesContractId = some draftId →
      ∃ draft, s.db.contracts.get? draftId = some draft ∧ draft.status ≠ .draft
  sound : ∀ id t, s.confirming.get? id = some t → t.Sound s.db id
  drafts : ∀ id t id' t', s.confirming.get? id = some t → s.confirming.get? id' = some t' →
    t.phase ≠ .inserted → t'.phase ≠ .inserted →
      t.input.draftContractId = t'.input.draftContractId → id = id'
  looking : ∀ id t id' t', s.confirming.get? id = some t → s.confirming.get? id' = some t' →
    t.looked → t'.looked → t.taskId = t'.taskId → id = id'

/-! ### A new contract -/

/-- A contract that supersedes none, and its task, which is there or is new with it. -/
structure Inserts (db db' : WorkDb) (row : OutcomeContract) : Prop where
  contracts : db'.contracts = db.contracts.set row.id row
  fresh : db.contracts.get? row.id = none
  supersedes : row.supersedesContractId = none
  kept : ∀ taskId task, db.tasks.get? taskId = some task → db'.tasks.get? taskId = some task
  task : ∃ task, db'.tasks.get? row.taskId = some task ∧ task.workspaceId = row.workspaceId ∧
    (row.status = .confirmed → task.activeOutcomeContractId = some row.id)
  added : ∀ taskId task, db'.tasks.get? taskId = some task → db.tasks.get? taskId = some task ∨
    taskId = row.taskId ∧ ∀ id, task.activeOutcomeContractId = some id →
      id = row.id ∧ row.status = .confirmed
  first : row.status = .confirmed → db.tasks.get? row.taskId = none

section Inserts

variable {s : ContractStore} {db : WorkDb} {row : OutcomeContract}

theorem Inserts.get? (h : Inserts s.db db row) {id : ℕ} {c : OutcomeContract}
    (hc : db.contracts.get? id = some c) :
    id = row.id ∧ c = row ∨ s.db.contracts.get? id = some c := by
  rw [h.contracts, Dict.get?_set] at hc
  split_ifs at hc with heq
  · exact .inl ⟨heq.symm, (Option.some.inj hc).symm⟩
  · exact .inr hc

theorem Inserts.get?_old (h : Inserts s.db db row) {id : ℕ} {c : OutcomeContract}
    (hc : s.db.contracts.get? id = some c) : db.contracts.get? id = some c := by
  rw [h.contracts, Dict.get?_set, if_neg]
  · exact hc
  · rintro rfl
    rw [h.fresh] at hc
    nomatch hc

/-- A contract that was there is not of the task of a new one that is confirmed. -/
theorem Inserts.task_ne (h : Inserts s.db db row) (hinv : ContractInv s)
    (hconfirmed : row.status = .confirmed) {id : ℕ} {c : OutcomeContract}
    (hc : s.db.contracts.get? id = some c) : c.taskId ≠ row.taskId := by
  obtain ⟨task, htask, -⟩ := hinv.known id c hc
  rintro heq
  rw [heq, h.first hconfirmed] at htask
  nomatch htask

theorem Inserts.law (h : Inserts s.db db row) (hinv : ContractInv s) :
    ContractLaw { s with db } where
  single id c id' c' hc hc' hconfirmed hconfirmed' htask := by
    rcases h.get? hc with ⟨rfl, rfl⟩ | hold
    · rcases h.get? hc' with ⟨rfl, rfl⟩ | hold'
      · rfl
      · exact absurd htask.symm (h.task_ne hinv hconfirmed hold')
    · rcases h.get? hc' with ⟨rfl, rfl⟩ | hold'
      · exact absurd htask (h.task_ne hinv hconfirmed' hold)
      · exact hinv.law.single id c id' c' hold hold' hconfirmed hconfirmed' htask
  active id c hc hconfirmed := by
    rcases h.get? hc with ⟨rfl, rfl⟩ | hold
    · obtain ⟨task, htask, -, hactive⟩ := h.task
      exact ⟨task, htask, hactive hconfirmed⟩
    · obtain ⟨task, htask, hactive⟩ := hinv.law.active id c hold hconfirmed
      exact ⟨task, h.kept _ _ htask, hactive⟩
  confirmed taskId task id htask hactive := by
    rcases h.added taskId task htask with hold | ⟨rfl, hnew⟩
    · obtain ⟨c, hc, hconfirmed⟩ := hinv.law.confirmed taskId task id hold hactive
      exact ⟨c, h.get?_old hc, hconfirmed⟩
    · obtain ⟨rfl, hconfirmed⟩ := hnew id hactive
      refine ⟨row, ?_, rfl, hconfirmed⟩
      rw [h.contracts, Dict.get?_set_self]
  once id c id' c' draftId hc hc' hdraft hdraft' := by
    have hold : ∀ {id c}, db.contracts.get? id = some c →
        c.supersedesContractId = some draftId → s.db.contracts.get? id = some c := by
      intro id c hc hdraft
      rcases h.get? hc with ⟨rfl, rfl⟩ | hold
      · rw [h.supersedes] at hdraft
        nomatch hdraft
      · exact hold
    exact hinv.law.once id c id' c' draftId (hold hc hdraft) (hold hc' hdraft') hdraft hdraft'
  queued := hinv.law.queued

theorem Inserts.sound (h : Inserts s.db db row) (hinv : ContractInv s) {id : ℕ} {t : Confirmation}
    (hid : id ≠ row.id) (ht : t.Sound s.db id) : t.Sound db id where
  fresh := by
    rw [h.contracts, Dict.get?_set_of_ne _ hid.symm]
    exact ht.fresh
  draft := by
    obtain ⟨c, hc, hdraft⟩ := ht.draft
    exact ⟨c, h.get?_old hc, hdraft⟩
  locked id' hid' := by
    obtain ⟨c, hc, hlocked⟩ := ht.locked id' hid'
    exact ⟨c, h.get?_old hc, hlocked⟩
  rest rest hrest id' hid' := by
    obtain ⟨c, hc, hlocked⟩ := ht.rest rest hrest id' hid'
    exact ⟨c, h.get?_old hc, hlocked⟩
  found rest hrest id' c hc htask hconfirmed := by
    rcases h.get? hc with ⟨rfl, rfl⟩ | hold
    · obtain ⟨draft, hdraft, hdraftTask, -⟩ := ht.draft
      exact absurd (hdraftTask.trans htask.symm) (h.task_ne hinv hconfirmed hdraft)
    · exact ht.found rest hrest id' c hold htask hconfirmed

theorem Inserts.inv (h : Inserts s.db db row) (hinv : ContractInv s)
    (hpending : s.confirming.get? row.id = none) : ContractInv { s with db } where
  law := h.law hinv
  keyed id c hc := by
    rcases h.get? hc with ⟨rfl, rfl⟩ | hold
    · rfl
    · exact hinv.keyed id c hold
  known id c hc := by
    rcases h.get? hc with ⟨rfl, rfl⟩ | hold
    · obtain ⟨task, htask, hworkspace, -⟩ := h.task
      exact ⟨task, htask, hworkspace⟩
    · obtain ⟨task, htask, hworkspace⟩ := hinv.known id c hold
      exact ⟨task, h.kept _ _ htask, hworkspace⟩
  superseded id c draftId hc hdraft := by
    rcases h.get? hc with ⟨rfl, rfl⟩ | hold
    · rw [h.supersedes] at hdraft
      nomatch hdraft
    · obtain ⟨draft, hget, hstatus⟩ := hinv.superseded id c draftId hold hdraft
      exact ⟨draft, h.get?_old hget, hstatus⟩
  sound id t ht := by
    refine h.sound hinv ?_ (hinv.sound id t ht)
    rintro rfl
    nomatch hpending.symm.trans ht
  drafts := hinv.drafts
  looking := hinv.looking

end Inserts

/-! ### The statements of a confirmation -/

section Statements

variable {s : ContractStore} {id : ℕ} {t t' : Confirmation}

theorem ContractInv.goOn (hinv : ContractInv s) (ht' : t'.Sound s.db id)
    (hdrafts : t'.phase ≠ .inserted → ∀ id' t'', s.confirming.get? id' = some t'' → id' ≠ id →
      t''.phase ≠ .inserted → t''.input.draftContractId ≠ t'.input.draftContractId)
    (hlooking : t'.looked → ∀ id' t'', s.confirming.get? id' = some t'' → id' ≠ id →
      t''.looked → t''.taskId ≠ t'.taskId) :
    ContractInv { s with confirming := s.confirming.set id t' } := by
  have hcases : ∀ {id' t''}, (s.confirming.set id t').get? id' = some t'' →
      id' = id ∧ t'' = t' ∨ id' ≠ id ∧ s.confirming.get? id' = some t'' := by
    intro id' t'' h
    rw [Dict.get?_set] at h
    split_ifs at h with heq
    · exact .inl ⟨heq.symm, (Option.some.inj h).symm⟩
    · exact .inr ⟨Ne.symm heq, h⟩
  refine ⟨⟨hinv.law.single, hinv.law.active, hinv.law.confirmed, hinv.law.once, hinv.law.queued⟩,
    hinv.keyed, hinv.known, hinv.superseded, fun id' t'' h => ?_, ?_, ?_⟩
  · rcases hcases h with ⟨rfl, rfl⟩ | ⟨-, hold⟩
    · exact ht'
    · exact hinv.sound id' t'' hold
  · intro a x b y ha hb hx hy heq
    rcases hcases ha with ⟨rfl, rfl⟩ | ⟨hane, hold⟩
    · rcases hcases hb with ⟨rfl, -⟩ | ⟨hbne, hold'⟩
      · rfl
      · exact absurd heq.symm (hdrafts hx b y hold' hbne hy)
    · rcases hcases hb with ⟨rfl, rfl⟩ | ⟨-, hold'⟩
      · exact absurd heq (hdrafts hy a x hold hane hx)
      · exact hinv.drafts a x b y hold hold' hx hy heq
  · intro a x b y ha hb hx hy heq
    rcases hcases ha with ⟨rfl, rfl⟩ | ⟨hane, hold⟩
    · rcases hcases hb with ⟨rfl, -⟩ | ⟨hbne, hold'⟩
      · rfl
      · exact absurd heq.symm (hlooking hx b y hold' hbne hy)
    · rcases hcases hb with ⟨rfl, rfl⟩ | ⟨-, hold'⟩
      · exact absurd heq (hlooking hy a x hold hane hx)
      · exact hinv.looking a x b y hold hold' hx hy heq

theorem ContractStore.not_holds {x : ℕ} (h : s.heldByOther id x = false) {id' : ℕ}
    (ht' : s.confirming.get? id' = some t') (hne : id' ≠ id) : t'.holds x = false := by
  rw [ContractStore.heldByOther, List.any_eq_false] at h
  have hentry := h (id', t') (Dict.get?_eq_some.mp ht')
  simpa [hne] using hentry

theorem ContractInv.lockDraft (hinv : ContractInv s) (ht : s.confirming.get? id = some t)
    (hphase : t.phase = .inserted) (hnot : t.NotOvertaken s)
    (hfree : s.heldByOther id t.input.draftContractId = false) :
    ContractInv { s with confirming := s.confirming.set id { t with phase := .draftLocked } } := by
  have hsound := hinv.sound id t ht
  refine hinv.goOn ⟨hsound.fresh, ?_, hsound.locked, fun rest h => (nomatch h),
    fun rest h => (nomatch h)⟩ ?_ fun h => (nomatch h)
  · obtain ⟨c, hc, htask, hworkspace, -⟩ := hsound.draft
    refine ⟨c, hc, htask, hworkspace, fun _ => ?_⟩
    simp only [Confirmation.NotOvertaken, hphase, hc, Option.any_some, decide_eq_true_eq] at hnot
    exact hnot
  · intro _ id' t'' ht'' hne hphase'' heq
    have hholds := ContractStore.not_holds hfree ht'' hne
    rw [Confirmation.holds, heq] at hholds
    simp [hphase''] at hholds

theorem ContractInv.look (hinv : ContractInv s) (ht : s.confirming.get? id = some t)
    (hphase : t.phase = .draftLocked) (hnot : t.NotOvertaken s) :
    ContractInv { s with
      confirming := s.confirming.set id { t with
        phase := .superseding (t.confirmedContracts s.db) } } := by
  have hsound := hinv.sound id t ht
  obtain ⟨draft, hdraft, hdraftTask, hworkspace, hstatus⟩ := hsound.draft
  have hlocked : t.phase ≠ .inserted := by
    rw [hphase]
    nofun
  refine hinv.goOn ⟨hsound.fresh, ⟨draft, hdraft, hdraftTask, hworkspace, fun _ => hstatus hlocked⟩,
    hsound.locked, fun rest hrest id' hid' => ?_, fun rest hrest id' c hc htask hconfirmed => ?_⟩
    (fun _ id' t'' ht'' hne hphase'' heq => ?_) fun _ id' t'' ht'' hne hlooked => ?_
  · cases hrest
    obtain ⟨c, hc, rfl⟩ := List.mem_map.mp hid'
    obtain ⟨hmem, hcond⟩ := List.mem_filter.mp hc
    obtain ⟨key, hkey⟩ := Dict.mem_values.mp hmem
    simp only [Bool.and_eq_true, decide_eq_true_eq] at hcond
    refine ⟨c, hinv.keyed key c hkey ▸ hkey, hcond.1.1, ?_⟩
    rw [hcond.2]
    nofun
  · cases hrest
    right
    -- a contract has the workspace of its task
    obtain ⟨task, htaskRow, htaskWorkspace⟩ := hinv.known _ c hc
    obtain ⟨task', htaskRow', htaskWorkspace'⟩ := hinv.known _ draft hdraft
    rw [hdraftTask, show t.taskId = c.taskId from htask.symm] at htaskRow'
    cases htaskRow.symm.trans htaskRow'
    refine List.mem_map.mpr ⟨c, List.mem_filter.mpr ⟨Dict.mem_values.mpr ⟨_, hc⟩, ?_⟩,
      hinv.keyed _ c hc⟩
    simp only [Bool.and_eq_true, decide_eq_true_eq]
    exact ⟨⟨htask, htaskWorkspace.symm.trans (htaskWorkspace'.trans hworkspace)⟩, hconfirmed⟩
  · exact hne (hinv.drafts id' t'' id t ht'' ht hphase'' hlocked heq)
  · rw [Confirmation.NotOvertaken, hphase] at hnot
    exact hnot t'' (Dict.mem_values.mpr ⟨_, ht''⟩) hlooked

theorem ContractInv.supersede (hinv : ContractInv s) (ht : s.confirming.get? id = some t)
    {x : ℕ} {rest : List ℕ} (hphase : t.phase = .superseding (x :: rest)) :
    ContractInv { s with confirming := s.confirming.set id (t.supersede s.db x rest) } := by
  have hsound := hinv.sound id t ht
  obtain ⟨draft, hdraft, hdraftTask, hworkspace, hstatus⟩ := hsound.draft
  have hlocked : t.phase ≠ .inserted := by
    rw [hphase]
    nofun
  have hlooked : t.looked = true := by
    rw [Confirmation.looked, hphase]
  have hall := hsound.rest _ hphase
  refine hinv.goOn ⟨hsound.fresh, ⟨draft, hdraft, hdraftTask, hworkspace, fun _ => hstatus hlocked⟩,
    fun id' hid' => ?_, fun rest' hrest id' hid' => ?_,
    fun rest' hrest id' c hc htask hconfirmed => ?_⟩
    (fun _ id' t'' ht'' hne hphase'' heq => ?_) fun _ id' t'' ht'' hne hlooked'' heq => ?_
  · simp only [Confirmation.supersede] at hid'
    split_ifs at hid' with hx
    · rcases mem_concat hid' with hid' | rfl
      · exact hsound.locked id' hid'
      · exact hall id' List.mem_cons_self
    · exact hsound.locked id' hid'
  · cases hrest
    exact hall id' (List.mem_cons_of_mem x hid')
  · cases hrest
    simp only [Confirmation.supersede]
    rcases hsound.found _ hphase id' c hc htask hconfirmed with hmem | hmem
    · left
      split_ifs
      · exact List.mem_append_left _ hmem
      · exact hmem
    · rcases List.mem_cons.mp hmem with rfl | hmem
      · left
        rw [if_pos (by simp [hc, hconfirmed])]
        exact List.mem_concat_self
      · exact .inr hmem
  · exact hne (hinv.drafts id' t'' id t ht'' ht hphase'' hlocked heq)
  · exact hne (hinv.looking id' t'' id t ht'' ht hlooked'' hlooked heq)

end Statements

/-! ### The commit -/

theorem get?_supersedeContract (contracts : Dict ℕ OutcomeContract) (id id' : ℕ) :
    (supersedeContract contracts id).get? id' = (contracts.get? id').map fun c =>
      if id' = id then { c with status := .superseded } else c := by
  unfold supersedeContract
  split
  · next c hc =>
    by_cases heq : id = id'
    · subst heq
      rw [Dict.get?_set_self, hc]
      simp
    · rw [Dict.get?_set_of_ne _ heq]
      cases contracts.get? id' with
      | none => rfl
      | some => simp [Ne.symm heq]
  · next hnone =>
    cases hc' : contracts.get? id' with
    | none => rfl
    | some =>
      have hne : id' ≠ id := by
        rintro rfl
        nomatch hnone.symm.trans hc'
      simp [hne]

theorem get?_foldl_supersede (ids : List ℕ) (contracts : Dict ℕ OutcomeContract) (id : ℕ) :
    (ids.foldl supersedeContract contracts).get? id = (contracts.get? id).map fun c =>
      if id ∈ ids then { c with status := .superseded } else c := by
  induction ids generalizing contracts with
  | nil => simp
  | cons x ids ih =>
    rw [List.foldl_cons, ih, get?_supersedeContract, Option.map_map]
    congr 1
    funext c
    by_cases hx : id = x <;> by_cases hid : id ∈ ids <;> simp [hx, hid]

theorem insertQueuedPackage_frame {indexed : Bool} {db db' : WorkDb} {workspaceId : ℕ}
    {input : PackageInput} {answers : WorkAnswers}
    (h : insertQueuedPackage indexed db workspaceId input answers = .ok db') :
    db'.contracts = db.contracts ∧ db'.tasks = db.tasks := by
  obtain ⟨⟨db₁, opening⟩, hinsert, h⟩ := bind_eq_ok.mp h
  obtain ⟨db₂, hopen, h⟩ := bind_eq_ok.mp h
  cases h
  obtain ⟨attempts, rfl⟩ := openAttempt_frame hopen
  have hinsert := of_require hinsert
  have hinsert := of_require hinsert
  cases hinsert
  exact ⟨rfl, rfl⟩

section Commit

variable {s : ContractStore} {id : ℕ} {t : Confirmation} {db : WorkDb}

/-- The tables when a confirmation commits. -/
structure Commits (s : ContractStore) (id : ℕ) (t : Confirmation) (db : WorkDb) : Prop where
  inv : ContractInv s
  running : s.confirming.get? id = some t
  phase : t.phase = .superseding []
  contracts : db.contracts = (t.written s.db id).contracts
  tasks : db.tasks = (t.written s.db id).tasks

namespace Commits

theorem sound (h : Commits s id t db) : t.Sound s.db id := h.inv.sound id t h.running

theorem started (h : Commits s id t db) : t.phase ≠ .inserted := by
  rw [h.phase]
  nofun

theorem looked (h : Commits s id t db) : t.looked = true := by
  rw [Confirmation.looked, h.phase]

theorem contracts_eq (h : Commits s id t db) : db.contracts =
    ((t.input.draftContractId :: t.locked).foldl supersedeContract s.db.contracts).set id
      (t.newContract id) := by
  rw [h.contracts, Confirmation.written]
  unfold activateContract
  split <;> rfl

theorem tasks_eq (h : Commits s id t db) : ∃ task, s.db.tasks.get? t.taskId = some task ∧
    task.workspaceId = t.ctx.workspaceId ∧ db.tasks = s.db.tasks.set t.taskId
      { task with activeOutcomeContractId := some id, status := "todo" } := by
  obtain ⟨draft, hdraft, hdraftTask, hworkspace, -⟩ := h.sound.draft
  obtain ⟨task, htask, htaskWorkspace⟩ := h.inv.known _ draft hdraft
  rw [hdraftTask] at htask
  refine ⟨task, htask, htaskWorkspace.trans hworkspace, ?_⟩
  rw [h.tasks]
  simp only [Confirmation.written, activateContract, htask]

theorem get?_new (h : Commits s id t db) : db.contracts.get? id = some (t.newContract id) := by
  rw [h.contracts_eq, Dict.get?_set_self]

/-- A contract is the new one, or was there and is superseded if it is the draft or was
    confirmed. -/
theorem get?_cases (h : Commits s id t db) {id' : ℕ} {c : OutcomeContract}
    (hc : db.contracts.get? id' = some c) : id' = id ∧ c = t.newContract id ∨
      id' ≠ id ∧ ∃ c', s.db.contracts.get? id' = some c' ∧
        ((id' = t.input.draftContractId ∨ id' ∈ t.locked) ∧
          c = { c' with status := .superseded } ∨
        id' ≠ t.input.draftContractId ∧ id' ∉ t.locked ∧ c = c') := by
  rw [h.contracts_eq, Dict.get?_set] at hc
  split_ifs at hc with heq
  · exact .inl ⟨heq.symm, (Option.some.inj hc).symm⟩
  · rw [get?_foldl_supersede] at hc
    obtain ⟨c', hc', rfl⟩ := Option.map_eq_some_iff.mp hc
    refine .inr ⟨Ne.symm heq, c', hc', ?_⟩
    simp only [List.mem_cons]
    split_ifs with hmem
    · exact .inl ⟨hmem, rfl⟩
    · rw [not_or] at hmem
      exact .inr ⟨hmem.1, hmem.2, rfl⟩

/-- A contract that was there keeps its task and workspace, and is not made a draft. -/
theorem get?_old (h : Commits s id t db) {id' : ℕ} {c : OutcomeContract}
    (hc : s.db.contracts.get? id' = some c) : ∃ c', db.contracts.get? id' = some c' ∧
      c'.taskId = c.taskId ∧ c'.workspaceId = c.workspaceId ∧
      (c'.status = .draft → c.status = .draft) ∧
      (id' ≠ t.input.draftContractId → c.status = .draft → c'.status = .draft) ∧
      (id' ≠ t.input.draftContractId → id' ∉ t.locked → c' = c) := by
  have hne : id ≠ id' := by
    rintro rfl
    nomatch h.sound.fresh.symm.trans hc
  have hget : db.contracts.get? id' = (s.db.contracts.get? id').map fun c =>
      if id' ∈ t.input.draftContractId :: t.locked then { c with status := .superseded }
      else c := by
    rw [h.contracts_eq, Dict.get?_set_of_ne _ hne, get?_foldl_supersede]
  rw [hc, Option.map_some] at hget
  refine ⟨_, hget, ?_⟩
  split_ifs with hmem
  · refine ⟨rfl, rfl, fun hstatus => (nomatch hstatus), fun hnot hstatus => ?_,
      fun hnot hnotLocked => ?_⟩
    · obtain ⟨c', hc', -, hlocked⟩ := h.sound.locked id' ((List.mem_cons.mp hmem).resolve_left hnot)
      cases hc.symm.trans hc'
      exact absurd hstatus hlocked
    · exact absurd hmem (List.not_mem_cons_of_ne_of_not_mem hnot hnotLocked)
  · exact ⟨rfl, rfl, fun hstatus => hstatus, fun _ hstatus => hstatus, fun _ _ => rfl⟩

variable {id' : ℕ} {c : OutcomeContract}

theorem task_ne (h : Commits s id t db) (hc : s.db.contracts.get? id' = some c)
    (hconfirmed : c.status = .confirmed) (hnot : id' ∉ t.locked) : c.taskId ≠ t.taskId := by
  intro htask
  rcases h.sound.found [] h.phase id' c hc htask hconfirmed with hmem | hmem
  · exact hnot hmem
  · exact absurd hmem List.not_mem_nil

/-- A contract that is confirmed after the commit is the new one, or was and belongs to another
    task. -/
theorem confirmed_cases (h : Commits s id t db) (hc : db.contracts.get? id' = some c)
    (hconfirmed : c.status = .confirmed) :
    id' = id ∧ c = t.newContract id ∨
      s.db.contracts.get? id' = some c ∧ c.taskId ≠ t.taskId := by
  rcases h.get?_cases hc with hnew | ⟨-, c', hc', ⟨-, rfl⟩ | ⟨-, hnot, rfl⟩⟩
  · exact .inl hnew
  · nomatch hconfirmed
  · exact .inr ⟨hc', h.task_ne hc' hconfirmed hnot⟩

theorem get?_other (h : Commits s id t db) (hc : s.db.contracts.get? id' = some c)
    (htask : c.taskId ≠ t.taskId) :
    db.contracts.get? id' = some c := by
  obtain ⟨c', hc', -, -, -, -, hsame⟩ := h.get?_old hc
  rw [hc', hsame]
  · rintro rfl
    obtain ⟨draft, hdraft, hdraftTask, -⟩ := h.sound.draft
    exact htask (Option.some.inj (hc.symm.trans hdraft) ▸ hdraftTask)
  · intro hmem
    obtain ⟨locked, hlocked, hlockedTask, -⟩ := h.sound.locked id' hmem
    exact htask (Option.some.inj (hc.symm.trans hlocked) ▸ hlockedTask)

theorem law (h : Commits s id t db) {queued : List QueueRecord}
    (hqueued : ∀ r ∈ queued, r.wasConfirmed) {confirming : Dict ℕ Confirmation} :
    ContractLaw ⟨db, confirming, queued⟩ where
  single a x b y hx hy hxc hyc htask := by
    rcases h.confirmed_cases hx hxc with ⟨rfl, rfl⟩ | ⟨hold, hne⟩
    · rcases h.confirmed_cases hy hyc with ⟨rfl, -⟩ | ⟨-, hne'⟩
      · rfl
      · exact absurd htask.symm hne'
    · rcases h.confirmed_cases hy hyc with ⟨rfl, rfl⟩ | ⟨hold', -⟩
      · exact absurd htask hne
      · exact h.inv.law.single a x b y hold hold' hxc hyc htask
  active a x hx hxc := by
    obtain ⟨task, htask, -, htasks⟩ := h.tasks_eq
    show ∃ row, db.tasks.get? x.taskId = some row ∧ _
    rw [htasks]
    rcases h.confirmed_cases hx hxc with ⟨rfl, rfl⟩ | ⟨hold, hne⟩
    · exact ⟨_, Dict.get?_set_self _ _ _, rfl⟩
    · obtain ⟨row, hrow, hactive⟩ := h.inv.law.active a x hold hxc
      exact ⟨row, by rw [Dict.get?_set_of_ne _ (Ne.symm hne), hrow], hactive⟩
  confirmed taskId row a hrow hactive := by
    obtain ⟨task, htask, -, htasks⟩ := h.tasks_eq
    rw [show db.tasks = _ from htasks, Dict.get?_set] at hrow
    split_ifs at hrow with heq
    · cases hrow
      cases hactive
      exact ⟨_, h.get?_new, heq, rfl⟩
    · obtain ⟨c, hc, hcTask, hconfirmed⟩ := h.inv.law.confirmed taskId row a hrow hactive
      exact ⟨c, h.get?_other hc (hcTask ▸ Ne.symm heq), hcTask, hconfirmed⟩
  once a x b y draftId hx hy hxd hyd := by
    -- a contract that was there does not supersede the draft
    have hcases : ∀ {a x}, db.contracts.get? a = some x →
        x.supersedesContractId = some draftId → a = id ∧ draftId = t.input.draftContractId ∨
          draftId ≠ t.input.draftContractId ∧ ∃ x', s.db.contracts.get? a = some x' ∧
            x'.supersedesContractId = some draftId := by
      intro a x hx hxd
      rcases h.get?_cases hx with ⟨rfl, rfl⟩ | ⟨-, x', hx', hsame⟩
      · exact .inl ⟨rfl, (Option.some.inj hxd).symm⟩
      · have hxd' : x'.supersedesContractId = some draftId := by
          rcases hsame with ⟨-, rfl⟩ | ⟨-, -, rfl⟩ <;> exact hxd
        refine .inr ⟨?_, x', hx', hxd'⟩
        rintro rfl
        obtain ⟨draft, hdraft, -, -, hstatus⟩ := h.sound.draft
        obtain ⟨draft', hdraft', hstatus'⟩ := h.inv.superseded a x' _ hx' hxd'
        cases hdraft.symm.trans hdraft'
        exact hstatus' (hstatus h.started)
    rcases hcases hx hxd with ⟨rfl, hdraft⟩ | ⟨hne, x', hx', hxd'⟩
    · rcases hcases hy hyd with ⟨rfl, -⟩ | ⟨hne', -⟩
      · rfl
      · exact absurd hdraft hne'
    · rcases hcases hy hyd with ⟨rfl, hdraft'⟩ | ⟨-, y', hy', hyd'⟩
      · exact absurd hdraft' hne
      · exact h.inv.law.once a x' b y' draftId hx' hy' hxd' hyd'
  queued := hqueued

theorem sound_other (h : Commits s id t db) {t' : Confirmation} (hne : id' ≠ id)
    (ht' : s.confirming.get? id' = some t') : t'.Sound db id' := by
  have hsound := h.inv.sound id' t' ht'
  have hkeeps : ∀ {x c}, s.db.contracts.get? x = some c → c.taskId = t'.taskId →
      c.status ≠ .draft → ∃ c', db.contracts.get? x = some c' ∧ c'.taskId = t'.taskId ∧
        c'.status ≠ .draft := by
    intro x c hc htask hstatus
    obtain ⟨c', hc', htask', -, hdraft, -⟩ := h.get?_old hc
    exact ⟨c', hc', htask'.trans htask, fun hd => hstatus (hdraft hd)⟩
  refine ⟨?_, ?_, ?_, ?_, ?_⟩
  · rw [h.contracts_eq, Dict.get?_set_of_ne _ hne.symm, get?_foldl_supersede, hsound.fresh]
    rfl
  · obtain ⟨c, hc, htask, hworkspace, hstatus⟩ := hsound.draft
    obtain ⟨c', hc', htask', hworkspace', -, hstays, -⟩ := h.get?_old hc
    refine ⟨c', hc', htask'.trans htask, hworkspace'.trans hworkspace, fun hphase => ?_⟩
    refine hstays (fun heq => hne ?_) (hstatus hphase)
    exact h.inv.drafts id' t' id t ht' h.running hphase h.started heq
  · intro x hx
    obtain ⟨c, hc, htask, hstatus⟩ := hsound.locked x hx
    exact hkeeps hc htask hstatus
  · intro rest hrest x hx
    obtain ⟨c, hc, htask, hstatus⟩ := hsound.rest rest hrest x hx
    exact hkeeps hc htask hstatus
  · intro rest hrest x c hc htask hconfirmed
    rcases h.confirmed_cases hc hconfirmed with ⟨rfl, rfl⟩ | ⟨hold, -⟩
    · have hlooked : t'.looked = true := by rw [Confirmation.looked, hrest]
      exact absurd (h.inv.looking id' t' _ t ht' h.running hlooked h.looked htask.symm) hne
    · exact hsound.found rest hrest x c hold htask hconfirmed

theorem contractInv (h : Commits s id t db) {queued : List QueueRecord}
    (hqueued : ∀ r ∈ queued, r.wasConfirmed) :
    ContractInv ⟨db, s.confirming.erase id, queued⟩ := by
  have herase : ∀ {id' t'}, (s.confirming.erase id).get? id' = some t' →
      id' ≠ id ∧ s.confirming.get? id' = some t' := by
    intro id' t' h
    rw [Dict.get?_erase] at h
    split_ifs at h with heq
    exact ⟨Ne.symm heq, h⟩
  obtain ⟨task, htask, hworkspace, htasks⟩ := h.tasks_eq
  refine ⟨h.law hqueued, fun a x hx => ?_, fun a x hx => ?_, fun a x draftId hx hxd => ?_,
    fun a x ha => h.sound_other (herase ha).1 (herase ha).2, fun a x b y ha hb => ?_,
    fun a x b y ha hb => ?_⟩
  · rcases h.get?_cases hx with ⟨rfl, rfl⟩ | ⟨-, x', hx', hsame⟩
    · rfl
    · have hid := h.inv.keyed a x' hx'
      rcases hsame with ⟨-, rfl⟩ | ⟨-, -, rfl⟩ <;> exact hid
  · -- the task of the commit keeps its workspace
    have hkept : ∀ {taskId row}, s.db.tasks.get? taskId = some row → ∃ row',
        db.tasks.get? taskId = some row' ∧ row'.workspaceId = row.workspaceId := by
      intro taskId row hrow
      rw [htasks, Dict.get?_set]
      split_ifs with heq
      · subst heq
        cases htask.symm.trans hrow
        exact ⟨_, rfl, rfl⟩
      · exact ⟨row, hrow, rfl⟩
    rcases h.get?_cases hx with ⟨rfl, rfl⟩ | ⟨-, x', hx', hsame⟩
    · obtain ⟨row', hrow', hws⟩ := hkept htask
      exact ⟨row', hrow', hws.trans hworkspace⟩
    · obtain ⟨row, hrow, hws⟩ := h.inv.known a x' hx'
      obtain ⟨row', hrow', hws'⟩ := hkept hrow
      rcases hsame with ⟨-, rfl⟩ | ⟨-, -, rfl⟩ <;> exact ⟨row', hrow', hws'.trans hws⟩
  · have hkept : ∀ {x'}, s.db.contracts.get? a = some x' → x'.supersedesContractId = some draftId →
        ∃ draft, db.contracts.get? draftId = some draft ∧ draft.status ≠ .draft := by
      intro x' hx' hxd'
      obtain ⟨draft, hdraft, hstatus⟩ := h.inv.superseded a x' draftId hx' hxd'
      obtain ⟨draft', hdraft', -, -, hstays, -⟩ := h.get?_old hdraft
      exact ⟨draft', hdraft', fun hd => hstatus (hstays hd)⟩
    rcases h.get?_cases hx with ⟨rfl, rfl⟩ | ⟨-, x', hx', hsame⟩
    · cases hxd
      obtain ⟨draft, hdraft, -⟩ := h.sound.draft
      obtain ⟨draft', hdraft', -⟩ := h.get?_old hdraft
      refine ⟨draft', hdraft', ?_⟩
      rcases h.get?_cases hdraft' with ⟨heq, -⟩ | ⟨-, draft'', -, ⟨-, rfl⟩ | ⟨hne, -⟩⟩
      · rw [heq, h.sound.fresh] at hdraft
        nomatch hdraft
      · nofun
      · exact absurd rfl hne
    · rcases hsame with ⟨-, rfl⟩ | ⟨-, -, rfl⟩ <;> exact hkept hx' hxd
  · exact h.inv.drafts a x b y (herase ha).2 (herase hb).2
  · exact h.inv.looking a x b y (herase ha).2 (herase hb).2

end Commits

end Commit

end JavisSaas.Company.Operations
