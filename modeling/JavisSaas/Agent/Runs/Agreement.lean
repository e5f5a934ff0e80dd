import JavisSaas.Lib.Transition
import JavisSaas.Agent.Runs.Postgres

/-!
# The two run repositories side by side

The same operations on both repositories, one after the other, with the answers of both.

* `Agreeable`: the operations on which the two do the same.
* `repositoriesLaw_of_run`: along these the answers are equal, decided approvals and saved
  checkpoints stay, and the latest checkpoint is the one with the greatest number.
* `not_repositoriesLaw_recreatedRun`: a decided approval is created once more.
-/

namespace JavisSaas.Agent.Runs

open JavisSaas.Lib

variable {P : Type}

/-! ## Operations -/

inductive RepositoryOp (P : Type) where
  | createRun (run : RunRecord P)
  | createApproval (approval : RunApprovalRecord)
  /-- `scan` is the row that a sequential scan meets first -/
  | getApprovalByToolCall (toolCallId : String) (scan : ℕ)
  | decideApproval (approvalId reviewer : String) (approved : Bool) (reason : Option String)
      (evidence : Option Evidence)
  | saveCheckpoint (checkpoint : RunCheckpointRecord P)
  | getLatestCheckpoint (runId : String)
  | claimIdempotency (claim : IdempotencyClaimRecord P)
  | completeIdempotencyClaim (claimId : String) (resultPayload : P) (resultHash : String)
  | failIdempotencyClaim (claimId errorMessage : String)
  | retryIdempotencyClaim (claimId : String)

inductive RepositoryAnswer (P : Type) where
  | run (r : RunRecord P)
  | created (a : RunApprovalRecord)
  | approval (a : Option RunApprovalRecord)
  | saved (c : RunCheckpointRecord P)
  | checkpoint (c : Option (RunCheckpointRecord P))
  | claimed (won : Bool) (c : IdempotencyClaimRecord P)
  | claim (c : Option (IdempotencyClaimRecord P))
  deriving DecidableEq

/-- A value mapped over the first component. -/
def answering {A B R : Type} (f : A → B) (x : A × R) : B × R := (f x.1, x.2)

def RunRepository.perform (repo : RunRepository P) :
    RepositoryOp P → RepositoryAnswer P × RunRepository P
  | .createRun run => answering .run (repo.createRun run)
  | .createApproval approval => answering .created (repo.createApproval approval)
  | .getApprovalByToolCall toolCallId _ =>
    (.approval (repo.getApprovalByToolCall toolCallId), repo)
  | .decideApproval approvalId reviewer approved reason evidence =>
    answering .approval (repo.decideApproval approvalId reviewer approved reason evidence)
  | .saveCheckpoint checkpoint => answering .saved (repo.saveCheckpoint checkpoint)
  | .getLatestCheckpoint runId => (.checkpoint (repo.getLatestCheckpoint runId), repo)
  | .claimIdempotency claim => answering (fun x => .claimed x.1 x.2) (repo.claimIdempotency claim)
  | .completeIdempotencyClaim claimId resultPayload resultHash =>
    answering .claim (repo.completeIdempotencyClaim claimId resultPayload resultHash)
  | .failIdempotencyClaim claimId errorMessage =>
    answering .claim (repo.failIdempotencyClaim claimId errorMessage)
  | .retryIdempotencyClaim claimId => answering .claim (repo.retryIdempotencyClaim claimId)

def PostgresRepository.perform (db : PostgresRepository P) :
    RepositoryOp P → Except IntegrityError (RepositoryAnswer P × PostgresRepository P)
  | .createRun run => (db.createRun run).map (answering .run)
  | .createApproval approval => (db.createApproval approval).map (answering .created)
  | .getApprovalByToolCall toolCallId scan =>
    .ok (.approval (db.getApprovalByToolCall toolCallId scan), db)
  | .decideApproval approvalId reviewer approved reason evidence =>
    .ok (answering .approval (db.decideApproval approvalId reviewer approved reason evidence))
  | .saveCheckpoint checkpoint => (db.saveCheckpoint checkpoint).map (answering .saved)
  | .getLatestCheckpoint runId => .ok (.checkpoint (db.getLatestCheckpoint runId), db)
  | .claimIdempotency claim =>
    (db.claimIdempotency claim).map (answering fun x => .claimed x.1 x.2)
  | .completeIdempotencyClaim claimId resultPayload resultHash =>
    .ok (answering .claim (db.completeIdempotencyClaim claimId resultPayload resultHash))
  | .failIdempotencyClaim claimId errorMessage =>
    .ok (answering .claim (db.failIdempotencyClaim claimId errorMessage))
  | .retryIdempotencyClaim claimId => .ok (answering .claim (db.retryIdempotencyClaim claimId))

/-- Both repositories, and what they answered so far. -/
structure Repositories (P : Type) where
  memory : RunRepository P := .empty
  postgres : PostgresRepository P
  answers : List (RepositoryAnswer P × Except IntegrityError (RepositoryAnswer P)) := []

/-- An operation on both; Postgres keeps its tables when it raises. -/
def Repositories.perform (s : Repositories P) (op : RepositoryOp P) : Repositories P :=
  let (answer, memory) := s.memory.perform op
  match s.postgres.perform op with
  | .ok (answer', postgres) => { memory, postgres, answers := s.answers ++ [(answer, .ok answer')] }
  | .error e => { memory, postgres := s.postgres, answers := s.answers ++ [(answer, .error e)] }

def repositorySystem (P : Type) : System (Repositories P) (RepositoryOp P) :=
  ⟨fun s op => some (s.perform op)⟩

/-- Empty repositories, beside the tool calls that there are. -/
def Repositories.start (P : Type) (toolCalls : List (String × String)) : Repositories P :=
  { postgres := { toolCalls } }

/-! ## The law -/

/-- What was decided or saved is still there. -/
structure Durable (approvals approvals' : Dict String RunApprovalRecord)
    (checkpoints checkpoints' : Dict String (RunCheckpointRecord P)) : Prop where
  decided : ∀ approvalId a, approvals.get? approvalId = some a → a.status ≠ .pending →
    ∃ a', approvals'.get? approvalId = some a' ∧ a'.status = a.status
  saved : ∀ ref c, checkpoints.get? ref = some c → checkpoints'.get? ref = some c

/-- The checkpoint of the run with the greatest number, if the run has one. -/
def IsLatest (checkpoints : Dict String (RunCheckpointRecord P)) (runId : String)
    (latest : Option (RunCheckpointRecord P)) : Prop :=
  match latest with
  | some c => (∃ ref, checkpoints.get? ref = some c) ∧ c.runId = runId ∧
      ∀ ref c', checkpoints.get? ref = some c' → c'.runId = runId → c'.sequenceNo ≤ c.sequenceNo
  | none => ∀ ref c', checkpoints.get? ref = some c' → c'.runId ≠ runId

/-- `s'` was reached from `s`. -/
structure RepositoriesLaw (s s' : Repositories P) : Prop where
  sameAnswers : ∀ x ∈ s'.answers, x.2 = .ok x.1
  memoryDurable : Durable s.memory.approvals s'.memory.approvals s.memory.checkpoints
    s'.memory.checkpoints
  postgresDurable : Durable s.postgres.approvals s'.postgres.approvals s.postgres.checkpoints
    s'.postgres.checkpoints
  memoryLatest : ∀ runId, IsLatest s'.memory.checkpoints runId (s'.memory.getLatestCheckpoint runId)
  postgresLatest : ∀ runId,
    IsLatest s'.postgres.checkpoints runId (s'.postgres.getLatestCheckpoint runId)

/-! ## The operations on which the two agree -/

/-- A run keeps its workspace; an approval names it unless no run has it, satisfies the constraints
and keeps its content; a tool call has one approval; a decision clears neither the reason nor the
evidence; checkpoints come in order, for a run that is there, and are not changed; a new claim has a
new identifier, a run, and no result. -/
def Agreeable (s : Repositories P) : RepositoryOp P → Prop
  | .createRun run =>
    run.workspaceId.isSome ∧
      ∀ old ∈ s.memory.runs.get? run.runId, old.workspaceId = run.workspaceId
  | .createApproval approval =>
    RunRepository.approvalWorkspace s.memory.runs approval = approval.workspaceId ∧
      approval.BindingOk ∧
      match s.memory.approvals.get? approval.approvalId with
      | some old => old = approval
      | none => approval.decisionVersion = 0 ∧
          (¬∃ e ∈ s.memory.approvals.values, e.Conflicts approval) ∧
          approval.RunKnown s.memory.runs ∧ approval.ToolCallKnown s.postgres.toolCalls
  | .getApprovalByToolCall toolCallId _ =>
    (PostgresRepository.toolCallRows s.memory.approvals toolCallId).length ≤ 1
  | .decideApproval approvalId _ _ reason evidence =>
    ∀ a ∈ s.memory.approvals.get? approvalId, a.status = .pending →
      (reason = some "" → a.reason = some "") ∧
        ∀ e ∈ evidence, truthy e = false → a.evidence = some e
  | .saveCheckpoint checkpoint =>
    match s.memory.checkpoints.get? checkpoint.checkpointRef with
    | some old => old = checkpoint
    | none => (s.memory.runs.get? checkpoint.runId).isSome ∧
        ∀ c ∈ s.memory.checkpoints.values, c.runId = checkpoint.runId →
          c.sequenceNo < checkpoint.sequenceNo
  | .claimIdempotency claim =>
    (s.memory.idempotencyIndex.get? claim.key).isSome ∨
      s.memory.idempotencyClaims.get? claim.claimId = none ∧
        (s.memory.runs.get? claim.runId).isSome ∧ claim.resultHash = none ∧
        claim.resultPayload = none ∧ claim.errorMessage = none
  | _ => True

instance [DecidableEq P] (s : Repositories P) : DecidablePred (Agreeable s) := fun op => by
  cases op <;> unfold Agreeable <;> dsimp only
  case createApproval approval =>
    cases s.memory.approvals.get? approval.approvalId <;> infer_instance
  case saveCheckpoint checkpoint =>
    cases s.memory.checkpoints.get? checkpoint.checkpointRef <;> infer_instance
  all_goals infer_instance

/-! ## The two states compared -/

structure Agree (repo : RunRepository P) (db : PostgresRepository P) : Prop where
  runs : ∀ runId, (repo.runs.get? runId).map (·.workspaceId) =
    (db.runs.get? runId).map (·.workspaceId)
  approvals : repo.approvals = db.approvals
  checkpoints : repo.checkpoints = db.checkpoints
  claims : repo.idempotencyClaims = db.idempotencyClaims
  index : ∀ key claimId, repo.idempotencyIndex.get? key = some claimId ↔
    ∃ c, repo.idempotencyClaims.get? claimId = some c ∧ c.key = key
  refs : ∀ runId, (repo.runCheckpoints.get? runId).getD [] =
    (repo.checkpoints.items.filter fun item => item.2.runId = runId).map Prod.fst
  increasing : ∀ runId, (repo.checkpoints.items.filter fun item => item.2.runId = runId).Pairwise
    fun a b => a.2.sequenceNo < b.2.sequenceNo

/-- What an operation does on both, when the two agree: `a` is the answer of each. -/
structure SameStep {A : Type} (repo : RunRepository P) (x : A × RunRepository P)
    (y : A × PostgresRepository P) : Prop where
  answer : x.1 = y.1
  agree : Agree x.2 y.2
  durable : Durable repo.approvals x.2.approvals repo.checkpoints x.2.checkpoints

variable {repo : RunRepository P} {db : PostgresRepository P}

theorem Durable.refl (approvals : Dict String RunApprovalRecord)
    (checkpoints : Dict String (RunCheckpointRecord P)) :
    Durable approvals approvals checkpoints checkpoints where
  decided _ a ha _ := ⟨a, ha, rfl⟩
  saved _ _ hc := hc

theorem Durable.trans {approvals₁ approvals₂ approvals₃ : Dict String RunApprovalRecord}
    {checkpoints₁ checkpoints₂ checkpoints₃ : Dict String (RunCheckpointRecord P)}
    (h : Durable approvals₁ approvals₂ checkpoints₁ checkpoints₂)
    (h' : Durable approvals₂ approvals₃ checkpoints₂ checkpoints₃) :
    Durable approvals₁ approvals₃ checkpoints₁ checkpoints₃ where
  decided approvalId a ha hdecided := by
    obtain ⟨b, hb, hab⟩ := h.decided approvalId a ha hdecided
    obtain ⟨c, hc, hbc⟩ := h'.decided approvalId b hb (hab ▸ hdecided)
    exact ⟨c, hc, hbc.trans hab⟩
  saved ref c hc := h'.saved ref c (h.saved ref c hc)

theorem isSome_runs (h : Agree repo db) (runId : String) :
    (db.runs.get? runId).isSome = (repo.runs.get? runId).isSome := by
  rw [← Option.isSome_map, ← h.runs, Option.isSome_map]

theorem approvalWorkspace_eq (h : Agree repo db) (approval : RunApprovalRecord) :
    RunRepository.approvalWorkspace db.runs approval =
      RunRepository.approvalWorkspace repo.runs approval := by
  have hbind : ∀ runs : Dict String (RunRecord P), (approval.runId.bind runs.get?).bind
      (·.workspaceId) = approval.runId.bind fun runId => ((runs.get? runId).map
        (·.workspaceId)).join := by
    intro runs
    cases approval.runId with
    | none => rfl
    | some runId =>
      show (runs.get? runId).bind _ = ((runs.get? runId).map _).join
      cases runs.get? runId <;> rfl
  simp only [RunRepository.approvalWorkspace, hbind, h.runs]

/-! ### Runs and approvals -/

theorem Agree.createRun (h : Agree repo db) (run : RunRecord P) (hworkspace : run.workspaceId.isSome)
    (hsame : ∀ old ∈ repo.runs.get? run.runId, old.workspaceId = run.workspaceId) :
    ∃ y, db.createRun run = .ok y ∧ SameStep repo (repo.createRun run) y := by
  have hnone : run.workspaceId ≠ none := Option.isSome_iff_ne_none.mp hworkspace
  refine ⟨_, if_neg hnone, rfl, ⟨fun runId => ?_, h.approvals, h.checkpoints, h.claims, h.index,
    h.refs, h.increasing⟩, .refl _ _⟩
  simp only [RunRepository.createRun, Dict.get?_set]
  split_ifs with hid
  · subst hid
    cases hold : db.runs.get? run.runId with
    | none => rfl
    | some =>
      have hruns := h.runs run.runId
      rw [hold] at hruns
      obtain ⟨old', hold', heq⟩ := Option.map_eq_some_iff.mp hruns
      have hws := hsame old' hold'
      simp only [Option.map_some, Option.some.injEq]
      exact (heq.symm.trans hws).symm
  · exact h.runs runId

theorem Agree.createApproval (h : Agree repo db) {approval : RunApprovalRecord}
    (hworkspace : RunRepository.approvalWorkspace repo.runs approval = approval.workspaceId)
    (hbinding : approval.BindingOk)
    (hnew : match repo.approvals.get? approval.approvalId with
      | some old => old = approval
      | none => approval.decisionVersion = 0 ∧
          (¬∃ e ∈ repo.approvals.values, e.Conflicts approval) ∧
          approval.RunKnown repo.runs ∧ approval.ToolCallKnown db.toolCalls) :
    ∃ y, db.createApproval approval = .ok y ∧ SameStep repo (repo.createApproval approval) y := by
  have hrecord : { approval with workspaceId := RunRepository.approvalWorkspace repo.runs approval } =
      approval := by rw [hworkspace]
  have hmemory : repo.createApproval approval = (approval, { repo with
      approvals := repo.approvals.set approval.approvalId approval }) := by
    rw [RunRepository.createApproval, hrecord]
  rw [hmemory]
  cases hget : repo.approvals.get? approval.approvalId with
  | some old =>
    rw [hget] at hnew
    obtain rfl : old = approval := hnew
    rw [Dict.set_eq_self hget]
    refine ⟨(old, db), ?_, rfl, h, .refl _ _⟩
    have hthere : (db.approvals.get? old.approvalId).isSome := by rw [← h.approvals, hget]; rfl
    rw [PostgresRepository.createApproval, approvalWorkspace_eq h, hworkspace]
    simp only [show ({ old with workspaceId := old.workspaceId, decisionVersion := 0 } :
      RunApprovalRecord).BindingOk from hbinding, hthere, not_true_eq_false, if_false, if_true]
  | none =>
    rw [hget] at hnew
    obtain ⟨hversion, hconflict, hrun, htool⟩ := hnew
    have hrow : ({ approval with workspaceId := approval.workspaceId, decisionVersion := 0 } :
        RunApprovalRecord) = approval := by rw [← hversion]
    have hrun' : approval.RunKnown db.runs := fun runId hid => by
      rw [isSome_runs h]; exact hrun runId hid
    have hfree : ¬(db.approvals.get? approval.approvalId).isSome := by
      rw [← h.approvals, hget]; exact Bool.false_ne_true
    refine ⟨(approval, { db with approvals := db.approvals.set approval.approvalId approval }), ?_,
      rfl, ⟨h.runs, by rw [h.approvals], h.checkpoints, h.claims, h.index, h.refs, h.increasing⟩,
      ⟨fun id a ha hdecided => ⟨a, ?_, rfl⟩, fun _ _ hc => hc⟩⟩
    · rw [PostgresRepository.createApproval, approvalWorkspace_eq h, hworkspace, hrow]
      rw [h.approvals] at hconflict
      simp only [hbinding, hfree, hconflict, hrun', htool, not_true_eq_false, if_false,
        Bool.false_eq_true]
    · show (repo.approvals.set _ _).get? id = _
      rw [Dict.get?_set_of_ne _ (fun heq => ?_), ha]
      rw [← heq, hget] at ha
      nomatch ha

theorem Agree.getApprovalByToolCall (h : Agree repo db) {toolCallId : String}
    (hone : (PostgresRepository.toolCallRows repo.approvals toolCallId).length ≤ 1) (scan : ℕ) :
    repo.getApprovalByToolCall toolCallId = db.getApprovalByToolCall toolCallId scan := by
  rw [RunRepository.getApprovalByToolCall, PostgresRepository.getApprovalByToolCall,
    ← List.head?_filter, ← h.approvals]
  change (PostgresRepository.toolCallRows repo.approvals toolCallId).head? = _
  match hrows : PostgresRepository.toolCallRows repo.approvals toolCallId with
  | [] => rfl
  | [a] => simp [Nat.mod_one]
  | _ :: _ :: _ => rw [hrows] at hone; simp at hone

theorem Agree.decideApproval (h : Agree repo db) {approvalId : String} (reviewer : String)
    (approved : Bool) {reason : Option String} {evidence : Option Evidence}
    (hkeeps : ∀ a ∈ repo.approvals.get? approvalId, a.status = .pending →
      (reason = some "" → a.reason = some "") ∧
        ∀ e ∈ evidence, truthy e = false → a.evidence = some e) :
    SameStep repo (repo.decideApproval approvalId reviewer approved reason evidence)
      (db.decideApproval approvalId reviewer approved reason evidence) := by
  by_cases hpending : ∃ a ∈ repo.approvals.get? approvalId, a.status = .pending
  · obtain ⟨a, hget, hpending⟩ := hpending
    have hget' : db.approvals.get? approvalId = some a := h.approvals ▸ hget
    rw [RunRepository.decideApproval_of_pending hget hpending,
      PostgresRepository.decideApproval_of_pending hget' hpending]
    obtain ⟨hreason, hevidence⟩ := hkeeps a hget hpending
    have hr : (if truthy reason then reason else a.reason) = reason.or a.reason := by
      cases reason with
      | none => rfl
      | some r =>
        by_cases hr : r = ""
        · subst hr
          exact hreason rfl
        · exact if_pos (decide_eq_true hr)
    have he : (if truthy evidence then evidence else a.evidence) = evidence.or a.evidence := by
      cases evidence with
      | none => rfl
      | some e =>
        show (if truthy e then some e else a.evidence) = some e
        split_ifs with ht
        · rfl
        · exact hevidence e rfl (Bool.eq_false_iff.mpr ht)
    rw [hr, he]
    refine ⟨rfl, ⟨h.runs, by rw [h.approvals], h.checkpoints, h.claims, h.index, h.refs,
      h.increasing⟩, ⟨fun id b hb hdecided => ⟨b, ?_, rfl⟩, fun _ _ hc => hc⟩⟩
    show (repo.approvals.set approvalId _).get? id = some b
    rw [Dict.get?_set_of_ne _ (fun heq => ?_), hb]
    subst heq
    cases hget.symm.trans hb
    exact hdecided hpending
  · have hdecided : ∀ a ∈ repo.approvals.get? approvalId, a.status ≠ .pending :=
      fun a ha heq => hpending ⟨a, ha, heq⟩
    rw [RunRepository.decideApproval_of_not_pending hdecided,
      PostgresRepository.decideApproval_of_not_pending (h.approvals ▸ hdecided)]
    exact ⟨rfl, h, .refl _ _⟩

/-! ### Checkpoints -/

theorem newest_of_pairwise {A : Type} {f : A → ℤ} {l : List A}
    (h : l.Pairwise fun a b => f a < f b) : newest f l = l.getLast? := by
  induction l using List.reverseRecOn with
  | nil => rfl
  | append_singleton l a ih =>
    obtain ⟨hl, -, hlt⟩ := List.pairwise_append.mp h
    rw [newest_concat, ih hl, List.getLast?_concat]
    cases hlast : l.getLast? with
    | none => rfl
    | some b => exact if_pos (hlt b (List.mem_of_getLast? hlast) a List.mem_cons_self)

theorem checkpointRows_eq (checkpoints : Dict String (RunCheckpointRecord P)) (runId : String) :
    PostgresRepository.checkpointRows checkpoints runId =
      (checkpoints.items.filter fun item => item.2.runId = runId).map Prod.snd :=
  List.filter_map

theorem Agree.getLatestCheckpoint (h : Agree repo db) (runId : String) :
    repo.getLatestCheckpoint runId = db.getLatestCheckpoint runId := by
  rw [PostgresRepository.getLatestCheckpoint, ← h.checkpoints, checkpointRows_eq,
    newest_of_pairwise (List.pairwise_map.mpr (h.increasing runId)),
    RunRepository.getLatestCheckpoint, h.refs, List.getLast?_map, List.getLast?_map]
  cases hlast : (repo.checkpoints.items.filter fun item => item.2.runId = runId).getLast? with
  | none => rfl
  | some =>
    have hmem := (List.mem_filter.mp (List.mem_of_getLast? hlast)).1
    exact Dict.get?_eq_some.mpr hmem

theorem isLatest_getLatestCheckpoint (db : PostgresRepository P) (runId : String) :
    IsLatest db.checkpoints runId (db.getLatestCheckpoint runId) := by
  have hmem : ∀ c, c ∈ PostgresRepository.checkpointRows db.checkpoints runId ↔
      (∃ ref, db.checkpoints.get? ref = some c) ∧ c.runId = runId := by
    intro c
    rw [PostgresRepository.checkpointRows, List.mem_filter, Dict.mem_values, decide_eq_true_iff]
  unfold IsLatest
  split
  · rename_i c hlatest
    obtain ⟨hthere, hrun⟩ := (hmem c).mp (mem_of_newest hlatest)
    refine ⟨hthere, hrun, fun ref c' hc' hrun' => ?_⟩
    exact le_of_newest ((hmem c').mpr ⟨⟨ref, hc'⟩, hrun'⟩) hlatest
  · rename_i hnone
    intro ref c' hc' hrun'
    have hrows := (hmem c').mpr ⟨⟨ref, hc'⟩, hrun'⟩
    rw [newest_eq_none.mp hnone] at hrows
    nomatch hrows

theorem Agree.saveCheckpoint (h : Agree repo db) {checkpoint : RunCheckpointRecord P}
    (hnew : match repo.checkpoints.get? checkpoint.checkpointRef with
      | some old => old = checkpoint
      | none => (repo.runs.get? checkpoint.runId).isSome ∧
          ∀ c ∈ repo.checkpoints.values, c.runId = checkpoint.runId →
            c.sequenceNo < checkpoint.sequenceNo) :
    ∃ y, db.saveCheckpoint checkpoint = .ok y ∧ SameStep repo (repo.saveCheckpoint checkpoint) y := by
  have hrefs := h.refs checkpoint.runId
  cases hget : repo.checkpoints.get? checkpoint.checkpointRef with
  | some old =>
    rw [hget] at hnew
    obtain rfl : old = checkpoint := hnew
    have hthere : (db.checkpoints.get? old.checkpointRef).isSome := by
      rw [← h.checkpoints, hget]; rfl
    have hlisted : old.checkpointRef ∈ (repo.runCheckpoints.get? old.runId).getD [] := by
      rw [hrefs]
      exact List.mem_map.mpr ⟨(old.checkpointRef, old),
        List.mem_filter.mpr ⟨Dict.get?_eq_some.mp hget, decide_eq_true rfl⟩, rfl⟩
    refine ⟨(old, db), if_pos hthere, rfl, ?_, ?_⟩
    · refine ⟨h.runs, h.approvals, ?_, h.claims, h.index, fun runId => ?_, ?_⟩
      · exact (Dict.set_eq_self hget).trans h.checkpoints
      · simp only [RunRepository.saveCheckpoint, Dict.set_eq_self hget, if_pos hlisted,
          Dict.get?_set]
        split_ifs with hid
        · exact hid ▸ hrefs
        · exact h.refs runId
      · simp only [RunRepository.saveCheckpoint, Dict.set_eq_self hget]
        exact h.increasing
    · simp only [RunRepository.saveCheckpoint, Dict.set_eq_self hget]
      exact .refl _ _
  | none =>
    rw [hget] at hnew
    obtain ⟨hrun, hgreater⟩ := hnew
    have hitems := Dict.items_set_of_get?_eq_none hget checkpoint
    have hunlisted : checkpoint.checkpointRef ∉
        (repo.runCheckpoints.get? checkpoint.runId).getD [] := by
      rw [hrefs]
      intro hmem
      obtain ⟨⟨ref, c⟩, hitem, rfl⟩ := List.mem_map.mp hmem
      have hc := Dict.get?_eq_some.mpr (List.mem_filter.mp hitem).1
      rw [hget] at hc
      nomatch hc
    refine ⟨(checkpoint, { db with
      checkpoints := db.checkpoints.set checkpoint.checkpointRef checkpoint }), ?_, rfl, ?_, ?_⟩
    · have hfree : ¬(db.checkpoints.get? checkpoint.checkpointRef).isSome := by
        rw [← h.checkpoints, hget]; exact Bool.false_ne_true
      have hseq : ¬∃ c ∈ db.checkpoints.values,
          c.runId = checkpoint.runId ∧ c.sequenceNo = checkpoint.sequenceNo := by
        rintro ⟨c, hc, hsame, heq⟩
        have hlt := hgreater c (h.checkpoints ▸ hc) hsame
        omega
      have hrun' : db.runs.get? checkpoint.runId ≠ none := by
        rw [← Option.isSome_iff_ne_none, isSome_runs h]; exact hrun
      exact (if_neg hfree).trans ((if_neg hseq).trans (if_neg hrun'))
    · refine ⟨h.runs, h.approvals, ?_, h.claims, h.index, fun runId => ?_, fun runId => ?_⟩
      · show repo.checkpoints.set _ _ = db.checkpoints.set _ _
        rw [h.checkpoints]
      · simp only [RunRepository.saveCheckpoint, if_neg hunlisted, Dict.get?_set, hitems,
          List.filter_append, List.map_append]
        split_ifs with hid
        · subst hid
          simp [hrefs]
        · simp [hid, h.refs runId]
      · simp only [RunRepository.saveCheckpoint, hitems, List.filter_append]
        refine List.pairwise_append.mpr ⟨h.increasing runId, ?_, fun a ha b hb => ?_⟩
        · exact (List.pairwise_singleton _ _).sublist List.filter_sublist
        · obtain ⟨hb, hid⟩ := List.mem_filter.mp hb
          obtain rfl := List.mem_singleton.mp hb
          obtain ⟨ha, hid'⟩ := List.mem_filter.mp ha
          exact hgreater a.2 (List.mem_map.mpr ⟨a, ha, rfl⟩)
            ((of_decide_eq_true hid').trans (of_decide_eq_true hid).symm)
    · refine ⟨fun id a ha _ => ⟨a, ha, rfl⟩, fun ref c hc => ?_⟩
      show (repo.checkpoints.set _ _).get? ref = some c
      rw [Dict.get?_set_of_ne _ (fun heq => ?_), hc]
      rw [← heq, hget] at hc
      nomatch hc

/-! ### Idempotency claims -/

theorem Agree.claimIdempotency (h : Agree repo db) {claim : IdempotencyClaimRecord P}
    (hnew : (repo.idempotencyIndex.get? claim.key).isSome ∨
      repo.idempotencyClaims.get? claim.claimId = none ∧ (repo.runs.get? claim.runId).isSome ∧
        claim.resultHash = none ∧ claim.resultPayload = none ∧ claim.errorMessage = none) :
    ∃ y, db.claimIdempotency claim = .ok y ∧ SameStep repo (repo.claimIdempotency claim) y := by
  cases hindex : repo.idempotencyIndex.get? claim.key with
  | some claimId =>
    obtain ⟨c, hc, hkey⟩ := (h.index claim.key claimId).mp hindex
    rw [RunRepository.claimIdempotency_of_index hindex hc]
    have hfind : db.idempotencyClaims.values.find? (fun c => c.key = claim.key) = some c := by
      cases hfound : db.idempotencyClaims.values.find? (fun c => c.key = claim.key) with
      | none =>
        have hnot := List.find?_eq_none.mp hfound c
          (Dict.mem_values.mpr ⟨claimId, h.claims ▸ hc⟩)
        exact absurd (decide_eq_true hkey) hnot
      | some c' =>
        -- the index has one claim for the key
        obtain ⟨claimId', hc'⟩ := Dict.mem_values.mp (List.mem_of_find?_eq_some hfound)
        rw [← h.claims] at hc'
        have hkey' : c'.key = claim.key := by simpa using List.find?_some hfound
        have hindex' := (h.index claim.key claimId').mpr ⟨c', hc', hkey'⟩
        cases hindex.symm.trans hindex'
        exact congrArg some (Option.some.inj (hc'.symm.trans hc))
    refine ⟨((false, c), db), ?_, rfl, h, .refl _ _⟩
    rw [PostgresRepository.claimIdempotency, hfind]
  | none =>
    obtain hsome | ⟨hfree, hrun, hhash, hpayload, herror⟩ := hnew
    · rw [hindex] at hsome
      nomatch hsome
    obtain ⟨hwon, hstored⟩ := RunRepository.claimStored_of_free hindex
    have hfind : db.idempotencyClaims.values.find? (fun c => c.key = claim.key) = none := by
      rw [List.find?_eq_none]
      intro c hc hkey
      obtain ⟨claimId, hget⟩ := Dict.mem_values.mp hc
      have hindex' := (h.index claim.key claimId).mpr ⟨c, h.claims ▸ hget, of_decide_eq_true hkey⟩
      rw [hindex] at hindex'
      nomatch hindex'
    have hfree' : ¬(db.idempotencyClaims.get? claim.claimId).isSome := by
      rw [← h.claims, hfree]; exact Bool.false_ne_true
    have hrun' : db.runs.get? claim.runId ≠ none := by
      rw [← Option.isSome_iff_ne_none, isSome_runs h]; exact hrun
    have hrow : ({ claim with resultHash := none, resultPayload := none, errorMessage := none } :
        IdempotencyClaimRecord P) = claim := by
      cases claim
      cases hhash; cases hpayload; cases herror
      rfl
    refine ⟨((true, claim), { db with
      idempotencyClaims := db.idempotencyClaims.set claim.claimId claim }), ?_, hwon, ?_, ?_⟩
    · rw [PostgresRepository.claimIdempotency, hfind]
      show (if _ then _ else if _ then _ else _) = _
      rw [if_neg hfree', if_neg hrun', hrow]
    · refine ⟨hstored.runs ▸ h.runs, hstored.approvals.trans h.approvals,
        hstored.checkpoints.trans h.checkpoints, by rw [hstored.claims, h.claims],
        fun key claimId => ?_, ?_, ?_⟩
      · rw [hstored.index, hstored.claims, Dict.get?_set, Dict.get?_set]
        split_ifs with hkey hid hid
        · simp [hid, hkey]
        · subst hkey
          constructor
          · exact fun heq => absurd (Option.some.inj heq) hid
          · intro hc
            rw [← h.index, hindex] at hc
            nomatch hc
        · subst hid
          constructor
          · intro hkey'
            obtain ⟨c, hc, -⟩ := (h.index key claim.claimId).mp hkey'
            rw [hfree] at hc
            nomatch hc
          · rintro ⟨c, hc, hkey'⟩
            exact absurd (Option.some.inj hc ▸ hkey') hkey
        · exact h.index key claimId
      · rw [hstored.runCheckpoints, hstored.checkpoints]
        exact h.refs
      · rw [hstored.checkpoints]
        exact h.increasing
    · rw [hstored.approvals, hstored.checkpoints]
      exact .refl _ _

theorem Agree.setClaim (h : Agree repo db) {claimId : String} {c c' : IdempotencyClaimRecord P}
    (hc : repo.idempotencyClaims.get? claimId = some c) (hkey : c'.key = c.key) :
    SameStep repo (some c', repo.setClaim claimId c')
      (some c', { db with idempotencyClaims := db.idempotencyClaims.set claimId c' }) where
  answer := rfl
  agree := by
    refine ⟨h.runs, h.approvals, h.checkpoints, ?_, fun key id => ?_, h.refs, h.increasing⟩
    · show repo.idempotencyClaims.set claimId c' = db.idempotencyClaims.set claimId c'
      rw [h.claims]
    · show repo.idempotencyIndex.get? key = some id ↔
        ∃ d, (repo.idempotencyClaims.set claimId c').get? id = some d ∧ d.key = key
      rw [h.index, Dict.get?_set]
      split_ifs with hid
      · subst hid
        rw [hc]
        simp [hkey]
      · exact Iff.rfl
  durable := .refl _ _

theorem Agree.updateClaim (h : Agree repo db) {claimId : String} {p : IdempotencyClaimRecord P → Bool}
    {set : IdempotencyClaimRecord P → IdempotencyClaimRecord P} (hkey : ∀ c, (set c).key = c.key)
    {x : Option (IdempotencyClaimRecord P) × RunRepository P}
    (hx : x = match repo.getClaim claimId with
      | some c => if p c then (some (set c), repo.setClaim claimId (set c)) else (none, repo)
      | none => (none, repo)) :
    SameStep repo x (db.updateClaim claimId p set) := by
  rw [hx, PostgresRepository.updateClaim, RunRepository.getClaim, ← h.claims]
  cases hc : repo.idempotencyClaims.get? claimId with
  | none => exact ⟨rfl, h, .refl _ _⟩
  | some c =>
    show SameStep repo (if p c then _ else _) (if p c then _ else _)
    split_ifs
    · rw [h.claims]
      exact h.setClaim hc (hkey c)
    · exact ⟨rfl, h, .refl _ _⟩

theorem Agree.completeIdempotencyClaim (h : Agree repo db) (claimId : String) (resultPayload : P)
    (resultHash : String) :
    SameStep repo (repo.completeIdempotencyClaim claimId resultPayload resultHash)
      (db.completeIdempotencyClaim claimId resultPayload resultHash) := by
  rw [PostgresRepository.completeIdempotencyClaim]
  refine Agree.updateClaim h ?_ ?_
  · exact fun _ => rfl
  rw [RunRepository.completeIdempotencyClaim]
  cases repo.getClaim claimId <;> rfl

theorem Agree.failIdempotencyClaim (h : Agree repo db) (claimId errorMessage : String) :
    SameStep repo (repo.failIdempotencyClaim claimId errorMessage)
      (db.failIdempotencyClaim claimId errorMessage) := by
  rw [PostgresRepository.failIdempotencyClaim]
  refine Agree.updateClaim h ?_ ?_
  · exact fun _ => rfl
  rw [RunRepository.failIdempotencyClaim]
  cases repo.getClaim claimId <;> rfl

theorem Agree.retryIdempotencyClaim (h : Agree repo db) (claimId : String) :
    SameStep repo (repo.retryIdempotencyClaim claimId) (db.retryIdempotencyClaim claimId) := by
  rw [PostgresRepository.retryIdempotencyClaim]
  refine Agree.updateClaim h ?_ ?_
  · exact fun _ => rfl
  rw [RunRepository.retryIdempotencyClaim]
  cases repo.getClaim claimId with
  | none => rfl
  | some c =>
    show (if c.status ≠ .failed then _ else _) = if decide (c.status = .failed) then _ else _
    by_cases hfailed : c.status = .failed <;> simp [hfailed]

/-! ## Runs -/

theorem SameStep.answering {A B : Type} {x : A × RunRepository P} {y : A × PostgresRepository P}
    (h : SameStep repo x y) (f : A → B) : SameStep repo (answering f x) (answering f y) :=
  ⟨congrArg f h.answer, h.agree, h.durable⟩

section

variable {s s' : Repositories P}

theorem Agree.perform {op : RepositoryOp P} (h : Agree s.memory s.postgres) (hop : Agreeable s op) :
    ∃ y, s.postgres.perform op = .ok y ∧ SameStep s.memory (s.memory.perform op) y := by
  have hmap : ∀ {A : Type} (f : A → RepositoryAnswer P)
      {r : Except IntegrityError (A × PostgresRepository P)} {x : A × RunRepository P},
      (∃ y, r = .ok y ∧ SameStep s.memory x y) →
        ∃ y, r.map (answering f) = .ok y ∧ SameStep s.memory (Runs.answering f x) y := by
    rintro A f r x ⟨y, rfl, hy⟩
    exact ⟨_, rfl, hy.answering f⟩
  cases op with
  | createRun run => exact hmap _ (h.createRun run hop.1 hop.2)
  | createApproval => exact hmap _ (h.createApproval hop.1 hop.2.1 hop.2.2)
  | getApprovalByToolCall _ scan =>
    exact ⟨_, rfl, congrArg _ (h.getApprovalByToolCall hop scan), h, .refl _ _⟩
  | decideApproval _ reviewer approved =>
    exact ⟨_, rfl, (h.decideApproval reviewer approved hop).answering _⟩
  | saveCheckpoint => exact hmap _ (h.saveCheckpoint hop)
  | getLatestCheckpoint runId =>
    exact ⟨_, rfl, congrArg _ (h.getLatestCheckpoint runId), h, .refl _ _⟩
  | claimIdempotency => exact hmap _ (h.claimIdempotency hop)
  | completeIdempotencyClaim claimId resultPayload resultHash =>
    exact ⟨_, rfl, (h.completeIdempotencyClaim claimId resultPayload resultHash).answering _⟩
  | failIdempotencyClaim claimId errorMessage =>
    exact ⟨_, rfl, (h.failIdempotencyClaim claimId errorMessage).answering _⟩
  | retryIdempotencyClaim claimId =>
    exact ⟨_, rfl, (h.retryIdempotencyClaim claimId).answering _⟩

/-- The repositories agree and have given the same answers. -/
structure Repositories.Same (s : Repositories P) : Prop where
  agree : Agree s.memory s.postgres
  sameAnswers : ∀ x ∈ s.answers, x.2 = .ok x.1

theorem Repositories.same_start (toolCalls : List (String × String)) :
    (Repositories.start P toolCalls).Same where
  agree := {
    runs := fun _ => rfl
    approvals := rfl
    checkpoints := rfl
    claims := rfl
    index := fun _ _ => ⟨nofun, fun ⟨_, hc, _⟩ => nomatch hc⟩
    refs := fun _ => rfl
    increasing := fun _ => List.Pairwise.nil }
  sameAnswers _ h := nomatch h

theorem Repositories.Same.perform {op : RepositoryOp P} (h : s.Same) (hop : Agreeable s op) :
    (s.perform op).Same ∧ Durable s.memory.approvals (s.perform op).memory.approvals
      s.memory.checkpoints (s.perform op).memory.checkpoints := by
  obtain ⟨y, hy, hstep⟩ := h.agree.perform hop
  have heq : s.perform op = {
      memory := (s.memory.perform op).2, postgres := y.2
      answers := s.answers ++ [((s.memory.perform op).1, .ok y.1)] } := by
    rw [Repositories.perform, hy]
  rw [heq]
  refine ⟨⟨hstep.agree, fun x hx => ?_⟩, hstep.durable⟩
  rcases mem_concat hx with hx | hx
  · exact h.sameAnswers x hx
  · rw [hx]
    exact congrArg _ hstep.answer.symm

/-- Along agreeable operations the two repositories are one store, which keeps what was decided and
saved. -/
theorem repositoriesLaw_of_run (toolCalls : List (String × String)) (ops ops' : List (RepositoryOp P))
    (hagree : (repositorySystem P).Along Agreeable (.start P toolCalls) (ops ++ ops'))
    (hrun : (repositorySystem P).run (.start P toolCalls) ops = some s)
    (hrun' : (repositorySystem P).run s ops' = some s') : RepositoriesLaw s s' := by
  obtain ⟨hbefore, hafter⟩ := ((repositorySystem P).along_append hrun).mp hagree
  have hstep : ∀ (s : Repositories P) op s', s.Same → Agreeable s op →
      (repositorySystem P).next s op = some s' → s'.Same ∧
        Durable s.memory.approvals s'.memory.approvals s.memory.checkpoints
          s'.memory.checkpoints := by
    intro s op s' h hop hs
    cases hs
    exact h.perform hop
  have hs : s.Same := (repositorySystem P).inv_of_along
    (fun s op s' h hop hs => (hstep s op s' h hop hs).1) (Repositories.same_start toolCalls)
    hbefore hrun
  have hs' : s'.Same := (repositorySystem P).inv_of_along
    (fun s op s' h hop hs => (hstep s op s' h hop hs).1) hs hafter hrun'
  have hdurable := (repositorySystem P).rel_of_along
    (R := fun s s' => Durable s.memory.approvals s'.memory.approvals s.memory.checkpoints
      s'.memory.checkpoints) (fun _ => .refl _ _) (fun _ _ _ => Durable.trans) hstep hs hafter hrun'
  refine ⟨hs'.sameAnswers, hdurable, ?_, fun runId => ?_,
    fun runId => isLatest_getLatestCheckpoint s'.postgres runId⟩
  · rw [← hs.agree.approvals, ← hs.agree.checkpoints, ← hs'.agree.approvals,
      ← hs'.agree.checkpoints]
    exact hdurable
  · rw [hs'.agree.getLatestCheckpoint, hs'.agree.checkpoints]
    exact isLatest_getLatestCheckpoint s'.postgres runId

end

/-! ## An approval created once more -/

def mailRun : RunRecord Unit := { runId := "run_1", workspaceId := some "ws" }

def mailApproval : RunApprovalRecord where
  approvalId := "appr_run_1_call_1"
  workspaceId := some "ws"
  runId := some "run_1"
  toolCallId := some "call_1"
  checkpointRef := some "ckpt_1"

/-- A run whose approval is decided. -/
def decidedOps : List (RepositoryOp Unit) :=
  [.createRun mailRun, .createApproval mailApproval,
    .decideApproval "appr_run_1_call_1" "founder" true (some "ok") none]

/-- The first checkpoints of the run, and a claim. -/
def checkpointOps : List (RepositoryOp Unit) :=
  [.saveCheckpoint { checkpointRef := "ckpt_1", runId := "run_1", sequenceNo := 1
                     serializedState := () },
    .saveCheckpoint { checkpointRef := "ckpt_2", runId := "run_1", sequenceNo := 2
                      serializedState := () },
    .getLatestCheckpoint "run_1", .getApprovalByToolCall "call_1" 0,
    .claimIdempotency { claimId := "claim_1", capabilityId := "mail", scopeKey := "run_1"
                        idempotencyKey := "k", payloadHash := "h", runId := "run_1"
                        toolCallId := "call_1" },
    .completeIdempotencyClaim "claim_1" () "hash"]

theorem repositoriesLaw_decidedRun : RepositoriesLaw
    (((repositorySystem Unit).run (.start Unit [("run_1", "call_1")]) decidedOps).get
      (by decide +kernel))
    (((repositorySystem Unit).run
      (((repositorySystem Unit).run (.start Unit [("run_1", "call_1")]) decidedOps).get
        (by decide +kernel)) checkpointOps).get (by decide +kernel)) :=
  repositoriesLaw_of_run [("run_1", "call_1")] decidedOps checkpointOps (by decide +kernel)
    (Option.some_get _).symm (Option.some_get _).symm

/-- The request is repeated after the decision, and the approval is read. -/
def recreateOps : List (RepositoryOp Unit) :=
  [.createApproval mailApproval, .getApprovalByToolCall "call_1" 0]

/-- In memory the approval is pending again, in Postgres it is approved. -/
theorem not_repositoriesLaw_recreatedRun : ¬RepositoriesLaw
    (((repositorySystem Unit).run (.start Unit [("run_1", "call_1")]) decidedOps).get
      (by decide +kernel))
    (((repositorySystem Unit).run
      (((repositorySystem Unit).run (.start Unit [("run_1", "call_1")]) decidedOps).get
        (by decide +kernel)) recreateOps).get (by decide +kernel)) := by
  intro h
  have hsame := h.sameAnswers
  revert hsame
  decide +kernel

end JavisSaas.Agent.Runs
