import JavisSaas.Agent.Runs.Postgres

/-!
# Either run repository

A store that is one of the two implementations of `RunRepository`.

* `decideApproval_isSome`: a decision is written to a pending approval only.
* `writeStatus_iff`: the status writes that leave terminal runs alone.
-/

namespace JavisSaas.Agent.Runs

open JavisSaas.Lib

variable {P : Type}

inductive Backend (P : Type) where
  | memory (repo : RunRepository P)
  | postgres (db : PostgresRepository P)

namespace Backend

def runs : Backend P → Dict String (RunRecord P)
  | memory repo => repo.runs
  | postgres db => db.runs

def approvals : Backend P → Dict String RunApprovalRecord
  | memory repo => repo.approvals
  | postgres db => db.approvals

def checkpoints : Backend P → Dict String (RunCheckpointRecord P)
  | memory repo => repo.checkpoints
  | postgres db => db.checkpoints

/-- The repository outlives its process. -/
def isDurable : Backend P → Bool
  | memory _ => false
  | postgres _ => true

/-- The keys that the approvals of the repository may refer to. -/
def toolCalls : Backend P → List (String × String)
  | memory _ => []
  | postgres db => db.toolCalls

def getRun (b : Backend P) (runId : String) : Option (RunRecord P) := b.runs.get? runId

def getCheckpoint (b : Backend P) (checkpointRef : String) : Option (RunCheckpointRecord P) :=
  b.checkpoints.get? checkpointRef

def getLatestCheckpoint (b : Backend P) (runId : String) : Option (RunCheckpointRecord P) :=
  match b with
  | memory repo => repo.getLatestCheckpoint runId
  | postgres db => db.getLatestCheckpoint runId

def listCheckpoints (b : Backend P) (runId : String) : List (RunCheckpointRecord P) :=
  match b with
  | memory repo => repo.listCheckpoints runId
  | postgres db => db.listCheckpoints runId

def saveCheckpoint (b : Backend P) (checkpoint : RunCheckpointRecord P) :
    Except IntegrityError (Backend P) :=
  match b with
  | memory repo => .ok (memory (repo.saveCheckpoint checkpoint).2)
  | postgres db => (db.saveCheckpoint checkpoint).map fun x => postgres x.2

/-- `scan` is the row that Postgres meets first. -/
def getApprovalByToolCall (b : Backend P) (toolCallId : String) (scan : ℕ) :
    Option RunApprovalRecord :=
  match b with
  | memory repo => repo.getApprovalByToolCall toolCallId
  | postgres db => db.getApprovalByToolCall toolCallId scan

/-- An answer and the repository after it. -/
def onMemory {A : Type} (x : A × RunRepository P) : A × Backend P := (x.1, memory x.2)

def onPostgres {A : Type} (x : A × PostgresRepository P) : A × Backend P := (x.1, postgres x.2)

def updateRunStatus (b : Backend P) (runId : String) (status : RunStatus)
    (finalOutput : Option P) (errorDetails : Option ErrorDetails) :
    Option (RunRecord P) × Backend P :=
  match b with
  | memory repo => onMemory (repo.updateRunStatus runId status finalOutput errorDetails)
  | postgres db => onPostgres (db.updateRunStatus runId status finalOutput errorDetails)

def transitionRunStatus (b : Backend P) (runId : String) (fromStatuses : List RunStatus)
    (toStatus : RunStatus) (finalOutput : Option P)
    (errorDetails : Option ErrorDetails) : Option (RunRecord P) × Backend P :=
  match b with
  | memory repo =>
    onMemory (repo.transitionRunStatus runId fromStatuses toStatus finalOutput errorDetails)
  | postgres db =>
    onPostgres (db.transitionRunStatus runId fromStatuses toStatus finalOutput errorDetails)

def decideApproval (b : Backend P) (approvalId reviewer : String) (approved : Bool)
    (reason : Option String) (evidence : Option Evidence) :
    Option RunApprovalRecord × Backend P :=
  match b with
  | memory repo => onMemory (repo.decideApproval approvalId reviewer approved reason evidence)
  | postgres db => onPostgres (db.decideApproval approvalId reviewer approved reason evidence)

def insertApproval (b : Backend P) (approval : RunApprovalRecord) :
    Except IntegrityError (RunApprovalRecord × Backend P) :=
  match b with
  | memory repo => .ok (onMemory (repo.createApproval approval))
  | postgres db => (db.createApproval approval).map onPostgres

/-- In memory nothing refers to the keys of the tool calls. -/
def saveToolCall (b : Backend P) (runId toolCallId : String) : Except IntegrityError (Backend P) :=
  match b with
  | memory repo => .ok (memory repo)
  | postgres db => (db.saveToolCall runId toolCallId).map postgres

def claimIdempotency (b : Backend P) (claim : IdempotencyClaimRecord P) :
    Except IntegrityError ((Bool × IdempotencyClaimRecord P) × Backend P) :=
  match b with
  | memory repo => .ok (onMemory (repo.claimIdempotency claim))
  | postgres db => (db.claimIdempotency claim).map onPostgres

def completeIdempotencyClaim (b : Backend P) (claimId : String) (resultPayload : P)
    (resultHash : String) : Option (IdempotencyClaimRecord P) × Backend P :=
  match b with
  | memory repo => onMemory (repo.completeIdempotencyClaim claimId resultPayload resultHash)
  | postgres db => onPostgres (db.completeIdempotencyClaim claimId resultPayload resultHash)

def failIdempotencyClaim (b : Backend P) (claimId errorMessage : String) :
    Option (IdempotencyClaimRecord P) × Backend P :=
  match b with
  | memory repo => onMemory (repo.failIdempotencyClaim claimId errorMessage)
  | postgres db => onPostgres (db.failIdempotencyClaim claimId errorMessage)

def retryIdempotencyClaim (b : Backend P) (claimId : String) :
    Option (IdempotencyClaimRecord P) × Backend P :=
  match b with
  | memory repo => onMemory (repo.retryIdempotencyClaim claimId)
  | postgres db => onPostgres (db.retryIdempotencyClaim claimId)

/-- The claim of a key. -/
def claimOf (b : Backend P) (key : ClaimKey) : Option (IdempotencyClaimRecord P) :=
  match b with
  | memory repo => (repo.idempotencyIndex.get? key).bind repo.getClaim
  | postgres db => db.idempotencyClaims.values.find? fun c => c.key = key

/-- `createdAt` orders the rows of the table. -/
def listPendingApprovals (b : Backend P) (createdAt : String → ℤ) : List RunApprovalRecord :=
  match b with
  | memory repo => repo.listPendingApprovals
  | postgres db => db.listPendingApprovals createdAt

/-- An insertion that a constraint refuses writes nothing. -/
def createApproval (b : Backend P) (approval : RunApprovalRecord) : Backend P :=
  match b with
  | memory repo => memory (repo.createApproval approval).2
  | postgres db =>
    match db.createApproval approval with
    | .ok x => postgres x.2
    | .error _ => postgres db

def createRun (b : Backend P) (run : RunRecord P) : Backend P :=
  match b with
  | memory repo => memory (repo.createRun run).2
  | postgres db =>
    match db.createRun run with
    | .ok x => postgres x.2
    | .error _ => postgres db

/-! ## The tables after a method -/

section

variable (b : Backend P) (runId : String) (status : RunStatus) (fromStatuses : List RunStatus)
  (finalOutput : Option P) (errorDetails : Option ErrorDetails)

theorem runs_updateRunStatus :
    (b.updateRunStatus runId status finalOutput errorDetails).2.runs =
      (RunRepository.writeStatus b.runs runId (fun _ => true) status finalOutput errorDetails).2 := by
  cases b <;> rfl

theorem runs_transitionRunStatus :
    (b.transitionRunStatus runId fromStatuses status finalOutput errorDetails).2.runs =
      (RunRepository.writeStatus b.runs runId (· ∈ fromStatuses) status finalOutput
        errorDetails).2 := by
  cases b <;> rfl

theorem runs_createApproval (approval : RunApprovalRecord) :
    (b.createApproval approval).runs = b.runs := by
  cases b with
  | memory => rfl
  | postgres =>
    unfold createApproval PostgresRepository.createApproval
    dsimp only
    split_ifs <;> rfl

end

section

variable {b : Backend P} {approvalId reviewer : String} {approved : Bool}
  {reason : Option String} {evidence : Option Evidence}

theorem runs_decideApproval :
    (b.decideApproval approvalId reviewer approved reason evidence).2.runs = b.runs := by
  cases b with
  | memory repo =>
    show (repo.decideApproval _ _ _ _ _).2.runs = repo.runs
    unfold RunRepository.decideApproval
    cases repo.getApproval approvalId with
    | none => rfl
    | some => dsimp only; split_ifs <;> rfl
  | postgres db =>
    show (db.decideApproval _ _ _ _ _).2.runs = db.runs
    unfold PostgresRepository.decideApproval
    cases db.approvals.get? approvalId with
    | none => rfl
    | some => dsimp only; split_ifs <;> rfl

theorem decideApproval_isSome :
    (b.decideApproval approvalId reviewer approved reason evidence).1.isSome ↔
      ∃ a ∈ b.approvals.get? approvalId, a.status = .pending := by
  by_cases hpending : ∃ a ∈ b.approvals.get? approvalId, a.status = .pending
  · obtain ⟨a, ha, hstatus⟩ := hpending
    refine iff_of_true ?_ ⟨a, ha, hstatus⟩
    cases b with
    | memory repo =>
      show (repo.decideApproval _ _ _ _ _).1.isSome
      rw [RunRepository.decideApproval_of_pending ha hstatus]; rfl
    | postgres db =>
      show (db.decideApproval _ _ _ _ _).1.isSome
      rw [PostgresRepository.decideApproval_of_pending ha hstatus]; rfl
  · have hdecided : ∀ a ∈ b.approvals.get? approvalId, a.status ≠ .pending :=
      fun a ha hstatus => hpending ⟨a, ha, hstatus⟩
    refine iff_of_false ?_ hpending
    cases b with
    | memory repo =>
      show ¬(repo.decideApproval _ _ _ _ _).1.isSome
      rw [RunRepository.decideApproval_of_not_pending hdecided]; exact Bool.false_ne_true
    | postgres db =>
      show ¬(db.decideApproval _ _ _ _ _).1.isSome
      rw [PostgresRepository.decideApproval_of_not_pending hdecided]; exact Bool.false_ne_true

end

/-! ## Approvals -/

/-- An approval as it is stored. -/
def IsStored (approval row : RunApprovalRecord) : Prop :=
  ∃ workspaceId decisionVersion, row = { approval with workspaceId, decisionVersion }

/-- In memory an insertion replaces what is there, in Postgres it leaves it alone. -/
inductive ApprovalInserted (b : Backend P) (approval : RunApprovalRecord)
    (approvals : Dict String RunApprovalRecord) : Prop where
  | replaced (row : RunApprovalRecord) (hmemory : b.isDurable = false)
    (hrow : IsStored approval row) (h : approvals = b.approvals.set approval.approvalId row)
  | taken (hdurable : b.isDurable = true) (hthere : (b.approvals.get? approval.approvalId).isSome)
    (h : approvals = b.approvals)
  | inserted (row : RunApprovalRecord) (hdurable : b.isDurable = true)
    (hnew : b.approvals.get? approval.approvalId = none)
    (hknown : approval.ToolCallKnown b.toolCalls) (hrow : IsStored approval row)
    (h : approvals = b.approvals.set approval.approvalId row)

theorem approvalInserted_of_insertApproval {b b' : Backend P} {approval x : RunApprovalRecord}
    (h : b.insertApproval approval = .ok (x, b')) :
    ApprovalInserted b approval b'.approvals ∧ b'.isDurable = b.isDurable ∧
      b'.toolCalls = b.toolCalls := by
  cases b with
  | memory =>
    obtain ⟨-, rfl⟩ := Prod.mk.inj (Except.ok.inj h)
    exact ⟨.replaced _ rfl ⟨_, approval.decisionVersion, rfl⟩ rfl, rfl, rfl⟩
  | postgres db =>
    have h : (db.createApproval approval).map onPostgres = .ok (x, b') := h
    obtain ⟨y, hy, rfl⟩ : ∃ y, db.createApproval approval = .ok y ∧ b' = postgres y.2 := by
      cases hcreate : db.createApproval approval with
      | error => rw [hcreate] at h; nomatch h
      | ok y =>
        rw [hcreate] at h
        exact ⟨y, rfl, (Prod.mk.inj (Except.ok.inj h)).2.symm⟩
    unfold PostgresRepository.createApproval at hy
    dsimp only at hy
    split_ifs at hy with hbinding htaken hconflict hrun hcall
    · cases hy
      exact ⟨.taken rfl htaken rfl, rfl, rfl⟩
    · cases hy
      have hnew : db.approvals.get? approval.approvalId = none :=
        Option.not_isSome_iff_eq_none.mp htaken
      exact ⟨.inserted _ rfl hnew hcall ⟨_, 0, rfl⟩ rfl, rfl, rfl⟩

/-- The approvals, and what they refer to, are the same. -/
structure SameApprovals (b b' : Backend P) : Prop where
  approvals : b'.approvals = b.approvals
  isDurable : b'.isDurable = b.isDurable
  toolCalls : b'.toolCalls = b.toolCalls

section Claims

variable (b : Backend P) (claimId : String)

theorem sameApprovals_updateClaim (db : PostgresRepository P)
    (p : IdempotencyClaimRecord P → Bool)
    (set : IdempotencyClaimRecord P → IdempotencyClaimRecord P) :
    SameApprovals (postgres db) (postgres (db.updateClaim claimId p set).2) := by
  unfold PostgresRepository.updateClaim
  cases db.idempotencyClaims.get? claimId with
  | none => exact ⟨rfl, rfl, rfl⟩
  | some => dsimp only; split_ifs <;> exact ⟨rfl, rfl, rfl⟩

theorem sameApprovals_claimIdempotency {b b' : Backend P} {claim : IdempotencyClaimRecord P}
    {x : Bool × IdempotencyClaimRecord P} (h : b.claimIdempotency claim = .ok (x, b')) :
    SameApprovals b b' := by
  cases b with
  | memory repo =>
    obtain ⟨-, rfl⟩ := Prod.mk.inj (Except.ok.inj h)
    refine ⟨?_, rfl, rfl⟩
    show (repo.claimIdempotency claim).2.approvals = repo.approvals
    unfold RunRepository.claimIdempotency
    split <;> rfl
  | postgres db =>
    have h : (db.claimIdempotency claim).map onPostgres = .ok (x, b') := h
    unfold PostgresRepository.claimIdempotency at h
    cases hfind : db.idempotencyClaims.values.find? fun c => c.key = claim.key with
    | some =>
      rw [hfind] at h
      obtain ⟨-, rfl⟩ := Prod.mk.inj (Except.ok.inj h)
      exact ⟨rfl, rfl, rfl⟩
    | none =>
      rw [hfind] at h
      dsimp only at h
      split_ifs at h
      · nomatch h
      · nomatch h
      · obtain ⟨-, rfl⟩ := Prod.mk.inj (Except.ok.inj h)
        exact ⟨rfl, rfl, rfl⟩

theorem sameApprovals_completeIdempotencyClaim (resultPayload : P) (resultHash : String) :
    SameApprovals b (b.completeIdempotencyClaim claimId resultPayload resultHash).2 := by
  cases b with
  | memory repo =>
    refine ⟨?_, rfl, rfl⟩
    show (repo.completeIdempotencyClaim _ _ _).2.approvals = repo.approvals
    unfold RunRepository.completeIdempotencyClaim
    cases repo.getClaim claimId <;> rfl
  | postgres db => exact sameApprovals_updateClaim claimId db _ _

theorem sameApprovals_failIdempotencyClaim (errorMessage : String) :
    SameApprovals b (b.failIdempotencyClaim claimId errorMessage).2 := by
  cases b with
  | memory repo =>
    refine ⟨?_, rfl, rfl⟩
    show (repo.failIdempotencyClaim _ _).2.approvals = repo.approvals
    unfold RunRepository.failIdempotencyClaim
    cases repo.getClaim claimId <;> rfl
  | postgres db => exact sameApprovals_updateClaim claimId db _ _

theorem sameApprovals_retryIdempotencyClaim :
    SameApprovals b (b.retryIdempotencyClaim claimId).2 := by
  cases b with
  | memory repo =>
    refine ⟨?_, rfl, rfl⟩
    show (repo.retryIdempotencyClaim _).2.approvals = repo.approvals
    unfold RunRepository.retryIdempotencyClaim
    cases repo.getClaim claimId with
    | none => rfl
    | some => dsimp only; split_ifs <;> rfl
  | postgres db => exact sameApprovals_updateClaim claimId db _ _

end Claims

/-- A tool call that is saved is known from then on, and no identifier gets a second run. -/
theorem toolCalls_saveToolCall {b b' : Backend P} {runId toolCallId : String}
    (h : b.saveToolCall runId toolCallId = .ok b') :
    b'.approvals = b.approvals ∧ b'.isDurable = b.isDurable ∧ b.toolCalls ⊆ b'.toolCalls ∧
      ((b.toolCalls.map Prod.snd).Nodup → (b'.toolCalls.map Prod.snd).Nodup) := by
  cases b with
  | memory =>
    cases h
    exact ⟨rfl, rfl, List.Subset.refl _, id⟩
  | postgres db =>
    have h : (db.saveToolCall runId toolCallId).map postgres = .ok b' := h
    unfold PostgresRepository.saveToolCall at h
    split_ifs at h with hthere hrun
    · cases h
      exact ⟨rfl, rfl, List.Subset.refl _, id⟩
    · nomatch h
    · cases h
      refine ⟨rfl, rfl, List.subset_append_left _ _, fun hnodup => ?_⟩
      show ((db.toolCalls ++ [(runId, toolCallId)]).map Prod.snd).Nodup
      rw [List.map_append, List.map_singleton]
      refine List.nodup_append.mpr ⟨hnodup, List.nodup_singleton _, ?_⟩
      rintro a ha b hb rfl
      rw [List.mem_singleton.mp hb] at ha
      exact hthere ha

/-- What a decision does to the approvals. -/
inductive ApprovalDecided (b : Backend P) (approvalId : String) (approved : Bool)
    (approvals : Dict String RunApprovalRecord) : Prop where
  | kept (hnot : ∀ a ∈ b.approvals.get? approvalId, a.status ≠ .pending)
    (h : approvals = b.approvals)
  | decided (a : RunApprovalRecord) (ha : b.approvals.get? approvalId = some a)
    (hpending : a.status = .pending) (reviewer : String) (reason : Option String)
    (evidence : Option Evidence)
    (h : approvals = b.approvals.set approvalId (a.decided reviewer approved reason evidence))

theorem approvalDecided_of_decideApproval (b : Backend P) (approvalId reviewer : String)
    (approved : Bool) (reason : Option String) (evidence : Option Evidence) :
    ApprovalDecided b approvalId approved
        (b.decideApproval approvalId reviewer approved reason evidence).2.approvals ∧
      (b.decideApproval approvalId reviewer approved reason evidence).2.isDurable = b.isDurable ∧
      (b.decideApproval approvalId reviewer approved reason evidence).2.toolCalls =
        b.toolCalls := by
  by_cases hpending : ∃ a ∈ b.approvals.get? approvalId, a.status = .pending
  · obtain ⟨a, ha, hstatus⟩ := hpending
    cases b with
    | memory repo =>
      show ApprovalDecided _ _ _ (repo.decideApproval _ _ _ _ _).2.approvals ∧ _
      rw [RunRepository.decideApproval_of_pending ha hstatus]
      exact ⟨.decided a ha hstatus _ _ _ rfl, rfl, rfl⟩
    | postgres db =>
      have hdb : db.decideApproval approvalId reviewer approved reason evidence = _ :=
        PostgresRepository.decideApproval_of_pending ha hstatus
      show ApprovalDecided _ _ _ (db.decideApproval _ _ _ _ _).2.approvals ∧ _ ∧
        (db.decideApproval _ _ _ _ _).2.toolCalls = _
      rw [hdb]
      exact ⟨.decided a ha hstatus _ _ _ rfl, rfl, rfl⟩
  · have hdecided : ∀ a ∈ b.approvals.get? approvalId, a.status ≠ .pending :=
      fun a ha hstatus => hpending ⟨a, ha, hstatus⟩
    cases b with
    | memory repo =>
      show ApprovalDecided _ _ _ (repo.decideApproval _ _ _ _ _).2.approvals ∧ _
      rw [RunRepository.decideApproval_of_not_pending hdecided]
      exact ⟨.kept hdecided rfl, rfl, rfl⟩
    | postgres db =>
      show ApprovalDecided _ _ _ (db.decideApproval _ _ _ _ _).2.approvals ∧ _ ∧
        (db.decideApproval _ _ _ _ _).2.toolCalls = _
      rw [PostgresRepository.decideApproval_of_not_pending hdecided]
      exact ⟨.kept hdecided rfl, rfl, rfl⟩

/-! ## Checkpoints -/

/-- In memory listed references have their records, in Postgres no sequence number exceeds the
count. -/
def CheckpointsOk : Backend P → Prop
  | memory repo => ∀ runId refs, repo.runCheckpoints.get? runId = some refs →
      ∀ ref ∈ refs, (repo.checkpoints.get? ref).isSome
  | postgres db => ∀ runId, ∀ c ∈ PostgresRepository.checkpointRows db.checkpoints runId,
      c.sequenceNo ≤ (PostgresRepository.checkpointRows db.checkpoints runId).length

/-- What a new checkpoint changes. -/
structure CheckpointSaved (b : Backend P) (checkpoint : RunCheckpointRecord P)
    (b' : Backend P) : Prop where
  runs : b'.runs = b.runs
  ok : b'.CheckpointsOk
  latest : ∀ runId, b'.getLatestCheckpoint runId =
    if checkpoint.runId = runId then some checkpoint else b.getLatestCheckpoint runId
  mem : ∀ c, c ∈ b'.listCheckpoints checkpoint.runId ↔
    c ∈ b.listCheckpoints checkpoint.runId ∨ c = checkpoint
  others : ∀ runId, checkpoint.runId ≠ runId →
    b'.listCheckpoints runId = b.listCheckpoints runId

section

variable {checkpoint : RunCheckpointRecord P}

theorem checkpointSaved_memory {repo : RunRepository P} (hok : (memory repo).CheckpointsOk)
    (hfresh : repo.checkpoints.get? checkpoint.checkpointRef = none) :
    CheckpointSaved (memory repo) checkpoint (memory (repo.saveCheckpoint checkpoint).2) := by
  have hlisted : ∀ runId, ∀ ref ∈ (repo.runCheckpoints.get? runId).getD [],
      (repo.checkpoints.get? ref).isSome := by
    intro runId ref href
    cases hrefs : repo.runCheckpoints.get? runId with
    | none =>
      rw [hrefs] at href
      nomatch href
    | some refs =>
      rw [hrefs] at href
      exact hok runId refs hrefs ref href
  have hunlisted : ∀ runId,
      checkpoint.checkpointRef ∉ (repo.runCheckpoints.get? runId).getD [] := by
    intro runId href
    have hthere := hlisted runId _ href
    rw [hfresh] at hthere
    nomatch hthere
  have hkept : ∀ runId, ∀ ref ∈ (repo.runCheckpoints.get? runId).getD [],
      (repo.saveCheckpoint checkpoint).2.checkpoints.get? ref = repo.checkpoints.get? ref := by
    intro runId ref href
    refine Dict.get?_set_of_ne _ ?_ _
    rintro rfl
    exact hunlisted runId href
  have hrefs : ∀ runId, ((repo.saveCheckpoint checkpoint).2.runCheckpoints.get? runId).getD [] =
      (repo.runCheckpoints.get? runId).getD [] ++
        if checkpoint.runId = runId then [checkpoint.checkpointRef] else [] := by
    intro runId
    simp only [RunRepository.saveCheckpoint, if_neg (hunlisted checkpoint.runId), Dict.get?_set]
    split_ifs with hid
    · rw [hid]; rfl
    · rw [List.append_nil]
  refine ⟨rfl, ?_, fun runId => ?_, fun c => ?_, fun runId hid => ?_⟩
  · intro runId refs hget ref href
    have hmem : ref ∈ ((repo.saveCheckpoint checkpoint).2.runCheckpoints.get? runId).getD [] := by
      rw [hget]
      exact href
    rw [hrefs, List.mem_append] at hmem
    rcases hmem with hmem | hmem
    · exact RunRepository.isSome_get?_set (hlisted runId ref hmem)
    · split_ifs at hmem with hid
      · rw [List.mem_singleton.mp hmem]
        show (Dict.get? (Dict.set _ _ _) _).isSome
        rw [Dict.get?_set_self]; rfl
      · nomatch hmem
  · show (repo.saveCheckpoint checkpoint).2.getLatestCheckpoint runId = _
    rw [RunRepository.getLatestCheckpoint, hrefs]
    split_ifs with hid
    · rw [List.getLast?_concat]
      exact Dict.get?_set_self _ _ _
    · rw [List.append_nil]
      show _ = repo.getLatestCheckpoint runId
      rw [RunRepository.getLatestCheckpoint]
      cases hlast : ((repo.runCheckpoints.get? runId).getD []).getLast? with
      | none => rfl
      | some ref => exact hkept runId ref (List.mem_of_getLast? hlast)
  · show c ∈ (repo.saveCheckpoint checkpoint).2.listCheckpoints checkpoint.runId ↔
      c ∈ repo.listCheckpoints checkpoint.runId ∨ _
    have hget : (repo.saveCheckpoint checkpoint).2.checkpoints.get? checkpoint.checkpointRef =
        some checkpoint := Dict.get?_set_self _ _ _
    rw [RunRepository.listCheckpoints, hrefs, if_pos rfl, List.filterMap_append, List.mem_append,
      List.filterMap_congr (hkept checkpoint.runId)]
    refine or_congr_right ?_
    simp [hget]
  · show (repo.saveCheckpoint checkpoint).2.listCheckpoints runId = repo.listCheckpoints runId
    rw [RunRepository.listCheckpoints, hrefs, if_neg hid, List.append_nil,
      List.filterMap_congr (hkept runId), RunRepository.listCheckpoints]

theorem checkpointSaved_postgres {db : PostgresRepository P} (hok : (postgres db).CheckpointsOk)
    (hseq : checkpoint.sequenceNo = (db.listCheckpoints checkpoint.runId).length + 1)
    (hfresh : db.checkpoints.get? checkpoint.checkpointRef = none) :
    CheckpointSaved (postgres db) checkpoint (postgres {
      db with checkpoints := db.checkpoints.set checkpoint.checkpointRef checkpoint }) := by
  have hrows : ∀ runId, PostgresRepository.checkpointRows
      (db.checkpoints.set checkpoint.checkpointRef checkpoint) runId =
        PostgresRepository.checkpointRows db.checkpoints runId ++
          if checkpoint.runId = runId then [checkpoint] else [] := by
    intro runId
    unfold PostgresRepository.checkpointRows Dict.values
    rw [Dict.items_set_of_get?_eq_none hfresh, List.map_append, List.filter_append]
    congr 1
    split_ifs with hid <;> simp [hid]
  have hlength : (db.listCheckpoints checkpoint.runId).length =
      (PostgresRepository.checkpointRows db.checkpoints checkpoint.runId).length :=
    List.length_mergeSort _
  refine ⟨rfl, ?_, fun runId => ?_, fun c => ?_, fun runId hid => ?_⟩
  · intro runId c hc
    dsimp only at hc ⊢
    rw [hrows] at hc ⊢
    rw [List.length_append]
    rcases List.mem_append.mp hc with hc | hc
    · have hle := hok runId c hc
      omega
    · split_ifs at hc with hid
      · rw [List.mem_singleton.mp hc, if_pos hid, ← hid]
        show _ ≤ (((PostgresRepository.checkpointRows db.checkpoints checkpoint.runId).length + 1 :
          ℕ) : ℤ)
        omega
      · nomatch hc
  · show newest _ (PostgresRepository.checkpointRows (db.checkpoints.set _ _) runId) = _
    rw [hrows]
    split_ifs with hid
    · subst hid
      rw [newest_concat]
      cases hlatest : newest (·.sequenceNo)
          (PostgresRepository.checkpointRows db.checkpoints checkpoint.runId) with
      | none => rfl
      | some c =>
        have hle := hok _ c (mem_of_newest hlatest)
        exact if_pos (by omega)
    · rw [List.append_nil]
      rfl
  · show c ∈ List.mergeSort _ _ ↔ c ∈ List.mergeSort _ _ ∨ _
    rw [List.mem_mergeSort, List.mem_mergeSort, hrows, if_pos rfl, List.mem_append,
      List.mem_singleton]
  · show List.mergeSort _ _ = List.mergeSort _ _
    rw [hrows, if_neg hid, List.append_nil]

/-- A checkpoint under a new reference, numbered after those of its run. -/
theorem checkpointSaved_of_saveCheckpoint {b b' : Backend P} (hok : b.CheckpointsOk)
    (hseq : checkpoint.sequenceNo = (b.listCheckpoints checkpoint.runId).length + 1)
    (hfresh : b.getCheckpoint checkpoint.checkpointRef = none)
    (h : b.saveCheckpoint checkpoint = .ok b') : CheckpointSaved b checkpoint b' := by
  cases b with
  | memory =>
    cases h
    exact checkpointSaved_memory hok hfresh
  | postgres db =>
    have hfree : ¬(db.checkpoints.get? checkpoint.checkpointRef).isSome := by
      have hnone : db.checkpoints.get? checkpoint.checkpointRef = none := hfresh
      rw [hnone]
      exact Bool.false_ne_true
    simp only [saveCheckpoint, PostgresRepository.saveCheckpoint, if_neg hfree] at h
    split_ifs at h with htaken hunknown
    · cases h
    · cases h
    · cases h
      exact checkpointSaved_postgres hok hseq hfresh

end

end Backend

/-! ## Terminal runs -/

/-- Runs in a terminal status keep it. -/
def TerminalKept (runs runs' : Dict String (RunRecord P)) : Prop :=
  ∀ runId r, runs.get? runId = some r → r.status.IsTerminal →
    ∃ r', runs'.get? runId = some r' ∧ r'.status = r.status

namespace TerminalKept

theorem refl (runs : Dict String (RunRecord P)) : TerminalKept runs runs :=
  fun _ r hr _ => ⟨r, hr, rfl⟩

theorem trans {runs₁ runs₂ runs₃ : Dict String (RunRecord P)} (h : TerminalKept runs₁ runs₂)
    (h' : TerminalKept runs₂ runs₃) : TerminalKept runs₁ runs₃ := by
  intro runId r hr hterminal
  obtain ⟨r', hr', hstatus'⟩ := h runId r hr hterminal
  obtain ⟨r'', hr'', hstatus''⟩ := h' runId r' hr' (hstatus' ▸ hterminal)
  exact ⟨r'', hr'', hstatus''.trans hstatus'⟩

/-- A status write keeps terminal runs exactly if it gives the run no other status. -/
theorem writeStatus_iff {runs : Dict String (RunRecord P)} {runId : String} {p : RunStatus → Bool}
    {status : RunStatus} {finalOutput : Option P} {errorDetails : Option ErrorDetails} :
    TerminalKept runs
        (RunRepository.writeStatus runs runId p status finalOutput errorDetails).2 ↔
      ∀ r ∈ runs.get? runId, r.status.IsTerminal → p r.status → status = r.status := by
  unfold RunRepository.writeStatus
  cases hget : runs.get? runId with
  | none => exact iff_of_true (refl runs) (by intro r hr; nomatch hr)
  | some r =>
    dsimp only
    split_ifs with hp
    · constructor
      · intro h r' hr' hterminal _
        cases hr'
        obtain ⟨r'', hr'', hstatus⟩ := h runId r hget hterminal
        rw [Dict.get?_set_self] at hr''
        rw [← hstatus, ← Option.some.inj hr'', RunRecord.status_withStatus]
      · intro h runId' r' hr' hterminal
        rw [Dict.get?_set]
        split_ifs with hid
        · subst hid
          cases hget.symm.trans hr'
          exact ⟨_, rfl, h r rfl hterminal hp⟩
        · exact ⟨r', hr', rfl⟩
    · refine iff_of_true (refl runs) ?_
      intro r' hr' _ hp'
      cases hr'
      exact absurd hp' hp

theorem set_of_get?_eq_none {runs : Dict String (RunRecord P)} {runId : String}
    (h : runs.get? runId = none) (r : RunRecord P) : TerminalKept runs (runs.set runId r) := by
  intro runId' r' hr' _
  refine ⟨r', ?_, rfl⟩
  rw [Dict.get?_set_of_ne runs _ r]
  · exact hr'
  · rintro rfl
    rw [h] at hr'
    nomatch hr'

end TerminalKept

theorem Backend.terminalKept_createRun {b : Backend P} {run : RunRecord P}
    (h : b.getRun run.runId = none) : TerminalKept b.runs (b.createRun run).runs := by
  cases b with
  | memory => exact TerminalKept.set_of_get?_eq_none h run
  | postgres =>
    unfold Backend.createRun PostgresRepository.createRun
    split_ifs
    · exact .refl _
    · exact TerminalKept.set_of_get?_eq_none h _

end JavisSaas.Agent.Runs
