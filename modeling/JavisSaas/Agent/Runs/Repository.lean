import JavisSaas.Agent.Runs.Models

/-!
# The run repository: idempotency claims and approvals

`packages/agent/runs/repository.py` (`InMemoryRunRepository`). Every method is one atomic step.

* `claimIdempotency_of_index`, `claimIdempotency_of_free`: what a claim does.
* `completeIdempotencyClaim_of_getClaim` and its siblings: what the writes of a claim do.
-/

namespace JavisSaas.Agent.Runs

open JavisSaas.Lib JavisSaas.Agent.Governance

variable {P : Type}

/-! ## The repository -/

/-- `_approvals` and `_approval_outbox` by approval id, `_approval_events`. -/
structure ApprovalStore where
  approvals : Dict String RunApprovalRecord := ∅
  approvalEvents : List ApprovalEventRecord := []
  approvalOutbox : Dict String ApprovalActionOutboxRecord := ∅

/-- Runs, checkpoints and their references, claims, and the index of scope keys, whose claims are
there. -/
structure RunRepository (P : Type) extends ApprovalStore where
  runs : Dict String (RunRecord P) := ∅
  checkpoints : Dict String (RunCheckpointRecord P) := ∅
  runCheckpoints : Dict String (List String) := ∅
  idempotencyClaims : Dict String (IdempotencyClaimRecord P) := ∅
  idempotencyIndex : Dict ClaimKey String := ∅
  indexed : ∀ key claimId, idempotencyIndex.get? key = some claimId →
    (idempotencyClaims.get? claimId).isSome := by nofun

namespace RunRepository

def empty : RunRepository P := {}

/-- The stored claim under an identifier. -/
def getClaim (repo : RunRepository P) (claimId : String) : Option (IdempotencyClaimRecord P) :=
  repo.idempotencyClaims.get? claimId

theorem isSome_get?_set {K V : Type} [DecidableEq K] {d : Dict K V} {k k' : K} {v : V}
    (h : (d.get? k').isSome) : ((d.set k v).get? k').isSome := by
  rw [Dict.get?_set]
  split_ifs
  · rfl
  · exact h

/-- Write the record of a claim, leaving the index alone. -/
def setClaim (repo : RunRepository P) (claimId : String) (c : IdempotencyClaimRecord P) :
    RunRepository P :=
  { repo with
    idempotencyClaims := repo.idempotencyClaims.set claimId c
    indexed := fun key claimId h => isSome_get?_set (repo.indexed key claimId h) }

/-- `claim_idempotency`: the first claim of a key is stored, later ones get a copy of it. -/
def claimIdempotency (repo : RunRepository P) (claim : IdempotencyClaimRecord P) :
    (Bool × IdempotencyClaimRecord P) × RunRepository P :=
  match h : repo.idempotencyIndex.get? claim.key with
  | some existingId =>
    ((false, (repo.idempotencyClaims.get? existingId).get (repo.indexed _ _ h)), repo)
  | none =>
    ((true, claim), {
      repo with
      idempotencyClaims := repo.idempotencyClaims.set claim.claimId claim
      idempotencyIndex := repo.idempotencyIndex.set claim.key claim.claimId
      indexed := by
        intro key claimId hkey
        rw [Dict.get?_set] at hkey
        split_ifs at hkey with heq
        · rw [← Option.some.inj hkey, Dict.get?_set_self]; rfl
        · exact isSome_get?_set (repo.indexed key claimId hkey) })

/-- `complete_idempotency_claim`: whatever the status was. -/
def completeIdempotencyClaim (repo : RunRepository P) (claimId : String) (resultPayload : P)
    (resultHash : String) : Option (IdempotencyClaimRecord P) × RunRepository P :=
  match repo.getClaim claimId with
  | none => (none, repo)
  | some c =>
    let c := { c with
      status := .completed, resultPayload := some resultPayload, resultHash := some resultHash }
    (some c, repo.setClaim claimId c)

/-- `fail_idempotency_claim`: whatever the status was. -/
def failIdempotencyClaim (repo : RunRepository P) (claimId errorMessage : String) :
    Option (IdempotencyClaimRecord P) × RunRepository P :=
  match repo.getClaim claimId with
  | none => (none, repo)
  | some c =>
    let c := { c with status := .failed, errorMessage := some errorMessage }
    (some c, repo.setClaim claimId c)

/-- `retry_idempotency_claim`: from failed back to running, and from no other status. -/
def retryIdempotencyClaim (repo : RunRepository P) (claimId : String) :
    Option (IdempotencyClaimRecord P) × RunRepository P :=
  match repo.getClaim claimId with
  | none => (none, repo)
  | some c =>
    if c.status ≠ .failed then (none, repo)
    else
      let c := { c with status := .running, errorMessage := none }
      (some c, repo.setClaim claimId c)

/-- The workspace that `create_approval` writes: of the record, or of its run. -/
def approvalWorkspace (runs : Dict String (RunRecord P)) (approval : RunApprovalRecord) :
    Option String :=
  if approval.workspaceId = none ∧ truthy approval.runId then
    (approval.runId.bind runs.get?).bind (·.workspaceId)
  else approval.workspaceId

/-- `create_approval`, which replaces a record of the same identifier. -/
def createApproval (repo : RunRepository P) (approval : RunApprovalRecord) :
    RunApprovalRecord × RunRepository P :=
  let record := { approval with workspaceId := approvalWorkspace repo.runs approval }
  (record, { repo with approvals := repo.approvals.set record.approvalId record })

def getApproval (repo : RunRepository P) (approvalId : String) : Option RunApprovalRecord :=
  repo.approvals.get? approvalId

/-- `get_approval_by_tool_call`: the first one, in the order of creation. -/
def getApprovalByToolCall (repo : RunRepository P) (toolCallId : String) :
    Option RunApprovalRecord :=
  repo.approvals.values.find? fun a => a.toolCallId = some toolCallId

/-- `decide_approval`, which only succeeds on a pending record. -/
def decideApproval (repo : RunRepository P) (approvalId reviewer : String) (approved : Bool)
    (reason : Option String) (evidence : Option Evidence) :
    Option RunApprovalRecord × RunRepository P :=
  match repo.getApproval approvalId with
  | none => (none, repo)
  | some a =>
    if a.status ≠ .pending then (none, repo)
    else
      let a := a.decided reviewer approved (if truthy reason then reason else a.reason)
        (if truthy evidence then evidence else a.evidence)
      (some a, { repo with approvals := repo.approvals.set approvalId a })

/-- `create_run`, which replaces a record of the same identifier. -/
def createRun (repo : RunRepository P) (run : RunRecord P) : RunRecord P × RunRepository P :=
  (run, { repo with runs := repo.runs.set run.runId run })

/-- The runs after a status was written to one of them, if its status satisfies `p`,
    and that run. -/
def writeStatus (runs : Dict String (RunRecord P)) (runId : String) (p : RunStatus → Bool)
    (status : RunStatus) (finalOutput : Option P) (errorDetails : Option ErrorDetails) :
    Option (RunRecord P) × Dict String (RunRecord P) :=
  match runs.get? runId with
  | none => (none, runs)
  | some r =>
    if p r.status then
      let r := r.withStatus status finalOutput errorDetails
      (some r, runs.set runId r)
    else (none, runs)

/-- `update_run_status`: whatever the status was. -/
def updateRunStatus (repo : RunRepository P) (runId : String) (status : RunStatus)
    (finalOutput : Option P) (errorDetails : Option ErrorDetails) :
    Option (RunRecord P) × RunRepository P :=
  let (r, runs) := writeStatus repo.runs runId (fun _ => true) status finalOutput errorDetails
  (r, { repo with runs })

/-- `transition_run_status`: from one of the given statuses only. -/
def transitionRunStatus (repo : RunRepository P) (runId : String)
    (fromStatuses : List RunStatus) (toStatus : RunStatus) (finalOutput : Option P)
    (errorDetails : Option ErrorDetails) : Option (RunRecord P) × RunRepository P :=
  let (r, runs) :=
    writeStatus repo.runs runId (· ∈ fromStatuses) toStatus finalOutput errorDetails
  (r, { repo with runs })

/-- `list_pending_approvals` of all workspaces, in the order of creation. -/
def listPendingApprovals (repo : RunRepository P) : List RunApprovalRecord :=
  repo.approvals.values.filter fun a => a.status = .pending

/-- `save_checkpoint`, which replaces a record of the same reference. -/
def saveCheckpoint (repo : RunRepository P) (checkpoint : RunCheckpointRecord P) :
    RunCheckpointRecord P × RunRepository P :=
  let refs := (repo.runCheckpoints.get? checkpoint.runId).getD []
  let refs :=
    if checkpoint.checkpointRef ∈ refs then refs else refs ++ [checkpoint.checkpointRef]
  (checkpoint, {
    repo with
    checkpoints := repo.checkpoints.set checkpoint.checkpointRef checkpoint
    runCheckpoints := repo.runCheckpoints.set checkpoint.runId refs })

/-- `get_latest_checkpoint`: the reference that was added last. -/
def getLatestCheckpoint (repo : RunRepository P) (runId : String) :
    Option (RunCheckpointRecord P) :=
  ((repo.runCheckpoints.get? runId).getD []).getLast?.bind repo.checkpoints.get?

/-- `list_checkpoints`, in the order in which the references were added. -/
def listCheckpoints (repo : RunRepository P) (runId : String) : List (RunCheckpointRecord P) :=
  ((repo.runCheckpoints.get? runId).getD []).filterMap repo.checkpoints.get?

/-! ## What the methods write -/

section

variable {repo : RunRepository P} {claimId : String} {c : IdempotencyClaimRecord P}

theorem getClaim_setClaim (claimId' : String) : (repo.setClaim claimId c).getClaim claimId' =
    if claimId = claimId' then some c else repo.getClaim claimId' :=
  Dict.get?_set _ _ _ _

@[simp] theorem index_setClaim :
    (repo.setClaim claimId c).idempotencyIndex = repo.idempotencyIndex := rfl

@[simp] theorem approvals_setClaim : (repo.setClaim claimId c).approvals = repo.approvals := rfl

variable {claim : IdempotencyClaimRecord P}

/-- A key that is taken: the caller gets a copy and nothing is written. -/
theorem claimIdempotency_of_index (hid : repo.idempotencyIndex.get? claim.key = some claimId)
    (hc : repo.getClaim claimId = some c) : repo.claimIdempotency claim = ((false, c), repo) := by
  unfold claimIdempotency
  split
  · next existingId h =>
    rw [hid] at h; cases h
    congr 2
    exact Option.get_of_eq_some _ hc
  · next h => rw [hid] at h; nomatch h

/-- A key that is free: the claim is stored under it, and nothing else changes. -/
structure ClaimStored (repo : RunRepository P) (claim : IdempotencyClaimRecord P)
    (repo' : RunRepository P) : Prop where
  approvals : repo'.approvals = repo.approvals
  runs : repo'.runs = repo.runs
  checkpoints : repo'.checkpoints = repo.checkpoints
  runCheckpoints : repo'.runCheckpoints = repo.runCheckpoints
  claims : repo'.idempotencyClaims = repo.idempotencyClaims.set claim.claimId claim
  index : repo'.idempotencyIndex = repo.idempotencyIndex.set claim.key claim.claimId

theorem claimStored_of_free (hid : repo.idempotencyIndex.get? claim.key = none) :
    (repo.claimIdempotency claim).1 = (true, claim) ∧
      ClaimStored repo claim (repo.claimIdempotency claim).2 := by
  unfold claimIdempotency
  split
  · next h => rw [hid] at h; nomatch h
  · exact ⟨rfl, rfl, rfl, rfl, rfl, rfl, rfl⟩

theorem claimIdempotency_of_free (hid : repo.idempotencyIndex.get? claim.key = none) :
    (repo.claimIdempotency claim).1 = (true, claim) ∧
      (repo.claimIdempotency claim).2.approvals = repo.approvals ∧
      (∀ key, (repo.claimIdempotency claim).2.idempotencyIndex.get? key =
        if claim.key = key then some claim.claimId else repo.idempotencyIndex.get? key) ∧
      ∀ claimId, (repo.claimIdempotency claim).2.getClaim claimId =
        if claim.claimId = claimId then some claim else repo.getClaim claimId := by
  obtain ⟨hwon, hstored⟩ := claimStored_of_free hid
  refine ⟨hwon, hstored.approvals, fun key => ?_, fun claimId => ?_⟩
  · rw [hstored.index]
    exact Dict.get?_set _ _ _ _
  · rw [getClaim, hstored.claims]
    exact Dict.get?_set _ _ _ _

theorem claim_of_index {key : ClaimKey} (h : repo.idempotencyIndex.get? key = some claimId) :
    ∃ c, repo.getClaim claimId = some c :=
  Option.isSome_iff_exists.mp (repo.indexed key claimId h)

theorem completeIdempotencyClaim_of_getClaim (h : repo.getClaim claimId = some c)
    (resultPayload : P) (resultHash : String) :
    (repo.completeIdempotencyClaim claimId resultPayload resultHash).2 =
      repo.setClaim claimId { c with
        status := .completed, resultPayload := some resultPayload
        resultHash := some resultHash } := by
  rw [completeIdempotencyClaim, h]

theorem failIdempotencyClaim_of_getClaim (h : repo.getClaim claimId = some c)
    (errorMessage : String) : (repo.failIdempotencyClaim claimId errorMessage).2 =
      repo.setClaim claimId { c with
        status := .failed, errorMessage := some errorMessage } := by
  rw [failIdempotencyClaim, h]

theorem retryIdempotencyClaim_of_failed (h : repo.getClaim claimId = some c)
    (hc : c.status = .failed) : repo.retryIdempotencyClaim claimId =
      (some { c with status := .running, errorMessage := none },
        repo.setClaim claimId { c with status := .running, errorMessage := none }) := by
  rw [retryIdempotencyClaim, h]
  simp [hc]

theorem retryIdempotencyClaim_of_not_failed (h : repo.getClaim claimId = some c)
    (hc : c.status ≠ .failed) : repo.retryIdempotencyClaim claimId = (none, repo) := by
  rw [retryIdempotencyClaim, h]
  exact if_pos hc

theorem get?_writeStatus {runs : Dict String (RunRecord P)} {runId : String}
    {p : RunStatus → Bool} {status : RunStatus} {finalOutput : Option P}
    {errorDetails : Option ErrorDetails} (runId' : String) :
    (writeStatus runs runId p status finalOutput errorDetails).2.get? runId' =
      if runId = runId' then (runs.get? runId).map fun r =>
        if p r.status then r.withStatus status finalOutput errorDetails else r
      else runs.get? runId' := by
  unfold writeStatus
  cases hget : runs.get? runId with
  | none =>
    split_ifs with hid
    · rw [← hid, hget]; rfl
    · rfl
  | some r =>
    dsimp only
    by_cases hp : p r.status
    · rw [if_pos hp, Dict.get?_set, Option.map_some, if_pos hp]
    · rw [if_neg hp, Option.map_some, if_neg hp]
      split_ifs with hid
      · rw [← hid, hget]
      · rfl

/-! ### Approvals -/

section

variable {approvalId reviewer : String} {approved : Bool} {reason : Option String}
  {evidence : Option Evidence} {a : RunApprovalRecord}

theorem decideApproval_of_pending (ha : repo.approvals.get? approvalId = some a)
    (hpending : a.status = .pending) :
    repo.decideApproval approvalId reviewer approved reason evidence =
      let a' := a.decided reviewer approved (if truthy reason then reason else a.reason)
        (if truthy evidence then evidence else a.evidence)
      (some a', { repo with approvals := repo.approvals.set approvalId a' }) := by
  rw [decideApproval, getApproval, ha]
  exact if_neg (not_not.mpr hpending)

theorem decideApproval_of_not_pending
    (h : ∀ a ∈ repo.approvals.get? approvalId, a.status ≠ .pending) :
    repo.decideApproval approvalId reviewer approved reason evidence = (none, repo) := by
  rw [decideApproval, getApproval]
  cases ha : repo.approvals.get? approvalId with
  | none => rfl
  | some a => exact if_pos (h a ha)

end

end

end RunRepository

end JavisSaas.Agent.Runs
