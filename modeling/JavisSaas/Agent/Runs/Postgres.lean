import JavisSaas.Lib.Newest
import JavisSaas.Agent.Runs.Repository

/-!
# The run repository in Postgres

`packages/agent/runs/repository.py` (`PostgresRunRepository`), one statement at a
time, over the tables of `packages/agent/migrations`. A table is a dictionary by
its primary key; an `INSERT` or `UPDATE` that breaks another constraint raises and
writes nothing. A `SELECT` without `ORDER BY` returns any of the rows it matches.
-/

namespace JavisSaas.Agent.Runs

open JavisSaas.Lib

variable {P : Type}

/-- The constraints of the tables, by name. -/
inductive IntegrityError where
  | runsWorkspaceIdNotNull
  | approvalsRunIdFkey
  | approvalsRunToolCallFkey
  | chkAgentApprovalsBinding
  | uxAgentApprovalsPendingChangeSubject
  | runCheckpointsRunIdFkey
  | runToolCallsRunIdFkey
  | uqAgentCheckpointRunSeq
  | idempotencyClaimsPkey
  | idempotencyClaimsRunIdFkey
  deriving DecidableEq

/-- `toolCalls` are the keys of `agent.run_tool_calls`, which the methods here only refer to. -/
structure PostgresRepository (P : Type) where
  runs : Dict String (RunRecord P) := ∅
  approvals : Dict String RunApprovalRecord := ∅
  checkpoints : Dict String (RunCheckpointRecord P) := ∅
  idempotencyClaims : Dict String (IdempotencyClaimRecord P) := ∅
  toolCalls : List (String × String) := []

/-- `chk_agent_approvals_binding`. -/
def RunApprovalRecord.BindingOk (a : RunApprovalRecord) : Prop :=
  match a.bindingKind with
  | .toolCall => a.runId.isSome ∧ a.toolCallId.isSome ∧ a.checkpointRef.isSome
  | .changeRequest => a.workspaceId.isSome ∧ a.runId = none ∧ a.toolCallId = none ∧
      a.checkpointRef = none ∧ a.subjectKind.isSome ∧ a.subjectRef.isSome ∧ a.subjectHash.isSome

instance (a : RunApprovalRecord) : Decidable a.BindingOk := by
  unfold RunApprovalRecord.BindingOk
  cases a.bindingKind <;> infer_instance

/-- `approvals_run_id_fkey`. -/
def RunApprovalRecord.RunKnown (a : RunApprovalRecord) (runs : Dict String (RunRecord P)) : Prop :=
  ∀ runId ∈ a.runId, (runs.get? runId).isSome
deriving Decidable

/-- `approvals_run_tool_call_fkey`. -/
def RunApprovalRecord.ToolCallKnown (a : RunApprovalRecord) (toolCalls : List (String × String)) :
    Prop :=
  ∀ runId ∈ a.runId, ∀ toolCallId ∈ a.toolCallId, (runId, toolCallId) ∈ toolCalls
deriving Decidable

namespace PostgresRepository

/-- `create_run`: a run that is there only changes its status. -/
def createRun (db : PostgresRepository P) (run : RunRecord P) :
    Except IntegrityError (RunRecord P × PostgresRepository P) :=
  if run.workspaceId = none then .error .runsWorkspaceIdNotNull
  else
    let row := match db.runs.get? run.runId with
      | some old => { old with status := run.status }
      | none => run
    .ok (run, { db with runs := db.runs.set run.runId row })

/-- An identifier that is taken is left alone; `decision_version` starts at 0. -/
def createApproval (db : PostgresRepository P) (approval : RunApprovalRecord) :
    Except IntegrityError (RunApprovalRecord × PostgresRepository P) :=
  let row := { approval with
    workspaceId := RunRepository.approvalWorkspace db.runs approval, decisionVersion := 0 }
  if ¬row.BindingOk then .error .chkAgentApprovalsBinding
  else if (db.approvals.get? row.approvalId).isSome then .ok (approval, db)
  else if ∃ e ∈ db.approvals.values, e.Conflicts row then
    .error .uxAgentApprovalsPendingChangeSubject
  else if ¬row.RunKnown db.runs then .error .approvalsRunIdFkey
  else if ¬row.ToolCallKnown db.toolCalls then .error .approvalsRunToolCallFkey
  else .ok (approval, { db with approvals := db.approvals.set row.approvalId row })

/-- `save_tool_call`, as far as the keys of the table go: a tool call that is there keeps
    its run. -/
def saveToolCall (db : PostgresRepository P) (runId toolCallId : String) :
    Except IntegrityError (PostgresRepository P) :=
  if toolCallId ∈ db.toolCalls.map Prod.snd then .ok db
  else if db.runs.get? runId = none then .error .runToolCallsRunIdFkey
  else .ok { db with toolCalls := db.toolCalls ++ [(runId, toolCallId)] }

/-- The rows that `get_approval_by_tool_call` matches. -/
def toolCallRows (approvals : Dict String RunApprovalRecord) (toolCallId : String) :
    List RunApprovalRecord :=
  approvals.values.filter fun a => a.toolCallId = some toolCallId

/-- `get_approval_by_tool_call`: the row that the scan meets first. -/
def getApprovalByToolCall (db : PostgresRepository P) (toolCallId : String) (scan : ℕ) :
    Option RunApprovalRecord :=
  let rows := toolCallRows db.approvals toolCallId
  rows[scan % rows.length]?

def decideApproval (db : PostgresRepository P) (approvalId reviewer : String) (approved : Bool)
    (reason : Option String) (evidence : Option Evidence) :
    Option RunApprovalRecord × PostgresRepository P :=
  match db.approvals.get? approvalId with
  | none => (none, db)
  | some a =>
    if a.status ≠ .pending then (none, db)
    else
      let a := a.decided reviewer approved (reason.or a.reason) (evidence.or a.evidence)
      (some a, { db with approvals := db.approvals.set approvalId a })

def updateRunStatus (db : PostgresRepository P) (runId : String) (status : RunStatus)
    (finalOutput : Option P) (errorDetails : Option ErrorDetails) :
    Option (RunRecord P) × PostgresRepository P :=
  let (r, runs) :=
    RunRepository.writeStatus db.runs runId (fun _ => true) status finalOutput errorDetails
  (r, { db with runs })

/-- `transition_run_status`: `WHERE … AND status = ANY(:from_statuses)`. -/
def transitionRunStatus (db : PostgresRepository P) (runId : String)
    (fromStatuses : List RunStatus) (toStatus : RunStatus) (finalOutput : Option P)
    (errorDetails : Option ErrorDetails) : Option (RunRecord P) × PostgresRepository P :=
  let (r, runs) :=
    RunRepository.writeStatus db.runs runId (· ∈ fromStatuses) toStatus finalOutput errorDetails
  (r, { db with runs })

/-- `list_pending_approvals`: `ORDER BY created_at ASC`, where `createdAt` is the column by
    approval id. -/
def listPendingApprovals (db : PostgresRepository P) (createdAt : String → ℤ) :
    List RunApprovalRecord :=
  (db.approvals.values.filter fun a => a.status = .pending).mergeSort fun a b =>
    createdAt a.approvalId ≤ createdAt b.approvalId

/-- `save_checkpoint`: a reference that is taken is left alone. -/
def saveCheckpoint (db : PostgresRepository P) (checkpoint : RunCheckpointRecord P) :
    Except IntegrityError (RunCheckpointRecord P × PostgresRepository P) :=
  if (db.checkpoints.get? checkpoint.checkpointRef).isSome then .ok (checkpoint, db)
  else if ∃ c ∈ db.checkpoints.values,
      c.runId = checkpoint.runId ∧ c.sequenceNo = checkpoint.sequenceNo then
    .error .uqAgentCheckpointRunSeq
  else if db.runs.get? checkpoint.runId = none then .error .runCheckpointsRunIdFkey
  else
    .ok (checkpoint, {
      db with checkpoints := db.checkpoints.set checkpoint.checkpointRef checkpoint })

/-- The rows of a run. -/
def checkpointRows (checkpoints : Dict String (RunCheckpointRecord P)) (runId : String) :
    List (RunCheckpointRecord P) :=
  checkpoints.values.filter fun c => c.runId = runId

/-- `get_latest_checkpoint`: `ORDER BY sequence_no DESC LIMIT 1`. -/
def getLatestCheckpoint (db : PostgresRepository P) (runId : String) :
    Option (RunCheckpointRecord P) :=
  newest (·.sequenceNo) (checkpointRows db.checkpoints runId)

/-- `list_checkpoints`: `ORDER BY sequence_no ASC`. -/
def listCheckpoints (db : PostgresRepository P) (runId : String) : List (RunCheckpointRecord P) :=
  (checkpointRows db.checkpoints runId).mergeSort fun a b => a.sequenceNo ≤ b.sequenceNo

/-- `claim_idempotency`. The columns of the result are not inserted. -/
def claimIdempotency (db : PostgresRepository P) (claim : IdempotencyClaimRecord P) :
    Except IntegrityError ((Bool × IdempotencyClaimRecord P) × PostgresRepository P) :=
  match db.idempotencyClaims.values.find? fun c => c.key = claim.key with
  | some existing => .ok ((false, existing), db)
  | none =>
    if (db.idempotencyClaims.get? claim.claimId).isSome then .error .idempotencyClaimsPkey
    else if db.runs.get? claim.runId = none then .error .idempotencyClaimsRunIdFkey
    else
      let row := { claim with resultHash := none, resultPayload := none, errorMessage := none }
      .ok ((true, claim), {
        db with idempotencyClaims := db.idempotencyClaims.set claim.claimId row })

/-- An `UPDATE` of the claim if it satisfies `p`, and the row that a `SELECT` returns afterwards. -/
def updateClaim (db : PostgresRepository P) (claimId : String)
    (p : IdempotencyClaimRecord P → Bool)
    (set : IdempotencyClaimRecord P → IdempotencyClaimRecord P) :
    Option (IdempotencyClaimRecord P) × PostgresRepository P :=
  match db.idempotencyClaims.get? claimId with
  | some c =>
    if p c then
      (some (set c), { db with idempotencyClaims := db.idempotencyClaims.set claimId (set c) })
    else (none, db)
  | none => (none, db)

def completeIdempotencyClaim (db : PostgresRepository P) (claimId : String) (resultPayload : P)
    (resultHash : String) : Option (IdempotencyClaimRecord P) × PostgresRepository P :=
  db.updateClaim claimId (fun _ => true) fun c =>
    { c with
      status := .completed, resultPayload := some resultPayload, resultHash := some resultHash }

def failIdempotencyClaim (db : PostgresRepository P) (claimId errorMessage : String) :
    Option (IdempotencyClaimRecord P) × PostgresRepository P :=
  db.updateClaim claimId (fun _ => true) fun c =>
    { c with status := .failed, errorMessage := some errorMessage }

def retryIdempotencyClaim (db : PostgresRepository P) (claimId : String) :
    Option (IdempotencyClaimRecord P) × PostgresRepository P :=
  db.updateClaim claimId (fun c => c.status = .failed) fun c =>
    { c with status := .running, errorMessage := none }

section

variable {db : PostgresRepository P} {approvalId reviewer : String} {approved : Bool}
  {reason : Option String} {evidence : Option Evidence} {a : RunApprovalRecord}

theorem decideApproval_of_pending (ha : db.approvals.get? approvalId = some a)
    (hpending : a.status = .pending) :
    db.decideApproval approvalId reviewer approved reason evidence =
      let a' := a.decided reviewer approved (reason.or a.reason) (evidence.or a.evidence)
      (some a', { db with approvals := db.approvals.set approvalId a' }) := by
  rw [decideApproval, ha]
  exact if_neg (not_not.mpr hpending)

theorem decideApproval_of_not_pending
    (h : ∀ a ∈ db.approvals.get? approvalId, a.status ≠ .pending) :
    db.decideApproval approvalId reviewer approved reason evidence = (none, db) := by
  rw [decideApproval]
  cases ha : db.approvals.get? approvalId with
  | none => rfl
  | some a => exact if_pos (h a ha)

end

end PostgresRepository

end JavisSaas.Agent.Runs
