import JavisSaas.Lib.Dict
import JavisSaas.Agent.Governance.Policy

/-!
# The records of the run repository

`packages/agent/runs/models.py` and `contracts/run.py`. The clock readings that
only document a record (`created_at`, `updated_at`, `decided_at`) are left out;
times that are compared are kept, in milliseconds.
-/

namespace JavisSaas.Agent.Runs

open JavisSaas.Lib JavisSaas.Agent.Governance

/-! ## Runs and checkpoints -/

inductive RunStatus where
  | pending
  | running
  | waitingApproval
  | waitingInput
  | completed
  | failed
  | cancelled
  deriving DecidableEq

/-- The statuses with a `completed_at`. -/
def RunStatus.IsTerminal (status : RunStatus) : Prop :=
  status = .completed ∨ status = .failed ∨ status = .cancelled
deriving Decidable

/-- What is stored about a failure: a text, or null, under each key. -/
abbrev ErrorDetails := Dict String (Option String)

/-- A run; `P` are the JSON payloads. -/
structure RunRecord (P : Type) where
  runId : String
  workspaceId : Option String := none
  projectId : Option String := none
  status : RunStatus := .pending
  finalOutput : Option P := none
  errorDetails : Option ErrorDetails := none
  deriving DecidableEq

/-- A status written into the record, with the output and the error given beside it. -/
def RunRecord.withStatus {P : Type} (r : RunRecord P) (status : RunStatus)
    (finalOutput : Option P) (errorDetails : Option ErrorDetails) : RunRecord P :=
  { r with
    status
    finalOutput := finalOutput.or r.finalOutput
    errorDetails := errorDetails.or r.errorDetails }

@[simp] theorem RunRecord.status_withStatus {P : Type} (r : RunRecord P) (status : RunStatus)
    (finalOutput : Option P) (errorDetails : Option ErrorDetails) :
    (r.withStatus status finalOutput errorDetails).status = status := rfl

structure RunCheckpointRecord (P : Type) where
  checkpointRef : String
  runId : String
  projectId : Option String := none
  sequenceNo : ℤ
  stepName : Option String := none
  stateKind : String := "workflow"
  serializedState : P
  deriving DecidableEq

/-! ## Idempotency claims -/

/-- `status` of a claim: "running", "completed" or "failed". -/
inductive ClaimStatus where
  | running
  | completed
  | failed
  deriving DecidableEq

structure IdempotencyClaimRecord (P : Type) where
  claimId : String
  capabilityId : String
  scopeKind : String := "RUN"
  scopeKey : String
  idempotencyKey : String
  payloadHash : String
  runId : String
  toolCallId : String
  status : ClaimStatus := .running
  resultHash : Option String := none
  resultPayload : Option P := none
  errorMessage : Option String := none
  deriving DecidableEq

/-- The key of `_idempotency_index`. -/
structure ClaimKey where
  scopeKind : String
  scopeKey : String
  capabilityId : String
  idempotencyKey : String
  deriving DecidableEq

variable {P : Type}

def IdempotencyClaimRecord.key (c : IdempotencyClaimRecord P) : ClaimKey :=
  ⟨c.scopeKind, c.scopeKey, c.capabilityId, c.idempotencyKey⟩

/-! ## Approvals -/

/-- `status` of an approval: "pending", "approved" or "denied". -/
inductive ApprovalStatus where
  | pending
  | approved
  | denied
  deriving DecidableEq

def ApprovalStatus.value : ApprovalStatus → String
  | pending => "pending"
  | approved => "approved"
  | denied => "denied"

inductive ApprovalBindingKind where
  | toolCall
  | changeRequest
  deriving DecidableEq

/-- The evidence of a decision, its values as JSON texts. -/
abbrev Evidence := Dict String String

instance : Truthy Evidence := ⟨fun d => d.items ≠ []⟩

structure RunApprovalRecord where
  approvalId : String
  workspaceId : Option String := none
  projectId : Option String := none
  bindingKind : ApprovalBindingKind := .toolCall
  runId : Option String := none
  toolCallId : Option String := none
  checkpointRef : Option String := none
  status : ApprovalStatus := .pending
  requirement : Option ApprovalRequirement := none
  requester : Option String := none
  action : Option String := none
  subject : Option String := none
  subjectKind : Option String := none
  subjectRef : Option String := none
  subjectHash : Option String := none
  reviewer : Option String := none
  reason : Option String := none
  evidence : Option Evidence := none
  manifestHash : Option String := none
  decisionVersion : ℕ := 0
  expiresAt : Option ℤ := none
  deriving DecidableEq

namespace RunApprovalRecord

/-- A decision written into the record. -/
def decided (a : RunApprovalRecord) (reviewer : String) (approved : Bool)
    (reason : Option String) (evidence : Option Evidence) : RunApprovalRecord :=
  { a with
    status := if approved then .approved else .denied
    reviewer := some reviewer
    decisionVersion := a.decisionVersion + 1
    reason, evidence }

section

variable (a : RunApprovalRecord) (reviewer : String) (approved : Bool) (reason : Option String)
  (evidence : Option Evidence)

@[simp] theorem status_decided : (a.decided reviewer approved reason evidence).status =
    if approved then .approved else .denied := rfl

@[simp] theorem approvalId_decided :
    (a.decided reviewer approved reason evidence).approvalId = a.approvalId := rfl

@[simp] theorem toolCallId_decided :
    (a.decided reviewer approved reason evidence).toolCallId = a.toolCallId := rfl

end

/-- A change that waits for its decision. -/
def IsPendingChange (a : RunApprovalRecord) : Prop :=
  a.bindingKind = .changeRequest ∧ a.status = .pending
deriving Decidable

end RunApprovalRecord

/-- The columns of `ux_agent_approvals_pending_change_subject`. -/
structure ChangeKey where
  workspaceId : Option String
  action : Option String
  subjectKind : Option String
  subjectRef : Option String
  subjectHash : Option String
  deriving DecidableEq

def ChangeKey.IsComplete (k : ChangeKey) : Prop :=
  k.workspaceId.isSome ∧ k.action.isSome ∧ k.subjectKind.isSome ∧ k.subjectRef.isSome ∧
    k.subjectHash.isSome

namespace RunApprovalRecord

def changeKey (a : RunApprovalRecord) : ChangeKey :=
  ⟨a.workspaceId, a.action, a.subjectKind, a.subjectRef, a.subjectHash⟩

@[simp] theorem changeKey_decided (a : RunApprovalRecord) (reviewer : String) (approved : Bool)
    (reason : Option String) (evidence : Option Evidence) :
    (a.decided reviewer approved reason evidence).changeKey = a.changeKey := rfl

/-- The partial unique index refuses the row beside this one. -/
def Conflicts (e a : RunApprovalRecord) : Prop :=
  e.IsPendingChange ∧ a.IsPendingChange ∧ e.changeKey = a.changeKey ∧ a.changeKey.IsComplete

instance (e a : RunApprovalRecord) : Decidable (e.Conflicts a) :=
  inferInstanceAs (Decidable (_ ∧ _ ∧ _ ∧ _ ∧ _ ∧ _ ∧ _ ∧ _))

end RunApprovalRecord

/-- An entry of the audit trail of approvals. -/
structure ApprovalEventRecord where
  approvalId : String
  workspaceId : String
  eventType : String
  actorId : Option String
  approved : Bool
  reason : Option String
  action : Option String

/-- `state` of an action: "pending", "claimed" or "delivered". -/
inductive OutboxState where
  | pending
  | claimed
  | delivered
  deriving DecidableEq

/-- The action of an approved change. -/
structure ApprovalActionOutboxRecord where
  approvalId : String
  workspaceId : String
  action : String
  subjectKind : Option String
  subjectRef : Option String
  subjectHash : String
  state : OutboxState := .pending
  attemptCount : ℕ := 0
  nextAttemptAt : ℤ
  claimToken : Option String := none
  deliveredAt : Option ℤ := none

end JavisSaas.Agent.Runs
