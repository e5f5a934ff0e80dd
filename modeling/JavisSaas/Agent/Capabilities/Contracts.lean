import JavisSaas.Lib.Dict

/-!
# Requests to the capability gateway and its results

`packages/agent/capabilities/gateway.py`, `packages/agent/contracts/wait.py`.
-/

namespace JavisSaas.Agent.Capabilities

open JavisSaas.Lib

/-- `GatewayExecutionRequest`, with its defaults already filled in. -/
structure GatewayExecutionRequest (P : Type) where
  runId : String
  capabilityId : String
  inputPayload : P
  principal : String := "system"
  checkpointRef : String
  toolCallId : String
  idempotencyKey : Option String := none
  workspaceId : Option String := none

/-- The class documents the first four values, the gateway also returns `in_progress`; any text is
taken. -/
inductive GatewayStatus where
  | completed
  | failed
  | waitingApproval
  | denied
  | inProgress
  | other (status : String)
  deriving DecidableEq

def GatewayStatus.value : GatewayStatus → String
  | completed => "completed"
  | failed => "failed"
  | waitingApproval => "waiting_approval"
  | denied => "denied"
  | inProgress => "in_progress"
  | other status => status

structure WaitDescriptor where
  reason : String
  ownerResponder : Option String := none
  resumeTrigger : String := "approval.decided"
  checkpointRef : String
  relatedRef : Option String := none

/-- The exceptions the gateway tells apart, with the text of the others. -/
inductive PyException where
  | tenancyUnresolved (message : String)
  | connectorGrantDenied (code : String)
  | other (message : String)
  deriving DecidableEq

/-- `str(exc)`. -/
def PyException.str : PyException → String
  | tenancyUnresolved message => message
  | connectorGrantDenied code => code
  | other message => message

structure GatewayExecutionResult (P : Type) where
  toolCallId : String
  status : GatewayStatus
  outputPayload : Option P := none
  errorMessage : Option String := none
  validationErrors : List String := []
  waitDescriptor : Option WaitDescriptor := none
  cachedIdempotency : Bool := false
  failure : Option PyException := none

end JavisSaas.Agent.Capabilities
