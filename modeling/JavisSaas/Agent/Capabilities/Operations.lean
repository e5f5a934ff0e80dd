import JavisSaas.Lib.Pool
import JavisSaas.Agent.Capabilities.Contracts
import JavisSaas.Agent.Runs.Repository

/-!
# What a gateway execution performs

Every `await` of `_execute_internal` in `packages/agent/capabilities/gateway.py`
is one operation. The repository answers those on claims and approvals; the
others (other stores, the policy evaluator, the clock, the handler) are answered
by the environment, and any of them may raise.
-/

namespace JavisSaas.Agent.Capabilities

open JavisSaas.Lib JavisSaas.Agent.Governance JavisSaas.Agent.Runs

/-! ## Records the execution writes -/

/-- `status` of a tool call record. -/
inductive ToolCallStatus where
  | running
  | waitingApproval
  | completed
  | failed
  | denied

/-- `RunToolCallRecord`, without its provenance columns. -/
structure RunToolCallRecord (P : Type) where
  toolCallId : String
  runId : String
  checkpointRef : String
  capabilityId : String
  payloadHash : String
  inputPayload : P
  idempotencyKey : String
  status : ToolCallStatus
  outputPayload : Option P := none
  errorMessage : Option String := none
  governanceState : Option InvocationGovernanceState := none

/-- Values in the payload of an event. -/
inductive EventValue where
  | str (s : String)
  | bool (b : Bool)
  | list (l : List String)
  | none

def EventValue.ofOption : Option String → EventValue
  | some s => .str s
  | Option.none => .none

structure RunEventRecord where
  runId : String
  eventType : String
  payload : List (String × EventValue)

/-! ## Answers of other services -/

inductive CapabilityReadinessReason where
  | ready
  | missingCredential
  | connectorOffline
  | tenantDisabled
  | backendUnavailable
  | schemaMismatch
  | dependencyMissing
  deriving DecidableEq

/-- `details` is the printed form of the dictionary. -/
structure CapabilityReadiness where
  ready : Bool := true
  reasonCode : CapabilityReadinessReason := .ready
  details : String := ""

structure ConnectorGrant where
  grantId : String
  tenantId : String
  principal : String
  connectorId : String
  allowedActions : List String := []
  isRevoked : Bool := false

structure GrantVerificationResult where
  isAllowed : Bool
  reason : String

/-- The answer of the live authorizer. -/
structure AuthorizationResult where
  allowed : Bool
  errorMessage : Option String := none

/-! ## Operations -/

inductive GatewayOp (P : Type) where
  | checkReadiness (capabilityId : String)
  | assertEnabledForInvocation (workspaceId capabilityId : String) (skillHash : Option String)
      (actionClass : String)
  | uuid4
  | claimIdempotency (claim : IdempotencyClaimRecord P)
  | completeIdempotencyClaim (claimId : String) (resultPayload : P) (resultHash : String)
  | failIdempotencyClaim (claimId errorMessage : String)
  | retryIdempotencyClaim (claimId : String)
  | saveToolCall (toolCall : RunToolCallRecord P)
  | appendEvent (event : RunEventRecord)
  | evaluatePolicy (capabilityId : String) (payload : P)
  | loadGovernanceState (runId toolCallId : String)
  | saveGovernanceState (state : InvocationGovernanceState) (observation : PolicyDecision)
  | getApprovalByToolCall (toolCallId : String)
  | createApproval (approval : RunApprovalRecord)
  | resolveConnectorGrant (connectorId : String)
  | verifyConnectorGrant (grant : Option ConnectorGrant) (action tenantId principal : String)
  | authorize (capabilityId : String)
  | callHandler (capabilityId : String) (payload : P)

namespace GatewayOp

variable {P : Type}

/-- The type of an operation's answer. -/
abbrev Ans : GatewayOp P → Type
  | checkReadiness _ => CapabilityReadiness
  | assertEnabledForInvocation _ _ _ _ => Bool × Option String
  | uuid4 => String
  | claimIdempotency _ => Bool × IdempotencyClaimRecord P
  | completeIdempotencyClaim _ _ _ => Option (IdempotencyClaimRecord P)
  | failIdempotencyClaim _ _ => Option (IdempotencyClaimRecord P)
  | retryIdempotencyClaim _ => Option (IdempotencyClaimRecord P)
  | saveToolCall _ => Unit
  | appendEvent _ => Unit
  | evaluatePolicy _ _ => Evaluation
  | loadGovernanceState _ _ => Option InvocationGovernanceState
  | saveGovernanceState _ _ => Unit
  | getApprovalByToolCall _ => Option RunApprovalRecord
  | createApproval _ => RunApprovalRecord
  | resolveConnectorGrant _ => Option ConnectorGrant
  | verifyConnectorGrant _ _ _ _ => GrantVerificationResult
  | authorize _ => AuthorizationResult
  | callHandler _ _ => P

/-- The operations that the repository answers. -/
def exec : (o : GatewayOp P) → RunRepository P → Option (o.Ans × RunRepository P)
  | claimIdempotency claim, repo => some (repo.claimIdempotency claim)
  | completeIdempotencyClaim claimId resultPayload resultHash, repo =>
    some (repo.completeIdempotencyClaim claimId resultPayload resultHash)
  | failIdempotencyClaim claimId errorMessage, repo =>
    some (repo.failIdempotencyClaim claimId errorMessage)
  | retryIdempotencyClaim claimId, repo => some (repo.retryIdempotencyClaim claimId)
  | getApprovalByToolCall toolCallId, repo => some (repo.getApprovalByToolCall toolCallId, repo)
  | createApproval approval, repo => some (repo.createApproval approval)
  | _, _ => none

/-- A handler call is under way from the moment it begins until it returns or raises. -/
def isHandlerCall : GatewayOp P → Bool
  | callHandler _ _ => true
  | _ => false

end GatewayOp

/-! ## The operations as programs -/

abbrev GatewayProg (P α : Type) := Prog (GatewayOp P) GatewayOp.Ans PyException α

namespace Await

variable {P : Type}

abbrev checkReadiness (capabilityId : String) : GatewayProg P CapabilityReadiness :=
  Prog.perform (GatewayOp.checkReadiness capabilityId)

abbrev assertEnabledForInvocation (workspaceId capabilityId : String) (skillHash : Option String)
    (actionClass : String) : GatewayProg P (Bool × Option String) :=
  Prog.perform (GatewayOp.assertEnabledForInvocation workspaceId capabilityId skillHash actionClass)

abbrev uuid4 : GatewayProg P String := Prog.perform GatewayOp.uuid4

abbrev claimIdempotency (claim : IdempotencyClaimRecord P) :
    GatewayProg P (Bool × IdempotencyClaimRecord P) :=
  Prog.perform (GatewayOp.claimIdempotency claim)

abbrev completeIdempotencyClaim (claimId : String) (resultPayload : P) (resultHash : String) :
    GatewayProg P (Option (IdempotencyClaimRecord P)) :=
  Prog.perform (GatewayOp.completeIdempotencyClaim claimId resultPayload resultHash)

abbrev failIdempotencyClaim (claimId errorMessage : String) :
    GatewayProg P (Option (IdempotencyClaimRecord P)) :=
  Prog.perform (GatewayOp.failIdempotencyClaim claimId errorMessage)

abbrev retryIdempotencyClaim (claimId : String) :
    GatewayProg P (Option (IdempotencyClaimRecord P)) :=
  Prog.perform (GatewayOp.retryIdempotencyClaim claimId)

abbrev saveToolCall (toolCall : RunToolCallRecord P) : GatewayProg P Unit :=
  Prog.perform (GatewayOp.saveToolCall toolCall)

abbrev appendEvent (event : RunEventRecord) : GatewayProg P Unit :=
  Prog.perform (GatewayOp.appendEvent event)

abbrev evaluatePolicy (capabilityId : String) (payload : P) : GatewayProg P Evaluation :=
  Prog.perform (GatewayOp.evaluatePolicy capabilityId payload)

abbrev loadGovernanceState (runId toolCallId : String) :
    GatewayProg P (Option InvocationGovernanceState) :=
  Prog.perform (GatewayOp.loadGovernanceState runId toolCallId)

abbrev saveGovernanceState (state : InvocationGovernanceState) (observation : PolicyDecision) :
    GatewayProg P Unit :=
  Prog.perform (GatewayOp.saveGovernanceState state observation)

abbrev getApprovalByToolCall (toolCallId : String) : GatewayProg P (Option RunApprovalRecord) :=
  Prog.perform (GatewayOp.getApprovalByToolCall toolCallId)

abbrev createApproval (approval : RunApprovalRecord) : GatewayProg P RunApprovalRecord :=
  Prog.perform (GatewayOp.createApproval approval)

abbrev resolveConnectorGrant (connectorId : String) : GatewayProg P (Option ConnectorGrant) :=
  Prog.perform (GatewayOp.resolveConnectorGrant connectorId)

abbrev verifyConnectorGrant (grant : Option ConnectorGrant) (action tenantId principal : String) :
    GatewayProg P GrantVerificationResult :=
  Prog.perform (GatewayOp.verifyConnectorGrant grant action tenantId principal)

abbrev authorize (capabilityId : String) : GatewayProg P AuthorizationResult :=
  Prog.perform (GatewayOp.authorize capabilityId)

abbrev callHandler (capabilityId : String) (payload : P) : GatewayProg P P :=
  Prog.perform (GatewayOp.callHandler capabilityId payload)

end Await

end JavisSaas.Agent.Capabilities
