import JavisSaas.Lib.Serial
import JavisSaas.Agent.Runs.Backends
import JavisSaas.Agent.Capabilities.GatePhases

/-!
# Gateway executions one after another

Executions and decisions in sequence over either run repository and a governance store
(`packages/agent/governance/providers`). A statement that a constraint of Postgres refuses raises,
and a lookup by tool call returns one of the rows that it matches.

* `gateSystem`: the executions, with decisions in between.
* `observations`, `creations`: what the history says of an invocation and of an approval.
-/

namespace JavisSaas.Agent.Capabilities

open JavisSaas.Lib JavisSaas.Agent.Governance JavisSaas.Agent.Runs

variable {P : Type}

/-! ## The store -/

/-- The run repository, and the governance states by run and tool call. -/
structure GateStore (P : Type) where
  repo : Backend P
  governance : Dict (String × String) InvocationGovernanceState := ∅

/-- The approvals that `get_approval_by_tool_call` may return. -/
def lookups (durable : Bool) (approvals : Dict String RunApprovalRecord) (toolCallId : String) :
    List (Option RunApprovalRecord) :=
  if durable then
    match PostgresRepository.toolCallRows approvals toolCallId with
    | [] => [none]
    | row :: rows => (row :: rows).map some
  else [approvals.values.find? fun a => a.toolCallId = some toolCallId]

namespace GateStore

/-- The repository of an answer that no constraint refused. -/
def withRepo {A : Type} (s : GateStore P) : Except IntegrityError (A × Backend P) →
    Option (A × GateStore P)
  | .ok x => some (x.1, { s with repo := x.2 })
  | .error _ => none

/-- The operations on the store; the world answers the others, and those that a
    constraint refuses. -/
def exec : (o : GatewayOp P) → GateStore P → Option (o.Ans × GateStore P)
  | .claimIdempotency claim, s => s.withRepo (s.repo.claimIdempotency claim)
  | .completeIdempotencyClaim claimId resultPayload resultHash, s =>
    s.withRepo (.ok (s.repo.completeIdempotencyClaim claimId resultPayload resultHash))
  | .failIdempotencyClaim claimId errorMessage, s =>
    s.withRepo (.ok (s.repo.failIdempotencyClaim claimId errorMessage))
  | .retryIdempotencyClaim claimId, s => s.withRepo (.ok (s.repo.retryIdempotencyClaim claimId))
  | .saveToolCall toolCall, s =>
    s.withRepo ((s.repo.saveToolCall toolCall.runId toolCall.toolCallId).map fun b => ((), b))
  | .loadGovernanceState runId toolCallId, s => some (s.governance.get? (runId, toolCallId), s)
  | .saveGovernanceState state _, s =>
    some ((), { s with governance := s.governance.set (state.runId, state.toolCallId) state })
  | .createApproval approval, s => s.withRepo (s.repo.insertApproval approval)
  | _, _ => none

/-- An operation answers only if no constraint refuses it, and a lookup with a record that
    it matches. -/
def admits : (o : GatewayOp P) → GateStore P → Except PyException o.Ans → Bool
  | .claimIdempotency claim, s, .ok _ => (s.repo.claimIdempotency claim).isOk
  | .saveToolCall toolCall, s, .ok _ =>
    (s.repo.saveToolCall toolCall.runId toolCall.toolCallId).isOk
  | .createApproval approval, s, .ok _ => (s.repo.insertApproval approval).isOk
  | .getApprovalByToolCall toolCallId, s, .ok found =>
    decide (found ∈ lookups s.repo.isDurable s.repo.approvals toolCallId)
  | _, _, _ => true

end GateStore

/-! ## Executions and decisions -/

def ApprovalDecision.apply (d : ApprovalDecision) (b : Backend P) : Backend P :=
  (b.decideApproval d.approvalId d.reviewer d.approved d.reason d.evidence).2

def gateWorkload (g : CapabilityGateway P) :
    Workload (GatewayOp P) GatewayOp.Ans PyException (GatewayExecutionResult P) (GatewayCall P)
      (GateStore P) ApprovalDecision where
  program := executeInternal g
  exec := GateStore.exec
  lasting := GatewayOp.isHandlerCall
  act d s := { s with repo := d.apply s.repo }

/-- The state of the executions, the last of which may be under way. -/
abbrev GatePool (P : Type) :=
  Pool (GatewayOp P) GatewayOp.Ans PyException (GatewayExecutionResult P) (GatewayCall P)
    (GateStore P)

abbrev GateEntry (P : Type) := Entry (GatewayOp P) GatewayOp.Ans PyException (GatewayCall P)

abbrev GateLabel (P : Type) :=
  PoolLabel (GatewayOp P) GatewayOp.Ans PyException (GatewayCall P) ApprovalDecision

/-- Executions in sequence, and decisions between them. -/
abbrev gateSystem (g : CapabilityGateway P) : System (GatePool P) (GateLabel P) :=
  (gateWorkload g).serial GateStore.admits

/-- A store with these runs and nothing else. -/
def openStore (durable : Bool) (runs : Dict String (RunRecord P)) : GateStore P where
  repo := if durable then .postgres { runs } else .memory { RunRepository.empty with runs }

/-- Nothing has been executed. -/
def gateIdle (durable : Bool) (runs : Dict String (RunRecord P)) : GatePool P where
  store := openStore durable runs

/-! ## The history -/

/-- The invocation and the decision of a governance state that was saved. -/
def observation? : GateEntry P → Option ((String × String) × PolicyDecision)
  | .did _ _ (.saveGovernanceState state observation) (.ok _) =>
    some ((state.runId, state.toolCallId), observation)
  | _ => none

/-- What was observed of an invocation, in order. -/
def observations (log : List (GateEntry P)) (invocation : String × String) :
    List PolicyDecision :=
  ((log.filterMap observation?).filter (·.1 = invocation)).map (·.2)

/-- The identifier of an approval that was created, and the request it was created for. -/
def creation? : GateEntry P → Option (String × GatewayCall P)
  | .did _ req (.createApproval approval) (.ok _) => some (approval.approvalId, req)
  | _ => none

/-- The requests that an approval was created for, in order. -/
def creations (log : List (GateEntry P)) (approvalId : String) : List (GatewayCall P) :=
  ((log.filterMap creation?).filter (·.1 = approvalId)).map (·.2)

/-- Creating an approval again replaces the request in memory, and leaves it alone in Postgres. -/
def requester (b : Backend P) (log : List (GateEntry P)) (approvalId : String) :
    Option (GatewayCall P) :=
  if b.isDurable then (creations log approvalId).head?
  else (creations log approvalId).getLast?

end JavisSaas.Agent.Capabilities
