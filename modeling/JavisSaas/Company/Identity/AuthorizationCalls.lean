import JavisSaas.Lib.Calls
import JavisSaas.Company.Identity.AgentAuthority
import JavisSaas.Company.Identity.PermissionUpdates

/-!
# Authority in flight

Tickets are issued and consumed, capabilities granted and revoked and permissions updated in one
workspace: `agent-authorization-ticket.service.ts`, `agent-authorization.service.ts`,
`authorization.service.ts` and `permissions.service.ts`. Every query is a step, and the writes of a
transaction become visible together. Of two updates of permissions that write one row the second
fails on its policy version in any case, so its wait is left out.
-/

namespace JavisSaas.Company.Identity

open JavisSaas.Lib

/-! ## Inputs -/

structure TenantContext where
  workforceMemberId : Option ℕ := none
  membershipRole : String := ""

structure IssueTicketInput (V : Type) where
  runId : String
  toolCallId : String
  checkpointRef : String
  capabilityId : String
  agentWorkforceMemberId : ℕ
  scope : Option ResourceScope := none
  facts : Option (Dict String V) := none

structure ExpectedTicketConsumption where
  workspaceId : String
  runId : String
  toolCallId : String
  checkpointRef : String
  capabilityId : String
  authorizationEpoch : Option ℕ := none

structure GrantAgentCapabilityInput (V : Type) where
  agentWorkforceMemberId : ℕ
  capabilityId : String
  projectId : Option ℕ := none
  legalEntityId : Option ℕ := none
  constraints : Option (Dict String V) := none
  validUntil : Option ℤ := none

/-- What only a founder may do. -/
inductive FounderOp (V : Type)
  | grant (input : GrantAgentCapabilityInput V)
  | revoke (grantId : String)
  | update (req : UpdatePermissionsRequest V)

inductive AuthorizationRequest (V : Type)
  | issue (input : IssueTicketInput V)
  | consume (ticketId : String) (expected : ExpectedTicketConsumption)
  | byFounder (ctx : TenantContext) (op : FounderOp V)

structure AuthorizationAnswers where
  now : ℤ := 0
  newId : String := ""

/-! ## The store -/

/-- A consumption whose transaction has locked the ticket. -/
structure Consumption where
  ticketId : String
  /-- The row as it was locked. -/
  ticket : AuthorizationTicket
  expected : ExpectedTicketConsumption
  consumedAt : ℤ
  /-- Ghost: the epoch of the workspace when the ticket was checked. -/
  epoch : ℕ
  /-- Ghost: the changes of authority before the check. -/
  changes : ℕ

/-- Ghost: for what a ticket was issued, and the changes of authority before its evaluation. -/
structure TicketIssue (V : Type) where
  input : IssueTicketInput V
  changes : ℕ

/-- Ghost: an update that was committed, with the tables before and after. -/
structure PolicyUpdate (V : Type) where
  request : UpdatePermissionsRequest V
  writes : List (PolicyWrite V)
  version : ℤ
  before : AuthorizationTables V
  after : AuthorizationTables V

structure AuthorizationStore (V : Type) where
  tables : AuthorizationTables V := {}
  /-- The consumptions under way, by the ticket whose row they have locked. -/
  consuming : Dict String Consumption := ∅
  /-- Ghost: the changes of authority so far. -/
  changes : ℕ := 0
  issues : Dict String (TicketIssue V) := ∅
  consumptions : List Consumption := []
  updates : List (PolicyUpdate V) := []

/-- The transaction of an update. -/
structure PolicyTransaction (V : Type) where
  request : UpdatePermissionsRequest V
  currentVersion : ℤ
  startedAt : ℤ
  /-- The mutations that are still to be done. -/
  rest : List (PermissionMutation V)
  writes : List (PolicyWrite V) := []

/-- The queries of an evaluation after the first. -/
inductive AuthorityQuery
  | member
  | binding
  | grants
  | assignments
  | permissions
  deriving DecidableEq

inductive AuthorizationCall (V : Type)
  | issuing (input : IssueTicketInput V)
  | readingPolicyVersion (input : IssueTicketInput V)
  /-- An evaluation before its next query; `changes` is what had changed before the first. -/
  | evaluating (input : IssueTicketInput V) (changes : ℕ) (seen : AuthorityRows V) (now : ℤ)
      (query : AuthorityQuery)
  | readingEpoch (input : IssueTicketInput V) (changes : ℕ)
  | inserting (input : IssueTicketInput V) (changes epoch : ℕ) (expiresAt : ℤ)
  | consuming (ticketId : String) (expected : ExpectedTicketConsumption)
  /-- A consumption that holds the lock. -/
  | spending (ticketId : String)
  | findingFounder (ctx : TenantContext) (op : FounderOp V)
  | findingRoles (ctx : TenantContext) (op : FounderOp V) (id : ℕ) (memberType : String)
  | findingState (ctx : TenantContext) (op : FounderOp V) (id : ℕ) (hasActiveFounderRole : Bool)
  | findingAgent (input : GrantAgentCapabilityInput V) (founder : ℕ)
  | findingBinding (input : GrantAgentCapabilityInput V) (founder : ℕ)
  | findingAgentRoles (input : GrantAgentCapabilityInput V) (founder : ℕ)
      (binding : CapabilityPermissionBinding)
  | findingRules (input : GrantAgentCapabilityInput V) (founder : ℕ)
      (binding : CapabilityPermissionBinding) (roleIds : List String)
  | granting (input : GrantAgentCapabilityInput V) (founder : ℕ)
  | findingGrant (grantId : String)
  | revoking (grantId : String)
  | findingVersion (req : UpdatePermissionsRequest V)
  | mutating (tx : PolicyTransaction V)
  | writing (tx : PolicyTransaction V) (write : PolicyWrite V)

namespace AuthorizationRequest

variable {V : Type}

def call : AuthorizationRequest V → AuthorizationCall V
  | issue input => .issuing input
  | consume ticketId expected => .consuming ticketId expected
  | byFounder ctx op => .findingFounder ctx op

end AuthorizationRequest

section

variable {V : Type}

/-! ## `issueAgentAuthorizationTicket` -/

def IssueTicketInput.evaluateInput (workspaceId : ℕ) (input : IssueTicketInput V) :
    EvaluateAgentCapabilityInput V where
  workspaceId
  agentWorkforceMemberId := input.agentWorkforceMemberId
  capabilityId := input.capabilityId
  scope := input.scope.getD { workspaceId := some (toString workspaceId) }
  facts := input.facts.getD ∅

/-- The next query of an evaluation, whose result is kept. -/
def AuthorityQuery.read (t : AuthorizationTables V) (input : EvaluateAgentCapabilityInput V)
    (seen : AuthorityRows V) : AuthorityQuery → AuthorityRows V
  | member => { seen with member := t.memberOf input.workspaceId input.agentWorkforceMemberId }
  | binding => { seen with binding := t.bindings.get? input.capabilityId }
  | grants => { seen with grants := t.grantsOf input }
  | assignments => { seen with
      assignments := t.assignmentsOf input.workspaceId input.agentWorkforceMemberId }
  | permissions => { seen with permissions := t.permissionsOf seen.binding }

def AuthorityQuery.next : AuthorityQuery → Option AuthorityQuery
  | member => some binding
  | binding => some grants
  | grants => some assignments
  | assignments => some permissions
  | permissions => none

/-- An issue goes on only if the evaluation allows. -/
def allowed [JsValue V] (input : EvaluateAgentCapabilityInput V) (now : ℤ)
    (seen : AuthorityRows V) : Except ApiError Unit :=
  match judgeAgentCapability input now seen with
  | .error _ => .error ⟨"unknown", "BigInt"⟩
  | .ok decision =>
    if decision.effect = .allow then .ok ()
    else if "AGENT_CAPABILITY_GRANT_REVOKED" ∈ decision.reasonCodes then
      .error (.permissionDenied
        "AGENT_CAPABILITY_GRANT_REVOKED: agent capability grant has been revoked")
    else .error (.permissionDenied
      ("Agent capability authority denied: " ++ String.intercalate ", " decision.reasonCodes))

def IssueTicketInput.ticket (workspaceId : ℕ) (input : IssueTicketInput V) (epoch : ℕ)
    (expiresAt : ℤ) : AuthorizationTicket where
  workspaceId
  runId := input.runId
  toolCallId := input.toolCallId
  checkpointRef := input.checkpointRef
  capabilityId := input.capabilityId
  agentWorkforceMemberId := input.agentWorkforceMemberId
  authorizationEpoch := epoch
  expiresAt

/-! ## `consumeAgentAuthorizationTicket` -/

/-- The `EXPIRED` that is written before an error is rolled back with the transaction. -/
def ExpectedTicketConsumption.check (expected : ExpectedTicketConsumption) (now : ℤ)
    (ticket : AuthorizationTicket) : Except ApiError Unit := do
  require (ticket.status = "ISSUED") (.failedPrecondition
    s!"authorization ticket already consumed or invalid (status={ticket.status})")
  require (now < ticket.expiresAt) (.failedPrecondition "authorization ticket expired")
  require (toString ticket.workspaceId = expected.workspaceId)
    (.permissionDenied "authorization ticket workspace_id mismatch")
  require (ticket.runId = expected.runId)
    (.permissionDenied "authorization ticket run_id mismatch")
  require (ticket.toolCallId = expected.toolCallId)
    (.permissionDenied "authorization ticket tool_call_id mismatch")
  require (ticket.checkpointRef = expected.checkpointRef)
    (.permissionDenied "authorization ticket checkpoint_ref mismatch")
  require (ticket.capabilityId = expected.capabilityId)
    (.permissionDenied "authorization ticket capability_id mismatch")
  require (expected.authorizationEpoch.all (ticket.authorizationEpoch = ·))
    (.permissionDenied "authorization ticket epoch mismatch")

namespace AuthorizationStore

variable (s : AuthorizationStore V)

/-- The second statement of a consumption, and the commit of its transaction. -/
def spend (c : Consumption) : AuthorizationStore V :=
  { s with
    tables := { s.tables with
      tickets := s.tables.tickets.set c.ticketId
        { c.ticket with status := "CONSUMED", consumedAt := some c.consumedAt } }
    consuming := s.consuming.erase c.ticketId
    consumptions := s.consumptions ++ [c] }

/-- The commit of a change of authority. -/
def change (workspaceId : ℕ) (tables : AuthorizationTables V) : AuthorizationStore V :=
  { s with tables := tables.advanceAuthorizationEpoch workspaceId, changes := s.changes + 1 }

end AuthorizationStore

/-! ## `requireFounderAuthorization` -/

/-- `resolveAuthorizationSubject`: a founder role is in force. -/
def AuthorizationTables.hasActiveFounderRole (t : AuthorizationTables V) (workspaceId id : ℕ)
    (now : ℤ) : Bool :=
  (t.assignmentsOf workspaceId id).any fun a =>
    t.isFounder a && isValidAt a.validFrom a.validUntil now

/-- In `SHADOW` mode a legacy role will do. -/
def AuthorizationState.admits (state : AuthorizationState) (ctx : TenantContext)
    (hasActiveFounderRole : Bool) : Bool :=
  hasActiveFounderRole || (state.enforcementMode ≠ "ENFORCED" &&
    ctx.membershipRole.toLower ∈ ["founder", "co-founder"])

/-! ## `grantAgentCapability` and `revokeAgentCapability` -/

def GrantAgentCapabilityInput.grant (workspaceId : ℕ) (input : GrantAgentCapabilityInput V)
    (founder : ℕ) (answers : AuthorizationAnswers) : AgentCapabilityGrant V where
  id := answers.newId
  workspaceId
  agentWorkforceMemberId := input.agentWorkforceMemberId
  capabilityId := input.capabilityId
  projectId := input.projectId
  legalEntityId := input.legalEntityId
  constraints := input.constraints.getD ∅
  validFrom := answers.now
  validUntil := input.validUntil
  grantedByFounderMemberId := founder

/-- The tables in which a grant is revoked. -/
def AuthorizationTables.revokeGrant (t : AuthorizationTables V) (grantId : String) :
    AuthorizationTables V :=
  { t with
    grants := t.grants.map fun g => if g.id = grantId then { g with status := "REVOKED" } else g }

/-! ## `updatePermissionsService` -/

/-- The tables as the transaction sees them. -/
def PolicyTransaction.view (tx : PolicyTransaction V) (t : AuthorizationTables V) :
    AuthorizationTables V :=
  applyAll t tx.writes

/-- The commit: the epoch is advanced and the policy version inserted, whose key is unique. -/
def PolicyTransaction.commit (workspaceId : ℕ) (tx : PolicyTransaction V)
    (s : AuthorizationStore V) : Except ApiError (AuthorizationStore V) := do
  let version := tx.currentVersion + 1
  require (⟨workspaceId, version⟩ ∉ s.tables.policyVersions)
    ⟨"unique_violation", "workspace_policy_versions_pkey"⟩
  let tables := tx.view s.tables
  let s' := s.change workspaceId { tables with
    policyVersions := tables.policyVersions ++ [⟨workspaceId, version⟩] }
  return { s' with
    updates := s.updates ++ [{
      request := tx.request
      writes := tx.writes
      version
      before := s.tables
      after := s'.tables }] }

/-! ## The calls -/

namespace AuthorizationCall

variable [JsValue V] (isKnownPermission : String → Bool) (workspaceId : ℕ)

/-- What a founder goes on with. -/
def byFounder (founder : ℕ) : FounderOp V → AuthorizationCall V
  | .grant input => findingAgent input founder
  | .revoke grantId => findingGrant grantId
  | .update req => findingVersion req

/-- The steps that issue a ticket. -/
def issueStep (s : AuthorizationStore V) (answers : AuthorizationAnswers) :
    AuthorizationCall V → Except ApiError (AuthorizationStore V × Option (AuthorizationCall V))
  | issuing input => do
    require ((s.tables.memberOf workspaceId input.agentWorkforceMemberId).any fun m =>
        m.status ∈ ["active", "ACTIVE"] && m.memberType = "AI_AGENT")
      (.failedPrecondition s!"Agent workforce member {input.agentWorkforceMemberId} is not an active AI_AGENT in workspace {workspaceId}")
    return (s, some (readingPolicyVersion input))
  | readingPolicyVersion input =>
    let seen : AuthorityRows V := {
      policyVersion := s.tables.latestPolicyVersion workspaceId
      member := none
      binding := none
      grants := []
      assignments := []
      permissions := [] }
    .ok (s, some (evaluating input s.changes seen answers.now .member))
  | evaluating input changes seen now query => do
    -- The queries after a refusal change nothing of it, so they are not left out.
    let seen := query.read s.tables (input.evaluateInput workspaceId) seen
    -- The clock is read when the grants have been returned.
    let now := if query = .grants then answers.now else now
    match query.next with
    | some query => return (s, some (evaluating input changes seen now query))
    | none =>
      allowed (input.evaluateInput workspaceId) now seen
      return (s, some (readingEpoch input changes))
  | readingEpoch input changes =>
    .ok (s, some (inserting input changes (s.tables.epochOf workspaceId) (answers.now + 60000)))
  | inserting input changes epoch expiresAt => do
    require (s.tables.tickets.get? answers.newId = none)
      ⟨"unique_violation", "agent_authorization_tickets_ticket_id_key"⟩
    let tickets := s.tables.tickets.set answers.newId (input.ticket workspaceId epoch expiresAt)
    return ({ s with
      tables := { s.tables with tickets }
      issues := s.issues.set answers.newId ⟨input, changes⟩ }, none)
  | _ => .ok (s, none)

/-- The steps that consume a ticket. -/
def consumeStep (s : AuthorizationStore V) (answers : AuthorizationAnswers) :
    AuthorizationCall V → Except ApiError (AuthorizationStore V × Option (AuthorizationCall V))
  | consuming ticketId expected =>
    match s.tables.tickets.get? ticketId with
    | none => .error (.notFound "authorization ticket not found")
    | some ticket => do
      expected.check answers.now ticket
      let consumption : Consumption := {
        ticketId, ticket, expected
        consumedAt := answers.now
        epoch := s.tables.epochOf ticket.workspaceId
        changes := s.changes }
      return ({ s with consuming := s.consuming.set ticketId consumption },
        some (spending ticketId))
  | spending ticketId =>
    match s.consuming.get? ticketId with
    | none => .ok (s, none)
    | some consumption => .ok (s.spend consumption, none)
  | _ => .ok (s, none)

/-- The steps of `requireFounderAuthorization`. -/
def founderStep (s : AuthorizationStore V) (answers : AuthorizationAnswers) :
    AuthorizationCall V → Except ApiError (AuthorizationStore V × Option (AuthorizationCall V))
  | findingFounder ctx op =>
    match ctx.workforceMemberId with
    | none => .error (.permissionDenied
        "WORKFORCE_MEMBER_REQUIRED: Caller has no workforce member record in workspace")
    | some id =>
      match (s.tables.memberOf workspaceId id).filter (·.status = "active") with
      | none => .error (.permissionDenied "ACTIVE_WORKFORCE_MEMBER_REQUIRED")
      | some member => .ok (s, some (findingRoles ctx op id member.memberType))
  | findingRoles ctx op id memberType => do
    let active := s.tables.hasActiveFounderRole workspaceId id answers.now
    require (memberType = "HUMAN") (.permissionDenied
      "FOUNDER_AUTHORITY_REQUIRED: Only HUMAN members can hold founder authority")
    return (s, some (findingState ctx op id active))
  | findingState ctx op id hasActiveFounderRole =>
    -- The row is inserted whether or not the caller is admitted.
    let s := { s with tables := s.tables.withState workspaceId }
    let state := (s.tables.states.get? workspaceId).getD {}
    .ok (s, if state.admits ctx hasActiveFounderRole then some (byFounder id op) else none)
  | _ => .ok (s, none)

/-- The steps that grant or revoke a capability. -/
def grantStep (s : AuthorizationStore V) (answers : AuthorizationAnswers) :
    AuthorizationCall V → Except ApiError (AuthorizationStore V × Option (AuthorizationCall V))
  | findingAgent input founder => do
    require ((s.tables.memberOf workspaceId input.agentWorkforceMemberId).any fun m =>
        m.memberType = "AI_AGENT" && m.status = "active")
      (.invalidArgument "Target must be an active AI_AGENT in this workspace")
    return (s, some (findingBinding input founder))
  | findingBinding input founder =>
    match s.tables.bindings.get? input.capabilityId with
    | none => .error (.invalidArgument s!"Unknown capability binding: {input.capabilityId}")
    | some binding => .ok (s, some (findingAgentRoles input founder binding))
  | findingAgentRoles input founder binding => do
    let roleIds := (s.tables.assignmentsOf workspaceId input.agentWorkforceMemberId).map (·.roleId)
    require (roleIds ≠ []) (.failedPrecondition "Agent has no active roles in workspace")
    return (s, some (findingRules input founder binding roleIds))
  | findingRules input founder binding roleIds => do
    require ((s.tables.permissionsOf (some binding)).any fun p =>
        p.roleId ∈ roleIds && p.effect ≠ .deny)
      (.failedPrecondition s!"Agent role does not have permission for {binding.permissionKey} (required by {input.capabilityId})")
    return (s, some (granting input founder))
  | granting input founder => do
    require (s.tables.grants.all (·.id ≠ answers.newId))
      ⟨"unique_violation", "agent_capability_grants_pkey"⟩
    let grants := s.tables.grants ++ [input.grant workspaceId founder answers]
    return (s.change workspaceId { s.tables with grants }, none)
  | findingGrant grantId => do
    require (s.tables.grants.any fun g => g.id = grantId && g.workspaceId = workspaceId)
      (.notFound s!"Grant {grantId} not found")
    return (s, some (revoking grantId))
  | revoking grantId => .ok (s.change workspaceId (s.tables.revokeGrant grantId), none)
  | _ => .ok (s, none)

/-- The steps of `updatePermissionsService`. -/
def updateStep (s : AuthorizationStore V) (answers : AuthorizationAnswers) :
    AuthorizationCall V → Except ApiError (AuthorizationStore V × Option (AuthorizationCall V))
  | findingVersion req => do
    let currentVersion := s.tables.latestPolicyVersion workspaceId
    require (req.expectedVersion = currentVersion) (.failedPrecondition
      s!"VERSION_CONFLICT: Expected version {req.expectedVersion} but current is {currentVersion}")
    return (s, some (mutating {
      request := req
      currentVersion
      startedAt := answers.now
      rest := req.mutations }))
  | mutating tx =>
    match tx.rest with
    | m :: rest => do
      let write ← m.check isKnownPermission workspaceId (tx.view s.tables) answers.now
        answers.newId tx.startedAt
      return (s, some (writing { tx with rest } write))
    | [] => do
      let s ← tx.commit workspaceId s
      return (s, none)
  | writing tx write => do
    require (write.admissible (tx.view s.tables)) ⟨"constraint_violation", "member_role_assignments"⟩
    return (s, some (mutating { tx with writes := tx.writes ++ [write] }))
  | _ => .ok (s, none)

def perform (s : AuthorizationStore V) (answers : AuthorizationAnswers)
    (call : AuthorizationCall V) :
    Except ApiError (AuthorizationStore V × Option (AuthorizationCall V)) :=
  match call with
  | issuing _ | readingPolicyVersion _ | evaluating .. | readingEpoch .. | inserting .. =>
    issueStep workspaceId s answers call
  | consuming .. | spending _ => consumeStep s answers call
  | findingFounder .. | findingRoles .. | findingState .. => founderStep workspaceId s answers call
  | findingAgent .. | findingBinding .. | findingAgentRoles .. | findingRules .. | granting ..
  | findingGrant _ | revoking _ => grantStep workspaceId s answers call
  | findingVersion _ | mutating _ | writing .. =>
    updateStep isKnownPermission workspaceId s answers call

/-- `for("update")` waits for a transaction that has locked the ticket. -/
def waits (s : AuthorizationStore V) : AuthorizationCall V → Bool
  | consuming ticketId _ => (s.consuming.get? ticketId).isSome
  | _ => false

def step (s : AuthorizationStore V) (call : AuthorizationCall V) (answers : AuthorizationAnswers) :
    Option (AuthorizationStore V × Option (AuthorizationCall V)) :=
  if call.waits s then none
  else some ((call.perform isKnownPermission workspaceId s answers).toOption.getD (s, none))

/-- The transaction of a consumption that is given up gives its lock back. -/
def abort (s : AuthorizationStore V) : AuthorizationCall V → AuthorizationStore V
  | spending ticketId => { s with consuming := s.consuming.erase ticketId }
  | _ => s

end AuthorizationCall

variable [JsValue V]

/-- The calls in the workspace. -/
def authorization (isKnownPermission : String → Bool) (workspaceId : ℕ) :
    Service (AuthorizationRequest V) (AuthorizationStore V) (AuthorizationCall V)
      AuthorizationAnswers where
  start := AuthorizationRequest.call
  step := AuthorizationCall.step isKnownPermission workspaceId
  abort call s := call.abort s

end

end JavisSaas.Company.Identity
