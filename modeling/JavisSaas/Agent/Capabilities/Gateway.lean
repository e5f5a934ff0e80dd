import JavisSaas.Agent.Capabilities.Operations

/-!
# The capability gateway

`packages/agent/capabilities/gateway.py` (`_execute_internal`), `gateway_internals.py` and
`idempotency.py`, step by step. The registry, the schema validation, the hash of a payload and the
need of an authorization ticket are parameters.

* `tryClaim`, `ApprovalGateDecider.decide`: the claim dispatcher and the approval gate.
* `executeInternal`: the pipeline; `runClaimed`: steps 5 to 8.8; `executeHandler`: steps 9 and 10.
-/

namespace JavisSaas.Agent.Capabilities

open JavisSaas.Lib JavisSaas.Agent.Governance JavisSaas.Agent.Runs

variable {P : Type}

/-! ## Configuration -/

structure CapabilitySpec where
  risk : CapabilityRisk := .low
  approvalPolicy : ApprovalPolicy := .policyDriven
  connectorId : Option String := none
  actionClass : Option String := none
  draftOnly : Bool := false
  riskClass : Option String := none

/-- An authorizer, with `is_ticket_required` when it has one. -/
structure LiveAuthorizer where
  isTicketRequired : Option (CapabilitySpec → InvocationContext → String → Bool) := none

/-- `isNone` is `payload is None`, and `upper` is `str.upper`. -/
structure CapabilityGateway (P : Type) where
  registry : String → Option CapabilitySpec
  validateInput : CapabilitySpec → P → List String := fun _ _ => []
  computePayloadHash : P → Except PyException String
  isNone : P → Bool := fun _ => false
  upper : String → String := String.toUpper
  hasPolicyEvaluator : Bool := false
  hasConnectorGrantResolver : Bool := false
  liveAuthorizer : Option LiveAuthorizer := none

/-- A request with its context. -/
structure GatewayCall (P : Type) extends GatewayExecutionRequest P where
  context : InvocationContext := {}

/-! ## Tenancy -/

/-- `str(value).strip() in names` or the value is falsy. -/
def isUnresolved (value : Option String) (names : List String) : Bool :=
  match value with
  | none => true
  | some s => s = "" || names.contains (strip s)

/-- `value!r`, of strings that need no escapes. -/
def pyRepr : Option String → String
  | none => "None"
  | some s => "'" ++ s ++ "'"

/-- `TenancyVerifier.verify`: the resolved workspace and principal. -/
def verifyTenancy (spec : CapabilitySpec) (req : GatewayCall P) :
    Except PyException (String × String) :=
  let needsTenancy := spec.risk = .high ∨ spec.risk = .critical ∨ spec.risk = .medium ∨
    spec.approvalPolicy = .always
  let resolvedWorkspace :=
    if truthy req.workspaceId then req.workspaceId else req.context.workspaceId
  let resolvedPrincipal :=
    if truthy req.principal then some req.principal else req.context.principal
  if needsTenancy ∧ (isUnresolved resolvedWorkspace ["", "default", "default_workspace"] ∨
      isUnresolved resolvedPrincipal ["", "default"]) then
    .error (.tenancyUnresolved (s!"Execution of '{req.capabilityId}' failed: tenancy unresolved " ++
      s!"(workspace_id={pyRepr resolvedWorkspace}, principal={pyRepr resolvedPrincipal})"))
  else .ok (resolvedWorkspace.getD "", resolvedPrincipal.getD "")

/-! ## Idempotency -/

inductive IdempotencyOutcome where
  | claimed
  | cachedCompleted
  | inProgress
  | retried

/-- The end of `try_claim`: the claim found is held by this very invocation, or by another. -/
def resumeClaim (claim record : IdempotencyClaimRecord P) :
    IdempotencyOutcome × IdempotencyClaimRecord P :=
  if record.runId = claim.runId ∧ record.toolCallId = claim.toolCallId then (.claimed, record)
  else (.inProgress, record)

/-- The claim that `try_claim` asks for; `scope_kind` and `scope_key` have their defaults. -/
def newClaim (hex runId toolCallId capabilityId idempotencyKey payloadHash : String) :
    IdempotencyClaimRecord P where
  claimId := "claim_" ++ hex
  capabilityId
  scopeKey := runId
  idempotencyKey
  payloadHash
  runId
  toolCallId

/-- What `try_claim` does with a record that it did not store itself. -/
def resolveExisting (claim record : IdempotencyClaimRecord P) :
    GatewayProg P (IdempotencyOutcome × IdempotencyClaimRecord P) :=
  match record.status with
  | .completed => pure (.cachedCompleted, record)
  | .failed => do
    match ← Await.retryIdempotencyClaim record.claimId with
    | some retried => pure (.retried, retried)
    | none =>
      -- another worker retried or completed it between our read and our retry
      let refreshed ← Await.claimIdempotency claim
      pure (resumeClaim claim refreshed.2)
  | .running => pure (resumeClaim claim record)

def tryClaim (runId toolCallId capabilityId idempotencyKey payloadHash : String) :
    GatewayProg P (IdempotencyOutcome × IdempotencyClaimRecord P) := do
  let hex ← Await.uuid4
  let claim := newClaim hex runId toolCallId capabilityId idempotencyKey payloadHash
  let (claimed, record) ← Await.claimIdempotency claim
  if claimed then pure (.claimed, record) else resolveExisting claim record

/-! ## Compliance -/

/-- `str(value)` of an optional string. -/
def pyStr : Option String → String
  | none => "None"
  | some s => s

/-- The payload of a `compliance.decision` event. -/
def complianceDecisionPayload (req : GatewayCall P) (snap : ComplianceSnapshot)
    (workspaceId decision : String) (reasonCode providerModelRef : Option String) :
    List (String × EventValue) :=
  [("run_id", .str req.runId), ("workspace_id", .str workspaceId),
    ("deployment_id", .str (pyStr snap.deploymentId)),
    ("snapshot_hash", .str (pyStr snap.snapshotHash)),
    ("policy_snapshot_hash", .str (pyStr snap.policySnapshotHash)),
    ("capability_id", .str req.capabilityId), ("tool_call_id", .str req.toolCallId),
    ("checkpoint_ref", .str req.checkpointRef), ("decision", .str decision),
    ("reason_code", .ofOption reasonCode), ("rule_version_ids", .list snap.ruleVersionIds),
    ("evidence_hashes", .list snap.evidenceHashes),
    ("provider_model_ref", .ofOption providerModelRef),
    ("delegation_jti", .ofOption (req.context.delegationJti.filter (· ≠ "")))]

/-- `ComplianceAuditor.audit`: on a suspended deployment a denial, and the event for the caller to
append. -/
def audit (req : GatewayCall P) (workspaceId : String) (currentDecision : PolicyDecision) :
    GatewayProg P (Option (GatewayExecutionResult P × RunEventRecord)) :=
  match req.context.complianceSnapshot with
  | none => pure none
  | some snap =>
    if snap.status.any (· ≠ "") ∧ snap.status ≠ some "APPROVED_FOR_USE" then
      pure (some ({
        toolCallId := req.toolCallId, status := .denied
        errorMessage := some "Execution denied: AI deployment is suspended or not approved" }, {
        runId := req.runId, eventType := "compliance.decision"
        payload := complianceDecisionPayload req snap workspaceId "DENY"
          (some "DEPLOYMENT_SUSPENDED")
          ((some (pyStr snap.providerProfileVersion)).filter (· ≠ "")) }))
    else do
      Await.appendEvent {
        runId := req.runId, eventType := "compliance.decision"
        payload := complianceDecisionPayload req snap workspaceId currentDecision.outcome.value none
          (snap.providerProfileVersion.filter (· ≠ "")) }
      pure none

/-! ## The approval gate -/

/-- The outcome of `ApprovalGateDecider.decide`. -/
inductive ApprovalVerdict (P : Type) where
  | execute
  | wait (result : GatewayExecutionResult P)
  | deny (result : GatewayExecutionResult P)

namespace ApprovalGateDecider

/-- `checkpoint_mismatch`: only when both references are there. -/
def checkpointMismatch (approval : Option RunApprovalRecord) (checkpointRef : String) : Bool :=
  match approval with
  | none => false
  | some a => checkpointRef ≠ "" && truthy a.checkpointRef && a.checkpointRef ≠ some checkpointRef

/-- `payload_hash[:8]`. -/
def hashPrefix (payloadHash : String) : String := String.ofList (payloadHash.toList.take 8)

/-- The pending record that `decide` creates. -/
def newApproval (req : GatewayCall P) (payloadHash : String) (currentDecision : PolicyDecision) :
    RunApprovalRecord where
  approvalId := s!"appr_{req.runId}_{req.toolCallId}"
  runId := some req.runId
  toolCallId := some req.toolCallId
  checkpointRef := some req.checkpointRef
  status := .pending
  action := some req.capabilityId
  subject := some s!"Approval needed for {req.capabilityId} (payload_hash: {hashPrefix payloadHash})"
  requirement := some (currentDecision.requirement.getD (.roleApproval "founder"))

/-- The result that waits for the approval `approvalId`. -/
def waitResult (req : GatewayCall P) (approvalId : String) : GatewayExecutionResult P where
  toolCallId := req.toolCallId
  status := .waitingApproval
  waitDescriptor := some {
    reason := s!"Action '{req.capabilityId}' requires human approval"
    checkpointRef := req.checkpointRef
    relatedRef := some approvalId
    resumeTrigger := "approval.decided" }

/-- Without a usable record a new one is created; a record that is there but not
    approved is waited for. -/
def awaitApproval (req : GatewayCall P) (payloadHash : String) (currentDecision : PolicyDecision)
    (approval : Option RunApprovalRecord) : GatewayProg P (ApprovalVerdict P) :=
  let fresh := newApproval req payloadHash currentDecision
  let create := do
    let _ ← Await.createApproval fresh
    Await.appendEvent {
      runId := req.runId, eventType := "approval.required"
      payload := [("approval_id", .str fresh.approvalId), ("tool_call_id", .str req.toolCallId)] }
    pure (.wait (waitResult req fresh.approvalId))
  match approval with
  | none => create
  | some a =>
    if checkpointMismatch approval req.checkpointRef then create
    else pure (.wait (waitResult req a.approvalId))

/-- The record found lets the invocation through. -/
def isCleared (approval : Option RunApprovalRecord) (checkpointRef : String) : Bool :=
  match approval with
  | none => false
  | some a => a.status = .approved && !checkpointMismatch approval checkpointRef

def decide (req : GatewayCall P) (payloadHash : String) (effectiveOutcome : PolicyOutcome)
    (currentDecision : PolicyDecision) : GatewayProg P (ApprovalVerdict P) :=
  match effectiveOutcome with
  | .requireApproval => do
    let approval ← Await.getApprovalByToolCall req.toolCallId
    if isCleared approval req.checkpointRef then pure .execute
    else awaitApproval req payloadHash currentDecision approval
  | .deny => pure (.deny {
      toolCallId := req.toolCallId, status := .denied
      errorMessage := some s!"Execution of '{req.capabilityId}' denied by policy" })
  | _ => pure .execute

end ApprovalGateDecider

/-! ## The connector grant -/

inductive ConnectorGrantResolution (P : Type) where
  | allowed (grant : Option ConnectorGrant)
  | resolverError (detail : String) (result : GatewayExecutionResult P)
  | denied (detail : String) (result : GatewayExecutionResult P)

/-- `resolve_and_verify`: a resolver that fails denies the execution. -/
def resolveAndVerify (g : CapabilityGateway P) (connectorId : Option String)
    (req : GatewayCall P) : GatewayProg P (ConnectorGrantResolution P) :=
  if ¬truthy connectorId ∨ ¬g.hasConnectorGrantResolver then pure (.allowed none)
  else do
    match ← Prog.attempt (Await.resolveConnectorGrant (connectorId.getD "")) with
    | .error (.connectorGrantDenied code) => pure (.denied code {
        toolCallId := req.toolCallId, status := .denied
        errorMessage := some s!"Execution of '{req.capabilityId}' denied: {code}"
        failure := some (.connectorGrantDenied code) })
    | .error e => pure (.resolverError e.str {
        toolCallId := req.toolCallId, status := .denied
        errorMessage := some (s!"Execution of '{req.capabilityId}' denied: " ++
          "connector grant verification failed") })
    | .ok grant =>
      let verification ← Await.verifyConnectorGrant grant req.capabilityId
        (req.workspaceId.getD "") req.principal
      if verification.isAllowed then pure (.allowed grant)
      else pure (.denied verification.reason {
        toolCallId := req.toolCallId, status := .denied
        errorMessage := some s!"Execution of '{req.capabilityId}' denied: {verification.reason}" })

/-! ## The handler -/

/-- A denial after the claim was granted: record it, release the claim, and log it. -/
def releaseDenied (tc : RunToolCallRecord P) (claimId : String) (errorMessage : Option String)
    (failMessage : String) (event : Option RunEventRecord) : GatewayProg P Unit := do
  Await.saveToolCall { tc with status := .denied, errorMessage }
  let _ ← Await.failIdempotencyClaim claimId failMessage
  match event with
  | none => pure ()
  | some event => Await.appendEvent event

/-- The body of the `try` of steps 9 and 10. -/
def callAndRecord (g : CapabilityGateway P) (req : GatewayCall P) (tc : RunToolCallRecord P)
    (claimId : String) (govState : InvocationGovernanceState) :
    GatewayProg P (GatewayExecutionResult P) := do
  let output ← Await.callHandler req.capabilityId req.inputPayload
  Await.saveToolCall { tc with
    status := .completed, outputPayload := some output, governanceState := some govState }
  let resultHash ← Prog.ofExcept (g.computePayloadHash output)
  let _ ← Await.completeIdempotencyClaim claimId output resultHash
  Await.appendEvent {
    runId := req.runId, eventType := "tool.completed"
    payload := [("tool_call_id", .str req.toolCallId), ("output_hash", .str resultHash),
      ("output_present", .bool !g.isNone output)] }
  pure { toolCallId := req.toolCallId, status := .completed, outputPayload := some output }

/-- The `except Exception` of steps 9 and 10. -/
def recordFailure (req : GatewayCall P) (tc : RunToolCallRecord P) (claimId : String)
    (exc : PyException) : GatewayProg P (GatewayExecutionResult P) := do
  Await.saveToolCall { tc with status := .failed, errorMessage := some exc.str }
  let _ ← Await.failIdempotencyClaim claimId exc.str
  Await.appendEvent {
    runId := req.runId, eventType := "tool.failed"
    payload := [("tool_call_id", .str req.toolCallId), ("error", .str exc.str)] }
  pure {
    toolCallId := req.toolCallId, status := .failed
    errorMessage := some exc.str, failure := some exc }

/-- Steps 9 and 10. -/
def executeHandler (g : CapabilityGateway P) (req : GatewayCall P) (tc : RunToolCallRecord P)
    (claimId : String) (govState : InvocationGovernanceState) :
    GatewayProg P (GatewayExecutionResult P) := do
  Await.appendEvent {
    runId := req.runId, eventType := "tool.started"
    payload := [("tool_call_id", .str req.toolCallId), ("capability", .str req.capabilityId)] }
  Prog.tryCatch (callAndRecord g req tc claimId govState) (recordFailure req tc claimId)

/-! ## The pipeline -/

/-- Step 8.8: `none` when no ticket is needed or one was given, else the denial's text. -/
def checkTicket (g : CapabilityGateway P) (spec : CapabilitySpec) (req : GatewayCall P) :
    GatewayProg P (Option String) :=
  match g.liveAuthorizer with
  | none => pure none
  | some authorizer =>
    let skipTicket := match authorizer.isTicketRequired with
      | some required => !required spec req.context req.capabilityId
      | none => spec.draftOnly || spec.riskClass = some "READ" ||
        [".read", ".list", ".get", ".query"].any fun suffix =>
          decide (suffix.toList <:+ req.capabilityId.toList)
    if skipTicket then pure none
    else do
      let authRes ← Await.authorize req.capabilityId
      if authRes.allowed then pure none
      else
        let rejected := s!"Execution of '{req.capabilityId}' denied: live authorization rejected"
        pure (some ((authRes.errorMessage.filter (· ≠ "")).getD rejected))

/-- Steps 8.7 to 10: the re-checks right before the side effect, then the handler. -/
def recheckAndExecute (g : CapabilityGateway P) (spec : CapabilitySpec) (req : GatewayCall P)
    (tc : RunToolCallRecord P) (claimId : String) (govState : InvocationGovernanceState) :
    GatewayProg P (GatewayExecutionResult P) :=
  match verifyAmbientGovernance req.context with
  | some reason => do
    releaseDenied tc claimId (some s!"Ambient governance denied: {reason}") reason (some {
      runId := req.runId, eventType := "governance.denied"
      payload := [("tool_call_id", .str req.toolCallId), ("reason", .str reason)] })
    pure {
      toolCallId := req.toolCallId, status := .denied
      errorMessage := some s!"Execution of '{req.capabilityId}' denied: {reason}" }
  | none => do
    match ← checkTicket g spec req with
    | some message =>
      releaseDenied tc claimId (some message) message (some {
        runId := req.runId, eventType := "authorization.ticket_denied"
        payload := [("tool_call_id", .str req.toolCallId), ("capability", .str req.capabilityId),
          ("error", .str message)] })
      pure { toolCallId := req.toolCallId, status := .denied, errorMessage := some message }
    | none => executeHandler g req tc claimId govState

/-- Steps 8.5 to 10, once the approval gate let the execution through. -/
def executeApproved (g : CapabilityGateway P) (spec : CapabilitySpec) (req : GatewayCall P)
    (tc : RunToolCallRecord P) (claimId : String) (govState : InvocationGovernanceState) :
    GatewayProg P (GatewayExecutionResult P) := do
  let orDefault := fun detail => if detail = "" then "Connector grant verification failed" else detail
  match ← resolveAndVerify g spec.connectorId req with
  | .resolverError detail result =>
    releaseDenied tc claimId (some s!"Connector grant resolver error: {orDefault detail}")
      (orDefault detail) (some {
        runId := req.runId, eventType := "connector_grant.resolver_error"
        payload := [("tool_call_id", .str req.toolCallId),
          ("connector_id", .ofOption spec.connectorId), ("error", .str (orDefault detail))] })
    pure result
  | .denied detail result =>
    releaseDenied tc claimId (some s!"Connector grant check failed: {orDefault detail}")
      (orDefault detail) (some {
        runId := req.runId, eventType := "connector_grant.denied"
        payload := [("tool_call_id", .str req.toolCallId),
          ("connector_id", .ofOption spec.connectorId), ("reason", .str (orDefault detail))] })
    pure result
  | .allowed _ => recheckAndExecute g spec req tc claimId govState

/-- Steps 7 to 10: accumulate governance, then the approval gate. -/
def governAndExecute (g : CapabilityGateway P) (spec : CapabilitySpec) (req : GatewayCall P)
    (tc : RunToolCallRecord P) (claimId : String) (currentDecision : PolicyDecision) :
    GatewayProg P (GatewayExecutionResult P) := do
  let existing ← Await.loadGovernanceState req.runId req.toolCallId
  let govState := match existing with
    | none => InvocationGovernanceState.start req.runId req.toolCallId currentDecision
    | some existing => existing.accumulate currentDecision
  Await.saveGovernanceState govState currentDecision
  let effectiveOutcome := govState.accumulated.outcome
  match ← ApprovalGateDecider.decide req tc.payloadHash effectiveOutcome currentDecision with
  | .wait result =>
    Await.saveToolCall { tc with
      status := .waitingApproval, governanceState := some govState }
    pure result
  | .deny result =>
    releaseDenied tc claimId none "Denied by policy" none
    pure result
  | .execute => executeApproved g spec req tc claimId govState

/-- `tenant_eval_res`: `None` without an evaluator. -/
def evaluateTenant (g : CapabilityGateway P) (req : GatewayCall P) : GatewayProg P Evaluation :=
  if g.hasPolicyEvaluator then Await.evaluatePolicy req.capabilityId req.inputPayload
  else pure .none

/-- Steps 5 to 10 of an execution that holds the claim. -/
def runClaimed (g : CapabilityGateway P) (spec : CapabilitySpec) (req : GatewayCall P)
    (workspaceId : String) (tc : RunToolCallRecord P) (claimId : String) :
    GatewayProg P (GatewayExecutionResult P) := do
  Await.saveToolCall tc
  Await.appendEvent {
    runId := req.runId, eventType := "tool.requested"
    payload := [("tool_call_id", .str req.toolCallId), ("capability", .str req.capabilityId),
      ("payload_hash", .str tc.payloadHash)] }
  let floorOutcome := capabilityFloor spec.risk spec.approvalPolicy
  let tenantEvalRes ← evaluateTenant g req
  let currentDecision := conjoin g.upper (.outcome floorOutcome) tenantEvalRes
  Await.appendEvent {
    runId := req.runId, eventType := "policy.evaluated"
    payload := [("tool_call_id", .str req.toolCallId),
      ("decision", .str currentDecision.outcome.value)] }
  match ← audit req workspaceId currentDecision with
  | some (result, pendingDenyEvent) =>
    releaseDenied tc claimId none "Deployment suspended or not approved" (some pendingDenyEvent)
    pure result
  | none => governAndExecute g spec req tc claimId currentDecision

/-- The tool call record that the execution starts with. -/
def toolCallRecord (req : GatewayCall P) (payloadHash idempotencyKey : String)
    (status : ToolCallStatus) (errorMessage : Option String) : RunToolCallRecord P where
  toolCallId := req.toolCallId
  runId := req.runId
  checkpointRef := req.checkpointRef
  capabilityId := req.capabilityId
  payloadHash
  inputPayload := req.inputPayload
  idempotencyKey
  status
  errorMessage

/-- Step 5: claim, then run, return the cached result, or turn the request away. -/
def claimAndRun (g : CapabilityGateway P) (spec : CapabilitySpec) (req : GatewayCall P)
    (workspaceId payloadHash idempotencyKey : String) :
    GatewayProg P (GatewayExecutionResult P) := do
  let (outcome, claim) ←
    tryClaim req.runId req.toolCallId req.capabilityId idempotencyKey payloadHash
  match outcome with
  | .cachedCompleted => pure {
      toolCallId := req.toolCallId, status := .completed
      outputPayload := claim.resultPayload, cachedIdempotency := true }
  | .inProgress => pure {
      toolCallId := req.toolCallId, status := .inProgress
      errorMessage := some (s!"Capability '{req.capabilityId}' đang được thực thi bởi lần gọi khác " ++
        s!"với cùng idempotency_key (claim_id={claim.claimId})") }
  | .claimed | .retried =>
    runClaimed g spec req workspaceId (toolCallRecord req payloadHash idempotencyKey .running none)
      claim.claimId

/-- Step 4.8: a capability that is not enabled for the workspace is denied. -/
def denyDisabled (req : GatewayCall P) (payloadHash idempotencyKey actionClass : String)
    (error : Option String) : GatewayProg P (GatewayExecutionResult P) := do
  Await.saveToolCall (toolCallRecord req payloadHash idempotencyKey .denied error)
  Await.appendEvent {
    runId := req.runId, eventType := "capability.enablement_denied"
    payload := [("tool_call_id", .str req.toolCallId), ("capability", .str req.capabilityId),
      ("reason", .ofOption error), ("action_class", .str actionClass)] }
  pure {
    toolCallId := req.toolCallId, status := .denied
    errorMessage := some s!"Execution of '{req.capabilityId}' denied: {pyStr error}" }

/-- `req.idempotency_key or f"{run_id}:{capability_id}:{payload_hash}"`. -/
def idempotencyKeyOf (req : GatewayCall P) (payloadHash : String) : String :=
  (req.idempotencyKey.filter (· ≠ "")).getD s!"{req.runId}:{req.capabilityId}:{payloadHash}"

def extractActionClass (spec : CapabilitySpec) (context : InvocationContext) : String :=
  (firstTruthy [context.actionClass, spec.actionClass]).getD "R"

/-- Steps 3 to 10. -/
def checkAndRun (g : CapabilityGateway P) (spec : CapabilitySpec) (req : GatewayCall P)
    (workspaceId : String) : GatewayProg P (GatewayExecutionResult P) := do
  let payloadHash ← Prog.ofExcept (g.computePayloadHash req.inputPayload)
  let idempotencyKey := idempotencyKeyOf req payloadHash
  let readiness ← Await.checkReadiness req.capabilityId
  if ¬readiness.ready ∧ readiness.reasonCode = .missingCredential then
    pure {
      toolCallId := req.toolCallId, status := .failed
      errorMessage :=
        some s!"Capability readiness error: missing credential ({readiness.details})" }
  else
    let actionClass := extractActionClass spec req.context
    let (isEnabled, enbError) ← Await.assertEnabledForInvocation workspaceId
      req.capabilityId req.context.skillHash actionClass
    if isEnabled then claimAndRun g spec req workspaceId payloadHash idempotencyKey
    else denyDisabled req payloadHash idempotencyKey actionClass enbError

def executeInternal (g : CapabilityGateway P) (req : GatewayCall P) :
    GatewayProg P (GatewayExecutionResult P) :=
  match g.registry req.capabilityId with
  | none => pure {
      toolCallId := req.toolCallId, status := .failed
      errorMessage := some s!"Capability '{req.capabilityId}' not found in registry" }
  | some spec =>
    match verifyTenancy spec req with
    | .error e => pure {
        toolCallId := req.toolCallId, status := .failed
        errorMessage := some e.str, failure := some e }
    | .ok (workspaceId, _) =>
      let errors := g.validateInput spec req.inputPayload
      if errors = [] then checkAndRun g spec req workspaceId
      else
        let joined := ", ".intercalate errors
        pure {
          toolCallId := req.toolCallId, status := .failed, validationErrors := errors
          errorMessage :=
            some s!"Validation failed for capability '{req.capabilityId}': {joined}" }

/-! ## Executions that share a repository -/

/-- A person's decision on an approval. -/
structure ApprovalDecision where
  approvalId : String
  reviewer : String
  approved : Bool
  reason : Option String := none
  evidence : Option Evidence := none

/-- Executions interleaved over one repository, with decisions in between. -/
def workload (g : CapabilityGateway P) :
    Workload (GatewayOp P) GatewayOp.Ans PyException (GatewayExecutionResult P) (GatewayCall P)
      (RunRepository P) ApprovalDecision where
  program := executeInternal g
  exec := GatewayOp.exec
  lasting := GatewayOp.isHandlerCall
  act := fun d repo => (repo.decideApproval d.approvalId d.reviewer d.approved d.reason d.evidence).2

/-- The state of the executions. -/
abbrev GatewayPool (P : Type) :=
  Pool (GatewayOp P) GatewayOp.Ans PyException (GatewayExecutionResult P) (GatewayCall P)
    (RunRepository P)

abbrev GatewayLabel (P : Type) :=
  PoolLabel (GatewayOp P) GatewayOp.Ans PyException (GatewayCall P) ApprovalDecision

def idle : GatewayPool P := { store := RunRepository.empty }

end JavisSaas.Agent.Capabilities
