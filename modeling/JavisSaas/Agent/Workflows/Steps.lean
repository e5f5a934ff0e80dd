import Mathlib.Data.List.Infix
import JavisSaas.Agent.Capabilities.Contracts
import JavisSaas.Agent.Workflows.Models

/-!
# The steps that pause a workflow

`ApprovalGateStep` (`approval_step.py`), `GatewayToolCallStep` (`tool_step.py`)
and the live authority check they share (`live_authority.py`). What the services
behind a step answer during one execution is a value of `Answers`.
-/

namespace JavisSaas.Agent.Workflows

open JavisSaas.Lib JavisSaas.Agent.Capabilities

variable {V O : Type}

/-! ## Services -/

/-- The deployment authority that Company returns. -/
structure Authority (V : Type) where
  state : String
  workspaceId : Option V
  projectId : Option V

/-- The attributes of a pinned manifest in the state. -/
structure Manifest (V : Type) where
  workspaceId : Option V
  projectId : Option V
  projectAgentDeploymentId : Option V

/-- `definition_hash` of an approval subject: read from the state, or the
    SHA-256 digest of a text. -/
inductive SubjectHash (V : Type) where
  | stored (hash : V)
  | sha256 (text : String)

/-- The arguments of `create_change_approval_request`. -/
structure ChangeApprovalRequest (V : Type) where
  workspaceId : V
  projectId : Option V
  action : String
  subjectRef : String
  definitionHash : SubjectHash V
  requirementRole : String := "operator"
  requirementRunId : Option V
  requester : String

structure ApprovalRecord where
  status : String
  reason : Option String := none

/-- What the outside world answers during one execution of a step. -/
structure Answers (V O : Type) where
  /-- `resolve_authority`; `none` when it raises. -/
  authority : Option (Authority V) := none
  /-- `policy_engine.evaluate`, as text. -/
  decision : String := "REQUIRE_APPROVAL"
  /-- The id of the record that `create_change_approval_request` returns. -/
  createApproval : ChangeApprovalRequest V → String := fun _ => ""
  getApproval : String → Option ApprovalRecord := fun _ => none
  /-- `uuid4().hex[:12]`, drawn for a run id and for a tool call id. -/
  runUuid : String := ""
  callUuid : String := ""
  /-- `gateway.execute`. -/
  gateway : GatewayExecutionRequest (Dict String V) → GatewayExecutionResult V
  /-- Whatever another kind of step consults. -/
  other : O

/-! ## Live authority -/

variable [PyValue V]

/-- `manifest` reads the attributes of the object under `_manifest` or `manifest`. -/
def resolveDeploymentContext (manifest : V → Manifest V) (state : Dict String V) :
    Option V × Option V × Option V :=
  match firstTruthy [state.get? "_manifest", state.get? "manifest"] with
  | some m =>
    (firstTruthy [(manifest m).workspaceId, state.get? "workspace_id"],
      firstTruthy [(manifest m).projectId, state.get? "project_id"],
      firstTruthy [(manifest m).projectAgentDeploymentId, state.get? "project_agent_deployment_id"])
  | none =>
    (state.get? "workspace_id", state.get? "project_id", state.get? "project_agent_deployment_id")

variable [DecidableEq V]

/-- `check_live_deployment_authority`: the reason of a refusal, or `none`. -/
def checkLiveDeploymentAuthority (authority : Option (Authority V)) (workspaceId projectId : V) :
    Option String :=
  match authority with
  | none => some "deployment_authority_unavailable"
  | some auth =>
    if auth.state ≠ "ACTIVE" then some "deployment_not_active"
    else if auth.workspaceId ≠ some workspaceId ∨ auth.projectId ≠ some projectId then
      some "deployment_scope_mismatch"
    else none

/-- The check as both steps make it: skipped without a resolver or a pinned
    deployment in the state. -/
def liveAuthorityRefusal (resolver : Option (V → Manifest V)) (state : Dict String V)
    (authority : Option (Authority V)) : Option String :=
  resolver.bind fun manifest =>
    match resolveDeploymentContext manifest state with
    | (some ws, some project, some dep) =>
      if truthy ws && truthy project && truthy dep then
        checkLiveDeploymentAuthority authority ws project
      else none
    | _ => none

/-! ## Approval gates -/

/-- `text in s`. -/
def textIn (text s : String) : Bool := decide (text.toList <:+: s.toList)

/-- The configuration of an `ApprovalGateStep`. -/
structure ApprovalGateStep (V : Type) where
  name : String
  action : String
  subjectKey : String := "subject"
  subjectHashKey : Option String := none
  hasPolicyEngine : Bool := false
  permission : Option String := none
  requester : String := "workflow_engine"
  resolver : Option (V → Manifest V) := none

namespace ApprovalGateStep

variable (gate : ApprovalGateStep V)

def failed (error : String) : StepOutcome V := { status := .failed, error := some error }

/-- The approval request that `run` creates. -/
def request (state : Dict String V) (workspaceId subject : V) : ChangeApprovalRequest V :=
  let instanceId := (state.get? "_workflow_instance_id").elim "wf_instance" PyValue.str
  let definition := (state.get? "_workflow_definition_hash").elim "wf_def" PyValue.str
  let stepId := (state.get? "_workflow_step_id").elim gate.name PyValue.str
  let stored := (gate.subjectHashKey.filter truthy).bind state.get?
  { workspaceId := workspaceId
    projectId := state.get? "project_id"
    action := gate.action
    subjectRef := s!"{instanceId}:{stepId}"
    definitionHash :=
      match stored.filter truthy with
      | some hash => .stored hash
      | none => .sha256 s!"{definition}:{stepId}:{PyValue.str subject}"
    requirementRunId := (state.get? "run_id").filter truthy
    requester := gate.requester }

def run (state : Dict String V) (answers : Answers V O) : StepOutcome V :=
  let decision := answers.decision.toUpper
  let permission := gate.permission.getD "None"
  if gate.hasPolicyEngine && textIn "ALLOW" decision then { status := .completed }
  else if gate.hasPolicyEngine && textIn "DENY" decision then
    failed s!"{permission} is denied by policy"
  else
    match firstTruthy [state.get? "workspace_id"], firstTruthy [state.get? gate.subjectKey] with
    | none, _ => failed "ApprovalGateStep requires trusted 'workspace_id' in state"
    | some _, none =>
      failed s!"ApprovalGateStep requires non-empty subject key '{gate.subjectKey}' in state"
    | some workspaceId, some subject =>
      { status := .waitingApproval
        approvalId := some (answers.createApproval (gate.request state workspaceId subject)) }

def checkPending (approvalId : String) (state : Dict String V) (answers : Answers V O) :
    StepOutcome V :=
  match answers.getApproval approvalId with
  | none => failed s!"approval {approvalId} not found"
  | some approval =>
    let status := approval.status.toLower
    let reason := (approval.reason.filter truthy).getD "denied"
    if status = "pending" then { status := .waitingApproval, approvalId := some approvalId }
    else if status = "approved" then
      match liveAuthorityRefusal gate.resolver state answers.authority with
      | some reason =>
        failed s!"approval continuation blocked by live deployment authority: {reason}"
      | none => { status := .completed }
    else if status = "denied" ∨ status = "rejected" then
      failed s!"approval {approvalId} was denied: {reason}"
    else failed s!"approval {approvalId} in unexpected status: {approval.status}"

theorem checkPending_updates (approvalId : String) (state : Dict String V)
    (answers : Answers V O) : (gate.checkPending approvalId state answers).updates = ∅ := by
  unfold checkPending failed
  split
  · rfl
  · dsimp only
    split_ifs
    · rfl
    · split <;> rfl
    · rfl
    · rfl

/-- The gate as a step of the engine. -/
def step : WorkflowStep (Answers V O) V where
  name := gate.name
  run state answers := (gate.run state answers, state)
  checkPending := some gate.checkPending
  noUpdates := by
    rintro check ⟨⟩ approvalId state answers
    exact gate.checkPending_updates approvalId state answers

end ApprovalGateStep

/-! ## Tool calls -/

/-- `resolveInputs` is `_resolve_inputs`, of the state that is given or made of the declared inputs. -/
structure GatewayToolCallStep (V : Type) where
  name : String
  toolName : String
  resolveInputs : Dict String V → Dict String V
  outputKey : String
  workspaceKey : String := "workspace_id"
  principalKey : String := "principal"
  checkpointRef : Option String := none
  resolver : Option (V → Manifest V) := none

namespace GatewayToolCallStep

variable (tool : GatewayToolCallStep V)

/-- `_tool_call_id_<name>`, the key that the tool call id is kept under. -/
def stateKey : String := "_tool_call_id_" ++ tool.name

/-- The tool call id that an execution submits: the one in the state, or a new one. -/
def toolCallId (state : Dict String V) (answers : Answers V O) : String :=
  (firstTruthy [state.get? tool.stateKey]).elim ("call_" ++ answers.callUuid) PyValue.str

def runId (state : Dict String V) (answers : Answers V O) : String :=
  (firstTruthy [state.get? "run_id", state.get? "workflow_id"]).elim
    ("wf_run_" ++ answers.runUuid) PyValue.str

/-- The request that `run` submits. -/
def request (state : Dict String V) (answers : Answers V O) :
    GatewayExecutionRequest (Dict String V) :=
  let run := runId state answers
  { runId := run
    capabilityId := tool.toolName
    inputPayload := tool.resolveInputs state
    principal :=
      (firstTruthy [state.get? tool.principalKey, state.get? "principal"]).elim "system" PyValue.str
    checkpointRef := (tool.checkpointRef.filter truthy).getD
      ((firstTruthy [state.get? "checkpoint_ref"]).elim s!"ckpt_{run}_{tool.name}" PyValue.str)
    toolCallId := tool.toolCallId state answers
    workspaceId := some
      ((firstTruthy [state.get? tool.workspaceKey, state.get? "workspace_id"]).elim ""
        PyValue.str) }

/-- The outcome that `run` makes of the gateway's result. -/
def outcomeOf (state : Dict String V) (answers : Answers V O) (result : GatewayExecutionResult V) :
    StepOutcome V :=
  match result.status with
  | .waitingApproval =>
    { status := .waitingApproval
      approvalId :=
        match result.waitDescriptor with
        | some wait => wait.relatedRef
        | none => some s!"appr_{runId state answers}_{tool.toolCallId state answers}" }
  | .denied | .failed =>
    { status := .failed
      error := some ((result.errorMessage.filter truthy).getD
        s!"Gateway execution of '{tool.toolName}' failed with status '{result.status.value}'") }
  | _ =>
    { status := .completed
      updates := ((∅ : Dict String V).set tool.outputKey
        (result.outputPayload.getD PyValue.pyNone)).set tool.stateKey
          (PyValue.ofStr (tool.toolCallId state answers)) }

/-- `run`: the outcome, and the state dictionary with the tool call id stored in it. -/
def run (state : Dict String V) (answers : Answers V O) : StepOutcome V × Dict String V :=
  match liveAuthorityRefusal tool.resolver state answers.authority with
  | some reason =>
    ({ status := .failed,
       error := some
        s!"tool_call '{tool.toolName}' blocked by live deployment authority: {reason}" }, state)
  | none =>
    (tool.outcomeOf state answers (answers.gateway (tool.request state answers)),
      if truthy (state.get? tool.stateKey) then state
      else state.set tool.stateKey (PyValue.ofStr (tool.toolCallId state answers)))

/-- The request that an execution submits, if the live authority lets it. -/
def submits (state : Dict String V) (answers : Answers V O) :
    Option (GatewayExecutionRequest (Dict String V)) :=
  match liveAuthorityRefusal tool.resolver state answers.authority with
  | some _ => none
  | none => some (tool.request state answers)

/-- The status that the gateway gives to what an execution submits. -/
def gatewayStatus (state : Dict String V) (answers : Answers V O) : Option GatewayStatus :=
  (tool.submits state answers).map fun request => (answers.gateway request).status

def step : WorkflowStep (Answers V O) V where
  name := tool.name
  run := tool.run
  checkPending := none
  noUpdates := nofun

/-- An execution completes if the gateway's status is none of the three that the step looks for. -/
theorem run_completed_iff (state : Dict String V) (answers : Answers V O) :
    (tool.run state answers).1.status = .completed ↔
      ∃ status, tool.gatewayStatus state answers = some status ∧ status ≠ .waitingApproval ∧
        status ≠ .denied ∧ status ≠ .failed := by
  unfold run gatewayStatus submits outcomeOf
  cases liveAuthorityRefusal tool.resolver state answers.authority with
  | some => simp
  | none =>
    simp only [Option.map_some, Option.some.injEq, exists_eq_left']
    split <;> simp_all

theorem run_waiting_iff (state : Dict String V) (answers : Answers V O) :
    (tool.run state answers).1.status = .waitingApproval ↔
      tool.gatewayStatus state answers = some .waitingApproval := by
  unfold run gatewayStatus submits outcomeOf
  cases liveAuthorityRefusal tool.resolver state answers.authority with
  | some => simp
  | none =>
    simp only [Option.map_some, Option.some.injEq]
    split <;> simp_all

theorem toolCallId_of_submits {state : Dict String V} {answers : Answers V O} {v : V}
    (hget : state.get? tool.stateKey = some v) (hv : truthy v)
    {request : GatewayExecutionRequest (Dict String V)}
    (h : tool.submits state answers = some request) : request.toolCallId = PyValue.str v := by
  unfold submits at h
  split at h
  · cases h
  · cases h
    have hfirst : firstTruthy [some v] = some v := by
      have hsome : truthy (some v) = true := hv
      simp [firstTruthy, hsome]
    show tool.toolCallId state answers = PyValue.str v
    unfold toolCallId
    rw [hget, hfirst]
    rfl

end GatewayToolCallStep

end JavisSaas.Agent.Workflows
