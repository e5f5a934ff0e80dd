import Mathlib.Data.Int.Notation
import JavisSaas.Lib.Calls
import JavisSaas.Lib.Dict
import JavisSaas.Lib.Fallible

/-!
# Events that command a founder asset

`apps/cosa/events/router.py` (the branch of `founder.asset.commanded.v1`), `founder_asset_events.py`
and `founder_asset_callback_outbox.py`. A verified event is recorded in the inbox, its command is
authored, the callback is stored and sent, each with a commit of its own; the event may come again
at any time. What validation makes of a payload is given with it; the authoring services, the client
of the callback and the failures of the database are answers of the environment.

* `FounderAssetCommand.plan`, `FounderAssetCommand.callback`: what a command asks, and what is sent.
* `founderAssetCalls`: the deliveries, in any interleaving.
-/

namespace JavisSaas.Cosa.Events

open JavisSaas.Lib

/-! ## Commands -/

inductive AssetKind where
  | agent
  | skill
  | workflow
  deriving DecidableEq

/-- `AssetKind(…)`, which raises on other texts. -/
def AssetKind.ofString? : String → Option AssetKind
  | "AGENT" => some agent
  | "SKILL" => some skill
  | "WORKFLOW" => some workflow
  | _ => none

structure AssetRef where
  assetId : String
  version : Option String := none
  definitionHash : Option String := none
  deriving DecidableEq

structure FounderAssetCommand (J : Type) where
  commandId : String
  workspaceId : String
  projectId : Option String := none
  assetKind : String
  operation : String
  assetRef : AssetRef
  expectedVersion : ℤ := 1
  idempotencyKey : String
  reason : String
  metadata : Dict String J := ∅
  deriving DecidableEq

/-- Its keys, the text under `commandId`, and what the validation of the model makes of it. -/
structure CommandPayload (J : Type) where
  keys : List String
  commandId : Option String
  validated : Except String (FounderAssetCommand J)

def FORBIDDEN_KEYS : List String :=
  ["secret", "password", "access_token", "api_key", "raw_prompt", "prompt_override"]

/-- `validate_founder_asset_command_payload`. -/
def CommandPayload.validate {J : Type} (payload : CommandPayload J) :
    Except String (FounderAssetCommand J) :=
  match FORBIDDEN_KEYS.find? (· ∈ payload.keys) with
  | some forbidden => .error ("payload contains forbidden key: " ++ forbidden)
  | none => payload.validated.mapError ("invalid founder asset command: " ++ ·)

/-- What is read of an envelope. -/
structure AssetEnvelope (J : Type) where
  workspaceId : String
  eventId : String
  actorId : String
  payload : CommandPayload J

/-- The key of the event in the inbox; the consumer is always the same. -/
def AssetEnvelope.key {J : Type} (env : AssetEnvelope J) : String × String :=
  (env.workspaceId, env.eventId)

/-! ## Authoring -/

inductive AssetScope where
  | workspace
  | projectSandbox (projectId : String)

structure PinnedAssetIdentity where
  kind : AssetKind
  assetId : String
  version : String
  definitionHash : String

/-- The calls of the authoring and evaluation services. -/
inductive AuthoringRequest (J : Type) where
  | clone (source : PinnedAssetIdentity) (targetScope : AssetScope) (createdBy : String)
  | cloneAgent (source : PinnedAssetIdentity) (targetScope : AssetScope)
      (createdBy commandId : String) (name description : Option J)
  | createDraft (kind : AssetKind) (assetId version : String) (name : J)
      (description content : Option J) (scope : AssetScope) (createdBy : String)
  | edit (identity : PinnedAssetIdentity) (content : Option J)
  | evaluate (assetId version : String)
  | publish (assetId expectedHash companyCommandRef : String) (version : Option String)

/-- How a call of the services ends; `manifest` is that of the published agent. -/
inductive AuthoringAnswer (J : Type) where
  | asset (ref : AssetRef) (kind : AssetKind) (manifest : Option J)
  | evaluated (status evaluationId : String) (reasonCodes : List String) (structuralResult : J)
  | raised (error : String)

inductive CallbackStatus where
  | success
  | rejected
  | failed
  deriving DecidableEq

structure EvaluationSummary (J : Type) where
  status : String
  evaluationId : String
  structuralResult : J
  deriving DecidableEq

/-- `_status_callback_payload`. -/
structure StatusCallback (J : Type) where
  commandId : String
  workspaceId : String
  projectId : Option String
  assetKind : String
  operation : String
  status : CallbackStatus
  assetRef : AssetRef
  evaluationSummary : Option (EvaluationSummary J)
  safeReasonCode : Option String
  agentManifest : Option J
  deriving DecidableEq

/-- The key of the callback in its outbox. -/
def StatusCallback.key {J : Type} (payload : StatusCallback J) : String × String :=
  (payload.workspaceId, payload.commandId)

/-- The parts of the deployment that are there. -/
structure FounderAssetDeps where
  founderAssetHandler : Bool := false
  authoringService : Bool := true
  evaluationService : Bool := true
  statusCallbackClient : Bool := true
  callbackOutbox : Bool := true

namespace FounderAssetCommand

variable {J : Type} [DecidableEq J] [PyValue J] (cmd : FounderAssetCommand J)

def key : String × String := (cmd.workspaceId, cmd.commandId)

/-- `a or b` for a version or a hash that may be missing. -/
def orElse (text : Option String) (fallback : String) : String :=
  if truthy text then text.getD fallback else fallback

def targetScope : AssetScope :=
  if truthy cmd.projectId then .projectSandbox (cmd.projectId.getD "") else .workspace

def agentCloneScope : Except String AssetScope :=
  if cmd.metadata.get? "scope" = some (PyValue.ofStr "PROJECT_SANDBOX") then
    if truthy cmd.projectId then .ok (.projectSandbox (cmd.projectId.getD ""))
    else .error "PROJECT_SANDBOX scope requires projectId"
  else .ok .workspace

/-- The clone of an agent without a version stands for the built-in of today. -/
def isAgentClone : Prop := cmd.assetKind = "AGENT" ∧ cmd.operation = "CLONE"
deriving Decidable

def source (kind : AssetKind) : PinnedAssetIdentity where
  kind
  assetId := cmd.assetRef.assetId
  version := orElse cmd.assetRef.version (if cmd.isAgentClone then "" else "1.0.0")
  definitionHash :=
    orElse cmd.assetRef.definitionHash (if cmd.isAgentClone then "" else "sha256:placeholder")

/-- The call that the command comes to, if any, or the status and the reason. -/
def plan (deps : FounderAssetDeps) (createdBy : String) (kind : AssetKind) :
    Except (CallbackStatus × String) (Option (AuthoringRequest J)) :=
  match cmd.operation with
  | "CLONE" =>
    if cmd.isAgentClone then
      match cmd.agentCloneScope with
      | .error e => .error (.failed, e)
      | .ok scope => .ok (some (.cloneAgent (cmd.source kind) scope createdBy cmd.commandId
          (cmd.metadata.get? "name") (cmd.metadata.get? "description")))
    else .ok (some (.clone (cmd.source kind) cmd.targetScope createdBy))
  | "CREATE" =>
    .ok (some (.createDraft kind cmd.assetRef.assetId (orElse cmd.assetRef.version "0.1.0")
      ((cmd.metadata.get? "name").getD (PyValue.ofStr cmd.assetRef.assetId))
      (cmd.metadata.get? "description") (cmd.metadata.get? "content") cmd.targetScope createdBy))
  | "EDIT_DRAFT" => .ok (some (.edit (cmd.source kind) (cmd.metadata.get? "content")))
  | "EVALUATE" =>
    .ok (if deps.evaluationService then
      some (.evaluate cmd.assetRef.assetId (orElse cmd.assetRef.version "0.1.0")) else none)
  | "PUBLISH" =>
    .ok (some (.publish cmd.assetRef.assetId (orElse cmd.assetRef.definitionHash "") cmd.commandId
      cmd.assetRef.version))
  | operation => .error (.rejected, "Unsupported operation: " ++ operation)

/-- The callback with this status and reason, which names the asset of the command. -/
def callbackWith (status : CallbackStatus) (safeReasonCode : Option String) : StatusCallback J where
  commandId := cmd.commandId
  workspaceId := cmd.workspaceId
  projectId := cmd.projectId
  assetKind := cmd.assetKind
  operation := cmd.operation
  status
  assetRef := cmd.assetRef
  evaluationSummary := none
  safeReasonCode
  agentManifest := none

/-- The callback after the operation: `answer` is that of the services, where they are called. -/
def callback (deps : FounderAssetDeps) (createdBy : String) (kind : AssetKind)
    (answer : AuthoringAnswer J) : StatusCallback J :=
  match cmd.plan deps createdBy kind with
  | .error (status, reason) => cmd.callbackWith status (some reason)
  | .ok none => cmd.callbackWith .success none
  | .ok (some _) =>
    match answer with
    | .raised e => cmd.callbackWith .failed (some e)
    | .asset ref kind manifest => { cmd.callbackWith .success none with
        assetRef := ref
        agentManifest := if cmd.operation = "PUBLISH" ∧ kind = .agent then manifest else none }
    | .evaluated status evaluationId reasonCodes structuralResult =>
      let passed := status = "PASS"
      { cmd.callbackWith (if passed then .success else .rejected)
          (if passed then none else some (reasonCodes.head?.getD "EVALUATION_FAILED")) with
        evaluationSummary := some { status, evaluationId, structuralResult } }

omit [DecidableEq J] [PyValue J] in
@[simp] theorem key_callbackWith (status : CallbackStatus) (reason : Option String) :
    (cmd.callbackWith status reason).key = cmd.key := rfl

@[simp] theorem key_callback (deps : FounderAssetDeps) (createdBy : String) (kind : AssetKind)
    (answer : AuthoringAnswer J) : (cmd.callback deps createdBy kind answer).key = cmd.key := by
  unfold callback
  split
  · rfl
  · rfl
  · split <;> rfl

end FounderAssetCommand

/-! ## The store -/

inductive IntakeOutcome where
  | pending
  | accepted
  | rejected
  | failed
  | duplicate

structure InboxRow where
  outcome : IntakeOutcome := .pending
  scheduledTaskId : Option String := none

inductive DeliveryStatus where
  | pending
  | delivered
  deriving DecidableEq

structure FounderAssetCallbackRecord (J : Type) where
  payload : StatusCallback J
  deliveryStatus : DeliveryStatus := .pending
  deliveryAttempts : ℕ := 0
  lastError : Option String := none

/-- The inbox, the callbacks, and a ghost: the commands that were authored, in order. -/
structure FounderAssetStore (J : Type) where
  inbox : Dict (String × String) InboxRow := ∅
  outbox : Dict (String × String) (FounderAssetCallbackRecord J) := ∅
  authored : List (String × String) := []

namespace FounderAssetStore

variable {J : Type} (s : FounderAssetStore J)

/-- `inbox.set_outcome`; a missing reason keeps the one that is stored. -/
def setOutcome (key : String × String) (outcome : IntakeOutcome) (reason : Option String) :
    FounderAssetStore J :=
  { s with inbox := s.inbox.modify key fun row =>
      { outcome, scheduledTaskId := reason.or row.scheduledTaskId } }

def markDelivered (key : String × String) : FounderAssetStore J :=
  { s with outbox := s.outbox.modify key fun r =>
      { r with
        deliveryStatus := .delivered
        deliveryAttempts := r.deliveryAttempts + 1
        lastError := none } }

def markFailed (key : String × String) (error : String) : FounderAssetStore J :=
  { s with outbox := s.outbox.modify key fun r =>
      { r with
        deliveryStatus := .pending
        deliveryAttempts := r.deliveryAttempts + 1
        lastError := some (String.ofList (error.toList.take 2048)) } }

/-- `enqueue`: the record that is stored then, unless it has another payload. -/
def enqueue [DecidableEq J] (payload : StatusCallback J) : Except String (FounderAssetStore J) :=
  match s.outbox.get? payload.key with
  | some r =>
    if r.payload = payload then .ok s
    else .error "Founder asset callback payload conflicts with the durable command record"
  | none => .ok { s with outbox := s.outbox.set payload.key { payload } }

end FounderAssetStore

/-! ## Deliveries -/

/-- How a statement or a request ends: it may have its effect although it raises. -/
inductive FounderAssetAnswer (J : Type) where
  | ok
  | lost (error : String)
  | refused (error : String)
  | authored (answer : AuthoringAnswer J)

/-- A delivery of an event, by what it does next. -/
inductive FounderAssetCall (J : Type) where
  /-- `inbox.record`. -/
  | recording (env : AssetEnvelope J)
  /-- `dispatch_founder_asset_command`, up to the end of the authoring. -/
  | dispatching (env : AssetEnvelope J)
  | storing (env : AssetEnvelope J) (payload : StatusCallback J)
  | sending (env : AssetEnvelope J) (payload : StatusCallback J)
  | marking (env : AssetEnvelope J) (payload : StatusCallback J)
  | markingFailed (env : AssetEnvelope J) (payload : StatusCallback J) (error : String)
  /-- `replay_founder_asset_callback`. -/
  | replaying (env : AssetEnvelope J)
  /-- `inbox.set_outcome`. -/
  | settling (env : AssetEnvelope J) (outcome : IntakeOutcome) (reason : Option String)

variable {J : Type}

/-- The command of an event that is accepted. -/
def AssetEnvelope.command (env : AssetEnvelope J) : Except String (FounderAssetCommand J) := do
  let cmd ← env.payload.validate
  require (cmd.workspaceId = env.workspaceId) "workspace mismatch"
  return cmd

/-- `_deliver_callback_record`, up to the request. -/
def deliver (deps : FounderAssetDeps) (env : AssetEnvelope J) (payload : StatusCallback J) :
    FounderAssetCall J :=
  if ¬deps.statusCallbackClient then .settling env .accepted none
  else if ¬deps.callbackOutbox then
    .settling env .failed (some "durable callback outbox is required")
  else .sending env payload

/-- `replay_founder_asset_callback`; `none` is the answer "duplicate". -/
def replay (deps : FounderAssetDeps) (s : FounderAssetStore J) (env : AssetEnvelope J) :
    Option (FounderAssetCall J) :=
  let missing (reason : String) : Option (FounderAssetCall J) :=
    if deps.authoringService ∧ deps.statusCallbackClient then
      some (.settling env .failed (some reason))
    else none
  if ¬deps.callbackOutbox then missing "durable callback outbox is required for authoring replay"
  else
    match s.outbox.get? (env.workspaceId, env.payload.commandId.getD "") with
    | none => missing "durable callback record is missing for an authored command"
    | some r =>
      match r.deliveryStatus with
      | .delivered => none
      | .pending => some (deliver deps env r.payload)

/-- `dispatch_founder_asset_command`: the store and what follows; `none` when it raises. -/
def dispatch [DecidableEq J] [PyValue J] (deps : FounderAssetDeps) (s : FounderAssetStore J)
    (env : AssetEnvelope J) (answer : AuthoringAnswer J) :
    FounderAssetStore J × Option (FounderAssetCall J) :=
  match env.command with
  | .error e => (s, some (.settling env .rejected (some e)))
  | .ok cmd =>
    if deps.founderAssetHandler ∨ ¬deps.authoringService then
      (s, some (.settling env .accepted none))
    else
      match AssetKind.ofString? cmd.assetKind with
      | none => (s, none)
      | some kind =>
        let authored := { s with authored := s.authored ++ [cmd.key] }
        if ¬deps.statusCallbackClient then (authored, some (.settling env .accepted none))
        else if ¬deps.callbackOutbox then
          (authored, some (.settling env .failed (some "durable callback outbox is required")))
        else (authored, some (.storing env (cmd.callback deps env.actorId kind answer)))

/-- One commit or request of a delivery. -/
def FounderAssetCall.step [DecidableEq J] [PyValue J] (deps : FounderAssetDeps)
    (s : FounderAssetStore J) :
    FounderAssetCall J → FounderAssetAnswer J →
      Option (FounderAssetStore J × Option (FounderAssetCall J))
  | .recording env, .ok =>
    match s.inbox.get? env.key with
    | some _ => some (s, some (.replaying env))
    | none => some ({ s with inbox := s.inbox.set env.key {} }, some (.dispatching env))
  | .dispatching env, .authored answer => some (dispatch deps s env answer)
  | .storing env payload, .ok =>
    match s.enqueue payload with
    | .error e =>
      some (s, some (.settling env .failed (some ("callback outbox persistence failed: " ++ e))))
    | .ok s' => some (s', some (deliver deps env payload))
  | .storing env payload, .lost e =>
    some ((s.enqueue payload).toOption.getD s,
      some (.settling env .failed (some ("callback outbox persistence failed: " ++ e))))
  | .storing env _, .refused e =>
    some (s, some (.settling env .failed (some ("callback outbox persistence failed: " ++ e))))
  | .sending env payload, .ok => some (s, some (.marking env payload))
  | .sending env payload, .lost e => some (s, some (.markingFailed env payload e))
  | .sending env payload, .refused e => some (s, some (.markingFailed env payload e))
  | .marking env payload, .ok =>
    some (s.markDelivered payload.key, some (.settling env .accepted none))
  | .marking env payload, .lost e =>
    some (s.markDelivered payload.key, some (.markingFailed env payload e))
  | .marking env payload, .refused e => some (s, some (.markingFailed env payload e))
  | .markingFailed env _ error, .refused _ =>
    some (s, some (.settling env .failed (some ("callback delivery failed: " ++ error))))
  | .markingFailed env payload error, .ok =>
    some (s.markFailed payload.key error,
      some (.settling env .failed (some ("callback delivery failed: " ++ error))))
  | .markingFailed env payload error, .lost _ =>
    some (s.markFailed payload.key error,
      some (.settling env .failed (some ("callback delivery failed: " ++ error))))
  | .replaying env, .ok => some (s, replay deps s env)
  | .settling env outcome reason, .ok => some (s.setOutcome env.key outcome reason, none)
  | _, _ => none

/-- Deliveries of events; one that raises or whose process dies is given up. -/
def founderAssetCalls (J : Type) [DecidableEq J] [PyValue J] (deps : FounderAssetDeps) :
    Service (AssetEnvelope J) (FounderAssetStore J) (FounderAssetCall J) (FounderAssetAnswer J) where
  start := .recording
  step s c a := c.step deps s a

end JavisSaas.Cosa.Events
