import Mathlib.Data.List.MinMax
import JavisSaas.Lib.Calls
import JavisSaas.Company.Finance.CasNormalizer
import JavisSaas.Company.Operations.WorkPackages

/-!
# Automation definitions, their revisions and their invocations

`automation-definition.service.ts`, the registry `automation-blueprint-registry.ts` with the bounds
of `automation-blueprint.service.ts`, and `createAutomationInvocation` of
`automation-invocation.service.ts`. A statement reads what is committed; the writes of a transaction
lock their rows until it commits, so they are one step with the commit.
-/

namespace JavisSaas.Company.Operations

open JavisSaas.Lib
open JavisSaas.Company.Finance (JsonValue JsonObject)

/-! ## The registry of blueprints -/

inductive BlueprintFieldType
  | string
  | text
  | number
  | boolean
  | enum
  | date

structure BlueprintFieldSpec where
  key : String
  type : BlueprintFieldType
  required : Bool
  enumValues : List String := []

inductive AutomationAutonomy
  | readOnly
  | draftOnly
  | gatedEffect
  deriving DecidableEq

inductive TriggerKind
  | manual
  | schedule
  | businessEvent
  deriving DecidableEq

def TriggerKind.text : TriggerKind → String
  | manual => "manual"
  | schedule => "schedule"
  | businessEvent => "business_event"

structure CuratedBlueprint where
  key : String
  version : String
  configFields : List BlueprintFieldSpec
  capabilityIds : List String
  autonomyClass : AutomationAutonomy
  evidenceRequires : List String
  triggerKinds : List TriggerKind
  approvalRequired : Bool
  pinnedAgentSpecId : String

def operationsSpec : String := "cosa.agents.operations"

def curatedBlueprints : List CuratedBlueprint := [
  { key := "operating.weekly-review"
    version := "1.0.0"
    configFields := [⟨"projectId", .string, true, []⟩, ⟨"lookbackWeeks", .number, false, []⟩]
    capabilityIds := ["operations.task.read", "strategy.founder_trial.board.read"]
    autonomyClass := .readOnly
    evidenceRequires := ["digest_markdown", "source_refs"]
    triggerKinds := [.manual, .schedule]
    approvalRequired := false
    pinnedAgentSpecId := operationsSpec },
  { key := "operations.task-follow-up"
    version := "1.0.0"
    configFields := [⟨"projectId", .string, true, []⟩, ⟨"staleAfterDays", .number, false, []⟩]
    capabilityIds := ["operations.task.read"]
    autonomyClass := .readOnly
    evidenceRequires := ["follow_up_recommendations", "source_refs"]
    triggerKinds := [.manual, .schedule, .businessEvent]
    approvalRequired := false
    pinnedAgentSpecId := operationsSpec },
  { key := "commercial.outbound-draft"
    version := "1.0.0"
    configFields := [⟨"audienceRef", .string, true, []⟩,
      ⟨"tone", .enum, false, ["neutral", "warm", "formal"]⟩]
    capabilityIds := ["operations.task.read"]
    autonomyClass := .draftOnly
    evidenceRequires := ["draft_artifact", "source_refs"]
    triggerKinds := [.manual]
    approvalRequired := true
    pinnedAgentSpecId := operationsSpec },
  { key := "strategy.initiative-health"
    version := "1.0.0"
    configFields := [⟨"projectId", .string, true, []⟩]
    capabilityIds := ["operations.task.read", "strategy.founder_trial.board.read"]
    autonomyClass := .readOnly
    evidenceRequires := ["deviation_report", "missing_evidence_list", "source_refs"]
    triggerKinds := [.manual, .schedule]
    approvalRequired := false
    pinnedAgentSpecId := operationsSpec }]

def getCuratedBlueprint (key : String) : Option CuratedBlueprint :=
  curatedBlueprints.find? (·.key = key)

theorem key_of_getCuratedBlueprint {key : String} {blueprint : CuratedBlueprint}
    (h : getCuratedBlueprint key = some blueprint) : blueprint.key = key := by
  simpa using List.find?_some h

def lockedFields : List String :=
  ["capabilityIds", "capability_ids", "capabilities", "autonomyClass", "autonomy_class",
    "approvalRequired", "approval_required", "approvalContract", "evidenceContract",
    "evidence_contract", "runtimeRequirement", "runtime_requirement", "pinnedAgentSpecId",
    "pinned_agent_spec_id", "deliversExternally", "delivers_externally", "endpoint", "url",
    "model", "modelProvider", "prompt"]

/-- `assertBlueprintConfigWithinBounds`, for a key of the registry. -/
def assertBlueprintConfigWithinBounds (submitted : JsonObject) : Except ApiError Unit :=
  lockedFields.forM fun field => require (field ∉ submitted.keys) (.invalidArgument
    ("configuration may not set '" ++ field ++ "' — it is fixed by the curated blueprint"))

/-! ## Tables and inputs -/

inductive AutomationLifecycleState
  | draft
  | published
  | suspended
  | retired
  deriving DecidableEq

def AutomationLifecycleState.text : AutomationLifecycleState → String
  | draft => "DRAFT"
  | published => "PUBLISHED"
  | suspended => "SUSPENDED"
  | retired => "RETIRED"

structure AutomationTriggerContract where
  kind : TriggerKind
  schedule : Option String := none
  eventType : Option String := none
  deriving DecidableEq

/-- A row of `automation_definitions`. -/
structure AutomationDefinition where
  workspaceId : ℕ
  automationKey : String
  lifecycleState : AutomationLifecycleState := .draft
  currentRevisionId : Option ℕ := none
  deleted : Bool := false

/-- What a configuration writes into a revision. -/
structure RevisionContent where
  definitionId : ℕ
  revisionNo : ℕ
  revisionHash : String
  configuration : JsonObject
  triggerContract : AutomationTriggerContract
  capabilityIds : List String
  evidenceRequires : List String
  autonomyClass : AutomationAutonomy
  approvalRequired : Bool
  pinnedAgentSpecId : String
  blueprintVersion : String
  deriving DecidableEq

/-- A row of `automation_revisions`; it is published when `published_at` is set. -/
structure AutomationRevision where
  workspaceId : ℕ
  content : RevisionContent
  published : Bool := false

/-- What `revisionHash` is given. -/
structure RevisionHashInput where
  automationKey : String
  revisionNo : ℕ
  configuration : JsonObject
  triggerContract : AutomationTriggerContract
  capabilityIds : List String
  autonomyClass : AutomationAutonomy
  approvalRequired : Bool
  evidenceRequires : List String
  pinnedAgentSpecId : String

structure FingerprintInput where
  definitionId : ℕ
  revisionId : ℕ
  revisionHash : String
  businessScope : JsonObject
  validatedInputRef : Option String

/-- SHA-256 of the canonical JSON of the two inputs. -/
structure AutomationHashes where
  revision : RevisionHashInput → String
  fingerprint : FingerprintInput → String

structure ConfigureParams where
  automationKey : String
  configuration : JsonObject
  triggerContract : AutomationTriggerContract

structure InvocationCommand where
  triggerKind : TriggerKind
  clientRequestId : Option String := none
  scheduleId : Option String := none
  scheduledFor : Option String := none
  triggerId : Option String := none
  eventId : Option String := none
  businessScope : JsonObject := ∅
  validatedInputRef : Option String := none

/-- A row of `automation_invocations`. -/
structure AutomationInvocation where
  workspaceId : ℕ
  definitionId : ℕ
  revisionId : ℕ
  automationKey : String
  revisionNo : ℕ
  revisionHash : String
  idempotencyKey : String
  triggerKind : TriggerKind
  triggerIdentity : String
  businessScope : JsonObject
  validatedInputRef : Option String
  fingerprintHash : String
  state : String := "REQUESTED"

/-- The revision that a publication has validated, and what it has published. -/
structure Publication where
  revisionId : ℕ
  validated : RevisionContent
  published : Option RevisionContent

/-- Whether the revision of an invocation was the current published one when it was created. -/
structure InvocationRecord where
  invocationId : ℕ
  revisionId : ℕ
  wasCurrent : Bool

structure AutomationStore where
  definitions : Dict ℕ AutomationDefinition := ∅
  revisions : Dict ℕ AutomationRevision := ∅
  invocations : Dict ℕ AutomationInvocation := ∅
  publications : List Publication := []
  requested : List InvocationRecord := []

structure AutomationAnswers where
  newId : ℕ := 0
  newRevisionId : ℕ := 0

namespace AutomationStore

/-- `loadDefinitionRow`. -/
def loadDefinition (s : AutomationStore) (workspaceId id : ℕ) : Option AutomationDefinition :=
  (s.definitions.get? id).filter fun d => d.workspaceId = workspaceId && !d.deleted

def definitionOfKey (s : AutomationStore) (workspaceId : ℕ) (key : String) :
    Option (ℕ × AutomationDefinition) :=
  s.definitions.items.find? fun e =>
    e.2.workspaceId = workspaceId && e.2.automationKey = key && !e.2.deleted

/-- The latest unpublished revision. -/
def loadDraft (s : AutomationStore) (workspaceId definitionId : ℕ) :
    Option (ℕ × AutomationRevision) :=
  (s.revisions.items.filter fun e => e.2.content.definitionId = definitionId &&
    e.2.workspaceId = workspaceId && !e.2.published).argmax fun e => e.2.content.revisionNo

def maxRevisionNo (s : AutomationStore) (definitionId : ℕ) : ℕ :=
  ((s.revisions.values.filter fun r => r.content.definitionId = definitionId).map
    fun r => r.content.revisionNo).foldr max 0

end AutomationStore

/-! ## `configureAutomationDefinition` (lines 343–456) -/

/-- `URL_RE`. -/
def containsUrl (s : String) : Bool :=
  ["http://", "https://"].any fun url => url.toList <:+: s.toList.map Char.toLower

/-- The `typeof` checks of a field, with their messages. -/
def BlueprintFieldSpec.checkType (field : BlueprintFieldSpec) (v : JsonValue) :
    Except ApiError Unit :=
  let fail (what : String) : Except ApiError Unit :=
    .error (.invalidArgument ("field '" ++ field.key ++ "' must be " ++ what))
  match field.type, v with
  | .number, .number _ => .ok ()
  | .number, _ => fail "a number"
  | .boolean, .bool _ => .ok ()
  | .boolean, _ => fail "a boolean"
  | .enum, .string s =>
    if s ∈ field.enumValues then .ok ()
    else fail ("one of " ++ ", ".intercalate field.enumValues)
  | .enum, _ => fail ("one of " ++ ", ".intercalate field.enumValues)
  | _, .string _ => .ok ()
  | _, _ => fail "a string"

def BlueprintFieldSpec.check (field : BlueprintFieldSpec) (configuration : JsonObject) :
    Except ApiError Unit :=
  match configuration.get? field.key with
  | none => require (!field.required) (.invalidArgument
      ("missing required field '" ++ field.key ++ "'"))
  | some v => do
    match v with
    | .string s => require (!containsUrl s) (.invalidArgument
        ("field '" ++ field.key ++ "' must not contain a raw URL"))
    | _ => pure ()
    field.checkType v

def validateConfiguration (blueprint : CuratedBlueprint) (configuration : JsonObject) :
    Except ApiError Unit := do
  configuration.keys.forM fun key => require (key ∈ blueprint.configFields.map (·.key))
    (.invalidArgument
      ("unknown configuration field '" ++ key ++ "' for blueprint " ++ blueprint.key))
  blueprint.configFields.forM fun field => field.check configuration

/-- A member that is there and not empty. -/
def filled (member : Option String) : Option String := member.filter (· ≠ "")

def validateTriggerContract (blueprint : CuratedBlueprint) (trigger : AutomationTriggerContract) :
    Except ApiError Unit := do
  require (trigger.kind ∈ blueprint.triggerKinds) (.invalidArgument
    ("blueprint " ++ blueprint.key ++ " does not allow trigger kind '" ++ trigger.kind.text ++ "'"))
  require (trigger.kind = .schedule → (filled trigger.schedule).isSome)
    (.invalidArgument "schedule trigger requires a cron expression")
  require (trigger.kind = .businessEvent → (filled trigger.eventType).isSome)
    (.invalidArgument "business_event trigger requires an eventType")

/-- The checks before the transaction. -/
def checkedBlueprint (p : ConfigureParams) : Except ApiError CuratedBlueprint :=
  match getCuratedBlueprint p.automationKey with
  | none => .error (.invalidArgument ("unknown automation blueprint '" ++ p.automationKey ++ "'"))
  | some blueprint => do
    assertBlueprintConfigWithinBounds p.configuration
    validateConfiguration blueprint p.configuration
    validateTriggerContract blueprint p.triggerContract
    return blueprint

/-- The input of `revisionHash` at a configuration. -/
def CuratedBlueprint.hashInput (blueprint : CuratedBlueprint) (p : ConfigureParams)
    (revisionNo : ℕ) : RevisionHashInput where
  automationKey := blueprint.key
  revisionNo
  configuration := p.configuration
  triggerContract := p.triggerContract
  capabilityIds := blueprint.capabilityIds
  autonomyClass := blueprint.autonomyClass
  approvalRequired := blueprint.approvalRequired
  evidenceRequires := blueprint.evidenceRequires
  pinnedAgentSpecId := blueprint.pinnedAgentSpecId

/-- The `values` of lines 402–415. -/
def CuratedBlueprint.content (hashes : AutomationHashes) (blueprint : CuratedBlueprint)
    (p : ConfigureParams) (definitionId revisionNo : ℕ) : RevisionContent where
  definitionId
  revisionNo
  revisionHash := hashes.revision (blueprint.hashInput p revisionNo)
  configuration := p.configuration
  triggerContract := p.triggerContract
  capabilityIds := blueprint.capabilityIds
  evidenceRequires := blueprint.evidenceRequires
  autonomyClass := blueprint.autonomyClass
  approvalRequired := blueprint.approvalRequired
  pinnedAgentSpecId := blueprint.pinnedAgentSpecId
  blueprintVersion := blueprint.version

/-- The input of `revisionHash` that a revision stores. -/
def RevisionContent.hashInput (c : RevisionContent) (automationKey : String) :
    RevisionHashInput where
  automationKey
  revisionNo := c.revisionNo
  configuration := c.configuration
  triggerContract := c.triggerContract
  capabilityIds := c.capabilityIds
  autonomyClass := c.autonomyClass
  approvalRequired := c.approvalRequired
  evidenceRequires := c.evidenceRequires
  pinnedAgentSpecId := c.pinnedAgentSpecId

/-- A configuration in its transaction. -/
structure Configuring where
  params : ConfigureParams
  workspaceId : ℕ
  blueprint : CuratedBlueprint

def insertRevision (s : AutomationStore) (id : ℕ) (row : AutomationRevision) :
    Except ApiError AutomationStore := do
  require (s.revisions.get? id = none) ⟨"unique_violation", "automation_revisions"⟩
  require (∀ r ∈ s.revisions.values, ¬(r.content.definitionId = row.content.definitionId ∧
      r.content.revisionNo = row.content.revisionNo))
    ⟨"unique_violation", "uix_automation_revisions_definition_no"⟩
  return { s with revisions := s.revisions.set id row }

/-- The definition is missing: it is inserted with its first revision. -/
def insertDefinition (hashes : AutomationHashes) (s : AutomationStore) (c : Configuring)
    (answers : AutomationAnswers) : Except ApiError AutomationStore := do
  require (s.definitions.get? answers.newId = none) ⟨"unique_violation", "automation_definitions"⟩
  require (s.definitionOfKey c.workspaceId c.params.automationKey = none)
    ⟨"unique_violation", "uix_automation_definitions_ws_key"⟩
  insertRevision { s with definitions := s.definitions.set answers.newId {
      workspaceId := c.workspaceId
      automationKey := c.params.automationKey } } answers.newRevisionId
    { workspaceId := c.workspaceId
      content := c.blueprint.content hashes c.params answers.newId 1 }

/-- The draft is updated by its identifier; what it is by then is not asked. -/
def updateRevision (revisions : Dict ℕ AutomationRevision) (id workspaceId : ℕ)
    (content : RevisionContent) : Dict ℕ AutomationRevision :=
  revisions.modify id fun row => { row with workspaceId, content }

/-! ## `publishAutomationRevision` (lines 458–540) and `suspendAutomationDefinition` -/

def publisherRoles : List String := ["founder", "co-founder", "admin"]

/-- `toLowerCase()`, for comparison with texts of ASCII letters. -/
def lowered (s : String) : List Char := s.toList.map Char.toLower

def requirePublisher (ctx : TenantContext) : Except ApiError Unit :=
  require (lowered ctx.membershipRole ∈ publisherRoles.map String.toList) (.permissionDenied
    "automation publish/suspend requires an automation publisher role (founder / co-founder / admin)")

def blueprintOf (d : AutomationDefinition) : Except ApiError CuratedBlueprint :=
  match getCuratedBlueprint d.automationKey with
  | some blueprint => .ok blueprint
  | none => .error ⟨"internal", "unknown blueprint " ++ d.automationKey⟩

/-- The checks of a draft before it is published (lines 497–515). -/
def validateDraft (blueprint : CuratedBlueprint) (content : RevisionContent) :
    Except ApiError Unit := do
  content.capabilityIds.forM fun cap => require (cap ∈ blueprint.capabilityIds)
    (.failedPrecondition ("capability '" ++ cap ++ "' is not permitted for " ++ blueprint.key))
  require (blueprint.autonomyClass = .gatedEffect → content.approvalRequired)
    (.failedPrecondition "gated_effect autonomy requires an approval contract")
  require ("cosa.agents.".toList <+: content.pinnedAgentSpecId.toList)
    (.failedPrecondition "pinned AgentSpec must be a system spec")

def updateDefinition (s : AutomationStore) (id : ℕ)
    (f : AutomationDefinition → AutomationDefinition) : AutomationStore :=
  { s with definitions := s.definitions.modify id f }

def markPublished (revisions : Dict ℕ AutomationRevision) (id : ℕ) : Dict ℕ AutomationRevision :=
  revisions.modify id fun row => { row with published := true }

/-- The two updates of a publication; `validated` is the draft that it has read. -/
def publishWrites (s : AutomationStore) (definitionId revisionId : ℕ)
    (validated : RevisionContent) : AutomationStore :=
  updateDefinition { s with
    revisions := markPublished s.revisions revisionId
    publications := s.publications ++ [⟨revisionId, validated,
      (s.revisions.get? revisionId).map (·.content)⟩] } definitionId fun d => { d with
    currentRevisionId := some revisionId
    lifecycleState := .published }

/-! ## `createAutomationInvocation` (lines 163–326) -/

def InvocationCommand.triggerIdentity (cmd : InvocationCommand) : Except ApiError String :=
  let pair (a b : Option String) (message : String) : Except ApiError String :=
    match filled a, filled b with
    | some a, some b => .ok (a ++ ":" ++ b)
    | _, _ => .error (.invalidArgument message)
  match cmd.triggerKind with
  | .manual => match filled cmd.clientRequestId with
    | some id => .ok id
    | none => .error (.invalidArgument "manual invocation requires clientRequestId")
  | .schedule => pair cmd.scheduleId cmd.scheduledFor
      "schedule invocation requires scheduleId and scheduledFor"
  | .businessEvent => pair cmd.triggerId cmd.eventId
      "business_event invocation requires triggerId and eventId"

/-- An invocation in its transaction, when it has read its definition. -/
structure Invoking where
  definitionId : ℕ
  command : InvocationCommand
  workspaceId : ℕ
  definition : AutomationDefinition
  revisionId : ℕ

/-- The row that is inserted. -/
def Invoking.row (hashes : AutomationHashes) (v : Invoking) (revision : RevisionContent)
    (identity : String) : AutomationInvocation where
  workspaceId := v.workspaceId
  definitionId := v.definitionId
  revisionId := v.revisionId
  automationKey := v.definition.automationKey
  revisionNo := revision.revisionNo
  revisionHash := revision.revisionHash
  idempotencyKey := v.command.triggerKind.text ++ ":" ++ toString v.workspaceId ++ ":" ++
    toString v.revisionId ++ ":" ++ identity
  triggerKind := v.command.triggerKind
  triggerIdentity := identity
  businessScope := v.command.businessScope
  validatedInputRef := v.command.validatedInputRef
  fingerprintHash := hashes.fingerprint {
    definitionId := v.definitionId
    revisionId := v.revisionId
    revisionHash := revision.revisionHash
    businessScope := v.command.businessScope
    validatedInputRef := v.command.validatedInputRef }

/-- `selectExisting`. -/
def AutomationStore.invocationOf (s : AutomationStore) (row : AutomationInvocation) :
    Option AutomationInvocation :=
  s.invocations.values.find? fun i => i.workspaceId = row.workspaceId &&
    i.revisionId = row.revisionId && i.idempotencyKey = row.idempotencyKey

/-- The revision is the current one of the definition, and published. -/
def AutomationStore.IsCurrent (s : AutomationStore) (definitionId revisionId : ℕ) : Prop :=
  (s.definitions.get? definitionId).any (·.currentRevisionId = some revisionId) ∧
    (s.revisions.get? revisionId).any (·.published)
deriving Decidable

/-- An existing invocation is replayed, and a new one inserted. -/
def insertInvocation (s : AutomationStore) (id : ℕ) (row : AutomationInvocation) :
    Except ApiError AutomationStore :=
  match s.invocationOf row with
  | some existing => do
    require (existing.fingerprintHash = row.fingerprintHash) ⟨"already_exists",
      "an invocation with this idempotency key already exists with a different fingerprint"⟩
    return s
  | none => do
    require (s.invocations.get? id = none) ⟨"unique_violation", "automation_invocations"⟩
    return { s with
      invocations := s.invocations.set id row
      requested := s.requested ++
        [⟨id, row.revisionId, s.IsCurrent row.definitionId row.revisionId⟩] }

/-! ## The calls -/

inductive AutomationRequest
  | configure (params : ConfigureParams) (ctx : TenantContext)
  | publish (definitionId : ℕ) (ctx : TenantContext)
  | suspend (definitionId : ℕ) (ctx : TenantContext)
  | invoke (definitionId : ℕ) (command : InvocationCommand) (ctx : TenantContext)

inductive AutomationCall
  | configure (params : ConfigureParams) (ctx : TenantContext)
  /-- There is no definition. -/
  | creating (c : Configuring)
  | configuring (c : Configuring) (definitionId : ℕ)
  /-- The draft was looked for; it is kept with its number. -/
  | numbering (c : Configuring) (definitionId : ℕ) (draft : Option (ℕ × ℕ))
  | saving (c : Configuring) (definitionId : ℕ) (draftId : Option ℕ) (revisionNo : ℕ)
  | publish (definitionId : ℕ) (ctx : TenantContext)
  | validating (definitionId workspaceId : ℕ) (blueprint : CuratedBlueprint)
  | publishing (definitionId revisionId : ℕ) (validated : RevisionContent)
  | suspend (definitionId : ℕ) (ctx : TenantContext)
  | suspending (definitionId : ℕ)
  | invoke (definitionId : ℕ) (command : InvocationCommand) (ctx : TenantContext)
  | reading (v : Invoking)
  | inserting (row : AutomationInvocation)

def AutomationRequest.call : AutomationRequest → AutomationCall
  | configure params ctx => .configure params ctx
  | publish definitionId ctx => .publish definitionId ctx
  | suspend definitionId ctx => .suspend definitionId ctx
  | invoke definitionId command ctx => .invoke definitionId command ctx

namespace AutomationCall

def loadForPublish (s : AutomationStore) (definitionId : ℕ) (ctx : TenantContext) :
    Except ApiError CuratedBlueprint := do
  requirePublisher ctx
  match s.loadDefinition ctx.workspaceId definitionId with
  | none => .error (.notFound "automation definition not found")
  | some d => do
    require (d.lifecycleState ≠ .retired) (.failedPrecondition "automation is retired")
    blueprintOf d

def loadForSuspend (s : AutomationStore) (definitionId : ℕ) (ctx : TenantContext) :
    Except ApiError Unit := do
  requirePublisher ctx
  match s.loadDefinition ctx.workspaceId definitionId with
  | none => .error (.notFound "automation definition not found")
  | some d => do
    let _ ← blueprintOf d
    require (d.lifecycleState = .published)
      (.failedPrecondition "only a PUBLISHED automation can be suspended")

def loadForInvoke (s : AutomationStore) (definitionId : ℕ) (command : InvocationCommand)
    (ctx : TenantContext) : Except ApiError Invoking := do
  require (lowered ctx.membershipRole ≠ "agent".toList)
    (.permissionDenied "an agent cannot invoke an automation")
  match (s.definitions.get? definitionId).filter fun d => d.workspaceId = ctx.workspaceId with
  | none => .error (.notFound "automation definition not found")
  | some d => do
    require (d.lifecycleState = .published) (.failedPrecondition
      ("automation is " ++ d.lifecycleState.text ++ ", not PUBLISHED"))
    match d.currentRevisionId with
    | none => .error (.failedPrecondition "automation has no published revision")
    | some revisionId => do
      let _ ← blueprintOf d
      return ⟨definitionId, command, ctx.workspaceId, d, revisionId⟩

/-- The revision of an invocation is read; what is inserted is made of it. -/
def loadRevision (hashes : AutomationHashes) (s : AutomationStore) (v : Invoking) :
    Except ApiError AutomationInvocation :=
  match (s.revisions.get? v.revisionId).filter fun r => r.workspaceId = v.workspaceId &&
    r.published with
  | none => .error (.failedPrecondition "current revision is not published")
  | some revision => do
    let kind := revision.content.triggerContract.kind
    require (kind = v.command.triggerKind) (.failedPrecondition
      ("published revision trigger kind is '" ++ kind.text ++ "', not '" ++
        v.command.triggerKind.text ++ "'"))
    let identity ← v.command.triggerIdentity
    return v.row hashes revision.content identity

def perform (hashes : AutomationHashes) (s : AutomationStore) (answers : AutomationAnswers) :
    AutomationCall → Except ApiError (AutomationStore × Option AutomationCall)
  | configure params ctx => do
    let blueprint ← checkedBlueprint params
    match s.definitionOfKey ctx.workspaceId params.automationKey with
    | some (id, d) => do
      require (d.lifecycleState ≠ .retired)
        (.failedPrecondition "automation is retired and cannot be reconfigured")
      return (s, some (configuring ⟨params, ctx.workspaceId, blueprint⟩ id))
    | none => return (s, some (creating ⟨params, ctx.workspaceId, blueprint⟩))
  | creating c => do
    let s ← insertDefinition hashes s c answers
    return (s, none)
  | configuring c definitionId =>
    .ok (s, some (numbering c definitionId ((s.loadDraft c.workspaceId definitionId).map
      fun draft => (draft.1, draft.2.content.revisionNo))))
  | numbering c definitionId draft =>
    .ok (s, some (saving c definitionId (draft.map (·.1))
      ((draft.map (·.2)).getD (s.maxRevisionNo definitionId + 1))))
  | saving c definitionId draftId revisionNo =>
    let content := c.blueprint.content hashes c.params definitionId revisionNo
    match draftId with
    | some id =>
      .ok ({ s with revisions := updateRevision s.revisions id c.workspaceId content }, none)
    | none => do
      let s ← insertRevision s answers.newRevisionId { workspaceId := c.workspaceId, content }
      return (s, none)
  | publish definitionId ctx => do
    let blueprint ← loadForPublish s definitionId ctx
    return (s, some (validating definitionId ctx.workspaceId blueprint))
  | validating definitionId workspaceId blueprint =>
    match s.loadDraft workspaceId definitionId with
    | none =>
      .error (.failedPrecondition "nothing to publish — configure the automation first")
    | some (id, draft) => do
      validateDraft blueprint draft.content
      return (s, some (publishing definitionId id draft.content))
  | publishing definitionId revisionId validated =>
    .ok (publishWrites s definitionId revisionId validated, none)
  | suspend definitionId ctx => do
    loadForSuspend s definitionId ctx
    return (s, some (suspending definitionId))
  | suspending definitionId =>
    .ok (updateDefinition s definitionId fun d => { d with lifecycleState := .suspended }, none)
  | invoke definitionId command ctx => do
    let v ← loadForInvoke s definitionId command ctx
    return (s, some (reading v))
  | reading v => do
    let row ← loadRevision hashes s v
    return (s, some (inserting row))
  | inserting row => do
    let s ← insertInvocation s answers.newId row
    return (s, none)

/-- A call that fails leaves the tables as they were. -/
def step (hashes : AutomationHashes) (s : AutomationStore) (call : AutomationCall)
    (answers : AutomationAnswers) : Option (AutomationStore × Option AutomationCall) :=
  some ((call.perform hashes s answers).toOption.getD (s, none))

end AutomationCall

def automationCalls (hashes : AutomationHashes) :
    Service AutomationRequest AutomationStore AutomationCall AutomationAnswers where
  start := AutomationRequest.call
  step := AutomationCall.step hashes

end JavisSaas.Company.Operations
