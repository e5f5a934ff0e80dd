import JavisSaas.Lib.Dict
import JavisSaas.Lib.Fallible
import JavisSaas.Agent.Governance.Policy

/-!
# Sync envelopes and their conflicts

`scope.py`, `envelope.py` and `conflict.py` of `packages/agent/sync`. What the key manager makes
of a payload is given with each envelope, and the hash of a payload and the class of
alphanumeric characters are parameters.
-/

namespace JavisSaas.Agent.Sync

open JavisSaas.Lib JavisSaas.Agent.Governance

/-! ## `scope.py` -/

inductive SyncScope
  | controlMetadata
  | businessModule
  | financeLegal
  | credentials
  | runsMemoryArtifacts
  | transient

inductive ConflictPolicy
  | optimistic
  | humanResolve
  | never
  deriving DecidableEq

structure SyncScopePolicy where
  scope : SyncScope
  syncs : Bool
  conflictPolicy : ConflictPolicy

/-- `_POLICIES` -/
def SyncScope.policy : SyncScope → SyncScopePolicy
  | controlMetadata => ⟨controlMetadata, true, .optimistic⟩
  | businessModule => ⟨businessModule, true, .optimistic⟩
  | financeLegal => ⟨financeLegal, true, .humanResolve⟩
  | credentials => ⟨credentials, false, .never⟩
  | runsMemoryArtifacts => ⟨runsMemoryArtifacts, false, .never⟩
  | transient => ⟨transient, false, .never⟩

def SyncScope.value : SyncScope → String
  | controlMetadata => "CONTROL_METADATA"
  | businessModule => "BUSINESS_MODULE"
  | financeLegal => "FINANCE_LEGAL"
  | credentials => "CREDENTIALS"
  | runsMemoryArtifacts => "RUNS_MEMORY_ARTIFACTS"
  | transient => "TRANSIENT"

/-- `_ENTITY_SCOPE`, by scope. -/
def entityScopes : List (SyncScope × List String) :=
  [(.controlMetadata, ["workspace", "workspace_membership", "workspace_slug", "license",
      "entitlement", "workforce_member"]),
    (.businessModule, ["task", "project", "portfolio", "okr_objective", "okr_cycle", "initiative",
      "customer", "opportunity", "sales_lead", "knowledge_document", "sop_definition"]),
    (.financeLegal, ["financial_transaction", "finance_snapshot", "invoice",
      "legal_entity_profile", "legal_verification_approval", "legal_obligation",
      "approval_record", "workspace_stage_transition", "project_stage_transition",
      "stage_transition_policy", "decision_record"]),
    (.credentials, ["connector_authorization", "connector_secret", "secret",
      "session_connector_grant"]),
    (.runsMemoryArtifacts, ["run", "conversation", "memory_item", "artifact"]),
    (.transient, ["quarantine_object", "temp_file", "cache_entry", "ingestion"])]

/-- `_PREFIX_SCOPE` -/
def prefixScopes : List (String × SyncScope) :=
  [("finance_", .financeLegal), ("legal_", .financeLegal), ("approval_", .financeLegal),
    ("connector_", .credentials), ("secret_", .credentials), ("run_", .runsMemoryArtifacts),
    ("memory_", .runsMemoryArtifacts), ("artifact_", .runsMemoryArtifacts),
    ("temp_", .transient), ("cache_", .transient), ("quarantine_", .transient)]

/-- `s.lower()`, for comparison with ASCII letters, one of which the Kelvin sign becomes. -/
def lower (s : String) : List Char :=
  s.toList.map fun c => if c = '\u212a' then 'k' else c.toLower

/-- The scope of an entity type; one that is not known is critical. -/
def scopeOf (entityType : String) : SyncScope :=
  let key := lower (strip entityType)
  match entityScopes.find? fun entry => entry.2.any (·.toList = key) with
  | some (scope, _) => scope
  | none =>
    match prefixScopes.find? fun entry => entry.1.toList.isPrefixOf key with
    | some (_, scope) => scope
    | none => .financeLegal

def scopeFor (entityType : String) : SyncScopePolicy := (scopeOf entityType).policy

/-! ## `envelope.py` -/

structure SyncEnvelope where
  workspaceId : String
  entityType : String
  entityId : String
  revision : ℤ
  baseRevision : ℤ
  sourceRuntimeNodeId : String
  occurredAt : String
  idempotencyKey : String
  payloadHash : String
  encryptionKeyRef : String
  encryptedPayload : String

inductive SyncError
  | scope (message : String)
  | envelope (message : String)
  | conflict (message : String)
  deriving DecidableEq

def keyRef (workspaceId : String) : String := s!"workspace-dek:{workspaceId}"

/-- What the caller gives; `idempotencyKey` and `occurredAt` have their defaults. -/
structure BuildInput where
  workspaceId : String
  entityType : String
  entityId : String
  revision : ℤ
  baseRevision : ℤ
  sourceRuntimeNodeId : String
  occurredAt : String
  idempotencyKey : String

/-- The hash of the canonical payload, and what the key manager makes of it. -/
def buildSyncEnvelope (input : BuildInput) (payloadHash : String)
    (encryptedPayload : Except SyncError String) : Except SyncError SyncEnvelope := do
  let policy := scopeFor input.entityType
  require (policy.syncs ∧ policy.conflictPolicy ≠ .never) (.scope
    s!"entity_type '{input.entityType}' thuộc scope {policy.scope.value} — KHÔNG sync qua kênh này")
  require (input.baseRevision < input.revision) (.envelope "revision phải > base_revision")
  let encryptedPayload ← encryptedPayload
  return {
    workspaceId := input.workspaceId
    entityType := input.entityType
    entityId := input.entityId
    revision := input.revision
    baseRevision := input.baseRevision
    sourceRuntimeNodeId := input.sourceRuntimeNodeId
    occurredAt := input.occurredAt
    idempotencyKey := input.idempotencyKey
    payloadHash
    encryptionKeyRef := keyRef input.workspaceId
    encryptedPayload }

/-! ## `conflict.py` -/

inductive ConflictResolution
  | apply
  | ignoreStale
  | applyWithAudit
  | queueConflict
  deriving DecidableEq

def resolveIncomingRevision (incoming : SyncEnvelope) (currentRevision : ℤ) :
    Except SyncError ConflictResolution := do
  let policy := scopeFor incoming.entityType
  require (policy.conflictPolicy ≠ .never) (.conflict
    s!"entity_type '{incoming.entityType}' thuộc scope không sync — không reconcile")
  if incoming.revision ≤ currentRevision then return .ignoreStale
  if incoming.baseRevision = currentRevision then return .apply
  if policy.conflictPolicy = .humanResolve then return .queueConflict
  return .applyWithAudit

/-- What a conflict is about: the two sides of it. -/
structure Conflict where
  workspaceId : String
  entityType : String
  entityId : String
  incomingRevision : ℤ
  incomingBaseRevision : ℤ
  currentRevision : ℤ
  sourceRuntimeNodeId : String
  incomingPayloadHash : String
  localPayloadHash : Option String
  deriving DecidableEq

structure ConflictRecord extends Conflict where
  detectedAt : String
  status : String := "AWAITING_HUMAN_RESOLVE"

def conflictOf (incoming : SyncEnvelope) (currentRevision : ℤ) (localPayloadHash : Option String) :
    Conflict where
  workspaceId := incoming.workspaceId
  entityType := incoming.entityType
  entityId := incoming.entityId
  incomingRevision := incoming.revision
  incomingBaseRevision := incoming.baseRevision
  currentRevision
  sourceRuntimeNodeId := incoming.sourceRuntimeNodeId
  incomingPayloadHash := incoming.payloadHash
  localPayloadHash

/-- The name of the file of a conflict; `isAlnum` is `str.isalnum` of a character. -/
def conflictFile (isAlnum : Char → Bool) (incoming : SyncEnvelope) : String :=
  let safeEntity := incoming.entityId.map fun c =>
    if isAlnum c ∨ c ∈ ['.', '_', '-'] then c else '_'
  s!"{incoming.entityType}__{safeEntity}__r{incoming.revision}.json"

/-- `write_conflict_entry` into the files of a directory. -/
def writeConflictEntry (isAlnum : Char → Bool) (files : Dict String ConflictRecord)
    (incoming : SyncEnvelope) (currentRevision : ℤ) (localPayloadHash : Option String)
    (detectedAt : String) : Dict String ConflictRecord :=
  files.set (conflictFile isAlnum incoming)
    { conflictOf incoming currentRevision localPayloadHash with detectedAt }

end JavisSaas.Agent.Sync
