import Mathlib.Data.List.Infix
import JavisSaas.Lib.Calls
import JavisSaas.Lib.Dict
import JavisSaas.Lib.Fallible
import JavisSaas.Company.Finance.Money

/-!
# Metric contracts

`services/company/operations/strategy/services/metric-contract.service.ts`. Every operation
reads the contract, or the versions of its metric, and writes by id later; a write is one step.
-/

namespace JavisSaas.Company.Operations

open JavisSaas.Lib

/-! ## Tables -/

inductive MetricContractStatus
  | draft
  | active
  | deprecated
  deriving DecidableEq

def MetricContractStatus.text : MetricContractStatus → String
  | draft => "DRAFT"
  | active => "ACTIVE"
  | deprecated => "DEPRECATED"

structure SourceMapping where
  system : String
  identifier : String
  aggregation : String
  window : String
  deriving DecidableEq

/-- The columns that a draft may change. -/
structure MetricContent where
  displayName : String
  unit : String
  numeratorDefinition : String
  denominatorDefinition : String
  cohortDefinition : String
  sourceMapping : SourceMapping
  cadence : String
  freshUntil : Option ℤ := none
  guardrail : Option String := none
  ownerMemberId : Option ℤ := none
  decisionUse : String
  changeRationale : String
  deriving DecidableEq

/-- A row of `metric_contracts`. -/
structure MetricContract where
  workspaceId : ℕ
  projectId : ℕ
  metricKey : String
  content : MetricContent
  status : MetricContractStatus := .draft
  version : ℕ
  approvalRef : Option String := none
  deriving DecidableEq

/-- The workspace, the project and the metric that the versions are of. -/
def MetricContract.key (contract : MetricContract) : ℕ × ℕ × String :=
  (contract.workspaceId, contract.projectId, contract.metricKey)

/-- An outbox event `strategy.metric_contract.published.v1`. -/
structure MetricPublished where
  contractId : ℕ
  workspaceId : ℕ
  projectId : ℕ
  metricKey : String
  version : ℕ
  approvalRef : String

structure MetricStore where
  /-- The projects that are not deleted, with their workspace. -/
  projects : Dict ℕ ℕ := ∅
  contracts : Dict ℕ MetricContract := ∅
  published : List MetricPublished := []

namespace MetricStore

/-- The contract with an id in a workspace. -/
def find (s : MetricStore) (id workspaceId : ℕ) : Except ApiError MetricContract :=
  match (s.contracts.get? id).filter (·.workspaceId = workspaceId) with
  | some contract => .ok contract
  | none => .error (.notFound "Metric contract không tồn tại trong workspace này")

/-- The highest version of a metric. -/
def maxVersion (s : MetricStore) (key : ℕ × ℕ × String) : Option ℕ :=
  ((s.contracts.values.filter (·.key = key)).map MetricContract.version).max?

end MetricStore

/-! ## `validateSourceMapping` -/

/-- `!s || !s.trim()` -/
def isBlank (s : String) : Bool := (Finance.trim s).isEmpty

/-- The text of a character in a JSON string. -/
def jsonChar (c : Char) : List Char :=
  match c with
  | '"' => ['\\', '"']
  | '\\' => ['\\', '\\']
  | '\x08' => ['\\', 'b']
  | '\x0c' => ['\\', 'f']
  | '\n' => ['\\', 'n']
  | '\r' => ['\\', 'r']
  | '\t' => ['\\', 't']
  | c => if c.toNat < 0x20 then ['\\', 'u', '0', '0', (c.toNat / 16).digitChar, (c.toNat % 16).digitChar]
    else [c]

def jsonString (s : String) : List Char := ['"'] ++ s.toList.flatMap jsonChar ++ ['"']

/-- `JSON.stringify(mapping)`. -/
def SourceMapping.serialized (m : SourceMapping) : List Char :=
  "\x7b\"system\":".toList ++ jsonString m.system ++ ",\"identifier\":".toList ++
    jsonString m.identifier ++ ",\"aggregation\":".toList ++ jsonString m.aggregation ++
    ",\"window\":".toList ++ jsonString m.window ++ "\x7d".toList

/-- `\w` -/
def isWordChar (c : Char) : Bool := c.isAlphanum || c = '_'

/-- `/\b(a|b|…)\b/i`, for words in lower case. -/
def hasWord (words : List String) (text : List Char) : Bool :=
  (text.splitOnP fun c => !isWordChar c).any fun w => String.ofList (w.map Char.toLower) ∈ words

/-- The patterns of `forbiddenPatterns`, with their texts. -/
def forbiddenPatterns : List ((List Char → Bool) × String) :=
  [(hasWord ["select", "insert", "update", "delete", "drop", "union", "alter", "exec", "truncate",
      "grant", "revoke"],
    "/\\b(select|insert|update|delete|drop|union|alter|exec|truncate|grant|revoke)\\b/i"),
   (fun text => ["--".toList, [';'], ['/', '*'], ['*', '/']].any (· <:+: text),
    "/--|;|\\/\\*|\\*\\//"),
   (hasWord ["password", "secret", "token", "apikey", "api_key", "bearer", "credentials"],
    "/\\b(password|secret|token|apikey|api_key|bearer|credentials)\\b/i")]

def validateSourceMapping (m : SourceMapping) : Except ApiError Unit := do
  require (!isBlank m.system) (.invalidArgument "sourceMapping.system is required")
  require (!isBlank m.identifier) (.invalidArgument "sourceMapping.identifier is required")
  require (!isBlank m.aggregation) (.invalidArgument "sourceMapping.aggregation is required")
  require (!isBlank m.window) (.invalidArgument "sourceMapping.window is required")
  forM forbiddenPatterns fun pattern =>
    require (!pattern.1 m.serialized) (.invalidArgument
      ("sourceMapping contains forbidden or insecure tokens/SQL patterns: " ++ pattern.2))

/-! ## The operations -/

structure CreateMetricContract where
  workspaceId : ℕ
  projectId : ℕ
  metricKey : String
  displayName : String
  unit : String
  numeratorDefinition : String
  denominatorDefinition : String
  cohortDefinition : String
  sourceMapping : SourceMapping
  cadence : String
  freshUntil : Option ℤ := none
  guardrail : Option String := none
  ownerMemberId : Option ℤ := none
  decisionUse : String
  changeRationale : Option String := none
  deriving DecidableEq

/-- The columns that an edit or a revision names. -/
structure MetricPatch where
  displayName : Option String := none
  unit : Option String := none
  numeratorDefinition : Option String := none
  denominatorDefinition : Option String := none
  cohortDefinition : Option String := none
  sourceMapping : Option SourceMapping := none
  cadence : Option String := none
  freshUntil : Option ℤ := none
  guardrail : Option String := none
  ownerMemberId : Option ℤ := none
  decisionUse : Option String := none
  changeRationale : Option String := none
  deriving DecidableEq

structure UpdateMetricContract where
  workspaceId : ℕ
  id : ℕ
  patch : MetricPatch
  deriving DecidableEq

structure PublishMetricContract where
  workspaceId : ℕ
  id : ℕ
  approvalRef : String
  actorRole : Option String := none
  deriving DecidableEq

structure ReviseMetricContract where
  workspaceId : ℕ
  id : ℕ
  patch : MetricPatch
  actorRole : Option String := none
  deriving DecidableEq

def assertLifecyclePrivileged (role : Option String) (action : String) : Except ApiError Unit :=
  require (role.any fun r => String.ofList (Finance.trim (r.map Char.toLower)) ∈
      ["founder", "co-founder", "admin"])
    (.permissionDenied ("Action '" ++ action ++ "' requires founder, co-founder, or admin privilege"))

namespace CreateMetricContract

def key (p : CreateMetricContract) : ℕ × ℕ × String := (p.workspaceId, p.projectId, p.metricKey)

def checked (p : CreateMetricContract) (s : MetricStore) : Except ApiError Unit := do
  require (s.projects.get? p.projectId = some p.workspaceId)
    (.notFound "Project không tồn tại trong workspace này")
  require (!isBlank p.metricKey) (.invalidArgument "metricKey is required")
  require (!isBlank p.displayName) (.invalidArgument "displayName is required")
  require (!isBlank p.unit) (.invalidArgument "unit is required")
  require (!isBlank p.numeratorDefinition) (.invalidArgument "numeratorDefinition is required")
  require (!isBlank p.denominatorDefinition) (.invalidArgument "denominatorDefinition is required")
  require (!isBlank p.cohortDefinition) (.invalidArgument "cohortDefinition is required")
  require (!isBlank p.cadence) (.invalidArgument "cadence is required")
  require (p.ownerMemberId.any (· ≠ 0)) (.invalidArgument "ownerMemberId is required")
  require (!isBlank p.decisionUse) (.invalidArgument "decisionUse is required")
  validateSourceMapping p.sourceMapping

/-- The row to insert, after the versions that were read. -/
def row (p : CreateMetricContract) (maxVersion : Option ℕ) : MetricContract where
  workspaceId := p.workspaceId
  projectId := p.projectId
  metricKey := p.metricKey
  content :=
    { displayName := p.displayName, unit := p.unit, numeratorDefinition := p.numeratorDefinition
      denominatorDefinition := p.denominatorDefinition, cohortDefinition := p.cohortDefinition
      sourceMapping := p.sourceMapping, cadence := p.cadence, freshUntil := p.freshUntil
      guardrail := p.guardrail, ownerMemberId := p.ownerMemberId, decisionUse := p.decisionUse
      changeRationale := p.changeRationale.getD "Initial draft" }
  version := match maxVersion with
    | some version => version + 1
    | none => 1

end CreateMetricContract

/-- The content with what the patch names. -/
def MetricPatch.apply (patch : MetricPatch) (content : MetricContent) (changeRationale : String) :
    MetricContent where
  displayName := patch.displayName.getD content.displayName
  unit := patch.unit.getD content.unit
  numeratorDefinition := patch.numeratorDefinition.getD content.numeratorDefinition
  denominatorDefinition := patch.denominatorDefinition.getD content.denominatorDefinition
  cohortDefinition := patch.cohortDefinition.getD content.cohortDefinition
  sourceMapping := patch.sourceMapping.getD content.sourceMapping
  cadence := patch.cadence.getD content.cadence
  freshUntil := patch.freshUntil.or content.freshUntil
  guardrail := patch.guardrail.or content.guardrail
  ownerMemberId := patch.ownerMemberId.or content.ownerMemberId
  decisionUse := patch.decisionUse.getD content.decisionUse
  changeRationale := patch.changeRationale.getD changeRationale

def MetricPatch.checked (patch : MetricPatch) : Except ApiError Unit :=
  match patch.sourceMapping with
  | some mapping => validateSourceMapping mapping
  | none => .ok ()

/-- The contract that an edit reads. -/
def UpdateMetricContract.contract (p : UpdateMetricContract) (s : MetricStore) :
    Except ApiError MetricContract := do
  let contract ← s.find p.id p.workspaceId
  require (contract.status = .draft) (.failedPrecondition
    ("Published metric contracts are immutable. Create a new revision instead (current status: " ++
      contract.status.text ++ ")"))
  p.patch.checked
  return contract

/-- The content that an edit writes, from the contract that it has read. -/
def UpdateMetricContract.content (p : UpdateMetricContract) (contract : MetricContract) :
    MetricContent :=
  p.patch.apply contract.content contract.content.changeRationale

/-- The contract that a publication reads: nothing is left to do for an active one. -/
def PublishMetricContract.contract (p : PublishMetricContract) (s : MetricStore) :
    Except ApiError (Option MetricContract) := do
  assertLifecyclePrivileged p.actorRole "publish metric contract"
  require (!isBlank p.approvalRef)
    (.invalidArgument "approvalRef is required for publishing metric contract")
  let contract ← s.find p.id p.workspaceId
  if contract.status = .active then return none
  else
    require (contract.status = .draft) (.failedPrecondition
      ("Only DRAFT contract can be published (current status: " ++ contract.status.text ++ ")"))
    return some contract

/-- The contract that a revision reads. -/
def ReviseMetricContract.existing (p : ReviseMetricContract) (s : MetricStore) :
    Except ApiError MetricContract := do
  assertLifecyclePrivileged p.actorRole "revise metric contract"
  let existing ← s.find p.id p.workspaceId
  p.patch.checked
  return existing

/-- The revision to insert. -/
def ReviseMetricContract.row (p : ReviseMetricContract) (existing : MetricContract)
    (maxVersion : Option ℕ) : MetricContract where
  workspaceId := p.workspaceId
  projectId := existing.projectId
  metricKey := existing.metricKey
  content := p.patch.apply existing.content ("Revised from v" ++ toString existing.version)
  version := maxVersion.getD existing.version + 1

namespace MetricStore

def insert (s : MetricStore) (id : ℕ) (row : MetricContract) : Except ApiError MetricStore := do
  require (s.contracts.get? id = none) ⟨"unique_violation", "metric_contracts_pkey"⟩
  return { s with contracts := s.contracts.set id row }

/-- The update of a draft, by id and workspace. -/
def edit (s : MetricStore) (p : UpdateMetricContract) (contract : MetricContract) :
    Except ApiError MetricStore :=
  match (s.contracts.get? p.id).filter (·.workspaceId = p.workspaceId) with
  | none => .error (.internal "Failed to update metric contract draft")
  | some row =>
    .ok { s with contracts := s.contracts.set p.id { row with content := p.content contract } }

/-- The transaction of a publication: the update by id and workspace, and the event. -/
def publish (s : MetricStore) (p : PublishMetricContract) (contract : MetricContract) :
    Except ApiError MetricStore :=
  match (s.contracts.get? p.id).filter (·.workspaceId = p.workspaceId) with
  | none => .error ⟨"aborted", "Metric contract was updated concurrently"⟩
  | some row => .ok { s with
      contracts := s.contracts.set p.id
        { row with status := .active, approvalRef := some p.approvalRef }
      published := s.published ++ [{
        contractId := p.id
        workspaceId := p.workspaceId
        projectId := contract.projectId
        metricKey := contract.metricKey
        version := contract.version
        approvalRef := p.approvalRef }] }

end MetricStore

/-! ## The calls -/

inductive MetricRequest
  | create (p : CreateMetricContract)
  | update (p : UpdateMetricContract)
  | publish (p : PublishMetricContract)
  | revise (p : ReviseMetricContract)

inductive MetricCall
  | create (p : CreateMetricContract)
  | numbering (p : CreateMetricContract)
  /-- `row` comes after `read`, the highest version that was read. -/
  | inserting (row : MetricContract) (read : Option ℕ)
  | update (p : UpdateMetricContract)
  /-- The contract `contract` is edited, whatever it is by then. -/
  | editing (p : UpdateMetricContract) (contract : MetricContract)
  | publish (p : PublishMetricContract)
  /-- The contract `contract` is published, whatever it is by then. -/
  | publishing (p : PublishMetricContract) (contract : MetricContract)
  | revise (p : ReviseMetricContract)
  | numberingRevision (p : ReviseMetricContract) (existing : MetricContract)
  deriving DecidableEq

def MetricRequest.call : MetricRequest → MetricCall
  | create p => .create p
  | update p => .update p
  | publish p => .publish p
  | revise p => .revise p

namespace MetricCall

/-- The answer is the id of a new row. -/
def perform (s : MetricStore) (newId : ℕ) :
    MetricCall → Except ApiError (MetricStore × Option MetricCall)
  | create p => do
    p.checked s
    return (s, some (numbering p))
  | numbering p =>
    let read := s.maxVersion p.key
    .ok (s, some (inserting (p.row read) read))
  | inserting row _ => do
    let s ← s.insert newId row
    return (s, none)
  | update p => do
    let contract ← p.contract s
    return (s, some (editing p contract))
  | editing p contract => do
    let s ← s.edit p contract
    return (s, none)
  | publish p => do
    let contract ← p.contract s
    return (s, contract.map (publishing p))
  | publishing p contract => do
    let s ← s.publish p contract
    return (s, none)
  | revise p => do
    let existing ← p.existing s
    return (s, some (numberingRevision p existing))
  | numberingRevision p existing =>
    let read := s.maxVersion (p.workspaceId, existing.projectId, existing.metricKey)
    .ok (s, some (inserting (p.row existing read) read))

/-- A call that fails is rolled back. -/
def step (s : MetricStore) (call : MetricCall) (newId : ℕ) :
    Option (MetricStore × Option MetricCall) :=
  some ((call.perform s newId).toOption.getD (s, none))

end MetricCall

def metricCalls : Service MetricRequest MetricStore MetricCall ℕ where
  start := MetricRequest.call
  step := MetricCall.step

end JavisSaas.Company.Operations
