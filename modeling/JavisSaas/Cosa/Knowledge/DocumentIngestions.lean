import Mathlib.Algebra.Ring.Int.Defs
import Mathlib.Algebra.Ring.Nat
import JavisSaas.Lib.ApiError
import JavisSaas.Lib.Calls
import JavisSaas.Lib.Dict
import JavisSaas.Lib.Fallible

/-!
# Document ingestions of the control plane

`services/cosa/services/document-ingestion.service.ts`. A transaction locks the row of the
ingestion before it reads it, so each of them is one step. Only the creation is made of two
statements, the insert and its audit event, and may die between them.
-/

namespace JavisSaas.Cosa.Knowledge

open JavisSaas.Lib

/-! ## States -/

inductive DocumentIngestionState
  | uploading
  | quarantined
  | queued
  | validating
  | converting
  | reviewPending
  | published
  | rejected
  | failed
  | expired
  deriving DecidableEq

namespace DocumentIngestionState

def text : DocumentIngestionState → String
  | uploading => "UPLOADING"
  | quarantined => "QUARANTINED"
  | queued => "QUEUED"
  | validating => "VALIDATING"
  | converting => "CONVERTING"
  | reviewPending => "REVIEW_PENDING"
  | published => "PUBLISHED"
  | rejected => "REJECTED"
  | failed => "FAILED"
  | expired => "EXPIRED"

/-- The check constraint of the column `state`. -/
def ofText? (s : String) : Option DocumentIngestionState :=
  [uploading, quarantined, queued, validating, converting, reviewPending, published, rejected,
    failed, expired].find? (·.text = s)

theorem ofText?_text (s : DocumentIngestionState) : ofText? s.text = some s := by
  cases s <;> decide

/-- `STATE_TRANSITIONS` -/
def transitions : DocumentIngestionState → List DocumentIngestionState
  | uploading => [quarantined]
  | quarantined => [queued]
  | queued => [validating, failed, expired]
  | validating => [converting, failed, expired]
  | converting => [reviewPending, failed, expired]
  | reviewPending => [published, rejected]
  | published => []
  | rejected => []
  | failed => []
  | expired => []

end DocumentIngestionState

def assertValidTransition (fromState toState : DocumentIngestionState) : Except ApiError Unit :=
  require (toState ∈ fromState.transitions) (.invalidArgument
    ("invalid state transition: " ++ fromState.text ++ " → " ++ toState.text ++ ". Allowed: " ++
      if fromState.transitions = [] then "none"
      else ", ".intercalate (fromState.transitions.map DocumentIngestionState.text)))

/-! ## Tables -/

/-- A row of `document_ingestions`, without its id and times. -/
structure DocumentIngestionRecord where
  organizationId : String
  createdBy : String
  originalFilename : String
  declaredMediaType : String
  detectedMediaType : Option String := none
  sizeBytes : Option ℤ := none
  sourceSha256 : Option String := none
  originalObjectKey : Option String := none
  state : DocumentIngestionState
  idempotencyKey : String
  knowledgeSourceId : Option String := none
  converterSpecId : Option String := none
  manifestJson : Option String := none
  failureCode : Option String := none
  claimToken : Option String := none

/-- The unique key of the table. -/
def DocumentIngestionRecord.key (row : DocumentIngestionRecord) : String × String × String :=
  (row.organizationId, row.createdBy, row.idempotencyKey)

inductive ActorKind
  | user
  | worker
  | system
  deriving DecidableEq

/-- A row of `document_ingestion_audit_events`. -/
structure IngestionAuditEvent where
  ingestionId : String
  actorKind : ActorKind
  actorId : String
  oldState : Option DocumentIngestionState
  newState : DocumentIngestionState
  reason : String

structure IngestionStore where
  ingestions : Dict String DocumentIngestionRecord := ∅
  /-- In commit order. -/
  auditEvents : List IngestionAuditEvent := []

namespace IngestionStore

def find (s : IngestionStore) (id : String) : Except ApiError DocumentIngestionRecord :=
  match s.ingestions.get? id with
  | some row => .ok row
  | none => .error (.notFound "ingestion not found")

/-- `getAuditEventsForIngestion`: the changes of state. -/
def eventsOf (s : IngestionStore) (id : String) :
    List (Option DocumentIngestionState × DocumentIngestionState) :=
  (s.auditEvents.filter (·.ingestionId = id)).map fun e => (e.oldState, e.newState)

def put (s : IngestionStore) (id : String) (row : DocumentIngestionRecord) : IngestionStore :=
  { s with ingestions := s.ingestions.set id row }

def audit (s : IngestionStore) (e : IngestionAuditEvent) : IngestionStore :=
  { s with auditEvents := s.auditEvents ++ [e] }

end IngestionStore

/-! ## `SET` with the columns of a patch -/

/-- The columns to set, with the values as the driver sends them: a text, or `NULL`. -/
abbrev ColumnValues := Dict String (Option String)

namespace ColumnValues

/-- A column that may not be null. -/
def column (data : ColumnValues) (name old : String) : Except ApiError String :=
  match data.get? name with
  | none => .ok old
  | some (some value) => .ok value
  | some none => .error ⟨"not_null_violation", name⟩

def nullable (data : ColumnValues) (name : String) (old : Option String) : Option String :=
  (data.get? name).getD old

def bigint (data : ColumnValues) (name : String) (old : Option ℤ) : Except ApiError (Option ℤ) :=
  match data.get? name with
  | none => .ok old
  | some none => .ok none
  | some (some value) =>
    match value.toInt? with
    | some n => .ok (some n)
    | none => .error ⟨"invalid_text_representation", name⟩

def stateColumn (data : ColumnValues) (old : DocumentIngestionState) :
    Except ApiError DocumentIngestionState := do
  let value ← data.column "state" old.text
  match DocumentIngestionState.ofText? value with
  | some state => return state
  | none => .error ⟨"check_violation", "document_ingestions_state_check"⟩

/-- The row with the columns set. Names that are no columns are left out. -/
def assign (data : ColumnValues) (row : DocumentIngestionRecord) :
    Except ApiError DocumentIngestionRecord := do
  -- What a JSON body holds is not a `Date`.
  require (data.get? "createdAt" = none ∧ data.get? "updatedAt" = none)
    (.internal "value.toISOString is not a function")
  let organizationId ← data.column "organizationId" row.organizationId
  let createdBy ← data.column "createdBy" row.createdBy
  let originalFilename ← data.column "originalFilename" row.originalFilename
  let declaredMediaType ← data.column "declaredMediaType" row.declaredMediaType
  let idempotencyKey ← data.column "idempotencyKey" row.idempotencyKey
  let sizeBytes ← data.bigint "sizeBytes" row.sizeBytes
  let state ← data.stateColumn row.state
  return {
    organizationId, createdBy, originalFilename, declaredMediaType, idempotencyKey, sizeBytes, state
    detectedMediaType := data.nullable "detectedMediaType" row.detectedMediaType
    sourceSha256 := data.nullable "sourceSha256" row.sourceSha256
    originalObjectKey := data.nullable "originalObjectKey" row.originalObjectKey
    knowledgeSourceId := data.nullable "knowledgeSourceId" row.knowledgeSourceId
    converterSpecId := data.nullable "converterSpecId" row.converterSpecId
    manifestJson := data.nullable "manifestJson" row.manifestJson
    failureCode := data.nullable "failureCode" row.failureCode
    claimToken := data.nullable "claimToken" row.claimToken }

end ColumnValues

namespace IngestionStore

/-- The audit events refer to the id of their ingestion. -/
def update (s : IngestionStore) (id : String) (data : ColumnValues)
    (row : DocumentIngestionRecord) : Except ApiError IngestionStore := do
  let row' ← data.assign row
  let id' ← data.column "id" id
  let others := s.ingestions.erase id
  require (row'.key ∉ others.values.map DocumentIngestionRecord.key)
    ⟨"unique_violation", "document_ingestions_workspace_id_created_by_idempotency_key_key"⟩
  require (others.get? id' = none) ⟨"unique_violation", "document_ingestions_pkey"⟩
  require (id' = id ∨ s.eventsOf id = [])
    ⟨"foreign_key_violation", "document_ingestion_audit_events_ingestion_id_fkey"⟩
  return { s with ingestions := if id' = id then s.ingestions.set id row' else others.set id' row' }

end IngestionStore

/-! ## The operations -/

structure CreateIngestion where
  organizationId : String
  createdBy : String
  originalFilename : String
  declaredMediaType : String
  idempotencyKey : String

def CreateIngestion.row (input : CreateIngestion) : DocumentIngestionRecord where
  organizationId := input.organizationId
  createdBy := input.createdBy
  originalFilename := input.originalFilename
  declaredMediaType := input.declaredMediaType
  state := .uploading
  idempotencyKey := input.idempotencyKey

structure CompleteUpload where
  ingestionId : String
  actorId : String
  detectedMediaType : String
  sizeBytes : ℤ
  sourceSha256 : String
  objectKey : String

structure WorkerTransition where
  ingestionId : String
  claimToken : String
  expectedStates : List DocumentIngestionState
  nextState : DocumentIngestionState
  patch : ColumnValues := ∅

inductive ReviewDecision
  | published
  | rejected

def ReviewDecision.state : ReviewDecision → DocumentIngestionState
  | published => .published
  | rejected => .rejected

structure ReviewIngestion where
  organizationId : String
  ingestionId : String
  reviewerId : String
  decision : ReviewDecision
  reason : String

namespace IngestionStore

/-- With `onConflictDoNothing` on the unique key: whether it made a row. -/
def insert (s : IngestionStore) (id : String) (input : CreateIngestion) :
    Except ApiError (IngestionStore × Bool) :=
  if input.row.key ∈ s.ingestions.values.map DocumentIngestionRecord.key then .ok (s, false)
  else do
    require (s.ingestions.get? id = none) ⟨"unique_violation", "document_ingestions_pkey"⟩
    return (s.put id input.row, true)

/-- The audit event of a creation. -/
def auditCreation (s : IngestionStore) (id createdBy : String) :
    Except ApiError IngestionStore := do
  require (s.ingestions.get? id).isSome
    ⟨"foreign_key_violation", "document_ingestion_audit_events_ingestion_id_fkey"⟩
  return s.audit ⟨id, .system, createdBy, none, .uploading, "Document ingestion created"⟩

/-- `completeUpload`; `scheduled` is the answer of the scheduler. -/
def completeUpload (s : IngestionStore) (input : CompleteUpload)
    (scheduled : Except ApiError Unit) : Except ApiError IngestionStore := do
  let current ← s.find input.ingestionId
  require (current.state = .uploading) (.invalidArgument
    ("cannot complete upload: ingestion is in state " ++ current.state.text ++ ", not UPLOADING"))
  assertValidTransition .uploading .quarantined
  require (-2 ^ 63 ≤ input.sizeBytes ∧ input.sizeBytes < 2 ^ 63)
    ⟨"numeric_value_out_of_range", "size_bytes"⟩
  let intermediate := { current with
    originalObjectKey := some input.objectKey
    detectedMediaType := some input.detectedMediaType
    sizeBytes := some input.sizeBytes
    sourceSha256 := some input.sourceSha256
    state := .quarantined }
  let s := (s.put input.ingestionId intermediate).audit
    ⟨input.ingestionId, .system, input.actorId, some .uploading, .quarantined,
      "File stored: " ++ input.detectedMediaType ++ ", " ++ toString input.sizeBytes ++ " bytes"⟩
  assertValidTransition .quarantined .queued
  let s := (s.put input.ingestionId { intermediate with state := .queued }).audit
    ⟨input.ingestionId, .system, input.actorId, some .quarantined, .queued,
      "Upload complete, queued for validation"⟩
  scheduled
  return s

end IngestionStore

/-- `updateData`: what the patch holds takes the place of the state and of the claim token. -/
def WorkerTransition.updateData (input : WorkerTransition) : ColumnValues :=
  (((∅ : ColumnValues).set "state" (some input.nextState.text)).set "claimToken"
    (some input.claimToken)).update input.patch.items

/-- The current state is one of the expected ones, if any are given. -/
def WorkerTransition.expects (input : WorkerTransition) (state : DocumentIngestionState) : Prop :=
  input.expectedStates = [] ∨ state ∈ input.expectedStates
deriving Decidable

namespace IngestionStore

def transitionDocumentIngestionForWorker (s : IngestionStore) (input : WorkerTransition) :
    Except ApiError IngestionStore := do
  let current ← s.find input.ingestionId
  require (input.expects current.state) (.invalidArgument
    ("cannot transition: ingestion is in state " ++ current.state.text ++ ", expected one of [" ++
      ", ".intercalate (input.expectedStates.map DocumentIngestionState.text) ++ "]"))
  assertValidTransition current.state input.nextState
  let s ← s.update input.ingestionId input.updateData current
  -- The event refers to the ingestion under the id of the request.
  require (s.ingestions.get? input.ingestionId).isSome
    ⟨"foreign_key_violation", "document_ingestion_audit_events_ingestion_id_fkey"⟩
  return s.audit ⟨input.ingestionId, .worker, "worker-service", some current.state,
    input.nextState, "Transitioned to " ++ input.nextState.text⟩

def reviewDocumentIngestion (s : IngestionStore) (input : ReviewIngestion) :
    Except ApiError IngestionStore := do
  let current ← s.find input.ingestionId
  require (current.organizationId = input.organizationId) (.notFound "ingestion not found")
  require (current.state = .reviewPending) (.invalidArgument
    ("cannot review: ingestion is in state " ++ current.state.text ++ ", not REVIEW_PENDING"))
  let s := s.put input.ingestionId { current with state := input.decision.state }
  return s.audit ⟨input.ingestionId, .user, input.reviewerId, some current.state,
    input.decision.state, "Review decision: " ++ input.reason⟩

end IngestionStore

/-! ## The calls -/

inductive IngestionRequest
  | create (input : CreateIngestion)
  | complete (input : CompleteUpload)
  | transition (input : WorkerTransition)
  | review (input : ReviewIngestion)

inductive IngestionCall
  | create (input : CreateIngestion)
  /-- The row is inserted, and its audit event not yet. -/
  | auditing (id createdBy : String)
  | complete (input : CompleteUpload)
  | transition (input : WorkerTransition)
  | review (input : ReviewIngestion)

structure IngestionAnswers where
  newId : String := ""
  scheduled : Except ApiError Unit := .ok ()

def IngestionRequest.call : IngestionRequest → IngestionCall
  | create input => .create input
  | complete input => .complete input
  | transition input => .transition input
  | review input => .review input

namespace IngestionCall

/-- A creation that made no row only reads after that. -/
def perform (s : IngestionStore) (answers : IngestionAnswers) :
    IngestionCall → Except ApiError (IngestionStore × Option IngestionCall)
  | create input => do
    let (s, made) ← s.insert answers.newId input
    return (s, if made then some (auditing answers.newId input.createdBy) else none)
  | auditing id createdBy => do
    let s ← s.auditCreation id createdBy
    return (s, none)
  | complete input => do
    let s ← s.completeUpload input answers.scheduled
    return (s, none)
  | transition input => do
    let s ← s.transitionDocumentIngestionForWorker input
    return (s, none)
  | review input => do
    let s ← s.reviewDocumentIngestion input
    return (s, none)

/-- A call that fails is rolled back. -/
def step (s : IngestionStore) (call : IngestionCall) (answers : IngestionAnswers) :
    Option (IngestionStore × Option IngestionCall) :=
  some ((call.perform s answers).toOption.getD (s, none))

end IngestionCall

def ingestionCalls : Service IngestionRequest IngestionStore IngestionCall IngestionAnswers where
  start := IngestionRequest.call
  step := IngestionCall.step

end JavisSaas.Cosa.Knowledge
