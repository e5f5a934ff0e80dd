import JavisSaas.Lib.Calls
import JavisSaas.Lib.Dict
import JavisSaas.Cosa.KnowledgeIngestion.Preflight

/-!
# Local ingestions and the executions of their tasks

`apps/cosa/knowledge_ingestion/local_repository.py` and `handler.py`. A method of the repository
is one transaction. An execution of the task is made of the steps of its handler; between two of
them it may die, and each of them may raise.
-/

namespace JavisSaas.Cosa.KnowledgeIngestion

open JavisSaas.Lib

/-! ## Tables -/

inductive LocalIngestionState
  | queued
  | validating
  | converting
  | reviewPending
  | published
  | rejected
  | failed
  deriving DecidableEq

/-- The changes of state that the methods of the repository make. -/
def LocalIngestionState.transitions : LocalIngestionState → List LocalIngestionState
  | queued => [validating, rejected, failed]
  | validating => [reviewPending, rejected, failed]
  | converting => [reviewPending, rejected, failed]
  | reviewPending => [published]
  | published => []
  | rejected => []
  | failed => []

/-- A row of `local_ingestion_attempts`, without its times. -/
structure LocalIngestionAttempt where
  state : LocalIngestionState := .queued
  quarantineRelativePath : String
  declaredMediaType : Option String
  detectedMediaType : Option String
  sourceSha256 : Option String
  sizeBytes : Option ℕ
  claimTokenHash : Option String := none
  knowledgeSourceId : Option String := none
  manifestJson : Option String := none
  vaultDocumentId : Option String := none
  vaultVersionId : Option String := none
  failureCode : Option String := none
  createdBy : String

/-- The workspace and the upload. -/
abbrev UploadKey := String × String

/-- A row of `local_ingestion_events`. -/
structure LocalIngestionEvent where
  key : UploadKey
  oldState : Option LocalIngestionState
  newState : LocalIngestionState
  reason : Option String := none

/-- What the scanner and the sandbox were given, and the verdict. -/
inductive DocumentWork
  | scanned (content : Bytes) (verdict : String)
  | converted (content : Bytes)

structure LocalIngestions where
  attempts : Dict UploadKey LocalIngestionAttempt := ∅
  /-- In commit order. -/
  events : List LocalIngestionEvent := []
  /-- The answered calls of the scanner and the sandbox, in their order. -/
  work : List (UploadKey × DocumentWork) := []

/-! ## The repository -/

structure CreateQueued where
  workspaceId : String
  uploadId : String
  quarantineRelativePath : String
  declaredMediaType : Option String
  detectedMediaType : Option String
  sourceSha256 : Option String
  sizeBytes : Option ℕ
  createdBy : String

namespace CreateQueued

def key (input : CreateQueued) : UploadKey := (input.workspaceId, input.uploadId)

def attempt (input : CreateQueued) : LocalIngestionAttempt where
  quarantineRelativePath := input.quarantineRelativePath
  declaredMediaType := input.declaredMediaType
  detectedMediaType := input.detectedMediaType
  sourceSha256 := input.sourceSha256
  sizeBytes := input.sizeBytes
  createdBy := input.createdBy

end CreateQueued

namespace LocalIngestions

/-- The changes of state that are recorded for an upload. -/
def eventsOf (s : LocalIngestions) (key : UploadKey) :
    List (Option LocalIngestionState × LocalIngestionState) :=
  (s.events.filter (·.key = key)).map fun e => (e.oldState, e.newState)

/-- The work on an upload. -/
def workOf (s : LocalIngestions) (key : UploadKey) : List DocumentWork :=
  (s.work.filter (·.1 = key)).map Prod.snd

def appendEvent (s : LocalIngestions) (e : LocalIngestionEvent) : LocalIngestions :=
  { s with events := s.events ++ [e] }

def log (s : LocalIngestions) (key : UploadKey) (w : DocumentWork) : LocalIngestions :=
  { s with work := s.work ++ [(key, w)] }

/-- `create_queued`: the event is appended also when the row was there. -/
def createQueued (s : LocalIngestions) (input : CreateQueued) : LocalIngestions :=
  let attempts := match s.attempts.get? input.key with
    | some _ => s.attempts
    | none => s.attempts.set input.key input.attempt
  { s with attempts }.appendEvent ⟨input.key, none, .queued, none⟩

/-- An `UPDATE … WHERE state IN (…) RETURNING` with its event. -/
def change (s : LocalIngestions) (key : UploadKey) (expected : List LocalIngestionState)
    (update : LocalIngestionAttempt → LocalIngestionAttempt) (e : LocalIngestionEvent) :
    LocalIngestions × Option LocalIngestionAttempt :=
  match s.attempts.get? key with
  | some row =>
    if row.state ∈ expected then
      ({ s with attempts := s.attempts.set key (update row) }.appendEvent e, some (update row))
    else (s, none)
  | none => (s, none)

def claim (s : LocalIngestions) (p : Platform) (key : UploadKey) (taskToken : String) :
    LocalIngestions × Option LocalIngestionAttempt :=
  s.change key [.queued]
    (fun row => { row with state := .validating, claimTokenHash := some (p.hashToken taskToken) })
    ⟨key, some .queued, .validating, none⟩

def recordCandidate (s : LocalIngestions) (key : UploadKey) (knowledgeSourceId : String)
    (manifestJson : String) : LocalIngestions × Option LocalIngestionAttempt :=
  s.change key [.validating, .converting]
    (fun row => { row with
      state := .reviewPending
      knowledgeSourceId := some knowledgeSourceId
      manifestJson := some manifestJson })
    ⟨key, none, .reviewPending, none⟩

def reject (s : LocalIngestions) (key : UploadKey) (failureCode : String) (terminal : Bool) :
    LocalIngestions × Option LocalIngestionAttempt :=
  let targetState := if terminal then LocalIngestionState.rejected else .failed
  s.change key [.queued, .validating, .converting]
    (fun row => { row with state := targetState, failureCode := some failureCode })
    ⟨key, none, targetState, some failureCode⟩

def publish (s : LocalIngestions) (key : UploadKey) (vaultDocumentId vaultVersionId : String) :
    LocalIngestions × Option LocalIngestionAttempt :=
  s.change key [.reviewPending]
    (fun row => { row with
      state := .published
      vaultDocumentId := some vaultDocumentId
      vaultVersionId := some vaultVersionId })
    ⟨key, some .reviewPending, .published, none⟩

end LocalIngestions

/-! ## The handler -/

/-- The payload of a scheduled task and the token of its claim. -/
structure IngestionTask where
  taskType : Option String
  workspaceId : Option String
  uploadId : Option String
  claimToken : Option String

/-- A text that is there and not empty. -/
def present (value : Option String) (error : String) : Except String String :=
  match value with
  | some text => if text = "" then .error error else .ok text
  | none => .error error

/-- The checks before the claim. -/
def IngestionTask.check (task : IngestionTask) : Except String (UploadKey × String) := do
  require (task.taskType = some "knowledge_ingestion")
    ("Invalid task_type: " ++ task.taskType.getD "None")
  let workspaceId ← present task.workspaceId "Missing workspace_id in payload"
  let uploadId ← present task.uploadId "Missing upload_id in payload"
  let claimToken ← present task.claimToken "Missing claim_token for task fencing"
  return ((workspaceId, uploadId), claimToken)

/-- The metadata that the handler needs of a claimed attempt. -/
def LocalIngestionAttempt.quarantined (row : LocalIngestionAttempt) :
    Except String QuarantinedObject :=
  let missing := "Claim result missing required metadata"
  do
    let objectKey ← present (some row.quarantineRelativePath) missing
    let detectedMediaType ← present row.detectedMediaType missing
    let sourceSha256 ← present row.sourceSha256 missing
    match row.sizeBytes with
    | some sizeBytes => return { objectKey, sizeBytes, sourceSha256, detectedMediaType }
    | none => .error missing

/-- An execution that has claimed its attempt. -/
structure Execution where
  key : UploadKey
  claimToken : String

inductive IngestionRequest
  /-- `complete_upload` -/
  | create (input : CreateQueued)
  | execute (task : IngestionTask)
  /-- `review_document` -/
  | review (key : UploadKey)
  /-- `publish_document`, after the content was copied to the vault. -/
  | publish (key : UploadKey) (vaultDocumentId vaultVersionId : String)

inductive IngestionCall
  | creating (input : CreateQueued)
  | reviewing (key : UploadKey)
  | publishing (key : UploadKey) (vaultDocumentId vaultVersionId : String)
  | received (task : IngestionTask)
  /-- Step 2. -/
  | loading (run : Execution) (object : QuarantinedObject)
  /-- Step 4. -/
  | scanning (run : Execution) (content : Bytes) (document : ValidatedDocument)
  /-- Step 5. -/
  | converting (run : Execution) (content : Bytes) (document : ValidatedDocument)
  /-- Steps 6 and 7. -/
  | persisting (run : Execution) (document : ValidatedDocument)
  /-- Step 8. -/
  | recording (run : Execution) (knowledgeSourceId manifestJson : String)
  | rejecting (run : Execution) (failureCode : FailureCode)

inductive IngestionAnswer
  | ok
  /-- The transaction committed, and its answer was lost: the call raises. -/
  | lost
  /-- The call raises and had no effect. -/
  | raised
  | content (bytes : Bytes)
  | verdict (verdict : String)
  /-- The failure code of the conversion. -/
  | converted (failureCode : Option FailureCode)
  /-- The id and the manifest of the document that was normalized and stored. -/
  | persisted (knowledgeSourceId manifestJson : String)

def IngestionRequest.call : IngestionRequest → IngestionCall
  | create input => .creating input
  | execute task => .received task
  | review key => .reviewing key
  | publish key vaultDocumentId vaultVersionId => .publishing key vaultDocumentId vaultVersionId

namespace IngestionCall

/-- What a call of the repository raises leaves the handler. -/
def transact {R : Type} (s : LocalIngestions) (r : LocalIngestions × R)
    (next : R → Option IngestionCall) :
    IngestionAnswer → Option (LocalIngestions × Option IngestionCall)
  | .ok => some (r.1, next r.2)
  | .lost => some (r.1, none)
  | .raised => some (s, none)
  | _ => none

/-- The claimed attempt, if the claim won it; an attempt without its metadata raises. -/
def claimed (run : Execution) (row : Option LocalIngestionAttempt) : Option IngestionCall :=
  match row with
  | some row =>
    match row.quarantined with
    | .ok object => some (.loading run object)
    | .error _ => none
  | none => none

/-- What follows the verdict of the scanner. -/
def scanned (run : Execution) (content : Bytes) (document : ValidatedDocument)
    (verdict : String) : IngestionCall :=
  if verdict = "infected" then .rejecting run .malwareDetected
  else if verdict = "unavailable" then .rejecting run .scannerUnavailable
  else if verdict ≠ "clean" then .rejecting run .conversionParserError
  else .converting run content document

/-- One step. An exception that has no failure code is left to the scheduler. -/
def step (p : Platform) (s : LocalIngestions) :
    IngestionCall → IngestionAnswer → Option (LocalIngestions × Option IngestionCall)
  | creating input, a => transact s (s.createQueued input, ()) (fun _ => none) a
  | reviewing key, a => transact s (s.reject key "reviewer_rejected" true) (fun _ => none) a
  | publishing key vaultDocumentId vaultVersionId, a =>
    transact s (s.publish key vaultDocumentId vaultVersionId) (fun _ => none) a
  | received task, a =>
    match task.check with
    | .error _ => transact s (s, ()) (fun _ => none) a
    | .ok (key, claimToken) =>
      transact s (s.claim p key claimToken) (claimed ⟨key, claimToken⟩) a
  | loading run object, .content bytes =>
    match preflight p object bytes with
    | .ok document => some (s, some (.scanning run bytes document))
    | .error code => some (s, some (.rejecting run code))
  | scanning run content document, .verdict verdict =>
    some (s.log run.key (.scanned content verdict), some (scanned run content document verdict))
  | converting run content _, .converted (some code) =>
    some (s.log run.key (.converted content), some (.rejecting run code))
  | converting run content document, .converted none =>
    some (s.log run.key (.converted content), some (.persisting run document))
  | persisting run _, .persisted knowledgeSourceId manifestJson =>
    some (s, some (.recording run knowledgeSourceId manifestJson))
  | recording run knowledgeSourceId manifestJson, a =>
    transact s (s.recordCandidate run.key knowledgeSourceId manifestJson) (fun _ => none) a
  | rejecting run code, a =>
    transact s (s.reject run.key code.text true) (fun _ => none) a
  | _, .raised => some (s, none)
  | _, _ => none

end IngestionCall

/-- Uploads, executions of their tasks and reviews, at the same time. -/
def ingestions (p : Platform) :
    Service IngestionRequest LocalIngestions IngestionCall IngestionAnswer where
  start := IngestionRequest.call
  step s call answer := call.step p s answer

end JavisSaas.Cosa.KnowledgeIngestion
