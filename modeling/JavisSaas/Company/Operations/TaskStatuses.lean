import JavisSaas.Lib.Calls
import JavisSaas.Company.Operations.ExecutionPlans

/-!
# The statuses of tasks

The writers of a task's status: `updateTaskStatusService` and `advanceTaskByAgentService` of
`task.service.ts`, and `validateTaskCompletion` of `execution-outcome.service.ts`, which also closes
the commitment of the task. A completion holds the row of its task from its update to its commit,
and the others wait for it; what it has written they see when it has committed.
-/

namespace JavisSaas.Company.Operations

open JavisSaas.Lib

/-! ## Tables -/

inductive TaskStatus
  | draft
  | todo
  | inProgress
  | waitingApproval
  | blocked
  | done
  | cancelled
  deriving DecidableEq

def TaskStatus.text : TaskStatus → String
  | draft => "draft"
  | todo => "todo"
  | inProgress => "in_progress"
  | waitingApproval => "waiting_approval"
  | blocked => "blocked"
  | done => "done"
  | cancelled => "cancelled"

/-- A row of `tasks`, as far as its status depends on it. -/
structure TrackedTask where
  workspaceId : ℕ
  status : TaskStatus
  revision : ℕ := 1
  assigneeMemberId : Option ℕ := none
  weeklyCommitmentId : Option ℕ := none
  deleted : Bool := false

/-- A row of `weekly_commitments`. -/
structure CommitmentRow where
  workspaceId : ℕ
  status : String := "todo"
  deriving DecidableEq

/-- A row of `task_execution_records`. -/
structure ExecutionRecord where
  taskId : ℕ
  runId : String
  status : String
  note : Option String
  evidenceRefs : List String

structure TaskDb where
  tasks : Dict ℕ TrackedTask := ∅
  commitments : Dict ℕ CommitmentRow := ∅
  records : List ExecutionRecord := []
  /-- The tasks of the completion events in the outbox. -/
  completed : List ℕ := []

/-- The row of a task in a workspace. -/
def TaskDb.taskOf (db : TaskDb) (id workspaceId : ℕ) : Option TrackedTask :=
  (db.tasks.get? id).filter fun t => t.workspaceId = workspaceId

/-- Another undeleted task of the commitment is not done. -/
def TaskDb.pendingSibling (db : TaskDb) (commitmentId workspaceId taskId : ℕ) : Bool :=
  db.tasks.items.any fun entry =>
    entry.2.weeklyCommitmentId = some commitmentId && entry.2.workspaceId = workspaceId &&
      !entry.2.deleted && entry.1 ≠ taskId && entry.2.status ≠ .done

def closeCommitment (commitments : Dict ℕ CommitmentRow) (id workspaceId : ℕ) :
    Dict ℕ CommitmentRow :=
  match (commitments.get? id).filter fun c => c.workspaceId = workspaceId with
  | some c => commitments.set id { c with status := "done" }
  | none => commitments

/-! ## The store -/

inductive StatusWriter
  | person
  | agent
  | validation
  deriving DecidableEq

/-- A status that was written, with what it has replaced and what its writer had seen. -/
structure StatusWrite where
  writer : StatusWriter
  taskId : ℕ
  seen : Option TaskStatus
  before : TaskStatus
  after : TaskStatus
  deriving DecidableEq

/-- A completion that has updated its task; `closes` is what it has found of the commitment. -/
structure Completion where
  task : TrackedTask
  closes : Option Bool := none

/-- The tables, the completions by the task that they hold, and the statuses written so far. -/
structure TaskStore where
  db : TaskDb
  completing : Dict ℕ Completion := ∅
  writes : List StatusWrite := []

structure AdvanceParams where
  taskId : ℕ
  toStatus : TaskStatus
  runId : String
  note : Option String := none
  evidenceRefs : List String := []

structure CompletionParams where
  taskId : ℕ
  expectedVersion : Option ℕ := none
  evidenceRefs : List String := []

structure TaskAnswers where
  /-- The `member_type` of a workforce member. -/
  memberType : Option String := none

/-- A status is written, and the event of a completed task with it. -/
def TaskStore.write (s : TaskStore) (write : StatusWrite) (row : TrackedTask) : TaskStore :=
  { s with
    db := { s.db with
      tasks := s.db.tasks.set write.taskId row
      completed := if write.after = .done then s.db.completed ++ [write.taskId]
        else s.db.completed }
    writes := s.writes ++ [write] }

/-! ## The services -/

/-- `updateTaskStatusService` (lines 431–467). -/
def updateTaskStatusService (s : TaskStore) (id : ℕ) (status : TaskStatus) (workspaceId : ℕ) :
    Except ApiError TaskStore :=
  match s.db.taskOf id workspaceId with
  | some row => .ok (s.write ⟨.person, id, none, row.status, status⟩ { row with status })
  | none => .error (.notFound ("task " ++ toString id ++ " not found"))

def agentAdvanceStatuses : List TaskStatus := [.inProgress, .waitingApproval, .done, .blocked]

def AdvanceParams.evidence (p : AdvanceParams) : List String :=
  (p.evidenceRefs.map trimmed).filter (· ≠ "")

/-- `advanceTaskByAgentService` up to its update (lines 517–578). -/
def loadForAdvance (db : TaskDb) (p : AdvanceParams) (workspaceId : ℕ) (answers : TaskAnswers) :
    Except ApiError TrackedTask := do
  require (p.toStatus ∈ agentAdvanceStatuses) (.invalidArgument
    "toStatus phải là một trong in_progress, waiting_approval, done, blocked")
  require (trimmed p.runId ≠ "") (.invalidArgument "runId là bắt buộc")
  require (p.toStatus = .done → p.evidence ≠ []) (.invalidArgument
    "Task completion requires at least one non-blank evidence reference (evidenceRefs)")
  match db.taskOf p.taskId workspaceId with
  | none => .error (.notFound ("task " ++ toString p.taskId ++ " not found"))
  | some row => do
    require (row.assigneeMemberId.isSome ∧ answers.memberType = some "AI_AGENT")
      (.permissionDenied "task không được gán cho AI member")
    require (p.toStatus = .done → row.status = .inProgress ∨ row.status = .waitingApproval)
      (.invalidArgument ("không thể hoàn thành task từ trạng thái " ++ row.status.text))
    return row

def AdvanceParams.record (p : AdvanceParams) : ExecutionRecord where
  taskId := p.taskId
  runId := p.runId
  status := if p.toStatus = .blocked then "FAILED" else "SUCCESS"
  note := p.note
  evidenceRefs := p.evidence

/-- The update of an advance, and what follows; `seen` is the row that it has read. -/
def advanceWrites (s : TaskStore) (p : AdvanceParams) (workspaceId : ℕ) (seen : TrackedTask) :
    Except ApiError TaskStore :=
  match s.db.taskOf p.taskId workspaceId with
  | some row =>
    let s := s.write ⟨.agent, p.taskId, some seen.status, row.status, p.toStatus⟩
      { row with status := p.toStatus }
    .ok { s with db := { s.db with records := s.db.records ++ [p.record] } }
  | none => .error (.notFound ("task " ++ toString p.taskId ++ " not found"))

/-- `validateTaskCompletion` up to its update (lines 134–201). -/
def loadForCompletion (db : TaskDb) (p : CompletionParams) (workspaceId : ℕ) :
    Except ApiError TrackedTask := do
  require (∃ ref ∈ p.evidenceRefs, trimmed ref ≠ "") ⟨"EVIDENCE_REQUIRED",
    "Task completion requires at least one non-blank evidence reference (evidenceRefs)"⟩
  match (db.taskOf p.taskId workspaceId).filter fun t => !t.deleted with
  | none => .error (.notFound ("Task " ++ toString p.taskId ++ " not found"))
  | some task => do
    require (∀ v ∈ p.expectedVersion, task.revision = v) (.failedPrecondition
      ("Task revision conflict: expected " ++ toString (p.expectedVersion.getD 0) ++
        ", current is " ++ toString task.revision))
    return task

/-- The conditional update of a completion. -/
def claimCompletion (s : TaskStore) (p : CompletionParams) (workspaceId : ℕ)
    (task : TrackedTask) : Except ApiError TaskStore := do
  require ((s.db.taskOf p.taskId workspaceId).any fun row => row.revision = task.revision)
    ⟨"CONCURRENT_MODIFICATION", "Concurrent modification: task " ++ toString p.taskId ++
      " revision changed during completion"⟩
  return { s with completing := s.completing.set p.taskId { task } }

/-- The commitment is closed if no sibling is pending. -/
def Completion.look (c : Completion) (db : TaskDb) (taskId : ℕ) : Bool :=
  c.task.weeklyCommitmentId.any fun commitmentId =>
    !db.pendingSibling commitmentId c.task.workspaceId taskId

/-- The update of the commitment, and the commit. -/
def commitCompletion (s : TaskStore) (taskId : ℕ) (c : Completion) (closes : Bool)
    (row : TrackedTask) : TaskStore :=
  let s := s.write ⟨.validation, taskId, some c.task.status, row.status, .done⟩
    { row with status := .done, revision := c.task.revision + 1 }
  { s with
    db := { s.db with
      commitments := match c.task.weeklyCommitmentId with
        | some commitmentId =>
          if closes then closeCommitment s.db.commitments commitmentId c.task.workspaceId
          else s.db.commitments
        | none => s.db.commitments }
    completing := s.completing.erase taskId }

/-! ## The calls -/

inductive TaskRequest
  | updateStatus (id : ℕ) (status : TaskStatus) (workspaceId : ℕ)
  | advance (params : AdvanceParams) (workspaceId : ℕ)
  | validate (params : CompletionParams) (workspaceId : ℕ)

inductive TaskCall
  | updateStatus (id : ℕ) (status : TaskStatus) (workspaceId : ℕ)
  | advance (params : AdvanceParams) (workspaceId : ℕ)
  | advancing (params : AdvanceParams) (workspaceId : ℕ) (seen : TrackedTask)
  | validate (params : CompletionParams) (workspaceId : ℕ)
  | validating (params : CompletionParams) (workspaceId : ℕ) (task : TrackedTask)
  | completing (taskId : ℕ)

def TaskRequest.call : TaskRequest → TaskCall
  | updateStatus id status workspaceId => .updateStatus id status workspaceId
  | advance params workspaceId => .advance params workspaceId
  | validate params workspaceId => .validate params workspaceId

namespace TaskCall

/-- The task that the next statement updates. -/
def updates : TaskCall → Option ℕ
  | updateStatus id _ _ => some id
  | advancing params _ _ => some params.taskId
  | validating params _ _ => some params.taskId
  | _ => none

/-- The task is held by a completion. -/
def waits (s : TaskStore) (call : TaskCall) : Bool :=
  call.updates.any fun id => (s.completing.get? id).isSome

def perform (s : TaskStore) (answers : TaskAnswers) :
    TaskCall → Except ApiError (TaskStore × Option TaskCall)
  | updateStatus id status workspaceId => do
    let s ← updateTaskStatusService s id status workspaceId
    return (s, none)
  | advance params workspaceId => do
    let seen ← loadForAdvance s.db params workspaceId answers
    return (s, some (advancing params workspaceId seen))
  | advancing params workspaceId seen => do
    let s ← advanceWrites s params workspaceId seen
    return (s, none)
  | validate params workspaceId => do
    let task ← loadForCompletion s.db params workspaceId
    if task.status = .done then return (s, none)
    else return (s, some (validating params workspaceId task))
  | validating params workspaceId task => do
    let s ← claimCompletion s params workspaceId task
    return (s, some (completing params.taskId))
  | completing taskId =>
    match s.completing.get? taskId, s.db.tasks.get? taskId with
    | some c, some row =>
      match c.closes with
      | none =>
        let c := { c with closes := some (c.look s.db taskId) }
        .ok ({ s with completing := s.completing.set taskId c }, some (completing taskId))
      | some closes => .ok (commitCompletion s taskId c closes row, none)
    | _, _ => .ok (s, none)

def abort : TaskCall → TaskStore → TaskStore
  | completing taskId, s => { s with completing := s.completing.erase taskId }
  | _, s => s

/-- A call that fails is rolled back. -/
def step (s : TaskStore) (call : TaskCall) (answers : TaskAnswers) :
    Option (TaskStore × Option TaskCall) :=
  if call.waits s then none
  else some ((call.perform s answers).toOption.getD (call.abort s, none))

end TaskCall

def taskStatuses : Service TaskRequest TaskStore TaskCall TaskAnswers where
  start := TaskRequest.call
  step := TaskCall.step
  abort := TaskCall.abort

end JavisSaas.Company.Operations
