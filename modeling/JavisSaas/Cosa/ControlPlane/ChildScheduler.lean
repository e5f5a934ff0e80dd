import JavisSaas.Cosa.ControlPlane.TaskQueue

/-!
# Child tasks of a supervisor

`services/cosa/services/child-scheduler.service.ts`. A child is a row of `scheduled_tasks` with a
parent, a name under it and the names of the siblings that it waits for. Between two statements of a
transaction others commit.

* `scheduleChildRead`, `newChild`: `scheduleChildTask` reads the completed siblings, then inserts.
* `completeChildLock`, `completeChildRead`, `completeChildFinish`: `completeChild` locks the row of
  the child, reads the completed siblings, and unblocks and commits.
* `childScheduler`: the system, over the queue of which the children are rows.
-/

namespace JavisSaas.Cosa.ControlPlane

open JavisSaas.Lib

variable {J : Type}

/-! ## `scheduleChildTask` (lines 51–112) -/

structure ScheduleChildParams (J : Type) where
  parentTaskId : String
  childId : String
  targetSpecId : String
  targetSpecKind : Option String := none
  inputPayload : Dict String J
  dependsOn : List String := []
  joinPolicy : JoinPolicy := .all
  joinQuorum : Option ℤ := none
  maxAttempts : Option ℤ := none

/-- The children of a parent that are completed. -/
def completedChildIds (t : TaskTable J) (parentTaskId : String) : List String :=
  (t.rows.filter fun r => r.parentTaskId = some parentTaskId ∧ r.status = .completed).filterMap
    (·.childId)

/-- `WHERE parent_task_id = … AND child_id = …`. -/
def findChild (t : TaskTable J) (parentTaskId childId : String) : Option (ScheduledTaskRow J) :=
  t.rows.find? fun r => r.parentTaskId = some parentTaskId ∧ r.childId = some childId

/-- The first half: the completed siblings, or `none` when the child exists already. -/
def scheduleChildRead (t : TaskTable J) (params : ScheduleChildParams J) : Option (List String) :=
  match findChild t params.parentTaskId params.childId with
  | some _ => none
  | none => some (completedChildIds t params.parentTaskId)

/-- Some dependency is not among the completed siblings that were read. -/
def waitsFor (dependsOn done : List String) : Bool :=
  dependsOn.length > 0 && !dependsOn.all (· ∈ done)

/-- The row that the second half inserts. -/
def newChild (params : ScheduleChildParams J) (now : ℤ) (done : List String) (uuid : String) :
    ScheduledTaskRow J where
  id := "child_" ++ uuid
  coalescingKey := none
  targetSpecId := params.targetSpecId
  targetSpecKind := params.targetSpecKind.getD "agent"
  inputPayload := params.inputPayload
  runAt := now
  status := if waitsFor params.dependsOn done then .blocked else .scheduled
  createdAt := now
  attemptCount := 0
  maxAttempts := params.maxAttempts.getD 5
  parentTaskId := some params.parentTaskId
  childId := some params.childId
  dependsOn := params.dependsOn
  joinPolicy := some params.joinPolicy
  joinQuorum := params.joinQuorum

/-! ## `completeChild` (lines 122–180) -/

structure CompleteChildParams (J : Type) where
  parentTaskId : String
  childId : String
  result : Dict String J
  idempotencyKey : String

/-- The child's row, or `none` when there is nothing to record. -/
def completeChildLock (t : TaskTable J) (params : CompleteChildParams J) :
    Option (ScheduledTaskRow J) :=
  (findChild t params.parentTaskId params.childId).filter fun row =>
    ¬ (row.status = .completed ∧ row.completionKey = some params.idempotencyKey)

/-- The columns of a recorded completion. -/
def recordCompletion (params : CompleteChildParams J) (now : ℤ) (r : ScheduledTaskRow J) :
    ScheduledTaskRow J :=
  { r with
    status := .completed
    completedAt := some now
    childResult := some params.result
    completionKey := some params.idempotencyKey
    claimedBy := none
    claimToken := none
    visibilityTimeoutAt := none }

/-- The second part: the transaction's own write, and the completed siblings as it reads them. -/
def completeChildRead (t : TaskTable J) (row : ScheduledTaskRow J) (params : CompleteChildParams J)
    (now : ℤ) : Except (DbError J) (List String) := do
  let t' ← t.update row.id (recordCompletion params now)
  return completedChildIds t' params.parentTaskId

def unblock (r : ScheduledTaskRow J) : ScheduledTaskRow J := { r with status := .scheduled }

/-- The blocked siblings whose dependencies are all in `done`. -/
def readySiblings (t : TaskTable J) (parentTaskId : String) (done : List String) :
    List (ScheduledTaskRow J) :=
  (t.rows.filter fun r => r.parentTaskId = some parentTaskId ∧ r.status = .blocked).filter
    fun sib => sib.dependsOn.all (· ∈ done)

/-- The last part: the write of the child's row and of the siblings that it unblocks. -/
def completeChildFinish (t : TaskTable J) (row : ScheduledTaskRow J)
    (params : CompleteChildParams J) (now : ℤ) (done : List String) :
    Except (DbError J) (TaskTable J) := do
  let t' ← t.update row.id (recordCompletion params now)
  t'.updateEach (readySiblings t' params.parentTaskId done) fun _ => unblock

/-! ## Runs -/

/-- A `scheduleChildTask` between its two halves. -/
structure SchedulingChild (J : Type) where
  params : ScheduleChildParams J
  now : ℤ
  done : List String

/-- A `completeChild` that holds the lock of `row`; `done` is `none` before the second part. -/
structure CompletingChild (J : Type) where
  row : ScheduledTaskRow J
  params : CompleteChildParams J
  now : ℤ
  done : Option (List String)

structure ChildState (J : Type) where
  queue : QueueState J
  scheduling : List (SchedulingChild J)
  completing : List (CompletingChild J)

instance : EmptyCollection (ChildState J) := ⟨⟨∅, [], []⟩⟩

def ChildState.tasks (s : ChildState J) : TaskTable J := s.queue.tasks

/-- The rows that open transactions have locked. -/
def lockedIds (completing : List (CompletingChild J)) : List String := completing.map (·.row.id)

inductive ChildLabel (J : Type)
  | queue (l : QueueLabel J)
  | scheduleRead (params : ScheduleChildParams J) (now : ℤ)
  | scheduleInsert (i : ℕ) (uuid : String)
  | completeLock (params : CompleteChildParams J) (now : ℤ)
  | completeRead (i : ℕ)
  | completeFinish (i : ℕ)
  | abort (i : ℕ)

/-- A step that would have to wait for a lock is not enabled. -/
def childScheduler (J : Type) [Truthy J] [DecidableEq J] : System (ChildState J) (ChildLabel J) where
  next s
    | .queue l =>
      match attempt s.queue l with
      | .error _ => some { s with queue := aborted s.queue l }
      | .ok q =>
        if ∀ id ∈ lockedIds s.completing, q.tasks.get? id = s.tasks.get? id then
          some { s with queue := q }
        else none
    | .scheduleRead params now =>
      match scheduleChildRead s.tasks params with
      | none => some s
      | some done => some { s with scheduling := s.scheduling ++ [⟨params, now, done⟩] }
    | .scheduleInsert i uuid => do
      let tx ← s.scheduling[i]?
      let rest := s.scheduling.eraseIdx i
      match s.tasks.insert (newChild tx.params tx.now tx.done uuid) with
      | .error _ => some { s with scheduling := rest }
      | .ok t => some { s with queue := { s.queue with tasks := t }, scheduling := rest }
    | .completeLock params now =>
      match completeChildLock s.tasks params with
      | none => some s
      | some row =>
        if row.id ∈ lockedIds s.completing then none
        else some { s with completing := s.completing ++ [⟨row, params, now, none⟩] }
    | .completeRead i => do
      let tx ← s.completing[i]?
      if tx.done.isSome then none
      else
        match completeChildRead s.tasks tx.row tx.params tx.now with
        | .error _ => some { s with completing := s.completing.eraseIdx i }
        | .ok done => some { s with completing := s.completing.set i { tx with done := some done } }
    | .completeFinish i => do
      let tx ← s.completing[i]?
      let done ← tx.done
      let rest := s.completing.eraseIdx i
      if ∃ r ∈ s.tasks.rows, r.parentTaskId = some tx.params.parentTaskId ∧ r.status = .blocked ∧
          r.id ∈ lockedIds rest then none
      else
        match completeChildFinish s.tasks tx.row tx.params tx.now done with
        | .error _ => some { s with completing := rest }
        | .ok t => some { s with queue := { s.queue with tasks := t }, completing := rest }
    | .abort i => some { s with completing := s.completing.eraseIdx i }

end JavisSaas.Cosa.ControlPlane
