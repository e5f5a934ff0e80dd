import JavisSaas.Lib.Transition
import JavisSaas.Cosa.ControlPlane.ScheduledTasks

/-!
# Runs of the task queue

Each function of the queue is one transaction and one step, except that between the lookup and the
insertion of `scheduleTask` other transactions commit: the rows that the lookup would lock do not
exist yet. The state carries one ghost, the claims that the polls handed out.

* `attempt`: what a transaction does, or the unique violation that aborts it.
* `taskQueue`: the system, in which a violation leaves the table as it was.
* `next_cases`: the two things a step does to the rows.
-/

namespace JavisSaas.Cosa.ControlPlane

open JavisSaas.Lib

variable {J : Type}

structure QueueState (J : Type) where
  tasks : TaskTable J
  /-- The `scheduleTask` transactions that found no row, each with its clock. -/
  inserting : List (ScheduleParams J × ℤ)
  /-- Ghost: every claim that a poll returned, with its token. -/
  handouts : List (String × Option String)

instance : EmptyCollection (QueueState J) := ⟨⟨∅, [], []⟩⟩

inductive QueueLabel (J : Type)
  | scheduleLookup (params : ScheduleParams J) (now : ℤ)
  | scheduleInsert (i : ℕ) (uuid : String)
  | poll (params : ClaimParams) (now : ℤ) (locked : String → Bool) (uuid : String → String)
  | heartbeat (params : HeartbeatTaskParams) (now : ℤ)
  | complete (params : CompleteTaskParams) (now : ℤ)
  | reclaim (limit : ℕ) (now : ℤ) (locked : String → Bool)

variable [Truthy J]

/-- The state that the transaction of a label commits, or the violation that aborts it. -/
def attempt (s : QueueState J) : QueueLabel J → Except (DbError J) (QueueState J)
  | .scheduleLookup params now => do
    match ← scheduleLookup s.tasks params with
    | some (t, _) => return { s with tasks := t }
    | none => return { s with inserting := s.inserting ++ [(params, now)] }
  | .scheduleInsert i uuid =>
    match s.inserting[i]? with
    | none => .ok s
    | some (params, now) => do
      let t ← s.tasks.insert (newTask params now uuid)
      return { s with tasks := t, inserting := s.inserting.eraseIdx i }
  | .poll params now locked uuid => do
    let (t, rows) ← pollDueTasks s.tasks params now locked uuid
    return { s with tasks := t, handouts := s.handouts ++ claimsOf rows }
  | .heartbeat params now => do
    let (t, _) ← heartbeatTask s.tasks params now
    return { s with tasks := t }
  | .complete params now => do
    let (t, _) ← completeTask s.tasks params now
    return { s with tasks := t }
  | .reclaim limit now locked => do
    let (t, _) ← reclaimStuckTasks s.tasks limit now locked
    return { s with tasks := t }

/-- An aborted transaction leaves the table; a refused insertion is not tried again. -/
def aborted (s : QueueState J) : QueueLabel J → QueueState J
  | .scheduleInsert i _ => { s with inserting := s.inserting.eraseIdx i }
  | _ => s

/-- The queue under any interleaving of its callers. -/
def taskQueue (J : Type) [Truthy J] : System (QueueState J) (QueueLabel J) where
  next s l := some <|
    match attempt s l with
    | .ok s' => s'
    | .error _ => aborted s l

omit [Truthy J] in
@[simp] theorem aborted_tasks (s : QueueState J) (l : QueueLabel J) :
    (aborted s l).tasks = s.tasks := by
  cases l <;> rfl

omit [Truthy J] in
@[simp] theorem aborted_handouts (s : QueueState J) (l : QueueLabel J) :
    (aborted s l).handouts = s.handouts := by
  cases l <;> rfl

/-- `randomUUID`: a poll draws no token that it handed out before for the same task. -/
def FreshTokens (s : QueueState J) : QueueLabel J → Prop
  | .poll params now locked uuid =>
    ∀ r ∈ dueRows s.tasks params.limit now locked, (r.id, some ("claim_" ++ uuid r.id)) ∉ s.handouts
  | _ => True

/-- The rows that a step may complete. -/
def Succeeds : QueueLabel J → ScheduledTaskRow J → Prop
  | .complete params _ => SucceededBy params
  | _ => NoSuccess

/-- It maps the rows by `RowStep`, handing out `claims`, or inserts a task. -/
inductive QueueStep (s s' : QueueState J) (l : QueueLabel J) : Prop
  | rows (claims : List (String × Option String)) (hh : s'.handouts = s.handouts ++ claims)
      (hr : RowSteps (Succeeds l) claims s.tasks s'.tasks)
      (hnew : FreshTokens s l → ∀ c ∈ claims, c ∉ s.handouts)
  | insert (i : ℕ) (params : ScheduleParams J) (now : ℤ) (uuid : String)
      (hl : l = .scheduleInsert i uuid)
      (hi : s.inserting[i]? = some (params, now)) (hh : s'.handouts = s.handouts)
      (hr : s'.tasks.rows = s.tasks.rows ++ [newTask params now uuid])

omit [Truthy J] in
theorem QueueStep.idle {s s' : QueueState J} {l : QueueLabel J} (hh : s'.handouts = s.handouts)
    (hr : RowSteps (Succeeds l) [] s.tasks s'.tasks) : QueueStep s s' l :=
  .rows [] (by simp [hh]) hr fun _ _ hc => absurd hc List.not_mem_nil

theorem attempt_cases {s s' : QueueState J} {l : QueueLabel J} (h : attempt s l = .ok s') :
    QueueStep s s' l := by
  cases l with
  | scheduleLookup =>
    obtain ⟨o, ho, h⟩ := bind_eq_ok.mp h
    cases o with
    | none => cases pure_eq_ok.mp h; exact .idle rfl (RowSteps.refl _ _)
    | some => cases pure_eq_ok.mp h; exact .idle rfl (scheduleLookup_rows ho)
  | scheduleInsert i uuid =>
    simp only [attempt] at h
    split at h
    · cases h; exact .idle rfl (RowSteps.refl _ _)
    · rename_i params now hi
      obtain ⟨t, ht, h⟩ := bind_eq_ok.mp h
      cases h
      exact .insert i params now uuid rfl hi rfl (Table.insert_eq_ok.mp ht)
  | poll =>
    obtain ⟨⟨t, rows⟩, ht, h⟩ := bind_eq_ok.mp h
    cases h
    refine .rows _ rfl (pollDueTasks_rows ht) fun hfresh c hc => ?_
    obtain ⟨r, hr, rfl⟩ := claimsOf_pollDueTasks ht hc
    exact hfresh r hr
  | heartbeat =>
    obtain ⟨⟨t, b⟩, ht, h⟩ := bind_eq_ok.mp h
    cases h
    exact .idle rfl (heartbeatTask_rows ht)
  | complete =>
    obtain ⟨⟨t, res⟩, ht, h⟩ := bind_eq_ok.mp h
    cases h
    exact .idle rfl (completeTask_rows ht)
  | reclaim =>
    obtain ⟨⟨t, res⟩, ht, h⟩ := bind_eq_ok.mp h
    cases h
    exact .idle rfl (reclaimStuckTasks_rows ht)

theorem next_cases {s s' : QueueState J} {l : QueueLabel J}
    (h : (taskQueue J).next s l = some s') : QueueStep s s' l := by
  simp only [taskQueue, Option.some.injEq] at h
  cases ha : attempt s l with
  | ok => rw [ha] at h; cases h; exact attempt_cases ha
  | error =>
    rw [ha] at h; cases h
    exact .idle (by simp) (by rw [aborted_tasks]; exact RowSteps.refl _ _)

end JavisSaas.Cosa.ControlPlane
