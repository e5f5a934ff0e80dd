import Mathlib.Algebra.Ring.Int.Defs
import Mathlib.Algebra.Ring.Nat
import Mathlib.Data.List.Sort
import JavisSaas.Lib.Dict
import JavisSaas.Lib.Table

/-!
# The durable task queue

`services/cosa/services/control-plane-scheduler.service.ts` over `control_plane.scheduled_tasks` of
migration 001. Every function is one transaction: it returns the table it commits, or the unique
violation that aborts it. The clock, the random suffixes and the rows that `SKIP LOCKED` passes over
are arguments. `scheduleTask` is split where another transaction can commit.

* `scheduleLookup`, `pollDueTasks`, `heartbeatTask`, `completeTask`, `reclaimStuckTasks`.
* `RowStep`: the things that can happen to one row; `coalesce_rows` and its siblings: every
  committed write maps the rows by it.
-/

namespace JavisSaas.Cosa.ControlPlane

open JavisSaas.Lib

/-! ## The table -/

/-- The statuses of the constraint `scheduled_tasks_status_check`. -/
inductive TaskStatus
  | scheduled
  | processing
  | completed
  | coalesced
  | failed
  | blocked
  deriving DecidableEq

inductive JoinPolicy
  | all
  | any
  | quorum
  deriving DecidableEq

/-- Timestamps are in milliseconds; `J` are the JSON values of payloads. -/
structure ScheduledTaskRow (J : Type) where
  id : String
  coalescingKey : Option String
  targetSpecId : String
  targetSpecKind : String
  inputPayload : Dict String J
  runAt : ℤ
  status : TaskStatus
  createdAt : ℤ
  attemptCount : ℤ
  maxAttempts : ℤ
  claimedBy : Option String := none
  claimToken : Option String := none
  claimedAt : Option ℤ := none
  heartbeatAt : Option ℤ := none
  visibilityTimeoutAt : Option ℤ := none
  lastError : Option String := none
  nextRetryAt : Option ℤ := none
  completedAt : Option ℤ := none
  deadLetterReason : Option String := none
  parentTaskId : Option String := none
  childId : Option String := none
  dependsOn : List String := []
  joinPolicy : Option JoinPolicy := none
  joinQuorum : Option ℤ := none
  childResult : Option (Dict String J) := none
  completionKey : Option String := none
  deriving DecidableEq

/-- The unique indexes of the table. -/
inductive TaskIndex
  /-- `idx_control_plane_scheduled_tasks_coalescing_key_pending`. -/
  | coalescingKeyPending
  /-- `uq_scheduled_tasks_parent_child`. -/
  | parentChild

variable {J : Type}

/-- `ON (coalescing_key) WHERE status = 'scheduled' AND coalescing_key IS NOT NULL`. -/
def pendingKey (r : ScheduledTaskRow J) : Option String :=
  if r.status = .scheduled then r.coalescingKey else none

/-- `WHERE parent_task_id IS NOT NULL`; a null child is distinct from every other. -/
def edge (r : ScheduledTaskRow J) : Option (String × String) :=
  match r.parentTaskId, r.childId with
  | some p, some c => some (p, c)
  | _, _ => none

/-- The constraints of `control_plane.scheduled_tasks`. -/
@[reducible] def taskSchema (J : Type) : Schema (ScheduledTaskRow J) where
  Key := String
  key r := r.id
  Index := TaskIndex
  indexes := [.coalescingKeyPending, .parentChild]
  Val
    | .coalescingKeyPending => String
    | .parentChild => String × String
  val
    | .coalescingKeyPending => pendingKey
    | .parentChild => edge
  decKey := inferInstance
  decVal
    | .coalescingKeyPending => inferInstance
    | .parentChild => inferInstance

abbrev TaskTable (J : Type) := Table (taskSchema J)

abbrev DbError (J : Type) := Violation (taskSchema J)

/-! ## `scheduleTask` (lines 20–143) -/

def defaultVisibilityTimeoutSec : ℤ := 120

def defaultMaxAttempts : ℤ := 5

def maxBackoffSec : ℤ := 300

structure ScheduleParams (J : Type) where
  targetSpecId : String
  inputPayload : Dict String J
  coalescingKey : Option String := none
  runAt : Option ℤ := none
  targetSpecKind : Option String := none
  maxAttempts : Option ℤ := none

/-- Exponential backoff of a retry: 5 s, 10 s, 20 s, … up to 5 minutes. -/
def computeBackoffSeconds (attemptCount : ℤ) : ℤ :=
  min (5 * 2 ^ (max (attemptCount - 1) 0).toNat) maxBackoffSec

section Schedule

variable [Truthy J]

/-- The payload of a coalesced task: the new one over the old one, but the old `run_id`. -/
def mergedPayload (existing input : Dict String J) : Dict String J :=
  (existing.update input.items).update <|
    match existing.get? "run_id" with
    | some runId => if truthy runId then [("run_id", runId)] else []
    | none => []

/-- Merges the payload into a row that is already scheduled. -/
def coalesce (t : TaskTable J) (existing : ScheduledTaskRow J) (params : ScheduleParams J) :
    Except (DbError J) (TaskTable J × ScheduledTaskRow J) := do
  let merged := mergedPayload existing.inputPayload params.inputPayload
  let t' ← t.update existing.id fun r => { r with inputPayload := merged }
  return (t', { existing with inputPayload := merged })

/-- Lines 65–116: a row to coalesce with, or `none` for an insertion. -/
def scheduleLookup (t : TaskTable J) (params : ScheduleParams J) :
    Except (DbError J) (Option (TaskTable J × ScheduledTaskRow J)) :=
  match params.coalescingKey with
  | none => .ok none
  | some key =>
    if key = "" then .ok none
    else if "evt:".toList.isPrefixOf key.toList then
      -- an event trigger looks at the rows of every status
      match t.rows.find? fun r => r.coalescingKey = some key with
      | none => .ok none
      | some existing =>
        if existing.status = .scheduled then some <$> coalesce t existing params
        else .ok (some (t, existing))
    else
      match t.rows.find? fun r => r.coalescingKey = some key ∧ r.status = .scheduled with
      | none => .ok none
      | some existing => some <$> coalesce t existing params

/-- The row that the second half of `scheduleTask` inserts (lines 118–140). -/
def newTask (params : ScheduleParams J) (now : ℤ) (uuid : String) : ScheduledTaskRow J where
  id := "task_" ++ uuid
  coalescingKey := params.coalescingKey
  targetSpecId := params.targetSpecId
  targetSpecKind := params.targetSpecKind.getD "agent"
  inputPayload := params.inputPayload
  runAt := params.runAt.getD (now - 1000)
  status := .scheduled
  createdAt := now
  attemptCount := 0
  maxAttempts := params.maxAttempts.getD defaultMaxAttempts

end Schedule

/-! ## `pollDueTasks` (lines 145–195) -/

structure ClaimParams where
  workerId : String
  limit : ℕ := 10
  visibilityTimeoutSec : ℤ := defaultVisibilityTimeoutSec

/-- The due rows that the poll locks, oldest `runAt` first. -/
def dueRows (t : TaskTable J) (limit : ℕ) (now : ℤ) (locked : String → Bool) :
    List (ScheduledTaskRow J) :=
  ((t.rows.filter fun r => r.status = .scheduled ∧ r.runAt ≤ now ∧ ¬ locked r.id).insertionSort
    fun a b => a.runAt ≤ b.runAt).take limit

/-- The columns of a claim. -/
def claim (params : ClaimParams) (now : ℤ) (claimToken : String) (r : ScheduledTaskRow J) :
    ScheduledTaskRow J :=
  { r with
    status := .processing
    claimedBy := some params.workerId
    claimToken := some claimToken
    claimedAt := some now
    heartbeatAt := some now
    visibilityTimeoutAt := some (now + params.visibilityTimeoutSec * 1000) }

/-- `uuid id` is the random suffix of the token drawn for the row `id`. -/
def pollDueTasks (t : TaskTable J) (params : ClaimParams) (now : ℤ) (locked : String → Bool)
    (uuid : String → String) : Except (DbError J) (TaskTable J × List (ScheduledTaskRow J)) := do
  let due := dueRows t params.limit now locked
  let t' ← t.updateEach due fun x => claim params now ("claim_" ++ uuid x.id)
  return (t', t'.rows.filter fun r => r.id ∈ due.map (·.id))

/-! ## `heartbeatTask` (lines 197–223) -/

structure HeartbeatTaskParams where
  taskId : String
  workerId : String
  claimToken : String
  extendSec : Option ℤ := none

/-- The fence of `heartbeatTask` and `completeTask`: the row is processing under this claim. -/
def HeldBy (r : ScheduledTaskRow J) (workerId claimToken : String) : Prop :=
  r.status = .processing ∧ r.claimedBy = some workerId ∧ r.claimToken = some claimToken
deriving Decidable

def heartbeatTask (t : TaskTable J) (params : HeartbeatTaskParams) (now : ℤ) :
    Except (DbError J) (TaskTable J × Bool) :=
  let extendSec := params.extendSec.getD defaultVisibilityTimeoutSec
  match t.get? params.taskId with
  | none => .ok (t, false)
  | some row =>
    if ¬ HeldBy row params.workerId params.claimToken then .ok (t, false)
    else do
      let t' ← t.update params.taskId fun r =>
        { r with heartbeatAt := some now, visibilityTimeoutAt := some (now + extendSec * 1000) }
      return (t', true)

/-! ## `completeTask` (lines 225–305) -/

structure CompleteTaskParams where
  taskId : String
  workerId : String
  claimToken : String
  success : Bool
  error : Option String := none

/-- `finalStatus` is `none` for the source's `"not_found"`. -/
structure CompleteTaskResult where
  ok : Bool
  finalStatus : Option TaskStatus

/-- The columns of a success. -/
def succeed (now : ℤ) (r : ScheduledTaskRow J) : ScheduledTaskRow J :=
  { r with
    status := .completed
    completedAt := some now
    claimedBy := none
    claimToken := none
    visibilityTimeoutAt := none }

/-- The columns of a dead letter. -/
def deadLetter (nextAttempt : ℤ) (lastError : Option String) (reason : String)
    (r : ScheduledTaskRow J) : ScheduledTaskRow J :=
  { r with
    status := .failed
    attemptCount := nextAttempt
    lastError := lastError
    deadLetterReason := some reason
    claimedBy := none
    claimToken := none
    visibilityTimeoutAt := none }

/-- The columns of a retry. -/
def reschedule (nextAttempt : ℤ) (lastError : Option String) (nextRetryAt : ℤ)
    (r : ScheduledTaskRow J) : ScheduledTaskRow J :=
  { r with
    status := .scheduled
    attemptCount := nextAttempt
    lastError := lastError
    nextRetryAt := some nextRetryAt
    runAt := nextRetryAt
    claimedBy := none
    claimToken := none
    visibilityTimeoutAt := none }

def nextRetryAt (now nextAttempt : ℤ) : ℤ := now + computeBackoffSeconds nextAttempt * 1000

def completeTask (t : TaskTable J) (params : CompleteTaskParams) (now : ℤ) :
    Except (DbError J) (TaskTable J × CompleteTaskResult) :=
  match t.get? params.taskId with
  | none => .ok (t, ⟨false, none⟩)
  | some row =>
    if ¬ HeldBy row params.workerId params.claimToken then .ok (t, ⟨false, some row.status⟩)
    else if params.success then do
      let t' ← t.update params.taskId (succeed now)
      return (t', ⟨true, some .completed⟩)
    else
      let nextAttempt := row.attemptCount + 1
      if row.maxAttempts ≤ nextAttempt then do
        let t' ← t.update params.taskId
          (deadLetter nextAttempt params.error (params.error.getD "max attempts exceeded"))
        return (t', ⟨true, some .failed⟩)
      else do
        let t' ← t.update params.taskId
          (reschedule nextAttempt params.error (nextRetryAt now nextAttempt))
        return (t', ⟨true, some .scheduled⟩)

/-! ## `reclaimStuckTasks` (lines 307–369) -/

structure ReclaimResult where
  reclaimedToScheduled : ℕ
  deadLettered : ℕ

/-- `visibility_timeout_at IS NOT NULL AND visibility_timeout_at <= now`. -/
def TimedOut (r : ScheduledTaskRow J) (now : ℤ) : Prop := ∃ v ∈ r.visibilityTimeoutAt, v ≤ now

instance (r : ScheduledTaskRow J) (now : ℤ) : Decidable (TimedOut r now) :=
  match h : r.visibilityTimeoutAt with
  | none => isFalse (by simp [TimedOut, h])
  | some v => decidable_of_iff (v ≤ now) (by simp [TimedOut, h])

/-- The stuck rows that the sweeper locks. -/
def stuckRows (t : TaskTable J) (limit : ℕ) (now : ℤ) (locked : String → Bool) :
    List (ScheduledTaskRow J) :=
  (t.rows.filter fun r => r.status = .processing ∧ TimedOut r now ∧ ¬ locked r.id).take limit

/-- The update of one stuck row `row`. -/
def reclaim (now : ℤ) (row : ScheduledTaskRow J) : ScheduledTaskRow J → ScheduledTaskRow J :=
  let nextAttempt := row.attemptCount + 1
  if row.maxAttempts ≤ nextAttempt then
    deadLetter nextAttempt
      (some "visibility timeout exceeded (worker crash) and max attempts reached")
      "visibility timeout exceeded, max attempts reached"
  else
    reschedule nextAttempt (some "visibility timeout exceeded (worker crash), reclaimed")
      (nextRetryAt now nextAttempt)

def reclaimStuckTasks (t : TaskTable J) (limit : ℕ) (now : ℤ) (locked : String → Bool) :
    Except (DbError J) (TaskTable J × ReclaimResult) := do
  let stuck := stuckRows t limit now locked
  let t' ← t.updateEach stuck (reclaim now)
  return (t',
    { reclaimedToScheduled := stuck.countP fun r => ¬ r.maxAttempts ≤ r.attemptCount + 1
      deadLettered := stuck.countP fun r => r.maxAttempts ≤ r.attemptCount + 1 })

/-! ## What a committed write does to a row -/

/-- What a commit does to one row; `claims` are the pairs of task and token handed out, `C` the rows
that may be completed. -/
inductive RowStep (C : ScheduledTaskRow J → Prop) (claims : List (String × Option String)) :
    ScheduledTaskRow J → ScheduledTaskRow J → Prop
  | keep {r : ScheduledTaskRow J} (payload : Dict String J) (heartbeatAt timeout : Option ℤ)
      (hnot : r.id ∉ claims.map Prod.fst) :
      RowStep C claims r
        { r with inputPayload := payload, heartbeatAt := heartbeatAt, visibilityTimeoutAt := timeout }
  | claim {r : ScheduledTaskRow J} {params : ClaimParams} {now : ℤ} {token : String}
      (hs : r.status = .scheduled) (hmem : (r.id, some token) ∈ claims)
      (hcount : (claims.map Prod.fst).count r.id = 1) :
      RowStep C claims r (ControlPlane.claim params now token r)
  | succeed {r : ScheduledTaskRow J} {now : ℤ} (hs : r.status = .processing) (hC : C r)
      (hnil : claims = []) :
      RowStep C claims r (ControlPlane.succeed now r)
  | deadLetter {r : ScheduledTaskRow J} {lastError : Option String} {reason : String}
      (hs : r.status = .processing) (hmax : r.maxAttempts ≤ r.attemptCount + 1)
      (hnil : claims = []) :
      RowStep C claims r (ControlPlane.deadLetter (r.attemptCount + 1) lastError reason r)
  | reschedule {r : ScheduledTaskRow J} {lastError : Option String} {at_ : ℤ}
      (hs : r.status = .processing) (hmax : r.attemptCount + 1 < r.maxAttempts)
      (hnil : claims = []) :
      RowStep C claims r (ControlPlane.reschedule (r.attemptCount + 1) lastError at_ r)

variable {C : ScheduledTaskRow J → Prop} {claims : List (String × Option String)}
  {r : ScheduledTaskRow J} {t t' : TaskTable J} {limit : ℕ} {now : ℤ} {locked : String → Bool}
  {params : ClaimParams} {uuid : String → String}

theorem RowStep.refl (hnot : r.id ∉ claims.map Prod.fst) : RowStep C claims r r :=
  RowStep.keep r.inputPayload r.heartbeatAt r.visibilityTimeoutAt hnot

theorem RowStep.id_eq {r' : ScheduledTaskRow J} (h : RowStep C claims r r') : r'.id = r.id := by
  cases h <;> rfl

/-- The rows of `t'` are the rows of `t`, each after a `RowStep`, and the claims are claims of its
    rows. -/
structure RowSteps (C : ScheduledTaskRow J → Prop) (claims : List (String × Option String))
    (t t' : TaskTable J) : Prop where
  steps : ∃ g, t'.rows = t.rows.map g ∧ ∀ r ∈ t.rows, RowStep C claims r (g r)
  known : ∀ c ∈ claims, ∃ r ∈ t'.rows, r.id = c.1

/-- A transaction that completes no task. -/
def NoSuccess (_ : ScheduledTaskRow J) : Prop := False

/-- The row that a `completeTask` completes. -/
def SucceededBy (params : CompleteTaskParams) (r : ScheduledTaskRow J) : Prop :=
  r.id = params.taskId ∧ HeldBy r params.workerId params.claimToken ∧ params.success = true
deriving Decidable

theorem RowSteps.refl (C : ScheduledTaskRow J → Prop) (t : TaskTable J) : RowSteps C [] t t :=
  ⟨⟨id, (List.map_id _).symm, fun _ _ => RowStep.refl (List.not_mem_nil)⟩,
    fun _ hc => absurd hc List.not_mem_nil⟩

theorem rowSteps_of_update {C : ScheduledTaskRow J → Prop} {t t' : TaskTable J} {k : String}
    {f : ScheduledTaskRow J → ScheduledTaskRow J} (h : t.update k f = .ok t')
    (hf : ∀ r ∈ t.rows, r.id = k → RowStep C [] r (f r)) : RowSteps C [] t t' := by
  refine ⟨⟨fun r => if r.id = k then f r else r, Table.update_eq_ok.mp h, fun r hr => ?_⟩,
    fun _ hc => absurd hc List.not_mem_nil⟩
  by_cases hk : r.id = k
  · simpa [hk] using hf r hr hk
  · simpa [hk] using RowStep.refl (List.not_mem_nil)

theorem RowSteps.exists_of_mem (h : RowSteps C claims t t') {r' : ScheduledTaskRow J}
    (hr' : r' ∈ t'.rows) : ∃ r ∈ t.rows, RowStep C claims r r' := by
  obtain ⟨g, hg, hstep⟩ := h.steps
  rw [hg] at hr'
  obtain ⟨r, hr, rfl⟩ := List.mem_map.mp hr'
  exact ⟨r, hr, hstep r hr⟩

theorem coalesce_rows [Truthy J] {existing row : ScheduledTaskRow J} {params : ScheduleParams J}
    (h : coalesce t existing params = .ok (t', row)) :
    RowSteps NoSuccess [] t t' := by
  obtain ⟨u, hu, h⟩ := bind_eq_ok.mp h
  cases h
  exact rowSteps_of_update hu fun r _ _ =>
    RowStep.keep _ r.heartbeatAt r.visibilityTimeoutAt (List.not_mem_nil)

theorem scheduleLookup_rows [Truthy J] {row : ScheduledTaskRow J} {params : ScheduleParams J}
    (h : scheduleLookup t params = .ok (some (t', row))) :
    RowSteps NoSuccess [] t t' := by
  have hc : ∀ {existing : ScheduledTaskRow J},
      some <$> coalesce t existing params = .ok (some (t', row)) → RowSteps NoSuccess [] t t' := by
    intro existing h
    obtain ⟨u, hu, h⟩ := map_eq_ok.mp h
    cases h
    exact coalesce_rows hu
  unfold scheduleLookup at h
  cases hkey : params.coalescingKey with
  | none => simp [hkey] at h
  | some key =>
    simp only [hkey] at h
    by_cases hempty : key = ""
    · simp [hempty] at h
    rw [if_neg hempty] at h
    split_ifs at h with hevt
    · split at h
      · cases h
      · split_ifs at h
        · exact hc h
        · cases h; exact RowSteps.refl _ t
    · split at h
      · cases h
      · exact hc h

theorem mem_dueRows (h : r ∈ dueRows t limit now locked) :
    r ∈ t.rows ∧ r.status = .scheduled ∧ r.runAt ≤ now := by
  have := List.mem_of_mem_take h
  rw [List.mem_insertionSort, List.mem_filter] at this
  simp only [decide_eq_true_eq] at this
  exact ⟨this.1, this.2.1, this.2.2.1⟩

theorem nodup_dueRows (t : TaskTable J) (limit : ℕ) (now : ℤ) (locked : String → Bool) :
    ((dueRows t limit now locked).map (·.id)).Nodup := by
  have hfilter : ((t.rows.filter fun r =>
      r.status = .scheduled ∧ r.runAt ≤ now ∧ ¬ locked r.id).map (·.id)).Nodup :=
    t.nodup.sublist (List.filter_sublist.map _)
  have hsort := (((List.perm_insertionSort (fun a b : ScheduledTaskRow J => a.runAt ≤ b.runAt)
    _).map (·.id)).nodup_iff).mpr hfilter
  exact hsort.sublist ((List.take_sublist _ _).map _)

/-- The claims of a poll, from the rows it returns. -/
def claimsOf (rows : List (ScheduledTaskRow J)) : List (String × Option String) :=
  rows.map fun r => (r.id, r.claimToken)

theorem fst_claimsOf_filter (due rows : List (ScheduledTaskRow J)) :
    (claimsOf (rows.filter fun r => r.id ∈ due.map (·.id))).map Prod.fst =
      (rows.map (·.id)).filter fun id => id ∈ due.map (·.id) := by
  rw [claimsOf, List.map_map, List.filter_map]
  rfl

theorem claim_id (params : ClaimParams) (now : ℤ) (uuid : String → String)
    (x r : ScheduledTaskRow J) : (claim params now ("claim_" ++ uuid x.id) r).id = r.id := rfl

theorem updateEach_claim (h : t.updateEach (dueRows t params.limit now locked)
      (fun x => claim params now ("claim_" ++ uuid x.id)) = .ok t') :
    t'.rows = t.rows.map fun r =>
      if r.id ∈ (dueRows t params.limit now locked).map (·.id) then
        claim params now ("claim_" ++ uuid r.id) r
      else r :=
  Table.updateEach_rows (claim_id params now uuid) (fun _ hx => (mem_dueRows hx).1)
    (nodup_dueRows t params.limit now locked) h

/-- The claims that a poll returns are those of the due rows, with the tokens drawn for them. -/
theorem claimsOf_pollDueTasks {rows : List (ScheduledTaskRow J)}
    (h : pollDueTasks t params now locked uuid = .ok (t', rows)) {c : String × Option String}
    (hc : c ∈ claimsOf rows) :
    ∃ r ∈ dueRows t params.limit now locked, c = (r.id, some ("claim_" ++ uuid r.id)) := by
  obtain ⟨u, hu, h⟩ := bind_eq_ok.mp h
  cases h
  obtain ⟨r', hr', rfl⟩ := List.mem_map.mp hc
  obtain ⟨hrow, hdue⟩ := List.mem_filter.mp hr'
  rw [updateEach_claim hu, List.mem_map] at hrow
  obtain ⟨r, hr, rfl⟩ := hrow
  split_ifs at hdue ⊢ with hmem
  · obtain ⟨x, hx, e⟩ := List.mem_map.mp hmem
    exact ⟨x, hx, by simp [claim, e]⟩
  · exact absurd (by simpa using hdue) hmem

theorem pollDueTasks_rows {rows : List (ScheduledTaskRow J)}
    (h : pollDueTasks t params now locked uuid = .ok (t', rows)) :
    RowSteps NoSuccess (claimsOf rows) t t' := by
  obtain ⟨u, hu, h⟩ := bind_eq_ok.mp h
  cases h
  have hrows := updateEach_claim hu
  refine ⟨⟨_, hrows, fun r hr => ?_⟩, fun c hc => ?_⟩
  swap
  · obtain ⟨r, hr, rfl⟩ := List.mem_map.mp hc
    exact ⟨r, (List.mem_filter.mp hr).1, rfl⟩
  have hfst := fst_claimsOf_filter (dueRows t params.limit now locked) t'.rows
  have hids : t'.rows.map (·.id) = t.rows.map (·.id) := by
    rw [hrows, List.map_map]
    exact List.map_congr_left fun x _ => by simp only [Function.comp_apply]; split_ifs <;> rfl
  split_ifs with hdue
  · obtain ⟨x, hx, e⟩ := List.mem_map.mp hdue
    have hxr : x = r := t.key_injective (mem_dueRows hx).1 hr e
    subst hxr
    have hclaimed : claim params now ("claim_" ++ uuid x.id) x ∈ t'.rows := by
      rw [hrows, List.mem_map]
      exact ⟨x, hr, if_pos hdue⟩
    refine RowStep.claim (mem_dueRows hx).2.1 ?_ ?_
    · exact List.mem_map.mpr ⟨_, List.mem_filter.mpr ⟨hclaimed, by simpa [claim] using hdue⟩, rfl⟩
    · rw [hfst, hids]
      refine List.count_eq_one_of_mem (t.nodup.sublist List.filter_sublist) ?_
      exact List.mem_filter.mpr ⟨List.mem_map_of_mem hr, by simpa using hdue⟩
  · refine RowStep.refl fun hmem => hdue ?_
    rw [hfst] at hmem
    simpa using (List.mem_filter.mp hmem).2

theorem heartbeatTask_rows {params : HeartbeatTaskParams} {b : Bool}
    (h : heartbeatTask t params now = .ok (t', b)) : RowSteps NoSuccess [] t t' := by
  unfold heartbeatTask at h
  split at h
  · cases h; exact RowSteps.refl _ t
  · rename_i row _
    by_cases hheld : HeldBy row params.workerId params.claimToken
    · rw [if_neg (not_not.mpr hheld)] at h
      obtain ⟨u, hu, h⟩ := bind_eq_ok.mp h
      cases h
      exact rowSteps_of_update hu fun r _ _ =>
        RowStep.keep r.inputPayload _ _ (List.not_mem_nil)
    · rw [if_pos hheld] at h
      cases h; exact RowSteps.refl _ t

theorem completeTask_rows {params : CompleteTaskParams} {res : CompleteTaskResult}
    (h : completeTask t params now = .ok (t', res)) :
    RowSteps (SucceededBy params) [] t t' := by
  unfold completeTask at h
  split at h
  · cases h; exact RowSteps.refl _ t
  · rename_i row hrow
    obtain ⟨hmem, hid⟩ := Table.get?_eq_some.mp hrow
    -- the row that the update reads is the one it writes
    have hself : ∀ r ∈ t.rows, r.id = params.taskId → r = row := fun r hr e =>
      t.key_injective hr hmem (e.trans hid.symm)
    by_cases hheld : HeldBy row params.workerId params.claimToken
    swap
    · rw [if_pos hheld] at h
      cases h; exact RowSteps.refl _ t
    rw [if_neg (not_not.mpr hheld)] at h
    dsimp only at h
    split_ifs at h with hsucc hmax
    all_goals
      obtain ⟨u, hu, h⟩ := bind_eq_ok.mp h
      cases h
      refine rowSteps_of_update hu fun r hr e => ?_
      cases hself r hr e
    · exact RowStep.succeed hheld.1 ⟨e, hheld, hsucc⟩ rfl
    · exact RowStep.deadLetter hheld.1 hmax rfl
    · exact RowStep.reschedule hheld.1 (by omega) rfl

theorem mem_stuckRows (h : r ∈ stuckRows t limit now locked) :
    r ∈ t.rows ∧ r.status = .processing ∧ TimedOut r now := by
  have := List.mem_of_mem_take h
  rw [List.mem_filter] at this
  simp only [decide_eq_true_eq] at this
  exact ⟨this.1, this.2.1, this.2.2.1⟩

theorem nodup_stuckRows (t : TaskTable J) (limit : ℕ) (now : ℤ) (locked : String → Bool) :
    ((stuckRows t limit now locked).map (·.id)).Nodup :=
  t.nodup.sublist (((List.take_sublist _ _).trans List.filter_sublist).map _)

theorem reclaim_rowStep (hs : r.status = .processing) :
    RowStep NoSuccess [] r (reclaim now r r) := by
  unfold reclaim
  split_ifs with hmax
  · exact RowStep.deadLetter hs hmax rfl
  · exact RowStep.reschedule hs (by omega) rfl

theorem reclaim_id (now : ℤ) (x r : ScheduledTaskRow J) : (reclaim now x r).id = r.id := by
  unfold reclaim
  split_ifs <;> rfl

theorem reclaimStuckTasks_rows {res : ReclaimResult}
    (h : reclaimStuckTasks t limit now locked = .ok (t', res)) :
    RowSteps NoSuccess [] t t' := by
  obtain ⟨u, hu, h⟩ := bind_eq_ok.mp h
  cases h
  have hrows := Table.updateEach_rows (σ := taskSchema J) (reclaim_id now)
    (fun x hx => (mem_stuckRows hx).1) (nodup_stuckRows t limit now locked) hu
  refine ⟨⟨_, hrows, fun r hr => ?_⟩, fun _ hc => absurd hc List.not_mem_nil⟩
  split_ifs with hstuck
  · obtain ⟨x, hx, e⟩ := List.mem_map.mp hstuck
    cases t.key_injective (mem_stuckRows hx).1 hr e
    exact reclaim_rowStep (mem_stuckRows hx).2.1
  · exact RowStep.refl (List.not_mem_nil)

end JavisSaas.Cosa.ControlPlane
