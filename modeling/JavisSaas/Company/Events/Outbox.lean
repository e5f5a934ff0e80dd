import Mathlib.Algebra.Ring.Int.Defs
import Mathlib.Data.List.Sort
import JavisSaas.Lib.Dict
import JavisSaas.Lib.Fallible
import JavisSaas.Company.Finance.Money

/-!
# The event outbox

`services/company/shared/events/outbox.repository.ts` over `integration.event_outbox`, and
`retryOutbox` of `event-operations.service.ts`. Each function is one statement; the clock, the
random suffix of a token and the rows that `SKIP LOCKED` passes over are arguments.

* `get?_claimDueOutboxEvents`: an event after a claim.
* `completeOutboxEvent_cases`, `failOutboxEvent_cases`: what a write under a token does.
-/

namespace JavisSaas.Company.Events

open JavisSaas.Lib

/-! ## The table -/

/-- The statuses of the constraint `event_outbox_status_check`. -/
inductive OutboxStatus
  | pending
  | claimed
  | delivered
  | dead
  deriving DecidableEq

/-- What an event says of itself; its payload is only passed on. -/
structure BusinessEventEnvelope where
  eventId : String
  eventType : String
  schemaVersion : ℕ := 1
  occurredAt : ℤ
  workspaceId : String
  aggregateType : String
  aggregateId : String
  classification : String := "internal"

structure OutboxEvent where
  eventId : String
  workspaceId : String
  aggregateType : String
  aggregateId : String
  eventType : String
  schemaVersion : ℕ
  occurredAt : ℤ
  classification : String
  status : OutboxStatus := .pending
  attemptCount : ℕ := 0
  maxAttempts : ℕ := 8
  claimToken : Option String := none
  visibilityTimeoutAt : Option ℤ := none
  lastError : Option String := none
  deadLetterReason : Option String := none
  deliveredAt : Option ℤ := none

/-- `integration.event_outbox`, under `UNIQUE (event_id)`. -/
abbrev EventOutbox := Dict String OutboxEvent

/-! ## `appendOutboxEvent` (lines 33–50) -/

def newOutboxEvent (e : BusinessEventEnvelope) : OutboxEvent where
  eventId := e.eventId
  workspaceId := e.workspaceId
  aggregateType := e.aggregateType
  aggregateId := e.aggregateId
  eventType := e.eventType
  schemaVersion := e.schemaVersion
  occurredAt := e.occurredAt
  classification := e.classification

/-- `ON CONFLICT (event_id) DO NOTHING`. -/
def appendOutboxEvent (t : EventOutbox) (e : BusinessEventEnvelope) : EventOutbox :=
  match t.get? e.eventId with
  | some _ => t
  | none => t.set e.eventId (newOutboxEvent e)

/-! ## `claimDueOutboxEvents` (lines 65–101) -/

def visibilitySeconds : ℤ := 120

structure ClaimDueOutboxEventsOptions where
  eventType : Option String := none
  excludeEventType : Option String := none

structure ClaimParams where
  workerId : String
  limit : ℕ
  workspaceId : Option String := none
  options : ClaimDueOutboxEventsOptions := {}

/-- The scopes of a claim; an empty text is no scope. -/
def ClaimParams.inScope (p : ClaimParams) (e : OutboxEvent) : Bool :=
  (p.workspaceId.all fun w => w = "" ∨ e.workspaceId = w) &&
    (p.options.eventType.all fun t => t = "" ∨ e.eventType = t) &&
    p.options.excludeEventType.all fun t => t = "" ∨ e.eventType ≠ t

/-- The visibility timeout of the event is over. -/
def OutboxEvent.timedOut (now : ℤ) (e : OutboxEvent) : Bool :=
  e.visibilityTimeoutAt.any fun t => t < now

/-- `status = 'pending' OR (status = 'claimed' AND visibility_timeout_at < now())`. -/
def OutboxEvent.isDue (now : ℤ) (e : OutboxEvent) : Bool :=
  e.status = .pending || (e.status = .claimed && e.timedOut now)

/-- The due events that a claim locks, the oldest first. -/
def dueOutboxEvents (t : EventOutbox) (p : ClaimParams) (now : ℤ) (locked : String → Bool) :
    List OutboxEvent :=
  ((t.values.filter fun e => e.isDue now && p.inScope e && !locked e.eventId).insertionSort
    fun a b => a.occurredAt ≤ b.occurredAt).take p.limit

/-- The columns of a claim. -/
def claim (token : String) (now : ℤ) (e : OutboxEvent) : OutboxEvent :=
  { e with
    status := .claimed
    claimToken := some token
    attemptCount := e.attemptCount + 1
    visibilityTimeoutAt := some (now + visibilitySeconds * 1000) }

/-- What a relay uses of a claimed row. -/
structure OutboxRow where
  eventId : String
  claimToken : String

/-- All rows of one claim have one token. -/
def ClaimParams.token (p : ClaimParams) (uuid : String) : String := p.workerId ++ ":" ++ uuid

def claimDueOutboxEvents (t : EventOutbox) (p : ClaimParams) (now : ℤ) (locked : String → Bool)
    (uuid : String) : EventOutbox × List OutboxRow :=
  let ids := (dueOutboxEvents t p now locked).map (·.eventId)
  (t.mapValues fun id e => if id ∈ ids then claim (p.token uuid) now e else e,
    ids.map fun eventId => ⟨eventId, p.token uuid⟩)

/-! ## `completeOutboxEvent`, `failOutboxEvent` (lines 103–125) -/

/-- The columns of a delivery; the token stays. -/
def deliver (now : ℤ) (e : OutboxEvent) : OutboxEvent :=
  { e with status := .delivered, deliveredAt := some now }

/-- Whether a row was found. -/
def completeOutboxEvent (t : EventOutbox) (eventId claimToken : String) (now : ℤ) :
    EventOutbox × Bool :=
  match (t.get? eventId).filter fun e => e.claimToken = some claimToken ∧ e.status = .claimed with
  | some e => (t.set eventId (deliver now e), true)
  | none => (t, false)

/-- 5 s, 10 s, 20 s, … up to 5 minutes. -/
def backOffSeconds (attemptCount : ℕ) : ℤ := min 300 (5 * 2 ^ (attemptCount - 1))

/-- The columns of a failure. -/
def fail (error : String) (now : ℤ) (e : OutboxEvent) : OutboxEvent :=
  { e with
    status := if e.maxAttempts ≤ e.attemptCount then .dead else .pending
    deadLetterReason := if e.maxAttempts ≤ e.attemptCount then some error else e.deadLetterReason
    lastError := some error
    claimToken := none
    visibilityTimeoutAt := some (now + backOffSeconds e.attemptCount * 1000) }

theorem fail_status {error : String} {now : ℤ} {e : OutboxEvent} :
    (fail error now e).status = if e.maxAttempts ≤ e.attemptCount then .dead else .pending := rfl

def failOutboxEvent (t : EventOutbox) (eventId claimToken error : String) (now : ℤ) : EventOutbox :=
  match (t.get? eventId).filter fun e => e.claimToken = some claimToken with
  | some e => t.set eventId (fail error now e)
  | none => t

/-! ## `retryOutbox` -/

/-- The columns of a retry by hand. -/
def requeue (now : ℤ) (e : OutboxEvent) : OutboxEvent :=
  { e with
    status := .pending
    claimToken := none
    visibilityTimeoutAt := some now
    attemptCount := 0 }

def retryOutbox (t : EventOutbox) (eventId workspaceId : String) (now : ℤ) :
    Except ApiError EventOutbox :=
  match (t.get? eventId).filter fun e => e.workspaceId = workspaceId ∧ e.status = .dead with
  | some e => .ok (t.set eventId (requeue now e))
  | none => .error (.notFound "Dead-letter event not found in workspace")

/-! ## What the functions do -/

section Cases

variable {t : EventOutbox} {p : ClaimParams} {now : ℤ} {locked : String → Bool} {uuid : String}

theorem mem_dueOutboxEvents {e : OutboxEvent} (h : e ∈ dueOutboxEvents t p now locked) :
    e ∈ t.values ∧ e.isDue now = true := by
  have hmem := List.mem_of_mem_take h
  rw [List.mem_insertionSort, List.mem_filter] at hmem
  simp only [Bool.and_eq_true] at hmem
  exact ⟨hmem.1, hmem.2.1.1⟩

theorem isDue_iff {e : OutboxEvent} :
    e.isDue now = true ↔ e.status = .pending ∨ e.status = .claimed ∧ e.timedOut now = true := by
  simp [OutboxEvent.isDue]

/-- An event after a claim: it was due and is claimed, or it is as it was. -/
theorem get?_claimDueOutboxEvents (hkey : ∀ id e, t.get? id = some e → e.eventId = id) {id : String}
    {e' : OutboxEvent} (h : (claimDueOutboxEvents t p now locked uuid).1.get? id = some e') :
    ∃ e, t.get? id = some e ∧
      ((e ∈ dueOutboxEvents t p now locked ∧ e' = claim (p.token uuid) now e) ∨ e' = e) := by
  simp only [claimDueOutboxEvents, Dict.get?_mapValues, Option.map_eq_some_iff] at h
  obtain ⟨e, hget, rfl⟩ := h
  refine ⟨e, hget, ?_⟩
  split_ifs with hid
  · obtain ⟨d, hd, hdid⟩ := List.mem_map.mp hid
    obtain ⟨k, hk⟩ := Dict.mem_values.mp (mem_dueOutboxEvents hd).1
    obtain rfl : k = id := (hkey k d hk).symm.trans hdid
    cases hk.symm.trans hget
    exact .inl ⟨hd, rfl⟩
  · exact .inr rfl

theorem get?_claimDueOutboxEvents_of_not_due
    (hkey : ∀ id e, t.get? id = some e → e.eventId = id) {id : String} {e : OutboxEvent}
    (hget : t.get? id = some e) (hdue : e.isDue now = false) :
    (claimDueOutboxEvents t p now locked uuid).1.get? id = some e := by
  simp only [claimDueOutboxEvents, Dict.get?_mapValues, hget, Option.map_some]
  split_ifs with hid
  · obtain ⟨d, hd, hdid⟩ := List.mem_map.mp hid
    obtain ⟨hmem, hd⟩ := mem_dueOutboxEvents hd
    obtain ⟨k, hk⟩ := Dict.mem_values.mp hmem
    obtain rfl : k = id := (hkey k d hk).symm.trans hdid
    cases hk.symm.trans hget
    nomatch hdue.symm.trans hd
  · rfl

theorem mem_rows_claimDueOutboxEvents {e : OutboxEvent} (h : e ∈ dueOutboxEvents t p now locked) :
    ⟨e.eventId, p.token uuid⟩ ∈ (claimDueOutboxEvents t p now locked uuid).2 :=
  List.mem_map_of_mem (List.mem_map_of_mem h)

theorem completeOutboxEvent_cases (t : EventOutbox) (eventId claimToken : String) (now : ℤ) :
    (∃ e, t.get? eventId = some e ∧ e.claimToken = some claimToken ∧ e.status = .claimed ∧
      completeOutboxEvent t eventId claimToken now = (t.set eventId (deliver now e), true)) ∨
    (∀ e, t.get? eventId = some e → e.claimToken = some claimToken → e.status ≠ .claimed) ∧
      completeOutboxEvent t eventId claimToken now = (t, false) := by
  unfold completeOutboxEvent
  split
  · next e h =>
    obtain ⟨hget, hcond⟩ := Option.filter_eq_some_iff.mp h
    obtain ⟨htoken, hstatus⟩ := of_decide_eq_true hcond
    exact .inl ⟨e, hget, htoken, hstatus, rfl⟩
  · next h =>
    refine .inr ⟨fun e hget htoken hstatus => ?_, rfl⟩
    exact Option.filter_eq_none_iff.mp h e hget (decide_eq_true ⟨htoken, hstatus⟩)

theorem failOutboxEvent_cases (t : EventOutbox) (eventId claimToken error : String) (now : ℤ) :
    (∃ e, t.get? eventId = some e ∧ e.claimToken = some claimToken ∧
      failOutboxEvent t eventId claimToken error now = t.set eventId (fail error now e)) ∨
    (∀ e, t.get? eventId = some e → e.claimToken ≠ some claimToken) ∧
      failOutboxEvent t eventId claimToken error now = t := by
  unfold failOutboxEvent
  split
  · next e h =>
    obtain ⟨hget, hcond⟩ := Option.filter_eq_some_iff.mp h
    exact .inl ⟨e, hget, of_decide_eq_true hcond, rfl⟩
  · next h =>
    refine .inr ⟨fun e hget htoken => ?_, rfl⟩
    exact Option.filter_eq_none_iff.mp h e hget (decide_eq_true htoken)

end Cases

end JavisSaas.Company.Events
