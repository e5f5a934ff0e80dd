import JavisSaas.Lib.Calls
import JavisSaas.Company.Events.Outbox

/-!
# Relays of the outbox

`services/company/events/outbox-relay.service.ts` and `ai-initiative-relay.service.ts`. Any number
of relays run: each claims a batch and goes through it, with one post and one write for each event.
A write may commit while its acknowledgement is lost. An error in a `catch` block and a crash are a
relay that is given up. Ghosts record the deliveries and the claims.

* `outboxChange_of_step`: everything that one step of `relays` may do.
* `outboxRule`: an invariant that every change keeps.
-/

namespace JavisSaas.Company.Events

open JavisSaas.Lib

/-! ## One event -/

def aiInitiativePromotedEventType : String := "ai.initiative.promoted.v1"

inductive RelayKind
  /-- `runRelayOnce`. -/
  | company
  /-- `runAiInitiativeRelayOnce`. -/
  | aiInitiative

def RelayKind.claimParams (limit : ℕ) : RelayKind → ClaimParams
  | company => {
    workerId := "company-relay"
    limit
    options := { excludeEventType := some aiInitiativePromotedEventType } }
  | aiInitiative => {
    workerId := "ai-initiative-relay"
    limit
    options := { eventType := some aiInitiativePromotedEventType } }

/-- How a post to the intake ends; `body` is the JSON text of the response. -/
inductive PostAnswer
  | response (status : ℕ) (outcome : Option String) (body : String)
  | thrown (error : String)

/-- How `publishPromotionSnapshotToCosa` ends. -/
inductive PublishAnswer
  | result (accepted : Bool) (status : String)
  | thrown (code message : String)

/-- How the database answers a write: it may have committed where no answer arrives. -/
inductive Ack
  | received
  | lost (error : String)
  | refused (error : String)

structure RelayAnswers where
  now : ℤ := 0
  uuid : String := ""
  locked : String → Bool := fun _ => false
  post : PostAnswer := .response 200 (some "accepted") "{}"
  publish : PublishAnswer := .result true "accepted"
  ack : Ack := .received

/-- Where a relay is with the first of its rows. -/
inductive RelayPhase
  | posting
  | completing
  | failing (error : String)
  /-- `failOutboxEvent` in the `catch` block. -/
  | recovering (error : String)
  /-- `completeOutboxEvent` in the `catch` block. -/
  | denied

/-- What follows a post (lines 53–60 of the company relay, 81–95 of the other). -/
def RelayKind.afterPost (answers : RelayAnswers) : RelayKind → RelayPhase
  | company =>
    match answers.post with
    | .response status outcome body =>
      if status = 200 ∧ outcome ∈ [some "accepted", some "duplicate", some "ignored_rule_disabled"]
      then .completing
      else if status = 200 ∧ outcome = some "policy_denied" then .completing
      else .failing ("status=" ++ toString status ++ " body=" ++ body)
    | .thrown error => .recovering error
  | aiInitiative =>
    match answers.publish with
    | .result true _ => .completing
    | .result false status => .failing ("not accepted: " ++ status)
    | .thrown code message =>
      if code = "permission_denied" ∨ code = "PermissionDenied" then .denied
      else .recovering message

/-- What a relay writes for its first row. -/
inductive RelayWrite
  | nothing
  | complete
  | fail (error : String)

/-- The next write of a relay and its phase after it; `none` when it goes on to its next row. -/
def RelayPhase.step (kind : RelayKind) (answers : RelayAnswers) :
    RelayPhase → RelayWrite × Option RelayPhase
  | posting => (.nothing, some (kind.afterPost answers))
  | completing =>
    match answers.ack with
    | .received => (.complete, none)
    | .lost e => (.complete, some (.recovering e))
    | .refused e => (.nothing, some (.recovering e))
  | failing error =>
    match answers.ack with
    | .received => (.fail error, none)
    | .lost e => (.fail error, some (.recovering e))
    | .refused e => (.nothing, some (.recovering e))
  | recovering error => (.fail error, none)
  | denied => (.complete, none)

/-- The table after a write, and the events that it delivers. -/
def RelayWrite.run (t : EventOutbox) (row : OutboxRow) (now : ℤ) :
    RelayWrite → EventOutbox × List String
  | nothing => (t, [])
  | complete =>
    match completeOutboxEvent t row.eventId row.claimToken now with
    | (t, done) => (t, if done then [row.eventId] else [])
  | fail error => (failOutboxEvent t row.eventId row.claimToken error now, [])

theorem RelayPhase.write_of_step_none {kind : RelayKind} {answers : RelayAnswers}
    {phase : RelayPhase} (h : (phase.step kind answers).2 = none) :
    (phase.step kind answers).1 ≠ .nothing := by
  cases phase with
  | posting => nomatch h
  | completing | failing =>
    simp only [step] at h ⊢
    split at h <;> simp_all
  | recovering | denied => exact fun h => nomatch h

/-! ## The relays -/

/-- A relay that runs, with the rows that it has not finished. -/
structure Relay where
  kind : RelayKind
  rows : List OutboxRow
  phase : RelayPhase := .posting

/-- Ghost: a claim of an event; `notBefore` is the end of the back-off of a pending event. -/
structure Handout where
  eventId : String
  claimedAt : ℤ
  notBefore : Option ℤ

structure Outbox where
  events : EventOutbox := ∅
  relays : Dict ℕ Relay := ∅
  nextRelay : ℕ := 0
  delivered : List String := []
  handouts : List Handout := []

inductive OutboxReq
  | append (e : BusinessEventEnvelope)
  | retry (eventId workspaceId : String)
  | relay (kind : RelayKind) (limit : ℕ)

inductive OutboxCall
  | append (e : BusinessEventEnvelope)
  | retry (eventId workspaceId : String)
  | relay (kind : RelayKind) (limit : ℕ)
  /-- The relay with this number. -/
  | running (n : ℕ)

def OutboxReq.call : OutboxReq → OutboxCall
  | append e => .append e
  | retry eventId workspaceId => .retry eventId workspaceId
  | relay kind limit => .relay kind limit

def handout (now : ℤ) (e : OutboxEvent) : Handout where
  eventId := e.eventId
  claimedAt := now
  notBefore := if e.status = .pending then e.visibilityTimeoutAt else none

/-- The relay after its step for a row, which it leaves or keeps. -/
def Relay.after (r : Relay) (rest : List OutboxRow) : Option RelayPhase → Relay
  | some phase => { r with phase }
  | none => { r with rows := rest, phase := .posting }

/-- The claim of a new relay. -/
def startRelay (s : Outbox) (kind : RelayKind) (limit : ℕ) (answers : RelayAnswers) : Outbox :=
  let p := kind.claimParams limit
  let due := dueOutboxEvents s.events p answers.now answers.locked
  let claimed := claimDueOutboxEvents s.events p answers.now answers.locked answers.uuid
  { s with
    events := claimed.1
    relays := s.relays.set s.nextRelay { kind, rows := claimed.2 }
    nextRelay := s.nextRelay + 1
    handouts := s.handouts ++ due.map (handout answers.now) }

/-- The step of relay `n` for its row `row`. -/
def moveRelay (s : Outbox) (n : ℕ) (r : Relay) (row : OutboxRow) (rest : List OutboxRow)
    (answers : RelayAnswers) : Outbox :=
  let move := r.phase.step r.kind answers
  let written := move.1.run s.events row answers.now
  { s with
    events := written.1
    delivered := s.delivered ++ written.2
    relays := s.relays.set n (r.after rest move.2) }

def stopRelay (s : Outbox) (n : ℕ) : Outbox := { s with relays := s.relays.erase n }

def OutboxCall.perform (s : Outbox) (answers : RelayAnswers) :
    OutboxCall → Outbox × Option OutboxCall
  | append e => ({ s with events := appendOutboxEvent s.events e }, none)
  | retry eventId workspaceId =>
    match retryOutbox s.events eventId workspaceId answers.now with
    | .ok events => ({ s with events }, none)
    | .error _ => (s, none)
  | relay kind limit => (startRelay s kind limit answers, some (.running s.nextRelay))
  | running n =>
    match s.relays.get? n with
    | none => (s, none)
    | some r =>
      match r.rows with
      | [] => (stopRelay s n, none)
      | row :: rest => (moveRelay s n r row rest answers, some (.running n))

/-- A relay that is given up leaves its rows as they are. -/
def OutboxCall.stop (c : OutboxCall) (s : Outbox) : Outbox :=
  match c with
  | running n => stopRelay s n
  | _ => s

def relays : Service OutboxReq Outbox OutboxCall RelayAnswers where
  start := OutboxReq.call
  step s c answers := some (c.perform s answers)
  abort := OutboxCall.stop

/-! ## What a step does -/

/-- Everything that one step of a call may do. -/
inductive OutboxChange (s : Outbox) (answers : RelayAnswers) : OutboxCall → Outbox → Prop
  | same (c : OutboxCall) : OutboxChange s answers c s
  | appended (e : BusinessEventEnvelope) (hnew : s.events.get? e.eventId = none) :
    OutboxChange s answers (.append e)
      { s with events := s.events.set e.eventId (newOutboxEvent e) }
  | retried (eventId workspaceId : String) (e : OutboxEvent)
    (hget : s.events.get? eventId = some e) (hdead : e.status = .dead) :
    OutboxChange s answers (.retry eventId workspaceId)
      { s with events := s.events.set eventId (requeue answers.now e) }
  | started (kind : RelayKind) (limit : ℕ) :
    OutboxChange s answers (.relay kind limit) (startRelay s kind limit answers)
  | moved (n : ℕ) (r : Relay) (row : OutboxRow) (rest : List OutboxRow)
    (hget : s.relays.get? n = some r) (hrows : r.rows = row :: rest) :
    OutboxChange s answers (.running n) (moveRelay s n r row rest answers)
  | stopped (n : ℕ) (hrows : ∀ r ∈ s.relays.get? n, r.rows = []) :
    OutboxChange s answers (.running n) (stopRelay s n)

theorem outboxChange_of_step {s s' : Outbox} {c : OutboxCall} {c' : Option OutboxCall}
    {answers : RelayAnswers} (h : relays.step s c answers = some (s', c')) :
    OutboxChange s answers c s' := by
  have hperform : c.perform s answers = (s', c') := Option.some.inj h
  cases c with
  | append e =>
    cases hperform
    unfold appendOutboxEvent
    split
    · exact .same _
    · next hnew => exact .appended e hnew
  | retry eventId workspaceId =>
    simp only [OutboxCall.perform, retryOutbox] at hperform
    split at hperform
    · next events hretry =>
      cases hperform
      split at hretry
      · next e he =>
        obtain ⟨hget, hcond⟩ := Option.filter_eq_some_iff.mp he
        cases hretry
        exact .retried eventId workspaceId e hget (of_decide_eq_true hcond).2
      · nomatch hretry
    · cases hperform
      exact .same _
  | relay kind limit =>
    cases hperform
    exact .started kind limit
  | running n =>
    simp only [OutboxCall.perform] at hperform
    split at hperform
    · cases hperform
      exact .same _
    · next r hget =>
      split at hperform
      · next hrows =>
        cases hperform
        refine .stopped n fun r' hr' => ?_
        cases hget.symm.trans hr'
        exact hrows
      · next row rest hrows =>
        cases hperform
        exact .moved n r row rest hget hrows

section Rule

variable {G : Outbox → OutboxCall → RelayAnswers → Prop} {A : Outbox → OutboxCall → Prop}
  {I : Outbox → Prop}

/-- An invariant of the outbox that every change keeps, and every relay that stops. -/
theorem outboxRule
    (hstep : ∀ s c answers s', I s → G s c answers → OutboxChange s answers c s' → I s')
    (hstop : ∀ s n, I s → A s (.running n) → I (stopRelay s n)) :
    relays.GuardedRule G A I fun _ _ => True where
  start _ _ _ := trivial
  step s c answers s' c' hI _ hG hs :=
    ⟨hstep s c answers s' hI hG (outboxChange_of_step hs), fun _ _ => trivial, fun _ _ => trivial⟩
  abort s c hI _ hA := by
    refine ⟨?_, fun _ _ => trivial⟩
    cases c with
    | running n => exact hstop s n hI hA
    | append | retry | relay => exact hI

end Rule

/-- An outbox without events. -/
def emptyOutbox : InFlight Outbox OutboxCall := { store := {} }

end JavisSaas.Company.Events
