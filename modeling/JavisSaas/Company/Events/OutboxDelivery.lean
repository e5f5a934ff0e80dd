import JavisSaas.Company.Events.OutboxRelay

/-!
# Delivery of the events of the outbox

A delivered event should stay delivered, a failed one wait for its back-off, and an event be dead
exactly when its attempts are used up. A completion is fenced by the token and the status, a failure
by the token alone; a claim does not look at the end of a back-off; and the limit is only compared
where a failure is written.

* `deliveryLaw_of_run`: the law, if claims respect the back-off and the limit, no failure is written
  over a delivery, and no relay stops at the last attempt of an event.
* `not_deliveryLaw_lostAck`: a delivered event is pending again.
-/

namespace JavisSaas.Company.Events

open JavisSaas.Lib

/-! ## The law -/

/-- The current claim of the event belongs to a row that a relay has not finished. -/
def Outbox.Held (s : Outbox) (e : OutboxEvent) : Prop :=
  ∃ n r, s.relays.get? n = some r ∧
    ∃ row ∈ r.rows, row.eventId = e.eventId ∧ e.claimToken = some row.claimToken

/-- All attempts were made, none delivered the event, and no relay is at the last one. -/
def Outbox.UsedUp (s : Outbox) (e : OutboxEvent) : Prop :=
  e.maxAttempts ≤ e.attemptCount ∧ e.status ≠ .delivered ∧ ¬s.Held e

structure DeliveryLaw (s : Outbox) : Prop where
  delivered : ∀ id ∈ s.delivered, ∀ e ∈ s.events.get? id, e.status ≠ .pending
  backOff : ∀ h ∈ s.handouts, ∀ t ∈ h.notBefore, t ≤ h.claimedAt
  attempts : ∀ id, ∀ e ∈ s.events.get? id, e.attemptCount ≤ e.maxAttempts
  dead : ∀ id, ∀ e ∈ s.events.get? id, e.status = .dead ↔ s.UsedUp e

/-- No claim in a back-off or beyond the limit, and no failure over a delivery. -/
def RespectsEvents (s : Outbox) (c : OutboxCall) (answers : RelayAnswers) : Prop :=
  match c with
  | .relay kind limit =>
    ∀ e ∈ dueOutboxEvents s.events (kind.claimParams limit) answers.now answers.locked,
      (e.status = .pending → ∀ t ∈ e.visibilityTimeoutAt, t ≤ answers.now) ∧
        (e.status = .claimed → e.attemptCount < e.maxAttempts)
  | .running n => ∀ r ∈ s.relays.get? n, ∀ row ∈ r.rows.head?,
    match (r.phase.step r.kind answers).1 with
    | .fail _ => ∀ e ∈ s.events.get? row.eventId, e.claimToken = some row.claimToken →
      e.status ≠ .delivered
    | _ => True
  | _ => True

/-- A relay that is given up leaves no event at its last attempt. -/
def FinishesLast (s : Outbox) (c : OutboxCall) : Prop :=
  match c with
  | .running n => ∀ r ∈ s.relays.get? n, ∀ row ∈ r.rows, ∀ e ∈ s.events.get? row.eventId,
    e.claimToken = some row.claimToken → e.status = .claimed → e.attemptCount < e.maxAttempts
  | _ => True

instance (s : Outbox) (row : OutboxRow) : (w : RelayWrite) → Decidable (match w with
    | .fail _ => ∀ e ∈ s.events.get? row.eventId, e.claimToken = some row.claimToken →
      e.status ≠ .delivered
    | _ => True)
  | .fail _ => inferInstanceAs (Decidable (∀ _ ∈ _, _ → _))
  | .nothing | .complete => instDecidableTrue

instance (s : Outbox) (answers : RelayAnswers) (c : OutboxCall) :
    Decidable (RespectsEvents s c answers) := by
  unfold RespectsEvents
  split <;> infer_instance

instance (s : Outbox) : (c : OutboxCall) → Decidable (FinishesLast s c)
  | .running _ => inferInstanceAs (Decidable (∀ _ ∈ _, ∀ _ ∈ _, ∀ _ ∈ _, _ → _ → _))
  | .append _ | .retry _ _ | .relay _ _ => instDecidableTrue

/-! ## Every step -/

/-- How an event stands to its attempts. -/
structure EventKept (s : Outbox) (e : OutboxEvent) : Prop where
  limit : 0 < e.maxAttempts
  attempts : e.attemptCount ≤ e.maxAttempts
  pending : e.status = .pending → e.attemptCount < e.maxAttempts
  dead : e.status = .dead → e.maxAttempts ≤ e.attemptCount ∧ e.claimToken = none
  claimed : e.status = .claimed → e.maxAttempts ≤ e.attemptCount → s.Held e

structure EventsKept (s : Outbox) : Prop where
  keyed : ∀ id e, s.events.get? id = some e → e.eventId = id
  event : ∀ id e, s.events.get? id = some e → EventKept s e
  delivered : ∀ id ∈ s.delivered, ∃ e, s.events.get? id = some e ∧ e.status = .delivered
  backOff : ∀ h ∈ s.handouts, ∀ t ∈ h.notBefore, t ≤ h.claimedAt
  numbered : ∀ n, s.nextRelay ≤ n → s.relays.get? n = none

theorem EventsKept.law {s : Outbox} (h : EventsKept s) : DeliveryLaw s where
  delivered id hid e he := by
    obtain ⟨e', he', hstatus⟩ := h.delivered id hid
    cases he'.symm.trans he
    rw [hstatus]
    exact fun h => nomatch h
  backOff := h.backOff
  attempts id e he := (h.event id e he).attempts
  dead id e he := by
    have hkept := h.event id e he
    constructor
    · intro hdead
      obtain ⟨hmax, htoken⟩ := hkept.dead hdead
      refine ⟨hmax, (fun hd => nomatch hdead.symm.trans hd), ?_⟩
      rintro ⟨n, r, -, row, -, -, hrow⟩
      nomatch htoken.symm.trans hrow
    · rintro ⟨hmax, hdelivered, hheld⟩
      cases hstatus : e.status with
      | pending =>
        have := hkept.pending hstatus
        omega
      | claimed => exact absurd (hkept.claimed hstatus hmax) hheld
      | delivered => exact absurd hstatus hdelivered
      | dead => rfl

section Step

variable {s s' : Outbox} {c : OutboxCall} {answers : RelayAnswers}

theorem EventsKept.put (h : EventsKept s) (id : String) (e : OutboxEvent) (relays : Dict ℕ Relay)
    (delivered : List String) (hid : e.eventId = id)
    (hkept : ∀ s' : Outbox, s'.relays = relays → EventKept s' e)
    (hheld : ∀ id' e', id' ≠ id → s.events.get? id' = some e' → s.Held e' →
      ({ s with relays } : Outbox).Held e')
    (hold : id ∈ s.delivered → e.status = .delivered)
    (hnew : ∀ id' ∈ delivered, id' = id ∧ e.status = .delivered)
    (hnumbered : ∀ n, s.nextRelay ≤ n → relays.get? n = none) :
    EventsKept { s with
      events := s.events.set id e, relays, delivered := s.delivered ++ delivered } where
  keyed id' e' hget := by
    rw [Dict.get?_set] at hget
    split_ifs at hget with heq
    · cases hget
      exact hid.trans heq
    · exact h.keyed id' e' hget
  event id' e' hget := by
    rw [Dict.get?_set] at hget
    split_ifs at hget with heq
    · cases hget
      exact hkept _ rfl
    · obtain ⟨hlimit, hattempts, hpending, hdead, hclaimed⟩ := h.event id' e' hget
      refine ⟨hlimit, hattempts, hpending, hdead, fun hstatus hmax => ?_⟩
      exact hheld id' e' (Ne.symm heq) hget (hclaimed hstatus hmax)
  delivered id' hid' := by
    show ∃ e', (s.events.set id e).get? id' = some e' ∧ _
    rw [Dict.get?_set]
    split_ifs with heq
    · subst heq
      refine ⟨e, rfl, ?_⟩
      rcases List.mem_append.mp hid' with hid' | hid'
      · exact hold hid'
      · exact (hnew _ hid').2
    · rcases List.mem_append.mp hid' with hid' | hid'
      · exact h.delivered id' hid'
      · exact absurd (hnew id' hid').1.symm heq
  backOff := h.backOff
  numbered := hnumbered

theorem EventsKept.appended (h : EventsKept s) {e : BusinessEventEnvelope}
    (hnew : s.events.get? e.eventId = none) :
    EventsKept { s with events := s.events.set e.eventId (newOutboxEvent e) } := by
  have hkept : ∀ s' : Outbox, EventKept s' (newOutboxEvent e) := by
    intro s'
    exact ⟨Nat.succ_pos 7, Nat.zero_le 8, fun _ => Nat.succ_pos 7, (fun hd => nomatch hd),
      fun hc => nomatch hc⟩
  have hput := h.put e.eventId (newOutboxEvent e) s.relays [] rfl (fun s' _ => hkept s')
    (fun _ _ _ _ hheld => hheld) (fun hid => ?_) (fun _ hid => absurd hid List.not_mem_nil)
    h.numbered
  · simpa using hput
  · obtain ⟨e', he', -⟩ := h.delivered _ hid
    nomatch hnew.symm.trans he'

theorem EventsKept.retried (h : EventsKept s) {id : String} {e : OutboxEvent}
    (hget : s.events.get? id = some e) (hdead : e.status = .dead) (now : ℤ) :
    EventsKept { s with events := s.events.set id (requeue now e) } := by
  have hlimit := (h.event id e hget).limit
  have hkept : ∀ s' : Outbox, EventKept s' (requeue now e) := by
    intro s'
    exact ⟨hlimit, Nat.zero_le _, fun _ => hlimit, (fun hd => nomatch hd), fun hc => nomatch hc⟩
  have hput := h.put id (requeue now e) s.relays [] (h.keyed id e hget) (fun s' _ => hkept s')
    (fun _ _ _ _ hheld => hheld) (fun hid => ?_) (fun _ hid => absurd hid List.not_mem_nil)
    h.numbered
  · simpa using hput
  · obtain ⟨e', he', hstatus⟩ := h.delivered _ hid
    cases he'.symm.trans hget
    nomatch hdead.symm.trans hstatus

theorem EventsKept.started (h : EventsKept s) {kind : RelayKind} {limit : ℕ}
    (hG : RespectsEvents s (.relay kind limit) answers) :
    EventsKept (startRelay s kind limit answers) := by
  set p := kind.claimParams limit
  have hevent : ∀ {id e'}, (startRelay s kind limit answers).events.get? id = some e' →
      ∃ e, s.events.get? id = some e ∧
        ((e ∈ dueOutboxEvents s.events p answers.now answers.locked ∧
          e' = claim (p.token answers.uuid) answers.now e) ∨ e' = e) :=
    fun hget => get?_claimDueOutboxEvents h.keyed hget
  refine ⟨fun id e' hget => ?_, fun id e' hget => ?_, fun id hid => ?_, fun ho hho => ?_,
    fun n hn => ?_⟩
  · obtain ⟨e, he, ⟨-, rfl⟩ | rfl⟩ := hevent hget
    · exact h.keyed id e he
    · exact h.keyed id e' he
  · obtain ⟨e, he, ⟨hdue, rfl⟩ | rfl⟩ := hevent hget
    · have hkept := h.event id e he
      have hlt : e.attemptCount < e.maxAttempts := by
        rcases isDue_iff.mp (mem_dueOutboxEvents hdue).2 with hpending | ⟨hclaimed, -⟩
        · exact hkept.pending hpending
        · exact (hG e hdue).2 hclaimed
      refine ⟨hkept.limit, hlt, (fun hs => by cases hs), (fun hs => by cases hs), fun _ _ => ?_⟩
      -- the new relay holds every event that it claims
      exact ⟨s.nextRelay, _, Dict.get?_set_self _ _ _, _, mem_rows_claimDueOutboxEvents hdue, rfl,
        rfl⟩
    · obtain ⟨hlimit, hattempts, hpending, hdead, hclaimed⟩ := h.event id e' he
      refine ⟨hlimit, hattempts, hpending, hdead, fun hstatus hmax => ?_⟩
      obtain ⟨n, r, hr, hrow⟩ := hclaimed hstatus hmax
      refine ⟨n, r, ?_, hrow⟩
      rw [startRelay, Dict.get?_set, if_neg ?_]
      · exact hr
      · rintro rfl
        cases (h.numbered _ le_rfl).symm.trans hr
  · obtain ⟨e, he, hstatus⟩ := h.delivered id hid
    have hdue : e.isDue answers.now = false := by simp [OutboxEvent.isDue, hstatus]
    exact ⟨e, get?_claimDueOutboxEvents_of_not_due h.keyed he hdue, hstatus⟩
  · rcases List.mem_append.mp hho with hho | hho
    · exact h.backOff ho hho
    · obtain ⟨e, hdue, rfl⟩ := List.mem_map.mp hho
      intro t ht
      simp only [handout] at ht ⊢
      split_ifs at ht with hpending
      · exact (hG e hdue).1 hpending t ht
      · cases ht
  · rw [startRelay, Dict.get?_set, if_neg (by have : s.nextRelay + 1 ≤ n := hn; omega)]
    exact h.numbered n (Nat.le_of_succ_le hn)

theorem EventsKept.relays (h : EventsKept s) {relays : Dict ℕ Relay}
    (hheld : ∀ id e, s.events.get? id = some e → e.status = .claimed → s.Held e →
      ({ s with relays } : Outbox).Held e)
    (hnumbered : ∀ n, s.nextRelay ≤ n → relays.get? n = none) :
    EventsKept { s with relays } where
  keyed := h.keyed
  event id e hget := by
    obtain ⟨hlimit, hattempts, hpending, hdead, hclaimed⟩ := h.event id e hget
    exact ⟨hlimit, hattempts, hpending, hdead, fun hstatus hmax =>
      hheld id e hget hstatus (hclaimed hstatus hmax)⟩
  delivered := h.delivered
  backOff := h.backOff
  numbered := hnumbered

section Move

variable {n : ℕ} {r : Relay} {row : OutboxRow} {rest : List OutboxRow}

/-- A relay that moves on still holds every event but the one of the row that it leaves. -/
theorem held_move (hget : s.relays.get? n = some r) (hrows : r.rows = row :: rest)
    {next : Option RelayPhase} {e : OutboxEvent} (h : s.Held e)
    (hleave : next = none → row.eventId = e.eventId → e.claimToken ≠ some row.claimToken) :
    ({ s with relays := s.relays.set n (r.after rest next) } : Outbox).Held e := by
  obtain ⟨n', r', hr', row', hmem, hid, htoken⟩ := h
  by_cases hn : n = n'
  · subst hn
    cases hget.symm.trans hr'
    refine ⟨n, _, Dict.get?_set_self _ _ _, row', ?_, hid, htoken⟩
    cases next with
    | some => exact hmem
    | none =>
      rw [hrows] at hmem
      rcases List.mem_cons.mp hmem with rfl | hmem
      · exact absurd htoken (hleave rfl hid)
      · exact hmem
  · exact ⟨n', r', (Dict.get?_set_of_ne _ hn _).trans hr', row', hmem, hid, htoken⟩

theorem numbered_set (h : EventsKept s) (hget : s.relays.get? n = some r) (r' : Relay) :
    ∀ n', s.nextRelay ≤ n' → (s.relays.set n r').get? n' = none := by
  intro n' hn'
  rw [Dict.get?_set, if_neg ?_]
  · exact h.numbered n' hn'
  · rintro rfl
    nomatch (h.numbered _ hn').symm.trans hget

theorem EventsKept.completed (h : EventsKept s) (hget : s.relays.get? n = some r)
    (hrows : r.rows = row :: rest) (next : Option RelayPhase) (now : ℤ) :
    EventsKept { s with
      events := (RelayWrite.complete.run s.events row now).1
      delivered := s.delivered ++ (RelayWrite.complete.run s.events row now).2
      relays := s.relays.set n (r.after rest next) } := by
  simp only [RelayWrite.run]
  rcases completeOutboxEvent_cases s.events row.eventId row.claimToken now with
    ⟨e, he, htoken, hstatus, hrun⟩ | ⟨hmiss, hrun⟩
  · have hid := h.keyed _ e he
    have hkept := h.event _ e he
    rw [hrun]
    refine h.put row.eventId _ _ _ hid ?_ ?_ (fun _ => rfl) ?_ (numbered_set h hget _)
    · intro s' _
      exact ⟨hkept.limit, hkept.attempts, (fun hs => nomatch hs), (fun hs => nomatch hs),
        fun hs => nomatch hs⟩
    · intro id' e' hne he' hheld
      refine held_move hget hrows hheld fun _ hrow => ?_
      exact absurd ((h.keyed id' e' he').symm.trans hrow.symm) hne
    · intro id' hid'
      exact ⟨List.mem_singleton.mp hid', rfl⟩
  · rw [hrun]
    simp only [Bool.false_eq_true, if_false, List.append_nil]
    refine h.relays (fun id e he hstatus hheld => ?_) (numbered_set h hget _)
    refine held_move hget hrows hheld fun _ hrow htoken => hmiss e ?_ htoken hstatus
    rw [hrow, h.keyed id e he]
    exact he

theorem EventsKept.failed (h : EventsKept s) (hget : s.relays.get? n = some r)
    (hrows : r.rows = row :: rest) (next : Option RelayPhase) {error : String} {now : ℤ}
    (hlive : ∀ e ∈ s.events.get? row.eventId, e.claimToken = some row.claimToken →
      e.status ≠ .delivered) :
    EventsKept { s with
      events := failOutboxEvent s.events row.eventId row.claimToken error now
      relays := s.relays.set n (r.after rest next) } := by
  rcases failOutboxEvent_cases s.events row.eventId row.claimToken error now with
    ⟨e, he, htoken, hrun⟩ | ⟨hmiss, hrun⟩
  · have hid := h.keyed _ e he
    obtain ⟨hlimit, hattempts, -, -, -⟩ := h.event _ e he
    rw [hrun]
    have hput := h.put row.eventId (fail error now e) (s.relays.set n (r.after rest next)) [] hid
      ?_ ?_ ?_ (fun _ hid => absurd hid List.not_mem_nil) (numbered_set h hget _)
    · simpa using hput
    · intro s' _
      refine ⟨hlimit, hattempts, fun hs => ?_, fun hs => ⟨?_, rfl⟩, fun hs => ?_⟩ <;>
        rw [fail_status] at hs <;> split_ifs at hs with hmax
      · exact Nat.lt_of_not_le hmax
      · exact hmax
    · intro id' e' hne he' hheld
      refine held_move hget hrows hheld fun _ hrow => ?_
      exact absurd ((h.keyed id' e' he').symm.trans hrow.symm) hne
    · intro hold
      obtain ⟨e', he', hstatus⟩ := h.delivered _ hold
      obtain rfl := Option.some.inj (he'.symm.trans he)
      exact absurd hstatus (hlive e' he htoken)
  · rw [hrun]
    refine h.relays (fun id e he _ hheld => ?_) (numbered_set h hget _)
    refine held_move hget hrows hheld fun _ hrow htoken => hmiss e ?_ htoken
    rw [hrow, h.keyed id e he]
    exact he

theorem EventsKept.moved (h : EventsKept s) (hget : s.relays.get? n = some r)
    (hrows : r.rows = row :: rest) (hG : RespectsEvents s (.running n) answers) :
    EventsKept (moveRelay s n r row rest answers) := by
  have hwrite := hG r hget row (by rw [hrows]; rfl)
  have hleave : (r.phase.step r.kind answers).2 = none →
      (r.phase.step r.kind answers).1 ≠ .nothing := RelayPhase.write_of_step_none
  unfold moveRelay
  generalize r.phase.step r.kind answers = move at hwrite hleave ⊢
  obtain ⟨write, next⟩ := move
  cases write with
  | nothing =>
    simp only [RelayWrite.run, List.append_nil]
    refine h.relays (fun id e _ _ hheld => ?_) (numbered_set h hget _)
    exact held_move hget hrows hheld fun hnext => absurd rfl (hleave hnext)
  | complete => exact h.completed hget hrows next answers.now
  | fail =>
    simp only [RelayWrite.run, List.append_nil]
    exact h.failed hget hrows next hwrite

end Move

theorem EventsKept.stopped (h : EventsKept s) {n : ℕ} (hA : FinishesLast s (.running n)) :
    EventsKept (stopRelay s n) := by
  refine ⟨h.keyed, fun id e hget => ?_, h.delivered, h.backOff, fun n' hn' => ?_⟩
  · obtain ⟨hlimit, hattempts, hpending, hdead, hclaimed⟩ := h.event id e hget
    refine ⟨hlimit, hattempts, hpending, hdead, fun hstatus hmax => ?_⟩
    obtain ⟨n', r, hr, row, hrow, hid, htoken⟩ := hclaimed hstatus hmax
    refine ⟨n', r, ?_, row, hrow, hid, htoken⟩
    rw [stopRelay, Dict.get?_erase, if_neg ?_]
    · exact hr
    · rintro rfl
      have hlt := hA r hr row hrow e (by rw [hid, h.keyed id e hget]; exact hget) htoken hstatus
      omega
  · rw [stopRelay, Dict.get?_erase]
    split_ifs
    · rfl
    · exact h.numbered n' hn'

theorem EventsKept.change (h : EventsKept s) (hG : RespectsEvents s c answers)
    (hc : OutboxChange s answers c s') : EventsKept s' := by
  cases hc with
  | same => exact h
  | appended _ hnew => exact h.appended hnew
  | retried _ _ _ hget hdead => exact h.retried hget hdead answers.now
  | started => exact h.started hG
  | moved _ _ _ _ hget hrows => exact h.moved hget hrows hG
  | stopped _ hrows =>
    refine h.stopped fun r hr row hrow => ?_
    rw [hrows r hr] at hrow
    nomatch hrow

end Step

/-! ## Every run -/

theorem eventsKept_empty : EventsKept {} where
  keyed _ _ h := nomatch h
  event _ _ h := nomatch h
  delivered _ h := absurd h List.not_mem_nil
  backOff _ h := absurd h List.not_mem_nil
  numbered _ _ := rfl

/-- If every step respects the events and no relay stops at a last attempt, the law holds. -/
theorem deliveryLaw_of_run (ls : List (CallLabel OutboxReq RelayAnswers))
    (s : InFlight Outbox OutboxCall)
    (h : relays.system.Along
      (fun s l => Service.Meets RespectsEvents s l ∧ Service.Spares FinishesLast s l) emptyOutbox ls)
    (hs : relays.system.run emptyOutbox ls = some s) : DeliveryLaw s.store := by
  have hrule : relays.GuardedRule RespectsEvents FinishesLast EventsKept fun _ _ => True :=
    outboxRule (fun _ _ _ _ hI hG hc => hI.change hG hc) fun _ _ hI hA => hI.stopped hA
  exact (hrule.inv_of_along (.of_empty eventsKept_empty) h hs).store.law

/-! ### Runs -/

def taskCreated : BusinessEventEnvelope where
  eventId := "e1"
  eventType := "operations.task.created.v1"
  occurredAt := 0
  workspaceId := "1"
  aggregateType := "task"
  aggregateId := "t1"

/-- The event is appended, and claimed by the relay of call 1. -/
def claimedTask : List (CallLabel OutboxReq RelayAnswers) :=
  [.start (.append taskCreated), .step 0 {}, .start (.relay .company 50),
    .step 1 { now := 10, uuid := "a" }]

/-- Its post fails, and it is claimed again and delivered once its back-off is over. -/
def retriedTask : List (CallLabel OutboxReq RelayAnswers) :=
  claimedTask ++ [CallLabel.step 1 { now := 20, post := .thrown "connection refused" },
    .step 1 { now := 30 }, .start (OutboxReq.relay .company 50),
    .step 2 { now := 5030, uuid := "b" },
    .step 2 { now := 5040 }, .step 2 { now := 5050 }, .step 2 { now := 5060 }]

def retriedTaskState : InFlight Outbox OutboxCall :=
  (relays.system.run emptyOutbox retriedTask).get (by decide +kernel)

theorem deliveryLaw_retriedTask : DeliveryLaw retriedTaskState.store :=
  deliveryLaw_of_run retriedTask retriedTaskState (by decide +kernel) (Option.some_get _).symm

/-- The completion commits, but its acknowledgement is lost; the relay writes a failure. -/
def lostAck : List (CallLabel OutboxReq RelayAnswers) :=
  claimedTask ++
    [CallLabel.step 1 { now := 20 }, .step 1 { now := 30, ack := .lost "connection reset" },
    .step 1 { now := 40 }]

def lostAckState : InFlight Outbox OutboxCall :=
  (relays.system.run emptyOutbox lostAck).get (by decide +kernel)

/-- A delivered event is pending again. -/
theorem not_deliveryLaw_lostAck :
    relays.system.run emptyOutbox lostAck = some lostAckState ∧ ¬DeliveryLaw lostAckState.store := by
  refine ⟨(Option.some_get _).symm, fun h => ?_⟩
  have hpending : ∃ id ∈ lostAckState.store.delivered,
      ∃ e ∈ lostAckState.store.events.get? id, e.status = .pending := by
    decide +kernel
  obtain ⟨id, hid, e, he, hstatus⟩ := hpending
  exact h.delivered id hid e he hstatus

end JavisSaas.Company.Events
