import JavisSaas.Company.Identity.AuthorizationWrites

/-!
# Every ticket is consumed once, and by the authority of its epoch

A ticket is consumed at most once, before it expires and for what it was issued for; if with the
current epoch, its authority was evaluated after the last change. An issue reads the epoch after it
has evaluated the authority.

* `ticketLaw_along`: the law, if no change of authority is committed between the first query of an
  evaluation and the read of the epoch.
* `not_ticketLaw_revokedMeanwhile`: a revocation between the two.
-/

namespace JavisSaas.Company.Identity

open JavisSaas.Lib

section

variable {V : Type}

/-! ## The law -/

/-- The row that is inserted, up to its consumption; `base` is the epoch before all changes. -/
def IssuedAs (workspaceId base : ℕ) (issue : TicketIssue V) (row : AuthorizationTicket) : Prop :=
  row = { issue.input.ticket workspaceId (base + issue.changes) row.expiresAt with
    status := row.status
    consumedAt := row.consumedAt }

/-- What is expected of the ticket is what it was issued for. -/
structure ExpectedTicketConsumption.IsFor (workspaceId : ℕ) (input : IssueTicketInput V)
    (expected : ExpectedTicketConsumption) : Prop where
  workspaceId : expected.workspaceId = toString workspaceId
  runId : expected.runId = input.runId
  toolCallId : expected.toolCallId = input.toolCallId
  checkpointRef : expected.checkpointRef = input.checkpointRef
  capabilityId : expected.capabilityId = input.capabilityId

/-- Each ticket is consumed at most once, before it expires, as it was issued; and with the current
epoch only if nothing had changed since the evaluation began. -/
structure TicketLaw (workspaceId : ℕ) (s : AuthorizationStore V) : Prop where
  once : (s.consumptions.map (·.ticketId)).Nodup
  unexpired : ∀ c ∈ s.consumptions, ∃ row consumedAt,
    s.tables.tickets.get? c.ticketId = some row ∧ row.status = "CONSUMED" ∧
      row.consumedAt = some consumedAt ∧ consumedAt < row.expiresAt
  asIssued : ∀ c ∈ s.consumptions, ∃ issue,
    s.issues.get? c.ticketId = some issue ∧ c.expected.IsFor workspaceId issue.input
  current : ∀ c ∈ s.consumptions, ∀ issue, s.issues.get? c.ticketId = some issue →
    c.expected.authorizationEpoch = some c.epoch → issue.changes = c.changes

/-! ## The condition -/

/-- When an issue reads the epoch, nothing has changed since its evaluation began. -/
def Undisturbed (s : AuthorizationStore V) :
    AuthorizationCall V → AuthorizationAnswers → Prop
  | .readingEpoch _ changes, _ => changes = s.changes
  | _, _ => True

instance (s : AuthorizationStore V) (call : AuthorizationCall V) (answers : AuthorizationAnswers) :
    Decidable (Undisturbed s call answers) :=
  match call with
  | .readingEpoch _ changes => show Decidable (changes = s.changes) from inferInstance
  | .issuing .. | .readingPolicyVersion .. | .evaluating .. | .inserting .. | .consuming ..
  | .spending .. | .findingFounder .. | .findingRoles .. | .findingState .. | .findingAgent ..
  | .findingBinding .. | .findingAgentRoles .. | .findingRules .. | .granting ..
  | .findingGrant .. | .revoking .. | .findingVersion .. | .mutating .. | .writing .. =>
    instDecidableTrue

/-! ## What the steps keep -/

/-- A consumption that has passed its checks. -/
structure Consumption.Checked (base : ℕ) (c : Consumption) : Prop where
  check : c.expected.check c.consumedAt c.ticket = .ok ()
  epoch : c.epoch = base + c.changes

/-- The row of a ticket after its consumption. -/
def Consumption.consumed (c : Consumption) : AuthorizationTicket :=
  { c.ticket with status := "CONSUMED", consumedAt := some c.consumedAt }

structure TicketInv (workspaceId base : ℕ) (s : AuthorizationStore V) : Prop where
  epoch : s.tables.epochOf workspaceId = base + s.changes
  tickets : ∀ id row, s.tables.tickets.get? id = some row → ∃ issue,
    s.issues.get? id = some issue ∧ IssuedAs workspaceId base issue row
  consuming : ∀ id c, s.consuming.get? id = some c → c.ticketId = id ∧
    s.tables.tickets.get? id = some c.ticket ∧ c.Checked base
  consumptions : ∀ c ∈ s.consumptions,
    s.tables.tickets.get? c.ticketId = some c.consumed ∧ c.Checked base
  once : (s.consumptions.map (·.ticketId)).Nodup

/-- What a call has to rely on later. -/
def AuthorizationCall.Remembers (workspaceId base : ℕ) (s : AuthorizationStore V) :
    AuthorizationCall V → Prop
  | .inserting _ changes epoch _ => epoch = base + changes
  | call => call.isFounders → (s.tables.states.get? workspaceId).isSome

section

variable {workspaceId base : ℕ} {s s' : AuthorizationStore V}

theorem check_eq_ok {expected : ExpectedTicketConsumption} {now : ℤ} {ticket : AuthorizationTicket} :
    expected.check now ticket = .ok () ↔ ticket.status = "ISSUED" ∧ now < ticket.expiresAt ∧
      toString ticket.workspaceId = expected.workspaceId ∧ ticket.runId = expected.runId ∧
      ticket.toolCallId = expected.toolCallId ∧ ticket.checkpointRef = expected.checkpointRef ∧
      ticket.capabilityId = expected.capabilityId ∧
      expected.authorizationEpoch.all (ticket.authorizationEpoch = ·) := by
  unfold ExpectedTicketConsumption.check
  simp only [require_bind_eq_ok, require_eq_ok]

/-- The status and the time of the consumption are no part of what a ticket was issued as. -/
theorem IssuedAs.consumed {issue : TicketIssue V} {row : AuthorizationTicket} {status : String}
    {consumedAt : Option ℤ} (h : IssuedAs workspaceId base issue row) :
    IssuedAs workspaceId base issue { row with status, consumedAt } := by
  unfold IssuedAs at h ⊢
  rw [h]
  rfl

variable {call : AuthorizationCall V}

theorem remembers_of_isFree (h : call.isFree) : call.Remembers workspaceId base s := by
  cases call with
  | inserting => nomatch h
  | _ => exact fun hfounders => nomatch (congrArg (!·) hfounders).symm.trans h

theorem remembers_of_isFounders (h : call.isFounders)
    (hstate : (s.tables.states.get? workspaceId).isSome) : call.Remembers workspaceId base s := by
  cases call with
  | inserting => nomatch h
  | _ => exact fun _ => hstate

theorem state_of_remembers {call : AuthorizationCall V} (h : call.isFounders)
    (hcall : call.Remembers workspaceId base s) : (s.tables.states.get? workspaceId).isSome := by
  cases call with
  | inserting => nomatch h
  | _ => exact hcall h

/-- What a call remembers stays true as long as the row of the workspace stays. -/
theorem remembers_mono
    (h : (s.tables.states.get? workspaceId).isSome → (s'.tables.states.get? workspaceId).isSome)
    (hcall : call.Remembers workspaceId base s) : call.Remembers workspaceId base s' := by
  cases call with
  | inserting => exact hcall
  | _ => exact fun hfounders => h (hcall hfounders)

theorem remembers_of_eq (h : s'.tables.states = s.tables.states)
    (hcall : call.Remembers workspaceId base s) : call.Remembers workspaceId base s' :=
  remembers_mono (fun hrow => by rw [h]; exact hrow) hcall

theorem TicketInv.law (h : TicketInv workspaceId base s) : TicketLaw workspaceId s where
  once := h.once
  unexpired c hc := by
    obtain ⟨hrow, hchecked⟩ := h.consumptions c hc
    exact ⟨_, c.consumedAt, hrow, rfl, rfl, (check_eq_ok.mp hchecked.check).2.1⟩
  asIssued c hc := by
    obtain ⟨hrow, hchecked⟩ := h.consumptions c hc
    obtain ⟨issue, hissue, has⟩ := h.tickets _ _ hrow
    obtain ⟨-, -, hworkspace, hrun, htool, hcheckpoint, hcapability, -⟩ :=
      check_eq_ok.mp hchecked.check
    refine ⟨issue, hissue, ?_⟩
    have hfields := AuthorizationTicket.mk.inj has
    obtain ⟨hworkspace', hrun', htool', hcheckpoint', hcapability', -⟩ := hfields
    exact {
      workspaceId := by rw [← hworkspace, show c.ticket.workspaceId = workspaceId from hworkspace']
      runId := hrun.symm.trans hrun'
      toolCallId := htool.symm.trans htool'
      checkpointRef := hcheckpoint.symm.trans hcheckpoint'
      capabilityId := hcapability.symm.trans hcapability' }
  current c hc issue hissue hcurrent := by
    obtain ⟨hrow, hchecked⟩ := h.consumptions c hc
    obtain ⟨issue', hissue', has⟩ := h.tickets _ _ hrow
    cases hissue.symm.trans hissue'
    have hepoch : c.ticket.authorizationEpoch = base + issue.changes :=
      congrArg AuthorizationTicket.authorizationEpoch has
    have hexpected := (check_eq_ok.mp hchecked.check).2.2.2.2.2.2.2
    rw [hcurrent, Option.all_some, decide_eq_true_eq] at hexpected
    have := hchecked.epoch
    omega

/-! ## The steps, one by one -/

section Steps

variable (h : TicketInv workspaceId base s)

include h

theorem TicketInv.inserted {input : IssueTicketInput V} {changes epoch : ℕ} (expiresAt : ℤ)
    {id : String} (hepoch : epoch = base + changes) (hnew : s.tables.tickets.get? id = none) :
    TicketInv workspaceId base { s with
      tables := { s.tables with
        tickets := s.tables.tickets.set id (input.ticket workspaceId epoch expiresAt) }
      issues := s.issues.set id ⟨input, changes⟩ } := by
  have hold : ∀ other row, s.tables.tickets.get? other = some row → id ≠ other := by
    rintro other row hrow rfl
    nomatch hnew.symm.trans hrow
  refine ⟨h.epoch, fun other row hrow => ?_, fun other c hc => ?_, fun c hc => ?_, h.once⟩
  · rw [Dict.get?_set] at hrow
    split_ifs at hrow with hid
    · cases hrow
      refine ⟨⟨input, changes⟩, ?_, ?_⟩
      · rw [← hid, Dict.get?_set_self]
      · rw [IssuedAs, hepoch]
        rfl
    · obtain ⟨issue, hissue, has⟩ := h.tickets other row hrow
      exact ⟨issue, (Dict.get?_set_of_ne _ hid _).trans hissue, has⟩
  · obtain ⟨hid, hticket, hchecked⟩ := h.consuming other c hc
    exact ⟨hid, (Dict.get?_set_of_ne _ (hold _ _ hticket) _).trans hticket, hchecked⟩
  · obtain ⟨hticket, hchecked⟩ := h.consumptions c hc
    exact ⟨(Dict.get?_set_of_ne _ (hold _ _ hticket) _).trans hticket, hchecked⟩

theorem TicketInv.locked {c : Consumption}
    (hticket : s.tables.tickets.get? c.ticketId = some c.ticket)
    (hcheck : c.expected.check c.consumedAt c.ticket = .ok ())
    (hepoch : c.epoch = s.tables.epochOf c.ticket.workspaceId) (hchanges : c.changes = s.changes) :
    TicketInv workspaceId base { s with consuming := s.consuming.set c.ticketId c } := by
  refine ⟨h.epoch, h.tickets, fun id d hd => ?_, h.consumptions, h.once⟩
  rw [Dict.get?_set] at hd
  split_ifs at hd with hid
  · cases hd
    obtain ⟨issue, -, has⟩ := h.tickets _ _ hticket
    have hworkspace : c.ticket.workspaceId = workspaceId :=
      congrArg AuthorizationTicket.workspaceId has
    refine ⟨hid, hid ▸ hticket, hcheck, ?_⟩
    rw [hepoch, hworkspace, h.epoch, hchanges]
  · exact h.consuming id d hd

/-- A ticket whose row was found `ISSUED` under the lock has not been consumed. -/
theorem TicketInv.spent {id : String} {c : Consumption} (hc : s.consuming.get? id = some c) :
    TicketInv workspaceId base (s.spend c) := by
  obtain ⟨rfl, hticket, hchecked⟩ := h.consuming id c hc
  have hissued : c.ticket.status = "ISSUED" := (check_eq_ok.mp hchecked.check).1
  have hne : ∀ d ∈ s.consumptions, c.ticketId ≠ d.ticketId := by
    intro d hd heq
    obtain ⟨hrow, -⟩ := h.consumptions d hd
    have heq := Option.some.inj ((heq ▸ hticket).symm.trans hrow)
    have hconsumed : c.ticket.status = "CONSUMED" := congrArg AuthorizationTicket.status heq
    rw [hissued] at hconsumed
    exact absurd hconsumed (by decide)
  refine ⟨h.epoch, fun other row hrow => ?_, fun other d hd => ?_, fun d hd => ?_, ?_⟩
  · obtain hrow := (Dict.get?_set _ _ _ _).symm.trans hrow
    split_ifs at hrow with hid
    · cases hrow
      obtain ⟨issue, hissue, has⟩ := h.tickets _ _ hticket
      exact ⟨issue, hid ▸ hissue, has.consumed⟩
    · exact h.tickets other row hrow
  · obtain hd := (Dict.get?_erase _ _ _).symm.trans hd
    split_ifs at hd with hid
    obtain ⟨rfl, hticket', hchecked'⟩ := h.consuming other d hd
    exact ⟨rfl, (Dict.get?_set_of_ne _ hid _).trans hticket', hchecked'⟩
  · rcases mem_concat hd with hd | rfl
    · obtain ⟨hrow, hchecked'⟩ := h.consumptions d hd
      exact ⟨(Dict.get?_set_of_ne _ (hne d hd) _).trans hrow, hchecked'⟩
    · exact ⟨Dict.get?_set_self .., hchecked⟩
  · show ((s.consumptions ++ [c]).map (·.ticketId)).Nodup
    rw [List.map_append, List.nodup_append]
    refine ⟨h.once, List.nodup_singleton _, fun id hid id' hid' => ?_⟩
    obtain ⟨d, hd, rfl⟩ := List.mem_map.mp hid
    obtain rfl := List.mem_singleton.mp hid'
    exact (hne d hd).symm

theorem TicketInv.released (id : String) :
    TicketInv workspaceId base { s with consuming := s.consuming.erase id } := by
  refine ⟨h.epoch, h.tickets, fun other d hd => ?_, h.consumptions, h.once⟩
  rw [Dict.get?_erase] at hd
  split_ifs at hd
  exact h.consuming other d hd

theorem TicketInv.rewritten {tables : AuthorizationTables V} {changes : ℕ}
    {updates : List (PolicyUpdate V)} (htickets : tables.tickets = s.tables.tickets)
    (hepoch : tables.epochOf workspaceId = base + changes) :
    TicketInv workspaceId base { s with tables, changes, updates } where
  epoch := hepoch
  tickets := by
    show ∀ id row, tables.tickets.get? id = some row → _
    rw [htickets]
    exact h.tickets
  consuming := by
    show ∀ id c, _ → _ ∧ tables.tickets.get? id = _ ∧ _
    rw [htickets]
    exact h.consuming
  consumptions := by
    show ∀ c ∈ _, tables.tickets.get? _ = _ ∧ _
    rw [htickets]
    exact h.consumptions
  once := h.once

end Steps

theorem TicketInv.withState (h : TicketInv workspaceId base s) :
    TicketInv workspaceId base { s with tables := s.tables.withState workspaceId } := by
  have hepoch := epochOf_withState.trans h.epoch
  obtain ⟨states, hstates⟩ : ∃ states, s.tables.withState workspaceId = { s.tables with states } :=
    withState_eq
  rw [hstates] at hepoch ⊢
  exact h.rewritten rfl hepoch

theorem TicketInv.changed (h : TicketInv workspaceId base s) {tables : AuthorizationTables V}
    {updates : List (PolicyUpdate V)} (htickets : tables.tickets = s.tables.tickets)
    (hstates : tables.states = s.tables.states)
    (hrow : (s.tables.states.get? workspaceId).isSome) :
    TicketInv workspaceId base { s.change workspaceId tables with updates } := by
  have hepoch := epochOf_advance (hstates ▸ hrow)
  rw [epochOf_congr hstates, h.epoch, Nat.add_assoc] at hepoch
  exact h.rewritten htickets hepoch

theorem TicketInv.committed (h : TicketInv workspaceId base s) {tx : PolicyTransaction V}
    (hrow : (s.tables.states.get? workspaceId).isSome) (hs : tx.commit workspaceId s = .ok s') :
    TicketInv workspaceId base s' := by
  have hs := of_require hs
  cases hs
  exact h.changed (tickets_view tx s.tables) (states_view tx s.tables) hrow

theorem isSome_committed {tx : PolicyTransaction V}
    (hrow : (s.tables.states.get? workspaceId).isSome) (hs : tx.commit workspaceId s = .ok s') :
    (s'.tables.states.get? workspaceId).isSome := by
  have hs := of_require hs
  cases hs
  refine isSome_advance ?_
  show ((tx.view s.tables).states.get? workspaceId).isSome
  rw [states_view]
  exact hrow

end

variable [JsValue V] {isKnownPermission : String → Bool} {workspaceId base : ℕ}

/-- Every step of a call keeps the tickets and what the calls remember. -/
theorem ticketRule : (authorization (V := V) isKnownPermission workspaceId).Rule Undisturbed
    (TicketInv workspaceId base) (AuthorizationCall.Remembers workspaceId base) where
  start s req hs := by
    cases req <;> exact remembers_of_isFree rfl
  step s call answers s' call' hs hcall hundisturbed hstep := by
    cases moved_of_step hstep with
    | ended => exact ⟨hs, fun _ hd => hd, fun _ he => nomatch he⟩
    | read _ _ _ hfree =>
      refine ⟨hs, fun _ hd => hd, fun e he => ?_⟩
      cases he
      exact remembers_of_isFree hfree
    | readAsFounder _ _ _ hfounders hd =>
      refine ⟨hs, fun _ hd => hd, fun e he => ?_⟩
      cases he
      exact remembers_of_isFounders hd (state_of_remembers hfounders hcall)
    | epochRead _ changes =>
      refine ⟨hs, fun _ hd => hd, fun e he => ?_⟩
      cases he
      show s.tables.epochOf workspaceId = base + changes
      rw [hs.epoch, show changes = s.changes from hundisturbed]
    | inserted _ _ _ expiresAt _ hnew =>
      exact ⟨hs.inserted expiresAt hcall hnew, fun _ hd => remembers_of_eq rfl hd, fun _ he => nomatch he⟩
    | locked _ _ _ _ hfree _ hticket hcheck hepoch hchanges =>
      refine ⟨hs.locked hticket hcheck hepoch hchanges, fun _ hd => remembers_of_eq rfl hd, fun e he => ?_⟩
      cases he
      exact remembers_of_isFree hfree
    | spent _ _ _ hc =>
      exact ⟨hs.spent hc, fun _ hd => remembers_of_eq rfl hd, fun _ he => nomatch he⟩
    | admitted _ _ _ _ _ _ hd =>
      refine ⟨hs.withState, fun _ hd => remembers_mono (fun _ => isSome_withState) hd,
        fun e he => ?_⟩
      cases he
      exact remembers_of_isFounders hd isSome_withState
    | refused =>
      exact ⟨hs.withState, fun _ hd => remembers_mono (fun _ => isSome_withState) hd, fun _ he => nomatch he⟩
    | changedGrants _ _ _ hfounders hkeeps =>
      have hrow := state_of_remembers hfounders hcall
      refine ⟨hs.changed hkeeps.tickets hkeeps.states hrow,
        fun _ hd => remembers_mono (fun _ => isSome_advance (hkeeps.states ▸ hrow)) hd, fun _ he => nomatch he⟩
    | began | checked | wrote =>
      refine ⟨hs, fun _ hd => hd, fun e he => ?_⟩
      cases he
      exact remembers_of_isFounders rfl (state_of_remembers rfl hcall)
    | committed _ _ _ _ hcommit =>
      have hrow := state_of_remembers rfl hcall
      exact ⟨hs.committed hrow hcommit,
        fun _ hd => remembers_mono (fun _ => isSome_committed hrow hcommit) hd, fun _ he => nomatch he⟩
  abort s call hs hcall := by
    cases call with
    | spending ticketId => exact ⟨hs.released ticketId, fun _ hd => remembers_of_eq rfl hd⟩
    | _ => exact ⟨hs, fun _ hd => hd⟩

/-- A workspace before the first ticket. -/
def AuthorizationStore.unticketed (t : AuthorizationTables V) : AuthorizationStore V :=
  { tables := { t with tickets := ∅ } }

omit [JsValue V] in
theorem ticketInv_unticketed (t : AuthorizationTables V) :
    TicketInv workspaceId (t.epochOf workspaceId) (AuthorizationStore.unticketed t) where
  epoch := rfl
  tickets := by
    intro id row hrow
    nomatch (Dict.get?_empty id).symm.trans hrow
  consuming := by
    intro id c hc
    nomatch (Dict.get?_empty id).symm.trans hc
  consumptions := nofun
  once := List.nodup_nil

/-- The law, if no change of authority comes between an evaluation and the read of the epoch. -/
theorem ticketLaw_along (isKnownPermission : String → Bool) (workspaceId : ℕ)
    (t : AuthorizationTables V) (ls : List (CallLabel (AuthorizationRequest V) AuthorizationAnswers))
    (s : InFlight (AuthorizationStore V) (AuthorizationCall V))
    (hs : (authorization isKnownPermission workspaceId).system.run
      ⟨AuthorizationStore.unticketed t, []⟩ ls = some s)
    (hundisturbed : (authorization isKnownPermission workspaceId).system.Along
      (Service.Meets Undisturbed) ⟨AuthorizationStore.unticketed t, []⟩ ls) :
    TicketLaw workspaceId s.store :=
  (ticketRule.inv_of_along (.of_empty (ticketInv_unticketed t)) hundisturbed hs).store.law

end

/-! ## A revocation during an issue -/

/-- An agent that may pay, and a founder. -/
def payingOffice : AuthorizationTables ℤ where
  members := Dict.update ∅ [(1, { workspaceId := 1, memberType := "HUMAN" }),
    (7, { workspaceId := 1, memberType := "AI_AGENT" })]
  roles := Dict.update ∅ [
    ("chief", { workspaceId := 1, roleKey := "founder", name := "Founder" }),
    ("payer", { workspaceId := 1, roleKey := "payer", name := "Payer" })]
  rolePermissions := [{ roleId := "payer", permissionKey := "finance.pay", effect := .allow }]
  assignments := [
    { id := "a1", workspaceId := 1, workforceMemberId := 1, roleId := "chief", validFrom := 0 },
    { id := "a7", workspaceId := 1, workforceMemberId := 7, roleId := "payer", validFrom := 0 }]
  bindings := Dict.update ∅ [
    ("invoice.pay", { permissionKey := "finance.pay", riskClass := "FINANCIAL" })]
  grants := [{
    id := "g1"
    workspaceId := 1
    agentWorkforceMemberId := 7
    capabilityId := "invoice.pay"
    validFrom := 0 }]

def payingCalls :
    Service (AuthorizationRequest ℤ) (AuthorizationStore ℤ) (AuthorizationCall ℤ)
      AuthorizationAnswers :=
  authorization (fun _ => true) 1

def stepsOfCall (i n : ℕ) (newId : String := "") :
    List (CallLabel (AuthorizationRequest ℤ) AuthorizationAnswers) :=
  List.replicate n (.step i { now := 10, newId })

def issueTicket : CallLabel (AuthorizationRequest ℤ) AuthorizationAnswers :=
  .start (.issue {
    runId := "run"
    toolCallId := "call"
    checkpointRef := "checkpoint"
    capabilityId := "invoice.pay"
    agentWorkforceMemberId := 7 })

def consumeTicket (authorizationEpoch : ℕ) :
    CallLabel (AuthorizationRequest ℤ) AuthorizationAnswers :=
  .start (.consume "tkt" {
    workspaceId := "1"
    runId := "run"
    toolCallId := "call"
    checkpointRef := "checkpoint"
    capabilityId := "invoice.pay"
    authorizationEpoch := some authorizationEpoch })

def revokeGrant : CallLabel (AuthorizationRequest ℤ) AuthorizationAnswers :=
  .start (.byFounder { workforceMemberId := some 1 } (.revoke "g1"))

/-- A ticket is issued and consumed, and then the grant is revoked. -/
def consumedFirst : List (CallLabel (AuthorizationRequest ℤ) AuthorizationAnswers) :=
  [issueTicket] ++ stepsOfCall 0 9 "tkt" ++ [consumeTicket 1] ++ stepsOfCall 1 2 ++ [revokeGrant] ++
    stepsOfCall 2 5

def consumedOffice : InFlight (AuthorizationStore ℤ) (AuthorizationCall ℤ) :=
  (payingCalls.system.run ⟨.unticketed payingOffice, []⟩ consumedFirst).get (by decide +kernel)

theorem ticketLaw_along_consumed : TicketLaw 1 consumedOffice.store :=
  ticketLaw_along (fun _ => true) 1 payingOffice consumedFirst consumedOffice
    (Option.some_get _).symm (by decide +kernel)

/-- The grant is revoked after it was evaluated, and before the epoch is read. -/
def revokedMeanwhile : List (CallLabel (AuthorizationRequest ℤ) AuthorizationAnswers) :=
  [issueTicket] ++ stepsOfCall 0 7 ++ [revokeGrant] ++ stepsOfCall 1 5 ++ stepsOfCall 0 2 "tkt" ++
    [consumeTicket 2] ++ stepsOfCall 2 2

def revokedOffice : InFlight (AuthorizationStore ℤ) (AuthorizationCall ℤ) :=
  (payingCalls.system.run ⟨.unticketed payingOffice, []⟩ revokedMeanwhile).get (by decide +kernel)

/-- The ticket is consumed at the epoch of the revocation, although it was evaluated before. -/
theorem not_ticketLaw_revokedMeanwhile :
    payingCalls.system.run ⟨.unticketed payingOffice, []⟩ revokedMeanwhile = some revokedOffice ∧
      (∀ g ∈ revokedOffice.store.tables.grants, g.status = "REVOKED") ∧
      ¬ TicketLaw 1 revokedOffice.store := by
  refine ⟨(Option.some_get _).symm, by decide +kernel, fun h => ?_⟩
  have hne : revokedOffice.store.consumptions ≠ [] := by decide +kernel
  have hlate : ∀ c ∈ revokedOffice.store.consumptions,
      c.expected.authorizationEpoch = some c.epoch ∧
        (revokedOffice.store.issues.get? c.ticketId).all (·.changes ≠ c.changes) := by
    decide +kernel
  obtain ⟨c, hc⟩ := List.exists_mem_of_ne_nil _ hne
  obtain ⟨issue, hissue, -⟩ := h.asIssued c hc
  obtain ⟨hcurrent, hchanges⟩ := hlate c hc
  rw [hissue, Option.all_some, decide_eq_true_eq] at hchanges
  exact hchanges (h.current c hc issue hissue hcurrent)

end JavisSaas.Company.Identity
