import JavisSaas.Company.Identity.AuthorizationCalls

/-!
# What the calls of the authorization write

* `moved_of_step`: everything that one step may do to the store, and what its call goes on with.
* `epochOf_advance`, `epochOf_withState`: the epoch of the workspace.
-/

namespace JavisSaas.Company.Identity

open JavisSaas.Lib
open AuthorizationCall (byFounder consumeStep founderStep grantStep issueStep perform step updateStep)
open AuthorizationTables (advanceAuthorizationEpoch epochOf withState)

section

variable {V : Type}

/-- The calls that have passed `requireFounderAuthorization`. -/
def AuthorizationCall.isFounders : AuthorizationCall V → Bool
  | .findingAgent .. | .findingBinding .. | .findingAgentRoles .. | .findingRules ..
  | .granting .. | .findingGrant _ | .revoking _ | .findingVersion _ | .mutating _ | .writing .. =>
    true
  | _ => false

/-- The transaction of an update, in the calls that have begun one. -/
def AuthorizationCall.transaction? : AuthorizationCall V → Option (PolicyTransaction V)
  | .mutating tx | .writing tx _ => some tx
  | _ => none

/-- A call that remembers nothing of the store that matters later. -/
def AuthorizationCall.isFree : AuthorizationCall V → Bool
  | .inserting .. => false
  | call => !call.isFounders

/-- What a change of a grant leaves as it is. -/
structure KeepsPolicies (t t' : AuthorizationTables V) : Prop where
  members : t'.members = t.members
  roles : t'.roles = t.roles
  rolePermissions : t'.rolePermissions = t.rolePermissions
  assignments : t'.assignments = t.assignments
  states : t'.states = t.states
  policyVersions : t'.policyVersions = t.policyVersions
  tickets : t'.tickets = t.tickets

/-- The store and the call after a step, for each kind of call. -/
inductive Moved (isKnownPermission : String → Bool) (workspaceId : ℕ) (s : AuthorizationStore V) :
    AuthorizationCall V → AuthorizationAnswers → AuthorizationStore V →
      Option (AuthorizationCall V) → Prop
  | ended (call answers) : Moved _ _ s call answers s none
  | read (call answers d) (hfree : d.isFree) : Moved _ _ s call answers s (some d)
  | readAsFounder (call answers d) (hcall : call.isFounders) (hd : d.isFounders)
      (htx : d.transaction? = none) : Moved _ _ s call answers s (some d)
  | epochRead (input changes answers) :
    Moved _ _ s (.readingEpoch input changes) answers s
      (some (.inserting input changes (s.tables.epochOf workspaceId) (answers.now + 60000)))
  | inserted (input changes epoch expiresAt answers)
      (hnew : s.tables.tickets.get? answers.newId = none) :
    Moved _ _ s (.inserting input changes epoch expiresAt) answers
      { s with
        tables := { s.tables with
          tickets := s.tables.tickets.set answers.newId (input.ticket workspaceId epoch expiresAt) }
        issues := s.issues.set answers.newId ⟨input, changes⟩ } none
  | locked (expected answers) (c : Consumption) (d) (hfree : d.isFree)
      (hfirst : s.consuming.get? c.ticketId = none)
      (hticket : s.tables.tickets.get? c.ticketId = some c.ticket)
      (hcheck : c.expected.check c.consumedAt c.ticket = .ok ())
      (hepoch : c.epoch = s.tables.epochOf c.ticket.workspaceId)
      (hchanges : c.changes = s.changes) :
    Moved _ _ s (.consuming c.ticketId expected) answers
      { s with consuming := s.consuming.set c.ticketId c } (some d)
  | spent (ticketId answers) (c : Consumption) (hc : s.consuming.get? ticketId = some c) :
    Moved _ _ s (.spending ticketId) answers (s.spend c) none
  | admitted (ctx op id founder answers d) (hd : d.isFounders) (htx : d.transaction? = none) :
    Moved _ _ s (.findingState ctx op id founder) answers
      { s with tables := s.tables.withState workspaceId } (some d)
  | refused (ctx op id founder answers) :
    Moved _ _ s (.findingState ctx op id founder) answers
      { s with tables := s.tables.withState workspaceId } none
  | changedGrants (call answers) (tables : AuthorizationTables V) (hcall : call.isFounders)
      (hkeeps : KeepsPolicies s.tables tables) :
    Moved _ _ s call answers (s.change workspaceId tables) none
  | began (req answers) :
    Moved _ _ s (.findingVersion req) answers s (some (.mutating {
      request := req
      currentVersion := s.tables.latestPolicyVersion workspaceId
      startedAt := answers.now
      rest := req.mutations }))
  | checked (tx : PolicyTransaction V) (answers m rest write) (hrest : tx.rest = m :: rest)
      (hcheck : m.check isKnownPermission workspaceId (tx.view s.tables) answers.now answers.newId
        tx.startedAt = .ok write) :
    Moved _ _ s (.mutating tx) answers s (some (.writing { tx with rest } write))
  | wrote (tx : PolicyTransaction V) (write answers)
      (hadmissible : write.admissible (tx.view s.tables)) :
    Moved _ _ s (.writing tx write) answers s
      (some (.mutating { tx with writes := tx.writes ++ [write] }))
  | committed (tx : PolicyTransaction V) (answers s') (hrest : tx.rest = [])
      (hcommit : tx.commit workspaceId s = .ok s') : Moved _ _ s (.mutating tx) answers s' none

section Steps

variable [JsValue V] {isKnownPermission : String → Bool} {workspaceId : ℕ}
  {s s' : AuthorizationStore V} {call : AuthorizationCall V} {answers : AuthorizationAnswers}
  {call' : Option (AuthorizationCall V)}

theorem moved_of_issueStep (h : issueStep workspaceId s answers call =
    .ok (s', call')) : Moved isKnownPermission workspaceId s call answers s' call' := by
  cases call with
  | issuing =>
    have h := of_require h
    cases h
    exact .read _ _ _ rfl
  | readingPolicyVersion =>
    cases h
    exact .read _ _ _ rfl
  | evaluating =>
    unfold issueStep at h
    dsimp only at h
    split at h
    · cases h
      exact .read _ _ _ rfl
    · obtain ⟨-, -, h⟩ := bind_eq_ok.mp h
      cases h
      exact .read _ _ _ rfl
  | readingEpoch =>
    cases h
    exact .epochRead _ _ _
  | inserting =>
    obtain ⟨hnew, h⟩ := require_bind_eq_ok.mp h
    cases h
    exact .inserted _ _ _ _ _ hnew
  | _ =>
    cases h
    exact .ended _ _

omit [JsValue V] in
theorem moved_of_consumeStep (hwaits : call.waits s = false)
    (h : consumeStep s answers call = .ok (s', call')) :
    Moved isKnownPermission workspaceId s call answers s' call' := by
  cases call with
  | consuming ticketId expected =>
    have hfirst : s.consuming.get? ticketId = none :=
      Option.isNone_iff_eq_none.mp (Option.isSome_eq_false_iff.mp hwaits)
    unfold consumeStep at h
    dsimp only at h
    cases hticket : s.tables.tickets.get? ticketId with
    | none =>
      rw [hticket] at h
      nomatch h
    | some ticket =>
      rw [hticket] at h
      obtain ⟨⟨⟩, hcheck, h⟩ := bind_eq_ok.mp h
      cases h
      exact .locked expected answers ⟨ticketId, ticket, expected, answers.now,
        s.tables.epochOf ticket.workspaceId, s.changes⟩ _ rfl hfirst hticket hcheck rfl rfl
  | spending ticketId =>
    unfold consumeStep at h
    dsimp only at h
    cases hc : s.consuming.get? ticketId with
    | none =>
      rw [hc] at h
      cases h
      exact .ended _ _
    | some c =>
      rw [hc] at h
      cases h
      exact .spent _ _ c hc
  | _ =>
    cases h
    exact .ended _ _

omit [JsValue V] in
theorem isFounders_byFounder (founder : ℕ) (op : FounderOp V) :
    (byFounder founder op).isFounders ∧
      (byFounder founder op).transaction? = none := by
  cases op <;> exact ⟨rfl, rfl⟩

omit [JsValue V] in
theorem moved_of_founderStep (h : founderStep workspaceId s answers call =
    .ok (s', call')) : Moved isKnownPermission workspaceId s call answers s' call' := by
  cases call with
  | findingFounder =>
    unfold founderStep at h
    dsimp only at h
    split at h
    · nomatch h
    split at h
    · nomatch h
    · cases h
      exact .read _ _ _ rfl
  | findingRoles =>
    have h := of_require h
    cases h
    exact .read _ _ _ rfl
  | findingState _ op id =>
    unfold founderStep at h
    cases h
    split
    · obtain ⟨hfounders, htx⟩ := isFounders_byFounder id op
      exact .admitted _ _ _ _ _ _ hfounders htx
    · exact .refused _ _ _ _ _
  | _ =>
    cases h
    exact .ended _ _

omit [JsValue V] in
theorem moved_of_grantStep (h : grantStep workspaceId s answers call =
    .ok (s', call')) : Moved isKnownPermission workspaceId s call answers s' call' := by
  cases call with
  | findingAgent | findingAgentRoles | findingRules | findingGrant =>
    have h := of_require h
    cases h
    exact .readAsFounder _ _ _ rfl rfl rfl
  | findingBinding =>
    unfold grantStep at h
    dsimp only at h
    split at h
    · nomatch h
    · cases h
      exact .readAsFounder _ _ _ rfl rfl rfl
  | granting =>
    have h := of_require h
    cases h
    exact .changedGrants _ _ _ rfl ⟨rfl, rfl, rfl, rfl, rfl, rfl, rfl⟩
  | revoking =>
    cases h
    exact .changedGrants _ _ _ rfl ⟨rfl, rfl, rfl, rfl, rfl, rfl, rfl⟩
  | _ =>
    cases h
    exact .ended _ _

omit [JsValue V] in
theorem moved_of_updateStep (h : updateStep isKnownPermission workspaceId s
    answers call = .ok (s', call')) :
    Moved isKnownPermission workspaceId s call answers s' call' := by
  cases call with
  | findingVersion =>
    have h := of_require h
    cases h
    exact .began _ _
  | mutating =>
    unfold updateStep at h
    dsimp only at h
    split at h
    · next m rest hrest =>
      obtain ⟨write, hcheck, h⟩ := bind_eq_ok.mp h
      cases h
      exact .checked _ _ _ _ _ hrest hcheck
    · next hrest =>
      obtain ⟨s', hcommit, h⟩ := bind_eq_ok.mp h
      cases h
      exact .committed _ _ _ hrest hcommit
  | writing =>
    obtain ⟨hadmissible, h⟩ := require_bind_eq_ok.mp h
    cases h
    exact .wrote _ _ _ hadmissible
  | _ =>
    cases h
    exact .ended _ _

theorem moved_of_step
    (h : (authorization isKnownPermission workspaceId).step s call answers = some (s', call')) :
    Moved isKnownPermission workspaceId s call answers s' call' := by
  unfold authorization step at h
  dsimp only at h
  split at h
  · nomatch h
  next hwaits =>
  have hwaits := Bool.eq_false_iff.mpr hwaits
  cases hperform : call.perform isKnownPermission workspaceId s answers with
  | error =>
    rw [hperform] at h
    cases h
    exact .ended _ _
  | ok =>
    rw [hperform] at h
    cases h
    unfold perform at hperform
    split at hperform
    case h_1 | h_2 | h_3 | h_4 | h_5 => exact moved_of_issueStep hperform
    case h_6 | h_7 => exact moved_of_consumeStep hwaits hperform
    case h_8 | h_9 | h_10 => exact moved_of_founderStep hperform
    case h_18 | h_19 | h_20 => exact moved_of_updateStep hperform
    all_goals exact moved_of_grantStep hperform

end Steps

/-! ## The epoch -/

variable {t t' : AuthorizationTables V} {workspaceId : ℕ}

theorem epochOf_advance (h : (t.states.get? workspaceId).isSome) :
    (t.advanceAuthorizationEpoch workspaceId).epochOf workspaceId = t.epochOf workspaceId + 1 := by
  obtain ⟨state, hstate⟩ := Option.isSome_iff_exists.mp h
  unfold advanceAuthorizationEpoch epochOf
  rw [Dict.get?_modify, hstate, Option.map_some, if_pos rfl]
  rfl

theorem isSome_advance (h : (t.states.get? workspaceId).isSome) :
    ((t.advanceAuthorizationEpoch workspaceId).states.get? workspaceId).isSome := by
  unfold advanceAuthorizationEpoch
  rw [Dict.get?_modify, Option.isSome_map]
  exact h

theorem epochOf_withState : (t.withState workspaceId).epochOf workspaceId = t.epochOf workspaceId := by
  unfold withState
  split_ifs with h
  · rfl
  · unfold epochOf
    rw [Dict.get?_set_self, Option.not_isSome_iff_eq_none.mp h]
    rfl

theorem isSome_withState : ((t.withState workspaceId).states.get? workspaceId).isSome := by
  unfold withState
  split_ifs with h
  · exact h
  · rw [Dict.get?_set_self]
    rfl

theorem epochOf_congr (h : t'.states = t.states) : t'.epochOf workspaceId = t.epochOf workspaceId := by
  unfold epochOf
  rw [h]

theorem withState_eq : ∃ states, t.withState workspaceId = { t with states } := by
  unfold withState
  split_ifs
  · exact ⟨t.states, rfl⟩
  · exact ⟨_, rfl⟩

theorem applyAll_eq (t : AuthorizationTables V) (writes : List (PolicyWrite V)) :
    ∃ rolePermissions assignments, applyAll t writes = { t with rolePermissions, assignments } := by
  induction writes generalizing t with
  | nil => exact ⟨t.rolePermissions, t.assignments, rfl⟩
  | cons write _ ih =>
    obtain ⟨rolePermissions, assignments, h⟩ := ih (write.apply t)
    refine ⟨rolePermissions, assignments, h.trans ?_⟩
    cases write <;> rfl

theorem states_view (tx : PolicyTransaction V) (t : AuthorizationTables V) :
    (tx.view t).states = t.states := by
  obtain ⟨rolePermissions, assignments, h⟩ := applyAll_eq t tx.writes
  rw [PolicyTransaction.view, h]

theorem tickets_view (tx : PolicyTransaction V) (t : AuthorizationTables V) :
    (tx.view t).tickets = t.tickets := by
  obtain ⟨rolePermissions, assignments, h⟩ := applyAll_eq t tx.writes
  rw [PolicyTransaction.view, h]

end

end JavisSaas.Company.Identity
