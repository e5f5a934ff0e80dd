import JavisSaas.Company.Identity.MembershipProjection

/-!
# The membership that the events leave

* `membershipLaw_along`: events arrive in any order, repeatedly, with interleaved transactions. If
  none is committed past a newer one, the membership is the one of the newest event processed. If
  every revocation is applied, and none moves the epoch back, an older session stays refused.
* `not_membershipLaw_outOfOrder`: a revocation that finds no membership is forgotten; a grant that
  has read the membership before a revocation was committed overwrites it.
-/

namespace JavisSaas.Company.Identity

open JavisSaas.Lib
open Delivery (record updateValues)

/-! ## The law -/

/-- The events of a set have their own identifiers, and within a membership their own
    versions. -/
structure DistinctEvents (events : List MembershipProjectionEvent) : Prop where
  ids : ∀ e ∈ events, ∀ e' ∈ events, e.eventId = e'.eventId → e = e'
  versions : ∀ e ∈ events, ∀ e' ∈ events, e.workspaceId = e'.workspaceId →
    e.userId = e'.userId → e.membershipVersion = e'.membershipVersion → e = e'

/-- The requests that deliver events of the set. -/
def Sent (events : List MembershipProjectionEvent) : MembershipRequest → Prop
  | .apply event => event ∈ events
  | .register _ => True

namespace IdentityStore

/-- The events that were processed for a membership, as the inbox has them. -/
def Processed (s : IdentityStore) (workspaceId : ℕ) (userId : String) (row : InboxRow) : Prop :=
  row ∈ s.inbox.values ∧ bigInt row.organizationId = workspaceId ∧ row.userId = userId

/-- The membership of a user of the platform. -/
def membershipOf (s : IdentityStore) (workspaceId : ℕ) (userId : String) :
    Option WorkspaceMembership :=
  (s.users.get? userId).bind fun id => s.memberships.get? (workspaceId, id)

/-- The membership is the one that the newest processed event gives. -/
def Converged (s : IdentityStore) : Prop :=
  ∀ workspaceId userId row, s.Processed workspaceId userId row →
    (∀ row', s.Processed workspaceId userId row' → row'.membershipVersion ≤ row.membershipVersion) →
    if row.status = "active" then
      ∃ m, s.membershipOf workspaceId userId = some m ∧ m.membershipState = .active ∧
        m.sourceMembershipVersion = row.membershipVersion
    else ∀ m, s.membershipOf workspaceId userId = some m → m.membershipState ≠ .active

/-- A session that was issued before a processed revocation is refused. -/
def RevokedSessionsRefused (s : IdentityStore) : Prop :=
  ∀ workspaceId userId row, s.Processed workspaceId userId row → row.status ≠ "active" →
    ∀ authTime, sessionPredatesRevocation authTime (some row.processedAt) →
      ∀ m, s.membershipOf workspaceId userId = some m → m.admits authTime = false

end IdentityStore

/-- Memberships stay, and their versions never decrease. -/
def VersionsGrow (s s' : IdentityStore) : Prop :=
  ∀ key m, s.memberships.get? key = some m → ∃ m', s'.memberships.get? key = some m' ∧
    m.sourceMembershipVersion ≤ m'.sourceMembershipVersion

/-- An ignored event finds a membership that is not older, an update one that is not newer, and a
creation is no older than what was ignored before. -/
def Forward (s : IdentityStore) : MembershipCall → IdentityAnswers → Prop
  | .ignoring d, _ => ∀ m ∈ s.membershipOf d.event.workspaceId d.event.userId,
      d.event.membershipVersion ≤ m.sourceMembershipVersion
  | .updating d userId _, _ => ∀ m ∈ s.memberships.get? (d.event.workspaceId, userId),
      m.sourceMembershipVersion ≤ d.event.membershipVersion
  | .creating d _, _ => ∀ row ∈ s.inbox.values,
      bigInt row.organizationId = d.event.workspaceId → row.userId = d.event.userId →
        row.membershipVersion ≤ d.event.membershipVersion
  | _, _ => True

/-- Every revocation is applied, and none moves the session epoch back. -/
def Heeded (s : IdentityStore) : MembershipCall → IdentityAnswers → Prop
  | .ignoring d, _ => d.event.isActive ∨ (s.inbox.get? d.event.eventId).isSome
  | .updating d userId _, _ => d.event.isActive ∨
      ∀ m ∈ s.memberships.get? (d.event.workspaceId, userId), ∀ t ∈ m.sessionNotBefore, t ≤ d.now
  | _, _ => True

instance (s : IdentityStore) (call : MembershipCall) (answers : IdentityAnswers) :
    Decidable (Forward s call answers) := by
  unfold Forward
  split <;> infer_instance

instance (s : IdentityStore) (call : MembershipCall) (answers : IdentityAnswers) :
    Decidable (Heeded s call answers) := by
  unfold Heeded
  split <;> infer_instance

/-! ## What a step writes -/

/-- The writes of a step, for each kind of call. -/
inductive Wrote (s : IdentityStore) : MembershipCall → IdentityStore → Prop
  | nothing (call : MembershipCall) : Wrote s call s
  | registered (platformUserId : String) (id : ℕ) (hnew : s.users.get? platformUserId = none)
      (hid : id ∉ s.users.values) :
    Wrote s (.register platformUserId) { s with users := s.users.set platformUserId id }
  | ignored (d : Delivery) : Wrote s (.ignoring d) { s with inbox := d.record s.inbox }
  | updated (d : Delivery) (userId : ℕ) (found : WorkspaceMembership) :
    Wrote s (.updating d userId found) { s with
      memberships := s.memberships.modify (d.event.workspaceId, userId) d.updateValues
      inbox := d.record s.inbox }
  | created (d : Delivery) (userId : ℕ) (workspaces : Dict ℕ (Option String))
      (hnew : s.memberships.get? (d.event.workspaceId, userId) = none) :
    Wrote s (.creating d userId) { s with
      workspaces
      memberships := s.memberships.set (d.event.workspaceId, userId) d.newMembership
      inbox := d.record s.inbox }

/-- What a call has read, as far as it stays. -/
def MembershipCall.Read (events : List MembershipProjectionEvent) (s : IdentityStore) :
    MembershipCall → Prop
  | .register _ => True
  | .apply event => event ∈ events
  | .checkingInbox d | .findingUser d => d.event ∈ events
  | .findingMembership d userId => d.event ∈ events ∧ s.users.get? d.event.userId = some userId
  | .ignoring d => d.event ∈ events ∧ (d.event.isActive →
      (s.membershipOf d.event.workspaceId d.event.userId).isSome)
  | .updating d userId _ => d.event ∈ events ∧ s.users.get? d.event.userId = some userId ∧
      (s.memberships.get? (d.event.workspaceId, userId)).isSome
  | .creating d userId => d.event ∈ events ∧ s.users.get? d.event.userId = some userId ∧
      d.event.isActive

section Steps

variable {events : List MembershipProjectionEvent} {s s' : IdentityStore}
  {call : MembershipCall} {answers : IdentityAnswers} {call' : Option MembershipCall}

theorem event_of_checked {event : MembershipProjectionEvent} {now : ℤ} {d : Delivery}
    (h : event.checked now = .ok d) : d.event = event := by
  have h := of_require h
  have h := of_require h
  have h := of_require h
  have h := of_require h
  split at h
  · exact pure_eq_ok.mp h ▸ rfl
  · exact pure_eq_ok.mp h ▸ rfl
  · nomatch h

theorem isActive_iff {event : MembershipProjectionEvent} :
    event.isActive ↔ event.status = "active" := decide_eq_true_iff

theorem membershipOf_eq {userId : String} {id : ℕ} (h : s.users.get? userId = some id)
    (workspaceId : ℕ) : s.membershipOf workspaceId userId = s.memberships.get? (workspaceId, id) := by
  rw [IdentityStore.membershipOf, h, Option.bind_some]

theorem createMembership_eq_ok {d : Delivery} {userId : ℕ}
    (h : s.createMembership d userId = .ok s') : Wrote s (.creating d userId) s' := by
  have h := of_require h
  obtain ⟨hnew, h⟩ := require_bind_eq_ok.mp h
  cases h
  unfold IdentityStore.insertWorkspace at hnew ⊢
  split_ifs at hnew ⊢
  · exact .created d userId s.workspaces hnew
  · exact .created d userId _ hnew

theorem read_judge {d : Delivery} {userId : ℕ} (hd : d.event ∈ events)
    (huser : s.users.get? d.event.userId = some userId) :
    (MembershipCall.judge d userId
      (s.memberships.get? (d.event.workspaceId, userId))).Read events s := by
  have hown := membershipOf_eq huser d.event.workspaceId
  cases hm : s.memberships.get? (d.event.workspaceId, userId) with
  | none =>
    simp only [MembershipCall.judge]
    split_ifs with hactive
    · exact ⟨hd, huser, hactive⟩
    · exact ⟨hd, fun h => absurd h hactive⟩
  | some =>
    have hsome : (s.membershipOf d.event.workspaceId d.event.userId).isSome := by
      rw [hown, hm]
      rfl
    simp only [MembershipCall.judge]
    split_ifs
    · exact ⟨hd, fun _ => hsome⟩
    · exact ⟨hd, fun _ => hsome⟩
    · exact ⟨hd, huser, by rw [hm]; rfl⟩

theorem wrote_of_perform (hread : call.Read events s)
    (h : call.perform s answers = .ok (s', call')) :
    Wrote s call s' ∧ ∀ c ∈ call', c.Read events s' := by
  have hend : ∀ c ∈ (none : Option MembershipCall), c.Read events s' := fun _ hc => nomatch hc
  cases call with
  | register platformUserId =>
    obtain ⟨hnew, h⟩ := require_bind_eq_ok.mp h
    obtain ⟨hid, h⟩ := require_bind_eq_ok.mp h
    cases h
    exact ⟨.registered platformUserId _ hnew hid, hend⟩
  | apply =>
    obtain ⟨d, hd, h⟩ := bind_eq_ok.mp h
    cases h
    have hevent := event_of_checked hd
    refine ⟨.nothing _, fun c hc => ?_⟩
    cases hc
    show d.event ∈ events
    rw [hevent]
    exact hread
  | checkingInbox =>
    obtain ⟨rfl, hcall⟩ := Prod.mk.inj (Except.ok.inj h)
    refine ⟨.nothing _, fun c hc => ?_⟩
    rw [← hcall] at hc
    split_ifs at hc
    · nomatch hc
    · exact Option.some.inj hc ▸ hread
  | findingUser =>
    simp only [MembershipCall.perform] at h
    split at h
    · next userId huser =>
      cases h
      exact ⟨.nothing _, fun c hc => Option.some.inj hc ▸ ⟨hread, huser⟩⟩
    · split_ifs at h with hactive
      cases h
      exact ⟨.nothing _, fun c hc => Option.some.inj hc ▸ ⟨hread, fun h => absurd h hactive⟩⟩
  | findingMembership =>
    have h := of_require h
    cases h
    exact ⟨.nothing _, fun c hc => Option.some.inj hc ▸ read_judge hread.1 hread.2⟩
  | ignoring d =>
    cases h
    exact ⟨.ignored d, hend⟩
  | updating d userId found =>
    cases h
    exact ⟨.updated d userId found, hend⟩
  | creating =>
    obtain ⟨s₁, hcreate, h⟩ := bind_eq_ok.mp h
    cases h
    exact ⟨createMembership_eq_ok hcreate, hend⟩

theorem wrote_of_step (hread : call.Read events s) (h : call.step s answers = some (s', call')) :
    Wrote s call s' ∧ ∀ c ∈ call', c.Read events s' := by
  have h := Option.some.inj h
  cases hperform : call.perform s answers with
  | error =>
    rw [hperform] at h
    cases h
    exact ⟨.nothing _, fun _ hc => nomatch hc⟩
  | ok r =>
    rw [hperform] at h
    obtain rfl : r = (s', call') := h
    exact wrote_of_perform hread hperform

end Steps

/-! ## What stays -/

/-- A user has one local id, memberships are of users, and the inbox holds events of the set. -/
structure Sound (events : List MembershipProjectionEvent) (s : IdentityStore) : Prop where
  users : ∀ p p' id, s.users.get? p = some id → s.users.get? p' = some id → p = p'
  owned : ∀ workspaceId id m, s.memberships.get? (workspaceId, id) = some m → id ∈ s.users.values
  rows : ∀ id row, s.inbox.get? id = some row → ∃ e ∈ events, e.eventId = id ∧
    row.organizationId = e.organizationId ∧ row.userId = e.userId ∧
    row.membershipVersion = e.membershipVersion ∧ row.status = e.status

/-- Users and memberships stay. -/
structure Keeps (s s' : IdentityStore) : Prop where
  users : ∀ p id, s.users.get? p = some id → s'.users.get? p = some id
  memberships : ∀ key, (s.memberships.get? key).isSome → (s'.memberships.get? key).isSome

section Kept

variable {events : List MembershipProjectionEvent} {s s' : IdentityStore}
  {call : MembershipCall} {answers : IdentityAnswers}

theorem get?_set_isSome {K V : Type} [DecidableEq K] {d : Dict K V} {k k' : K} {v : V}
    (h : (d.get? k').isSome) : ((d.set k v).get? k').isSome := by
  rw [Dict.get?_set]
  split_ifs
  · rfl
  · exact h

theorem Wrote.keeps (h : Wrote s call s') : Keeps s s' := by
  cases h with
  | nothing | ignored => exact ⟨fun _ _ h => h, fun _ h => h⟩
  | registered _ id hnew =>
    refine ⟨fun p id' hp => ?_, fun _ h => h⟩
    rw [Dict.get?_set_of_ne _ _ id, hp]
    rintro rfl
    nomatch hnew.symm.trans hp
  | updated =>
    refine ⟨fun _ _ h => h, fun key hkey => ?_⟩
    rw [Dict.get?_modify, Option.isSome_map]
    exact hkey
  | created => exact ⟨fun _ _ h => h, fun _ => get?_set_isSome⟩

variable {workspaceId : ℕ} {userId : String} {row : InboxRow} {d : Delivery}

theorem Keeps.membershipOf (h : Keeps s s') (hsome : (s.membershipOf workspaceId userId).isSome) :
    (s'.membershipOf workspaceId userId).isSome := by
  obtain ⟨m, hm⟩ := Option.isSome_iff_exists.mp hsome
  obtain ⟨id, hid, hm⟩ := Option.bind_eq_some_iff.mp hm
  rw [membershipOf_eq (h.users _ _ hid)]
  exact h.memberships _ (by rw [hm]; rfl)

theorem MembershipCall.Read.keeps (h : Keeps s s') (hread : call.Read events s) :
    call.Read events s' := by
  cases call with
  | register | apply | checkingInbox | findingUser => exact hread
  | findingMembership => exact ⟨hread.1, h.users _ _ hread.2⟩
  | ignoring => exact ⟨hread.1, fun hactive => h.membershipOf (hread.2 hactive)⟩
  | updating =>
    exact ⟨hread.1, h.users _ _ hread.2.1, h.memberships _ hread.2.2⟩
  | creating => exact ⟨hread.1, h.users _ _ hread.2.1, hread.2.2⟩

/-! ### The inbox -/

theorem get?_record (d : Delivery) {inbox : Dict String InboxRow} {id : String}
    (h : (d.record inbox).get? id = some row) :
    inbox.get? id = some row ∨
      (inbox.get? d.event.eventId = none ∧ id = d.event.eventId ∧ row = d.inboxRow) := by
  unfold record at h
  split_ifs at h with hfound
  · exact .inl h
  · rw [Dict.get?_set] at h
    split_ifs at h with hid
    · exact .inr ⟨by simpa using hfound, hid.symm, (Option.some.inj h).symm⟩
    · exact .inl h

theorem get?_record_self (d : Delivery) (inbox : Dict String InboxRow) :
    ∃ row, (d.record inbox).get? d.event.eventId = some row ∧
      (inbox.get? d.event.eventId = some row ∨ row = d.inboxRow) := by
  unfold record
  split_ifs with hfound
  · obtain ⟨row, hrow⟩ := Option.isSome_iff_exists.mp hfound
    exact ⟨row, hrow, .inl hrow⟩
  · exact ⟨d.inboxRow, Dict.get?_set_self .., .inr rfl⟩

theorem get?_record_of_get? (d : Delivery) {inbox : Dict String InboxRow} {id : String}
    (h : inbox.get? id = some row) : (d.record inbox).get? id = some row := by
  unfold record
  split_ifs with hfound
  · exact h
  · rw [Dict.get?_set_of_ne _ _ d.inboxRow, h]
    rintro rfl
    exact hfound (by rw [h]; rfl)

theorem Sound.record (h : Sound events s) (hd : d.event ∈ events) :
    ∀ id row, (d.record s.inbox).get? id = some row → ∃ e ∈ events, e.eventId = id ∧
      row.organizationId = e.organizationId ∧ row.userId = e.userId ∧
      row.membershipVersion = e.membershipVersion ∧ row.status = e.status := by
  intro id row hrow
  rcases get?_record d hrow with hold | ⟨-, rfl, rfl⟩
  · exact h.rows id row hold
  · exact ⟨d.event, hd, rfl, rfl, rfl, rfl, rfl⟩

theorem mem_values_set_of_mem {V : Type} {d : Dict String V} {k : String} {v w : V}
    (hnew : d.get? k = none) (h : w ∈ d.values) : w ∈ (d.set k v).values := by
  obtain ⟨k', hk'⟩ := Dict.mem_values.mp h
  refine Dict.mem_values.mpr ⟨k', ?_⟩
  rw [Dict.get?_set_of_ne _ _ v, hk']
  rintro rfl
  nomatch hnew.symm.trans hk'

theorem Wrote.sound (h : Wrote s call s') (hread : call.Read events s) (hsound : Sound events s) :
    Sound events s' := by
  cases h with
  | nothing => exact hsound
  | registered _ _ hnew hid =>
    refine ⟨fun p p' i hp hp' => ?_, fun w i m hm => ?_, hsound.rows⟩
    · rw [Dict.get?_set] at hp hp'
      split_ifs at hp hp' with h₁ h₂ h₂
      · exact h₁.symm.trans h₂
      · exact absurd (Dict.mem_values.mpr ⟨p', hp'⟩) (Option.some.inj hp ▸ hid)
      · exact absurd (Dict.mem_values.mpr ⟨p, hp⟩) (Option.some.inj hp' ▸ hid)
      · exact hsound.users p p' i hp hp'
    · exact mem_values_set_of_mem hnew (hsound.owned w i m hm)
  | ignored => exact ⟨hsound.users, hsound.owned, hsound.record hread.1⟩
  | updated =>
    refine ⟨hsound.users, fun w i m hm => ?_, hsound.record hread.1⟩
    rw [Dict.get?_modify] at hm
    obtain ⟨old, hold, -⟩ := Option.map_eq_some_iff.mp hm
    exact hsound.owned w i old hold
  | created =>
    refine ⟨hsound.users, fun w i m hm => ?_, hsound.record hread.1⟩
    rw [Dict.get?_set] at hm
    split_ifs at hm with hkey
    · exact Dict.mem_values.mpr ⟨_, (Prod.mk.inj hkey).2 ▸ hread.2.1⟩
    · exact hsound.owned w i m hm

/-! ### The membership and its events -/

theorem of_processed_record (hinbox : s'.inbox = d.record s.inbox)
    (h : s'.Processed workspaceId userId row) :
    s.Processed workspaceId userId row ∨ (row = d.inboxRow ∧
      workspaceId = d.event.workspaceId ∧ userId = d.event.userId ∧
      s.inbox.get? d.event.eventId = none) := by
  obtain ⟨hmem, hworkspace, huser⟩ := h
  obtain ⟨id, hid⟩ := Dict.mem_values.mp (hinbox ▸ hmem)
  rcases get?_record d hid with hold | ⟨hnone, -, rfl⟩
  · exact .inl ⟨Dict.mem_values.mpr ⟨id, hold⟩, hworkspace, huser⟩
  · exact .inr ⟨rfl, hworkspace.symm, huser.symm, hnone⟩

theorem processed_record (hinbox : s'.inbox = d.record s.inbox)
    (h : s.Processed workspaceId userId row) :
    s'.Processed workspaceId userId row := by
  obtain ⟨hmem, hown⟩ := h
  obtain ⟨id, hid⟩ := Dict.mem_values.mp hmem
  exact ⟨hinbox ▸ Dict.mem_values.mpr ⟨id, get?_record_of_get? d hid⟩, hown⟩

/-- The event itself is in the inbox, when its delivery is committed. -/
theorem processed_self (hevents : DistinctEvents events) (hsound : Sound events s)
    (hd : d.event ∈ events) (hinbox : s'.inbox = d.record s.inbox) :
    ∃ row, s'.Processed d.event.workspaceId d.event.userId row ∧
      row.membershipVersion = d.event.membershipVersion ∧ row.status = d.event.status := by
  obtain ⟨row, hrow, hcase⟩ := get?_record_self d s.inbox
  have hmem : row ∈ s'.inbox.values := hinbox ▸ Dict.mem_values.mpr ⟨_, hrow⟩
  rcases hcase with hold | rfl
  · obtain ⟨e, he, hid, horg, huser, hversion, hstatus⟩ := hsound.rows _ row hold
    obtain rfl := hevents.ids e he d.event hd hid
    exact ⟨row, ⟨hmem, by rw [horg]; rfl, huser⟩, hversion, hstatus⟩
  · exact ⟨d.inboxRow, ⟨hmem, rfl, rfl⟩, rfl, rfl⟩

theorem membershipOf_of_ne (hsound : Sound events s) {w : ℕ} {p : String} {id : ℕ}
    (hid : s.users.get? userId = some id) (husers : s'.users = s.users)
    (hother : ∀ key, key ≠ (workspaceId, id) → s'.memberships.get? key = s.memberships.get? key)
    (hne : ¬(w = workspaceId ∧ p = userId)) : s'.membershipOf w p = s.membershipOf w p := by
  rw [IdentityStore.membershipOf, IdentityStore.membershipOf, husers]
  cases hp : s.users.get? p with
  | none => rfl
  | some =>
    refine hother _ fun hkey => hne ?_
    cases hkey
    exact ⟨rfl, hsound.users _ _ _ hp hid⟩

/-- The membership is of the newest event processed; without one, only revocations were. -/
structure Mirrors (s : IdentityStore) : Prop where
  newest : ∀ w p m, s.membershipOf w p = some m → ∃ row, s.Processed w p row ∧
    row.membershipVersion = m.sourceMembershipVersion ∧
    (m.membershipState = .active ↔ row.status = "active")
  bound : ∀ w p m, s.membershipOf w p = some m → ∀ row, s.Processed w p row →
    row.membershipVersion ≤ m.sourceMembershipVersion
  revoked : ∀ w p, s.membershipOf w p = none → ∀ row, s.Processed w p row → row.status ≠ "active"

theorem version_updateValues (d : Delivery) (m : WorkspaceMembership) :
    (d.updateValues m).sourceMembershipVersion = d.event.membershipVersion := by
  unfold updateValues
  split_ifs <;> rfl

theorem state_updateValues (d : Delivery) (m : WorkspaceMembership) :
    (d.updateValues m).membershipState = .active ↔ d.event.status = "active" := by
  unfold updateValues
  split_ifs with hactive
  · exact iff_of_true rfl (isActive_iff.mp hactive)
  · exact iff_of_false nofun fun h => hactive (isActive_iff.mpr h)

/-- A commit of an event leaves the membership `m`, if it is the event's and none is newer. -/
theorem mirrors_of_write (hevents : DistinctEvents events) (hsound : Sound events s)
    (hmirrors : Mirrors s) {id : ℕ} {m : WorkspaceMembership} (hd : d.event ∈ events)
    (hid : s.users.get? d.event.userId = some id) (husers : s'.users = s.users)
    (hinbox : s'.inbox = d.record s.inbox) (hother : ∀ key, key ≠ (d.event.workspaceId, id) →
      s'.memberships.get? key = s.memberships.get? key)
    (hown : s'.memberships.get? (d.event.workspaceId, id) = some m)
    (hversion : m.sourceMembershipVersion = d.event.membershipVersion)
    (hstate : m.membershipState = .active ↔ d.event.status = "active")
    (hbound : ∀ row, s.Processed d.event.workspaceId d.event.userId row →
      row.membershipVersion ≤ d.event.membershipVersion) : Mirrors s' := by
  have hself : s'.membershipOf d.event.workspaceId d.event.userId = some m := by
    rw [membershipOf_eq (husers ▸ hid), hown]
  have hrows : ∀ {w p row}, ¬(w = d.event.workspaceId ∧ p = d.event.userId) →
      s'.Processed w p row → s.Processed w p row := by
    intro w p row hne hrow
    rcases of_processed_record hinbox hrow with hold | ⟨-, hw, hp, -⟩
    · exact hold
    · exact absurd ⟨hw, hp⟩ hne
  constructor
  · intro w p m' hm'
    by_cases hkey : w = d.event.workspaceId ∧ p = d.event.userId
    · obtain ⟨rfl, rfl⟩ := hkey
      cases hself.symm.trans hm'
      obtain ⟨row, hrow, hrowVersion, hrowStatus⟩ := processed_self hevents hsound hd hinbox
      exact ⟨row, hrow, hrowVersion.trans hversion.symm, by rw [hrowStatus]; exact hstate⟩
    · rw [membershipOf_of_ne hsound hid husers hother hkey] at hm'
      obtain ⟨row, hrow, hrest⟩ := hmirrors.newest w p m' hm'
      exact ⟨row, processed_record hinbox hrow, hrest⟩
  · intro w p m' hm' row hrow
    by_cases hkey : w = d.event.workspaceId ∧ p = d.event.userId
    · obtain ⟨rfl, rfl⟩ := hkey
      cases hself.symm.trans hm'
      rw [hversion]
      rcases of_processed_record hinbox hrow with hold | ⟨rfl, -⟩
      · exact hbound row hold
      · exact Int.le_refl _
    · rw [membershipOf_of_ne hsound hid husers hother hkey] at hm'
      exact hmirrors.bound w p m' hm' row (hrows hkey hrow)
  · intro w p hnone row hrow
    by_cases hkey : w = d.event.workspaceId ∧ p = d.event.userId
    · obtain ⟨rfl, rfl⟩ := hkey
      nomatch hself.symm.trans hnone
    · rw [membershipOf_of_ne hsound hid husers hother hkey] at hnone
      exact hmirrors.revoked w p hnone row (hrows hkey hrow)

theorem Wrote.mirrors (hevents : DistinctEvents events) (h : Wrote s call s')
    (hsound : Sound events s) (hread : call.Read events s) (hforward : Forward s call answers)
    (hmirrors : Mirrors s) : Mirrors s' := by
  cases h with
  | nothing => exact hmirrors
  | registered platformUserId id hnew hid =>
    -- The new user has no membership yet.
    have hmembership : ∀ w p, ({ s with users := s.users.set platformUserId id } :
        IdentityStore).membershipOf w p = s.membershipOf w p := by
      intro w p
      simp only [IdentityStore.membershipOf, Dict.get?_set]
      split_ifs with hp
      · subst hp
        rw [hnew, Option.bind_some, Option.bind_none]
        exact Option.eq_none_iff_forall_ne_some.mpr fun m hm => hid (hsound.owned w id m hm)
      · rfl
    constructor
    · intro w p m hm
      exact hmirrors.newest w p m (hmembership w p ▸ hm)
    · intro w p m hm
      exact hmirrors.bound w p m (hmembership w p ▸ hm)
    · intro w p hm
      exact hmirrors.revoked w p (hmembership w p ▸ hm)
  | ignored d =>
    have hinbox : ({ s with inbox := d.record s.inbox } : IdentityStore).inbox =
      d.record s.inbox := rfl
    constructor
    · intro w p m hm
      obtain ⟨row, hrow, hrest⟩ := hmirrors.newest w p m hm
      exact ⟨row, processed_record hinbox hrow, hrest⟩
    · intro w p m hm row hrow
      rcases of_processed_record hinbox hrow with hold | ⟨rfl, rfl, rfl, -⟩
      · exact hmirrors.bound w p m hm row hold
      · exact hforward m hm
    · intro w p hnone row hrow
      rcases of_processed_record hinbox hrow with hold | ⟨rfl, rfl, rfl, -⟩
      · exact hmirrors.revoked w p hnone row hold
      · intro hstatus
        have hsome : (s.membershipOf d.event.workspaceId d.event.userId).isSome :=
          hread.2 (isActive_iff.mpr hstatus)
        have hgone : s.membershipOf d.event.workspaceId d.event.userId = none := hnone
        rw [hgone] at hsome
        nomatch hsome
  | updated d =>
    obtain ⟨hd, hid, hsome⟩ := hread
    obtain ⟨m, hm⟩ := Option.isSome_iff_exists.mp hsome
    refine mirrors_of_write hevents hsound hmirrors hd hid rfl rfl (fun key hkey => ?_) ?_
      (version_updateValues d m) (state_updateValues d m) fun row hrow => ?_
    · rw [Dict.get?_modify]
      simp only [if_neg hkey.symm, Option.map_id']
    · rw [Dict.get?_modify, hm]
      simp only [if_true, Option.map_some]
    · have hbound := hmirrors.bound _ _ m (by rw [membershipOf_eq hid, hm]) row hrow
      exact Int.le_trans hbound (hforward m hm)
  | created =>
    obtain ⟨hd, hid, hactive⟩ := hread
    refine mirrors_of_write hevents hsound hmirrors hd hid rfl rfl
      (fun key hkey => Dict.get?_set_of_ne _ hkey.symm _) (Dict.get?_set_self ..) rfl ?_
      fun row hrow => hforward row hrow.1 hrow.2.1 hrow.2.2
    exact iff_of_true rfl (isActive_iff.mp hactive)

theorem Mirrors.converged (hevents : DistinctEvents events) (hsound : Sound events s)
    (h : Mirrors s) : s.Converged := by
  intro w p row hrow hnewest
  have hsame : ∀ m, s.membershipOf w p = some m →
      m.sourceMembershipVersion = row.membershipVersion ∧
        (m.membershipState = .active ↔ row.status = "active") := by
    intro m hm
    obtain ⟨row', hrow', hversion, hstate⟩ := h.newest w p m hm
    have hle := h.bound w p m hm row hrow
    have hge := hnewest row' hrow'
    have hequal : row.membershipVersion = row'.membershipVersion := by omega
    -- Equal versions are versions of one event.
    obtain ⟨id, hid⟩ := Dict.mem_values.mp hrow.1
    obtain ⟨id', hid'⟩ := Dict.mem_values.mp hrow'.1
    obtain ⟨e, he, -, horg, huser, hv, hs⟩ := hsound.rows id row hid
    obtain ⟨e', he', -, horg', huser', hv', hs'⟩ := hsound.rows id' row' hid'
    have hevent : e = e' := by
      refine hevents.versions e he e' he' ?_ ?_ (by rw [← hv, ← hv', hequal])
      · show bigInt e.organizationId = bigInt e'.organizationId
        rw [← horg, ← horg', hrow.2.1, hrow'.2.1]
      · rw [← huser, ← huser', hrow.2.2, hrow'.2.2]
    subst hevent
    exact ⟨hversion.symm.trans hequal.symm, by rw [hstate, hs, hs']⟩
  split_ifs with hactive
  · cases hm : s.membershipOf w p with
    | none => exact absurd hactive (h.revoked w p hm row hrow)
    | some m => exact ⟨m, rfl, (hsame m hm).2.mpr hactive, (hsame m hm).1⟩
  · exact fun m hm hstate => hactive ((hsame m hm).2.mp hstate)

theorem Wrote.versionsGrow (h : Wrote s call s') (hforward : Forward s call answers) :
    VersionsGrow s s' := by
  intro key m hm
  cases h with
  | nothing | registered | ignored => exact ⟨m, hm, Int.le_refl _⟩
  | updated d =>
    rw [Dict.get?_modify, hm, Option.map_some]
    split_ifs with hkey
    · subst hkey
      exact ⟨_, rfl, version_updateValues d m ▸ hforward m hm⟩
    · exact ⟨m, rfl, Int.le_refl _⟩
  | created d _ _ hnew =>
    rw [Dict.get?_set_of_ne _ _ d.newMembership]
    · exact ⟨m, hm, Int.le_refl _⟩
    · rintro rfl
      nomatch hnew.symm.trans hm

/-! ### The session epoch -/

/-- The epoch of a membership covers every revocation that was processed for it. -/
def Epochs (s : IdentityStore) : Prop :=
  ∀ w p row, s.Processed w p row → row.status ≠ "active" →
    ∃ m, s.membershipOf w p = some m ∧ ∃ t ∈ m.sessionNotBefore, row.processedAt ≤ t

theorem predates_mono {authTime : Option ℤ} {t t' : ℤ} (hle : t ≤ t')
    (h : sessionPredatesRevocation authTime (some t)) :
    sessionPredatesRevocation authTime (some t') := by
  cases authTime with
  | none => rfl
  | some =>
    simp only [sessionPredatesRevocation, decide_eq_true_eq] at h ⊢
    omega

theorem Epochs.refused (h : Epochs s) : s.RevokedSessionsRefused := by
  intro w p row hrow hstatus authTime hbefore m hm
  obtain ⟨m', hm', t, ht, hle⟩ := h w p row hrow hstatus
  cases hm'.symm.trans hm
  rw [Option.mem_def] at ht
  rw [WorkspaceMembership.admits, ht, predates_mono hle hbefore, Bool.not_true, Bool.and_false]

/-- An update leaves an epoch that covers what the old one did, and its own revocation. -/
theorem notBefore_updateValues {m : WorkspaceMembership}
    (hheeded : d.event.isActive ∨ ∀ t ∈ m.sessionNotBefore, t ≤ d.now) {t : ℤ}
    (ht : t ∈ m.sessionNotBefore) : ∃ t' ∈ (d.updateValues m).sessionNotBefore, t ≤ t' := by
  unfold updateValues
  split_ifs with hactive
  · exact ⟨t, ht, Int.le_refl _⟩
  · exact ⟨d.now, rfl, (hheeded.resolve_left hactive) t ht⟩

theorem Wrote.epochs (h : Wrote s call s') (hsound : Sound events s) (hread : call.Read events s)
    (hheeded : Heeded s call answers) (hepochs : Epochs s) : Epochs s' := by
  intro w p row hrow hstatus
  cases h with
  | nothing => exact hepochs w p row hrow hstatus
  | registered platformUserId id hnew hid =>
    obtain ⟨m, hm, ht⟩ := hepochs w p row hrow hstatus
    refine ⟨m, ?_, ht⟩
    obtain ⟨id', hid', hm⟩ := Option.bind_eq_some_iff.mp hm
    refine (membershipOf_eq ?_ w).trans hm
    exact (Wrote.registered platformUserId id hnew hid).keeps.users p id' hid'
  | ignored d =>
    rcases of_processed_record (s := s) (d := d) rfl hrow with hold | ⟨rfl, -, -, hnone⟩
    · exact hepochs w p row hold hstatus
    · rcases hheeded with hactive | hfound
      · exact absurd (isActive_iff.mp hactive) hstatus
      · rw [hnone] at hfound
        nomatch hfound
  | updated d userId =>
    obtain ⟨hd, hid, hsome⟩ := hread
    obtain ⟨m, hm⟩ := Option.isSome_iff_exists.mp hsome
    have hown : ({ s with
        memberships := s.memberships.modify (d.event.workspaceId, userId) d.updateValues
        inbox := d.record s.inbox } : IdentityStore).membershipOf d.event.workspaceId
          d.event.userId = some (d.updateValues m) := by
      show (s.users.get? d.event.userId).bind _ = _
      rw [hid, Option.bind_some, Dict.get?_modify, hm]
      simp only [if_true, Option.map_some]
    have hheeded' : d.event.isActive ∨ ∀ t ∈ m.sessionNotBefore, t ≤ d.now :=
      hheeded.imp_right fun h => h m hm
    rcases of_processed_record (s := s) (d := d) rfl hrow with hold | ⟨rfl, rfl, rfl, -⟩
    · obtain ⟨m', hm', t, ht, hle⟩ := hepochs w p row hold hstatus
      by_cases hkey : w = d.event.workspaceId ∧ p = d.event.userId
      · obtain ⟨rfl, rfl⟩ := hkey
        rw [membershipOf_eq hid, hm] at hm'
        cases hm'
        obtain ⟨t', ht', hle'⟩ := notBefore_updateValues hheeded' ht
        exact ⟨_, hown, t', ht', Int.le_trans hle hle'⟩
      · refine ⟨m', Eq.trans (membershipOf_of_ne hsound hid rfl ?_ hkey) hm', t, ht, hle⟩
        intro key hne
        rw [Dict.get?_modify]
        simp only [if_neg hne.symm, Option.map_id']
    · refine ⟨_, hown, d.now, ?_, Int.le_refl _⟩
      have hinactive : ¬d.event.isActive := fun h => hstatus (isActive_iff.mp h)
      unfold updateValues
      rw [if_neg hinactive]
      rfl
  | created d _ _ hnew =>
    obtain ⟨hd, hid, hactive⟩ := hread
    have hown : s.membershipOf d.event.workspaceId d.event.userId = none :=
      (membershipOf_eq hid _).trans hnew
    rcases of_processed_record (s := s) (d := d) rfl hrow with hold | ⟨rfl, -⟩
    · obtain ⟨m, hm, ht⟩ := hepochs w p row hold hstatus
      have hkey : ¬(w = d.event.workspaceId ∧ p = d.event.userId) := by
        rintro ⟨rfl, rfl⟩
        nomatch hown.symm.trans hm
      refine ⟨m, Eq.trans (membershipOf_of_ne hsound hid rfl ?_ hkey) hm, ht⟩
      exact fun key hne => Dict.get?_set_of_ne _ hne.symm _
    · exact absurd (isActive_iff.mp hactive) hstatus

end Kept

/-! ## Runs -/

/-- The deliveries of the events of a set. -/
abbrev deliveries (events : List MembershipProjectionEvent) :
    Service {req // Sent events req} IdentityStore MembershipCall IdentityAnswers :=
  membershipCalls.only (Sent events)

theorem soundRule (events : List MembershipProjectionEvent) :
    (deliveries events).Rule (fun _ _ _ => True) (Sound events)
      fun s call => call.Read events s where
  start s req _ := by
    obtain ⟨req, hreq⟩ := req
    cases req with
    | apply => exact hreq
    | register => trivial
  step s c a s' c' hI hJ _ hstep := by
    obtain ⟨hwrote, hread⟩ := wrote_of_step hJ hstep
    exact ⟨hwrote.sound hJ hI, fun d hd => hd.keeps hwrote.keeps, hread⟩
  abort s c hI _ := ⟨hI, fun _ hd => hd⟩

theorem mirrorsRule {events : List MembershipProjectionEvent} (hevents : DistinctEvents events) :
    (deliveries events).Rule (fun s c a => True ∧ Forward s c a)
      (fun s => Sound events s ∧ Mirrors s) fun s call => call.Read events s :=
  (soundRule events).and Forward Mirrors
    (fun _ _ _ _ _ hI hJ hmirrors hforward hstep =>
      (wrote_of_step hJ hstep).1.mirrors hevents hI hJ hforward hmirrors)
    fun _ _ _ _ hmirrors => hmirrors

theorem epochsRule (events : List MembershipProjectionEvent) :
    (deliveries events).Rule (fun s c a => True ∧ Heeded s c a)
      (fun s => Sound events s ∧ Epochs s) fun s call => call.Read events s :=
  (soundRule events).and Heeded Epochs
    (fun _ _ _ _ _ hI hJ hepochs hheeded hstep =>
      (wrote_of_step hJ hstep).1.epochs hI hJ hheeded hepochs)
    fun _ _ _ _ hepochs => hepochs

section Start

variable {events : List MembershipProjectionEvent} (users : Dict String ℕ)
  (workspaces : Dict ℕ (Option String))

/-- Before the first event. -/
def beforeEvents : IdentityStore := { users, workspaces }

theorem not_processed_beforeEvents {w : ℕ} {p : String} {row : InboxRow} :
    ¬(beforeEvents users workspaces).Processed w p row :=
  fun h => absurd h.1 List.not_mem_nil

variable {users}

theorem sound_beforeEvents
    (hids : ∀ p p' id, users.get? p = some id → users.get? p' = some id → p = p') :
    Sound events (beforeEvents users workspaces) :=
  ⟨hids, fun _ _ _ h => (nomatch h), fun _ _ h => (nomatch h)⟩

theorem mirrors_beforeEvents : Mirrors (beforeEvents users workspaces) := by
  refine ⟨fun w p m hm => ?_, fun _ _ _ _ _ h => (not_processed_beforeEvents _ _ h).elim,
    fun _ _ _ _ h => (not_processed_beforeEvents _ _ h).elim⟩
  obtain ⟨id, -, hm⟩ := Option.bind_eq_some_iff.mp hm
  nomatch hm

theorem epochs_beforeEvents : Epochs (beforeEvents users workspaces) :=
  fun _ _ _ h => (not_processed_beforeEvents _ _ h).elim

end Start

/-- If no event is committed past a newer one, the membership is the newest one's; if every
revocation is applied, an older session is refused. -/
theorem membershipLaw_along (events : List MembershipProjectionEvent)
    (hevents : DistinctEvents events) (users : Dict String ℕ) (workspaces : Dict ℕ (Option String))
    (hids : ∀ p p' id, users.get? p = some id → users.get? p' = some id → p = p')
    (ls ls' : List (CallLabel {req // Sent events req} IdentityAnswers))
    (m s' : InFlight IdentityStore MembershipCall)
    (hrun : (deliveries events).system.run ⟨beforeEvents users workspaces, []⟩ ls = some m)
    (hrun' : (deliveries events).system.run m ls' = some s') :
    ((deliveries events).system.Along (Service.Meets Forward) ⟨beforeEvents users workspaces, []⟩
        (ls ++ ls') → s'.store.Converged ∧ VersionsGrow m.store s'.store) ∧
      ((deliveries events).system.Along (Service.Meets Heeded) ⟨beforeEvents users workspaces, []⟩
        (ls ++ ls') → s'.store.RevokedSessionsRefused) := by
  let V := deliveries events
  have hwhole := V.system.run_append hrun hrun'
  have hsound : Sound events (beforeEvents users workspaces) := sound_beforeEvents workspaces hids
  constructor
  · intro hforward
    have hmeets : V.system.Along (Service.Meets fun s c a => True ∧ Forward s c a)
        ⟨beforeEvents users workspaces, []⟩ (ls ++ ls') :=
      hforward.mono V.system fun _ _ h => h.mono fun _ _ _ h => ⟨trivial, h⟩
    have hrule := mirrorsRule hevents
    have hinv : Service.Inv (fun s => Sound events s ∧ Mirrors s)
        (fun s call => MembershipCall.Read events s call) ⟨beforeEvents users workspaces, []⟩ :=
      .of_empty ⟨hsound, mirrors_beforeEvents workspaces⟩
    have hend := hrule.inv_of_along hinv hmeets hwhole
    refine ⟨hend.store.2.converged hevents hend.store.1, ?_⟩
    obtain ⟨hbefore, hafter⟩ := (V.system.along_append hrun).mp hmeets
    have hmid := hrule.inv_of_along hinv hbefore hrun
    have hsame : ∀ s, VersionsGrow s s := fun _ _ m hm => ⟨m, hm, Int.le_refl _⟩
    refine V.rel_of_along hsame ?_ (fun _ _ _ => hrule.inv_next) ?_ (fun f _ _ => hsame f.store)
      hmid hafter hrun'
    · intro a b c hab hbc key m hm
      obtain ⟨m₁, hm₁, hle₁⟩ := hab key m hm
      obtain ⟨m₂, hm₂, hle₂⟩ := hbc key m₁ hm₁
      exact ⟨m₂, hm₂, Int.le_trans hle₁ hle₂⟩
    · intro f i call answers s' call' hI hG hcall hstep
      have hwrote := (wrote_of_step (hI.calls i call hcall) hstep).1
      exact hwrote.versionsGrow (hG call hcall).2
  · intro hheeded
    have hmeets : V.system.Along (Service.Meets fun s c a => True ∧ Heeded s c a)
        ⟨beforeEvents users workspaces, []⟩ (ls ++ ls') :=
      hheeded.mono V.system fun _ _ h => h.mono fun _ _ _ h => ⟨trivial, h⟩
    have hinv : Service.Inv (fun s => Sound events s ∧ Epochs s)
        (fun s call => MembershipCall.Read events s call) ⟨beforeEvents users workspaces, []⟩ :=
      .of_empty ⟨hsound, epochs_beforeEvents workspaces⟩
    exact ((epochsRule events).inv_of_along hinv hmeets hwhole).store.2.refused

/-! ### One member -/

def grant (eventId : String) (version : ℤ) : MembershipProjectionEvent where
  eventId
  organizationId := "7"
  userId := "core-user"
  membershipVersion := version
  status := "active"
  occurredAt := some (some (10000 * version))

def revocation (eventId : String) (version : ℤ) : MembershipProjectionEvent :=
  { grant eventId version with status := "revoked" }

/-- A grant, a revocation and a new grant. -/
def memberEvents : List MembershipProjectionEvent :=
  [grant "granted" 1, revocation "revoked" 2, grant "regranted" 3]

theorem distinct_memberEvents : DistinctEvents memberEvents := by
  constructor <;> decide +kernel

/-- The user has signed in before. -/
def memberUsers : Dict String ℕ := Dict.update ∅ [("core-user", 5)]

theorem ids_memberUsers (p p' : String) (id : ℕ) (h : memberUsers.get? p = some id)
    (h' : memberUsers.get? p' = some id) : p = p' := by
  have hall : ∀ e ∈ memberUsers.items, e.1 = "core-user" := by decide +kernel
  exact (hall _ (Dict.get?_eq_some.mp h)).trans (hall _ (Dict.get?_eq_some.mp h')).symm

def startMember : InFlight IdentityStore MembershipCall :=
  ⟨beforeEvents memberUsers ∅, []⟩

def deliver (event : MembershipProjectionEvent) (h : event ∈ memberEvents) :
    CallLabel {req // Sent memberEvents req} IdentityAnswers :=
  .start ⟨.apply event, h⟩

def stepsOfDelivery (i n : ℕ) (now : ℤ) :
    List (CallLabel {req // Sent memberEvents req} IdentityAnswers) :=
  List.replicate n (.step i { now })

/-- The events in their order, with a repetition. -/
def inOrder : List (CallLabel {req // Sent memberEvents req} IdentityAnswers) :=
  [deliver (grant "granted" 1) (by decide +kernel)] ++ stepsOfDelivery 0 5 11000 ++
    [deliver (revocation "revoked" 2) (by decide +kernel)] ++ stepsOfDelivery 1 5 21000

def andAgain : List (CallLabel {req // Sent memberEvents req} IdentityAnswers) :=
  [deliver (revocation "revoked" 2) (by decide +kernel)] ++ stepsOfDelivery 2 2 25000 ++
    [deliver (grant "regranted" 3) (by decide +kernel)] ++ stepsOfDelivery 3 5 31000

def revokedMember : InFlight IdentityStore MembershipCall :=
  ((deliveries memberEvents).system.run startMember inOrder).get (by decide +kernel)

def regrantedMember : InFlight IdentityStore MembershipCall :=
  ((deliveries memberEvents).system.run revokedMember andAgain).get (by decide +kernel)

theorem membershipLaw_along_member :
    (regrantedMember.store.Converged ∧ VersionsGrow revokedMember.store regrantedMember.store) ∧
      regrantedMember.store.RevokedSessionsRefused := by
  have hlaw := membershipLaw_along memberEvents distinct_memberEvents memberUsers ∅ ids_memberUsers
    inOrder andAgain revokedMember regrantedMember (Option.some_get _).symm (Option.some_get _).symm
  exact ⟨hlaw.1 (by decide +kernel), hlaw.2 (by decide +kernel)⟩

/-- The revocation arrives first and finds no membership; then the grant before it arrives. -/
def outOfOrder : List (CallLabel {req // Sent memberEvents req} IdentityAnswers) :=
  [deliver (revocation "revoked" 2) (by decide +kernel)] ++ stepsOfDelivery 0 5 21000 ++
    [deliver (grant "granted" 1) (by decide +kernel)] ++ stepsOfDelivery 1 5 22000

def forgottenRevocation : InFlight IdentityStore MembershipCall :=
  ((deliveries memberEvents).system.run startMember outOfOrder).get (by decide +kernel)

/-- Two deliveries have read the first version, of the revocation and of the grant after it. -/
def bothRead : List (CallLabel {req // Sent memberEvents req} IdentityAnswers) :=
  [deliver (grant "granted" 1) (by decide +kernel)] ++ stepsOfDelivery 0 5 11000 ++
    [deliver (revocation "revoked" 2) (by decide +kernel)] ++ stepsOfDelivery 1 4 21000 ++
    [deliver (grant "regranted" 3) (by decide +kernel)] ++ stepsOfDelivery 2 5 31000

def regrantedFirst : InFlight IdentityStore MembershipCall :=
  ((deliveries memberEvents).system.run startMember bothRead).get (by decide +kernel)

def overwrittenGrant : InFlight IdentityStore MembershipCall :=
  ((deliveries memberEvents).system.run regrantedFirst (stepsOfDelivery 1 1 21000)).get
    (by decide +kernel)

theorem not_membershipLaw_outOfOrder :
    ((deliveries memberEvents).system.run startMember outOfOrder = some forgottenRevocation ∧
      ¬forgottenRevocation.store.Converged ∧
      ¬forgottenRevocation.store.RevokedSessionsRefused) ∧
    (deliveries memberEvents).system.run startMember bothRead = some regrantedFirst ∧
      (deliveries memberEvents).system.run regrantedFirst (stepsOfDelivery 1 1 21000) =
        some overwrittenGrant ∧
      ¬VersionsGrow regrantedFirst.store overwrittenGrant.store := by
  have hrow : (⟨"7", "core-user", 2, "revoked", 21000⟩ : InboxRow) ∈
      forgottenRevocation.store.inbox.values := by decide +kernel
  have hprocessed : forgottenRevocation.store.Processed 7 "core-user"
      ⟨"7", "core-user", 2, "revoked", 21000⟩ := ⟨hrow, by decide +kernel, rfl⟩
  have hmember : (forgottenRevocation.store.membershipOf 7 "core-user").isSome := by decide +kernel
  obtain ⟨m, hm⟩ := Option.isSome_iff_exists.mp hmember
  have hadmits : (forgottenRevocation.store.membershipOf 7 "core-user").all fun m =>
      m.membershipState = .active && m.admits (some 20) := by decide +kernel
  rw [hm, Option.all_some, Bool.and_eq_true] at hadmits
  refine ⟨⟨(Option.some_get _).symm, fun h => ?_, fun h => ?_⟩, (Option.some_get _).symm,
    (Option.some_get _).symm, fun h => ?_⟩
  · have hnewest : ∀ row ∈ forgottenRevocation.store.inbox.values, row.membershipVersion ≤ 2 := by
      decide +kernel
    exact h 7 "core-user" _ hprocessed (fun row hrow => hnewest row hrow.1) m hm
      (by simpa using hadmits.1)
  · have hrefused := h 7 "core-user" _ hprocessed (by decide) (some 20) (by decide) m hm
    nomatch hrefused.symm.trans hadmits.2
  · have hbefore : ((regrantedFirst.store.memberships.get? (7, 5)).map
        (·.sourceMembershipVersion)) = some 3 := by decide +kernel
    have hafter : ((overwrittenGrant.store.memberships.get? (7, 5)).map
        (·.sourceMembershipVersion)) = some 2 := by decide +kernel
    obtain ⟨m, hm, hthree⟩ := Option.map_eq_some_iff.mp hbefore
    obtain ⟨m', hm', hle⟩ := h (7, 5) m hm
    rw [hm', Option.map_some] at hafter
    have htwo := Option.some.inj hafter
    omega

end JavisSaas.Company.Identity
