import JavisSaas.Cosa.Invitations.WorkspaceInvitations

/-!
# Invitations whose time has passed

* `expiryLaw_along`: if no invitation expires between the check and the projection of an acceptance,
  and none is created over a pending one that was found expired, every acceptance is before the
  expiry, and only a pending invitation refuses a creation that is not expired, or not known to be.
* `not_expiryLaw_foundExpired`: the mark of an expired invitation is rolled back with its
  transaction; a new invitation is refused.
-/

namespace JavisSaas.Cosa.Invitations

open JavisSaas.Lib

/-! ## The law -/

/-- Creations and acceptances, among the calls that this service and the core make. -/
def Invites : InvitationRequest → Prop
  | .reconcile _ _ => False
  | _ => True

/-- An accepted invitation was accepted before its time had passed. -/
structure ExpiryLaw (s : InvitationStore) : Prop where
  accepted : ∀ id invitation, s.invitations.get? id = some invitation →
    invitation.status = .accepted →
      ∃ t, invitation.acceptedAt = some t ∧ t < invitation.expiresAt

/-- A pending invitation refuses, which has not expired or was not found expired. -/
def RefusalLaw (rt : TextRuntime) (s : InvitationStore) (call : InvitationCall)
    (answers : InvitationAnswers) : Prop :=
  ∀ actorUserId row, call = .inserting actorUserId row →
    ∀ e, call.perform rt s answers = .error e → e.code = "already_exists" →
      ∃ id invitation, s.invitations.get? id = some invitation ∧ invitation.key = row.key ∧
        invitation.status = .pending ∧
        (answers.now < invitation.expiresAt ∨ id ∉ s.foundExpired)

/-- A creation is new, and over no invitation that was found expired; and none expires between the
check and the projection of its acceptance. -/
def OnTime (s : InvitationStore) : InvitationCall → InvitationAnswers → Prop
  | .inserting _ row, answers => s.invitations.get? answers.newId = none ∧
      (∀ other ∈ s.invitations.values, other.tokenHash ≠ row.tokenHash) ∧
      ∀ id ∈ s.foundExpired, ∀ invitation ∈ s.invitations.get? id, invitation.key = row.key →
        invitation.status = .pending → answers.now < invitation.expiresAt
  | .projecting id _ (.accepting checkedAt), answers => ∀ invitation ∈ s.invitations.get? id,
      invitation.status = .pending → checkedAt < invitation.expiresAt →
        answers.now < invitation.expiresAt
  | _, _ => True

instance (s : InvitationStore) (call : InvitationCall) (answers : InvitationAnswers) :
    Decidable (OnTime s call answers) := by
  unfold OnTime
  split <;> infer_instance

/-! ## What stays -/

/-- What a call knows: a new invitation is pending, and an acceptance found its own valid. -/
def InvitationCall.Checked (s : InvitationStore) : InvitationCall → Prop
  | .inserting _ row => row.status = .pending
  | .askingCore id _ caller | .storingError id _ _ caller | .storingGrant id _ _ _ caller
  | .projecting id _ caller => ∃ checkedAt, caller = .accepting checkedAt ∧
      ∃ invitation, s.invitations.get? id = some invitation ∧ checkedAt < invitation.expiresAt
  | .auditingReconciled _ _ _ | .reconcile _ _ | .scanning _ | .failing _ _ _
  | .auditingFailure _ _ _ => False
  | _ => True

/-- Invitations stay, with their expiry. -/
def SameExpiry (s s' : InvitationStore) : Prop :=
  ∀ id invitation, s.invitations.get? id = some invitation →
    ∃ invitation', s'.invitations.get? id = some invitation' ∧
      invitation'.expiresAt = invitation.expiresAt

section Steps

variable {rt : TextRuntime} {s s' : InvitationStore} {call : InvitationCall}
  {answers : InvitationAnswers} {call' : Option InvitationCall}

theorem SameExpiry.of_eq (h : s'.invitations = s.invitations) : SameExpiry s s' :=
  fun _ invitation hinvitation => ⟨invitation, by rw [h, hinvitation], rfl⟩

theorem InvitationCall.Checked.mono (h : SameExpiry s s') (hcall : call.Checked s) :
    call.Checked s' := by
  cases call with
  | askingCore | storingError | storingGrant | projecting =>
    obtain ⟨checkedAt, hcaller, invitation, hinvitation, hchecked⟩ := hcall
    obtain ⟨invitation', hinvitation', hexpiry⟩ := h _ _ hinvitation
    exact ⟨checkedAt, hcaller, invitation', hinvitation', hexpiry.symm ▸ hchecked⟩
  | create | checkingIssuer | inserting | auditingCreation | accept | preparing
  | auditingReconciled | reconcile | scanning | failing | auditingFailure | projectCoreAccess =>
    exact hcall

theorem ExpiryLaw.of_eq (h : ExpiryLaw s) (heq : s'.invitations = s.invitations) : ExpiryLaw s' :=
  ⟨fun id invitation hinvitation => h.accepted id invitation (heq ▸ hinvitation)⟩

/-- What every step keeps. -/
def Kept (s s' : InvitationStore) (call' : Option InvitationCall) : Prop :=
  ExpiryLaw s' ∧ SameExpiry s s' ∧ ∀ c ∈ call', c.Checked s'

theorem kept_of_eq (h : ExpiryLaw s) (heq : s'.invitations = s.invitations)
    (hcall : ∀ c ∈ call', c.Checked s') : Kept s s' call' :=
  ⟨h.of_eq heq, .of_eq heq, hcall⟩

theorem kept_inserted (h : ExpiryLaw s) {id : ℕ} {row : WorkspaceInvitation}
    (hpending : row.status = .pending) (hnew : s.invitations.get? id = none)
    (hcall : ∀ c ∈ call', c.Checked { s with invitations := s.invitations.set id row }) :
    Kept s { s with invitations := s.invitations.set id row } call' := by
  refine ⟨⟨fun id' invitation hinvitation haccepted => ?_⟩, fun id' invitation hinvitation => ?_, hcall⟩
  · rw [Dict.get?_set] at hinvitation
    split_ifs at hinvitation
    · cases hinvitation
      nomatch hpending.symm.trans haccepted
    · exact h.accepted id' invitation hinvitation haccepted
  · refine ⟨invitation, ?_, rfl⟩
    rw [Dict.get?_set_of_ne _ _ row, hinvitation]
    rintro rfl
    nomatch hnew.symm.trans hinvitation

/-- The projection of an acceptance, whose check was before the expiry. -/
theorem kept_projected (h : ExpiryLaw s) {id : ℕ} {grant : InvitationGrant} {checkedAt : ℤ}
    (hchecked : InvitationCall.Checked s (.projecting id grant (.accepting checkedAt)))
    (hcond : OnTime s (.projecting id grant (.accepting checkedAt)) answers)
    (hs : s.projectInvitationGrant id answers.now = .ok s') : Kept s s' none := by
  obtain ⟨row, -, -, ⟨rfl, -⟩ | ⟨-, roleId, rfl⟩⟩ := project_eq_ok hs
  · exact kept_of_eq h rfl fun _ hc => nomatch hc
  · obtain ⟨_, ⟨rfl⟩, mine, hmine, hbefore⟩ := hchecked
    have hget : ∀ id', (s.invitations.modify id (·.accept answers.now)).get? id' =
        (s.invitations.get? id').map fun v => if id = id' then v.accept answers.now else v :=
      fun id' => Dict.get?_modify ..
    refine ⟨⟨fun id' invitation hinvitation haccepted => ?_⟩, fun id' invitation hinvitation => ?_,
      fun _ hc => nomatch hc⟩
    · change (s.invitations.modify id (·.accept answers.now)).get? id' = some invitation
        at hinvitation
      rw [hget] at hinvitation
      obtain ⟨old, hold, rfl⟩ := Option.map_eq_some_iff.mp hinvitation
      split_ifs at haccepted ⊢ with hid
      · subst hid
        cases hmine.symm.trans hold
        unfold WorkspaceInvitation.accept at haccepted ⊢
        split_ifs at haccepted ⊢ with hpending
        · exact ⟨answers.now, rfl, hcond mine hmine hpending hbefore⟩
        · exact h.accepted id mine hmine haccepted
      · exact h.accepted id' old hold haccepted
    · refine ⟨_, (hget id').trans (by rw [hinvitation]; rfl), ?_⟩
      dsimp only
      split_ifs
      · unfold WorkspaceInvitation.accept
        split_ifs <;> rfl
      · rfl

theorem kept_of_perform (h : ExpiryLaw s) (hchecked : call.Checked s)
    (hcond : OnTime s call answers) (hs : call.perform rt s answers = .ok (s', call')) :
    Kept s s' call' := by
  have hend : ∀ c ∈ (none : Option InvitationCall), c.Checked s' := fun _ hc => nomatch hc
  cases call with
  | create =>
    obtain ⟨-, -, hs⟩ := bind_eq_ok.mp hs
    cases hs
    exact kept_of_eq h rfl fun c hc => Option.some.inj hc ▸ trivial
  | checkingIssuer =>
    obtain ⟨row, hrow, hs⟩ := bind_eq_ok.mp hs
    cases hs
    have hrow := of_require hrow
    have hrow := of_require hrow
    cases hrow
    exact kept_of_eq h rfl fun c hc => Option.some.inj hc ▸ rfl
  | inserting =>
    obtain ⟨s₁, hinsert, hs⟩ := bind_eq_ok.mp hs
    cases hs
    obtain ⟨hnew, rfl⟩ := insert_eq_ok hinsert
    exact kept_inserted h hchecked hnew fun c hc => Option.some.inj hc ▸ trivial
  | auditingCreation | projectCoreAccess =>
    cases hs
    exact kept_of_eq h rfl hend
  | accept =>
    simp only [InvitationCall.perform] at hs
    split at hs
    · cases hs
      exact kept_of_eq h rfl fun c hc => Option.some.inj hc ▸ trivial
    · nomatch hs
  | preparing actorUserId actorEmail token =>
    have hs : InvitationCall.prepareStep rt s actorUserId actorEmail token answers.now = (s', call') :=
      Except.ok.inj hs
    unfold InvitationCall.prepareStep at hs
    have hprepares := prepares_prepare s actorUserId actorEmail (hashToken rt token) answers.now
    generalize s.transaction _ = r at hs hprepares
    cases hprepares with
    | refused | done =>
      cases hs
      exact kept_of_eq h rfl fun _ hc => nomatch hc
    | found _ invitation _ hinvitation _ hnow =>
      cases hs
      refine kept_of_eq h rfl fun c hc => ?_
      cases hc
      split_ifs <;> exact ⟨answers.now, rfl, invitation, hinvitation, hnow⟩
    | requested _ invitation hinvitation _ hnow =>
      cases hs
      refine kept_of_eq h rfl fun c hc => ?_
      cases hc
      exact ⟨answers.now, rfl, invitation, hinvitation, hnow⟩
  | askingCore =>
    simp only [InvitationCall.perform] at hs
    split at hs
    · cases hs
      exact kept_of_eq h rfl fun c hc => Option.some.inj hc ▸ hchecked
    · cases hs
      exact kept_of_eq h rfl fun c hc => Option.some.inj hc ▸ hchecked
  | storingError =>
    cases hs
    obtain ⟨_, rfl, -⟩ := hchecked
    exact kept_of_eq h rfl fun _ hc => nomatch hc
  | storingGrant =>
    cases hs
    exact kept_of_eq h rfl fun c hc => Option.some.inj hc ▸ hchecked
  | projecting =>
    obtain ⟨s₁, hproject, hs⟩ := bind_eq_ok.mp hs
    cases hs
    have hown := hchecked
    obtain ⟨checkedAt, rfl, -⟩ := hown
    exact kept_projected h hchecked hcond hproject
  | auditingReconciled | reconcile | scanning | failing | auditingFailure => exact hchecked.elim

theorem kept_of_step (h : ExpiryLaw s) (hchecked : call.Checked s)
    (hcond : OnTime s call answers) (hs : call.step rt s answers = some (s', call')) :
    Kept s s' call' := by
  rcases step_eq hs with ⟨rfl, rfl⟩ | hperform
  · refine kept_of_eq h rfl fun c hc => ?_
    cases call with
    | askingCore | storingError | storingGrant | projecting =>
      obtain ⟨_, rfl, -⟩ := hchecked
      nomatch hc
    | create | checkingIssuer | inserting | auditingCreation | accept | preparing
    | projectCoreAccess => nomatch hc
    | auditingReconciled | reconcile | scanning | failing | auditingFailure => exact hchecked.elim
  · exact kept_of_perform h hchecked hcond hperform

theorem expiryRule : ((invitationCalls rt).only Invites).Rule OnTime ExpiryLaw
    fun s call => call.Checked s where
  start s req _ := by
    obtain ⟨req, hreq⟩ := req
    cases req with
    | create | accept | projectCoreAccess => trivial
    | reconcile => exact hreq
  step s call answers s' call' h hchecked hcond hs := by
    obtain ⟨hlaw, hsame, hcall⟩ := kept_of_step h hchecked hcond hs
    exact ⟨hlaw, fun _ hd => hd.mono hsame, hcall⟩
  abort _ _ h _ := ⟨h, fun _ hd => hd⟩

/-- A creation that is refused as already existing found a pending invitation. -/
theorem refusalLaw_of_onTime (hcond : OnTime s call answers) : RefusalLaw rt s call answers := by
  rintro actorUserId row rfl e hs hcode
  obtain ⟨hnew, htokens, hfound⟩ := hcond
  rcases bind_eq_error.mp hs with hinsert | ⟨_, -, hs⟩
  · rcases bind_eq_error.mp hinsert with hdate | ⟨_, -, hinsert⟩
    · unfold require at hdate
      split_ifs at hdate
      cases hdate
      exact absurd hcode (by decide)
    · by_contra hnone
      push Not at hnone
      have hfree : ∀ other ∈ s.invitations.values,
          other.tokenHash ≠ row.tokenHash ∧ ¬(other.status = .pending ∧ other.key = row.key) := by
        intro other hother
        refine ⟨htokens other hother, fun ⟨hpending, hkey⟩ => ?_⟩
        obtain ⟨id, hid⟩ := Dict.mem_values.mp hother
        obtain ⟨hexpired, hmem⟩ := hnone id other hid hkey hpending
        exact absurd (hfound id hmem other hid hkey hpending) (by omega)
      rw [require, if_pos ⟨hnew, hfree⟩] at hinsert
      nomatch hinsert
  · nomatch hs

end Steps

/-! ## Every run -/

/-- If every step is on time, the law holds of every run and every creation. -/
theorem expiryLaw_along (rt : TextRuntime) {users : Dict ℕ (Option String)}
    {workspaces : Dict ℕ Workspace} {memberships : Dict (ℕ × ℕ) String}
    {s' : InFlight InvitationStore InvitationCall}
    {ls : List (CallLabel {req // Invites req} InvitationAnswers)}
    (hcond : ((invitationCalls rt).only Invites).system.Along (Service.Meets OnTime)
      { store := { users, workspaces, memberships } } ls)
    (hs : ((invitationCalls rt).only Invites).system.run
      { store := { users, workspaces, memberships } } ls = some s') :
    ExpiryLaw s'.store ∧ ((invitationCalls rt).only Invites).system.Along
      (Service.Meets (RefusalLaw rt)) { store := { users, workspaces, memberships } } ls := by
  have hempty : ExpiryLaw { users, workspaces, memberships } := ⟨fun _ _ h => (nomatch h)⟩
  refine ⟨(expiryRule.inv_of_along (.of_empty hempty) hcond hs).store, ?_⟩
  exact expiryRule.along (.of_empty hempty) (fun _ _ _ _ _ hG => refusalLaw_of_onTime hG) hcond

/-! ## One invitation -/

/-- Texts that are trimmed and in lower case, and two tokens. -/
def texts : TextRuntime where
  trim := id
  toLowerCase := id
  sha256 token :=
    if token = "token-1" then "3f08aace122ee2368432c1ca23a049bc640bafbf00fdf33a52429f38ba12dbf9"
    else "0f6bffa9661cb5dd2f3f7b2929f33061f58a7ba7fdd689530b1a306f8ed8f3ec"

/-- Ann, the founder of a workspace, and Bob. -/
def annAndBob : InvitationStore where
  users := ((∅ : Dict ℕ (Option String)).set 1 (some "ann@example.com")).set 2
    (some "bob@example.com")
  workspaces := (∅ : Dict ℕ Workspace).set 7 ⟨"Acme", true⟩
  memberships := (∅ : Dict (ℕ × ℕ) String).set (7, 1) "founder"

/-- Ann invites Bob for one hour. -/
def inviteBob : InvitationRequest := .create 1 ⟨7, "bob@example.com", "member", some 1⟩

/-- The call with number `i` invites Bob at a time, up to its insert. -/
def inviting (i : ℕ) (rawToken : String) (now : ℤ) :
    List (CallLabel {req // Invites req} InvitationAnswers) :=
  [.start ⟨inviteBob, trivial⟩, .step i {}, .step i { rawToken, now }]

/-- Bob accepts in time, and is invited again. -/
def acceptedRun : List (CallLabel {req // Invites req} InvitationAnswers) :=
  inviting 0 "token-1" 0 ++ ([.step 0 { newId := 10 }, .step 0 {},
    .start ⟨.accept 2 "token-1", trivial⟩, .step 1 {}, .step 1 { now := 1000 },
    .step 1 { core := .granted "member" none }, .step 1 { now := 1500 }, .step 1 { now := 2000 }] :
      List (CallLabel {req // Invites req} InvitationAnswers)) ++
  inviting 2 "token-2" 5000 ++ ([.step 2 { newId := 11, now := 5000 }, .step 2 {}] :
    List (CallLabel {req // Invites req} InvitationAnswers))

/-- Bob comes when the hour has passed, and Ann invites him again. -/
def expiredRun : List (CallLabel {req // Invites req} InvitationAnswers) :=
  inviting 0 "token-1" 0 ++ ([.step 0 { newId := 10 }, .step 0 {},
    .start ⟨.accept 2 "token-1", trivial⟩, .step 1 {}, .step 1 { now := 3600000 }] :
      List (CallLabel {req // Invites req} InvitationAnswers)) ++
  inviting 2 "token-2" 3700000

theorem expiryLaw_along_accepted :
    ExpiryLaw ((((invitationCalls texts).only Invites).system.run { store := annAndBob }
      acceptedRun).get (by decide +kernel)).store ∧
    ((invitationCalls texts).only Invites).system.Along (Service.Meets (RefusalLaw texts))
      { store := annAndBob } acceptedRun :=
  expiryLaw_along texts (by decide +kernel) (Option.some_get _).symm

/-- The pending invitation that blocks the new one was found expired. -/
theorem not_expiryLaw_foundExpired :
    ¬∀ (rt : TextRuntime) users workspaces memberships ls s',
      ((invitationCalls rt).only Invites).system.run
        { store := { users, workspaces, memberships } } ls = some s' →
      ExpiryLaw s'.store ∧ ((invitationCalls rt).only Invites).system.Along
        (Service.Meets (RefusalLaw rt)) { store := { users, workspaces, memberships } } ls := by
  intro h
  let reached := (((invitationCalls texts).only Invites).system.run { store := annAndBob }
    expiredRun).get (by decide +kernel)
  have hreached : ((invitationCalls texts).only Invites).system.run { store := annAndBob }
      expiredRun = some reached := (Option.some_get _).symm
  have halong := (h texts _ _ _ (expiredRun ++ [.step 2 { newId := 11, now := 3700000 }])
    ((((invitationCalls texts).only Invites).system.run { store := annAndBob }
      (expiredRun ++ [.step 2 { newId := 11, now := 3700000 }])).get (by decide +kernel))
    (Option.some_get _).symm).2
  have hlaw := ((System.along_append _ hreached).mp halong).2.1
  obtain ⟨id, invitation, hget, -, -, hvalid | hunknown⟩ :=
    hlaw _ (show reached.call? 2 = some (.inserting 1 ⟨7, "bob@example.com", "member",
      texts.sha256 "token-2", .pending, 1, 7300000, none⟩) by decide +kernel) 1 _ rfl
      (.alreadyExists "đã tồn tại lời mời đang chờ cho email này trong workspace")
      (by decide +kernel) rfl
  · have hall : ∀ kv ∈ reached.store.invitations.items, kv.2.expiresAt ≤ 3700000 := by
      decide +kernel
    exact absurd hvalid (Int.not_lt.mpr (hall _ (Dict.get?_eq_some.mp hget)))
  · have hall : ∀ kv ∈ reached.store.invitations.items, kv.1 ∈ reached.store.foundExpired := by
      decide +kernel
    exact hunknown (hall _ (Dict.get?_eq_some.mp hget))

end JavisSaas.Cosa.Invitations
