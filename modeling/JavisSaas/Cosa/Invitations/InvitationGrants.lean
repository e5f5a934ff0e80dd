import JavisSaas.Cosa.Invitations.InvitationExpiry

/-!
# The grant of an invitation

* `grantLaw_along`: if what a call writes about the answer of the core finds the grant where it was,
  grants only move forward, a membership is made after the core has granted it, and an invitation is
  accepted, and audited once, exactly when its grant is projected.
* `not_grantLaw_lateError`: an acceptance whose core call fails late takes the grant of an
  accepted invitation back to `requested`.
-/

namespace JavisSaas.Cosa.Invitations

open JavisSaas.Lib
open InvitationCall (perform prepareStep visit)

/-! ## The law -/

/-- The steps of a grant. -/
inductive GrantState.Forward : GrantState → GrantState → Prop
  | refl (state : GrantState) : Forward state state
  | granted : Forward .requested .coreGranted
  | projected : Forward .coreGranted .projected
  | failed : Forward .requested .failed

/-- The acceptances of an invitation that were audited. -/
def InvitationStore.acceptances (s : InvitationStore) (invitationId : ℕ) : ℕ :=
  (s.auditEvents.filter fun e =>
    e.eventType = "invitation.accepted" ∧ e.targetId = invitationId).length

/-- The grant of the invitation is projected. -/
def InvitationStore.isProjected (s : InvitationStore) (invitationId : ℕ) : Bool :=
  (s.grants.get? invitationId).any (·.state = .projected)

/-- An invitation is accepted, with one audit, exactly when its grant is projected. -/
structure GrantLaw (s : InvitationStore) : Prop where
  accepted : ∀ id invitation, s.invitations.get? id = some invitation →
    (invitation.status = .accepted ↔ s.isProjected id)
  audited : ∀ id, s.acceptances id = if s.isProjected id then 1 else 0

/-- What a step may do to the grants and the memberships. -/
structure GrantStep (s : InvitationStore) (call : InvitationCall) (s' : InvitationStore) :
    Prop where
  forward : ∀ id grant, s.grants.get? id = some grant → ∃ grant', s'.grants.get? id = some grant' ∧
    grant.state.Forward grant'.state ∧ grant'.member = grant.member
  fresh : ∀ id grant', s.grants.get? id = none → s'.grants.get? id = some grant' →
    grant'.state = .requested
  member : ∀ key, s.memberships.get? key = none → s'.memberships.get? key ≠ none →
    (∃ userId email organizationId name role,
      call = .projectCoreAccess userId email organizationId name role) ∨
    ∃ id grant row caller, call = .projecting id row caller ∧ s.grants.get? id = some grant ∧
      key = grant.member ∧ key ∈ s.coreGrants

def GrantStepLaw (rt : TextRuntime) (s : InvitationStore) (call : InvitationCall)
    (answers : InvitationAnswers) : Prop :=
  ∀ s' call', call.step rt s answers = some (s', call') → GrantStep s call s'

/-- What is written about an answer, or a lapsed invitation, finds the grant where it was. -/
def Steady (s : InvitationStore) : InvitationCall → InvitationAnswers → Prop
  | .storingError id _ _ _, _ => ∀ grant ∈ s.grants.get? id, grant.state = .requested
  | .storingGrant id _ _ _ _, _ => ∀ grant ∈ s.grants.get? id,
      grant.state = .requested ∨ grant.state = .coreGranted
  | .failing id _ _, _ => ∀ grant ∈ s.grants.get? id,
      grant.state = .requested ∨ grant.state = .failed
  | _, _ => True

instance (s : InvitationStore) (call : InvitationCall) (answers : InvitationAnswers) :
    Decidable (Steady s call answers) := by
  unfold Steady
  split <;> infer_instance

/-! ## What stays -/

/-- A granted one was granted by the core, a projected one is a membership. -/
structure GrantInv (s : InvitationStore) : Prop extends GrantLaw s where
  invited : ∀ id grant, s.grants.get? id = some grant → s.invitations.get? id ≠ none
  status : ∀ id invitation, s.invitations.get? id = some invitation →
    invitation.status = .pending ∨ invitation.status = .accepted
  core : ∀ id grant, s.grants.get? id = some grant →
    grant.state = .coreGranted ∨ grant.state = .projected → grant.member ∈ s.coreGrants
  member : ∀ id grant, s.grants.get? id = some grant → grant.state = .projected →
    s.memberships.get? grant.member ≠ none

/-- The row is the one of a grant. -/
def InvitationStore.Knows (s : InvitationStore) (id : ℕ) (row : InvitationGrant) : Prop :=
  ∃ grant, s.grants.get? id = some grant ∧ grant.member = row.member

def GrantCaller.Knows (s : InvitationStore) : GrantCaller → Prop
  | accepting _ => True
  | reconciling rest => ∀ row ∈ rest, s.Knows row.1 row.2

/-- What a call has read, as far as it stays. -/
def InvitationCall.Knows (s : InvitationStore) : InvitationCall → Prop
  | .inserting _ row => row.status = .pending
  | .askingCore id grant caller | .storingError id grant _ caller | .projecting id grant caller =>
    s.Knows id grant ∧ caller.Knows s
  | .storingGrant id grant _ _ caller =>
    s.Knows id grant ∧ grant.member ∈ s.coreGrants ∧ caller.Knows s
  | .failing id grant rest | .auditingFailure id grant rest | .auditingReconciled id grant rest =>
    s.Knows id grant ∧ ∀ row ∈ rest, s.Knows row.1 row.2
  | .scanning rows => ∀ row ∈ rows, s.Knows row.1 row.2
  | _ => True

section Steps

variable {rt : TextRuntime} {s s' : InvitationStore} {call : InvitationCall}
  {answers : InvitationAnswers} {call' : Option InvitationCall}

/-- Grants stay, with their member, and so does what the core has granted. -/
structure GrantsStay (s s' : InvitationStore) : Prop where
  grants : ∀ id grant, s.grants.get? id = some grant →
    ∃ grant', s'.grants.get? id = some grant' ∧ grant'.member = grant.member
  core : s.coreGrants ⊆ s'.coreGrants

theorem InvitationStore.Knows.mono (h : GrantsStay s s') {id : ℕ} {row : InvitationGrant}
    (hknows : s.Knows id row) : s'.Knows id row := by
  obtain ⟨grant, hgrant, hmember⟩ := hknows
  obtain ⟨grant', hgrant', hmember'⟩ := h.grants id grant hgrant
  exact ⟨grant', hgrant', hmember'.trans hmember⟩

theorem GrantCaller.Knows.mono (h : GrantsStay s s') {caller : GrantCaller}
    (hknows : caller.Knows s) : caller.Knows s' := by
  cases caller with
  | accepting => trivial
  | reconciling => exact fun row hrow => (hknows row hrow).mono h

theorem InvitationCall.Knows.mono (h : GrantsStay s s') (hknows : call.Knows s) :
    call.Knows s' := by
  cases call with
  | askingCore | storingError | projecting => exact ⟨hknows.1.mono h, hknows.2.mono h⟩
  | storingGrant => exact ⟨hknows.1.mono h, h.core hknows.2.1, hknows.2.2.mono h⟩
  | failing | auditingFailure | auditingReconciled =>
    exact ⟨hknows.1.mono h, fun row hrow => (hknows.2 row hrow).mono h⟩
  | scanning => exact fun row hrow => (hknows row hrow).mono h
  | create | checkingIssuer | inserting | auditingCreation | accept | preparing | reconcile
  | projectCoreAccess => exact hknows

/-! ### Audit events -/

theorem acceptances_audit (s : InvitationStore) (organizationId : ℕ) (actorId eventType : String)
    (target id : ℕ) : (s.audit organizationId actorId eventType target).acceptances id =
      s.acceptances id + if eventType = "invitation.accepted" ∧ target = id then 1 else 0 := by
  show ((s.auditEvents ++ [_]).filter _).length = _
  rw [List.filter_append, List.length_append, List.filter_singleton]
  congr 1
  by_cases h : eventType = "invitation.accepted" ∧ target = id
  · rw [decide_eq_true h, if_pos h]
    rfl
  · rw [decide_eq_false h, if_neg h]
    rfl

/-! ### The writes -/

/-- A write that leaves grants and invitations alone. -/
structure Aside (s s' : InvitationStore) : Prop where
  grants : s'.grants = s.grants
  invitations : s'.invitations = s.invitations
  memberships : ∀ key, s.memberships.get? key ≠ none → s'.memberships.get? key ≠ none
  core : s.coreGrants ⊆ s'.coreGrants
  acceptances : ∀ id, s'.acceptances id = s.acceptances id

theorem Aside.refl (s : InvitationStore) : Aside s s :=
  ⟨rfl, rfl, fun _ h => h, fun _ h => h, fun _ => rfl⟩

theorem Aside.audit {eventType : String} (h : eventType ≠ "invitation.accepted")
    (organizationId : ℕ) (actorId : String) (target : ℕ) :
    Aside s (s.audit organizationId actorId eventType target) := by
  refine ⟨rfl, rfl, fun _ h => h, fun _ h => h, fun id => ?_⟩
  rw [acceptances_audit, if_neg fun hboth => h hboth.1, Nat.add_zero]

theorem Aside.inv (h : Aside s s') (hinv : GrantInv s) : GrantInv s' where
  accepted id invitation hinvitation := by
    rw [InvitationStore.isProjected, h.grants]
    exact hinv.accepted id invitation (h.invitations ▸ hinvitation)
  audited id := by
    rw [h.acceptances, InvitationStore.isProjected, h.grants]
    exact hinv.audited id
  invited id grant hgrant := h.invitations ▸ hinv.invited id grant (h.grants ▸ hgrant)
  status id invitation hinvitation := hinv.status id invitation (h.invitations ▸ hinvitation)
  core id grant hgrant hstate := h.core (hinv.core id grant (h.grants ▸ hgrant) hstate)
  member id grant hgrant hstate :=
    h.memberships _ (hinv.member id grant (h.grants ▸ hgrant) hstate)

theorem Aside.stay (h : Aside s s') : GrantsStay s s' :=
  ⟨fun _ grant hgrant => ⟨grant, h.grants ▸ hgrant, rfl⟩, h.core⟩

/-- A change of the grant of an invitation that leaves it open. -/
structure Moves (s : InvitationStore) (f : InvitationGrant → InvitationGrant)
    (grant : InvitationGrant) : Prop where
  forward : grant.state.Forward (f grant).state
  member : (f grant).member = grant.member
  isOpen : (f grant).state ≠ .projected
  core : (f grant).state = .coreGranted → grant.member ∈ s.coreGrants

theorem Moves.not_projected {f : InvitationGrant → InvitationGrant} {grant : InvitationGrant}
    (h : Moves s f grant) : grant.state ≠ .projected := by
  intro hstate
  have hforward := h.forward
  have hopen := h.isOpen
  rw [hstate] at hforward
  generalize (f grant).state = state at hforward hopen
  cases hforward
  exact hopen rfl

section Modify

variable {id : ℕ} {f : InvitationGrant → InvitationGrant}

theorem get?_modify_cases {id' : ℕ} {grant' : InvitationGrant}
    (h : (s.grants.modify id f).get? id' = some grant') :
    ∃ grant, s.grants.get? id' = some grant ∧
      (id = id' ∧ grant' = f grant ∨ id ≠ id' ∧ grant' = grant) := by
  rw [Dict.get?_modify] at h
  obtain ⟨grant, hgrant, rfl⟩ := Option.map_eq_some_iff.mp h
  refine ⟨grant, hgrant, ?_⟩
  split_ifs with hid
  · exact .inl ⟨hid, rfl⟩
  · exact .inr ⟨hid, rfl⟩

theorem isProjected_modify (hf : ∀ grant, s.grants.get? id = some grant → Moves s f grant)
    (id' : ℕ) : InvitationStore.isProjected { s with grants := s.grants.modify id f } id' =
      s.isProjected id' := by
  show ((s.grants.modify id f).get? id').any _ = (s.grants.get? id').any _
  rw [Dict.get?_modify]
  cases hgrant : s.grants.get? id' with
  | none => rfl
  | some grant =>
    rw [Option.map_some, Option.any_some, Option.any_some]
    split_ifs with hid
    · subst hid
      have hmoves := hf grant hgrant
      rw [decide_eq_false hmoves.isOpen, decide_eq_false hmoves.not_projected]
    · rfl

theorem GrantInv.modified (h : GrantInv s)
    (hf : ∀ grant, s.grants.get? id = some grant → Moves s f grant) :
    GrantInv { s with grants := s.grants.modify id f } where
  accepted id' invitation hinvitation := by
    rw [isProjected_modify hf]
    exact h.accepted id' invitation hinvitation
  audited id' := by
    rw [isProjected_modify hf]
    exact h.audited id'
  invited id' grant' hgrant' := by
    obtain ⟨grant, hgrant, -⟩ := get?_modify_cases hgrant'
    exact h.invited id' grant hgrant
  status := h.status
  core id' grant' hgrant' hstate := by
    obtain ⟨grant, hgrant, ⟨rfl, rfl⟩ | ⟨-, rfl⟩⟩ := get?_modify_cases hgrant'
    · have hmoves := hf grant hgrant
      rcases hstate with hstate | hstate
      · exact hmoves.member.symm ▸ hmoves.core hstate
      · exact absurd hstate hmoves.isOpen
    · exact h.core id' grant' hgrant hstate
  member id' grant' hgrant' hstate := by
    obtain ⟨grant, hgrant, ⟨rfl, rfl⟩ | ⟨-, rfl⟩⟩ := get?_modify_cases hgrant'
    · exact absurd hstate (hf grant hgrant).isOpen
    · exact h.member id' grant' hgrant hstate

theorem step_modified (hf : ∀ grant, s.grants.get? id = some grant → Moves s f grant) :
    GrantStep s call { s with grants := s.grants.modify id f } where
  forward id' grant hgrant := by
    refine ⟨_, (Dict.get?_modify ..).trans (by rw [hgrant]; rfl), ?_⟩
    dsimp only
    split_ifs with hid
    · subst hid
      exact ⟨(hf grant hgrant).forward, (hf grant hgrant).member⟩
    · exact ⟨.refl _, rfl⟩
  fresh id' grant' hnone hgrant' := by
    obtain ⟨grant, hgrant, -⟩ := get?_modify_cases hgrant'
    nomatch hnone.symm.trans hgrant
  member key hnone hsome := absurd hnone hsome

end Modify

theorem GrantStep.stay (h : GrantStep s call s') (hcore : s.coreGrants ⊆ s'.coreGrants) :
    GrantsStay s s' where
  grants id grant hgrant := by
    obtain ⟨grant', hgrant', -, hmember⟩ := h.forward id grant hgrant
    exact ⟨grant', hgrant', hmember⟩
  core := hcore

theorem GrantStep.aside {s₁ : InvitationStore} (h : GrantStep s call s₁) (haside : Aside s₁ s')
    (hmember : ∀ key, s₁.memberships.get? key = none → s'.memberships.get? key = none) :
    GrantStep s call s' where
  forward id grant hgrant := haside.grants ▸ h.forward id grant hgrant
  fresh id grant' hnone hgrant' := h.fresh id grant' hnone (haside.grants ▸ hgrant')
  member key hnone hsome := h.member key hnone fun hnone₁ => hsome (hmember key hnone₁)

theorem GrantStep.refl (s : InvitationStore) (call : InvitationCall) : GrantStep s call s where
  forward _ grant hgrant := ⟨grant, hgrant, .refl _, rfl⟩
  fresh _ _ hnone hgrant' := nomatch hnone.symm.trans hgrant'
  member _ hnone hsome := absurd hnone hsome

/-! ### The operations -/

variable {id : ℕ} {grant row : InvitationGrant}

theorem moves_storeError {code : String} {caller : GrantCaller}
    (hsteady : Steady s (.storingError id row code caller) answers)
    (hgrant : s.grants.get? id = some grant) : Moves s (fun grant => { grant with
      state := .requested
      attempts := grant.attempts + 1
      lastErrorCode := some code
      updatedAt := answers.now }) grant := by
  refine ⟨?_, rfl, nofun, nofun⟩
  rw [hsteady grant hgrant]
  exact .refl _

theorem moves_failGrant {rest : List (ℕ × InvitationGrant)}
    (hsteady : Steady s (.failing id row rest) answers) (hgrant : s.grants.get? id = some grant) :
    Moves s (fun grant => { grant with
      state := .failed
      lastErrorCode := some "invitation_not_pending"
      updatedAt := answers.now }) grant := by
  refine ⟨?_, rfl, nofun, nofun⟩
  rcases hsteady grant hgrant with hstate | hstate
  · rw [hstate]
    exact .failed
  · rw [hstate]
    exact .refl _

theorem moves_storeGrant {role : String} {version : Option ℤ} {caller : GrantCaller}
    (hsteady : Steady s (.storingGrant id row role version caller) answers)
    (hgrant : s.grants.get? id = some grant) (hcore : grant.member ∈ s.coreGrants) :
    Moves s (fun row => { row with
      state := .coreGranted
      coreRole := some role
      coreMembershipVersion := version
      attempts := row.attempts + 1
      lastErrorCode := none
      updatedAt := answers.now }) grant := by
  refine ⟨?_, rfl, nofun, fun _ => hcore⟩
  rcases hsteady grant hgrant with hstate | hstate
  · rw [hstate]
    exact .granted
  · rw [hstate]
    exact .refl _

/-! ### Invitations -/

theorem isProjected_eq_false (h : s.grants.get? id = none) : s.isProjected id = false := by
  rw [InvitationStore.isProjected, h]
  rfl

theorem GrantInv.inserted (h : GrantInv s) {row : WorkspaceInvitation}
    (hpending : row.status = .pending) (hnew : s.invitations.get? id = none) :
    GrantInv { s with invitations := s.invitations.set id row } := by
  have hnone : s.grants.get? id = none := by
    by_contra hsome
    obtain ⟨grant, hgrant⟩ := Option.ne_none_iff_exists'.mp hsome
    exact h.invited id grant hgrant hnew
  refine ⟨⟨fun id' invitation hinvitation => ?_, h.audited⟩, fun id' grant hgrant => ?_,
    fun id' invitation hinvitation => ?_, h.core, h.member⟩
  · rw [Dict.get?_set] at hinvitation
    split_ifs at hinvitation with hid
    · subst hid
      cases hinvitation
      show row.status = .accepted ↔ s.isProjected id = true
      rw [hpending, isProjected_eq_false hnone]
      exact ⟨nofun, nofun⟩
    · exact h.accepted id' invitation hinvitation
  · rw [Dict.get?_set]
    split_ifs
    · exact Option.some_ne_none row
    · exact h.invited id' grant hgrant
  · rw [Dict.get?_set] at hinvitation
    split_ifs at hinvitation
    · exact .inl (Option.some.inj hinvitation ▸ hpending)
    · exact h.status id' invitation hinvitation

section Requested

variable {id : ℕ} {grant : InvitationGrant}

theorem isProjected_set (hnone : s.grants.get? id = none) (hstate : grant.state = .requested)
    (id' : ℕ) : InvitationStore.isProjected { s with grants := s.grants.set id grant } id' =
      s.isProjected id' := by
  show ((s.grants.set id grant).get? id').any _ = _
  rw [Dict.get?_set]
  split_ifs with hid
  · subst hid
    rw [isProjected_eq_false hnone, Option.any_some, hstate]
    rfl
  · rfl

theorem GrantInv.requested (h : GrantInv s) (hnone : s.grants.get? id = none)
    (hstate : grant.state = .requested) (hinvited : s.invitations.get? id ≠ none) :
    GrantInv { s with grants := s.grants.set id grant } := by
  have hcases : ∀ {id' grant'}, (s.grants.set id grant).get? id' = some grant' →
      (id = id' ∧ grant' = grant) ∨ s.grants.get? id' = some grant' := by
    intro id' grant' hgrant'
    rw [Dict.get?_set] at hgrant'
    split_ifs at hgrant' with hid
    · exact .inl ⟨hid, (Option.some.inj hgrant').symm⟩
    · exact .inr hgrant'
  refine ⟨⟨fun id' invitation hinvitation => ?_, fun id' => ?_⟩, fun id' grant' hgrant' => ?_,
    h.status, fun id' grant' hgrant' hopen => ?_, fun id' grant' hgrant' hprojected => ?_⟩
  · rw [isProjected_set hnone hstate]
    exact h.accepted id' invitation hinvitation
  · rw [isProjected_set hnone hstate]
    exact h.audited id'
  · rcases hcases hgrant' with ⟨rfl, -⟩ | hold
    · exact hinvited
    · exact h.invited id' grant' hold
  · rcases hcases hgrant' with ⟨-, rfl⟩ | hold
    · rw [hstate] at hopen
      exact hopen.elim nofun nofun
    · exact h.core id' grant' hold hopen
  · rcases hcases hgrant' with ⟨-, rfl⟩ | hold
    · nomatch hstate.symm.trans hprojected
    · exact h.member id' grant' hold hprojected

theorem step_requested (hnone : s.grants.get? id = none) (hstate : grant.state = .requested) :
    GrantStep s call { s with grants := s.grants.set id grant } where
  forward id' old hold := by
    refine ⟨old, ?_, .refl _, rfl⟩
    rw [Dict.get?_set_of_ne _ _ grant, hold]
    rintro rfl
    nomatch hnone.symm.trans hold
  fresh id' grant' hnone' hgrant' := by
    rw [Dict.get?_set] at hgrant'
    split_ifs at hgrant'
    · exact Option.some.inj hgrant' ▸ hstate
    · nomatch hnone'.symm.trans hgrant'
  member _ hnone hsome := absurd hnone hsome

end Requested

/-! ### The projection -/

section Projected

variable {id : ℕ} {grant : InvitationGrant} {now : ℤ} {roleId actorId : String}

/-- The writes of the projection. -/
def InvitationStore.project (s : InvitationStore) (id : ℕ) (grant : InvitationGrant)
    (roleId actorId : String) (now : ℤ) : InvitationStore :=
  { s with
    memberships := s.memberships.set grant.member roleId
    invitations := s.invitations.modify id (·.accept now)
    grants := s.grants.set id { grant with state := .projected, updatedAt := now }
    }.audit grant.organizationId actorId "invitation.accepted" id

theorem isProjected_project (id' : ℕ) : (s.project id grant roleId actorId now).isProjected id' =
    if id = id' then true else s.isProjected id' := by
  show ((s.grants.set id _).get? id').any _ = _
  rw [Dict.get?_set]
  split_ifs <;> rfl

theorem acceptances_project (id' : ℕ) : (s.project id grant roleId actorId now).acceptances id' =
    s.acceptances id' + if id = id' then 1 else 0 := by
  unfold InvitationStore.project
  rw [acceptances_audit]
  simp only [true_and]
  rfl

theorem GrantInv.projected (h : GrantInv s) (hgrant : s.grants.get? id = some grant)
    (hstate : grant.state = .coreGranted) : GrantInv (s.project id grant roleId actorId now) := by
  have hopen : s.isProjected id = false := by
    rw [InvitationStore.isProjected, hgrant, Option.any_some, hstate]
    rfl
  have hcases : ∀ {id' grant'}, (s.grants.set id { grant with
      state := .projected, updatedAt := now }).get? id' = some grant' →
        grant'.member = grant.member ∨ s.grants.get? id' = some grant' := by
    intro id' grant' hgrant'
    rw [Dict.get?_set] at hgrant'
    split_ifs at hgrant'
    · exact .inl (Option.some.inj hgrant' ▸ rfl)
    · exact .inr hgrant'
  have hinvitations : ∀ {id' invitation}, (s.invitations.modify id (·.accept now)).get? id' =
      some invitation → ∃ old, s.invitations.get? id' = some old ∧
        invitation = if id = id' then old.accept now else old := by
    intro id' invitation hinvitation
    rw [Dict.get?_modify] at hinvitation
    obtain ⟨old, hold, heq⟩ := Option.map_eq_some_iff.mp hinvitation
    exact ⟨old, hold, heq.symm⟩
  refine ⟨⟨fun id' invitation hinvitation => ?_, fun id' => ?_⟩, fun id' grant' hgrant' => ?_,
    fun id' invitation hinvitation => ?_, fun id' grant' hgrant' hcore => ?_,
    fun id' grant' hgrant' hprojected => ?_⟩
  · obtain ⟨old, hold, rfl⟩ := hinvitations hinvitation
    rw [isProjected_project]
    split_ifs with hid
    · subst hid
      -- The invitation of an open grant is pending.
      have hpending : old.status = .pending := by
        refine (h.status id old hold).resolve_right fun haccepted => ?_
        nomatch hopen.symm.trans ((h.accepted id old hold).mp haccepted)
      rw [WorkspaceInvitation.accept, if_pos hpending]
      exact iff_of_true rfl rfl
    · exact h.accepted id' old hold
  · rw [acceptances_project, isProjected_project, h.audited]
    rcases eq_or_ne id id' with rfl | hid
    · rw [hopen, if_pos rfl, if_pos rfl]
      rfl
    · rw [if_neg hid, if_neg hid, Nat.add_zero]
  · show (s.invitations.modify id (·.accept now)).get? id' ≠ none
    rw [Dict.get?_modify, ne_eq, Option.map_eq_none_iff]
    rcases eq_or_ne id id' with rfl | hid
    · exact h.invited id grant hgrant
    · exact h.invited id' grant' ((Dict.get?_set_of_ne _ hid _).symm.trans hgrant')
  · obtain ⟨old, hold, rfl⟩ := hinvitations hinvitation
    have hold := h.status id' old hold
    split_ifs
    · unfold WorkspaceInvitation.accept
      split_ifs
      · exact .inr rfl
      · exact hold
    · exact hold
  · rcases hcases hgrant' with hmember | hold
    · exact hmember ▸ h.core id grant hgrant (.inl hstate)
    · exact h.core id' grant' hold hcore
  · show (s.memberships.set grant.member roleId).get? grant'.member ≠ none
    rw [Dict.get?_set]
    split_ifs with hkey
    · exact Option.some_ne_none _
    · rcases hcases hgrant' with hmember | hold
      · exact absurd hmember.symm hkey
      · exact h.member id' grant' hold hprojected

theorem step_projected (h : GrantInv s) (hgrant : s.grants.get? id = some grant)
    (hstate : grant.state = .coreGranted) {row : InvitationGrant} {caller : GrantCaller} :
    GrantStep s (.projecting id row caller) (s.project id grant roleId actorId now) where
  forward id' old hold := by
    show ∃ grant', (s.grants.set id _).get? id' = some grant' ∧ _
    rw [Dict.get?_set]
    split_ifs with hid
    · subst hid
      cases hgrant.symm.trans hold
      exact ⟨_, rfl, hstate ▸ .projected, rfl⟩
    · exact ⟨old, hold, .refl _, rfl⟩
  fresh id' grant' hnone hgrant' := by
    rcases eq_or_ne id id' with rfl | hid
    · nomatch hnone.symm.trans hgrant
    · nomatch hnone.symm.trans ((Dict.get?_set_of_ne _ hid _).symm.trans hgrant')
  member key hnone hsome := by
    have hkey : grant.member = key := by
      by_contra hne
      exact hsome ((Dict.get?_set_of_ne _ hne _).trans hnone)
    subst hkey
    exact .inr ⟨id, grant, row, caller, rfl, hgrant, rfl, h.core id grant hgrant (.inl hstate)⟩

end Projected

/-! ### The calls -/

/-- What every step keeps. -/
structure Stepped (s : InvitationStore) (call : InvitationCall) (s' : InvitationStore)
    (call' : Option InvitationCall) : Prop where
  inv : GrantInv s'
  step : GrantStep s call s'
  core : s.coreGrants ⊆ s'.coreGrants
  knows : ∀ c ∈ call', c.Knows s'

theorem Stepped.of_aside (h : GrantInv s) (haside : Aside s s')
    (hmember : s'.memberships = s.memberships) (hknows : ∀ c ∈ call', c.Knows s') :
    Stepped s call s' call' :=
  ⟨haside.inv h, (GrantStep.refl s call).aside haside fun _ hnone => hmember ▸ hnone, haside.core,
    hknows⟩

theorem Stepped.of_eq (h : GrantInv s) (hknows : ∀ c ∈ call', c.Knows s) :
    Stepped s call s call' :=
  .of_aside h (.refl s) rfl hknows

theorem Stepped.of_modify (h : GrantInv s) {id : ℕ} {f : InvitationGrant → InvitationGrant}
    (hf : ∀ grant, s.grants.get? id = some grant → Moves s f grant)
    (hknows : ∀ c ∈ call', c.Knows s) :
    Stepped s call { s with grants := s.grants.modify id f } call' := by
  have hstep : GrantStep s call { s with grants := s.grants.modify id f } := step_modified hf
  refine ⟨h.modified hf, hstep, fun _ h => h, fun c hc => ?_⟩
  exact (hknows c hc).mono (hstep.stay fun _ h => h)

theorem Stepped.aside {s₁ : InvitationStore} (h : Stepped s call s₁ call') (haside : Aside s₁ s')
    (hmember : s'.memberships = s₁.memberships) : Stepped s call s' call' :=
  ⟨haside.inv h.inv, h.step.aside haside fun _ hnone => hmember ▸ hnone,
    fun _ hkey => haside.core (h.core hkey), fun c hc => (h.knows c hc).mono haside.stay⟩

theorem knows_onError {caller : GrantCaller} (h : caller.Knows s) :
    ∀ c ∈ caller.onError, c.Knows s := by
  intro c hc
  cases caller with
  | accepting => nomatch hc
  | reconciling => exact Option.some.inj hc ▸ h

theorem InvitationCall.Knows.onError (h : call.Knows s) : ∀ c ∈ call.onError, c.Knows s := by
  intro c hc
  cases call with
  | askingCore | storingError | projecting => exact knows_onError h.2 c hc
  | storingGrant => exact knows_onError h.2.2 c hc
  | auditingReconciled | failing | auditingFailure => exact Option.some.inj hc ▸ h.2
  | scanning rows =>
    cases rows with
    | nil => nomatch hc
    | cons =>
      exact Option.some.inj hc ▸ fun r hr => h r (List.mem_cons_of_mem _ hr)
  | create | checkingIssuer | inserting | auditingCreation | accept | preparing | reconcile
  | projectCoreAccess => nomatch hc

theorem knows_self {id : ℕ} {grant : InvitationGrant} (h : s.grants.get? id = some grant) :
    s.Knows id grant := ⟨grant, h, rfl⟩

theorem knows_openGrants (limit : ℕ) (cutoff : ℤ) :
    ∀ row ∈ s.openGrants limit cutoff, s.Knows row.1 row.2 := by
  intro row hrow
  have hrow := (List.mem_insertionSort _).mp (List.mem_of_mem_take hrow)
  exact knows_self (Dict.get?_eq_some.mpr (List.mem_filter.mp hrow).1)

theorem knows_visit {rows : List (ℕ × InvitationGrant)} {now : ℤ}
    (h : ∀ row ∈ rows, s.Knows row.1 row.2) :
    ∀ c ∈ visit s now rows, c.Knows s := by
  intro c hc
  cases rows with
  | nil => nomatch hc
  | cons row rest =>
    have hrow : s.Knows row.1 row.2 := h row List.mem_cons_self
    have hrest : ∀ r ∈ rest, s.Knows r.1 r.2 := fun r hr => h r (List.mem_cons_of_mem _ hr)
    simp only [visit] at hc
    split_ifs at hc <;> exact Option.some.inj hc ▸ ⟨hrow, hrest⟩

theorem stepped_prepare (h : GrantInv s) {actorUserId : ℕ} {actorEmail : Option String}
    {token : String} {now : ℤ}
    (hs : prepareStep rt s actorUserId actorEmail token now = (s', call')) :
    Stepped s call s' call' := by
  unfold prepareStep at hs
  have hprepares := prepares_prepare s actorUserId actorEmail (hashToken rt token) now
  generalize s.transaction _ = r at hs hprepares
  cases hprepares with
  | refused =>
    cases hs
    exact .of_aside h ⟨rfl, rfl, fun _ h => h, fun _ h => h, fun _ => rfl⟩ rfl fun _ hc => nomatch hc
  | done =>
    cases hs
    exact .of_eq h fun _ hc => nomatch hc
  | found _ _ _ _ _ _ hgrant =>
    cases hs
    refine .of_eq h fun c hc => ?_
    cases hc
    split_ifs <;> exact ⟨knows_self hgrant, trivial⟩
  | requested id invitation hinvitation _ _ hgrant =>
    cases hs
    have hinvited : s.invitations.get? id ≠ none := by
      rw [hinvitation]
      exact Option.some_ne_none _
    have hset : Stepped s call
        { s with grants := s.grants.set id (invitation.grantFor actorUserId now) }
        (some (.askingCore id (invitation.grantFor actorUserId now) (.accepting now))) := by
      refine ⟨h.requested hgrant rfl hinvited, step_requested hgrant rfl, fun _ h => h, fun c hc => ?_⟩
      exact Option.some.inj hc ▸ ⟨knows_self (Dict.get?_set_self ..), trivial⟩
    exact hset.aside (.audit (by decide) ..) rfl

theorem stepped_perform (h : GrantInv s) (hknows : call.Knows s) (hsteady : Steady s call answers)
    (hs : call.perform rt s answers = .ok (s', call')) : Stepped s call s' call' := by
  have hend : ∀ c ∈ (none : Option InvitationCall), c.Knows s := fun _ hc => by cases hc
  cases call with
  | create =>
    obtain ⟨-, -, hs⟩ := bind_eq_ok.mp hs
    cases hs
    exact .of_eq h fun c hc => Option.some.inj hc ▸ trivial
  | checkingIssuer =>
    obtain ⟨row, hrow, hs⟩ := bind_eq_ok.mp hs
    cases hs
    have hrow := of_require hrow
    have hrow := of_require hrow
    cases hrow
    exact .of_eq h fun c hc => Option.some.inj hc ▸ rfl
  | inserting =>
    obtain ⟨s₁, hinsert, hs⟩ := bind_eq_ok.mp hs
    cases hs
    obtain ⟨hnew, rfl⟩ := insert_eq_ok hinsert
    refine ⟨h.inserted hknows hnew, ?_, fun _ h => h, fun c hc => Option.some.inj hc ▸ trivial⟩
    exact ⟨fun _ grant hgrant => ⟨grant, hgrant, .refl _, rfl⟩,
      fun _ _ hnone hgrant => (by cases hnone.symm.trans hgrant), fun _ hnone hsome => absurd hnone hsome⟩
  | auditingCreation =>
    cases hs
    exact (Stepped.of_eq h hend).aside (.audit (by decide) ..) rfl
  | accept =>
    simp only [perform] at hs
    split at hs
    · cases hs
      exact .of_eq h fun c hc => Option.some.inj hc ▸ trivial
    · cases hs
  | preparing => exact stepped_prepare h (Except.ok.inj hs)
  | askingCore _ grant =>
    obtain ⟨hgrant, hcaller⟩ := hknows
    simp only [perform] at hs
    split at hs
    · cases hs
      refine .of_aside h ⟨rfl, rfl, fun _ h => h, List.subset_append_left .., fun _ => rfl⟩ rfl
        fun c hc => ?_
      cases hc
      have hstay : GrantsStay s { s with coreGrants := s.coreGrants ++ [grant.member] } :=
        ⟨fun _ row hrow => ⟨row, hrow, rfl⟩, List.subset_append_left ..⟩
      exact ⟨hgrant.mono hstay, List.mem_concat_self, hcaller.mono hstay⟩
    · next code made _ =>
      cases hs
      refine .of_aside h ⟨rfl, rfl, fun _ h => h, List.subset_append_left .., fun _ => rfl⟩ rfl
        fun c hc => ?_
      cases hc
      have hstay : GrantsStay s
          { s with coreGrants := s.coreGrants ++ if made then [grant.member] else [] } :=
        ⟨fun _ row hrow => ⟨row, hrow, rfl⟩, List.subset_append_left ..⟩
      exact ⟨hgrant.mono hstay, hcaller.mono hstay⟩
  | storingError =>
    cases hs
    exact .of_modify h (fun _ hgrant => moves_storeError hsteady hgrant) (knows_onError hknows.2)
  | storingGrant id _ role version =>
    cases hs
    obtain ⟨⟨current, hcurrent, hmember⟩, hcore, hcaller⟩ := hknows
    have hmoves : ∀ row, s.grants.get? id = some row → Moves s (fun row => { row with
        state := .coreGranted
        coreRole := some role
        coreMembershipVersion := version
        attempts := row.attempts + 1
        lastErrorCode := none
        updatedAt := answers.now }) row := by
      intro row hrow
      cases hcurrent.symm.trans hrow
      exact moves_storeGrant hsteady hrow (hmember ▸ hcore)
    refine (Stepped.of_modify h hmoves fun c hc => ?_).aside (.audit (by decide) ..) rfl
    exact Option.some.inj hc ▸ ⟨⟨current, hcurrent, hmember⟩, hcaller⟩
  | projecting id grant caller =>
    obtain ⟨s₁, hproject, hs⟩ := bind_eq_ok.mp hs
    cases hs
    have hnext : ∀ c ∈ caller.onProjected id grant, c.Knows s := by
      intro c hc
      cases caller with
      | accepting => cases hc
      | reconciling => exact Option.some.inj hc ▸ hknows
    obtain ⟨row, hrow, hstate, ⟨rfl, -⟩ | ⟨hopen, roleId, rfl⟩⟩ := project_eq_ok hproject
    · exact .of_eq h hnext
    · have hgranted : row.state = .coreGranted := by
        refine hstate.resolve_right fun hprojected => hopen ⟨hprojected, ?_⟩
        exact h.member id row hrow hprojected
      have hstep : GrantStep s (.projecting id grant caller)
          (s.project id row roleId (toString row.userId) answers.now) :=
        step_projected h hrow hgranted
      refine ⟨h.projected hrow hgranted, hstep, fun _ h => h, fun c hc => ?_⟩
      exact (hnext c hc).mono (hstep.stay fun _ h => h)
  | auditingReconciled | auditingFailure =>
    cases hs
    refine (Stepped.of_eq h fun c hc => ?_).aside (.audit (by decide) ..) rfl
    exact Option.some.inj hc ▸ hknows.2
  | reconcile limit =>
    cases hs
    exact .of_eq h fun c hc => Option.some.inj hc ▸ knows_openGrants limit _
  | scanning =>
    cases hs
    exact .of_eq h (knows_visit hknows)
  | failing =>
    cases hs
    exact .of_modify h (fun _ hgrant => moves_failGrant hsteady hgrant)
      fun c hc => Option.some.inj hc ▸ hknows
  | projectCoreAccess userId email organizationId name role =>
    cases hs
    have hmemberships : ∀ key, s.memberships.get? key ≠ none →
        (s.memberships.set (organizationId, userId) (mapCoreRoleToCosaRole role)).get? key ≠ none := by
      intro key hkey
      rw [Dict.get?_set]
      split_ifs
      · exact Option.some_ne_none _
      · exact hkey
    have haside : Aside s { s with
        users := s.users.set userId email
        workspaces := s.workspaces.set organizationId
          ⟨name, ((s.workspaces.get? organizationId).map Workspace.active).getD true⟩
        memberships := s.memberships.set (organizationId, userId) (mapCoreRoleToCosaRole role) } :=
      ⟨rfl, rfl, hmemberships, fun _ h => h, fun _ => rfl⟩
    refine ⟨haside.inv h, ⟨fun _ grant hgrant => ⟨grant, hgrant, .refl _, rfl⟩,
      fun _ _ hnone hgrant => (by cases hnone.symm.trans hgrant), fun _ _ _ => ?_⟩, haside.core,
      fun _ hc => by cases hc⟩
    exact .inl ⟨userId, email, organizationId, name, role, rfl⟩

theorem stepped_of_step (h : GrantInv s) (hknows : call.Knows s) (hsteady : Steady s call answers)
    (hs : call.step rt s answers = some (s', call')) : Stepped s call s' call' := by
  rcases step_eq hs with ⟨rfl, rfl⟩ | hperform
  · exact .of_eq h hknows.onError
  · exact stepped_perform h hknows hsteady hperform

theorem grantRule : (invitationCalls rt).Rule Steady GrantInv fun s call => call.Knows s where
  start s req _ := by
    cases req <;> trivial
  step s call answers s' call' h hknows hsteady hs := by
    have hstepped := stepped_of_step h hknows hsteady hs
    exact ⟨hstepped.inv, fun _ hd => hd.mono (hstepped.step.stay hstepped.core), hstepped.knows⟩
  abort _ _ h _ := ⟨h, fun _ hd => hd⟩

end Steps

/-! ## Every run -/

/-- If every step is steady, the law holds after every run and of every step. -/
theorem grantLaw_along (rt : TextRuntime) {users : Dict ℕ (Option String)}
    {workspaces : Dict ℕ Workspace} {memberships : Dict (ℕ × ℕ) String}
    {s' : InFlight InvitationStore InvitationCall}
    {ls : List (CallLabel InvitationRequest InvitationAnswers)}
    (hcond : (invitationCalls rt).system.Along (Service.Meets Steady)
      { store := { users, workspaces, memberships } } ls)
    (hs : (invitationCalls rt).system.run { store := { users, workspaces, memberships } } ls =
      some s') :
    GrantLaw s'.store ∧ (invitationCalls rt).system.Along (Service.Meets (GrantStepLaw rt))
      { store := { users, workspaces, memberships } } ls := by
  have hempty : GrantInv { users, workspaces, memberships } :=
    ⟨⟨fun _ _ h => (nomatch h), fun _ => rfl⟩, fun _ _ h => (nomatch h), fun _ _ h => (nomatch h),
      fun _ _ h => (nomatch h), fun _ _ h => (nomatch h)⟩
  refine ⟨(grantRule.inv_of_along (.of_empty hempty) hcond hs).store.toGrantLaw, ?_⟩
  refine grantRule.along (.of_empty hempty) (fun s call answers h hknows hsteady => ?_) hcond
  exact fun s' call' hs => (stepped_of_step h hknows hsteady hs).step

/-! ## One invitation -/

/-- Ann has invited Bob, and Bob accepts up to the call of the core, in the call with number `i`. -/
def accepting (i : ℕ) : List (CallLabel InvitationRequest InvitationAnswers) :=
  [.start (.accept 2 "token-1"), .step i {}, .step i { now := 1000 }]

def invitedRun : List (CallLabel InvitationRequest InvitationAnswers) :=
  [.start inviteBob, .step 0 {}, .step 0 { rawToken := "token-1" }, .step 0 { newId := 10 },
    .step 0 {}]

/-- The answer of the core is lost, and the reconciler asks again. -/
def reconciledRun : List (CallLabel InvitationRequest InvitationAnswers) :=
  invitedRun ++ accepting 1 ++
    ([.step 1 { core := .error "unavailable" true }, .step 1 { now := 2000 },
      .start (.reconcile 50 60000), .step 2 { now := 100000 }, .step 2 { now := 100000 },
      .step 2 { core := .granted "member" (some 1) }, .step 2 { now := 101000 },
      .step 2 { now := 101000 }, .step 2 {}, .step 2 {}] :
        List (CallLabel InvitationRequest InvitationAnswers))

/-- Bob accepts twice; one acceptance is done when the other hears of an error. -/
def lateErrorRun : List (CallLabel InvitationRequest InvitationAnswers) :=
  invitedRun ++ accepting 1 ++ accepting 2 ++
    ([.step 2 { core := .granted "member" (some 1) }, .step 2 { now := 1500 },
      .step 2 { now := 1500 }, .step 1 { core := .error "unavailable" true },
      .step 1 { now := 9000 }] : List (CallLabel InvitationRequest InvitationAnswers))

theorem grantLaw_along_reconciled :
    GrantLaw (((invitationCalls texts).system.run { store := annAndBob } reconciledRun).get
      (by decide +kernel)).store ∧
    (invitationCalls texts).system.Along (Service.Meets (GrantStepLaw texts))
      { store := annAndBob } reconciledRun :=
  grantLaw_along texts (by decide +kernel) (Option.some_get _).symm

/-- The invitation is accepted, and its grant is only requested. -/
theorem not_grantLaw_lateError :
    ¬∀ (rt : TextRuntime) users workspaces memberships ls s',
      (invitationCalls rt).system.run { store := { users, workspaces, memberships } } ls = some s' →
      GrantLaw s'.store ∧ (invitationCalls rt).system.Along (Service.Meets (GrantStepLaw rt))
        { store := { users, workspaces, memberships } } ls := by
  intro h
  let reached := ((invitationCalls texts).system.run { store := annAndBob } lateErrorRun).get
    (by decide +kernel)
  have hlaw := (h texts _ _ _ lateErrorRun reached (Option.some_get _).symm).1
  have haccepted : ((reached.store.invitations.get? 10).get (by decide +kernel)).status =
    .accepted := by decide +kernel
  have hprojected : reached.store.isProjected 10 = true :=
    (hlaw.accepted 10 _ (Option.some_get _).symm).mp haccepted
  have hopen : reached.store.isProjected 10 = false := by decide +kernel
  nomatch hopen.symm.trans hprojected

end JavisSaas.Cosa.Invitations
