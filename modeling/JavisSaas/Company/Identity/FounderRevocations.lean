import JavisSaas.Company.Identity.AuthorizationWrites

/-!
# A workspace keeps a founder

Updates of permissions, each committed as a whole under the next policy version and epoch. Of two
that read the same version one fails, so an update commits on what its checks have seen. The guard
of a revocation counts founder rows that are not in force, or not held by an active human, as well.

* `updateLaw_along`: no revocation takes the last founder in force, the versions are consecutive and
  the epoch grows, if, where the guard counts other rows, one of these is in force and held.
* `not_updateLaw_expired`: a founder is revoked while the other one has expired.
-/

namespace JavisSaas.Company.Identity

open JavisSaas.Lib

section

variable {V : Type}

/-! ## The law -/

/-- A revocation does not take the last founder who is in force. -/
def PolicyWrite.KeepsFounder (workspaceId : ℕ) (t : AuthorizationTables V) : PolicyWrite V → Prop
  | .deleteAssignment assignmentId checkedAt =>
    (∃ a ∈ t.foundersInForce workspaceId checkedAt, a.id = assignmentId) →
      ∃ a ∈ t.foundersInForce workspaceId checkedAt, a.id ≠ assignmentId
  | _ => True

/-- The same for a list of writes, each on what the ones before it leave. -/
def KeepsFounders (workspaceId : ℕ) (t : AuthorizationTables V) : List (PolicyWrite V) → Prop
  | [] => True
  | write :: writes =>
    write.KeepsFounder workspaceId t ∧ KeepsFounders workspaceId (write.apply t) writes

/-- The write is what the mutation asks for. -/
def PermissionMutation.Writes (workspaceId : ℕ) : PermissionMutation V → PolicyWrite V → Prop
  | .setRolePermission roleId permissionKey effect conditions, write =>
    write = .upsertRolePermission roleId permissionKey effect conditions
  | .assignRole memberId roleId projectId legalEntityId validUntil, write =>
    ∃ id validFrom, write = .insertAssignment
      ⟨id, workspaceId, memberId, roleId, projectId, legalEntityId, validFrom, validUntil⟩
  | .revokeRole assignmentId, write => ∃ checkedAt, write = .deleteAssignment assignmentId checkedAt

/-- The tables with which the writes to roles and assignments have to do. -/
structure SameRows (t t' : AuthorizationTables V) : Prop where
  members : t'.members = t.members
  roles : t'.roles = t.roles
  rolePermissions : t'.rolePermissions = t.rolePermissions
  assignments : t'.assignments = t.assignments

/-- The tables after the updates. -/
def replay (t : AuthorizationTables V) (updates : List (PolicyUpdate V)) : AuthorizationTables V :=
  updates.foldl (fun t u => applyAll t u.writes) t

/-- No revocation takes the last founder in force; a commit is all of a request, with the next
version and a greater epoch; nothing else changes roles and assignments. -/
structure UpdateLaw (workspaceId : ℕ) (t : AuthorizationTables V) (s : AuthorizationStore V) :
    Prop where
  founders : ∀ u ∈ s.updates, KeepsFounders workspaceId u.before u.writes
  whole : ∀ u ∈ s.updates, List.Forall₂ (PermissionMutation.Writes workspaceId) u.request.mutations
    u.writes
  versions : ∀ (i : ℕ) u, s.updates[i]? = some u → u.version = t.latestPolicyVersion workspaceId + i + 1
  latest : s.tables.latestPolicyVersion workspaceId =
    t.latestPolicyVersion workspaceId + s.updates.length
  epochs : ∀ u ∈ s.updates, u.before.epochOf workspaceId < u.after.epochOf workspaceId
  rows : SameRows (replay t s.updates) s.tables

/-! ## The condition -/

/-- If a founder in force is revoked, and the guard counts other rows, one of these is in force and
held. -/
def PermissionMutation.LeavesFounder (workspaceId : ℕ) (t : AuthorizationTables V) (now : ℤ) :
    PermissionMutation V → Prop
  | .revokeRole assignmentId =>
    (∃ a ∈ t.foundersInForce workspaceId now, a.id = assignmentId) →
      (∃ a ∈ t.founderAssignments workspaceId, a.id ≠ assignmentId) →
        ∃ a ∈ t.founderAssignments workspaceId, a.id ≠ assignmentId ∧ t.isHeld now a
  | _ => True

/-- So it is for every revocation, when its transaction checks it. -/
def AnotherFounder (workspaceId : ℕ) (s : AuthorizationStore V) :
    AuthorizationCall V → AuthorizationAnswers → Prop
  | .mutating tx, answers =>
    ∀ m ∈ tx.rest.head?, m.LeavesFounder workspaceId (tx.view s.tables) answers.now
  | _, _ => True

instance (workspaceId : ℕ) (t : AuthorizationTables V) (now : ℤ) (m : PermissionMutation V) :
    Decidable (m.LeavesFounder workspaceId t now) := by
  unfold PermissionMutation.LeavesFounder
  split <;> infer_instance

instance (workspaceId : ℕ) (s : AuthorizationStore V) (call : AuthorizationCall V)
    (answers : AuthorizationAnswers) : Decidable (AnotherFounder workspaceId s call answers) := by
  unfold AnotherFounder
  split <;> infer_instance

/-- The primary key of the assignments. -/
def AuthorizationTables.Keyed (t : AuthorizationTables V) : Prop :=
  (t.assignments.map (·.id)).Nodup
deriving Decidable

/-! ## The writes on other tables -/

section Rows

variable {t t' : AuthorizationTables V} {workspaceId : ℕ}

theorem SameRows.refl (t : AuthorizationTables V) : SameRows t t := ⟨rfl, rfl, rfl, rfl⟩

theorem SameRows.trans {t'' : AuthorizationTables V} (h : SameRows t t') (h' : SameRows t' t'') :
    SameRows t t'' where
  members := h'.members.trans h.members
  roles := h'.roles.trans h.roles
  rolePermissions := h'.rolePermissions.trans h.rolePermissions
  assignments := h'.assignments.trans h.assignments

theorem SameRows.apply (h : SameRows t t') (write : PolicyWrite V) :
    SameRows (write.apply t) (write.apply t') := by
  cases write with
  | upsertRolePermission =>
    refine ⟨h.members, h.roles, ?_, h.assignments⟩
    show upsertRolePermission t'.rolePermissions _ _ _ _ = upsertRolePermission t.rolePermissions ..
    rw [h.rolePermissions]
  | insertAssignment row =>
    refine ⟨h.members, h.roles, h.rolePermissions, ?_⟩
    show t'.assignments ++ [row] = t.assignments ++ [row]
    rw [h.assignments]
  | deleteAssignment =>
    refine ⟨h.members, h.roles, h.rolePermissions, ?_⟩
    show t'.assignments.filter _ = t.assignments.filter _
    rw [h.assignments]

theorem SameRows.applyAll (h : SameRows t t') (writes : List (PolicyWrite V)) :
    SameRows (applyAll t writes) (applyAll t' writes) := by
  induction writes generalizing t t' with
  | nil => exact h
  | cons write _ ih => exact ih (h.apply write)

theorem SameRows.keyed (h : SameRows t t') (hkeyed : t.Keyed) : t'.Keyed := by
  unfold AuthorizationTables.Keyed
  rw [h.assignments]
  exact hkeyed

theorem SameRows.foundersInForce (h : SameRows t t') (now : ℤ) :
    t'.foundersInForce workspaceId now = t.foundersInForce workspaceId now := by
  unfold AuthorizationTables.foundersInForce AuthorizationTables.founderAssignments
    AuthorizationTables.isHeld AuthorizationTables.isFounder AuthorizationTables.memberOf
  rw [h.assignments, h.roles, h.members]

theorem SameRows.keepsFounder (h : SameRows t t') {write : PolicyWrite V}
    (hkeeps : write.KeepsFounder workspaceId t) : write.KeepsFounder workspaceId t' := by
  cases write with
  | upsertRolePermission | insertAssignment => trivial
  | deleteAssignment =>
    unfold PolicyWrite.KeepsFounder at hkeeps ⊢
    dsimp only at hkeeps ⊢
    rw [h.foundersInForce]
    exact hkeeps

theorem SameRows.keepsFounders (h : SameRows t t') {writes : List (PolicyWrite V)}
    (hkeeps : KeepsFounders workspaceId t writes) : KeepsFounders workspaceId t' writes := by
  induction writes generalizing t t' with
  | nil => trivial
  | cons write _ ih => exact ⟨h.keepsFounder hkeeps.1, ih (h.apply write) hkeeps.2⟩

theorem keepsFounders_append {writes : List (PolicyWrite V)} {write : PolicyWrite V}
    (hkeeps : KeepsFounders workspaceId t writes)
    (hwrite : write.KeepsFounder workspaceId (applyAll t writes)) :
    KeepsFounders workspaceId t (writes ++ [write]) := by
  induction writes generalizing t with
  | nil => exact ⟨hwrite, trivial⟩
  | cons _ _ ih => exact ⟨hkeeps.1, ih hkeeps.2 hwrite⟩

theorem replay_snoc (t : AuthorizationTables V) (updates : List (PolicyUpdate V))
    (u : PolicyUpdate V) : replay t (updates ++ [u]) = applyAll (replay t updates) u.writes := by
  rw [replay, List.foldl_append]
  rfl

theorem KeepsPolicies.sameRows (h : KeepsPolicies t t') : SameRows t t' :=
  ⟨h.members, h.roles, h.rolePermissions, h.assignments⟩

/-! ## The versions -/

theorem le_latest {version : ℤ} (h : ⟨workspaceId, version⟩ ∈ t.policyVersions) :
    version ≤ t.latestPolicyVersion workspaceId := by
  have hmem : version ∈ (t.policyVersions.filter (·.workspaceId = workspaceId)).map (·.version) :=
    List.mem_map_of_mem (List.mem_filter.mpr ⟨h, decide_eq_true rfl⟩)
  unfold AuthorizationTables.latestPolicyVersion
  cases hmax : ((t.policyVersions.filter (·.workspaceId = workspaceId)).map (·.version)).max? with
  | none => exact absurd (List.max?_eq_none_iff.mp hmax) (List.ne_nil_of_mem hmem)
  | some => exact (List.max?_eq_some_iff.mp hmax).2 version hmem

theorem latest_append (h : t'.policyVersions =
      t.policyVersions ++ [⟨workspaceId, t.latestPolicyVersion workspaceId + 1⟩]) :
    t'.latestPolicyVersion workspaceId = t.latestPolicyVersion workspaceId + 1 := by
  have hmax : ((t'.policyVersions.filter (·.workspaceId = workspaceId)).map (·.version)).max? =
      some (t.latestPolicyVersion workspaceId + 1) := by
    rw [h]
    refine List.max?_eq_some_iff.mpr ⟨?_, fun v hv => ?_⟩
    · refine List.mem_map_of_mem (f := PolicyVersion.version) (a := ⟨workspaceId, _⟩) ?_
      have hlast : ⟨workspaceId, t.latestPolicyVersion workspaceId + 1⟩ ∈
          t.policyVersions ++ [⟨workspaceId, t.latestPolicyVersion workspaceId + 1⟩] :=
        List.mem_concat_self
      exact List.mem_filter.mpr ⟨hlast, decide_eq_true rfl⟩
    · obtain ⟨⟨w, v'⟩, hmem, rfl⟩ := List.mem_map.mp hv
      obtain ⟨hmem, hw⟩ := List.mem_filter.mp hmem
      obtain rfl : w = workspaceId := of_decide_eq_true hw
      rcases mem_concat hmem with hmem | hmem
      · have := le_latest hmem
        show v' ≤ _
        omega
      · cases hmem
        exact Int.le_refl _
  rw [AuthorizationTables.latestPolicyVersion, hmax, Option.getD_some]

theorem latest_congr (h : t'.policyVersions = t.policyVersions) :
    t'.latestPolicyVersion workspaceId = t.latestPolicyVersion workspaceId := by
  unfold AuthorizationTables.latestPolicyVersion
  rw [h]

end Rows

/-! ## What the calls rely on -/

/-- The versions after the one read are taken; while there are none, the writes keep a founder. -/
structure PolicyTransaction.Sound (workspaceId : ℕ) (s : AuthorizationStore V)
    (tx : PolicyTransaction V) : Prop where
  read : tx.currentVersion ≤ s.tables.latestPolicyVersion workspaceId
  taken : ∀ version, tx.currentVersion < version →
    version ≤ s.tables.latestPolicyVersion workspaceId →
      ⟨workspaceId, version⟩ ∈ s.tables.policyVersions
  whole : ∃ done, tx.request.mutations = done ++ tx.rest ∧
    List.Forall₂ (PermissionMutation.Writes workspaceId) done tx.writes
  keeps : s.tables.latestPolicyVersion workspaceId = tx.currentVersion →
    KeepsFounders workspaceId s.tables tx.writes

/-- While the version that was read is the last one, the transaction sees a table with its primary
key. -/
structure PolicyTransaction.Sees (workspaceId : ℕ) (s : AuthorizationStore V)
    (tx : PolicyTransaction V) : Prop where
  read : tx.currentVersion ≤ s.tables.latestPolicyVersion workspaceId
  keyed : s.tables.latestPolicyVersion workspaceId = tx.currentVersion → (tx.view s.tables).Keyed

/-- The transaction of a call, with the write that it is about to make. -/
def AuthorizationCall.pending? : AuthorizationCall V → Option (PolicyTransaction V)
  | .mutating tx => some tx
  | .writing tx write => some { tx with writes := tx.writes ++ [write] }
  | _ => none

structure AuthorizationCall.Relies (workspaceId : ℕ) (s : AuthorizationStore V)
    (call : AuthorizationCall V) : Prop where
  row : call.isFounders → (s.tables.states.get? workspaceId).isSome
  pending : ∀ tx ∈ call.pending?, tx.Sound workspaceId s
  current : ∀ tx ∈ call.transaction?, tx.Sees workspaceId s

/-- Versions are only added, each after the latest, and without a new one the rows stay. -/
structure PoliciesGrow (workspaceId : ℕ) (t t' : AuthorizationTables V) : Prop where
  row : (t.states.get? workspaceId).isSome → (t'.states.get? workspaceId).isSome
  latest : t.latestPolicyVersion workspaceId ≤ t'.latestPolicyVersion workspaceId
  kept : ∀ version, ⟨workspaceId, version⟩ ∈ t.policyVersions →
    ⟨workspaceId, version⟩ ∈ t'.policyVersions
  added : ∀ version, t.latestPolicyVersion workspaceId < version →
    version ≤ t'.latestPolicyVersion workspaceId → ⟨workspaceId, version⟩ ∈ t'.policyVersions
  same : t'.latestPolicyVersion workspaceId = t.latestPolicyVersion workspaceId → SameRows t t'

section Relies

variable {workspaceId : ℕ} {t : AuthorizationTables V} {s s' : AuthorizationStore V}

theorem PoliciesGrow.of_same {t' : AuthorizationTables V} (hrows : SameRows t t')
    (hversions : t'.policyVersions = t.policyVersions)
    (hrow : (t.states.get? workspaceId).isSome → (t'.states.get? workspaceId).isSome) :
    PoliciesGrow workspaceId t t' where
  row := hrow
  latest := by
    have hlatest : t'.latestPolicyVersion workspaceId = t.latestPolicyVersion workspaceId :=
      latest_congr hversions
    exact Int.le_of_eq hlatest.symm
  kept version h := by rw [hversions]; exact h
  added version h h' := by
    rw [latest_congr hversions] at h'
    omega
  same _ := hrows

variable {tx : PolicyTransaction V} {call : AuthorizationCall V}

theorem PolicyTransaction.Sound.mono (hgrow : PoliciesGrow workspaceId s.tables s'.tables)
    (h : tx.Sound workspaceId s) :
    tx.Sound workspaceId s' where
  read := Int.le_trans h.read hgrow.latest
  taken version hlt hle := by
    by_cases hold : version ≤ s.tables.latestPolicyVersion workspaceId
    · exact hgrow.kept version (h.taken version hlt hold)
    · exact hgrow.added version (by omega) hle
  whole := h.whole
  keeps hlatest := by
    have hread := h.read
    have hle := hgrow.latest
    have hsame : s'.tables.latestPolicyVersion workspaceId =
        s.tables.latestPolicyVersion workspaceId := by omega
    exact (hgrow.same hsame).keepsFounders (h.keeps (by omega))

theorem PolicyTransaction.Sees.mono (hgrow : PoliciesGrow workspaceId s.tables s'.tables)
    (h : tx.Sees workspaceId s) : tx.Sees workspaceId s' where
  read := Int.le_trans h.read hgrow.latest
  keyed hlatest := by
    have hread := h.read
    have hle := hgrow.latest
    have hsame : s'.tables.latestPolicyVersion workspaceId =
        s.tables.latestPolicyVersion workspaceId := by omega
    exact ((hgrow.same hsame).applyAll tx.writes).keyed (h.keyed (by omega))

theorem AuthorizationCall.Relies.mono (hgrow : PoliciesGrow workspaceId s.tables s'.tables)
    (h : call.Relies workspaceId s) :
    call.Relies workspaceId s' where
  row hfounders := hgrow.row (h.row hfounders)
  pending tx htx := (h.pending tx htx).mono hgrow
  current tx htx := (h.current tx htx).mono hgrow

theorem relies_of_isFree (h : call.isFree) : call.Relies workspaceId s := by
  have hfounders : call.isFounders = false := by
    cases call <;> first | rfl | exact (Bool.not_eq_true' _).mp h
  have hpending : call.pending? = none := by
    cases call <;> first | rfl | nomatch hfounders
  have hcurrent : call.transaction? = none := by
    cases call <;> first | rfl | nomatch hfounders
  refine ⟨fun h => ?_, fun tx htx => ?_, fun tx htx => ?_⟩
  · nomatch hfounders.symm.trans h
  · nomatch hpending.symm.trans htx
  · nomatch hcurrent.symm.trans htx

theorem relies_of_founders (htx : call.transaction? = none)
    (hrow : (s.tables.states.get? workspaceId).isSome) : call.Relies workspaceId s := by
  refine ⟨fun _ => hrow, fun tx hpending => ?_, fun tx hcurrent => nomatch htx.symm.trans hcurrent⟩
  cases call with
  | mutating | writing => nomatch htx
  | _ => nomatch hpending

/-! ## The checks of a mutation -/

theorem writes_of_check {isKnownPermission : String → Bool} {m : PermissionMutation V}
    {now startedAt : ℤ} {newId : String} {write : PolicyWrite V}
    (h : m.check isKnownPermission workspaceId t now newId startedAt = .ok write) :
    m.Writes workspaceId write := by
  cases m with
  | setRolePermission =>
    have h := of_require h
    have h := of_require h
    exact (pure_eq_ok.mp h).symm
  | assignRole =>
    unfold PermissionMutation.check at h
    dsimp only at h
    split at h
    · nomatch h
    · nomatch h
    · have h := of_require h
      exact ⟨newId, startedAt, (pure_eq_ok.mp h).symm⟩
  | revokeRole =>
    unfold PermissionMutation.check at h
    dsimp only at h
    split at h
    · nomatch h
    · have h := of_require h
      exact ⟨now, (pure_eq_ok.mp h).symm⟩

/-- More than one founder row is another one than the row with a given id. -/
theorem exists_other_founder (hkeyed : t.Keyed) (assignmentId : String)
    (h : 1 < (t.founderAssignments workspaceId).length) :
    ∃ a ∈ t.founderAssignments workspaceId, a.id ≠ assignmentId := by
  by_contra hnone
  push Not at hnone
  have hids : (t.founderAssignments workspaceId).map (·.id) =
      List.replicate (t.founderAssignments workspaceId).length assignmentId :=
    List.map_eq_replicate_iff.mpr hnone
  have hnodup : ((t.founderAssignments workspaceId).map (·.id)).Nodup :=
    (List.filter_sublist.map _).nodup hkeyed
  rw [hids, List.nodup_replicate] at hnodup
  omega

theorem keepsFounder_of_check {isKnownPermission : String → Bool} {m : PermissionMutation V}
    {now startedAt : ℤ} {newId : String} {write : PolicyWrite V}
    (h : m.check isKnownPermission workspaceId t now newId startedAt = .ok write)
    (hkeyed : t.Keyed) (hleaves : m.LeavesFounder workspaceId t now) :
    write.KeepsFounder workspaceId t := by
  cases m with
  | setRolePermission | assignRole =>
    have hwrites := writes_of_check h
    cases write with
    | upsertRolePermission | insertAssignment => trivial
    | deleteAssignment => simp [PermissionMutation.Writes] at hwrites
  | revokeRole assignmentId =>
    unfold PermissionMutation.check at h
    dsimp only at h
    split at h
    · nomatch h
    · next assignment hfound =>
      obtain ⟨hcount, h⟩ := require_bind_eq_ok.mp h
      cases h
      intro hlive
      -- The row that was found is the founder in force: the ids are a key.
      obtain ⟨founder, hfounder, hid⟩ := hlive
      obtain ⟨hmem, hisFounder⟩ := List.mem_filter.mp (List.mem_filter.mp hfounder).1
      have hsame : assignment = founder := by
        have hassignment := List.find?_some hfound
        simp only [Bool.and_eq_true, decide_eq_true_eq] at hassignment
        exact List.inj_on_of_nodup_map hkeyed (List.mem_of_find?_eq_some hfound) hmem
          (hassignment.1.1.trans hid.symm)
      have hothers := hcount (hsame ▸ (Bool.and_eq_true_iff.mp hisFounder).2)
      obtain ⟨a, ha, hne, hheld⟩ :=
        hleaves ⟨founder, hfounder, hid⟩ (exists_other_founder hkeyed assignmentId hothers)
      exact ⟨a, List.mem_filter.mpr ⟨ha, hheld⟩, hne⟩

theorem keyed_of_admissible {write : PolicyWrite V} (hkeyed : t.Keyed)
    (h : write.admissible t) : (write.apply t).Keyed := by
  cases write with
  | upsertRolePermission => exact hkeyed
  | insertAssignment row =>
    obtain ⟨-, hnew⟩ := Bool.and_eq_true_iff.mp h
    have hnew : ∀ a ∈ t.assignments, a.id ≠ row.id := by simpa using hnew
    show ((t.assignments ++ [row]).map (·.id)).Nodup
    rw [List.map_append, List.map_singleton, List.nodup_append]
    refine ⟨hkeyed, List.nodup_singleton _, fun id hid id' hid' => ?_⟩
    obtain ⟨a, ha, rfl⟩ := List.mem_map.mp hid
    rw [List.mem_singleton.mp hid']
    exact hnew a ha
  | deleteAssignment => exact (List.filter_sublist.map _).nodup hkeyed

/-- A mutation that passes its check joins the transaction with its write. -/
theorem PolicyTransaction.Sound.checked {isKnownPermission : String → Bool}
    {m : PermissionMutation V} {rest : List (PermissionMutation V)} {write : PolicyWrite V}
    {now startedAt : ℤ} {newId : String} (h : tx.Sound workspaceId s)
    (hsees : tx.Sees workspaceId s) (hrest : tx.rest = m :: rest)
    (hcheck : m.check isKnownPermission workspaceId (tx.view s.tables) now newId startedAt =
      .ok write)
    (hleaves : m.LeavesFounder workspaceId (tx.view s.tables) now) :
    PolicyTransaction.Sound workspaceId s { tx with rest, writes := tx.writes ++ [write] } := by
  obtain ⟨done, hdone, hwrites⟩ := h.whole
  refine ⟨h.read, h.taken, ⟨done ++ [m], ?_, ?_⟩, fun hlatest => ?_⟩
  · rw [hdone, hrest, List.append_assoc]
    rfl
  · exact List.rel_append hwrites (.cons (writes_of_check hcheck) .nil)
  · exact keepsFounders_append (h.keeps hlatest)
      (keepsFounder_of_check hcheck (hsees.keyed hlatest) hleaves)

theorem PolicyTransaction.Sees.wrote {write : PolicyWrite V} (h : tx.Sees workspaceId s)
    (hadmissible : write.admissible (tx.view s.tables)) :
    PolicyTransaction.Sees workspaceId s { tx with writes := tx.writes ++ [write] } where
  read := h.read
  keyed hlatest := by
    rw [PolicyTransaction.view, applyAll, List.foldl_append]
    exact keyed_of_admissible (h.keyed hlatest) hadmissible

/-! ## The commit -/

/-- Of two updates that have read the same version the second fails. -/
theorem version_of_commit (hsound : tx.Sound workspaceId s)
    (hnew : ⟨workspaceId, tx.currentVersion + 1⟩ ∉ s.tables.policyVersions) :
    s.tables.latestPolicyVersion workspaceId = tx.currentVersion := by
  have hread := hsound.read
  by_contra hne
  exact hnew (hsound.taken _ (by omega) (by omega))

theorem sameRows_committed (tx : PolicyTransaction V) (policyVersions : List PolicyVersion) :
    SameRows (applyAll s.tables tx.writes)
      (s.change workspaceId { tx.view s.tables with policyVersions }).tables :=
  ⟨rfl, rfl, rfl, rfl⟩

theorem policyVersions_view (tx : PolicyTransaction V) (t : AuthorizationTables V) :
    (tx.view t).policyVersions = t.policyVersions := by
  obtain ⟨rolePermissions, assignments, h⟩ := applyAll_eq t tx.writes
  rw [PolicyTransaction.view, h]

/-- What a commit does. -/
structure Committed (workspaceId : ℕ) (tx : PolicyTransaction V) (s s' : AuthorizationStore V) :
    Prop where
  update : s'.updates = s.updates ++
    [⟨tx.request, tx.writes, tx.currentVersion + 1, s.tables, s'.tables⟩]
  version : s.tables.latestPolicyVersion workspaceId = tx.currentVersion
  latest : s'.tables.latestPolicyVersion workspaceId =
    s.tables.latestPolicyVersion workspaceId + 1
  versions : s'.tables.policyVersions = s.tables.policyVersions ++
    [⟨workspaceId, s.tables.latestPolicyVersion workspaceId + 1⟩]
  rows : SameRows (applyAll s.tables tx.writes) s'.tables
  epoch : s'.tables.epochOf workspaceId = s.tables.epochOf workspaceId + 1
  row : (s'.tables.states.get? workspaceId).isSome

theorem committed_of_commit (hsound : tx.Sound workspaceId s)
    (hrow : (s.tables.states.get? workspaceId).isSome) (hs : tx.commit workspaceId s = .ok s') :
    Committed workspaceId tx s s' := by
  obtain ⟨hnew, hs⟩ := require_bind_eq_ok.mp hs
  cases hs
  have hversion := version_of_commit hsound hnew
  have hstates : ((tx.view s.tables).states.get? workspaceId).isSome := by
    rw [states_view]
    exact hrow
  have hversions : (tx.view s.tables).policyVersions ++ [⟨workspaceId, tx.currentVersion + 1⟩] =
      s.tables.policyVersions ++ [⟨workspaceId, s.tables.latestPolicyVersion workspaceId + 1⟩] := by
    rw [policyVersions_view, hversion]
  refine ⟨rfl, hversion, latest_append hversions, hversions, sameRows_committed tx _, ?_, ?_⟩
  · exact (epochOf_advance hstates).trans (congrArg (· + 1) (epochOf_congr (states_view tx s.tables)))
  · exact isSome_advance hstates

namespace Committed

variable {tx : PolicyTransaction V} (h : Committed workspaceId tx s s')

include h

theorem grow : PoliciesGrow workspaceId s.tables s'.tables where
  row _ := h.row
  latest := by
    rw [h.latest]
    omega
  kept version hversion := by
    rw [h.versions]
    exact List.mem_append_left _ hversion
  added version hlt hle := by
    rw [h.latest] at hle
    obtain rfl : version = s.tables.latestPolicyVersion workspaceId + 1 := by omega
    rw [h.versions]
    exact List.mem_concat_self
  same hlatest := by
    rw [h.latest] at hlatest
    omega

theorem law (hrest : tx.rest = []) (hsound : tx.Sound workspaceId s)
    (hs : UpdateLaw workspaceId t s) : UpdateLaw workspaceId t s' := by
  obtain ⟨done, hdone, hwrites⟩ := hsound.whole
  rw [hrest, List.append_nil] at hdone
  refine ⟨fun u hu => ?_, fun u hu => ?_, fun i u hu => ?_, ?_, fun u hu => ?_, ?_⟩
  · rw [h.update] at hu
    rcases mem_concat hu with hu | rfl
    · exact hs.founders u hu
    · exact hsound.keeps h.version
  · rw [h.update] at hu
    rcases mem_concat hu with hu | rfl
    · exact hs.whole u hu
    · exact hdone ▸ hwrites
  · rw [h.update, List.getElem?_append] at hu
    split_ifs at hu with hi
    · exact hs.versions i u hu
    · obtain ⟨hi', rfl⟩ := List.getElem?_eq_some_iff.mp hu
      rw [List.length_singleton] at hi'
      have hlatest := hs.latest
      have hversion := h.version
      rw [List.getElem_singleton]
      show tx.currentVersion + 1 = _
      omega
  · have hlatest := hs.latest
    rw [h.latest, h.update, List.length_append, List.length_singleton]
    push_cast
    omega
  · rw [h.update] at hu
    rcases mem_concat hu with hu | rfl
    · exact hs.epochs u hu
    · have := h.epoch
      show s.tables.epochOf workspaceId < s'.tables.epochOf workspaceId
      omega
  · rw [h.update, replay_snoc]
    exact (hs.rows.applyAll tx.writes).trans h.rows

end Committed

theorem UpdateLaw.of_same (h : UpdateLaw workspaceId t s) (hupdates : s'.updates = s.updates)
    (hrows : SameRows s.tables s'.tables)
    (hversions : s'.tables.policyVersions = s.tables.policyVersions) :
    UpdateLaw workspaceId t s' where
  founders := by
    rw [hupdates]
    exact h.founders
  whole := by
    rw [hupdates]
    exact h.whole
  versions := by
    rw [hupdates]
    exact h.versions
  latest := by
    rw [hupdates, latest_congr hversions]
    exact h.latest
  epochs := by
    rw [hupdates]
    exact h.epochs
  rows := by
    rw [hupdates]
    exact h.rows.trans hrows

/-- The law, and the primary key of the assignments. -/
structure UpdateInv (workspaceId : ℕ) (t : AuthorizationTables V) (s : AuthorizationStore V) :
    Prop extends UpdateLaw workspaceId t s where
  keyed : s.tables.Keyed

theorem kept_of_same (h : UpdateInv workspaceId t s) (hupdates : s'.updates = s.updates)
    (hrows : SameRows s.tables s'.tables)
    (hversions : s'.tables.policyVersions = s.tables.policyVersions)
    (hrow : (s.tables.states.get? workspaceId).isSome →
      (s'.tables.states.get? workspaceId).isSome) :
    UpdateInv workspaceId t s' ∧
      ∀ call : AuthorizationCall V, call.Relies workspaceId s → call.Relies workspaceId s' :=
  ⟨⟨h.of_same hupdates hrows hversions, hrows.keyed h.keyed⟩,
    fun _ hcall => hcall.mono (.of_same hrows hversions hrow)⟩

theorem sameRows_withState : SameRows t (t.withState workspaceId) := by
  obtain ⟨states, h⟩ : ∃ states, t.withState workspaceId = { t with states } := withState_eq
  rw [h]
  exact ⟨rfl, rfl, rfl, rfl⟩

theorem policyVersions_withState :
    (t.withState workspaceId).policyVersions = t.policyVersions := by
  obtain ⟨states, h⟩ : ∃ states, t.withState workspaceId = { t with states } := withState_eq
  rw [h]

end Relies

variable [JsValue V] {isKnownPermission : String → Bool} {workspaceId : ℕ}
  {t : AuthorizationTables V}

theorem updateRule : (authorization (V := V) isKnownPermission workspaceId).Rule
    (AnotherFounder workspaceId) (UpdateInv workspaceId t)
    (fun s call => call.Relies workspaceId s) where
  start s req hs := by
    cases req <;> exact relies_of_isFree rfl
  step s call answers s' call' hs hcall hanother hstep := by
    cases moved_of_step hstep with
    | ended => exact ⟨hs, fun _ hd => hd, fun _ he => nomatch he⟩
    | read _ _ _ hfree =>
      refine ⟨hs, fun _ hd => hd, fun e he => ?_⟩
      cases he
      exact relies_of_isFree hfree
    | readAsFounder _ _ _ hfounders hd htx =>
      refine ⟨hs, fun _ hd => hd, fun e he => ?_⟩
      cases he
      exact relies_of_founders htx (hcall.row hfounders)
    | epochRead =>
      refine ⟨hs, fun _ hd => hd, fun e he => ?_⟩
      cases he
      exact ⟨fun hfounders => (nomatch hfounders), fun tx htx => (nomatch htx),
        fun tx htx => (nomatch htx)⟩
    | inserted | spent =>
      exact and_assoc.mp ⟨kept_of_same hs rfl ⟨rfl, rfl, rfl, rfl⟩ rfl id, fun _ he => nomatch he⟩
    | locked _ _ _ _ hfree =>
      refine and_assoc.mp ⟨kept_of_same hs rfl ⟨rfl, rfl, rfl, rfl⟩ rfl id, fun e he => ?_⟩
      cases he
      exact relies_of_isFree hfree
    | admitted _ _ _ _ _ _ _ htx =>
      refine and_assoc.mp ⟨kept_of_same hs rfl sameRows_withState policyVersions_withState
        fun _ => isSome_withState, fun e he => ?_⟩
      cases he
      exact relies_of_founders htx isSome_withState
    | refused =>
      exact and_assoc.mp ⟨kept_of_same hs rfl sameRows_withState policyVersions_withState
        fun _ => isSome_withState, fun _ he => nomatch he⟩
    | changedGrants _ _ tables hfounders hkeeps =>
      have hrow : (tables.states.get? workspaceId).isSome := hkeeps.states ▸ hcall.row hfounders
      have hrows := hkeeps.sameRows
      exact and_assoc.mp ⟨kept_of_same hs rfl
        ⟨hrows.members, hrows.roles, hrows.rolePermissions, hrows.assignments⟩
        hkeeps.policyVersions fun _ => isSome_advance hrow, fun _ he => nomatch he⟩
    | began =>
      refine ⟨hs, fun _ hd => hd, fun e he => ?_⟩
      cases he
      refine ⟨fun _ => hcall.row rfl, fun tx htx => ?_, fun tx htx => ?_⟩
      · cases htx
        exact ⟨Int.le_refl _, fun version hlt hle => absurd (Int.lt_of_lt_of_le hlt hle)
          (Int.lt_irrefl _), ⟨[], rfl, .nil⟩, fun _ => trivial⟩
      · cases htx
        exact ⟨Int.le_refl _, fun _ => hs.keyed⟩
    | checked tx answers m _ _ hrest hcheck =>
      refine ⟨hs, fun _ hd => hd, fun e he => ?_⟩
      cases he
      have hsees := hcall.current tx rfl
      refine ⟨fun _ => hcall.row rfl, fun tx' htx => ?_, fun tx' htx => ?_⟩
      · cases htx
        exact (hcall.pending tx rfl).checked hsees hrest hcheck (hanother m (by rw [hrest]; rfl))
      · cases htx
        exact ⟨hsees.read, hsees.keyed⟩
    | wrote tx _ _ hadmissible =>
      refine ⟨hs, fun _ hd => hd, fun e he => ?_⟩
      cases he
      refine ⟨fun _ => hcall.row rfl, fun tx' htx => ?_, fun tx' htx => ?_⟩
      · cases htx
        exact hcall.pending _ rfl
      · cases htx
        exact (hcall.current tx rfl).wrote hadmissible
    | committed tx _ _ hrest hcommit =>
      have hsound := hcall.pending tx rfl
      have hcommitted := committed_of_commit hsound (hcall.row rfl) hcommit
      have hkeyed := (hcall.current tx rfl).keyed hcommitted.version
      exact ⟨⟨hcommitted.law hrest hsound hs.toUpdateLaw, hcommitted.rows.keyed hkeyed⟩,
        fun _ hd => hd.mono hcommitted.grow, fun _ he => nomatch he⟩
  abort s call hs hcall := by
    cases call with
    | spending => exact kept_of_same hs rfl ⟨rfl, rfl, rfl, rfl⟩ rfl id
    | _ => exact ⟨hs, fun _ hd => hd⟩

omit [JsValue V] in
theorem updateLaw_start (t : AuthorizationTables V) : UpdateLaw workspaceId t { tables := t } where
  founders := nofun
  whole := nofun
  versions := nofun
  latest := (Int.add_zero _).symm
  epochs := nofun
  rows := .refl t

/-- The law, in every run in which each revocation that counts other founder rows leaves one in
force. -/
theorem updateLaw_along (isKnownPermission : String → Bool) (workspaceId : ℕ)
    (t : AuthorizationTables V) (ls : List (CallLabel (AuthorizationRequest V) AuthorizationAnswers))
    (s : InFlight (AuthorizationStore V) (AuthorizationCall V)) (hkeyed : t.Keyed)
    (hs : (authorization isKnownPermission workspaceId).system.run ⟨{ tables := t }, []⟩ ls = some s)
    (hanother : (authorization isKnownPermission workspaceId).system.Along
      (Service.Meets (AnotherFounder workspaceId)) ⟨{ tables := t }, []⟩ ls) :
    UpdateLaw workspaceId t s.store :=
  (updateRule.inv_of_along (.of_empty ⟨updateLaw_start t, hkeyed⟩) hanother hs).store.toUpdateLaw

end

/-! ## Two founders -/

/-- Two founders, of whom the second is one only before `until`. -/
def foundersOffice (validUntil : Option ℤ) : AuthorizationTables ℤ where
  members := Dict.update ∅ [(1, { workspaceId := 1, memberType := "HUMAN" }),
    (2, { workspaceId := 1, memberType := "HUMAN" })]
  roles := Dict.update ∅ [
    ("chief", { workspaceId := 1, roleKey := "founder", name := "Founder" }),
    ("clerk", { workspaceId := 1, roleKey := "clerk", name := "Clerk" })]
  assignments := [
    { id := "a1", workspaceId := 1, workforceMemberId := 1, roleId := "chief", validFrom := 0 },
    { id := "a2", workspaceId := 1, workforceMemberId := 2, roleId := "chief", validFrom := 0
      validUntil }]

def officeCalls :
    Service (AuthorizationRequest ℤ) (AuthorizationStore ℤ) (AuthorizationCall ℤ)
      AuthorizationAnswers :=
  authorization (fun key => key = "finance.pay") 1

def officeSteps (i n : ℕ) : List (CallLabel (AuthorizationRequest ℤ) AuthorizationAnswers) :=
  List.replicate n (.step i { now := 10, newId := "a3" })

def updateRoles (expectedVersion : ℤ) (mutations : List (PermissionMutation ℤ)) :
    CallLabel (AuthorizationRequest ℤ) AuthorizationAnswers :=
  .start (.byFounder { workforceMemberId := some 1 } (.update { expectedVersion, mutations }))

/-- Two updates read the same version, and each revokes the other founder; then a third one. -/
def twoUpdates : List (CallLabel (AuthorizationRequest ℤ) AuthorizationAnswers) :=
  [updateRoles 1 [.revokeRole "a2", .setRolePermission "clerk" "finance.pay" .allow none],
    updateRoles 1 [.revokeRole "a1"]] ++
  officeSteps 0 4 ++ officeSteps 1 6 ++ officeSteps 0 5 ++ officeSteps 1 1 ++
  [updateRoles 2 [.assignRole 2 "clerk" none none (some 20)]] ++ officeSteps 2 7

def updatedOffice : InFlight (AuthorizationStore ℤ) (AuthorizationCall ℤ) :=
  (officeCalls.system.run ⟨{ tables := foundersOffice none }, []⟩ twoUpdates).get
    (by decide +kernel)

theorem updateLaw_along_twoUpdates : updatedOffice.store.updates.map (·.version) = [2, 3] ∧
    UpdateLaw 1 (foundersOffice none) updatedOffice.store :=
  ⟨by decide +kernel, updateLaw_along (fun key => key = "finance.pay") 1 (foundersOffice none)
    twoUpdates updatedOffice (by decide) (Option.some_get _).symm (by decide +kernel)⟩

/-- The first founder is revoked after the second has expired. -/
def revokeFirst : List (CallLabel (AuthorizationRequest ℤ) AuthorizationAnswers) :=
  [updateRoles 1 [.revokeRole "a1"]] ++ officeSteps 0 7

def headlessOffice : InFlight (AuthorizationStore ℤ) (AuthorizationCall ℤ) :=
  (officeCalls.system.run ⟨{ tables := foundersOffice (some 5) }, []⟩ revokeFirst).get
    (by decide +kernel)

theorem not_updateLaw_expired :
    officeCalls.system.run ⟨{ tables := foundersOffice (some 5) }, []⟩ revokeFirst =
        some headlessOffice ∧
      headlessOffice.store.tables.foundersInForce 1 10 = [] ∧
      ¬ UpdateLaw 1 (foundersOffice (some 5)) headlessOffice.store := by
  refine ⟨(Option.some_get _).symm, by decide +kernel, fun h => ?_⟩
  have hne : headlessOffice.store.updates ≠ [] := by decide +kernel
  obtain ⟨u, hu⟩ := List.exists_mem_of_ne_nil _ hne
  have hwrites : ∀ u ∈ headlessOffice.store.updates, u.writes = [.deleteAssignment "a1" 10] ∧
      (∃ a ∈ u.before.foundersInForce 1 10, a.id = "a1") ∧
      ∀ a ∈ u.before.foundersInForce 1 10, a.id = "a1" := by decide +kernel
  obtain ⟨hdelete, hlive, honly⟩ := hwrites u hu
  have hkeeps := h.founders u hu
  rw [hdelete] at hkeeps
  obtain ⟨a, ha, hother⟩ := hkeeps.1 hlive
  exact hother (honly a ha)

end JavisSaas.Company.Identity
