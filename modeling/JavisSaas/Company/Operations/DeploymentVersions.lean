import JavisSaas.Company.Operations.AssetDeployments

/-!
# Versions and grants of deployments

What holds of deployments and pauses in every interleaving, as long as a transaction writes the row
that it has read.

* `deploymentLaw_along`: every change raises the version by one and has one event, no pause is
  undone unread, and a paused agent keeps no grant of its deployment.
* `not_deploymentLaw_overtaken`: a pause and a redeployment that have read the same row.
-/

namespace JavisSaas.Company.Operations

open JavisSaas.Lib

variable {J : Type} {s s' : DeploymentStore J} {key : DeploymentKey}
  {row row' : ProjectDeployment J} {a : DeployAnswers} {command : String}

/-! ## The laws -/

/-- How many events there are for the deployment. -/
def DeploymentStore.changes (s : DeploymentStore J) (kind : DeploymentKind) (id : ℕ) : ℕ :=
  s.events.countP fun e => e.kind = kind ∧ e.deploymentId = id

structure DeploymentLaw (s : DeploymentStore J) : Prop where
  versions : ∀ key row, s.deployments.get? key = some row →
    s.changes key.target.kind row.id = row.version
  released : ∀ key row, s.deployments.get? key = some row → row.state = .paused →
    ∀ g ∈ s.grants, g.deployment = some key → g.active = false

def DeployCall.expectedVersion : DeployCall J → Option ℕ
  | .writing input .. => input.expectedVersion
  | .pausing input .. => some input.expectedVersion
  | _ => none

/-- The deployment that the call has read. -/
def DeployCall.read : DeployCall J → Option (ProjectDeployment J)
  | .writing _ _ existing => existing
  | .pausing _ _ row => some row
  | _ => none

/-- By one version, the expected one, with one event; a pause only of what was read. -/
structure Changes (s : DeploymentStore J) (call : DeployCall J) (s' : DeploymentStore J)
    (key : DeploymentKey) (row' : ProjectDeployment J) : Prop where
  deployments : s'.deployments = s.deployments.set key row'
  events : ∃ command, s'.events =
    s.events ++ [⟨key.workspaceId, key.projectId, command, key.target.kind, row'.id⟩]
  version : row'.version = (s.deployments.get? key).elim 0 (·.version) + 1
  expected : ∀ row ∈ s.deployments.get? key, ∀ v ∈ call.expectedVersion, row.version = v
  resumed : ∀ row ∈ s.deployments.get? key, row.state = .paused → row'.state = .active →
    call.read = some row

/-! ## The invariant -/

variable {id : ℕ} {g : ProfileGrant} {grants : List ProfileGrant} {input : DeployInput J}

theorem taken_iff {kind : DeploymentKind} :
    s.Taken kind id ↔
      ∃ key row, s.deployments.get? key = some row ∧ key.target.kind = kind ∧ row.id = id := by
  constructor
  · rintro ⟨⟨key, row⟩, hmem, hkind, hid⟩
    exact ⟨key, row, Dict.get?_eq_some.mpr hmem, hkind, hid⟩
  · rintro ⟨key, row, hrow, hkind, hid⟩
    exact ⟨(key, row), Dict.get?_eq_some.mp hrow, hkind, hid⟩

structure VersionInv (s : DeploymentStore J) : Prop where
  versions : ∀ key row, s.deployments.get? key = some row →
    s.changes key.target.kind row.id = row.version
  events : ∀ e ∈ s.events, s.Taken e.kind e.deploymentId
  ids : ∀ key row key' row', s.deployments.get? key = some row → s.deployments.get? key' = some row' →
    key.target.kind = key'.target.kind → row.id = row'.id → key = key'

/-- The next row of a deployment: the first, under a new id, or the next version. -/
def Next (s : DeploymentStore J) (key : DeploymentKey) (row' : ProjectDeployment J) : Prop :=
  s.deployments.get? key = none ∧ ¬ s.Taken key.target.kind row'.id ∧ row'.version = 1 ∨
    ∃ row, s.deployments.get? key = some row ∧ row'.id = row.id ∧ row'.version = row.version + 1

theorem changes_put (kind : DeploymentKind) (id : ℕ) :
    (s.put key row command).changes kind id =
      s.changes kind id + if key.target.kind = kind ∧ row.id = id then 1 else 0 := by
  show List.countP _ (s.events ++ [_]) = _
  rw [List.countP_append, List.countP_singleton]
  simp only [decide_eq_true_eq, DeploymentStore.changes]

theorem VersionInv.changes_of_not_taken (h : VersionInv s) {kind : DeploymentKind}
    (hnot : ¬ s.Taken kind id) : s.changes kind id = 0 := by
  refine List.countP_eq_zero.mpr fun e he => ?_
  rw [decide_eq_true_eq]
  rintro ⟨rfl, rfl⟩
  exact hnot (h.events e he)

/-- The id of the next row is that of no other deployment of the kind. -/
theorem VersionInv.key_of_next (h : VersionInv s) (hnext : Next s key row')
    {key₁ : DeploymentKey} {row₁ : ProjectDeployment J}
    (hrow₁ : s.deployments.get? key₁ = some row₁) (hkind : key.target.kind = key₁.target.kind)
    (hid : row'.id = row₁.id) : key = key₁ := by
  rcases hnext with ⟨-, hnot, -⟩ | ⟨row, hrow, hsame, -⟩
  · exact absurd (taken_iff.mpr ⟨key₁, row₁, hrow₁, hkind.symm, hid.symm⟩) hnot
  · exact h.ids key row key₁ row₁ hrow hrow₁ hkind (hsame.symm.trans hid)

theorem VersionInv.put (h : VersionInv s) (hnext : Next s key row') :
    VersionInv (s.put key row' command) where
  versions key₁ row₁ hrow₁ := by
    rw [changes_put]
    replace hrow₁ : (s.deployments.set key row').get? key₁ = some row₁ := hrow₁
    rw [Dict.get?_set] at hrow₁
    split_ifs at hrow₁ with hkey
    · cases hrow₁
      subst hkey
      rw [if_pos ⟨rfl, rfl⟩]
      rcases hnext with ⟨-, hnot, hversion⟩ | ⟨row, hrow, hid, hversion⟩
      · rw [h.changes_of_not_taken hnot, hversion]
      · rw [hid, h.versions key row hrow, hversion]
    · rw [if_neg fun hsame => hkey (h.key_of_next hnext hrow₁ hsame.1 hsame.2)]
      exact h.versions key₁ row₁ hrow₁
  events e he := by
    rw [taken_iff]
    rcases mem_concat he with he | rfl
    · obtain ⟨key₁, row₁, hrow₁, hkind, hid⟩ := taken_iff.mp (h.events e he)
      by_cases hkey : key = key₁
      · subst hkey
        refine ⟨key, row', Dict.get?_set_self _ _ _, hkind, ?_⟩
        rcases hnext with ⟨hnone, -⟩ | ⟨row, hrow, hsame, -⟩
        · nomatch hnone.symm.trans hrow₁
        · cases hrow.symm.trans hrow₁
          exact hsame.trans hid
      · exact ⟨key₁, row₁, (Dict.get?_set_of_ne _ hkey _).trans hrow₁, hkind, hid⟩
    · exact ⟨key, row', Dict.get?_set_self _ _ _, rfl, rfl⟩
  ids key₁ row₁ key₂ row₂ hrow₁ hrow₂ hkind hid := by
    replace hrow₁ : (s.deployments.set key row').get? key₁ = some row₁ := hrow₁
    replace hrow₂ : (s.deployments.set key row').get? key₂ = some row₂ := hrow₂
    rw [Dict.get?_set] at hrow₁ hrow₂
    split_ifs at hrow₁ with hkey₁
    · cases hrow₁
      subst hkey₁
      split_ifs at hrow₂ with hkey₂
      · exact hkey₂
      · exact h.key_of_next hnext hrow₂ hkind hid
    · split_ifs at hrow₂ with hkey₂
      · cases hrow₂
        subst hkey₂
        exact (h.key_of_next hnext hrow₁ hkind.symm hid.symm).symm
      · exact h.ids key₁ row₁ key₂ row₂ hrow₁ hrow₂ hkind hid

/-! ### Grants -/

/-- To the member of a clone, in its project, for a capability of the profile. -/
structure Given (s : DeploymentStore J) (key : DeploymentKey) (g : ProfileGrant) : Prop where
  deployment : g.deployment = some key
  agent : ∃ id agent, key.target = .agent id ∧ s.agents.get? id = some agent ∧
    agent.workspaceId = key.workspaceId ∧ agent.originKind = workspaceCloneOrigin ∧
      g.IsOf key.workspaceId key.projectId agent.workforceMemberId
  capability : g.capabilityId ∈ agentProfileGrantedCapabilities g.profileKey

structure GrantInv (s : DeploymentStore J) : Prop where
  given : ∀ g ∈ s.grants, ∀ key ∈ g.deployment, Given s key g
  released : ∀ key row, s.deployments.get? key = some row → row.state = .paused →
    ∀ g ∈ s.grants, g.deployment = some key → g.active = false

/-- The receipt names the profile under which the deployment gave the grants that are in force. -/
def NamesProfile (s : DeploymentStore J) (key : DeploymentKey)
    (manifest : Option AgentPublishManifest) : Prop :=
  ∀ g ∈ s.grants, g.deployment = some key → g.active →
    manifest.map (·.originProfileKey) = some g.profileKey
deriving Decidable

theorem Given.mono (h : Given s key g) (hagents : s'.agents = s.agents) : Given s' key g :=
  ⟨h.deployment, hagents ▸ h.agent, h.capability⟩

theorem given_of_profileGrants {agent : WorkspaceAgent} {manifest : AgentPublishManifest}
    (htarget : key.target = .agent id) (hagent : s.agents.get? id = some agent)
    (hworkspace : agent.workspaceId = key.workspaceId)
    (hclone : agent.originKind = workspaceCloneOrigin)
    (hg : g ∈ s.profileGrants key agent.workforceMemberId manifest) : Given s key g := by
  obtain ⟨c, hc, rfl⟩ := List.mem_map.mp hg
  refine ⟨rfl, ⟨id, agent, htarget, hagent, hworkspace, hclone, rfl, rfl, rfl⟩, ?_⟩
  exact (List.mem_filter.mp (List.mem_filter.mp hc).1).1

theorem revokeOfPause_frame (s : DeploymentStore J) (key : DeploymentKey) (a : DeployAnswers) :
    (revokeOfPause s key a).deployments = s.deployments ∧
      (revokeOfPause s key a).events = s.events ∧ (revokeOfPause s key a).agents = s.agents := by
  unfold revokeOfPause
  split
  · split <;> exact ⟨rfl, rfl, rfl⟩
  · exact ⟨rfl, rfl, rfl⟩

theorem mem_revokeOfPause (h : g ∈ (revokeOfPause s key a).grants) :
    ∃ g₀ ∈ s.grants, g = g₀ ∨ g = { g₀ with active := false } := by
  unfold revokeOfPause at h
  split at h
  · split at h
    · obtain ⟨g₀, hg₀, rfl⟩ := List.mem_map.mp h
      refine ⟨g₀, hg₀, ?_⟩
      split_ifs
      · exact .inr rfl
      · exact .inl rfl
    · exact ⟨g, h, .inl rfl⟩
  · exact ⟨g, h, .inl rfl⟩

/-- A pause revokes the grants of the deployment, if its receipt names their profile. -/
theorem released_revokeOfPause (hgrants : GrantInv s) (hnames : NamesProfile s key a.manifest)
    {g : ProfileGrant} (hg : g ∈ (revokeOfPause s key a).grants)
    (hkey : g.deployment = some key) : g.active = false := by
  obtain ⟨g₀, hg₀, hsame⟩ := mem_revokeOfPause hg
  rcases hsame with rfl | rfl
  · by_contra hactive
    rw [Bool.not_eq_false] at hactive
    obtain ⟨-, ⟨id, agent, htarget, hagent, hworkspace, hclone, hof⟩, hcapability⟩ :=
      hgrants.given g hg₀ key hkey
    obtain ⟨manifest, hmanifest, hprofile⟩ :=
      Option.map_eq_some_iff.mp (hnames g hg₀ hkey hactive)
    have hfound : (s.agents.get? id).filter (fun agent => agent.workspaceId = key.workspaceId ∧
        agent.originKind = workspaceCloneOrigin) = some agent := by
      rw [hagent, Option.filter_some, if_pos (by simp [hworkspace, hclone])]
    unfold revokeOfPause at hg
    rw [htarget] at hg
    dsimp only at hg
    rw [hfound, hmanifest] at hg
    obtain ⟨g₁, -, heq⟩ := List.mem_map.mp hg
    split_ifs at heq with hrevoked
    · exact absurd (heq ▸ hactive : ({ g₁ with active := false } : ProfileGrant).active = true)
        Bool.false_ne_true
    · exact hrevoked (heq ▸ ⟨hof, hprofile ▸ hcapability⟩)
  · rfl

theorem GrantInv.pause (h : GrantInv s) (hnames : NamesProfile s key a.manifest) :
    GrantInv ((revokeOfPause s key a).put key row command) := by
  obtain ⟨hdeployments, -, hagents⟩ := revokeOfPause_frame s key a
  constructor
  · intro g hg key' hkey'
    obtain ⟨g₀, hg₀, rfl | rfl⟩ := mem_revokeOfPause hg
    · exact (h.given g hg₀ key' hkey').mono hagents
    · obtain ⟨hdeployment, hagent, hcapability⟩ := h.given g₀ hg₀ key' hkey'
      exact ⟨hdeployment, hagents ▸ hagent, hcapability⟩
  · intro key' row' hrow' hpaused g hg hkey'
    by_cases hkey : key = key'
    · subst hkey
      exact released_revokeOfPause h hnames hg hkey'
    · replace hrow' : ((revokeOfPause s key a).deployments.set key row).get? key' = some row' := hrow'
      rw [hdeployments, Dict.get?_set_of_ne _ hkey] at hrow'
      obtain ⟨g₀, hg₀, rfl | rfl⟩ := mem_revokeOfPause hg
      · exact h.released key' row' hrow' hpaused g hg₀ hkey'
      · rfl

theorem GrantInv.deploy (h : GrantInv s) (hgrants : ∀ g ∈ grants, Given s key g)
    (hactive : row.state = .active) :
    GrantInv { s.put key row command with grants := s.grants ++ grants } := by
  constructor
  · intro g hg key' hkey'
    rcases List.mem_append.mp hg with hg | hg
    · exact (h.given g hg key' hkey').mono rfl
    · cases (hgrants g hg).deployment.symm.trans hkey'
      exact (hgrants g hg).mono rfl
  · intro key' row' hrow' hpaused g hg hkey'
    replace hrow' : (s.deployments.set key row).get? key' = some row' := hrow'
    rw [Dict.get?_set] at hrow'
    split_ifs at hrow' with hkey
    · cases hrow'
      nomatch hactive.symm.trans hpaused
    · rcases List.mem_append.mp hg with hg | hg
      · exact h.released key' row' hrow' hpaused g hg hkey'
      · exact absurd (Option.some.inj ((hgrants g hg).deployment.symm.trans hkey')) hkey

/-! ## Steps -/

/-- A transaction writes the row that it has read; a pause finds the profile of the grants in force. -/
def NotOvertaken (s : DeploymentStore J) : DeployCall J → DeployAnswers → Prop
  | .writing input _ (some row), _ => s.deployments.get? input.key = some row
  | .pausing _ key row, a =>
    s.deployments.get? key = some row ∧ NamesProfile s key a.manifest
  | _, _ => True

instance [DecidableEq J] (s : DeploymentStore J) (call : DeployCall J) (a : DeployAnswers) :
    Decidable (NotOvertaken s call a) :=
  match call with
  | .writing input _ (some row) =>
    show Decidable (s.deployments.get? input.key = some row) from inferInstance
  | .pausing _ key row =>
    show Decidable (s.deployments.get? key = some row ∧ NamesProfile s key a.manifest) from
      inferInstance
  | .writing _ _ none => instDecidableTrue
  | .checking .. | .linking .. | .reading .. | .readingPaused .. | .receiving .. =>
    instDecidableTrue

/-- What a call has found: the grants that it gives, and the version that was expected. -/
def DeployCall.Found (s : DeploymentStore J) : DeployCall J → Prop
  | .linking input grants | .reading input grants => ∀ g ∈ grants, Given s input.key g
  | .writing input grants existing => (∀ g ∈ grants, Given s input.key g) ∧
    ∀ row ∈ existing, ∀ v ∈ input.expectedVersion, row.version = v
  | .pausing input _ row => row.version = input.expectedVersion
  | _ => True

def DeployInv (s : DeploymentStore J) : Prop := VersionInv s ∧ GrantInv s

theorem DeployCall.Found.mono {call : DeployCall J} (h : call.Found s)
    (hagents : s'.agents = s.agents) : call.Found s' := by
  cases call with
  | linking | reading => exact fun g hg => (h g hg).mono hagents
  | writing => exact ⟨fun g hg => (h.1 g hg).mono hagents, h.2⟩
  | checking | readingPaused | pausing | receiving => exact h

/-- What a step does to the store, and what the call has found after it. -/
structure Performed (s : DeploymentStore J) (call : DeployCall J) (s' : DeploymentStore J)
    (call' : Option (DeployCall J)) : Prop where
  inv : DeployInv s'
  agents : s'.agents = s.agents
  law : s'.deployments = s.deployments ∧ s'.events = s.events ∨ ∃ key row', Changes s call s' key row'
  found : ∀ d ∈ call', d.Found s'

theorem Performed.of_next {call d : DeployCall J} (h : DeployInv s) (hd : d.Found s) :
    Performed s call s (some d) := by
  refine ⟨h, rfl, .inl ⟨rfl, rfl⟩, fun e he => ?_⟩
  cases he
  exact hd

theorem given_of_grantsOfAgent {workspaceAgentId : ℕ}
    (htarget : input.key.target = .agent workspaceAgentId)
    (h : grantsOfAgent s input workspaceAgentId a = .ok grants) :
    ∀ g ∈ grants, Given s input.key g := by
  unfold grantsOfAgent at h
  split at h
  · nomatch h
  · next agent hagent =>
    obtain ⟨hget, hactive⟩ := Option.filter_eq_some_iff.mp hagent
    rw [decide_eq_true_eq] at hactive
    by_cases hclone : agent.originKind = workspaceCloneOrigin
    · rw [if_pos hclone] at h
      split at h
      · nomatch h
      · cases h
        intro g hg
        split_ifs at hg
        · exact given_of_profileGrants htarget hget hactive.1 hclone hg
        · nomatch hg
    · rw [if_neg hclone] at h
      cases h
      exact fun _ hg => nomatch hg

theorem given_of_checkDeploy {input : DeployInput J} {grants : List ProfileGrant}
    (h : checkDeploy s input a = .ok grants) : ∀ g ∈ grants, Given s input.key g := by
  have hnil : ∀ {x : Except ApiError Unit}, (do let _ ← x; return ([] : List ProfileGrant)) =
      .ok grants → ∀ g ∈ grants, Given s input.key g := by
    intro x hx
    obtain ⟨-, -, hx⟩ := bind_eq_ok.mp hx
    cases hx
    exact fun _ hg => nomatch hg
  unfold checkDeploy at h
  split at h
  · nomatch h
  · obtain ⟨-, -, h⟩ := bind_eq_ok.mp h
    split at h
    · exact hnil h
    · next workspaceAgentId _ _ hchange =>
      have htarget : input.key.target = .agent workspaceAgentId := congrArg DeployChange.target hchange
      exact given_of_grantsOfAgent htarget h
    · exact hnil h

theorem readExisting_eq_ok {existing : Option (ProjectDeployment J)}
    (h : readExisting s input = .ok existing) :
    ∀ row ∈ existing, ∀ v ∈ input.expectedVersion, row.version = v := by
  unfold readExisting at h
  split at h
  · cases h
    exact fun _ hrow => nomatch hrow
  · obtain ⟨_, hversion, h⟩ := bind_eq_ok.mp h
    cases h
    rintro row hrow
    cases hrow
    exact require_eq_ok.mp hversion

theorem readForPause_eq_ok {input : PauseInput} (h : readForPause s input = .ok (key, row)) :
    row.version = input.expectedVersion := by
  unfold readForPause at h
  split at h
  · nomatch h
  · obtain ⟨_, hversion, h⟩ := bind_eq_ok.mp h
    cases h
    exact require_eq_ok.mp hversion

variable [EmptyCollection J] {call d : DeployCall J} {call' : Option (DeployCall J)}

/-- Every committed change is lawful, and one that is given a version finds it. -/
def DeployStepLaw (s : DeploymentStore J) (call : DeployCall J) (a : DeployAnswers) : Prop :=
  ∀ r, (deployments J).step s call a = some r →
    r.1.deployments = s.deployments ∧ r.1.events = s.events ∨
      ∃ key row', Changes s call r.1 key row'

theorem performed_writing {existing : Option (ProjectDeployment J)} {newId : ℕ} (hI : DeployInv s)
    (hJ : (DeployCall.writing input grants existing).Found s)
    (hG : NotOvertaken s (.writing input grants existing) a)
    (h : commitDeploy s input grants existing newId = .ok s') :
    Performed s (.writing input grants existing) s' none := by
  unfold commitDeploy at h
  cases existing with
  | none =>
    obtain ⟨_, hfree, h⟩ := bind_eq_ok.mp h
    obtain ⟨hnone, hnot⟩ := require_eq_ok.mp hfree
    rw [Option.isNone_iff_eq_none] at hnone
    cases h
    have hput : VersionInv (s.put input.key { id := newId, settings := input.change.settings none }
        input.change.target.kind.commands.1) :=
      hI.1.put (.inl ⟨hnone, hnot, rfl⟩)
    refine ⟨⟨⟨hput.versions, hput.events, hput.ids⟩, hI.2.deploy hJ.1 rfl⟩, rfl,
      .inr ⟨input.key, _, rfl, ⟨_, rfl⟩, ?_, fun row hrow => ?_, fun row hrow => ?_⟩,
      fun _ h => nomatch h⟩
    · rw [hnone]
      rfl
    · nomatch hnone.symm.trans hrow
    · nomatch hnone.symm.trans hrow
  | some row =>
    cases h
    have hrow : s.deployments.get? input.key = some row := hG
    let row' : ProjectDeployment J := { row with
      state := .active
      version := row.version + 1
      settings := input.change.settings (some row.settings) }
    have hput : VersionInv (s.put input.key row' input.change.target.kind.commands.2) :=
      hI.1.put (.inr ⟨row, hrow, rfl, rfl⟩)
    refine ⟨⟨⟨hput.versions, hput.events, hput.ids⟩, hI.2.deploy hJ.1 rfl⟩, rfl,
      .inr ⟨input.key, _, rfl, ⟨_, rfl⟩, ?_, fun row₁ hrow₁ => ?_, fun row₁ hrow₁ _ _ => ?_⟩,
      fun _ h => nomatch h⟩
    · rw [hrow]
      rfl
    · cases hrow.symm.trans hrow₁
      exact hJ.2 row rfl
    · exact hrow.symm.trans hrow₁

omit [EmptyCollection J] in
theorem commitPause_eq_put (hrow : s.deployments.get? key = some row) :
    commitPause s key row a = (revokeOfPause s key a).put key
      { row with state := .paused, version := row.version + 1 } "pauseProjectDeployment" := by
  have hmodify : (revokeOfPause s key a).deployments.get? key = some row := by
    rw [(revokeOfPause_frame s key a).1, hrow]
  simp only [commitPause, DeploymentStore.put, Dict.modify, hmodify]

omit [EmptyCollection J] in
theorem performed_pausing {input : PauseInput} (hI : DeployInv s)
    (hJ : (DeployCall.pausing input key row).Found s)
    (hG : NotOvertaken s (.pausing input key row) a) :
    Performed s (.pausing input key row) (commitPause s key row a) none := by
  obtain ⟨hrow, hnames⟩ := hG
  obtain ⟨hdeployments, hevents, hagents⟩ := revokeOfPause_frame s key a
  let row' : ProjectDeployment J := { row with state := .paused, version := row.version + 1 }
  rw [commitPause_eq_put hrow]
  have hsame : VersionInv (revokeOfPause s key a) := by
    refine ⟨fun key₁ row₁ hrow₁ => ?_, fun e he => ?_, ?_⟩
    · rw [DeploymentStore.changes, hevents]
      exact hI.1.versions key₁ row₁ (hdeployments ▸ hrow₁)
    · rw [DeploymentStore.Taken, hdeployments]
      exact hI.1.events e (hevents ▸ he)
    · rw [hdeployments]
      exact hI.1.ids
  have hput : VersionInv ((revokeOfPause s key a).put key row' "pauseProjectDeployment") :=
    hsame.put (.inr ⟨row, hdeployments ▸ hrow, rfl, rfl⟩)
  refine ⟨⟨hput, hI.2.pause hnames⟩, hagents,
    .inr ⟨key, row', ?_, ⟨"pauseProjectDeployment", ?_⟩, ?_, fun row₁ hrow₁ => ?_,
      fun _ _ _ hactive => ?_⟩, fun _ h => nomatch h⟩
  · show (revokeOfPause s key a).deployments.set key row' = _
    rw [hdeployments]
  · show (revokeOfPause s key a).events ++ _ = _
    rw [hevents]
  · rw [hrow]
    rfl
  · cases hrow.symm.trans hrow₁
    rintro v hv
    cases hv
    exact hJ
  · nomatch hactive

theorem performed_of_perform (hI : DeployInv s) (hJ : call.Found s) (hG : NotOvertaken s call a)
    (h : call.perform s a = .ok (s', call')) : Performed s call s' call' := by
  cases call with
  | checking =>
    obtain ⟨grants, hgrants, h⟩ := bind_eq_ok.mp h
    cases h
    exact .of_next hI (given_of_checkDeploy hgrants)
  | linking =>
    obtain ⟨-, -, h⟩ := bind_eq_ok.mp h
    cases h
    exact .of_next hI hJ
  | reading =>
    obtain ⟨existing, hexisting, h⟩ := bind_eq_ok.mp h
    cases h
    exact .of_next hI ⟨hJ, readExisting_eq_ok hexisting⟩
  | writing =>
    obtain ⟨t, ht, h⟩ := bind_eq_ok.mp h
    cases h
    exact performed_writing hI hJ hG ht
  | readingPaused =>
    obtain ⟨⟨key, row⟩, hread, h⟩ := bind_eq_ok.mp h
    cases h
    exact .of_next hI (readForPause_eq_ok hread)
  | pausing =>
    cases h
    exact performed_pausing hI hJ hG
  | receiving =>
    cases h
    obtain ⟨⟨hversions, hevents, hids⟩, hgiven, hreleased⟩ := hI
    refine ⟨⟨⟨hversions, hevents, hids⟩, fun g hg key hkey => ?_, hreleased⟩, rfl, .inl ⟨rfl, rfl⟩,
      fun _ h => nomatch h⟩
    exact (hgiven g hg key hkey).mono rfl

theorem performed_of_step (hI : DeployInv s) (hJ : call.Found s) (hG : NotOvertaken s call a)
    (h : (deployments J).step s call a = some (s', call')) : Performed s call s' call' := by
  replace h : call.step s a = some (s', call') := h
  unfold DeployCall.step at h
  split_ifs at h
  split at h
  · next result hresult =>
    cases h
    exact performed_of_perform hI hJ hG hresult
  · cases h
    exact ⟨hI, rfl, .inl ⟨rfl, rfl⟩, fun _ h => nomatch h⟩

theorem deployRule : (deployments J).Rule NotOvertaken DeployInv fun s call => call.Found s where
  start s req _ := by cases req <;> trivial
  step s c a s' c' hI hJ hG h :=
    have hperformed := performed_of_step hI hJ hG h
    ⟨hperformed.inv, fun _ hd => hd.mono hperformed.agents, hperformed.found⟩
  abort s c hI _ := ⟨hI, fun _ hd => hd⟩

/-- A store in which nothing is deployed, and no grant was given by a deployment. -/
structure Undeployed (s : DeploymentStore J) : Prop where
  deployments : s.deployments = ∅
  events : s.events = []
  grants : ∀ g ∈ s.grants, g.deployment = none

omit [EmptyCollection J] in
theorem Undeployed.inv (h : Undeployed s) : DeployInv s := by
  have hnone : ∀ key row, s.deployments.get? key ≠ some row := by
    intro key row hrow
    rw [h.deployments] at hrow
    nomatch hrow
  refine ⟨⟨fun key row hrow => absurd hrow (hnone key row), fun e he => ?_,
    fun key row _ _ hrow => absurd hrow (hnone key row)⟩, fun g hg key hkey => ?_,
    fun key row hrow => absurd hrow (hnone key row)⟩
  · rw [h.events] at he
    nomatch he
  · nomatch (h.grants g hg).symm.trans hkey

/-- If no step is overtaken, the law holds, and every step is lawful. -/
theorem deploymentLaw_along (hs : Undeployed s) {ls : List (CallLabel (DeployRequest J) DeployAnswers)}
    {f : InFlight (DeploymentStore J) (DeployCall J)}
    (hnot : (deployments J).system.Along (Service.Meets NotOvertaken) ⟨s, []⟩ ls)
    (hrun : (deployments J).system.run ⟨s, []⟩ ls = some f) :
    DeploymentLaw f.store ∧ (deployments J).system.Along (Service.Meets DeployStepLaw) ⟨s, []⟩ ls := by
  have hinv := deployRule.inv_of_along (.of_empty hs.inv) hnot hrun
  refine ⟨⟨hinv.store.1.versions, hinv.store.2.released⟩, ?_⟩
  exact deployRule.along (.of_empty hs.inv) (fun s c a hI hJ hG r hr =>
    (performed_of_step hI hJ hG hr).law) hnot

/-! ### A clone that is deployed and paused -/

namespace Clone

def pin : AssetPin := ⟨"custom.operations.lean", "0.1.0", "sha256:clone"⟩

def manifest : AgentPublishManifest := ⟨"operations", ["okr.key_result.create"]⟩

/-- The project 1, and a clone with the member 9 that was published. -/
def store : DeploymentStore (List ℕ) where
  projects := Dict.update ∅ [(1, 1)]
  agents := Dict.update ∅ [(5, ⟨1, pin, 9, workspaceCloneOrigin, "ACTIVE"⟩)]
  receipts := [.agent 1 pin (some manifest)]
  bound := ["okr.key_result.create"]

def deploy : DeployRequest (List ℕ) :=
  .deploy { workspaceId := 1, projectId := 1, change := .agent 5 none none }

def pause : DeployRequest (List ℕ) := .pause ⟨1, .agent, 100, 1⟩

def answers : DeployAnswers := ⟨some manifest, some 2, 100⟩

/-- The call `i` goes on for `n` steps. -/
def steps (i n : ℕ) : List (CallLabel (DeployRequest (List ℕ)) DeployAnswers) :=
  List.replicate n (.step i answers)

/-- The clone is deployed, paused and deployed again. -/
def resumed : List (CallLabel (DeployRequest (List ℕ)) DeployAnswers) :=
  [CallLabel.start deploy] ++ steps 0 4 ++ [CallLabel.start pause] ++ steps 1 2 ++
    [CallLabel.start deploy] ++ steps 2 4

theorem undeployed : Undeployed store := ⟨rfl, rfl, fun _ h => nomatch h⟩

end Clone

theorem deploymentLaw_along_resumed :
    DeploymentLaw (((deployments (List ℕ)).system.run ⟨Clone.store, []⟩ Clone.resumed).get
      (by decide +kernel)).store :=
  (deploymentLaw_along Clone.undeployed (by decide +kernel) (Option.some_get _).symm).1

namespace Clone

/-- A pause and another deployment read the same row, and the pause commits first. -/
def overtaken : InFlight (DeploymentStore (List ℕ)) (DeployCall (List ℕ)) :=
  ((deployments (List ℕ)).system.run ⟨store, []⟩ ([.start deploy] ++ steps 0 4 ++
    [.start deploy] ++ steps 1 3 ++ [.start pause] ++ steps 2 2 ++ steps 1 1)).get
      (by decide +kernel)

end Clone

/-- The deployment undoes the pause, and the version does not grow with the events. -/
theorem not_deploymentLaw_overtaken :
    ¬ ∀ (s : DeploymentStore (List ℕ)), Undeployed s →
      ∀ (ls : List (CallLabel (DeployRequest (List ℕ)) DeployAnswers))
        (f : InFlight (DeploymentStore (List ℕ)) (DeployCall (List ℕ))),
        (deployments (List ℕ)).system.run ⟨s, []⟩ ls = some f → DeploymentLaw f.store := by
  intro h
  have hlaw := h Clone.store Clone.undeployed _ Clone.overtaken (Option.some_get _).symm
  let row : ProjectDeployment (List ℕ) := { id := 100, version := 2, settings := .agent none [] }
  have hrow : Clone.overtaken.store.deployments.get? ⟨1, 1, .agent 5⟩ = some row := by decide +kernel
  have hchanges : Clone.overtaken.store.changes .agent 100 = 3 := by decide +kernel
  nomatch hchanges.symm.trans (hlaw.versions _ row hrow)

end JavisSaas.Company.Operations
