import JavisSaas.Company.Operations.MetricContracts

/-!
# Published metric contracts

* `metricLaw_along`: if every write finds what its operation has read, and a contract is published
  while no other version of its metric is active, then active contracts keep the content that was
  read, every publication is announced at most once, and at most one version is active.
* `not_metricLaw_lateEdit`: an edit that has read the draft is written after the publication.
-/

namespace JavisSaas.Company.Operations

open JavisSaas.Lib

/-! ## The law -/

/-- The publications of a contract that were announced. -/
def MetricStore.announcements (s : MetricStore) (id : ℕ) : ℕ :=
  (s.published.filter (·.contractId = id)).length

/-- Versions are distinct, one at most is active, and announcements are made at most once. -/
structure MetricLaw (s : MetricStore) : Prop where
  versions : ∀ id id' contract contract', s.contracts.get? id = some contract →
    s.contracts.get? id' = some contract' → contract.key = contract'.key →
      contract.version = contract'.version → id = id'
  oneActive : ∀ id id' contract contract', s.contracts.get? id = some contract →
    s.contracts.get? id' = some contract' → contract.key = contract'.key →
      contract.status = .active → contract'.status = .active → id = id'
  announced : ∀ id, s.announcements id ≤ 1

/-- An active contract stays, and is what its publication has read. -/
structure MetricStepLaw (s : MetricStore) (call : MetricCall) (newId : ℕ) : Prop where
  immutable : ∀ r ∈ call.step s newId, ∀ id contract, s.contracts.get? id = some contract →
    contract.status = .active → ∃ contract', r.1.contracts.get? id = some contract' ∧
      contract'.status = .active ∧ contract'.content = contract.content
  validated : ∀ r ∈ call.step s newId, ∀ p contract, call = .publishing p contract →
    ∀ contract', r.1.contracts.get? p.id = some contract' → contract'.status = .active →
      contract'.content = contract.content

/-- At its write the highest version, the status and the published content are as read; and no other
version is active when one is published. -/
def Unchanged (s : MetricStore) : MetricCall → ℕ → Prop
  | .inserting row read, _ => s.maxVersion row.key = read
  | .editing p contract, _ => ∀ row ∈ s.contracts.get? p.id, row.status = contract.status
  | .publishing p contract, _ => (∀ row ∈ s.contracts.get? p.id,
      row.status = contract.status ∧ row.content = contract.content ∧
        ∀ other ∈ s.contracts.values, other.key = row.key → other.status ≠ .active)
  | _, _ => True

instance (s : MetricStore) (call : MetricCall) (newId : ℕ) : Decidable (Unchanged s call newId) := by
  unfold Unchanged
  split <;> infer_instance

/-! ## What a step writes -/

/-- The writes of a step. -/
inductive MetricWrote (s : MetricStore) : MetricCall → MetricStore → Prop
  | nothing (call : MetricCall) : MetricWrote s call s
  | inserted (row : MetricContract) (read : Option ℕ) (id : ℕ)
      (hnew : s.contracts.get? id = none) :
    MetricWrote s (.inserting row read) { s with contracts := s.contracts.set id row }
  | edited (p : UpdateMetricContract) (contract row : MetricContract)
      (hrow : s.contracts.get? p.id = some row) :
    MetricWrote s (.editing p contract)
      { s with contracts := s.contracts.set p.id { row with content := p.content contract } }
  | published (p : PublishMetricContract) (contract row : MetricContract) (event : MetricPublished)
      (hrow : s.contracts.get? p.id = some row) (hevent : event.contractId = p.id) :
    MetricWrote s (.publishing p contract) { s with
      contracts := s.contracts.set p.id
        { row with status := .active, approvalRef := some p.approvalRef }
      published := s.published ++ [event] }

section Steps

variable {s s' : MetricStore} {call : MetricCall} {newId : ℕ} {call' : Option MetricCall}

/-- What was read is a draft; a new row is a draft after the versions that were read. -/
def MetricCall.Drafts : MetricCall → Prop
  | .inserting row read => row.status = .draft ∧ ∀ version ∈ read, version < row.version
  | .editing _ contract | .publishing _ contract => contract.status = .draft
  | _ => True

theorem drafts_of_update {p : UpdateMetricContract} {contract : MetricContract}
    (h : p.contract s = .ok contract) : contract.status = .draft := by
  obtain ⟨read, -, h⟩ := bind_eq_ok.mp h
  obtain ⟨hdraft, h⟩ := require_bind_eq_ok.mp h
  obtain ⟨_, h⟩ := of_bind h
  cases h
  exact hdraft

theorem drafts_of_publish {p : PublishMetricContract} {contract : MetricContract}
    (h : p.contract s = .ok (some contract)) : contract.status = .draft := by
  obtain ⟨_, h⟩ := of_bind h
  have h := of_require h
  obtain ⟨read, -, h⟩ := bind_eq_ok.mp h
  split_ifs at h
  · nomatch h
  · obtain ⟨hdraft, h⟩ := require_bind_eq_ok.mp h
    cases h
    exact hdraft

theorem metricWrote_of_perform (h : call.perform s newId = .ok (s', call')) :
    MetricWrote s call s' ∧ ∀ c ∈ call', c.Drafts := by
  have hend : ∀ c ∈ (none : Option MetricCall), c.Drafts := fun _ hc => nomatch hc
  cases call with
  | create =>
    obtain ⟨_, h⟩ := of_bind h
    cases h
    exact ⟨.nothing _, fun c hc => Option.some.inj hc ▸ trivial⟩
  | numbering =>
    cases h
    refine ⟨.nothing _, fun c hc => ?_⟩
    cases hc
    refine ⟨rfl, fun version hread => ?_⟩
    rw [Option.mem_def.mp hread]
    exact Nat.lt_succ_self _
  | numberingRevision =>
    cases h
    refine ⟨.nothing _, fun c hc => ?_⟩
    cases hc
    refine ⟨rfl, fun version hread => ?_⟩
    rw [ReviseMetricContract.row, Option.mem_def.mp hread]
    exact Nat.lt_succ_self _
  | inserting row read =>
    obtain ⟨s₁, hinsert, h⟩ := bind_eq_ok.mp h
    cases h
    obtain ⟨hnew, hinsert⟩ := require_bind_eq_ok.mp hinsert
    cases hinsert
    exact ⟨.inserted row read newId hnew, hend⟩
  | update =>
    obtain ⟨contract, hcontract, h⟩ := bind_eq_ok.mp h
    cases h
    exact ⟨.nothing _, fun c hc => Option.some.inj hc ▸ drafts_of_update hcontract⟩
  | editing p contract =>
    obtain ⟨s₁, hedit, h⟩ := bind_eq_ok.mp h
    cases h
    unfold MetricStore.edit at hedit
    split at hedit
    · nomatch hedit
    · next row hrow =>
      cases hedit
      exact ⟨.edited p contract row (Option.filter_eq_some_iff.mp hrow).1, hend⟩
  | publish =>
    obtain ⟨contract, hcontract, h⟩ := bind_eq_ok.mp h
    cases h
    refine ⟨.nothing _, fun c hc => ?_⟩
    obtain ⟨row, rfl, rfl⟩ := Option.map_eq_some_iff.mp hc
    exact drafts_of_publish hcontract
  | publishing p contract =>
    obtain ⟨s₁, hpublish, h⟩ := bind_eq_ok.mp h
    cases h
    unfold MetricStore.publish at hpublish
    split at hpublish
    · nomatch hpublish
    · next row hrow =>
      cases hpublish
      exact ⟨.published p contract row _ (Option.filter_eq_some_iff.mp hrow).1 rfl, hend⟩
  | revise =>
    obtain ⟨existing, -, h⟩ := bind_eq_ok.mp h
    cases h
    exact ⟨.nothing _, fun c hc => Option.some.inj hc ▸ trivial⟩

theorem metricWrote_of_step (h : call.step s newId = some (s', call')) :
    MetricWrote s call s' ∧ ∀ c ∈ call', c.Drafts := by
  have h := Option.some.inj h
  cases hperform : call.perform s newId with
  | error =>
    rw [hperform] at h
    cases h
    exact ⟨.nothing _, fun _ hc => nomatch hc⟩
  | ok r =>
    rw [hperform] at h
    obtain rfl : r = (s', call') := h
    exact metricWrote_of_perform hperform

/-! ## What stays -/

/-- The law, and that only active contracts were announced. -/
structure MetricInv (s : MetricStore) : Prop extends MetricLaw s where
  drafts : ∀ id contract, s.contracts.get? id = some contract → contract.status ≠ .active →
    s.announcements id = 0
  known : ∀ id, s.contracts.get? id = none → s.announcements id = 0

section Set

variable {id : ℕ} {row : MetricContract}

theorem get?_set_cases {id' : ℕ} {contract : MetricContract}
    (h : (s.contracts.set id row).get? id' = some contract) :
    id' = id ∧ contract = row ∨ id' ≠ id ∧ s.contracts.get? id' = some contract := by
  rw [Dict.get?_set] at h
  split_ifs at h with hid
  · exact .inl ⟨hid.symm, (Option.some.inj h).symm⟩
  · exact .inr ⟨Ne.symm hid, h⟩

theorem versions_set (h : MetricLaw s)
    (hnew : ∀ id' other, id' ≠ id → s.contracts.get? id' = some other → other.key = row.key →
      other.version ≠ row.version) {id₁ id₂ : ℕ} {c₁ c₂ : MetricContract}
    (h₁ : (s.contracts.set id row).get? id₁ = some c₁)
    (h₂ : (s.contracts.set id row).get? id₂ = some c₂) (hkey : c₁.key = c₂.key)
    (hversion : c₁.version = c₂.version) : id₁ = id₂ := by
  rcases get?_set_cases h₁ with ⟨rfl, rfl⟩ | ⟨hne₁, hold₁⟩
  · rcases get?_set_cases h₂ with ⟨rfl, -⟩ | ⟨hne₂, hold₂⟩
    · rfl
    · exact absurd hversion.symm (hnew id₂ c₂ hne₂ hold₂ hkey.symm)
  · rcases get?_set_cases h₂ with ⟨rfl, rfl⟩ | ⟨-, hold₂⟩
    · exact absurd hversion (hnew id₁ c₁ hne₁ hold₁ hkey)
    · exact h.versions id₁ id₂ c₁ c₂ hold₁ hold₂ hkey hversion

theorem oneActive_set (h : MetricLaw s)
    (hnew : row.status = .active → ∀ id' other, id' ≠ id → s.contracts.get? id' = some other →
      other.key = row.key → other.status ≠ .active) {id₁ id₂ : ℕ} {c₁ c₂ : MetricContract}
    (h₁ : (s.contracts.set id row).get? id₁ = some c₁)
    (h₂ : (s.contracts.set id row).get? id₂ = some c₂) (hkey : c₁.key = c₂.key)
    (hactive₁ : c₁.status = .active) (hactive₂ : c₂.status = .active) : id₁ = id₂ := by
  rcases get?_set_cases h₁ with ⟨rfl, rfl⟩ | ⟨hne₁, hold₁⟩
  · rcases get?_set_cases h₂ with ⟨rfl, -⟩ | ⟨hne₂, hold₂⟩
    · rfl
    · exact absurd hactive₂ (hnew hactive₁ id₂ c₂ hne₂ hold₂ hkey.symm)
  · rcases get?_set_cases h₂ with ⟨rfl, rfl⟩ | ⟨-, hold₂⟩
    · exact absurd hactive₁ (hnew hactive₂ id₁ c₁ hne₁ hold₁ hkey)
    · exact h.oneActive id₁ id₂ c₁ c₂ hold₁ hold₂ hkey hactive₁ hactive₂

theorem get?_eq_none_of_set {id' : ℕ} (h : (s.contracts.set id row).get? id' = none) :
    s.contracts.get? id' = none := by
  rw [Dict.get?_set] at h
  split_ifs at h
  exact h

theorem MetricInv.draft (h : MetricInv s) (hdraft : row.status ≠ .active)
    (hold : ∀ old, s.contracts.get? id = some old → old.status ≠ .active)
    (hnew : ∀ id' other, id' ≠ id → s.contracts.get? id' = some other → other.key = row.key →
      other.version ≠ row.version) :
    MetricInv { s with contracts := s.contracts.set id row } := by
  refine ⟨⟨fun _ _ _ _ => versions_set h.toMetricLaw hnew, fun _ _ _ _ =>
    oneActive_set h.toMetricLaw fun hactive => absurd hactive hdraft, h.announced⟩,
    fun id' contract hcontract hopen => ?_, fun id' hnone => h.known id' (get?_eq_none_of_set hnone)⟩
  rcases get?_set_cases hcontract with ⟨rfl, -⟩ | ⟨-, hcontract⟩
  · cases hget : s.contracts.get? id' with
    | none => exact h.known id' hget
    | some old => exact h.drafts id' old hget (hold old hget)
  · exact h.drafts id' contract hcontract hopen

theorem MetricInv.published (h : MetricInv s) {old : MetricContract} {event : MetricPublished}
    (hold : s.contracts.get? id = some old) (hopen : old.status ≠ .active)
    (hevent : event.contractId = id) (hkey : row.key = old.key) (hversion : row.version = old.version)
    (hactive : row.status = .active)
    (hothers : ∀ other ∈ s.contracts.values, other.key = row.key → other.status ≠ .active) :
    MetricInv { s with contracts := s.contracts.set id row, published := s.published ++ [event] } := by
  have hannounced : ∀ id', MetricStore.announcements { s with
      contracts := s.contracts.set id row, published := s.published ++ [event] } id' =
        s.announcements id' + if id' = id then 1 else 0 := by
    intro id'
    show ((s.published ++ [event]).filter _).length = _
    rw [List.filter_append, List.length_append, List.filter_singleton]
    congr 1
    by_cases hid : id' = id
    · rw [decide_eq_true (hevent.trans hid.symm), if_pos hid]
      rfl
    · rw [decide_eq_false fun heq => hid (heq.symm.trans hevent), if_neg hid]
      rfl
  refine ⟨⟨fun _ _ _ _ => versions_set h.toMetricLaw fun id' other hne hother hsame hnumber => ?_,
    fun _ _ _ _ => oneActive_set h.toMetricLaw fun _ id' other _ hother =>
      hothers other (Dict.mem_values.mpr ⟨id', hother⟩), fun id' => ?_⟩,
    fun id' contract hcontract hdraft => ?_, fun id' hnone => ?_⟩
  · exact hne (h.versions id' id other old hother hold (hsame.trans hkey) (hnumber.trans hversion))
  · rw [hannounced]
    split_ifs with hid
    · have hnone := h.drafts id old hold hopen
      exact Nat.le_of_eq (by rw [hid, hnone])
    · exact h.announced id'
  · rw [hannounced]
    rcases get?_set_cases hcontract with ⟨rfl, rfl⟩ | ⟨hne, hcontract⟩
    · exact absurd hactive hdraft
    · rw [if_neg hne]
      exact h.drafts id' contract hcontract hdraft
  · have hgone := get?_eq_none_of_set hnone
    rw [hannounced, if_neg, h.known id' hgone]
    rintro rfl
    nomatch hold.symm.trans hgone

end Set

theorem version_le_maxVersion {id : ℕ} {contract : MetricContract}
    (h : s.contracts.get? id = some contract) :
    ∃ version ∈ s.maxVersion contract.key, contract.version ≤ version := by
  have hmem : contract.version ∈
      (s.contracts.values.filter (·.key = contract.key)).map MetricContract.version :=
    List.mem_map_of_mem
      (List.mem_filter.mpr ⟨Dict.mem_values.mpr ⟨id, h⟩, decide_eq_true rfl⟩)
  cases hmax : s.maxVersion contract.key with
  | none => exact absurd (List.max?_eq_none_iff.mp hmax) (List.ne_nil_of_mem hmem)
  | some version => exact ⟨version, rfl, (List.max?_eq_some_iff.mp hmax).2 _ hmem⟩

theorem MetricWrote.inv (h : MetricWrote s call s') (hinv : MetricInv s) (hdrafts : call.Drafts)
    (hcond : Unchanged s call newId) : MetricInv s' := by
  cases h with
  | nothing => exact hinv
  | inserted _ _ _ hnew =>
    obtain ⟨hdraft, hlater⟩ := hdrafts
    refine hinv.draft (by rw [hdraft]; exact nofun) (fun old hold => ?_)
      fun id' other _ hother hkey => ?_
    · nomatch hnew.symm.trans hold
    · obtain ⟨version, hmax, hle⟩ := version_le_maxVersion hother
      rw [hkey, hcond] at hmax
      exact Nat.ne_of_lt (Nat.lt_of_le_of_lt hle (hlater version hmax))
  | edited p _ row hrow =>
    have hdraft : row.status = .draft := (hcond row hrow).trans hdrafts
    have hopen : row.status ≠ .active := by
      rw [hdraft]
      exact nofun
    refine hinv.draft hopen (fun old hold => ?_) fun id' other hne hother hkey hversion => ?_
    · cases hrow.symm.trans hold
      exact hopen
    · exact hne (hinv.versions id' p.id other row hother hrow hkey hversion)
  | published _ _ row _ hrow hevent =>
    obtain ⟨hstatus, -, hothers⟩ := hcond row hrow
    have hdraft : row.status = .draft := hstatus.trans hdrafts
    exact hinv.published hrow (by rw [hdraft]; exact nofun) hevent rfl rfl rfl hothers

theorem metricRule : metricCalls.Rule Unchanged MetricInv fun _ call => call.Drafts where
  start _ req _ := by
    cases req <;> trivial
  step s call newId s' call' h hdrafts hcond hs := by
    obtain ⟨hwrote, hnext⟩ := metricWrote_of_step hs
    exact ⟨hwrote.inv h hdrafts hcond, fun _ hd => hd, hnext⟩
  abort _ _ h _ := ⟨h, fun _ hd => hd⟩

theorem metricStepLaw_of_unchanged (hdrafts : call.Drafts) (hcond : Unchanged s call newId) :
    MetricStepLaw s call newId where
  immutable := by
    rintro ⟨s', call'⟩ hs id contract hcontract hactive
    obtain ⟨hwrote, -⟩ := metricWrote_of_step hs
    -- The row that is written is not the active one.
    have hother : ∀ {id' : ℕ} {row : MetricContract}, id' ≠ id →
        ∃ contract', (s.contracts.set id' row).get? id = some contract' ∧
          contract'.status = .active ∧ contract'.content = contract.content :=
      fun hne => ⟨contract, (Dict.get?_set_of_ne _ hne _).trans hcontract, hactive, rfl⟩
    cases hwrote with
    | nothing => exact ⟨contract, hcontract, hactive, rfl⟩
    | inserted _ _ _ hnew =>
      refine hother ?_
      rintro rfl
      nomatch hnew.symm.trans hcontract
    | edited _ _ _ hrow =>
      refine hother ?_
      rintro rfl
      cases hcontract.symm.trans hrow
      nomatch hactive.symm.trans ((hcond contract hrow).trans hdrafts)
    | published _ _ _ _ hrow =>
      refine hother ?_
      rintro rfl
      cases hcontract.symm.trans hrow
      nomatch hactive.symm.trans ((hcond contract hrow).1.trans hdrafts)
  validated := by
    rintro ⟨s', call'⟩ hs p contract rfl contract' hcontract' hactive
    obtain ⟨hwrote, -⟩ := metricWrote_of_step hs
    cases hwrote with
    | nothing => nomatch hactive.symm.trans ((hcond contract' hcontract').1.trans hdrafts)
    | published _ _ row _ hrow =>
      cases (Dict.get?_set_self ..).symm.trans hcontract'
      exact (hcond row hrow).2.1

end Steps

/-! ## Every run -/

/-- If every step meets the condition, the law holds after every run and of every step. -/
theorem metricLaw_along {projects : Dict ℕ ℕ} {s' : InFlight MetricStore MetricCall}
    {ls : List (CallLabel MetricRequest ℕ)}
    (hcond : metricCalls.system.Along (Service.Meets Unchanged) { store := { projects } } ls)
    (hs : metricCalls.system.run { store := { projects } } ls = some s') :
    MetricLaw s'.store ∧
      metricCalls.system.Along (Service.Meets MetricStepLaw) { store := { projects } } ls := by
  have hempty : MetricInv { projects } :=
    ⟨⟨fun _ _ _ _ h => (nomatch h), fun _ _ _ _ h => (nomatch h), fun _ => Nat.zero_le 1⟩,
      fun _ _ h => (nomatch h), fun _ _ => rfl⟩
  refine ⟨(metricRule.inv_of_along (.of_empty hempty) hcond hs).store.toMetricLaw, ?_⟩
  exact metricRule.along (.of_empty hempty) (fun _ _ _ _ hJ hG => metricStepLaw_of_unchanged hJ hG) hcond

/-! ## One metric -/

def activation : CreateMetricContract where
  workspaceId := 1
  projectId := 2
  metricKey := "activation_rate"
  displayName := "Activation rate"
  unit := "percentage"
  numeratorDefinition := "Users who complete step 3"
  denominatorDefinition := "Onboarded users"
  cohortDefinition := "Weekly signups"
  sourceMapping := ⟨"mixpanel", "event_activation_completed", "count_distinct_users", "7d"⟩
  cadence := "weekly"
  ownerMemberId := some 9
  decisionUse := "Baseline of the pilot"

/-- A draft of the contract, under the id 10. -/
def draftRun : List (CallLabel MetricRequest ℕ) :=
  [.start (.create activation), .step 0 0, .step 0 0, .step 0 10]

/-- It is edited, published and revised. -/
def revisedRun : List (CallLabel MetricRequest ℕ) :=
  draftRun ++
    [CallLabel.start (MetricRequest.update ⟨1, 10, { unit := some "percent" }⟩), .step 1 0,
      .step 1 0,
      .start (.publish ⟨1, 10, "APR-1", some "Founder"⟩), .step 2 0, .step 2 0,
      .start (.revise ⟨1, 10, { cohortDefinition := some "Paid accounts" }, some "founder"⟩),
      .step 3 0, .step 3 0, .step 3 11]

/-- An edit that has read the draft is written after the publication. -/
def lateEditRun : List (CallLabel MetricRequest ℕ) :=
  draftRun ++
    [CallLabel.start (MetricRequest.update ⟨1, 10, { unit := some "USD" }⟩), .step 1 0,
      .start (.publish ⟨1, 10, "APR-1", some "founder"⟩), .step 2 0, .step 2 0]

def projectTwo : MetricStore where
  projects := (∅ : Dict ℕ ℕ).set 2 1

theorem metricLaw_along_revised :
    MetricLaw ((metricCalls.system.run { store := projectTwo } revisedRun).get
      (by decide +kernel)).store ∧
    metricCalls.system.Along (Service.Meets MetricStepLaw) { store := projectTwo } revisedRun :=
  metricLaw_along (by decide +kernel) (Option.some_get _).symm

theorem not_metricLaw_lateEdit :
    ¬∀ projects ls s', metricCalls.system.run { store := { projects } } ls = some s' →
      MetricLaw s'.store ∧
        metricCalls.system.Along (Service.Meets MetricStepLaw) { store := { projects } } ls := by
  intro h
  let lateEdit : MetricCall := .editing ⟨1, 10, { unit := some "USD" }⟩ (activation.row none)
  -- one run, up to the write of the edit, is all that is computed
  have hfacts : ∃ reached ∈ metricCalls.system.run { store := projectTwo } lateEditRun,
      reached.call? 1 = some lateEdit ∧
      reached.store.contracts.get? 10 = some { activation.row none with
        status := .active, approvalRef := some "APR-1" } ∧
      (metricCalls.system.run reached [.step 1 0]).isSome ∧
      ∃ written ∈ lateEdit.step reached.store 0,
        ∀ contract ∈ written.1.contracts.get? 10, contract.content.unit = "USD" := by
    decide +kernel
  obtain ⟨reached, hreached, hcall, hactive, hnext, written, hwritten, hunit⟩ := hfacts
  obtain ⟨last, hlast⟩ := Option.isSome_iff_exists.mp hnext
  have halong := (h _ _ last (System.run_append _ hreached hlast)).2
  have hlaw := ((System.along_append _ hreached).mp halong).2.1 _ hcall
  obtain ⟨contract', hget, -, hcontent⟩ := hlaw.immutable written hwritten 10 _ hactive rfl
  have hsame : contract'.content.unit = "percentage" := congrArg MetricContent.unit hcontent
  rw [hunit contract' hget] at hsame
  exact absurd hsame (by decide)

end JavisSaas.Company.Operations
