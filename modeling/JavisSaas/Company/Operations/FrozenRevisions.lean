import JavisSaas.Company.Operations.AutomationRevisions

/-!
# Published revisions

* `publicationLaw_along`: the hash of a revision is that of its content. If no draft is rewritten
  after it was read, and no definition gets another revision while an invocation of it is created,
  published content never changes and is what was validated, and invocations are of the current
  revision.
* `not_publicationLaw_meanwhile`: drafts rewritten in between, and a replaced revision invoked.
-/

namespace JavisSaas.Company.Operations

open JavisSaas.Lib
open JavisSaas.Company.Finance (JsonValue)

/-! ## The law -/

/-- The hash of every revision is the hash of what it stores. -/
def Hashed (hashes : AutomationHashes) (s : AutomationStore) : Prop :=
  ∀ id row, s.revisions.get? id = some row →
    ∃ d, s.definitions.get? row.content.definitionId = some d ∧
      row.content.revisionHash = hashes.revision (row.content.hashInput d.automationKey)

/-- What was published was validated and stays; an invoked revision was the current one. -/
structure PublicationLaw (s : AutomationStore) : Prop where
  validated : ∀ p ∈ s.publications, p.published = some p.validated
  unchanged : ∀ id row, s.revisions.get? id = some row → row.published →
    ∃ p ∈ s.publications, p.revisionId = id ∧ p.published = some row.content
  invoked : ∀ id row, s.invocations.get? id = some row → ⟨id, row.revisionId, true⟩ ∈ s.requested

/-- The content of a published revision stays. -/
def KeepsPublished (s s' : AutomationStore) : Prop :=
  ∀ id row, s.revisions.get? id = some row → row.published →
    ∃ row', s'.revisions.get? id = some row' ∧ row'.published ∧ row'.content = row.content

/-- A configuration finds its draft unpublished or equal, a publication finds what it has read, and
a new invocation the current revision. -/
def NotRewritten (hashes : AutomationHashes) (s : AutomationStore) :
    AutomationCall → AutomationAnswers → Prop
  | .saving c definitionId draftId revisionNo, _ => ∀ id ∈ draftId, ∀ row ∈ s.revisions.get? id,
      row.published → row.content = c.blueprint.content hashes c.params definitionId revisionNo
  | .publishing _ revisionId validated, _ => ∀ row ∈ s.revisions.get? revisionId,
      row.content = validated
  | .inserting row, _ => s.invocationOf row = none →
      (s.definitions.get? row.definitionId).any (·.currentRevisionId = some row.revisionId)
  | _, _ => True

instance (hashes : AutomationHashes) (s : AutomationStore) (call : AutomationCall)
    (answers : AutomationAnswers) : Decidable (NotRewritten hashes s call answers) := by
  unfold NotRewritten
  split <;> infer_instance

/-! ## What a step writes -/

/-- The writes of a step, for each kind of call. -/
inductive Wrote (hashes : AutomationHashes) (s : AutomationStore) :
    AutomationCall → AutomationStore → Prop
  | nothing (call : AutomationCall) : Wrote hashes s call s
  | created (c : Configuring) (definitionId revisionId : ℕ)
      (hdefinition : s.definitions.get? definitionId = none)
      (hrevision : s.revisions.get? revisionId = none) :
    Wrote hashes s (.creating c) { s with
      definitions := s.definitions.set definitionId
        { workspaceId := c.workspaceId, automationKey := c.params.automationKey }
      revisions := s.revisions.set revisionId {
        workspaceId := c.workspaceId
        content := c.blueprint.content hashes c.params definitionId 1 } }
  | updated (c : Configuring) (definitionId id revisionNo : ℕ) :
    Wrote hashes s (.saving c definitionId (some id) revisionNo) { s with
      revisions := updateRevision s.revisions id c.workspaceId
        (c.blueprint.content hashes c.params definitionId revisionNo) }
  | inserted (c : Configuring) (definitionId id revisionNo : ℕ)
      (hrevision : s.revisions.get? id = none) :
    Wrote hashes s (.saving c definitionId none revisionNo) { s with
      revisions := s.revisions.set id {
        workspaceId := c.workspaceId
        content := c.blueprint.content hashes c.params definitionId revisionNo } }
  | published (definitionId revisionId : ℕ) (validated : RevisionContent) :
    Wrote hashes s (.publishing definitionId revisionId validated)
      (publishWrites s definitionId revisionId validated)
  | suspended (definitionId : ℕ) : Wrote hashes s (.suspending definitionId)
      (updateDefinition s definitionId fun d => { d with lifecycleState := .suspended })
  | invoked (row : AutomationInvocation) (id : ℕ) (hnew : s.invocationOf row = none) :
    Wrote hashes s (.inserting row) { s with
      invocations := s.invocations.set id row
      requested := s.requested ++
        [⟨id, row.revisionId, s.IsCurrent row.definitionId row.revisionId⟩] }

/-- What a call has read, as far as it stays. -/
def AutomationCall.Read (s : AutomationStore) : AutomationCall → Prop
  | .creating c => c.params.automationKey = c.blueprint.key
  | .configuring c id | .numbering c id _ | .saving c id _ _ =>
    ∃ d, s.definitions.get? id = some d ∧ d.automationKey = c.blueprint.key
  | .publishing _ id _ => ∃ row, s.revisions.get? id = some row
  | .inserting row => ∃ r, s.revisions.get? row.revisionId = some r ∧ r.published
  | _ => True

section Steps

variable {hashes : AutomationHashes} {s s' : AutomationStore} {call : AutomationCall}
  {answers : AutomationAnswers} {call' : Option AutomationCall}

theorem insertRevision_eq_ok {id : ℕ} {row : AutomationRevision}
    (h : insertRevision s id row = .ok s') :
    s.revisions.get? id = none ∧ s' = { s with revisions := s.revisions.set id row } := by
  obtain ⟨hid, h⟩ := require_bind_eq_ok.mp h
  have h := of_require h
  exact ⟨hid, (pure_eq_ok.mp h).symm⟩

theorem insertDefinition_eq_ok {c : Configuring}
    (h : insertDefinition hashes s c answers = .ok s') : Wrote hashes s (.creating c) s' := by
  obtain ⟨hdefinition, h⟩ := require_bind_eq_ok.mp h
  have h := of_require h
  obtain ⟨hrevision, rfl⟩ := insertRevision_eq_ok h
  exact .created c _ _ hdefinition hrevision

theorem insertInvocation_eq_ok {id : ℕ} {row : AutomationInvocation}
    (h : insertInvocation s id row = .ok s') : Wrote hashes s (.inserting row) s' := by
  unfold insertInvocation at h
  split at h
  · have h := of_require h
    cases h
    exact .nothing _
  · next hnew =>
    have h := of_require h
    cases h
    exact .invoked row id hnew

theorem key_of_checkedBlueprint {p : ConfigureParams} {blueprint : CuratedBlueprint}
    (h : checkedBlueprint p = .ok blueprint) : p.automationKey = blueprint.key := by
  unfold checkedBlueprint at h
  split at h
  · nomatch h
  · next found hfound =>
    obtain ⟨_, h⟩ := of_bind h
    obtain ⟨_, h⟩ := of_bind h
    obtain ⟨_, h⟩ := of_bind h
    cases h
    exact (key_of_getCuratedBlueprint hfound).symm

theorem get?_of_definitionOfKey {workspaceId id : ℕ} {key : String} {d : AutomationDefinition}
    (h : s.definitionOfKey workspaceId key = some (id, d)) :
    s.definitions.get? id = some d ∧ d.automationKey = key := by
  have hfound := List.find?_some h
  simp only [Bool.and_eq_true, decide_eq_true_eq] at hfound
  exact ⟨Dict.get?_eq_some.mpr (List.mem_of_find?_eq_some h), hfound.1.2⟩

theorem get?_of_loadDraft {workspaceId definitionId id : ℕ} {row : AutomationRevision}
    (h : s.loadDraft workspaceId definitionId = some (id, row)) :
    s.revisions.get? id = some row :=
  Dict.get?_eq_some.mpr (List.mem_of_mem_filter (List.argmax_mem h))

theorem get?_of_loadRevision {v : Invoking} {row : AutomationInvocation}
    (h : AutomationCall.loadRevision hashes s v = .ok row) :
    ∃ r, s.revisions.get? row.revisionId = some r ∧ r.published := by
  unfold AutomationCall.loadRevision at h
  split at h
  · nomatch h
  · next r hr =>
    have h := of_require h
    obtain ⟨identity, -, h⟩ := bind_eq_ok.mp h
    cases h
    obtain ⟨hget, hpublished⟩ := Option.filter_eq_some_iff.mp hr
    rw [Bool.and_eq_true] at hpublished
    exact ⟨r, hget, hpublished.2⟩

theorem wrote_of_perform (hread : call.Read s)
    (h : call.perform hashes s answers = .ok (s', call')) :
    Wrote hashes s call s' ∧ ∀ d ∈ call', d.Read s' := by
  have hend : ∀ d ∈ (none : Option AutomationCall), d.Read s' := fun _ hd => nomatch hd
  cases call with
  | configure =>
    obtain ⟨blueprint, hblueprint, h⟩ := bind_eq_ok.mp h
    have hkey := key_of_checkedBlueprint hblueprint
    split at h
    · next id d hd =>
      have h := of_require h
      cases h
      obtain ⟨hget, hown⟩ := get?_of_definitionOfKey hd
      exact ⟨.nothing _, fun c hc => Option.some.inj hc ▸ ⟨d, hget, hown.trans hkey⟩⟩
    · cases h
      exact ⟨.nothing _, fun c hc => Option.some.inj hc ▸ hkey⟩
  | creating =>
    obtain ⟨s₁, hinsert, h⟩ := bind_eq_ok.mp h
    cases h
    exact ⟨insertDefinition_eq_ok hinsert, hend⟩
  | configuring | numbering =>
    cases h
    exact ⟨.nothing _, fun d hd => Option.some.inj hd ▸ hread⟩
  | saving c definitionId draftId revisionNo =>
    cases draftId with
    | some id =>
      cases h
      exact ⟨.updated c definitionId id revisionNo, hend⟩
    | none =>
      obtain ⟨s₁, hinsert, h⟩ := bind_eq_ok.mp h
      cases h
      obtain ⟨hrevision, rfl⟩ := insertRevision_eq_ok hinsert
      exact ⟨.inserted c definitionId _ revisionNo hrevision, hend⟩
  | publish =>
    obtain ⟨blueprint, -, h⟩ := bind_eq_ok.mp h
    cases h
    exact ⟨.nothing _, fun d hd => Option.some.inj hd ▸ trivial⟩
  | validating =>
    simp only [AutomationCall.perform] at h
    split at h
    · nomatch h
    · next id draft hdraft =>
      obtain ⟨_, h⟩ := of_bind h
      cases h
      exact ⟨.nothing _, fun d hd => Option.some.inj hd ▸ ⟨draft, get?_of_loadDraft hdraft⟩⟩
  | publishing definitionId revisionId validated =>
    cases h
    exact ⟨.published definitionId revisionId validated, hend⟩
  | suspend =>
    obtain ⟨_, h⟩ := of_bind h
    cases h
    exact ⟨.nothing _, fun d hd => Option.some.inj hd ▸ trivial⟩
  | suspending definitionId =>
    cases h
    exact ⟨.suspended definitionId, hend⟩
  | invoke =>
    obtain ⟨v, -, h⟩ := bind_eq_ok.mp h
    cases h
    exact ⟨.nothing _, fun d hd => Option.some.inj hd ▸ trivial⟩
  | reading =>
    obtain ⟨row, hrow, h⟩ := bind_eq_ok.mp h
    cases h
    exact ⟨.nothing _, fun d hd => Option.some.inj hd ▸ get?_of_loadRevision hrow⟩
  | inserting =>
    obtain ⟨s₁, hinsert, h⟩ := bind_eq_ok.mp h
    cases h
    exact ⟨insertInvocation_eq_ok hinsert, hend⟩

theorem wrote_of_step (hread : call.Read s)
    (h : call.step hashes s answers = some (s', call')) :
    Wrote hashes s call s' ∧ ∀ d ∈ call', d.Read s' := by
  have h := Option.some.inj h
  cases hperform : call.perform hashes s answers with
  | error =>
    rw [hperform] at h
    cases h
    exact ⟨.nothing _, fun _ hd => nomatch hd⟩
  | ok r =>
    rw [hperform] at h
    obtain rfl : r = (s', call') := h
    exact wrote_of_perform hread hperform

end Steps

/-! ## What stays -/

/-- Definitions keep their keys, and published revisions stay published. -/
structure RevisionsGrow (s s' : AutomationStore) : Prop where
  definitions : ∀ id d, s.definitions.get? id = some d →
    ∃ d', s'.definitions.get? id = some d' ∧ d'.automationKey = d.automationKey
  revisions : ∀ id row, s.revisions.get? id = some row →
    ∃ row', s'.revisions.get? id = some row' ∧ (row.published → row'.published)

section Kept

variable {hashes : AutomationHashes} {s s' : AutomationStore} {call : AutomationCall}

theorem get?_set_new {V : Type} {d : Dict ℕ V} {k k' : ℕ} {v : V} (hnew : d.get? k = none)
    (h : d.get? k' = some v) (w : V) : (d.set k w).get? k' = some v := by
  rw [Dict.get?_set_of_ne _ ?_ w, h]
  rintro rfl
  nomatch hnew.symm.trans h

theorem revisionsGrow_of_kept {revisions : Dict ℕ AutomationRevision}
    (h : ∀ id row, s.revisions.get? id = some row →
      ∃ row', revisions.get? id = some row' ∧ (row.published → row'.published)) :
    RevisionsGrow s { s with revisions } :=
  ⟨fun _ d hd => ⟨d, hd, rfl⟩, h⟩

theorem get?_updateRevision (revisions : Dict ℕ AutomationRevision) (id workspaceId k : ℕ)
    (content : RevisionContent) : (updateRevision revisions id workspaceId content).get? k =
      (revisions.get? k).map fun row => if id = k then { row with workspaceId, content } else row :=
  Dict.get?_modify ..

theorem get?_markPublished (revisions : Dict ℕ AutomationRevision) (id k : ℕ) :
    (markPublished revisions id).get? k =
      (revisions.get? k).map fun row => if id = k then { row with published := true } else row :=
  Dict.get?_modify ..

theorem revisionsGrow_updateDefinition (s : AutomationStore) (id : ℕ)
    {f : AutomationDefinition → AutomationDefinition}
    (hf : ∀ d, (f d).automationKey = d.automationKey) : RevisionsGrow s (updateDefinition s id f) := by
  refine ⟨fun k d hd => ?_, fun _ row hrow => ⟨row, hrow, fun h => h⟩⟩
  show ∃ d', (s.definitions.modify id f).get? k = some d' ∧ _
  rw [Dict.get?_modify, hd]
  refine ⟨_, rfl, ?_⟩
  split_ifs
  · exact hf d
  · rfl

theorem Wrote.grows (h : Wrote hashes s call s') : RevisionsGrow s s' := by
  cases h with
  | nothing => exact ⟨fun _ d hd => ⟨d, hd, rfl⟩, fun _ row hrow => ⟨row, hrow, id⟩⟩
  | created _ _ _ hdefinition hrevision =>
    exact ⟨fun _ d hd => ⟨d, get?_set_new hdefinition hd _, rfl⟩,
      fun _ row hrow => ⟨row, get?_set_new hrevision hrow _, id⟩⟩
  | updated =>
    refine revisionsGrow_of_kept fun k row hrow => ?_
    rw [get?_updateRevision, hrow]
    refine ⟨_, rfl, fun hpublished => ?_⟩
    split_ifs <;> exact hpublished
  | inserted _ _ _ _ hrevision =>
    exact revisionsGrow_of_kept fun _ row hrow => ⟨row, get?_set_new hrevision hrow _, id⟩
  | published definitionId revisionId =>
    let f (d : AutomationDefinition) : AutomationDefinition :=
      { d with currentRevisionId := some revisionId, lifecycleState := .published }
    have hdefinitions := revisionsGrow_updateDefinition s definitionId (f := f) fun _ => rfl
    refine ⟨hdefinitions.definitions, fun k row hrow => ?_⟩
    show ∃ row', (markPublished s.revisions revisionId).get? k = some row' ∧ _
    rw [get?_markPublished, hrow]
    refine ⟨_, rfl, fun hpublished => ?_⟩
    split_ifs
    · rfl
    · exact hpublished
  | suspended definitionId => exact revisionsGrow_updateDefinition s definitionId fun _ => rfl
  | invoked row => exact ⟨fun _ d hd => ⟨d, hd, rfl⟩, fun _ row hrow => ⟨row, hrow, fun h => h⟩⟩

theorem AutomationCall.Read.grows (h : RevisionsGrow s s') (hread : call.Read s) : call.Read s' := by
  have hkey : ∀ {id key}, (∃ d, s.definitions.get? id = some d ∧ d.automationKey = key) →
      ∃ d, s'.definitions.get? id = some d ∧ d.automationKey = key := by
    rintro id key ⟨d, hd, hkey⟩
    obtain ⟨d', hd', heq⟩ := h.definitions id d hd
    exact ⟨d', hd', heq.trans hkey⟩
  cases call with
  | configuring | numbering | saving => exact hkey hread
  | publishing _ id =>
    obtain ⟨row, hrow⟩ := hread
    obtain ⟨row', hrow', -⟩ := h.revisions id row hrow
    exact ⟨row', hrow'⟩
  | inserting =>
    obtain ⟨r, hr, hpublished⟩ := hread
    obtain ⟨r', hr', hstays⟩ := h.revisions _ r hr
    exact ⟨r', hr', hstays hpublished⟩
  | creating => exact hread
  | configure | publish | validating | suspend | suspending | invoke | reading => trivial

/-! ## The hashes -/

/-- The revisions are those that there were, or as a configuration of their definition. -/
theorem hashed_of_cases (h : Hashed hashes s) (hgrows : RevisionsGrow s s')
    (hcases : ∀ id row', s'.revisions.get? id = some row' →
      (∃ row, s.revisions.get? id = some row ∧ row'.content = row.content) ∨
      ∃ (c : Configuring) (definitionId revisionNo : ℕ),
        row'.content = c.blueprint.content hashes c.params definitionId revisionNo ∧
          ∃ d, s'.definitions.get? definitionId = some d ∧ d.automationKey = c.blueprint.key) :
    Hashed hashes s' := by
  intro id row' hrow'
  obtain ⟨row, hrow, heq⟩ | ⟨c, definitionId, revisionNo, heq, d, hd, hkey⟩ :=
    hcases id row' hrow'
  · obtain ⟨d, hd, hhash⟩ := h id row hrow
    obtain ⟨d', hd', hkey⟩ := hgrows.definitions _ d hd
    rw [heq]
    exact ⟨d', hd', by rw [hkey, hhash]⟩
  · rw [heq]
    exact ⟨d, hd, by rw [hkey]; rfl⟩

theorem Wrote.hashed (h : Wrote hashes s call s') (hread : call.Read s) (hhashed : Hashed hashes s) :
    Hashed hashes s' := by
  have hgrows := h.grows
  have hread' := hread.grows hgrows
  refine hashed_of_cases hhashed hgrows fun k row' hrow' => ?_
  cases h with
  | nothing | suspended | invoked => exact .inl ⟨row', hrow', rfl⟩
  | created c definitionId =>
    simp only [Dict.get?_set] at hrow'
    split_ifs at hrow' with heq
    · cases hrow'
      exact .inr ⟨c, definitionId, 1, rfl, _, Dict.get?_set_self .., hread⟩
    · exact .inl ⟨row', hrow', rfl⟩
  | updated c definitionId _ revisionNo =>
    simp only [get?_updateRevision, Option.map_eq_some_iff] at hrow'
    obtain ⟨row, hrow, hrow'⟩ := hrow'
    split_ifs at hrow' with heq
    · exact .inr ⟨c, definitionId, revisionNo, hrow' ▸ rfl, hread'⟩
    · exact .inl ⟨row, hrow, hrow' ▸ rfl⟩
  | inserted c definitionId _ revisionNo =>
    simp only [Dict.get?_set] at hrow'
    split_ifs at hrow' with heq
    · cases hrow'
      exact .inr ⟨c, definitionId, revisionNo, rfl, hread'⟩
    · exact .inl ⟨row', hrow', rfl⟩
  | published _ revisionId =>
    have hmarked : (markPublished s.revisions revisionId).get? k = some row' := hrow'
    rw [get?_markPublished, Option.map_eq_some_iff] at hmarked
    obtain ⟨row, hrow, hmarked⟩ := hmarked
    refine .inl ⟨row, hrow, ?_⟩
    split_ifs at hmarked <;> exact hmarked ▸ rfl

/-! ## The content of published revisions -/

section Law

variable {answers : AutomationAnswers}

theorem Wrote.keepsPublished (h : Wrote hashes s call s')
    (hnot : NotRewritten hashes s call answers) : KeepsPublished s s' := by
  intro k row hrow hpublished
  cases h with
  | nothing | suspended | invoked => exact ⟨row, hrow, hpublished, rfl⟩
  | created _ _ _ _ hrevision =>
    exact ⟨row, get?_set_new hrevision hrow _, hpublished, rfl⟩
  | updated _ _ id =>
    simp only [get?_updateRevision, hrow, Option.map_some]
    split_ifs with heq
    · subst heq
      exact ⟨_, rfl, hpublished, (hnot id rfl row hrow hpublished).symm⟩
    · exact ⟨row, rfl, hpublished, rfl⟩
  | inserted _ _ _ _ hrevision =>
    exact ⟨row, get?_set_new hrevision hrow _, hpublished, rfl⟩
  | published _ revisionId =>
    show ∃ row', (markPublished s.revisions revisionId).get? k = some row' ∧ _
    rw [get?_markPublished, hrow, Option.map_some]
    split_ifs with heq
    · exact ⟨_, rfl, rfl, rfl⟩
    · exact ⟨row, rfl, hpublished, rfl⟩

/-- A revision that is published after a step was so before, or the step has published it. -/
theorem Wrote.published_cases (h : Wrote hashes s call s')
    (hnot : NotRewritten hashes s call answers) {id : ℕ} {row' : AutomationRevision}
    (hrow' : s'.revisions.get? id = some row') (hpublished : row'.published) :
    ∃ row, s.revisions.get? id = some row ∧ row'.content = row.content ∧
      (row.published ∨ ∃ p ∈ s'.publications, p.revisionId = id ∧
        p.published = some row.content) := by
  cases h with
  | nothing | suspended | invoked => exact ⟨row', hrow', rfl, .inl hpublished⟩
  | created | inserted =>
    simp only [Dict.get?_set] at hrow'
    split_ifs at hrow' with heq
    · cases hrow'
      nomatch hpublished
    · exact ⟨row', hrow', rfl, .inl hpublished⟩
  | updated _ _ k =>
    simp only [get?_updateRevision, Option.map_eq_some_iff] at hrow'
    obtain ⟨row, hrow, rfl⟩ := hrow'
    split_ifs at hpublished ⊢ with heq
    · subst heq
      exact ⟨row, hrow, (hnot k rfl row hrow hpublished).symm, .inl hpublished⟩
    · exact ⟨row, hrow, rfl, .inl hpublished⟩
  | published _ revisionId =>
    have hmarked : (markPublished s.revisions revisionId).get? id = some row' := hrow'
    rw [get?_markPublished, Option.map_eq_some_iff] at hmarked
    obtain ⟨row, hrow, rfl⟩ := hmarked
    split_ifs at hpublished ⊢ with heq
    · subst heq
      refine ⟨row, hrow, rfl, .inr ⟨_, List.mem_concat_self, rfl, ?_⟩⟩
      show (s.revisions.get? revisionId).map _ = some row.content
      rw [hrow, Option.map_some]
    · exact ⟨row, hrow, rfl, .inl hpublished⟩

theorem Wrote.publications (h : Wrote hashes s call s') :
    s'.publications = s.publications ∨ ∃ definitionId revisionId validated,
      call = .publishing definitionId revisionId validated ∧
      s'.publications = s.publications ++
        [⟨revisionId, validated, (s.revisions.get? revisionId).map (·.content)⟩] := by
  cases h with
  | published definitionId revisionId validated =>
    exact .inr ⟨definitionId, revisionId, validated, rfl, rfl⟩
  | nothing | created | updated | inserted | suspended | invoked => exact .inl rfl

theorem Wrote.law (h : Wrote hashes s call s') (hread : call.Read s)
    (hnot : NotRewritten hashes s call answers) (hlaw : PublicationLaw s) : PublicationLaw s' where
  validated p hp := by
    obtain hsame | ⟨definitionId, revisionId, validated, rfl, happend⟩ := h.publications
    · exact hlaw.validated p (hsame ▸ hp)
    · rw [happend] at hp
      rcases mem_concat hp with hold | rfl
      · exact hlaw.validated p hold
      · obtain ⟨row, hrow⟩ := hread
        show (s.revisions.get? revisionId).map _ = some validated
        rw [hrow, Option.map_some, hnot row hrow]
  unchanged id row' hrow' hpublished := by
    obtain ⟨row, hrow, hcontent, hbefore | hnow⟩ := h.published_cases hnot hrow' hpublished
    · obtain ⟨p, hp, hown⟩ := hlaw.unchanged id row hrow hbefore
      refine ⟨p, ?_, hcontent ▸ hown⟩
      obtain hsame | ⟨_, _, _, -, happend⟩ := h.publications
      · exact hsame ▸ hp
      · exact happend ▸ List.mem_append_left _ hp
    · exact hcontent ▸ hnow
  invoked id row hrow := by
    cases h with
    | invoked new _ hnew =>
      simp only [Dict.get?_set] at hrow
      split_ifs at hrow with heq
      · obtain rfl := Option.some.inj hrow
        obtain ⟨r, hr, hpublished⟩ := hread
        have hcurrent : s.IsCurrent new.definitionId new.revisionId := by
          refine ⟨hnot hnew, ?_⟩
          rw [hr]
          exact hpublished
        rw [heq, decide_eq_true hcurrent]
        exact List.mem_concat_self
      · exact List.mem_append_left _ (hlaw.invoked id row hrow)
    | nothing | created | updated | inserted | published | suspended =>
      exact hlaw.invoked id row hrow

end Law

end Kept

/-! ## Runs -/

theorem hashRule (hashes : AutomationHashes) : (automationCalls hashes).Rule (fun _ _ _ => True)
    (Hashed hashes) fun s call => call.Read s where
  start s req _ := by cases req <;> trivial
  step s c a s' c' hI hJ _ hstep := by
    obtain ⟨hwrote, hread⟩ := wrote_of_step hJ hstep
    exact ⟨hwrote.hashed hJ hI, fun d hd => hd.grows hwrote.grows, hread⟩
  abort s c hI _ := ⟨hI, fun _ hd => hd⟩

theorem publicationRule (hashes : AutomationHashes) :
    (automationCalls hashes).Rule (fun s c a => True ∧ NotRewritten hashes s c a)
      (fun s => Hashed hashes s ∧ PublicationLaw s) fun s call => call.Read s :=
  (hashRule hashes).and (NotRewritten hashes) PublicationLaw
    (fun _ _ _ _ _ _ hJ hlaw hnot hstep => (wrote_of_step hJ hstep).1.law hJ hnot hlaw)
    fun _ _ _ _ hlaw => hlaw

/-- The hashes are right; and if nothing is rewritten after it was read, the law holds, and what is
published keeps its content. -/
theorem publicationLaw_along (hashes : AutomationHashes) (s : AutomationStore)
    (hhashed : Hashed hashes s) (hlaw : PublicationLaw s)
    (ls ls' : List (CallLabel AutomationRequest AutomationAnswers))
    (m s' : InFlight AutomationStore AutomationCall)
    (hrun : (automationCalls hashes).system.run ⟨s, []⟩ ls = some m)
    (hrun' : (automationCalls hashes).system.run m ls' = some s') :
    Hashed hashes s'.store ∧
      ((automationCalls hashes).system.Along (Service.Meets (NotRewritten hashes)) ⟨s, []⟩
          (ls ++ ls') → PublicationLaw s'.store ∧ KeepsPublished m.store s'.store) := by
  let V := automationCalls hashes
  have hwhole := V.system.run_append hrun hrun'
  refine ⟨((hashRule hashes).inv_of_run (.of_empty hhashed) hwhole).store, fun hnot => ?_⟩
  have hmeets : V.system.Along (Service.Meets fun s c a => True ∧ NotRewritten hashes s c a)
      ⟨s, []⟩ (ls ++ ls') :=
    hnot.mono V.system fun _ _ h => h.mono fun _ _ _ h => ⟨trivial, h⟩
  have hinv : Service.Inv (fun s => Hashed hashes s ∧ PublicationLaw s)
      (fun s call => AutomationCall.Read s call) ⟨s, []⟩ := .of_empty ⟨hhashed, hlaw⟩
  refine ⟨((publicationRule hashes).inv_of_along hinv hmeets hwhole).store.2, ?_⟩
  obtain ⟨hbefore, hafter⟩ := (V.system.along_append hrun).mp hmeets
  have hmid := (publicationRule hashes).inv_of_along hinv hbefore hrun
  have hsame : ∀ s, KeepsPublished s s := fun _ _ row hrow hpublished => ⟨row, hrow, hpublished, rfl⟩
  refine V.rel_of_along hsame ?_ (fun _ _ _ => (publicationRule hashes).inv_next) ?_
    (fun f _ _ => hsame f.store) hmid hafter hrun'
  · intro a b c hab hbc id row hrow hpublished
    obtain ⟨row₁, hrow₁, hpublished₁, hcontent₁⟩ := hab id row hrow hpublished
    obtain ⟨row₂, hrow₂, hpublished₂, hcontent₂⟩ := hbc id row₁ hrow₁ hpublished₁
    exact ⟨row₂, hrow₂, hpublished₂, hcontent₂.trans hcontent₁⟩
  · intro f i call answers s' call' hI hG hcall hstep
    have hwrote := (wrote_of_step (hI.calls i call hcall) hstep).1
    exact hwrote.keepsPublished (hG call hcall).2

/-! ### A weekly review -/

/-- Hashes that keep the number, the project and the key. -/
def plainHashes : AutomationHashes where
  revision i := i.automationKey ++ "#" ++ toString i.revisionNo ++ "#" ++
    ((i.configuration.get? "projectId").map (·.text)).getD ""
  fingerprint i := i.revisionHash

def founderContext : TenantContext := ⟨1, "founder", none⟩

def configureReview (project : String) : AutomationRequest :=
  .configure ⟨"operating.weekly-review", Dict.update ∅ [("projectId", .string project)],
    { kind := .manual }⟩ founderContext

def invokeReview : AutomationRequest :=
  .invoke 10 { triggerKind := .manual, clientRequestId := some "request-1" } founderContext

/-- Steps of a call. -/
def stepsOfAutomation (i n newRevisionId : ℕ) :
    List (CallLabel AutomationRequest AutomationAnswers) :=
  List.replicate n (.step i { newId := 10, newRevisionId })

/-- The first configuration, and its publication. -/
def publishReview : List (CallLabel AutomationRequest AutomationAnswers) :=
  [CallLabel.start (configureReview "alpha")] ++ stepsOfAutomation 0 2 20 ++
    [CallLabel.start (AutomationRequest.publish 10 founderContext)] ++ stepsOfAutomation 1 3 0

/-- It is configured again, and called. -/
def useReview : List (CallLabel AutomationRequest AutomationAnswers) :=
  [CallLabel.start (configureReview "beta")] ++ stepsOfAutomation 2 4 21 ++
    [CallLabel.start invokeReview] ++
    stepsOfAutomation 3 3 0

def publishedReview : InFlight AutomationStore AutomationCall :=
  ((automationCalls plainHashes).system.run ⟨{}, []⟩ publishReview).get (by decide +kernel)

def usedReview : InFlight AutomationStore AutomationCall :=
  ((automationCalls plainHashes).system.run publishedReview useReview).get (by decide +kernel)

theorem publicationLaw_empty : PublicationLaw {} :=
  ⟨fun _ h => absurd h List.not_mem_nil, fun _ _ h => (nomatch h), fun _ _ h => (nomatch h)⟩

theorem publicationLaw_along_review : Hashed plainHashes usedReview.store ∧
    PublicationLaw usedReview.store ∧ KeepsPublished publishedReview.store usedReview.store := by
  have hruns := publicationLaw_along plainHashes {} (fun _ _ h => nomatch h) publicationLaw_empty
    publishReview useReview publishedReview usedReview (Option.some_get _).symm
    (Option.some_get _).symm
  exact ⟨hruns.1, hruns.2 (by decide +kernel)⟩

/-- A configuration has read the draft when it is published. -/
def publishMeanwhile : List (CallLabel AutomationRequest AutomationAnswers) :=
  [CallLabel.start (configureReview "alpha")] ++ stepsOfAutomation 0 2 20 ++
    [CallLabel.start (configureReview "beta"),
      .start (AutomationRequest.publish 10 founderContext)] ++
    stepsOfAutomation 1 3 21 ++ stepsOfAutomation 2 3 0

def publishedMeanwhile : InFlight AutomationStore AutomationCall :=
  ((automationCalls plainHashes).system.run ⟨{}, []⟩ publishMeanwhile).get (by decide +kernel)

/-- It updates what it has read. -/
def rewrittenReview : InFlight AutomationStore AutomationCall :=
  ((automationCalls plainHashes).system.run publishedMeanwhile (stepsOfAutomation 1 1 21)).get
    (by decide +kernel)

/-- A publication has validated the draft when it is configured again. -/
def configureMeanwhile : List (CallLabel AutomationRequest AutomationAnswers) :=
  [CallLabel.start (configureReview "alpha")] ++ stepsOfAutomation 0 2 20 ++
    [CallLabel.start (configureReview "beta"),
      .start (AutomationRequest.publish 10 founderContext)] ++
    stepsOfAutomation 2 2 0 ++ stepsOfAutomation 1 4 21 ++ stepsOfAutomation 2 1 0

def configuredMeanwhile : InFlight AutomationStore AutomationCall :=
  ((automationCalls plainHashes).system.run ⟨{}, []⟩ configureMeanwhile).get (by decide +kernel)

/-- An invocation has read the definition when another revision is published. -/
def invokeMeanwhile : List (CallLabel AutomationRequest AutomationAnswers) :=
  publishReview ++ [CallLabel.start invokeReview] ++ stepsOfAutomation 2 2 0 ++
    [CallLabel.start (configureReview "beta")] ++ stepsOfAutomation 3 4 21 ++
    [CallLabel.start (AutomationRequest.publish 10 founderContext)] ++ stepsOfAutomation 4 3 0 ++
    stepsOfAutomation 2 1 0

def invokedMeanwhile : InFlight AutomationStore AutomationCall :=
  ((automationCalls plainHashes).system.run ⟨{}, []⟩ invokeMeanwhile).get (by decide +kernel)

/-- The project that a revision is configured for. -/
def projectOf (s : AutomationStore) (revisionId : ℕ) : Option JsonValue :=
  (s.revisions.get? revisionId).bind fun row => row.content.configuration.get? "projectId"

theorem not_publicationLaw_meanwhile :
    (((automationCalls plainHashes).system.run ⟨{}, []⟩ publishMeanwhile =
          some publishedMeanwhile ∧
        (automationCalls plainHashes).system.run publishedMeanwhile (stepsOfAutomation 1 1 21) =
          some rewrittenReview) ∧
      ¬KeepsPublished publishedMeanwhile.store rewrittenReview.store) ∧
    ((automationCalls plainHashes).system.run ⟨{}, []⟩ configureMeanwhile =
        some configuredMeanwhile ∧ ¬PublicationLaw configuredMeanwhile.store) ∧
    (automationCalls plainHashes).system.run ⟨{}, []⟩ invokeMeanwhile = some invokedMeanwhile ∧
      ¬PublicationLaw invokedMeanwhile.store := by
  refine ⟨⟨⟨(Option.some_get _).symm, (Option.some_get _).symm⟩, fun h => ?_⟩,
    ⟨(Option.some_get _).symm, fun h => ?_⟩, (Option.some_get _).symm, fun h => ?_⟩
  · have hbefore : (publishedMeanwhile.store.revisions.get? 20).isSome := by decide +kernel
    obtain ⟨row, hrow⟩ := Option.isSome_iff_exists.mp hbefore
    have hpublished : (publishedMeanwhile.store.revisions.get? 20).all (·.published) := by
      decide +kernel
    rw [hrow] at hpublished
    obtain ⟨row', hrow', -, hcontent⟩ := h 20 row hrow hpublished
    have hsame : projectOf rewrittenReview.store 20 = projectOf publishedMeanwhile.store 20 := by
      rw [projectOf, projectOf, hrow, hrow', Option.bind_some, Option.bind_some, hcontent]
    revert hsame
    decide +kernel
  · have hall : ∀ p ∈ configuredMeanwhile.store.publications, p.published = some p.validated :=
      h.validated
    revert hall
    decide +kernel
  · have hbefore : (invokedMeanwhile.store.invocations.get? 10).isSome := by decide +kernel
    obtain ⟨row, hrow⟩ := Option.isSome_iff_exists.mp hbefore
    have hcurrent := h.invoked 10 row hrow
    have hnone : ∀ r ∈ invokedMeanwhile.store.requested, r.wasCurrent = false := by decide +kernel
    nomatch hnone _ hcurrent

end JavisSaas.Company.Operations
