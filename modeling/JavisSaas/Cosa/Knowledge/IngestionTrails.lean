import JavisSaas.Lib.Trails
import JavisSaas.Cosa.Knowledge.DocumentIngestions

/-!
# The recorded path of a document ingestion

* `ingestionLaw_along`: if a worker sends the stored claim token, names another state than
  `PUBLISHED` and does not patch the state, the audit events are a path to the stored state, only a
  review publishes, and a worker with another token changes nothing.
* `not_ingestionLaw_patchedState`: a worker with another token publishes by a patch.
-/

namespace JavisSaas.Cosa.Knowledge

open JavisSaas.Lib

/-! ## The law -/

/-- The audit events are a path of the table to the stored state; a published one was reviewed. -/
structure IngestionLaw (s : IngestionStore) : Prop where
  trail : ∀ id row, s.ingestions.get? id = some row →
    (s.eventsOf id = [] ∧ row.state = .uploading) ∨
      Trail .uploading (fun a b => b ∈ a.transitions) (s.eventsOf id) row.state
  reviewed : ∀ id row, s.ingestions.get? id = some row → row.state = .published →
    ∃ e ∈ s.auditEvents, e.ingestionId = id ∧ e.actorKind = .user ∧ e.newState = .published

/-- Only a review publishes, and another claim token changes nothing. -/
structure IngestionStepLaw (s : IngestionStore) (call : IngestionCall) (answers : IngestionAnswers) :
    Prop where
  published : ∀ s' call', call.step s answers = some (s', call') → ∀ id row',
    s'.ingestions.get? id = some row' → row'.state = .published →
      (∃ row, s.ingestions.get? id = some row ∧ row.state = .published) ∨
        ∃ input, call = .review input ∧ input.ingestionId = id ∧ input.decision = .published
  fenced : ∀ input, call = .transition input →
    ∀ row t, s.ingestions.get? input.ingestionId = some row → row.claimToken = some t →
      t ≠ input.claimToken → ∀ s' call', call.step s answers = some (s', call') → s' = s

/-- The creation is recorded first; an allowed transition carries the stored token, does not
publish, and patches no state. -/
def Proper (s : IngestionStore) : IngestionCall → IngestionAnswers → Prop
  | .auditing id _, _ => s.eventsOf id = []
  | .complete input, _ => ∀ row ∈ s.ingestions.get? input.ingestionId,
      row.state = .uploading → s.eventsOf input.ingestionId ≠ []
  | .transition input, _ => ∀ row ∈ s.ingestions.get? input.ingestionId,
      input.expects row.state → input.nextState ∈ row.state.transitions →
        s.eventsOf input.ingestionId ≠ [] ∧ (∀ t ∈ row.claimToken, t = input.claimToken) ∧
          input.nextState ≠ .published ∧
          ∀ value ∈ (input.patch.get? "state").join,
            ∀ state ∈ DocumentIngestionState.ofText? value, state = input.nextState
  | _, _ => True

instance (s : IngestionStore) (call : IngestionCall) (answers : IngestionAnswers) :
    Decidable (Proper s call answers) := by
  unfold Proper
  split <;> infer_instance

/-! ## What an operation writes -/

section Operations

variable {s s' : IngestionStore} {id : String} {row : DocumentIngestionRecord}

theorem find_eq_ok : s.find id = .ok row ↔ s.ingestions.get? id = some row := by
  unfold IngestionStore.find
  split
  · next r h => rw [h, Except.ok.injEq, Option.some.injEq]
  · next h => rw [h]; exact ⟨nofun, nofun⟩

theorem eventsOf_audit (e : IngestionAuditEvent) (id : String) : (s.audit e).eventsOf id =
    s.eventsOf id ++ if e.ingestionId = id then [(e.oldState, e.newState)] else [] := by
  show ((s.auditEvents ++ [e]).filter _).map _ = _
  rw [List.filter_append, List.map_append]
  split_ifs with h
  · rw [List.filter_singleton, decide_eq_true h]
    rfl
  · rw [List.filter_singleton, decide_eq_false h]
    rfl

theorem insert_eq_ok {input : CreateIngestion} {made : Bool}
    (h : s.insert id input = .ok (s', made)) :
    (s' = s ∧ made = false) ∨ (s.ingestions.get? id = none ∧ s' = s.put id input.row) := by
  unfold IngestionStore.insert at h
  split_ifs at h
  · cases h
    exact .inl ⟨rfl, rfl⟩
  · obtain ⟨hnew, h⟩ := require_bind_eq_ok.mp h
    cases h
    exact .inr ⟨hnew, rfl⟩

theorem auditCreation_eq_ok {createdBy : String} (h : s.auditCreation id createdBy = .ok s') :
    (s.ingestions.get? id).isSome ∧ s' = s.audit
      ⟨id, .system, createdBy, none, .uploading, "Document ingestion created"⟩ := by
  obtain ⟨hrow, h⟩ := require_bind_eq_ok.mp h
  exact ⟨hrow, (pure_eq_ok.mp h).symm⟩

theorem completeUpload_eq_ok {input : CompleteUpload} {scheduled : Except ApiError Unit}
    (h : s.completeUpload input scheduled = .ok s') :
    ∃ row row₁ row₂ reason₁ reason₂, s.ingestions.get? input.ingestionId = some row ∧
      row.state = .uploading ∧ row₁.state = .quarantined ∧ row₂.state = .queued ∧
      s' = ((((s.put input.ingestionId row₁).audit ⟨input.ingestionId, .system, input.actorId,
        some .uploading, .quarantined, reason₁⟩).put input.ingestionId row₂).audit
          ⟨input.ingestionId, .system, input.actorId, some .quarantined, .queued, reason₂⟩) := by
  obtain ⟨row, hrow, h⟩ := bind_eq_ok.mp h
  obtain ⟨hstate, h⟩ := require_bind_eq_ok.mp h
  have h := of_require h
  have h := of_require h
  have h := of_require h
  obtain ⟨_, h⟩ := of_bind h
  exact ⟨row, _, _, _, _, find_eq_ok.mp hrow, hstate, rfl, rfl, (pure_eq_ok.mp h).symm⟩

theorem state_of_assign {data : ColumnValues} {row row' : DocumentIngestionRecord}
    (h : data.assign row = .ok row') : ∃ value, data.column "state" row.state.text = .ok value ∧
      DocumentIngestionState.ofText? value = some row'.state := by
  have h := of_require h
  obtain ⟨_, h⟩ := of_bind h
  obtain ⟨_, h⟩ := of_bind h
  obtain ⟨_, h⟩ := of_bind h
  obtain ⟨_, h⟩ := of_bind h
  obtain ⟨_, h⟩ := of_bind h
  obtain ⟨_, h⟩ := of_bind h
  obtain ⟨state, hstate, h⟩ := bind_eq_ok.mp h
  obtain ⟨value, hvalue, hstate⟩ := bind_eq_ok.mp hstate
  cases h
  refine ⟨value, hvalue, ?_⟩
  split at hstate
  · next state' hof =>
    cases hstate
    exact hof
  · nomatch hstate

/-- The state that an update leaves is the one of the patch, or else the next state. -/
theorem state_of_updateData {input : WorkerTransition} {row row' : DocumentIngestionRecord}
    (h : input.updateData.assign row = .ok row') :
    row'.state = input.nextState ∨ ∃ value, (input.patch.get? "state").join = some value ∧
      DocumentIngestionState.ofText? value = some row'.state := by
  obtain ⟨value, hvalue, hof⟩ := state_of_assign h
  have hget : input.updateData.get? "state" =
      (input.patch.get? "state").or (some (some input.nextState.text)) := by
    rw [WorkerTransition.updateData, Dict.get?_update_items,
      Dict.get?_set_of_ne _ (by decide), Dict.get?_set_self]
  rw [ColumnValues.column, hget] at hvalue
  cases hpatch : input.patch.get? "state" with
  | none =>
    rw [hpatch] at hvalue
    cases hvalue
    rw [DocumentIngestionState.ofText?_text] at hof
    exact .inl (Option.some.inj hof).symm
  | some patched =>
    rw [hpatch] at hvalue
    cases patched with
    | none => nomatch hvalue
    | some text =>
      obtain rfl := Except.ok.inj hvalue
      exact .inr ⟨text, rfl, hof⟩

theorem transition_eq_ok {input : WorkerTransition}
    (h : s.transitionDocumentIngestionForWorker input = .ok s') :
    ∃ row row', s.ingestions.get? input.ingestionId = some row ∧ input.expects row.state ∧
      input.nextState ∈ row.state.transitions ∧ input.updateData.assign row = .ok row' ∧
      s' = (s.put input.ingestionId row').audit ⟨input.ingestionId, .worker, "worker-service",
        some row.state, input.nextState, "Transitioned to " ++ input.nextState.text⟩ := by
  obtain ⟨row, hrow, h⟩ := bind_eq_ok.mp h
  obtain ⟨hexpects, h⟩ := require_bind_eq_ok.mp h
  obtain ⟨hnext, h⟩ := require_bind_eq_ok.mp h
  obtain ⟨s₁, hupdate, h⟩ := bind_eq_ok.mp h
  obtain ⟨hfound, h⟩ := require_bind_eq_ok.mp h
  cases h
  obtain ⟨row', hassign, hupdate⟩ := bind_eq_ok.mp hupdate
  obtain ⟨id', -, hupdate⟩ := bind_eq_ok.mp hupdate
  have hupdate := of_require hupdate
  have hupdate := of_require hupdate
  have hupdate := of_require hupdate
  cases hupdate
  refine ⟨row, row', find_eq_ok.mp hrow, hexpects, hnext, hassign, ?_⟩
  -- An ingestion that took another id is not found under the old one.
  dsimp only at hfound ⊢
  split_ifs at hfound ⊢ with hid
  · rfl
  · rw [Dict.get?_set_of_ne _ hid, Dict.get?_erase, if_pos rfl] at hfound
    nomatch hfound

theorem review_eq_ok {input : ReviewIngestion} (h : s.reviewDocumentIngestion input = .ok s') :
    ∃ row, s.ingestions.get? input.ingestionId = some row ∧ row.state = .reviewPending ∧
      s' = (s.put input.ingestionId { row with state := input.decision.state }).audit
        ⟨input.ingestionId, .user, input.reviewerId, some row.state, input.decision.state,
          "Review decision: " ++ input.reason⟩ := by
  obtain ⟨row, hrow, h⟩ := bind_eq_ok.mp h
  have h := of_require h
  obtain ⟨hstate, h⟩ := require_bind_eq_ok.mp h
  exact ⟨row, find_eq_ok.mp hrow, hstate, (pure_eq_ok.mp h).symm⟩

end Operations

/-! ## What stays -/

/-- The law, and that the events are of ingestions that there are. -/
structure IngestionInv (s : IngestionStore) : Prop extends IngestionLaw s where
  owned : ∀ e ∈ s.auditEvents, (s.ingestions.get? e.ingestionId).isSome

section Kept

variable {s s' : IngestionStore} {call : IngestionCall} {answers : IngestionAnswers}
  {id : String}

theorem IngestionInv.eventsOf_eq_nil (h : IngestionInv s) (hnone : s.ingestions.get? id = none) :
    s.eventsOf id = [] := by
  refine List.map_eq_nil_iff.mpr (List.filter_eq_nil_iff.mpr fun e he hid => ?_)
  have howned := h.owned e he
  rw [of_decide_eq_true hid, hnone] at howned
  nomatch howned

theorem IngestionInv.inserted (h : IngestionInv s) (input : CreateIngestion)
    (hnew : s.ingestions.get? id = none) : IngestionInv (s.put id input.row) := by
  have hget : ∀ id', (s.put id input.row).ingestions.get? id' =
      if id = id' then some input.row else s.ingestions.get? id' := fun id' => Dict.get?_set ..
  refine ⟨⟨fun id' row hrow => ?_, fun id' row hrow hstate => ?_⟩, fun e he => ?_⟩
  · rw [hget] at hrow
    split_ifs at hrow with hid
    · cases hrow
      exact .inl ⟨h.eventsOf_eq_nil (hid ▸ hnew), rfl⟩
    · exact h.trail id' row hrow
  · rw [hget] at hrow
    split_ifs at hrow with hid
    · cases hrow
      nomatch hstate
    · exact h.reviewed id' row hrow hstate
  · rw [hget]
    split_ifs
    · rfl
    · exact h.owned e he

theorem IngestionInv.created (h : IngestionInv s) {createdBy reason : String}
    (hsome : (s.ingestions.get? id).isSome) (hevents : s.eventsOf id = []) :
    IngestionInv (s.audit ⟨id, .system, createdBy, none, .uploading, reason⟩) := by
  refine ⟨⟨fun id' row hrow => ?_, fun id' row hrow hstate => ?_⟩, fun e he => ?_⟩
  · rw [eventsOf_audit]
    dsimp only
    split_ifs with hid
    · subst hid
      rcases h.trail id row hrow with ⟨-, hstate⟩ | htrail
      · rw [hevents, hstate]
        exact .inr .start
      · exact absurd hevents htrail.ne_nil
    · rw [List.append_nil]
      exact h.trail id' row hrow
  · obtain ⟨e, he, hrest⟩ := h.reviewed id' row hrow hstate
    exact ⟨e, List.mem_append_left _ he, hrest⟩
  · rcases mem_concat he with he | rfl
    · exact h.owned e he
    · exact hsome

variable {row row' : DocumentIngestionRecord} {call' : Option IngestionCall}

theorem IngestionInv.changed (h : IngestionInv s) {e : IngestionAuditEvent}
    (hrow : s.ingestions.get? e.ingestionId = some row) (hevents : s.eventsOf e.ingestionId ≠ [])
    (hold : e.oldState = some row.state) (hnew : e.newState = row'.state)
    (hallowed : row'.state ∈ row.state.transitions)
    (hkind : row'.state = .published → e.actorKind = .user) :
    IngestionInv ((s.put e.ingestionId row').audit e) := by
  have hget : ∀ id, ((s.put e.ingestionId row').audit e).ingestions.get? id =
      if e.ingestionId = id then some row' else s.ingestions.get? id := fun id => Dict.get?_set ..
  refine ⟨⟨fun id found hfound => ?_, fun id found hfound hpublished => ?_⟩, fun e' he' => ?_⟩
  · rw [eventsOf_audit]
    rw [hget] at hfound
    split_ifs at hfound ⊢ with hid
    · subst hid
      cases hfound
      rcases h.trail _ row hrow with ⟨hnil, -⟩ | htrail
      · exact absurd hnil hevents
      · rw [hold, hnew]
        exact .inr (htrail.next hallowed)
    · rw [List.append_nil]
      exact h.trail id found hfound
  · rw [hget] at hfound
    split_ifs at hfound with hid
    · cases hfound
      exact ⟨e, List.mem_concat_self, hid, hkind hpublished,
        hnew.trans hpublished⟩
    · obtain ⟨e', he', hrest⟩ := h.reviewed id found hfound hpublished
      exact ⟨e', List.mem_append_left _ he', hrest⟩
  · rw [hget]
    split_ifs with hid
    · rfl
    · rcases mem_concat he' with he' | rfl
      · exact h.owned e' he'
      · exact absurd rfl hid

theorem IngestionInv.uploaded (h : IngestionInv s) {row₁ row₂ : DocumentIngestionRecord}
    {actor reason₁ reason₂ : String} (hrow : s.ingestions.get? id = some row)
    (hevents : s.eventsOf id ≠ []) (hstate : row.state = .uploading)
    (hstate₁ : row₁.state = .quarantined) (hstate₂ : row₂.state = .queued) :
    IngestionInv ((((s.put id row₁).audit
      ⟨id, .system, actor, some .uploading, .quarantined, reason₁⟩).put id row₂).audit
        ⟨id, .system, actor, some .quarantined, .queued, reason₂⟩) := by
  have hfirst : IngestionInv ((s.put id row₁).audit
      ⟨id, .system, actor, some .uploading, .quarantined, reason₁⟩) :=
    h.changed (e := ⟨id, .system, actor, some .uploading, .quarantined, reason₁⟩) hrow hevents
      (by rw [hstate]) hstate₁.symm (by rw [hstate, hstate₁]; decide) (by rw [hstate₁]; exact nofun)
  refine hfirst.changed (e := ⟨id, .system, actor, some .quarantined, .queued, reason₂⟩)
    (Dict.get?_set_self ..) ?_ (by rw [hstate₁]) hstate₂.symm (by rw [hstate₁, hstate₂]; decide)
    (by rw [hstate₂]; exact nofun)
  rw [eventsOf_audit, if_pos rfl]
  exact List.concat_ne_nil _ _

theorem state_of_proper {input : WorkerTransition} (hproper : Proper s (.transition input) answers)
    (hrow : s.ingestions.get? input.ingestionId = some row) (hexpects : input.expects row.state)
    (hnext : input.nextState ∈ row.state.transitions)
    (hassign : input.updateData.assign row = .ok row') :
    row'.state = input.nextState ∧ input.nextState ≠ .published := by
  obtain ⟨-, -, hpublished, hpatch⟩ := hproper row hrow hexpects hnext
  refine ⟨?_, hpublished⟩
  rcases state_of_updateData hassign with hstate | ⟨value, hvalue, hof⟩
  · exact hstate
  · exact hpatch value hvalue _ hof

theorem ingestionInv_of_perform (h : IngestionInv s) (hproper : Proper s call answers)
    (hs : call.perform s answers = .ok (s', call')) :
    IngestionInv s' := by
  cases call with
  | create input =>
    obtain ⟨⟨s₁, made⟩, hinsert, hs⟩ := bind_eq_ok.mp hs
    cases hs
    rcases insert_eq_ok hinsert with ⟨rfl, -⟩ | ⟨hnew, rfl⟩
    · exact h
    · exact h.inserted input hnew
  | auditing =>
    obtain ⟨s₁, haudit, hs⟩ := bind_eq_ok.mp hs
    cases hs
    obtain ⟨hsome, rfl⟩ := auditCreation_eq_ok haudit
    exact h.created hsome hproper
  | complete =>
    obtain ⟨s₁, hcomplete, hs⟩ := bind_eq_ok.mp hs
    cases hs
    obtain ⟨row, row₁, row₂, reason₁, reason₂, hrow, hstate, hstate₁, hstate₂, rfl⟩ :=
      completeUpload_eq_ok hcomplete
    exact h.uploaded hrow (hproper row hrow hstate) hstate hstate₁ hstate₂
  | transition input =>
    obtain ⟨s₁, htransition, hs⟩ := bind_eq_ok.mp hs
    cases hs
    obtain ⟨row, row', hrow, hexpects, hnext, hassign, rfl⟩ := transition_eq_ok htransition
    obtain ⟨hstate, hpublished⟩ := state_of_proper hproper hrow hexpects hnext hassign
    refine h.changed (e := ⟨input.ingestionId, .worker, _, some row.state, input.nextState, _⟩)
      hrow (hproper row hrow hexpects hnext).1 rfl hstate.symm (hstate ▸ hnext) fun hnew => ?_
    exact absurd (hstate.symm.trans hnew) hpublished
  | review input =>
    obtain ⟨s₁, hreview, hs⟩ := bind_eq_ok.mp hs
    cases hs
    obtain ⟨row, hrow, hstate, rfl⟩ := review_eq_ok hreview
    have hevents : s.eventsOf input.ingestionId ≠ [] := by
      rcases h.trail _ row hrow with ⟨-, huploading⟩ | htrail
      · nomatch hstate.symm.trans huploading
      · exact htrail.ne_nil
    refine h.changed (e := ⟨input.ingestionId, .user, _, some row.state, input.decision.state, _⟩)
      hrow hevents rfl rfl ?_ fun _ => rfl
    show input.decision.state ∈ row.state.transitions
    rw [hstate]
    cases input.decision with
    | published | rejected => decide

theorem step_eq (h : call.step s answers = some (s', call')) :
    (s' = s ∧ call' = none) ∨ call.perform s answers = .ok (s', call') := by
  have h := Option.some.inj h
  cases hperform : call.perform s answers with
  | error =>
    rw [hperform] at h
    cases h
    exact .inl ⟨rfl, rfl⟩
  | ok =>
    rw [hperform] at h
    exact .inr (congrArg Except.ok h)

theorem ingestionRule : ingestionCalls.Rule Proper IngestionInv fun _ _ => True where
  start _ _ _ := trivial
  step s call answers s' call' h _ hproper hs := by
    refine ⟨?_, fun _ _ => trivial, fun _ _ => trivial⟩
    rcases step_eq hs with ⟨rfl, -⟩ | hperform
    · exact h
    · exact ingestionInv_of_perform h hproper hperform
  abort _ _ h _ := ⟨h, fun _ _ => trivial⟩

/-! ## The law of a step -/

/-- A row that a step leaves published was so before, or a review has published it. -/
theorem published_of_perform (hproper : Proper s call answers)
    (hs : call.perform s answers = .ok (s', call')) (hrow' : s'.ingestions.get? id = some row')
    (hstate : row'.state = .published) :
    (∃ row, s.ingestions.get? id = some row ∧ row.state = .published) ∨
      ∃ input, call = .review input ∧ input.ingestionId = id ∧ input.decision = .published := by
  -- A put row that is not published leaves the published ones as they were.
  have hput : ∀ {t : IngestionStore} {key : String} {new : DocumentIngestionRecord},
      (t.put key new).ingestions.get? id = some row' → new.state ≠ .published →
        t.ingestions.get? id = some row' := by
    intro t key new hget hnew
    rw [IngestionStore.put, Dict.get?_set] at hget
    split_ifs at hget with hkey
    · exact absurd hstate (Option.some.inj hget ▸ hnew)
    · exact hget
  cases call with
  | create =>
    obtain ⟨⟨s₁, made⟩, hinsert, hs⟩ := bind_eq_ok.mp hs
    cases hs
    rcases insert_eq_ok hinsert with ⟨rfl, -⟩ | ⟨hnew, rfl⟩
    · exact .inl ⟨row', hrow', hstate⟩
    · exact .inl ⟨row', hput hrow' nofun, hstate⟩
  | auditing =>
    obtain ⟨s₁, haudit, hs⟩ := bind_eq_ok.mp hs
    cases hs
    obtain ⟨-, rfl⟩ := auditCreation_eq_ok haudit
    exact .inl ⟨row', hrow', hstate⟩
  | complete =>
    obtain ⟨s₁, hcomplete, hs⟩ := bind_eq_ok.mp hs
    cases hs
    obtain ⟨row, row₁, row₂, _, _, -, -, hstate₁, hstate₂, rfl⟩ := completeUpload_eq_ok hcomplete
    have hrow₁ := hput hrow' (by rw [hstate₂]; decide)
    exact .inl ⟨row', hput hrow₁ (by rw [hstate₁]; decide), hstate⟩
  | transition =>
    obtain ⟨s₁, htransition, hs⟩ := bind_eq_ok.mp hs
    cases hs
    obtain ⟨row, new, hrow, hexpects, hnext, hassign, rfl⟩ := transition_eq_ok htransition
    obtain ⟨hnew, hpublished⟩ := state_of_proper hproper hrow hexpects hnext hassign
    exact .inl ⟨row', hput hrow' (hnew ▸ hpublished), hstate⟩
  | review input =>
    obtain ⟨s₁, hreview, hs⟩ := bind_eq_ok.mp hs
    cases hs
    obtain ⟨row, hrow, -, rfl⟩ := review_eq_ok hreview
    by_cases hid : input.ingestionId = id
    · have hself : some { row with state := input.decision.state } = some row' := by
        rw [← hrow', ← hid]
        exact (Dict.get?_set_self ..).symm
      cases hself
      refine .inr ⟨input, rfl, hid, ?_⟩
      cases hdecision : input.decision with
      | published => rfl
      | rejected =>
        rw [hdecision] at hstate
        nomatch hstate
    · exact .inl ⟨row', (Dict.get?_set_of_ne _ hid _).symm.trans hrow', hstate⟩

theorem ingestionStepLaw_of_proper (hproper : Proper s call answers) :
    IngestionStepLaw s call answers where
  published s' call' hs id row' hrow' hstate := by
    rcases step_eq hs with ⟨rfl, -⟩ | hperform
    · exact .inl ⟨row', hrow', hstate⟩
    · exact published_of_perform hproper hperform hrow' hstate
  fenced := by
    rintro input rfl row t hrow ht hne s' call' hs
    rcases step_eq hs with ⟨rfl, -⟩ | hperform
    · rfl
    · obtain ⟨s₁, htransition, -⟩ := bind_eq_ok.mp hperform
      obtain ⟨row₁, -, hrow₁, hexpects, hnext, -⟩ := transition_eq_ok htransition
      cases hrow.symm.trans hrow₁
      exact absurd ((hproper row hrow hexpects hnext).2.1 t ht) hne

end Kept

/-! ## Every run -/

/-- If every step meets the condition, the law holds after every run and of every step. -/
theorem ingestionLaw_along {s' : InFlight IngestionStore IngestionCall}
    {ls : List (CallLabel IngestionRequest IngestionAnswers)}
    (hcond : ingestionCalls.system.Along (Service.Meets Proper) { store := {} } ls)
    (hs : ingestionCalls.system.run { store := {} } ls = some s') :
    IngestionLaw s'.store ∧
      ingestionCalls.system.Along (Service.Meets IngestionStepLaw) { store := {} } ls := by
  have hempty : IngestionInv {} :=
    ⟨⟨fun _ _ h => (nomatch h), fun _ _ h => (nomatch h)⟩, fun _ h => (nomatch h)⟩
  refine ⟨(ingestionRule.inv_of_along (.of_empty hempty) hcond hs).store.toIngestionLaw, ?_⟩
  exact ingestionRule.along (.of_empty hempty) (fun _ _ _ _ _ hG => ingestionStepLaw_of_proper hG)
    hcond

/-! ## One document -/

/-- A document is created, uploaded and claimed by a worker. -/
def claimedRun : List (CallLabel IngestionRequest IngestionAnswers) :=
  [.start (.create ⟨"org", "alice", "plan.md", "text/markdown", "key"⟩),
    .step 0 { newId := "ing_1" }, .step 0 {},
    .start (.complete ⟨"ing_1", "worker:broker", "text/markdown", 2048, "sha", "object"⟩), .step 1 {},
    .start (.transition ⟨"ing_1", "claim_1", [.queued], .validating, ∅⟩), .step 2 {}]

/-- The same worker brings it to its review, and a reviewer publishes it. -/
def reviewedRun : List (CallLabel IngestionRequest IngestionAnswers) :=
  claimedRun ++
    ([.start (.transition ⟨"ing_1", "claim_1", [.validating], .converting, ∅⟩), .step 3 {},
      .start (.transition ⟨"ing_1", "claim_1", [], .reviewPending, ∅⟩), .step 4 {},
      .start (.review ⟨"org", "ing_1", "bob", .published, "looks good"⟩), .step 5 {}] :
        List (CallLabel IngestionRequest IngestionAnswers))

/-- Another worker patches the state. -/
def patchedRun : List (CallLabel IngestionRequest IngestionAnswers) :=
  claimedRun ++
    ([.start (.transition ⟨"ing_1", "claim_2", [.validating], .converting,
      (∅ : ColumnValues).set "state" (some "PUBLISHED")⟩), .step 3 {}] :
        List (CallLabel IngestionRequest IngestionAnswers))

theorem ingestionLaw_along_reviewed :
    IngestionLaw ((ingestionCalls.system.run { store := {} } reviewedRun).get
      (by decide +kernel)).store ∧
      ingestionCalls.system.Along (Service.Meets IngestionStepLaw) { store := {} } reviewedRun :=
  ingestionLaw_along (by decide +kernel) (Option.some_get _).symm

/-- Nobody reviewed the document that the second worker published. -/
theorem not_ingestionLaw_patchedState :
    ¬∀ ls s', ingestionCalls.system.run { store := {} } ls = some s' →
      IngestionLaw s'.store ∧
        ingestionCalls.system.Along (Service.Meets IngestionStepLaw) { store := {} } ls := by
  intro h
  have hlaw := (h patchedRun ((ingestionCalls.system.run { store := {} } patchedRun).get
    (by decide +kernel)) (Option.some_get _).symm).1
  obtain ⟨e, he, -, hkind, -⟩ := hlaw.reviewed "ing_1"
    ((((ingestionCalls.system.run { store := {} } patchedRun).get
      (by decide +kernel)).store.ingestions.get? "ing_1").get (by decide +kernel))
    (Option.some_get _).symm (by decide +kernel)
  have hworkers : ∀ e ∈ ((ingestionCalls.system.run { store := {} } patchedRun).get
      (by decide +kernel)).store.auditEvents, e.actorKind ≠ .user := by decide +kernel
  exact hworkers e he hkind

end JavisSaas.Cosa.Knowledge
