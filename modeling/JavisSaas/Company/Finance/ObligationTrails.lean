import JavisSaas.Company.Finance.LegalObligations

/-!
# The recorded path of a legal obligation

* `obligationLaw_of_run`: after creations and transitions in any order, the logged transitions of an
  instance are a path of the allowed table from `OPEN` to its status; a fulfilled one had evidence,
  an exempt one a rationale; and a fulfilled instance stays as it is.
-/

namespace JavisSaas.Company.Finance

open JavisSaas.Lib
open ObligationCall (checking perform reading step writing)

/-! ## The law -/

/-- The log and the statuses agree, with what the law asks for beside a fulfilment and an
    exemption. -/
structure ObligationLaw (s : ObligationStore) : Prop where
  trail : ∀ id row, s.instances.get? id = some row →
    Trail .open (fun a b => b ∈ a.allowedTransitions) ((none, .open) :: s.transitionsOf id)
      row.status.canonical
  owned : ∀ t ∈ s.transitions, (s.instances.get? t.obligationInstanceId).isSome
  evidence : ∀ id row, s.instances.get? id = some row → row.status = .status .fulfilled →
    HasEvidence row.evidenceArtifactId row.evidenceRefs
  loggedEvidence : ∀ t ∈ s.transitions, t.toStatus = .fulfilled →
    HasEvidence t.evidenceArtifactId t.evidenceRefs
  loggedRationale : ∀ t ∈ s.transitions, t.toStatus = .exempt → HasRationale t.rationale

/-- Instances stay, with each change of status logged, and a fulfilled one as it is. -/
structure ObligationStepLaw (bigInt : String → Except ApiError ℤ) (s : ObligationStore)
    (call : ObligationCall) (answers : ObligationAnswers) : Prop where
  recorded : ∀ s' call', call.step bigInt s answers = some (s', call') → ∀ id row,
    s.instances.get? id = some row → ∃ row', s'.instances.get? id = some row' ∧
      s'.transitionsOf id = s.transitionsOf id ++
        if row'.status.canonical = row.status.canonical then []
        else [(some row.status.canonical, row'.status.canonical)]
  fulfilled : ∀ s' call', call.step bigInt s answers = some (s', call') → ∀ id row,
    s.instances.get? id = some row → row.status = .status .fulfilled →
      s'.instances.get? id = some row

/-- A store before the first transition: every instance is open, under either name. -/
structure ObligationStore.Untouched (s : ObligationStore) : Prop where
  isOpen : ∀ row ∈ s.instances.values, row.status.canonical = .open
  unlogged : s.transitions = []

instance (s : ObligationStore) : Decidable s.Untouched :=
  decidable_of_iff ((∀ row ∈ s.instances.values, row.status.canonical = .open) ∧
    s.transitions = []) ⟨fun h => ⟨h.1, h.2⟩, fun h => ⟨h.1, h.2⟩⟩

/-- What a call has checked. -/
def ObligationCall.Checked : ObligationCall → Prop
  | .reading _ input =>
    (input.toStatus = .fulfilled →
      HasEvidence input.evidenceArtifactId (input.evidenceRefs.getD [])) ∧
      (input.toStatus = .exempt → HasRationale input.rationale)
  | .writing _ input current =>
    ((input.toStatus = .fulfilled →
      HasEvidence input.evidenceArtifactId (input.evidenceRefs.getD [])) ∧
      (input.toStatus = .exempt → HasRationale input.rationale)) ∧
        input.toStatus ∈ current.status.canonical.allowedTransitions
  | _ => True

/-! ## What an operation writes -/

theorem checked_none : ∀ c ∈ (none : Option ObligationCall), c.Checked := fun _ hc => nomatch hc

section Operations

variable {bigInt : String → Except ApiError ℤ} {s s' : ObligationStore}
  {answers : ObligationAnswers}

theorem transitionsOf_log (t : ObligationTransition) (id : ℤ) : (s.log t).transitionsOf id =
    s.transitionsOf id ++
      if t.obligationInstanceId = id then [(some t.fromStatus, t.toStatus)] else [] := by
  show ((s.transitions ++ [t]).filter _).map _ = _
  rw [List.filter_append, List.map_append]
  split_ifs with h
  · rw [List.filter_singleton, decide_eq_true h]
    rfl
  · rw [List.filter_singleton, decide_eq_false h]
    rfl

theorem insertInstance_eq_ok {p : CreateObligationInstance}
    (h : s.insertInstance p answers = .ok s') :
    s.instances.get? answers.newId = none ∧ s' = s.put answers.newId p.row := by
  obtain ⟨hnew, h⟩ := require_bind_eq_ok.mp h
  have h := of_require h
  obtain ⟨-, -, h⟩ := bind_eq_ok.mp h
  exact ⟨hnew, (pure_eq_ok.mp h).symm⟩

theorem findInstance_eq_some {workspaceId instanceId : ℤ} {row : LegalObligationInstance}
    (h : s.findInstance workspaceId instanceId = some row) :
    s.instances.get? instanceId = some row :=
  (Option.filter_eq_some_iff.mp h).1

variable {ctx : Option ObligationContext} {input : TransitionObligationInput}

theorem obligationUpdate_eq_ok {current : LegalObligationInstance}
    (h : s.casUpdate bigInt ctx input current answers = .ok s') :
    ∃ row actor, s.instances.get? input.instanceId = some row ∧ row.status = current.status ∧
      s' = (s.put input.instanceId (input.updated current row)).log
        (input.transition answers.newId actor current) := by
  unfold ObligationStore.casUpdate at h
  split at h
  · nomatch h
  · next row hrow =>
    obtain ⟨actor, -, h⟩ := bind_eq_ok.mp h
    have h := of_require h
    obtain ⟨-, -, h⟩ := bind_eq_ok.mp h
    obtain ⟨hfind, hstatus⟩ := Option.filter_eq_some_iff.mp hrow
    exact ⟨row, actor, findInstance_eq_some hfind, of_decide_eq_true hstatus,
      (pure_eq_ok.mp h).symm⟩

theorem checked_of_checking {call' : Option ObligationCall}
    (h : (checking ctx input).perform bigInt s answers = .ok (s', call')) :
    s' = s ∧ ∀ c ∈ call', c.Checked := by
  obtain ⟨-, -, h⟩ := bind_eq_ok.mp h
  obtain ⟨hevidence, h⟩ := require_bind_eq_ok.mp h
  obtain ⟨hrationale, h⟩ := require_bind_eq_ok.mp h
  cases h
  refine ⟨rfl, ?_⟩
  rintro c ⟨⟩
  exact ⟨hevidence, hrationale⟩

theorem checked_of_reading {call' : Option ObligationCall}
    (hchecked : (reading ctx input).Checked)
    (h : (reading ctx input).perform bigInt s answers = .ok (s', call')) :
    s' = s ∧ ∀ c ∈ call', c.Checked := by
  cases hfind : s.findInstance input.workspaceId input.instanceId with
  | none =>
    simp only [perform, hfind] at h
    cases h
  | some =>
    simp only [perform, hfind] at h
    split_ifs at h with hsame
    · cases h
      exact ⟨rfl, checked_none⟩
    · obtain ⟨_, hcheck, h⟩ := bind_eq_ok.mp h
      cases h
      obtain ⟨-, hallowed⟩ := require_bind_eq_ok.mp hcheck
      refine ⟨rfl, ?_⟩
      rintro c ⟨⟩
      exact ⟨hchecked, require_eq_ok.mp hallowed⟩

theorem hasEvidence_updated (h : HasEvidence input.evidenceArtifactId (input.evidenceRefs.getD []))
    (current row : LegalObligationInstance) :
    HasEvidence (input.updated current row).evidenceArtifactId
      (input.updated current row).evidenceRefs := by
  rcases h with hartifact | ⟨ref, href, htrim⟩
  · refine .inl ?_
    show (orFalsy 0 (input.evidenceArtifactId <|> current.evidenceArtifactId)).isSome
    cases hid : input.evidenceArtifactId with
    | none =>
      rw [hid] at hartifact
      nomatch hartifact
    | some =>
      rw [hid] at hartifact
      exact hartifact
  · refine .inr ⟨ref, ?_, htrim⟩
    show ref ∈ input.evidenceRefs.getD current.evidenceRefs
    cases hrefs : input.evidenceRefs with
    | none =>
      rw [hrefs] at href
      nomatch href
    | some =>
      rw [hrefs] at href
      exact href

end Operations

/-! ## What stays -/

section Kept

variable {bigInt : String → Except ApiError ℤ} {s s' : ObligationStore} {call : ObligationCall}
  {answers : ObligationAnswers} {id : ℤ}

theorem ObligationStore.Untouched.law (h : s.Untouched) : ObligationLaw s := by
  have hnil : ∀ id, s.transitionsOf id = [] := fun id => by
    rw [ObligationStore.transitionsOf, h.unlogged]
    rfl
  have hopen : ∀ id row, s.instances.get? id = some row → row.status.canonical = .open :=
    fun id row hrow => h.isOpen row (Dict.mem_values.mpr ⟨id, hrow⟩)
  refine ⟨fun id row hrow => ?_, fun t ht => ?_, fun id row hrow hstatus => ?_, fun t ht => ?_,
    fun t ht => ?_⟩
  · rw [hnil id, hopen id row hrow]
    exact .start
  · exact absurd (h.unlogged ▸ ht) List.not_mem_nil
  · have hfulfilled := hopen id row hrow
    rw [hstatus] at hfulfilled
    nomatch hfulfilled
  · exact absurd (h.unlogged ▸ ht) List.not_mem_nil
  · exact absurd (h.unlogged ▸ ht) List.not_mem_nil

theorem ObligationLaw.transitionsOf_eq_nil (h : ObligationLaw s)
    (hnone : s.instances.get? id = none) : s.transitionsOf id = [] := by
  refine List.map_eq_nil_iff.mpr (List.filter_eq_nil_iff.mpr fun t ht hid => ?_)
  have howned := h.owned t ht
  rw [of_decide_eq_true hid, hnone] at howned
  nomatch howned

theorem ObligationLaw.inserted (h : ObligationLaw s) (p : CreateObligationInstance)
    (hnew : s.instances.get? id = none) : ObligationLaw (s.put id p.row) := by
  have hget : ∀ id', (s.put id p.row).instances.get? id' =
      if id = id' then some p.row else s.instances.get? id' := fun id' => Dict.get?_set ..
  refine ⟨fun id' row hrow => ?_, fun t ht => ?_, fun id' row hrow hstatus => ?_,
    h.loggedEvidence, h.loggedRationale⟩
  · rw [hget] at hrow
    split_ifs at hrow with hid
    · cases hrow
      obtain rfl := hid
      show Trail _ _ ((none, .open) :: s.transitionsOf id) .open
      rw [h.transitionsOf_eq_nil hnew]
      exact .start
    · exact h.trail id' row hrow
  · rw [hget]
    split_ifs
    · rfl
    · exact h.owned t ht
  · rw [hget] at hrow
    split_ifs at hrow with hid
    · cases hrow
      nomatch hstatus
    · exact h.evidence id' row hrow hstatus

/-- The update of a checked transition, of a row whose status is the one that was read. -/
theorem ObligationLaw.changed (h : ObligationLaw s) {ctx : Option ObligationContext}
    {input : TransitionObligationInput} {current row : LegalObligationInstance}
    (hchecked : (writing ctx input current).Checked)
    (hrow : s.instances.get? input.instanceId = some row) (hstatus : row.status = current.status)
    (newId : ℤ) (actor : Option ℤ) :
    ObligationLaw ((s.put input.instanceId (input.updated current row)).log
      (input.transition newId actor current)) := by
  obtain ⟨⟨hevidence, hrationale⟩, hallowed⟩ := hchecked
  have hget : ∀ id, (s.put input.instanceId (input.updated current row)).instances.get? id =
      if input.instanceId = id then some (input.updated current row)
      else s.instances.get? id := fun id => Dict.get?_set ..
  refine ⟨fun id found hfound => ?_, fun t ht => ?_, fun id found hfound hfulfilled => ?_,
    fun t ht => ?_, fun t ht => ?_⟩
  · change (s.put _ _).instances.get? id = _ at hfound
    rw [hget] at hfound
    rw [transitionsOf_log]
    show Trail _ _ ((none, .open) :: (s.transitionsOf id ++
      if input.instanceId = id then _ else [])) _
    split_ifs at hfound ⊢ with hid
    · cases hfound
      obtain rfl := hid
      have htrail := h.trail _ row hrow
      rw [hstatus] at htrail
      exact htrail.next hallowed
    · rw [List.append_nil]
      exact h.trail id found hfound
  · show ((s.put _ _).instances.get? _).isSome
    rw [hget]
    split_ifs with hid
    · rfl
    · rcases mem_concat ht with ht | rfl
      · exact h.owned t ht
      · exact absurd rfl hid
  · change (s.put _ _).instances.get? id = _ at hfound
    rw [hget] at hfound
    split_ifs at hfound with hid
    · cases hfound
      exact hasEvidence_updated (hevidence (StoredStatus.status.inj hfulfilled)) current row
    · exact h.evidence id found hfound hfulfilled
  · rcases mem_concat ht with ht | rfl
    · exact h.loggedEvidence t ht
    · exact hevidence
  · rcases mem_concat ht with ht | rfl
    · exact h.loggedRationale t ht
    · exact hrationale

theorem obligationStep_eq {call' : Option ObligationCall}
    (h : call.step bigInt s answers = some (s', call')) :
    (s' = s ∧ call' = none) ∨ call.perform bigInt s answers = .ok (s', call') := by
  unfold step at h
  split at h
  · next r hr => exact .inr (hr.trans (congrArg Except.ok (Option.some.inj h)))
  · cases h
    exact .inl ⟨rfl, rfl⟩

/-- What a step does: nothing to the store, an insert, or an update with its row of the log. -/
theorem obligationStep_cases {call' : Option ObligationCall} (hchecked : call.Checked)
    (h : call.step bigInt s answers = some (s', call')) :
    (∀ c ∈ call', c.Checked) ∧ (s' = s ∨
      (∃ p, s.instances.get? answers.newId = none ∧
        s' = s.put answers.newId (CreateObligationInstance.row p)) ∨
      ∃ ctx input current row actor, call = .writing ctx input current ∧
        s.instances.get? input.instanceId = some row ∧ row.status = current.status ∧
        s' = (s.put input.instanceId (input.updated current row)).log
          (input.transition answers.newId actor current)) := by
  rcases obligationStep_eq h with ⟨rfl, rfl⟩ | hperform
  · exact ⟨checked_none, .inl rfl⟩
  cases call with
  | finding =>
    cases hperform
    refine ⟨fun c hc => ?_, .inl rfl⟩
    split_ifs at hc
    · nomatch hc
    · cases hc
      trivial
  | inserting p =>
    obtain ⟨s₁, hinsert, hperform⟩ := bind_eq_ok.mp hperform
    cases hperform
    exact ⟨checked_none, .inr (.inl ⟨p, insertInstance_eq_ok hinsert⟩)⟩
  | checking =>
    obtain ⟨rfl, hcall'⟩ := checked_of_checking hperform
    exact ⟨hcall', .inl rfl⟩
  | reading =>
    obtain ⟨rfl, hcall'⟩ := checked_of_reading hchecked hperform
    exact ⟨hcall', .inl rfl⟩
  | writing ctx input current =>
    obtain ⟨s₁, hupdate, hperform⟩ := bind_eq_ok.mp hperform
    cases hperform
    obtain ⟨row, actor, hrow, hstatus, rfl⟩ := obligationUpdate_eq_ok hupdate
    exact ⟨checked_none,
      .inr (.inr ⟨ctx, input, current, row, actor, rfl, hrow, hstatus, rfl⟩)⟩

theorem obligationRule : (obligationCalls bigInt).Rule (fun _ _ _ => True) ObligationLaw
    fun _ call => call.Checked where
  start s req _ := by
    cases req with
    | create | transition => trivial
  step s call answers s' call' h hchecked _ hs := by
    obtain ⟨hcall', hstore⟩ := obligationStep_cases hchecked hs
    refine ⟨?_, fun _ hd => hd, hcall'⟩
    rcases hstore with rfl | ⟨p, hnew, rfl⟩ |
      ⟨ctx, input, current, row, actor, rfl, hrow, hstatus, rfl⟩
    · exact h
    · exact h.inserted p hnew
    · exact h.changed hchecked hrow hstatus answers.newId actor
  abort _ _ h _ := ⟨h, fun _ hd => hd⟩

/-! ## The law of a step -/

theorem obligationStepLaw_of_checked (h : ObligationLaw s) (hchecked : call.Checked) :
    ObligationStepLaw bigInt s call answers where
  recorded s' call' hs id row hrow := by
    obtain ⟨-, rfl | ⟨p, hnew, rfl⟩ |
      ⟨ctx, input, current, found, actor, rfl, hfound, hstatus, rfl⟩⟩ :=
        obligationStep_cases hchecked hs
    · exact ⟨row, hrow, by rw [if_pos rfl, List.append_nil]⟩
    · have hid : answers.newId ≠ id := by
        rintro rfl
        nomatch hnew.symm.trans hrow
      refine ⟨row, (Dict.get?_set_of_ne _ hid _).trans hrow, ?_⟩
      rw [if_pos rfl, List.append_nil]
      rfl
    · rw [transitionsOf_log]
      by_cases hid : input.instanceId = id
      · subst hid
        obtain rfl := Option.some.inj (hfound.symm.trans hrow)
        refine ⟨input.updated current found, Dict.get?_set_self .., ?_⟩
        have hne : input.toStatus ≠ found.status.canonical := by
          intro heq
          have hallowed := hchecked.2
          rw [← hstatus, heq] at hallowed
          exact ObligationStatus.not_mem_allowedTransitions_self _ hallowed
        show _ ++ (if input.instanceId = input.instanceId then
          [(some current.status.canonical, input.toStatus)] else []) =
            _ ++ if input.toStatus = found.status.canonical then []
              else [(some found.status.canonical, input.toStatus)]
        rw [if_pos rfl, if_neg hne, hstatus]
        rfl
      · refine ⟨row, (Dict.get?_set_of_ne _ hid _).trans hrow, ?_⟩
        show _ ++ (if input.instanceId = id then _ else []) = _
        rw [if_neg hid, if_pos rfl]
        rfl
  fulfilled s' call' hs id row hrow hfulfilled := by
    obtain ⟨-, rfl | ⟨p, hnew, rfl⟩ |
      ⟨ctx, input, current, found, actor, rfl, hfound, hstatus, rfl⟩⟩ :=
        obligationStep_cases hchecked hs
    · exact hrow
    · have hid : answers.newId ≠ id := by
        rintro rfl
        nomatch hnew.symm.trans hrow
      exact (Dict.get?_set_of_ne _ hid _).trans hrow
    · have hid : input.instanceId ≠ id := by
        rintro rfl
        cases hfound.symm.trans hrow
        have hallowed := hchecked.2
        rw [← hstatus, hfulfilled] at hallowed
        nomatch hallowed
      exact (Dict.get?_set_of_ne _ hid _).trans hrow

end Kept

/-! ## Every run -/

section Run

variable {bigInt : String → Except ApiError ℤ} {store : ObligationStore}

/-- From a store without transitions of its instances on, the law holds of every run and step. -/
theorem obligationLaw_of_run {s' : InFlight ObligationStore ObligationCall}
    {ls : List (CallLabel ObligationRequest ObligationAnswers)} (hstore : store.Untouched)
    (hs : (obligationCalls bigInt).system.run { store } ls = some s') :
    ObligationLaw s'.store ∧ (obligationCalls bigInt).system.Along
      (Service.Meets (ObligationStepLaw bigInt)) { store } ls := by
  refine ⟨(obligationRule.inv_of_run (.of_empty hstore.law) hs).store, ?_⟩
  refine obligationRule.along (.of_empty hstore.law) ?_
    ((obligationCalls bigInt).system.along_true.mono _ fun s l _ => Service.meets_true s l)
  exact fun s c a h hchecked _ => obligationStepLaw_of_checked h hchecked

end Run

/-! ## One obligation -/

/-- An instance from before the log, under the old name of its status. -/
def pendingStore : ObligationStore :=
  { instances := Dict.empty.set 7 { workspaceId := 1, status := .pending } }

/-- The id of a member is read as a number. -/
def bigIntOfMember (text : String) : Except ApiError ℤ :=
  if text = "42" then .ok 42 else .error (.internal "SyntaxError")

def exemption : TransitionObligationInput where
  workspaceId := 1
  instanceId := 7
  toStatus := .exempt
  rationale := some "Below the threshold"

def fulfilment : TransitionObligationInput where
  workspaceId := 1
  instanceId := 7
  toStatus := .fulfilled
  evidenceRefs := some ["vault://tax/vat-2026-q1.pdf"]

/-- Two members read the instance first; one fulfils it, and the other comes too late to exempt it. -/
def fulfilledRun : List (CallLabel ObligationRequest ObligationAnswers) :=
  [.start (.transition (some ⟨"42", none⟩) { exemption with toStatus := .inProgress }),
    .start (.transition none exemption), .step 0 {}, .step 0 {}, .step 1 {}, .step 1 {},
    .step 0 { newId := 100 }, .start (.transition none fulfilment), .step 2 {}, .step 2 {},
    .step 2 { newId := 101 }, .step 1 { newId := 102 }]

theorem obligationLaw_of_run_fulfilled :
    ObligationLaw (((obligationCalls bigIntOfMember).system.run { store := pendingStore }
      fulfilledRun).get (by decide +kernel)).store ∧
      (obligationCalls bigIntOfMember).system.Along
        (Service.Meets (ObligationStepLaw bigIntOfMember)) { store := pendingStore } fulfilledRun :=
  obligationLaw_of_run (by decide) (Option.some_get _).symm

/-- Both changes are logged, and the exemption is not. -/
example : ((obligationCalls bigIntOfMember).system.run { store := pendingStore }
    fulfilledRun).map (·.store.transitionsOf 7) =
      some [(some .open, .inProgress), (some .inProgress, .fulfilled)] := by decide +kernel

end JavisSaas.Company.Finance
