import JavisSaas.Agent.Workflows.Progress

/-!
# Approval gates one after the other

`resume_spec` takes the first waiting gate among the stored outcomes. That of a gate stays waiting
when its approval completes it, so a later pause finds the earlier gate again.

* `ChecksPaused`: `resume_spec` finds the gate at which the workflow has paused.
* `gateLaw_of_run`: if it always does, every continued pause has completed its gate, once; and a run
  of successes and approvals ends in `COMPLETED`, after as many resumes as pauses.
-/

namespace JavisSaas.Agent.Workflows

open JavisSaas.Lib

variable {A V : Type} [PyValue V]

/-! ## Conditions and laws -/

section Defs

variable (steps : String → Option (WorkflowStep A V))

/-- `resume_spec` checks the gate at which the workflow has paused, and none at another step. -/
def ChecksPaused (s : EngineState A V) : EngineLabel A → Prop
  | .wave _ _ => True
  | .resume _ => s.workflow.status = .waitingApproval →
    (pausedGate steps s.workflow).map (·.1) = s.pauses.getLast?.bind (gateAt steps)

/-- Every step completes or is a gate that waits; the gate that is checked is approved. -/
def Succeeds (s : EngineState A V) : EngineLabel A → Prop
  | .wave answers _ => ∀ results ∈ waveResults steps s answers, ∀ x ∈ results,
    x.outcome.status = .completed ∨
      x.outcome.status = .waitingApproval ∧ gateAt steps x.stepId = some x.stepId
  | .resume answer => s.workflow.status = .waitingApproval ∧
    ∀ gate ∈ pausedGate steps s.workflow,
      (gate.2 (s.workflow.pendingApprovalId.getD "") s.workflow.state answer).status = .completed

instance (s : EngineState A V) : DecidablePred (ChecksPaused steps s)
  | .wave _ _ => instDecidableTrue
  | .resume _ => inferInstanceAs (Decidable (_ → _))

instance (s : EngineState A V) : DecidablePred (Succeeds steps s)
  | .wave answers _ => inferInstanceAs (Decidable (∀ results ∈ waveResults steps s answers, _))
  | .resume _ => inferInstanceAs (Decidable (_ ∧ ∀ gate ∈ pausedGate steps s.workflow, _))

/-- The last pause is at an open step, and the approval to check is that of its execution. -/
structure PausedAt (spec : WorkflowSpec V) (s : EngineState A V) (id : String) : Prop where
  last : s.pauses.getLast? = some id
  notCompleted : id ∉ s.workflow.completedSteps
  mem : id ∈ spec.forwardIds
  asked : ∃ x ∈ s.log, x.stepId = id ∧ x.outcome.status = .waitingApproval ∧
    s.workflow.pendingApprovalId = x.outcome.approvalId

/-- No step is completed twice, and the continued pauses have completed their gates. -/
structure GateLaw (spec : WorkflowSpec V) (s : EngineState A V) : Prop where
  nodup : s.workflow.completedSteps.Nodup
  forward : s.workflow.status ≠ .failed →
    ∀ id ∈ s.workflow.completedSteps, id ∉ spec.compensationTargets
  waiting : s.workflow.status = .waitingApproval → ∃ id, PausedAt spec s id ∧
    s.resumes ++ [gateAt steps id] = s.pauses.map (gateAt steps)
  continued : s.workflow.status = .running ∨ s.workflow.status = .completed →
    s.resumes = s.pauses.map (gateAt steps)
  completed : ∀ id, some id ∈ s.resumes → id ∈ s.workflow.completedSteps

end Defs

variable {spec : WorkflowSpec V} {steps : String → Option (WorkflowStep A V)}

/-! ## Steps of a run -/

variable {s : EngineState A V} {results : List (Execution A V)} {s' : EngineState A V} {answer : A}

/-- The steps that a wave merges stay distinct, and are forward steps. -/
theorem nodup_mergeAll (hg : GateLaw steps spec s) (hstatus : s.workflow.status = .running)
    {done rest : List (Execution A V)} (hwave : Wave spec s results)
    (hresults : results = done ++ rest) :
    (s.workflow.mergeAll done).completedSteps.Nodup ∧
      ∀ id ∈ (s.workflow.mergeAll done).completedSteps, id ∉ spec.compensationTargets := by
  have hsub : ∀ x ∈ done, x ∈ results := by
    intro x hx
    rw [hresults]
    exact List.mem_append_left _ hx
  have hnodup : (done.map (·.stepId)).Nodup := by
    have h := hwave.nodup
    rw [hresults, List.map_append] at h
    exact (List.nodup_append.mp h).1
  rw [Workflow.mergeAll_completedSteps]
  constructor
  · refine List.nodup_append.mpr ⟨hg.nodup, hnodup, fun a ha b hb heq => ?_⟩
    obtain ⟨x, hx, rfl⟩ := List.mem_map.mp hb
    exact hwave.notCompleted x (hsub x hx) (heq ▸ ha)
  · intro id hid
    rcases List.mem_append.mp hid with hid | hid
    · exact hg.forward (by simp [hstatus]) id hid
    · obtain ⟨x, hx, rfl⟩ := List.mem_map.mp hid
      exact hwave.forward x (hsub x hx)

theorem gateLaw_of_wave (hg : GateLaw steps spec s) (hstatus : s.workflow.status = .running)
    (hwave : Wave spec s results) {cs : List String} {compensation : A}
    (h : WaveCase spec steps compensation results cs [] s s') : GateLaw steps spec s' := by
  have hresumes := hg.continued (.inl hstatus)
  cases h with
  | @merged hdone r hloop =>
    obtain ⟨hnodup, hfwd⟩ := nodup_mergeAll hg hstatus hwave (List.append_nil _).symm
    rw [← hloop.completedSteps_eq] at hnodup hfwd
    refine ⟨hnodup, fun _ => hfwd, fun hw => ?_, fun _ => hresumes, fun id hid => ?_⟩
    · have hrun : (s.workflow.mergeAll results).status = .running :=
        (Workflow.mergeAll_status _ _).trans hstatus
      exact absurd hw (hloop.status_ne_waiting hrun)
    · show id ∈ r.1.completedSteps
      rw [hloop.completedSteps_eq, Workflow.mergeAll_completedSteps]
      exact List.mem_append_left _ (hg.completed id hid)
  | paused done _ stop hresults _ hstop =>
    obtain ⟨hnodup, hfwd⟩ := nodup_mergeAll hg hstatus hwave hresults
    have hmem : stop ∈ results := by simp [hresults]
    refine ⟨hnodup, fun _ => hfwd, fun _ => ⟨stop.stepId, ?_, ?_⟩, fun h => ?_, fun id hid => ?_⟩
    · refine ⟨List.getLast?_concat, ?_, hwave.mem stop hmem,
        stop, List.mem_append_right _ hmem, rfl, hstop, rfl⟩
      show stop.stepId ∉ (s.workflow.mergeAll done).completedSteps
      rw [Workflow.mergeAll_completedSteps, List.mem_append, not_or]
      refine ⟨hwave.notCompleted stop hmem, fun hin => ?_⟩
      have h := hwave.nodup
      rw [hresults, List.map_append, List.nodup_append] at h
      exact h.2.2 stop.stepId hin stop.stepId (by simp) rfl
    · dsimp only
      rw [List.map_append, hresumes]
      rfl
    · rcases h with h | h <;> cases h
    · show id ∈ (s.workflow.mergeAll done).completedSteps
      rw [Workflow.mergeAll_completedSteps]
      exact List.mem_append_left _ (hg.completed id hid)
  | @failed done rest stop hresults hdone hstop w' compensations hfail =>
    obtain ⟨hnodup, hfwd⟩ := nodup_mergeAll hg hstatus hwave hresults
    have hold : ∀ id, some id ∈ s.resumes → id ∈ (s.workflow.mergeAll done).completedSteps := by
      intro id hid
      rw [Workflow.mergeAll_completedSteps]
      exact List.mem_append_left _ (hg.completed id hid)
    refine ⟨?_, fun h => absurd rfl h, fun h => (by cases h), fun h => ?_, fun id hid => ?_⟩
    · show w'.completedSteps.Nodup
      rcases (failStep_cases hfail).2 with ⟨-, hsteps, -⟩ | ⟨entry, -, htarget, -, -, -, hsteps, -⟩
      · rw [hsteps]
        exact hnodup
      · rw [hsteps]
        refine List.nodup_append.mpr ⟨hnodup, by split_ifs <;> simp, fun a ha b hb heq => ?_⟩
        split_ifs at hb
        · rw [List.mem_singleton] at hb
          exact hfwd a ha (heq ▸ hb ▸ htarget)
        · exact absurd hb List.not_mem_nil
    · rcases h with h | h <;> cases h
    · show id ∈ w'.completedSteps
      rcases (failStep_cases hfail).2 with ⟨-, hsteps, -⟩ | ⟨entry, -, -, -, -, -, hsteps, -⟩
      · rw [hsteps]
        exact hold id hid
      · rw [hsteps]
        exact List.mem_append_left _ (hold id hid)

theorem gateLaw_of_resume (hg : GateLaw steps spec s) (hc : ChecksPaused steps s (.resume answer))
    (h : ResumeCase spec steps answer s s') :
    GateLaw steps spec s' := by
  cases h with
  | notWaiting | pending => exact hg
  | refused =>
    refine ⟨hg.nodup, fun h => absurd rfl h, fun h => (by cases h), fun h => ?_, hg.completed⟩
    rcases h with h | h <;> cases h
  | @noGate hw hgate r hloop =>
    obtain ⟨id, hpaused, hresumes⟩ := hg.waiting hw
    have hnone : gateAt steps id = none := by
      have h := hc hw
      rw [hgate, hpaused.last] at h
      exact h.symm
    rw [hnone] at hresumes
    refine ⟨?_, fun _ => ?_, fun hw' => ?_, fun _ => hresumes, fun g hg' => ?_⟩
    · rw [hloop.completedSteps_eq]
      exact hg.nodup
    · rw [hloop.completedSteps_eq]
      exact hg.forward (by rw [hw]; decide)
    · exact absurd hw' (hloop.status_ne_waiting rfl)
    · dsimp only
      rw [hloop.completedSteps_eq]
      have hin : some g ∈ s.resumes := by simpa using hg'
      exact hg.completed g hin
  | @approved hw id check hgate outcome houtcome hcheck r hloop =>
    obtain ⟨g, hpaused, hresumes⟩ := hg.waiting hw
    have hfound : gateAt steps g = some id := by
      have h := hc hw
      rw [hgate, hpaused.last] at h
      exact h.symm
    have hid : g = id := by
      unfold gateAt at hfound
      split_ifs at hfound
      exact Option.some.inj hfound
    subst hid
    rw [hfound] at hresumes
    have hsteps : r.1.completedSteps = s.workflow.completedSteps ++ [g] := hloop.completedSteps_eq
    refine ⟨?_, fun _ => ?_, fun hw' => ?_, fun _ => hresumes, fun g' hg' => ?_⟩
    · dsimp only
      rw [hsteps]
      refine List.nodup_append.mpr ⟨hg.nodup, List.nodup_singleton g, fun a ha b hb heq => ?_⟩
      rw [List.mem_singleton] at hb
      exact hpaused.notCompleted (hb ▸ heq ▸ ha)
    · intro id' hid'
      dsimp only at hid'
      rw [hsteps, List.mem_append, List.mem_singleton] at hid'
      rcases hid' with hid' | rfl
      · exact hg.forward (by rw [hw]; decide) id' hid'
      · exact notMem_targets_of_forward hpaused.mem
    · exact absurd hw' (hloop.status_ne_waiting rfl)
    · dsimp only
      rw [hsteps, List.mem_append, List.mem_singleton]
      dsimp only at hg'
      rw [List.mem_append, List.mem_singleton] at hg'
      rcases hg' with hg' | hg'
      · exact .inl (hg.completed g' hg')
      · exact .inr (Option.some.inj hg')

/-- The approval of the paused gate completes it, and the workflow goes on or is completed. -/
def CompletesPaused (spec : WorkflowSpec V) (steps : String → Option (WorkflowStep A V))
    (s : EngineState A V) (answer : A) : Prop :=
  ∀ id check, s.workflow.status = .waitingApproval → s.pauses.getLast? = some id →
    (steps id).bind (·.checkPending) = some check →
    (check (s.workflow.pendingApprovalId.getD "") s.workflow.state answer).status = .completed →
    ∃ s', next spec steps s (.resume answer) = some s' ∧ id ∉ s.workflow.completedSteps ∧
      s'.workflow.completedSteps = s.workflow.completedSteps ++ [id] ∧
      s'.resumes = s.resumes ++ [some id] ∧
      (s'.workflow.status = .running ∨ s'.workflow.status = .completed)

theorem completesPaused (hs : RunInv spec s) (hg : GateLaw steps spec s)
    (hc : ChecksPaused steps s (.resume answer)) :
    CompletesPaused spec steps s answer := by
  intro id check hw hlast hstep hcheck
  have hphase : s.phase = .returned := by
    cases hphase : s.phase with
    | returned => rfl
    | gathering cs fs ready =>
      have hrun := (hs.gathering cs fs ready hphase).1
      rw [hw] at hrun
      cases hrun
  obtain ⟨id', hpaused, -⟩ := hg.waiting hw
  obtain rfl : id' = id := Option.some.inj (hpaused.last.symm.trans hlast)
  have hgateAt : gateAt steps id' = some id' := by
    unfold gateAt
    rw [hstep]
    rfl
  have hfound := hc hw
  rw [hlast, Option.bind_some, hgateAt] at hfound
  obtain ⟨⟨g, check'⟩, hgate, rfl⟩ := Option.map_eq_some_iff.mp hfound
  obtain rfl : check' = check := by
    obtain ⟨step, hg', hcheck'⟩ := check_of_pausedGate hgate
    rw [hg', Option.bind_some, hcheck'] at hstep
    exact Option.some.inj hstep
  obtain ⟨s', hs', hcase⟩ := next_resume_cases spec steps hphase answer
  refine ⟨s', hs', hpaused.notCompleted, ?_⟩
  cases hcase with
  | notWaiting hw' => exact absurd hw hw'
  | pending hgate' hpending =>
    rw [hgate] at hgate'
    cases hgate'
    rw [hcheck] at hpending
    cases hpending
  | refused _ hgate' _ hfailed =>
    rw [hgate] at hgate'
    cases hgate'
    rw [hcheck] at hfailed
    cases hfailed
  | noGate _ hgate' => simp [hgate] at hgate'
  | approved _ hgate' _ _ hloop =>
    rw [hgate] at hgate'
    cases hgate'
    exact ⟨hloop.completedSteps_eq, rfl, (hloop.running_or_completed rfl).imp And.right id⟩

/-! ## Runs in which every step succeeds -/

/-- Bounds the steps that are left: two for every open step, a wave and a resume. -/
def remaining (spec : WorkflowSpec V) (s : EngineState A V) : ℕ :=
  2 * missing spec.forwardIds s.workflow.completedSteps + (if s.phase = .returned then 0 else 1)

def EngineLabel.isResume : EngineLabel A → Bool
  | .wave _ _ => false
  | .resume _ => true

/-- A run of successes has not failed and pauses at gates only. -/
structure SuccessInv (spec : WorkflowSpec V) (steps : String → Option (WorkflowStep A V))
    (s : EngineState A V) : Prop where
  run : RunInv spec s
  law : GateLaw steps spec s
  notFailed : s.workflow.status ≠ .failed
  gates : ∀ id ∈ s.pauses, gateAt steps id = some id

/-- A successful step leaves less to do, and continues one pause if it is a resume. -/
structure Advances (spec : WorkflowSpec V) (steps : String → Option (WorkflowStep A V))
    (s s' : EngineState A V) (l : EngineLabel A) : Prop where
  inv : SuccessInv spec steps s'
  less : remaining spec s' < remaining spec s
  resumes : s'.resumes.length = s.resumes.length + if l.isResume then 1 else 0

theorem advances_of_wave (hi : SuccessInv spec steps s) {answers : List A} {compensation : A}
    {cs ready : List String} (hphase : s.phase = .gathering cs [] ready)
    (hgather : gather steps s.workflow.state ready answers = some results)
    (hwave : Wave spec s results) (hsucc : Succeeds steps s (.wave answers compensation))
    (hnext : next spec steps s (.wave answers compensation) = some s')
    (h : WaveCase spec steps compensation results cs [] s s') :
    Advances spec steps s s' (.wave answers compensation) := by
  obtain ⟨hstatus, -, -, -, hready⟩ := hi.run.gathering cs [] ready hphase
  have hrun := hi.run.next hnext
  have hlaw := gateLaw_of_wave hi.law hstatus hwave h
  have hall : ∀ x ∈ results, x.outcome.status = .completed ∨
      x.outcome.status = .waitingApproval ∧ gateAt steps x.stepId = some x.stepId := by
    apply hsucc results
    unfold waveResults
    rw [hphase]
    exact hgather
  have hfull : remaining spec s = 2 * missing spec.forwardIds s.workflow.completedSteps + 1 := by
    unfold remaining
    rw [hphase, if_neg nofun]
  cases h with
  | @merged hdone r hloop =>
    have hmerged : (s.workflow.mergeAll results).status = .running :=
      (Workflow.mergeAll_status _ _).trans hstatus
    refine ⟨⟨hrun, hlaw, ?_, hi.gates⟩, ?_, rfl⟩
    · rcases hloop.running_or_completed hmerged with ⟨-, h⟩ | h <;> simp [h]
    · -- the wave is not empty, so some open step has been completed
      obtain ⟨x, hx⟩ : ∃ x, x ∈ results := by
        apply List.exists_mem_of_ne_nil
        rintro rfl
        exact hready (gather_eq_some hgather).1.symm
      have hlt : missing spec.forwardIds r.1.completedSteps <
          missing spec.forwardIds s.workflow.completedSteps := by
        rw [hloop.completedSteps_eq, Workflow.mergeAll_completedSteps]
        exact missing_lt (List.subset_append_left _ _) (hwave.mem x hx) (hwave.notCompleted x hx)
          (List.mem_append_right _ (List.mem_map_of_mem hx))
      rw [hfull]
      unfold remaining
      dsimp only
      split_ifs <;> omega
  | paused done _ stop hresults _ hstop =>
    refine ⟨⟨hrun, hlaw, nofun, fun id hid => ?_⟩, ?_, rfl⟩
    · rcases mem_concat hid with hid | rfl
      · exact hi.gates id hid
      · rcases hall stop (by simp [hresults]) with h | ⟨-, h⟩
        · rw [hstop] at h
          cases h
        · exact h
    · have hle : missing spec.forwardIds (s.workflow.mergeAll done).completedSteps ≤
          missing spec.forwardIds s.workflow.completedSteps := by
        rw [Workflow.mergeAll_completedSteps]
        exact missing_mono _ (List.subset_append_left _ _)
      rw [hfull]
      show 2 * missing spec.forwardIds (s.workflow.mergeAll done).completedSteps + 0 < _
      omega
  | failed _ _ stop hresults _ hstop =>
    rcases hall stop (by simp [hresults]) with h | ⟨h, -⟩ <;> simp [hstop] at h

theorem advances_of_resume (hi : SuccessInv spec steps s) (hphase : s.phase = .returned)
    (hc : ChecksPaused steps s (.resume answer)) (hsucc : Succeeds steps s (.resume answer))
    (hnext : next spec steps s (.resume answer) = some s') :
    Advances spec steps s s' (.resume answer) := by
  obtain ⟨hw, hchecks⟩ := hsucc
  obtain ⟨id, hpaused, -⟩ := hi.law.waiting hw
  have hgateAt := hi.gates id (List.mem_of_getLast? hpaused.last)
  obtain ⟨⟨id', check⟩, hgate, hid⟩ : ∃ g, pausedGate steps s.workflow = some g ∧ g.1 = id := by
    have hfound := hc hw
    rw [hpaused.last, Option.bind_some, hgateAt] at hfound
    exact Option.map_eq_some_iff.mp hfound
  obtain rfl : id' = id := hid
  have hstep : (steps id').bind (·.checkPending) = some check := by
    obtain ⟨step, hg', hcheck'⟩ := check_of_pausedGate hgate
    rw [hg', Option.bind_some, hcheck']
  obtain ⟨s'', hs'', hopen, hsteps, hresumes, hstatus⟩ := completesPaused hi.run hi.law hc id'
    check hw hpaused.last hstep (hchecks _ hgate)
  obtain rfl : s' = s'' := Option.some.inj (hnext.symm.trans hs'')
  have hcase : ResumeCase spec steps answer s s' := by
    obtain ⟨t, ht, hcase⟩ := next_resume_cases spec steps hphase answer
    rwa [Option.some.inj (hnext.symm.trans ht)]
  have hpauses : s'.pauses = s.pauses := by cases hcase <;> rfl
  refine ⟨⟨hi.run.next hnext, gateLaw_of_resume hi.law hc hcase, ?_, ?_⟩, ?_, ?_⟩
  · rcases hstatus with h | h <;> simp [h]
  · rw [hpauses]
    exact hi.gates
  · have hlt : missing spec.forwardIds s'.workflow.completedSteps <
        missing spec.forwardIds s.workflow.completedSteps := by
      rw [hsteps]
      exact missing_lt (List.subset_append_left _ _) hpaused.mem hopen (by simp)
    unfold remaining
    rw [hphase, if_pos rfl]
    split_ifs <;> omega
  · rw [hresumes, List.length_append]
    rfl

theorem advances_of_next (hi : SuccessInv spec steps s) {l : EngineLabel A}
    (hc : ChecksPaused steps s l) (hsucc : Succeeds steps s l)
    (hnext : next spec steps s l = some s') : Advances spec steps s s' l := by
  rcases hi.run.next_cases hnext with
    ⟨answers, compensation, results, cs, ready, rfl, hphase, hgather, hwave, hcase⟩ |
    ⟨answer, rfl, hphase, -⟩
  · exact advances_of_wave hi hphase hgather hwave hsucc hnext hcase
  · exact advances_of_resume hi hphase hc hsucc hnext

theorem successInv_of_run (hi : SuccessInv spec steps s) {ls : List (EngineLabel A)}
    (hc : (workflowRuns spec steps).Along (ChecksPaused steps) s ls)
    (hsucc : (workflowRuns spec steps).Along (Succeeds steps) s ls)
    (hrun : (workflowRuns spec steps).run s ls = some s') :
    SuccessInv spec steps s' ∧ remaining spec s' + ls.length ≤ remaining spec s ∧
      s'.resumes.length = s.resumes.length + ls.countP (·.isResume) := by
  induction ls generalizing s with
  | nil =>
    obtain rfl : s = s' := by simpa using hrun
    exact ⟨hi, le_refl _, rfl⟩
  | cons _ _ ih =>
    obtain ⟨m, hm, hrun⟩ := ((workflowRuns spec steps).run_cons_eq_some).mp hrun
    have hadv := advances_of_next hi hc.1 hsucc.1 hm
    obtain ⟨hi', hless, hcount⟩ := ih hadv.inv (hc.2 m hm) (hsucc.2 m hm) hrun
    refine ⟨hi', ?_, ?_⟩
    · have h := hadv.less
      rw [List.length_cons]
      omega
    · rw [hcount, hadv.resumes, List.countP_cons]
      omega

/-! ## The law along runs -/

theorem gateLaw_init {id : String} {computeHash : SpecFields V → String}
    {initialState : Dict String V} {s₀ : EngineState A V}
    (h₀ : executeSpec spec id computeHash initialState none = some s₀) :
    GateLaw steps spec s₀ := by
  obtain ⟨w, r, hw, hsteps, -, -, hloop, rfl⟩ := executeSpec_cases h₀
  have hnil : r.1.completedSteps = [] := hloop.completedSteps_eq.trans hsteps
  refine ⟨?_, fun _ => ?_, fun h => ?_, fun _ => rfl, fun id hid => absurd hid List.not_mem_nil⟩
  · dsimp only
    rw [hnil]
    exact List.nodup_nil
  · dsimp only
    rw [hnil]
    exact fun _ h => absurd h List.not_mem_nil
  · exact absurd h (hloop.status_ne_waiting hw)

/-- If `resume_spec` always finds the paused gate, every continued pause has completed its gate,
once, and an approved one is completed by the next resume. If moreover every step succeeds and every
gate is approved, the run ends after at most two steps for every forward step, completed, with as
many resumes as pauses. -/
theorem gateLaw_of_run {id : String} {computeHash : SpecFields V → String}
    {initialState : Dict String V} {s₀ s : EngineState A V}
    (h₀ : executeSpec spec id computeHash initialState none = some s₀)
    {ls : List (EngineLabel A)} (hc : (workflowRuns spec steps).Along (ChecksPaused steps) s₀ ls)
    (hrun : (workflowRuns spec steps).run s₀ ls = some s) :
    GateLaw steps spec s ∧
      (∀ answer, ChecksPaused steps s (.resume answer) → CompletesPaused spec steps s answer) ∧
      ((workflowRuns spec steps).Along (Succeeds steps) s₀ ls →
        ls.length ≤ 2 * spec.forwardSteps.length + 1 ∧
        (s.workflow.status = .completed ∧ ls.countP (·.isResume) = s.pauses.length ∨
          s.workflow.status = .waitingApproval ∧ (∃ id ∈ s.pauses.getLast?, gateAt steps id = some id) ∨
          ∃ cs fs ready, s.phase = .gathering cs fs ready ∧ ready ≠ [])) := by
  have hinv : RunInv spec s ∧ GateLaw steps spec s := by
    refine (workflowRuns spec steps).inv_of_along (I := fun s => RunInv spec s ∧ GateLaw steps spec s)
      ?_ ⟨runInv_init h₀, gateLaw_init h₀⟩ hc hrun
    rintro s l s' ⟨hs, hg⟩ hc hnext
    refine ⟨hs.next hnext, ?_⟩
    rcases hs.next_cases hnext with ⟨_, _, _, cs, _, rfl, hphase, -, hwave, hcase⟩ |
      ⟨_, rfl, -, hcase⟩
    · exact gateLaw_of_wave hg (hs.gathering cs [] _ hphase).1 hwave hcase
    · exact gateLaw_of_resume hg hc hcase
  refine ⟨hinv.2, fun answer hc => completesPaused hinv.1 hinv.2 hc, fun hsucc => ?_⟩
  have hi₀ : SuccessInv spec steps s₀ ∧ s₀.resumes = [] := by
    refine ⟨⟨runInv_init h₀, gateLaw_init h₀, ?_, ?_⟩, ?_⟩ <;>
      obtain ⟨w, r, hw, -, -, -, hloop, rfl⟩ := executeSpec_cases h₀
    · rcases hloop.running_or_completed hw with ⟨-, h⟩ | h <;> simp [h]
    · exact fun _ h => absurd h List.not_mem_nil
    · rfl
  obtain ⟨hi, hlen, hcount⟩ := successInv_of_run hi₀.1 hc hsucc hrun
  constructor
  · have hmissing : missing spec.forwardIds s₀.workflow.completedSteps ≤
        spec.forwardSteps.length :=
      (List.length_filter_le _ _).trans (List.length_map _).le
    have hle : remaining spec s₀ ≤ 2 * spec.forwardSteps.length + 1 := by
      unfold remaining
      split_ifs <;> omega
    omega
  · cases hphase : s.phase with
    | gathering cs fs ready =>
      exact .inr (.inr ⟨cs, fs, ready, rfl, (hi.run.gathering cs fs ready hphase).2.2.2.2⟩)
    | returned =>
      rcases hi.run.returned hphase with h | h | h
      · obtain ⟨id, hpaused, -⟩ := hi.law.waiting h
        exact .inr (.inl ⟨h, id, hpaused.last, hi.gates id (List.mem_of_getLast? hpaused.last)⟩)
      · have heq := congrArg List.length (hi.law.continued (.inr h))
        rw [hcount, hi₀.2, List.length_map, List.length_nil, Nat.zero_add] at heq
        exact .inl ⟨h, heq⟩
      · exact absurd h hi.notFailed

/-! ## One gate, and two -/

/-- The orderly specification at the end of its run. -/
def orderlyEnd : EngineState (Answers String Unit) String :=
  ((workflowRuns orderlySpec (compiled orderlySpec)).run orderlyStart branchRun).get
    (by decide +kernel)

theorem gateLaw_orderlyEnd :
    GateLaw (compiled orderlySpec) orderlySpec orderlyEnd ∧
      branchRun.length ≤ 2 * orderlySpec.forwardSteps.length + 1 ∧
      orderlyEnd.workflow.status = .completed := by
  have hrun : (workflowRuns orderlySpec (compiled orderlySpec)).run orderlyStart branchRun =
      some orderlyEnd := (Option.some_get _).symm
  obtain ⟨hlaw, -, hsucc⟩ := gateLaw_of_run started_orderlySpec (by decide +kernel) hrun
  exact ⟨hlaw, (hsucc (by decide +kernel)).1, by decide +kernel⟩

/-- Two gates, the second behind the first. -/
def chainSpec : WorkflowSpec String where
  id := "release"
  steps := [{ id := "legal", type := .approvalGate },
    { id := "security", type := .approvalGate, dependsOn := ["legal"] }]
  valid := by decide

/-- Both gates pause the workflow and are approved. -/
def chainRun : List (EngineLabel (Answers String Unit)) :=
  [.wave [approving "a1"] (approving "a1"), .resume (approving "a1"),
    .wave [approving "a2"] (approving "a2"), .resume (approving "a2")]

/-- The second resume completes the first gate again. -/
theorem not_gateLaw_chainRun : ¬∀ s ∈ reached chainSpec chainRun,
    GateLaw (compiled chainSpec) chainSpec s := by
  intro h
  have hlaw := h ((reached chainSpec chainRun).get (by decide +kernel)) (Option.some_get _).symm
  exact absurd hlaw.nodup (by decide +kernel)

end JavisSaas.Agent.Workflows
