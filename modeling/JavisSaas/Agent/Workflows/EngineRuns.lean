import JavisSaas.Agent.Workflows.Engine

/-!
# What holds in every state of the engine

* `RunInv`: the locals of the loop against the workflow, and which status goes
  with which phase; kept by every step of a run.
* `Wave`: a wave consists of distinct forward steps that are not completed.
* `RunInv.next_cases`: what a step of a run is, seen from such a state.
-/

namespace JavisSaas.Agent.Workflows

open JavisSaas.Lib

variable {A V : Type} [PyValue V] {spec : WorkflowSpec V}
  {steps : String → Option (WorkflowStep A V)}

/-! ## The head of the loop -/

namespace LoopCase

variable {w : Workflow V} {completedSet failedSet : List String} {r : Workflow V × Phase}

theorem completedSteps_eq (h : LoopCase spec w completedSet failedSet r) :
    r.1.completedSteps = w.completedSteps := by
  cases h <;> rfl

theorem stepOutcomes_eq (h : LoopCase spec w completedSet failedSet r) :
    r.1.stepOutcomes = w.stepOutcomes := by
  cases h <;> rfl

theorem state_eq (h : LoopCase spec w completedSet failedSet r) : r.1.state = w.state := by
  cases h <;> rfl

theorem gathering_eq (h : LoopCase spec w completedSet failedSet r) {cs fs ready : List String}
    (hr : r.2 = .gathering cs fs ready) :
    r.1 = w ∧ cs = completedSet ∧ fs = failedSet ∧
      ready = readyStepIds spec completedSet failedSet ∧ ready ≠ [] := by
  cases h with
  | gathering hready =>
    cases hr
    exact ⟨rfl, rfl, rfl, rfl, hready⟩
  | stuck | completed => cases hr

theorem status_ne_waiting (h : LoopCase spec w completedSet failedSet r)
    (hw : w.status = .running) : r.1.status ≠ .waitingApproval := by
  cases h with
  | gathering =>
    show w.status ≠ .waitingApproval
    rw [hw]
    decide
  | stuck | completed => exact nofun

theorem status_of_returned (h : LoopCase spec w completedSet failedSet r)
    (hr : r.2 = .returned) : r.1.status = .completed ∨ r.1.status = .failed := by
  cases h with
  | gathering => cases hr
  | stuck => exact .inr rfl
  | completed => exact .inl rfl

end LoopCase

/-! ## The invariant -/

/-- In the loop the workflow runs, with the loop's sets; until it fails nothing is compensated. -/
structure RunInv (spec : WorkflowSpec V) (s : EngineState A V) : Prop where
  gathering : ∀ cs fs ready, s.phase = .gathering cs fs ready →
    s.workflow.status = .running ∧ cs = s.workflow.completedSteps ∧ fs = [] ∧
      ready = readyStepIds spec cs fs ∧ ready ≠ []
  returned : s.phase = .returned → s.workflow.status = .waitingApproval ∨
    s.workflow.status = .completed ∨ s.workflow.status = .failed
  forward : s.workflow.status ≠ .failed → ∀ x ∈ s.log, x.stepId ∉ spec.compensationTargets

variable {cs fs : List String} {id : String} {w : Workflow V} {s : EngineState A V}
  {results : List (Execution A V)} {ready : List String} {s' : EngineState A V} {l : EngineLabel A}

theorem mem_readyStepIds (h : id ∈ readyStepIds spec cs fs) : id ∉ cs ∧ id ∈ spec.forwardIds := by
  obtain ⟨s, hs, rfl⟩ := List.mem_map.mp h
  obtain ⟨hfwd, hcond⟩ := List.mem_filter.mp hs
  exact ⟨(of_decide_eq_true hcond).1, List.mem_map_of_mem hfwd⟩

theorem deps_of_mem_ready (h : id ∈ readyStepIds spec cs fs) {step : WorkflowStepSpec V}
    (hstep : step ∈ spec.forwardSteps) (hid : step.id = id) : ∀ dep ∈ step.dependsOn, dep ∈ cs := by
  obtain ⟨s, hs, hsid⟩ := List.mem_map.mp h
  obtain ⟨hfwd, hcond⟩ := List.mem_filter.mp hs
  have hnodup := spec.wellFormed.nodup
  have h1 := getStep_eq_some hnodup (List.mem_filter.mp hfwd).1
  have h2 := getStep_eq_some hnodup (List.mem_filter.mp hstep).1
  rw [hsid] at h1
  rw [hid] at h2
  obtain rfl : s = step := Option.some.inj (h1.symm.trans h2)
  exact (of_decide_eq_true hcond).2.2

theorem mem_readyStepIds_of_deps (hid : id ∈ spec.forwardIds) (hopen : id ∉ cs)
    (hdeps : ∀ step ∈ spec.forwardSteps, step.id = id → ∀ dep ∈ step.dependsOn, dep ∈ cs) :
    id ∈ readyStepIds spec cs [] := by
  obtain ⟨s, hs, rfl⟩ := List.mem_map.mp hid
  refine List.mem_map_of_mem (List.mem_filter.mpr ⟨hs, decide_eq_true ⟨hopen, ?_, hdeps s hs rfl⟩⟩)
  exact List.not_mem_nil

theorem readyStepIds_ne_nil (h : ∃ s ∈ spec.forwardSteps, s.id ∉ cs) :
    readyStepIds spec cs [] ≠ [] := by
  obtain ⟨step, hstep, hopen⟩ := h
  obtain ⟨s, hs, hs', hdeps⟩ := spec.wellFormed.exists_ready (· ∈ cs) hstep hopen
  apply List.ne_nil_of_mem (a := s.id)
  refine List.mem_map_of_mem (List.mem_filter.mpr ⟨hs, decide_eq_true ⟨hs', ?_, hdeps⟩⟩)
  exact List.not_mem_nil

theorem nodup_readyStepIds (cs fs : List String) : (readyStepIds spec cs fs).Nodup := by
  have hsub : (readyStepIds spec cs fs).Sublist spec.stepIds := by
    apply List.Sublist.map
    exact List.filter_sublist.trans List.filter_sublist
  exact hsub.nodup spec.wellFormed.nodup

/-- A running call of a valid specification goes on, or completes the workflow. -/
theorem LoopCase.running_or_completed (hw : w.status = .running) {r : Workflow V × Phase}
    (h : LoopCase spec w cs [] r) :
    r.2 ≠ .returned ∧ r.1.status = .running ∨ r.1.status = .completed := by
  cases h with
  | gathering => exact .inl ⟨nofun, hw⟩
  | stuck hready hopen => exact absurd hready (readyStepIds_ne_nil hopen)
  | completed => exact .inr rfl

/-- The results of a wave from an invariant state. -/
structure Wave (spec : WorkflowSpec V) (s : EngineState A V) (results : List (Execution A V)) :
    Prop where
  nodup : (results.map (·.stepId)).Nodup
  notCompleted : ∀ x ∈ results, x.stepId ∉ s.workflow.completedSteps
  mem : ∀ x ∈ results, x.stepId ∈ spec.forwardIds

theorem Wave.forward {s : EngineState A V} {results : List (Execution A V)}
    (h : Wave spec s results) : ∀ x ∈ results, x.stepId ∉ spec.compensationTargets :=
  fun x hx => notMem_targets_of_forward (h.mem x hx)

theorem RunInv.wave (hs : RunInv spec s) (hphase : s.phase = .gathering cs fs ready)
    {answers : List A} (hgather : gather steps s.workflow.state ready answers = some results) :
    Wave spec s results := by
  obtain ⟨-, hcs, -, hready, -⟩ := hs.gathering cs fs ready hphase
  obtain ⟨hids, -⟩ := gather_eq_some hgather
  have hmem : ∀ x ∈ results, x.stepId ∈ readyStepIds spec cs fs := by
    intro x hx
    rw [← hready, ← hids]
    exact List.mem_map_of_mem hx
  refine ⟨?_, fun x hx => ?_, fun x hx => (mem_readyStepIds (hmem x hx)).2⟩
  · rw [hids, hready]
    exact nodup_readyStepIds cs fs
  · rw [← hcs]
    exact (mem_readyStepIds (hmem x hx)).1

/-- The invariant after the head of the loop. -/
theorem runInv_of_loop (hw : w.status = .running) {r : Workflow V × Phase}
    (hloop : LoopCase spec w w.completedSteps [] r) {log : List (Execution A V)}
    (hlog : ∀ x ∈ log, x.stepId ∉ spec.compensationTargets) (pauses : List String)
    (resumes : List (Option String)) : RunInv spec (EngineState.mk r.1 r.2 log pauses resumes) := by
  refine ⟨?_, ?_, fun _ => hlog⟩
  · intro cs fs ready hphase
    obtain ⟨hr, hcs, hfs, hready, hne⟩ := hloop.gathering_eq hphase
    dsimp only
    rw [hr]
    exact ⟨hw, hcs, hfs, by rw [hready, hcs, hfs], hne⟩
  · exact fun hphase => .inr (hloop.status_of_returned hphase)

theorem runInv_init {computeHash : SpecFields V → String} {initialState : Dict String V}
    (h : executeSpec spec id computeHash initialState none = some s) : RunInv spec s := by
  obtain ⟨w, r, hw, hsteps, -, -, hloop, rfl⟩ := executeSpec_cases h
  have hloop' : LoopCase spec w w.completedSteps [] r := by
    rw [hsteps]
    exact hloop
  exact runInv_of_loop hw hloop' (by simp) _ _

theorem RunInv.of_waveCase (hs : RunInv spec s) (hwave : Wave spec s results)
    (hphase : s.phase = .gathering cs [] ready) {compensation : A}
    (h : WaveCase spec steps compensation results cs [] s s') : RunInv spec s' := by
  obtain ⟨hw, hcs, -, -⟩ := hs.gathering cs [] ready hphase
  have hlog : ∀ x ∈ s.log ++ results, x.stepId ∉ spec.compensationTargets := by
    intro x hx
    rcases List.mem_append.mp hx with hx | hx
    · exact hs.forward (by simp [hw]) x hx
    · exact hwave.forward x hx
  cases h with
  | merged _ hloop =>
    have hsteps : cs ++ results.map (·.stepId) = (s.workflow.mergeAll results).completedSteps := by
      rw [Workflow.mergeAll_completedSteps, hcs]
    rw [hsteps] at hloop
    exact runInv_of_loop ((Workflow.mergeAll_status _ _).trans hw) hloop hlog _ _
  | paused =>
    exact ⟨nofun, fun _ => .inl rfl, fun _ => hlog⟩
  | failed =>
    exact ⟨nofun, fun _ => .inr (.inr rfl), fun h => absurd rfl h⟩

theorem RunInv.of_resumeCase (hs : RunInv spec s) {answer : A}
    (h : ResumeCase spec steps answer s s') : RunInv spec s' := by
  cases h with
  | notWaiting | pending => exact hs
  | refused hw =>
    refine ⟨fun cs fs ready hphase => ?_, fun _ => .inr (.inr rfl), fun h => absurd rfl h⟩
    have hrun := (hs.gathering cs fs ready hphase).1
    rw [hw] at hrun
    cases hrun
  | noGate hw _ hloop =>
    have hlog := hs.forward (by rw [hw]; decide)
    exact runInv_of_loop (w := { s.workflow with status := .running, pendingApprovalId := none })
      rfl hloop hlog _ _
  | @approved hw id check hgate outcome houtcome hcheck r hloop =>
    have hlog := hs.forward (by rw [hw]; decide)
    exact runInv_of_loop (w := { s.workflow.complete id outcome.updates with
      status := .running, pendingApprovalId := none }) rfl hloop hlog _ _

/-- What a step of a run is, seen from an invariant state. -/
theorem RunInv.next_cases (hs : RunInv spec s) (h : next spec steps s l = some s') :
    (∃ answers compensation results cs ready, l = .wave answers compensation ∧
        s.phase = .gathering cs [] ready ∧
        gather steps s.workflow.state ready answers = some results ∧ Wave spec s results ∧
        WaveCase spec steps compensation results cs [] s s') ∨
      ∃ answer, l = .resume answer ∧ s.phase = .returned ∧ ResumeCase spec steps answer s s' := by
  cases l with
  | wave answers compensation =>
    cases hphase : s.phase with
    | returned => simp [next, hphase] at h
    | gathering cs fs ready =>
      cases hgather : gather steps s.workflow.state ready answers with
      | none => simp [next, hphase, hgather] at h
      | some results =>
        obtain ⟨hw, -, rfl, -⟩ := hs.gathering cs fs ready hphase
        obtain ⟨s'', hs'', hcase⟩ :=
          next_wave_cases spec compensation hw hphase hgather
        obtain rfl : s' = s'' := Option.some.inj (h.symm.trans hs'')
        exact .inl ⟨answers, compensation, results, cs, ready, rfl, rfl, hgather,
          hs.wave hphase hgather, hcase⟩
  | resume answer =>
    cases hphase : s.phase with
    | gathering => simp [next, hphase] at h
    | returned =>
      obtain ⟨s'', hs'', hcase⟩ := next_resume_cases spec steps hphase answer
      obtain rfl : s' = s'' := Option.some.inj (h.symm.trans hs'')
      exact .inr ⟨answer, rfl, rfl, hcase⟩

theorem RunInv.next (hs : RunInv spec s) (h : next spec steps s l = some s') : RunInv spec s' := by
  rcases hs.next_cases h with ⟨_, _, _, _, _, -, hphase, -, hwave, hcase⟩ | ⟨_, -, -, hcase⟩
  · exact hs.of_waveCase hwave hphase hcase
  · exact hs.of_resumeCase hcase

/-! ## The log against the checkpoint -/

/-- The step, if it is an `ApprovalGateStep`. -/
def gateAt (steps : String → Option (WorkflowStep A V)) (id : String) : Option String :=
  if ((steps id).bind (·.checkPending)).isSome then some id else none

/-- What the checkpoint holds of a step comes from one of its executions, gates apart. -/
structure LogInv (steps : String → Option (WorkflowStep A V)) (s : EngineState A V) : Prop where
  ran : ∀ x ∈ s.log, ∃ step, steps x.stepId = some step ∧
    x.outcome = (step.run x.given x.answer).1
  outcome : ∀ id o, s.workflow.stepOutcomes.get? id = some o →
    ∃ x ∈ s.log, x.stepId = id ∧ x.outcome = o
  completed : ∀ id ∈ s.workflow.completedSteps, gateAt steps id = none →
    ∃ x ∈ s.log, x.stepId = id ∧ x.outcome.status = .completed

omit [PyValue V] in
theorem stepOutcomes_mergeAll_cases {done : List (Execution A V)} {o : StepOutcome V}
    (h : (w.mergeAll done).stepOutcomes.get? id = some o) :
    (∃ x ∈ done, x.stepId = id ∧ x.outcome = o) ∨ w.stepOutcomes.get? id = some o := by
  induction done generalizing w with
  | nil => exact .inr h
  | cons y _ ih =>
    rw [Workflow.mergeAll_cons] at h
    rcases ih h with ⟨x, hx, heq⟩ | h
    · exact .inl ⟨x, List.mem_cons_of_mem _ hx, heq⟩
    · have h' : (w.stepOutcomes.set y.stepId y.outcome).get? id = some o := h
      rw [Dict.get?_set] at h'
      split_ifs at h' with heq
      · exact .inl ⟨y, List.mem_cons_self, heq, Option.some.inj h'⟩
      · exact .inr h'

theorem logInv_init {computeHash : SpecFields V → String} {initialState : Dict String V}
    (h : executeSpec spec id computeHash initialState none = some s) : LogInv steps s := by
  obtain ⟨w, r, -, hsteps, houtcomes, -, hloop, rfl⟩ := executeSpec_cases h
  refine ⟨by simp, fun id o hget => ?_, fun id hid => ?_⟩
  · dsimp only at hget
    rw [hloop.stepOutcomes_eq, houtcomes] at hget
    cases hget
  · dsimp only at hid
    rw [hloop.completedSteps_eq, hsteps] at hid
    exact absurd hid List.not_mem_nil

omit [PyValue V] in
/-- A wave that merges the results `done`, may stop at a further one and may run
    a compensation. -/
theorem LogInv.of_results (hl : LogInv steps s) {done : List (Execution A V)}
    (compensations : List (Execution A V)) (hdone : done ⊆ results)
    (hcompleted : ∀ x ∈ done, x.outcome.status = .completed)
    (hran : ∀ x ∈ results ++ compensations, ∃ step, steps x.stepId = some step ∧
      x.outcome = (step.run x.given x.answer).1)
    (hlog : s'.log = s.log ++ (results ++ compensations))
    (houtcome : ∀ id o, s'.workflow.stepOutcomes.get? id = some o →
      (∃ x ∈ results ++ compensations, x.stepId = id ∧ x.outcome = o) ∨
        (s.workflow.mergeAll done).stepOutcomes.get? id = some o)
    (hsteps : ∀ id ∈ s'.workflow.completedSteps,
      (∃ x ∈ compensations, x.stepId = id ∧ x.outcome.status = .completed) ∨
        id ∈ (s.workflow.mergeAll done).completedSteps) : LogInv steps s' := by
  refine ⟨fun x hx => ?_, fun id o hget => ?_, fun id hid hgate => ?_⟩
  · rw [hlog] at hx
    exact (List.mem_append.mp hx).elim (hl.ran x) (hran x)
  · rw [hlog]
    rcases houtcome id o hget with ⟨x, hx, heq⟩ | hget
    · exact ⟨x, List.mem_append_right _ hx, heq⟩
    · rcases stepOutcomes_mergeAll_cases hget with ⟨x, hx, heq⟩ | hget
      · exact ⟨x, List.mem_append_right _ (List.mem_append_left _ (hdone hx)), heq⟩
      · obtain ⟨x, hx, heq⟩ := hl.outcome id o hget
        exact ⟨x, List.mem_append_left _ hx, heq⟩
  · rw [hlog]
    rcases hsteps id hid with ⟨x, hx, heq⟩ | hid
    · exact ⟨x, List.mem_append_right _ (List.mem_append_right _ hx), heq⟩
    · rw [Workflow.mergeAll_completedSteps] at hid
      rcases List.mem_append.mp hid with hid | hid
      · obtain ⟨x, hx, heq⟩ := hl.completed id hid hgate
        exact ⟨x, List.mem_append_left _ hx, heq⟩
      · obtain ⟨x, hx, rfl⟩ := List.mem_map.mp hid
        exact ⟨x, List.mem_append_right _ (List.mem_append_left _ (hdone hx)), rfl,
          hcompleted x hx⟩

theorem LogInv.of_waveCase (hl : LogInv steps s) {answers : List A}
    (hgather : gather steps s.workflow.state ready answers = some results) {compensation : A}
    (h : WaveCase spec steps compensation results cs fs s s') :
    LogInv steps s' := by
  have hran : ∀ x ∈ results, ∃ step, steps x.stepId = some step ∧
      x.outcome = (step.run x.given x.answer).1 := by
    intro x hx
    obtain ⟨step, hstep, -, hout⟩ := (gather_eq_some hgather).2 x hx
    exact ⟨step, hstep, hout⟩
  cases h with
  | merged hdone hloop =>
    refine hl.of_results [] (List.Subset.refl _) hdone ?_ ?_
      (fun id o hget => .inr ?_) (fun id hid => .inr ?_)
    · simpa using hran
    · simp
    · rwa [← hloop.stepOutcomes_eq]
    · rwa [← hloop.completedSteps_eq]
  | paused done _ stop hresults hdone =>
    have hsub : done ⊆ results := by simp [hresults]
    refine hl.of_results [] hsub hdone ?_ ?_
      (fun id o hget => ?_) (fun id hid => .inr hid)
    · simpa using hran
    · simp
    · have hget' : ((s.workflow.mergeAll done).stepOutcomes.set stop.stepId stop.outcome).get? id =
          some o := hget
      rw [Dict.get?_set] at hget'
      split_ifs at hget' with heq
      · exact .inl ⟨stop, by simp [hresults], heq, Option.some.inj hget'⟩
      · exact .inr hget'
  | @failed done rest stop hresults hdone hstop w' compensations hfail =>
    have hsub : done ⊆ results := by simp [hresults]
    have hrecord : ∀ id o, ((s.workflow.mergeAll done).record stop.stepId
        stop.outcome).stepOutcomes.get? id = some o →
        (∃ x ∈ results ++ compensations, x.stepId = id ∧ x.outcome = o) ∨
          (s.workflow.mergeAll done).stepOutcomes.get? id = some o := by
      intro id o hget
      have hget' : ((s.workflow.mergeAll done).stepOutcomes.set stop.stepId stop.outcome).get? id =
          some o := hget
      rw [Dict.get?_set] at hget'
      split_ifs at hget' with heq
      · exact .inl ⟨stop, by simp [hresults], heq, Option.some.inj hget'⟩
      · exact .inr hget'
    rcases (failStep_cases hfail).2 with ⟨rfl, hsteps, houtcomes⟩ |
      ⟨entry, rfl, -, -, -, ⟨step, hstep, hrun⟩, hsteps, houtcomes⟩
    · refine hl.of_results [] hsub hdone ?_ rfl (fun id o hget => ?_) (fun id hid => .inr ?_)
      · simpa using hran
      · dsimp only at hget
        rw [houtcomes] at hget
        exact hrecord id o hget
      · dsimp only at hid
        rw [hsteps] at hid
        exact hid
    · refine hl.of_results [entry] hsub hdone ?_ rfl (fun id o hget => ?_) (fun id hid => ?_)
      · intro x hx
        rcases mem_concat hx with hx | rfl
        · exact hran x hx
        · exact ⟨step, hstep, hrun⟩
      · dsimp only at hget
        rw [houtcomes, Dict.get?_set] at hget
        split_ifs at hget with heq
        · exact .inl ⟨entry, by simp, heq, Option.some.inj hget⟩
        · exact hrecord id o hget
      · dsimp only at hid
        rw [hsteps, List.mem_append] at hid
        rcases hid with hid | hid
        · exact .inr hid
        · split_ifs at hid with hcompleted
          · obtain rfl := List.mem_singleton.mp hid
            exact .inl ⟨entry, by simp, rfl, hcompleted⟩
          · exact absurd hid List.not_mem_nil

omit [PyValue V] in
theorem check_of_pausedGate {check : String → Dict String V → A → StepOutcome V}
    (h : pausedGate steps w = some (id, check)) :
    ∃ step, steps id = some step ∧ step.checkPending = some check := by
  obtain ⟨id', -, h⟩ := Option.bind_eq_some_iff.mp h
  obtain ⟨step, hstep, h⟩ := Option.bind_eq_some_iff.mp h
  obtain ⟨c, hc, heq⟩ := Option.map_eq_some_iff.mp h
  cases heq
  exact ⟨step, hstep, hc⟩

theorem LogInv.of_resumeCase (hl : LogInv steps s) {answer : A}
    (h : ResumeCase spec steps answer s s') : LogInv steps s' := by
  cases h with
  | notWaiting | pending => exact hl
  | refused => exact ⟨hl.ran, hl.outcome, hl.completed⟩
  | noGate _ _ hloop =>
    refine ⟨hl.ran, fun id o hget => ?_, fun id hid => ?_⟩
    · dsimp only at hget
      rw [hloop.stepOutcomes_eq] at hget
      exact hl.outcome id o hget
    · dsimp only at hid
      rw [hloop.completedSteps_eq] at hid
      exact hl.completed id hid
  | @approved hw id check hgate outcome houtcome hcheck r hloop =>
    refine ⟨hl.ran, fun id' o hget => ?_, fun id' hid' hnone => ?_⟩
    · dsimp only at hget
      rw [hloop.stepOutcomes_eq] at hget
      exact hl.outcome id' o hget
    · have hsteps : r.1.completedSteps = s.workflow.completedSteps ++ [id] := hloop.completedSteps_eq
      dsimp only at hid'
      rw [hsteps, List.mem_append, List.mem_singleton] at hid'
      rcases hid' with hid' | rfl
      · exact hl.completed id' hid' hnone
      · obtain ⟨step, hstep, hpending⟩ := check_of_pausedGate hgate
        simp [gateAt, hstep, hpending] at hnone

theorem LogInv.next {s s' : EngineState A V} (hs : RunInv spec s) (hl : LogInv steps s)
    {l : EngineLabel A} (h : next spec steps s l = some s') : LogInv steps s' := by
  rcases hs.next_cases h with ⟨_, _, _, _, _, -, -, hgather, -, hcase⟩ | ⟨_, -, -, hcase⟩
  · exact hl.of_waveCase hgather hcase
  · exact hl.of_resumeCase hcase

end JavisSaas.Agent.Workflows
