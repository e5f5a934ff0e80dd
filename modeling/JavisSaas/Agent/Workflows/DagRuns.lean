import JavisSaas.Agent.Workflows.Progress

/-!
# Accepted specifications and the runs of their graphs

What `WorkflowSpec._validate_dag` accepts, and what `_execute_dag` does with an accepted
specification whose executions all succeed.

* `validateDag_eq_ok_iff_sound`: the accepted specifications.
* `dagLaw_of_build`: the loop never gets stuck and ends in `DagDone`, after at most as many waves as
  there are forward steps.
* `not_accepted_agentSpec`: an agent step that pins no deployment.
-/

namespace JavisSaas.Agent.Workflows

open JavisSaas.Lib

variable {A V : Type}

/-! ## Accepted specifications -/

namespace SpecFields

/-- The step declares the dependency. -/
def Needs (spec : SpecFields V) (dep id : String) : Prop :=
  ∃ step ∈ spec.steps, step.id = id ∧ dep ∈ step.dependsOn

/-- Targets are declared, some step is none, and no such step depends on one. -/
structure CompensationRule (spec : SpecFields V) : Prop where
  forward : spec.forwardSteps ≠ []
  onFailure : ∀ step ∈ spec.steps, ∀ target ∈ step.onFailure, target ∈ spec.stepIds
  compensateWith : ∀ step ∈ spec.steps, ∀ target ∈ step.compensateWith, target ∈ spec.stepIds
  dependsOn : ∀ step ∈ spec.steps, step.id ∉ spec.compensationTargets →
    ∀ dep ∈ step.dependsOn, dep ∉ spec.compensationTargets

/-- Distinct ids, declared dependencies without a cycle, and the compensation rule. -/
structure SoundGraph (spec : SpecFields V) : Prop where
  distinct : spec.stepIds.Nodup
  declared : ∀ step ∈ spec.steps, ∀ dep ∈ step.dependsOn, dep ∈ spec.stepIds
  acyclic : ∀ id, ¬Relation.TransGen spec.Needs id id
  compensation : spec.CompensationRule

/-- Every agent step pins a deployment. -/
def Pinned [Truthy V] (spec : SpecFields V) : Prop :=
  ∀ step ∈ spec.steps, step.type = .agent → step.pinned = true

end SpecFields

section

variable {spec : SpecFields V}

/-- With distinct ids the graph of the cycle search is the declared one. -/
theorem depOf_graph_iff (hnodup : spec.stepIds.Nodup) {dep id : String} :
    DepOf spec.graph dep id ↔ spec.Needs dep id := by
  constructor
  · intro h
    change dep ∈ (spec.getStep id).elim [] (·.dependsOn) at h
    cases hstep : spec.getStep id with
    | none =>
      rw [hstep] at h
      nomatch h
    | some step =>
      rw [hstep] at h
      have hid : step.id = id := by simpa using List.find?_some hstep
      exact ⟨step, List.mem_of_find?_eq_some hstep, hid, h⟩
  · rintro ⟨step, hstep, rfl, hdep⟩
    show dep ∈ spec.graph step.id
    rw [graph_eq hnodup hstep]
    exact hdep

theorem acyclic_iff (hnodup : spec.stepIds.Nodup) :
    (∀ id ∈ spec.stepIds, ¬Relation.TransGen (DepOf spec.graph) id id) ↔
      ∀ id, ¬Relation.TransGen spec.Needs id id := by
  have hrel : DepOf spec.graph = spec.Needs := by
    funext dep id
    exact propext (depOf_graph_iff hnodup)
  rw [hrel]
  refine ⟨fun h id hcycle => h id ?_ hcycle, fun h id _ => h id⟩
  obtain ⟨_, -, step, hstep, rfl, -⟩ := Relation.TransGen.tail'_iff.mp hcycle
  exact List.mem_map_of_mem hstep

theorem validateDag_eq_ok_iff_sound [Truthy V] :
    validateDag spec = .ok () ↔ spec.Pinned ∧ spec.SoundGraph := by
  rw [validateDag_eq_ok]
  have hclosed (hnodup : spec.stepIds.Nodup)
      (hdeps : ∀ step ∈ spec.steps, ∀ dep ∈ step.dependsOn, dep ∈ spec.stepIds) :
      ∀ x ∈ spec.stepIds, ∀ d ∈ spec.graph x, d ∈ spec.stepIds := by
    intro x hx d hd
    obtain ⟨step, hstep, rfl⟩ := List.mem_map.mp hx
    rw [graph_eq hnodup hstep] at hd
    exact hdeps step hstep d hd
  constructor
  · intro h
    refine ⟨h.pinned, h.nodup, h.dependsOn, ?_, h.forward, h.onFailure, h.compensateWith, ?_⟩
    · rw [← acyclic_iff h.nodup, ← acc_iff_acyclic (hclosed h.nodup h.dependsOn)]
      exact h.acyclic
    · intro step hstep hnot
      exact h.forwardDeps step (List.mem_filter.mpr ⟨hstep, decide_eq_true hnot⟩)
  · rintro ⟨hpinned, h⟩
    refine ⟨hpinned, h.distinct, h.compensation.forward, h.declared, h.compensation.onFailure,
      h.compensation.compensateWith, ?_, ?_⟩
    · rw [acc_iff_acyclic (hclosed h.distinct h.declared), acyclic_iff h.distinct]
      exact h.acyclic
    · intro step hstep
      obtain ⟨hmem, hnot⟩ := List.mem_filter.mp hstep
      exact h.compensation.dependsOn step hmem (of_decide_eq_true hnot)

end

/-! ## Runs of the loop -/

variable [PyValue V]

/-- Waves, each with the answers to its steps and to a compensation step. -/
def waves (l : List (List A × A)) : List (EngineLabel A) := l.map fun x => .wave x.1 x.2

/-- Every execution of the wave completes. -/
def AllSucceed (steps : String → Option (WorkflowStep A V)) (s : EngineState A V) :
    EngineLabel A → Prop
  | .wave answers _ => ∀ results ∈ waveResults steps s answers, ∀ x ∈ results,
    x.outcome.status = .completed
  | .resume _ => True

instance (steps : String → Option (WorkflowStep A V)) (s : EngineState A V) :
    DecidablePred (AllSucceed steps s)
  | .wave answers _ => inferInstanceAs (Decidable (∀ results ∈ waveResults steps s answers, _))
  | .resume _ => instDecidableTrue

/-- Every execution comes after one of each step that its step depends on. -/
def InOrder (spec : WorkflowSpec V) (log : List (Execution A V)) : Prop :=
  ∀ pre x post, log = pre ++ x :: post →
    ∀ dep, spec.Needs dep x.stepId → dep ∈ pre.map (·.stepId)

/-- How the loop ends. -/
structure DagDone (spec : WorkflowSpec V) (s : EngineState A V) : Prop where
  status : s.workflow.status = .completed
  once : (s.log.map (·.stepId)).Perm spec.forwardIds
  inOrder : InOrder spec s.log

/-- The executions are the completed steps, in order, and the call returns when all are completed. -/
structure DagInv (spec : WorkflowSpec V) (s : EngineState A V) : Prop where
  run : RunInv spec s
  log : s.log.map (·.stepId) = s.workflow.completedSteps
  nodup : s.workflow.completedSteps.Nodup
  forward : ∀ id ∈ s.workflow.completedSteps, id ∈ spec.forwardIds
  inOrder : InOrder spec s.log
  going : s.phase ≠ .returned ∨ s.workflow.status = .completed ∧
    ∀ id ∈ spec.forwardIds, id ∈ s.workflow.completedSteps

variable {spec : WorkflowSpec V} {steps : String → Option (WorkflowStep A V)}

theorem forwardIds_nodup (spec : WorkflowSpec V) : spec.forwardIds.Nodup := by
  have hsub : spec.forwardIds.Sublist spec.stepIds := List.filter_sublist.map _
  exact hsub.nodup spec.wellFormed.nodup

variable {cs : List String} {s s' : EngineState A V} {answers : List A} {ready : List String}

theorem LoopCase.going {w : Workflow V} {r : Workflow V × Phase} (h : LoopCase spec w cs [] r) :
    r.2 ≠ .returned ∨ r.1.status = .completed ∧ ∀ id ∈ spec.forwardIds, id ∈ cs := by
  cases h with
  | gathering => exact .inl nofun
  | stuck hready hopen => exact absurd hready (readyStepIds_ne_nil hopen)
  | completed hall =>
    refine .inr ⟨rfl, fun id hid => ?_⟩
    obtain ⟨step, hstep, rfl⟩ := List.mem_map.mp hid
    exact hall step hstep

omit [PyValue V] in
theorem inOrder_append [PyValue V] {spec : WorkflowSpec V} {log results : List (Execution A V)}
    (h : InOrder spec log) (hdeps : ∀ x ∈ results, ∀ dep, spec.Needs dep x.stepId →
      dep ∈ log.map (·.stepId)) : InOrder spec (log ++ results) := by
  intro pre x post hsplit dep hdep
  rcases List.append_eq_append_iff.mp hsplit with ⟨a, rfl, hresults⟩ | ⟨c, hlog, hpost⟩
  · rw [List.map_append]
    refine List.mem_append_left _ (hdeps x ?_ dep hdep)
    rw [hresults]
    exact List.mem_append_right _ List.mem_cons_self
  · cases c with
    | nil =>
      rw [List.append_nil] at hlog
      rw [← hlog]
      refine hdeps x ?_ dep hdep
      rw [List.nil_append] at hpost
      rw [← hpost]
      exact List.mem_cons_self
    | cons _ c =>
      obtain ⟨rfl, -⟩ := List.cons_eq_cons.mp hpost
      exact h pre x c hlog dep hdep

theorem needs_of_mem_ready {fs : List String} {id dep : String} (h : id ∈ readyStepIds spec cs fs)
    (hdep : spec.Needs dep id) : dep ∈ cs := by
  obtain ⟨step, hstep, rfl, hdep⟩ := hdep
  have hforward : step ∈ spec.forwardSteps := by
    refine List.mem_filter.mpr ⟨hstep, decide_eq_true ?_⟩
    exact notMem_targets_of_forward (mem_readyStepIds h).2
  exact deps_of_mem_ready h hforward rfl dep hdep

/-- A wave in which everything succeeds completes at least one more step. -/
theorem DagInv.wave (h : DagInv spec s) {compensation : A} {results : List (Execution A V)}
    (hphase : s.phase = .gathering cs [] ready)
    (hgather : gather steps s.workflow.state ready answers = some results)
    (hwave : Wave spec s results) (hsucc : ∀ x ∈ results, x.outcome.status = .completed)
    (hrun : RunInv spec s') (hcase : WaveCase spec steps compensation results cs [] s s') :
    DagInv spec s' ∧ missing spec.forwardIds s'.workflow.completedSteps <
      missing spec.forwardIds s.workflow.completedSteps := by
  obtain ⟨-, hcs, -, hready, hne⟩ := h.run.gathering cs [] ready hphase
  obtain ⟨hids, -⟩ := gather_eq_some hgather
  have hstop : ∀ (done rest : List (Execution A V)) (x : Execution A V),
      results = done ++ x :: rest → x.outcome.status = .completed := by
    intro done rest x hresults
    refine hsucc x ?_
    rw [hresults]
    exact List.mem_append_right _ List.mem_cons_self
  cases hcase with
  | paused done rest x hresults _ hx =>
    rw [hstop done rest x hresults] at hx
    nomatch hx
  | failed done rest x hresults _ hx =>
    rw [hstop done rest x hresults] at hx
    nomatch hx
  | @merged hdone r hloop =>
    have hsteps : r.1.completedSteps = s.workflow.completedSteps ++ results.map (·.stepId) := by
      rw [hloop.completedSteps_eq, Workflow.mergeAll_completedSteps]
    refine ⟨⟨hrun, ?_, ?_, ?_, ?_, ?_⟩, ?_⟩
    · show (s.log ++ results).map _ = r.1.completedSteps
      rw [List.map_append, h.log, hsteps]
    · show r.1.completedSteps.Nodup
      rw [hsteps, List.nodup_append]
      refine ⟨h.nodup, hwave.nodup, ?_⟩
      rintro id hid _ hid' rfl
      obtain ⟨x, hx, rfl⟩ := List.mem_map.mp hid'
      exact hwave.notCompleted x hx hid
    · show ∀ id ∈ r.1.completedSteps, id ∈ spec.forwardIds
      rw [hsteps]
      intro id hid
      rcases List.mem_append.mp hid with hid | hid
      · exact h.forward id hid
      · obtain ⟨x, hx, rfl⟩ := List.mem_map.mp hid
        exact hwave.mem x hx
    · show InOrder spec (s.log ++ results)
      refine inOrder_append h.inOrder fun x hx dep hdep => ?_
      have hmem : x.stepId ∈ readyStepIds spec cs [] := by
        rw [← hready, ← hids]
        exact List.mem_map_of_mem hx
      rw [h.log, ← hcs]
      exact needs_of_mem_ready hmem hdep
    · show r.2 ≠ .returned ∨ r.1.status = .completed ∧
        ∀ id ∈ spec.forwardIds, id ∈ r.1.completedSteps
      rw [hsteps, ← hcs]
      exact hloop.going
    · show missing spec.forwardIds r.1.completedSteps < _
      -- the wave is not empty
      obtain ⟨x, hx⟩ : ∃ x, x ∈ results := by
        apply List.exists_mem_of_ne_nil
        rintro rfl
        exact hne hids.symm
      rw [hsteps]
      exact missing_lt (List.subset_append_left _ _) (hwave.mem x hx) (hwave.notCompleted x hx)
        (List.mem_append_right _ (List.mem_map_of_mem hx))

/-! ## The law of the loop -/

theorem dagInv_init (spec : WorkflowSpec V) (id : String) (computeHash : SpecFields V → String)
    (initialState : Dict String V) :
    ∃ s₀ : EngineState A V, executeSpec spec id computeHash initialState none = some s₀ ∧
      DagInv spec s₀ := by
  have hloop : ∀ w : Workflow V, w.status = .running → (executeDag spec w).isSome := by
    intro w hw
    obtain ⟨r, hr, -⟩ := loopHead_cases spec hw w.completedSteps []
    rw [executeDag_eq, hr]
    rfl
  have hsome : (executeSpec spec id computeHash initialState none :
      Option (EngineState A V)).isSome := by
    unfold executeSpec
    simp only [Workflow.transition, WorkflowStatus.allowed, List.mem_cons, true_or, if_true, bind,
      Option.bind_some, pure, Option.isSome_bind, Option.isSome_some]
    rw [Option.any_true]
    exact hloop _ rfl
  obtain ⟨s₀, hs₀⟩ := Option.isSome_iff_exists.mp hsome
  refine ⟨s₀, hs₀, ?_⟩
  have hrun := runInv_init hs₀
  obtain ⟨w, r, -, hsteps, -, -, hloop, rfl⟩ := executeSpec_cases hs₀
  have hnil : r.1.completedSteps = [] := hloop.completedSteps_eq.trans hsteps
  have hempty : ∀ id, id ∉ r.1.completedSteps := by simp [hnil]
  refine ⟨hrun, hnil.symm, ?_, fun id hid => absurd hid (hempty id), ?_, ?_⟩
  · show r.1.completedSteps.Nodup
    rw [hnil]
    exact List.nodup_nil
  · intro pre x post hsplit
    simp at hsplit
  · show r.2 ≠ .returned ∨ r.1.status = .completed ∧
      ∀ id ∈ spec.forwardIds, id ∈ r.1.completedSteps
    rw [hnil]
    exact hloop.going

theorem DagInv.next (h : DagInv spec s) {wave : List A × A}
    (hsucc : AllSucceed steps s (.wave wave.1 wave.2))
    (hnext : next spec steps s (.wave wave.1 wave.2) = some s') :
    DagInv spec s' ∧ missing spec.forwardIds s'.workflow.completedSteps <
      missing spec.forwardIds s.workflow.completedSteps := by
  rcases h.run.next_cases hnext with
    ⟨answers, compensation, results, cs, ready, hl, hphase, hgather, hwave, hcase⟩ |
    ⟨answer, hl, -⟩
  · cases hl
    refine h.wave hphase hgather hwave (hsucc results ?_) (h.run.next hnext) hcase
    rw [waveResults, hphase]
    exact hgather
  · nomatch hl

theorem DagInv.run_waves (h : DagInv spec s) {l : List (List A × A)}
    (hsucc : (workflowRuns spec steps).Along (AllSucceed steps) s (waves l))
    (hrun : (workflowRuns spec steps).run s (waves l) = some s') :
    DagInv spec s' ∧ missing spec.forwardIds s'.workflow.completedSteps + l.length ≤
      missing spec.forwardIds s.workflow.completedSteps := by
  induction l generalizing s with
  | nil =>
    obtain rfl : s = s' := by simpa [waves] using hrun
    exact ⟨h, le_refl _⟩
  | cons _ _ ih =>
    obtain ⟨m, hm, hrun⟩ := ((workflowRuns spec steps).run_cons_eq_some).mp hrun
    obtain ⟨h', hlt⟩ := h.next hsucc.1 hm
    obtain ⟨h'', hle⟩ := ih h' (hsucc.2 m hm) hrun
    refine ⟨h'', ?_⟩
    rw [List.length_cons]
    omega

theorem DagInv.done (h : DagInv spec s) (hphase : s.phase = .returned) : DagDone spec s := by
  obtain ⟨hstatus, hall⟩ := h.going.resolve_left fun hne => hne hphase
  refine ⟨hstatus, ?_, h.inOrder⟩
  rw [h.log, List.perm_ext_iff_of_nodup h.nodup (forwardIds_nodup spec)]
  exact fun id => ⟨h.forward id, hall id⟩

theorem gather_isSome {state : Dict String V} (hlength : answers.length = ready.length)
    (hknown : ∀ id ∈ ready, (steps id).isSome) :
    (gather steps state ready answers).isSome := by
  induction ready generalizing answers with
  | nil =>
    rw [List.length_nil, List.length_eq_zero_iff] at hlength
    subst hlength
    rfl
  | cons id _ ih =>
    cases answers with
    | nil => nomatch hlength
    | cons =>
      obtain ⟨step, hstep⟩ := Option.isSome_iff_exists.mp (hknown id List.mem_cons_self)
      have hrest := ih (Nat.succ.inj hlength) fun id' hid' =>
        hknown id' (List.mem_cons_of_mem _ hid')
      obtain ⟨results, hresults⟩ := Option.isSome_iff_exists.mp hrest
      simp only [gather, hstep, hresults, Option.isSome_some]

theorem next_isSome_of_gathering (h : DagInv spec s) {fs : List String}
    (hphase : s.phase = .gathering cs fs ready) (hknown : ∀ id ∈ spec.forwardIds, (steps id).isSome)
    (hlength : answers.length = ready.length) (compensation : A) :
    (next spec steps s (.wave answers compensation)).isSome := by
  obtain ⟨hstatus, -, -, hready, -⟩ := h.run.gathering cs fs ready hphase
  have hmem : ∀ id ∈ ready, (steps id).isSome := by
    intro id hid
    rw [hready] at hid
    exact hknown id (mem_readyStepIds hid).2
  have hsome : (gather steps s.workflow.state ready answers).isSome := gather_isSome hlength hmem
  obtain ⟨results, hgather⟩ := Option.isSome_iff_exists.mp hsome
  obtain ⟨s', hs', -⟩ := next_wave_cases spec compensation hstatus hphase hgather
  rw [hs']
  rfl

/-- The call goes on with its wave, whatever the answers, or has completed the workflow. -/
structure DagLaw (spec : WorkflowSpec V) (steps : String → Option (WorkflowStep A V))
    (s : EngineState A V) : Prop where
  done : s.phase = .returned → DagDone spec s
  goesOn : ∀ cs fs ready, s.phase = .gathering cs fs ready →
    s.workflow.status = .running ∧ ∀ (answers : List A) (compensation : A),
      answers.length = ready.length → (next spec steps s (.wave answers compensation)).isSome

/-- The validator accepts exactly the sound graphs whose agent steps are pinned. While every
execution succeeds the loop goes on, for at most as many waves as there are forward steps, and ends
when each has been executed once, after the steps it depends on. -/
theorem dagLaw_of_build {O : Type} [DecidableEq V] :
    (∀ fields : SpecFields V, validateDag fields = .ok () ↔ fields.Pinned ∧ fields.SoundGraph) ∧
    ∀ (engine : WorkflowEngine V O) (spec : WorkflowSpec V)
      (built : List (WorkflowStep (Answers V O) V)),
      engine.buildStepsFromSpec spec.toSpecFields = .ok built →
      ∀ (id : String) (computeHash : SpecFields V → String) (initialState : Dict String V),
      ∃ s₀, executeSpec spec id computeHash initialState none = some s₀ ∧
        ∀ l s, (workflowRuns spec (stepsMap spec.toSpecFields built)).Along
            (AllSucceed (stepsMap spec.toSpecFields built)) s₀ (waves l) →
          (workflowRuns spec (stepsMap spec.toSpecFields built)).run s₀ (waves l) = some s →
          l.length ≤ spec.forwardSteps.length ∧
            DagLaw spec (stepsMap spec.toSpecFields built) s := by
  refine ⟨fun fields => validateDag_eq_ok_iff_sound, ?_⟩
  intro engine spec built hbuilt id computeHash initialState
  obtain ⟨s₀, hs₀, hinit⟩ := dagInv_init spec id computeHash initialState
  refine ⟨s₀, hs₀, fun l s hsucc hrun => ?_⟩
  obtain ⟨hinv, hle⟩ := hinit.run_waves hsucc hrun
  have hknown : ∀ id ∈ spec.forwardIds, (stepsMap spec.toSpecFields built id).isSome := by
    intro id hid
    obtain ⟨step, hstep, rfl⟩ := List.mem_map.mp hid
    obtain ⟨b, -, hb⟩ := stepsMap_eq spec.wellFormed.nodup hbuilt (List.mem_filter.mp hstep).1
    rw [hb]
    rfl
  refine ⟨?_, hinv.done, fun cs fs ready hphase => ⟨?_, fun answers compensation hlength => ?_⟩⟩
  · have hmissing : missing spec.forwardIds s₀.workflow.completedSteps ≤
        spec.forwardSteps.length :=
      (List.length_filter_le _ _).trans (List.length_map _).le
    omega
  · exact (hinv.run.gathering cs fs ready hphase).1
  · exact next_isSome_of_gathering hinv hphase hknown hlength compensation

/-! ## Two calls, and an agent that is not pinned -/

/-- A call, and a second behind it. -/
def relaySpec : WorkflowSpec String where
  id := "relay"
  steps := [{ id := "second", dependsOn := ["first"] }, { id := "first" }]
  valid := by decide

def relaySteps : List (WorkflowStep (Answers String Unit) String) :=
  ((plainEngine.buildStepsFromSpec relaySpec.toSpecFields).toOption).getD []

/-- Both calls succeed, in two waves. -/
def relayWaves : List (List (Answers String Unit) × Answers String Unit) :=
  [([approving "a"], approving "a"), ([approving "a"], approving "a")]

def relayStart : EngineState (Answers String Unit) String := (started relaySpec).get (by decide)

def relayEnd : EngineState (Answers String Unit) String :=
  ((workflowRuns relaySpec (stepsMap relaySpec.toSpecFields relaySteps)).run relayStart
    (waves relayWaves)).get (by decide +kernel)

theorem dagDone_relayEnd : DagDone relaySpec relayEnd := by
  obtain ⟨s₀, hs₀, hlaw⟩ := dagLaw_of_build.2 plainEngine relaySpec relaySteps rfl "wf" (fun _ => "h")
    initialState
  obtain rfl : s₀ = relayStart := Option.some.inj (hs₀.symm.trans (Option.some_get _).symm)
  have hrun : (workflowRuns relaySpec (stepsMap relaySpec.toSpecFields relaySteps)).run relayStart
      (waves relayWaves) = some relayEnd := (Option.some_get _).symm
  exact (hlaw relayWaves relayEnd (by decide +kernel) hrun).2.done (by decide +kernel)

/-- One agent step, without a deployment. -/
def agentSpec : SpecFields String where
  id := "brief"
  steps := [{ id := "write", type := .agent }]

/-- The graph is sound, and the specification is rejected. -/
theorem not_accepted_agentSpec :
    agentSpec.SoundGraph ∧ validateDag agentSpec = .error (.agentUnpinned "write") := by
  refine ⟨⟨by decide, by decide, fun id hcycle => ?_, by decide, by decide, by decide, by decide⟩,
    by decide⟩
  obtain ⟨dep, -, step, hstep, -, hdep⟩ := Relation.TransGen.tail'_iff.mp hcycle
  rw [List.mem_singleton.mp hstep] at hdep
  nomatch hdep

end JavisSaas.Agent.Workflows
