import JavisSaas.Agent.Workflows.EngineRuns

/-!
# Completed steps across pauses and failures

A step that has returned `COMPLETED` must not be executed again, and its outcome must be in every
later checkpoint. The loop over a wave breaks at the first waiting or failed result, so completed
ones behind it are lost.

* `keepsCompleted_iff_of_wave`: after a wave; `along_keepsCompleted_iff`: along whole runs.
-/

namespace JavisSaas.Agent.Workflows

open JavisSaas.Lib

variable {A V : Type}

/-- No step is executed after it has completed, and the completed outcomes are in
    the checkpoint. -/
structure KeepsCompleted (s : EngineState A V) : Prop where
  once : s.log.Pairwise fun x y => x.outcome.status = .completed → y.stepId ≠ x.stepId
  kept : ∀ x ∈ s.log, x.outcome.status = .completed →
    x.stepId ∈ s.workflow.completedSteps ∧
      s.workflow.stepOutcomes.get? x.stepId = some x.outcome

variable [PyValue V]

/-- The results that a wave gathers. -/
def waveResults (steps : String → Option (WorkflowStep A V)) (s : EngineState A V)
    (answers : List A) : Option (List (Execution A V)) :=
  match s.phase with
  | .returned => none
  | .gathering _ _ ready => gather steps s.workflow.state ready answers

/-- The completed results come first. -/
def ResultsInOrder (results : List (Execution A V)) : Prop :=
  results.Pairwise fun x y => y.outcome.status = .completed → x.outcome.status = .completed

/-- No wave has a completed result behind one that is not. -/
def CompletedFirst (steps : String → Option (WorkflowStep A V)) (s : EngineState A V) :
    EngineLabel A → Prop
  | .wave answers _ => ∀ results ∈ waveResults steps s answers, ResultsInOrder results
  | .resume _ => True

instance (results : List (Execution A V)) : Decidable (ResultsInOrder results) := by
  unfold ResultsInOrder
  infer_instance

instance (steps : String → Option (WorkflowStep A V)) (s : EngineState A V) :
    DecidablePred (CompletedFirst steps s)
  | .wave answers _ =>
    inferInstanceAs (Decidable (∀ results ∈ waveResults steps s answers, ResultsInOrder results))
  | .resume _ => instDecidableTrue

variable {spec : WorkflowSpec V} {steps : String → Option (WorkflowStep A V)}

/-! ## One wave -/

variable {results : List (Execution A V)}

omit [PyValue V] in
theorem resultsInOrder_of_completed
    (h : ∀ x ∈ results, x.outcome.status = .completed) : ResultsInOrder results :=
  List.pairwise_of_forall_mem_list fun x hx _ _ _ => h x hx

omit [PyValue V] in
/-- Behind a result that is not completed, an ordered wave has no completed one. -/
theorem resultsInOrder_iff {done rest : List (Execution A V)} {x : Execution A V}
    (hdone : ∀ y ∈ done, y.outcome.status = .completed) (hx : x.outcome.status ≠ .completed) :
    ResultsInOrder (done ++ x :: rest) ↔ ∀ y ∈ rest, y.outcome.status ≠ .completed := by
  unfold ResultsInOrder
  rw [List.pairwise_append, List.pairwise_cons]
  constructor
  · rintro ⟨-, ⟨hrest, -⟩, -⟩ y hy hcompleted
    exact hx (hrest y hy hcompleted)
  · intro hrest
    refine ⟨resultsInOrder_of_completed hdone, ⟨fun y hy hc => absurd hc (hrest y hy), ?_⟩,
      fun y hy _ _ _ => hdone y hy⟩
    exact List.pairwise_of_forall_mem_list fun _ _ y hy hc => absurd hc (hrest y hy)

variable {s : EngineState A V}

/-- The executions stay without repetition when a wave of new steps is logged. -/
theorem once_append (hk : KeepsCompleted s)
    (hwave : Wave spec s results) :
    (s.log ++ results).Pairwise fun x y =>
      x.outcome.status = .completed → y.stepId ≠ x.stepId := by
  refine List.pairwise_append.mpr ⟨hk.once, ?_, ?_⟩
  · have hne : results.Pairwise fun x y => x.stepId ≠ y.stepId :=
      List.pairwise_map.mp hwave.nodup
    refine List.Pairwise.imp ?_ hne
    intro x y h _
    exact Ne.symm h
  · intro x hx y hy hcompleted heq
    exact hwave.notCompleted y hy (heq ▸ (hk.kept x hx hcompleted).1)

variable {results done rest : List (Execution A V)}

/-- Merging the first results of a wave keeps what the checkpoint has, and adds
    them to it. -/
theorem kept_mergeAll (hk : KeepsCompleted s)
    (hwave : Wave spec s results)
    (hresults : results = done ++ rest) {x : Execution A V}
    (hx : x ∈ s.log ∧ x.outcome.status = .completed ∨ x ∈ done) :
    x.stepId ∈ (s.workflow.mergeAll done).completedSteps ∧
      (s.workflow.mergeAll done).stepOutcomes.get? x.stepId = some x.outcome := by
  have hnodup : (done.map (·.stepId)).Nodup := by
    have h := hwave.nodup
    rw [hresults, List.map_append] at h
    exact (List.nodup_append.mp h).1
  rw [Workflow.mergeAll_completedSteps, List.mem_append]
  rcases hx with ⟨hx, hcompleted⟩ | hx
  · obtain ⟨hmem, hget⟩ := hk.kept x hx hcompleted
    refine ⟨.inl hmem, ?_⟩
    rw [Workflow.stepOutcomes_mergeAll_of_notMem]
    · exact hget
    · intro hin
      obtain ⟨y, hy, heq⟩ := List.mem_map.mp hin
      have hy' : y ∈ results := by
        rw [hresults]
        exact List.mem_append_left _ hy
      exact hwave.notCompleted y hy' (heq ▸ hmem)
  · exact ⟨.inr (List.mem_map_of_mem hx), Workflow.stepOutcomes_mergeAll_of_mem _ hnodup hx⟩

variable {stop : Execution A V}

theorem ne_stop (hk : KeepsCompleted s)
    (hwave : Wave spec s results) (hresults : results = done ++ stop :: rest) {x : Execution A V}
    (hx : x ∈ s.log ∧ x.outcome.status = .completed ∨ x ∈ done) : stop.stepId ≠ x.stepId := by
  intro heq
  rcases hx with ⟨hx, hcompleted⟩ | hx
  · have hmem : stop ∈ results := by simp [hresults]
    exact hwave.notCompleted stop hmem (heq ▸ (hk.kept x hx hcompleted).1)
  · have h := hwave.nodup
    rw [hresults, List.map_append, List.nodup_append] at h
    exact h.2.2 x.stepId (List.mem_map_of_mem hx) stop.stepId (by simp) heq.symm

theorem notMem_completed_of_rest
    (hwave : Wave spec s results) (hresults : results = done ++ stop :: rest)
    {y : Execution A V} (hy : y ∈ rest) :
    y.stepId ∉ (s.workflow.mergeAll done).completedSteps := by
  have hmem : y ∈ results := by simp [hresults, hy]
  rw [Workflow.mergeAll_completedSteps, List.mem_append, not_or]
  refine ⟨hwave.notCompleted y hmem, fun hin => ?_⟩
  have h := hwave.nodup
  rw [hresults, List.map_append, List.nodup_append] at h
  exact h.2.2 y.stepId hin y.stepId (by simp [List.mem_map_of_mem, hy]) rfl

/-- What a wave leaves that stops at a result that is not completed. -/
structure Stopped (spec : WorkflowSpec V) (s s' : EngineState A V)
    (results done : List (Execution A V)) (stop : Execution A V)
    (compensations : List (Execution A V)) : Prop where
  log : s'.log = (s.log ++ results) ++ compensations
  completed : ∀ id ∉ spec.compensationTargets,
    id ∈ s'.workflow.completedSteps ↔ id ∈ (s.workflow.mergeAll done).completedSteps
  outcomes : ∀ id ∉ spec.compensationTargets, stop.stepId ≠ id →
    s'.workflow.stepOutcomes.get? id = (s.workflow.mergeAll done).stepOutcomes.get? id
  atMostOne : compensations.length ≤ 1
  compensation : ∀ x ∈ compensations, x.stepId ∈ spec.compensationTargets ∧
    (x.outcome.status = .completed → x.stepId ∈ s'.workflow.completedSteps ∧
      s'.workflow.stepOutcomes.get? x.stepId = some x.outcome)

variable {s s' : EngineState A V}

/-- A wave that stops keeps the law exactly if nothing completed is behind the stop. -/
theorem keepsCompleted_iff_of_stopped (hk : KeepsCompleted s)
    {results done rest compensations : List (Execution A V)}
    (hwave : Wave spec s results) (hresults : results = done ++ stop :: rest)
    (hdone : ∀ y ∈ done, y.outcome.status = .completed) (hnot : stop.outcome.status ≠ .completed)
    (hforward : ∀ x ∈ s.log ++ results, x.stepId ∉ spec.compensationTargets)
    (h : Stopped spec s s' results done stop compensations) :
    KeepsCompleted s' ↔ ResultsInOrder results := by
  rw [hresults, resultsInOrder_iff hdone hnot]
  constructor
  · intro hkept y hy hcompleted
    have hmem : y ∈ s.log ++ results := by simp [hresults, hy]
    have hmem' : y ∈ s'.log := by
      rw [h.log]
      exact List.mem_append_left _ hmem
    have hin := (hkept.kept y hmem' hcompleted).1
    exact notMem_completed_of_rest hwave hresults hy
      ((h.completed y.stepId (hforward y hmem)).mp hin)
  · intro hrest
    constructor
    · rw [h.log]
      refine List.pairwise_append.mpr ⟨once_append hk hwave, ?_, ?_⟩
      · match compensations, h.atMostOne with
        | [], _ => exact List.Pairwise.nil
        | [x], _ => exact List.pairwise_singleton _ _
      · intro x hx y hy _ heq
        exact hforward x hx (heq ▸ (h.compensation y hy).1)
    · intro x hx hcompleted
      rw [h.log] at hx
      rcases List.mem_append.mp hx with hx | hx
      · have hx' : x ∈ s.log ∧ x.outcome.status = .completed ∨ x ∈ done := by
          rcases List.mem_append.mp hx with hx | hx
          · exact .inl ⟨hx, hcompleted⟩
          · rw [hresults, List.mem_append, List.mem_cons] at hx
            rcases hx with hx | rfl | hx
            · exact .inr hx
            · exact absurd hcompleted hnot
            · exact absurd hcompleted (hrest x hx)
        obtain ⟨hin, hget⟩ := kept_mergeAll hk hwave hresults hx'
        have hfwd := hforward x hx
        exact ⟨(h.completed x.stepId hfwd).mpr hin,
          (h.outcomes x.stepId hfwd (ne_stop hk hwave hresults hx')).trans hget⟩
      · exact (h.compensation x hx).2 hcompleted

theorem stopped_of_failStep {results done : List (Execution A V)}
    {compensation : A} {w' : Workflow V}
    {compensations : List (Execution A V)}
    (hfail : failStep spec steps ((s.workflow.mergeAll done).record stop.stepId stop.outcome) stop
      compensation = (w', compensations)) :
    Stopped spec s
      { s with
        workflow := { w' with status := .failed }
        phase := .returned
        log := s.log ++ (results ++ compensations) } results done stop compensations := by
  have hlog : s.log ++ (results ++ compensations) = (s.log ++ results) ++ compensations :=
    (List.append_assoc _ _ _).symm
  rcases (failStep_cases hfail).2 with ⟨rfl, hsteps, houtcomes⟩ |
    ⟨entry, rfl, htarget, -, -, -, hsteps, houtcomes⟩
  · refine ⟨hlog, fun id _ => ?_, fun id _ hne => ?_, by simp, by simp⟩
    · dsimp only
      rw [hsteps]
      rfl
    · dsimp only
      rw [houtcomes]
      exact Dict.get?_set_of_ne _ hne _
  · refine ⟨hlog, fun id hid => ?_, fun id hid hne => ?_, le_refl 1, fun x hx => ?_⟩
    · have hne : id ≠ entry.stepId := fun heq => hid (heq ▸ htarget)
      dsimp only
      rw [hsteps, List.mem_append]
      split_ifs <;> simp [hne, Workflow.record]
    · have hne' : entry.stepId ≠ id := fun heq => hid (heq ▸ htarget)
      dsimp only
      rw [houtcomes, Dict.get?_set_of_ne _ hne']
      exact Dict.get?_set_of_ne _ hne _
    · obtain rfl := List.mem_singleton.mp hx
      refine ⟨htarget, fun hcompleted => ?_⟩
      dsimp only
      rw [hsteps, houtcomes, if_pos hcompleted]
      exact ⟨by simp, Dict.get?_set_self _ _ _⟩

/-- After a wave the law holds exactly if its completed results came first. -/
theorem keepsCompleted_iff_of_wave (hs : RunInv spec s)
    (hk : KeepsCompleted s) (hstatus : s.workflow.status = .running)
    (hwave : Wave spec s results) {cs : List String}
    {compensation : A} (h : WaveCase spec steps compensation results cs [] s s') :
    KeepsCompleted s' ↔ ResultsInOrder results := by
  have hforward : ∀ x ∈ s.log ++ results, x.stepId ∉ spec.compensationTargets := by
    intro x hx
    rcases List.mem_append.mp hx with hx | hx
    · exact hs.forward (by simp [hstatus]) x hx
    · exact hwave.forward x hx
  cases h with
  | merged hdone hloop =>
    refine iff_of_true ⟨once_append hk hwave, fun x hx hcompleted => ?_⟩
      (resultsInOrder_of_completed hdone)
    dsimp only at hx ⊢
    rw [hloop.completedSteps_eq, hloop.stepOutcomes_eq]
    refine kept_mergeAll hk hwave (List.append_nil _).symm ?_
    rcases List.mem_append.mp hx with hx | hx
    · exact .inl ⟨hx, hcompleted⟩
    · exact .inr hx
  | paused _ _ stop hresults hdone hstop =>
    have hnot : stop.outcome.status ≠ .completed := by simp [hstop]
    apply keepsCompleted_iff_of_stopped hk hwave hresults hdone hnot hforward
    refine ⟨(List.append_nil _).symm, fun id _ => Iff.rfl, fun id _ hne => ?_, Nat.zero_le 1,
      fun x hx => absurd hx List.not_mem_nil⟩
    exact Dict.get?_set_of_ne _ hne _
  | @failed done rest stop hresults hdone hstop w' compensations hfail =>
    have hnot : stop.outcome.status ≠ .completed := by simp [hstop]
    exact keepsCompleted_iff_of_stopped hk hwave hresults hdone hnot hforward
      (stopped_of_failStep hfail)

/-! ## Runs -/

theorem keepsCompleted_of_resume (hk : KeepsCompleted s) {answer : A}
    (h : ResumeCase spec steps answer s s') : KeepsCompleted s' := by
  cases h with
  | notWaiting | pending => exact hk
  | refused => exact ⟨hk.once, hk.kept⟩
  | noGate _ _ hloop =>
    refine ⟨hk.once, fun x hx hcompleted => ?_⟩
    dsimp only
    rw [hloop.completedSteps_eq, hloop.stepOutcomes_eq]
    exact hk.kept x hx hcompleted
  | approved _ _ _ _ hloop =>
    refine ⟨hk.once, fun x hx hcompleted => ?_⟩
    obtain ⟨hin, hget⟩ := hk.kept x hx hcompleted
    dsimp only
    rw [hloop.completedSteps_eq, hloop.stepOutcomes_eq]
    exact ⟨List.mem_append_left _ hin, hget⟩

/-- One step of a run: the law holds after it exactly if its wave was in order. -/
theorem keepsCompleted_iff_of_next (hs : RunInv spec s)
    (hk : KeepsCompleted s) (l : EngineLabel A) :
    (∀ s' ∈ next spec steps s l, KeepsCompleted s') ↔ CompletedFirst steps s l := by
  cases l with
  | resume =>
    refine iff_of_true (fun s' hs' => ?_) trivial
    rcases hs.next_cases hs' with ⟨_, _, _, _, _, hl, -⟩ | ⟨_, -, -, hcase⟩
    · cases hl
    · exact keepsCompleted_of_resume hk hcase
  | wave answers compensation =>
    show _ ↔ ∀ results ∈ waveResults steps s answers, ResultsInOrder results
    unfold waveResults
    cases hphase : s.phase with
    | returned => simp [next, hphase]
    | gathering cs fs ready =>
      dsimp only
      cases hgather : gather steps s.workflow.state ready answers with
      | none => simp [next, hphase, hgather]
      | some =>
        obtain ⟨hstatus, -, rfl, -⟩ := hs.gathering cs fs ready hphase
        have hwave := hs.wave hphase hgather
        obtain ⟨s', hs', hcase⟩ := next_wave_cases spec compensation hstatus hphase hgather
        have hiff := keepsCompleted_iff_of_wave hs hk hstatus hwave hcase
        simp only [hs', Option.mem_def, Option.some.injEq, forall_eq']
        exact hiff

/-- No completed step is executed again, and every completed outcome is in the checkpoint, if and
only if in every wave the completed results come first. -/
theorem along_keepsCompleted_iff {id : String} {computeHash : SpecFields V → String}
    {initialState : Dict String V} {s₀ : EngineState A V}
    (h₀ : executeSpec spec id computeHash initialState none = some s₀)
    (ls : List (EngineLabel A)) :
    (workflowRuns spec steps).Along (fun s l => ∀ s' ∈ next spec steps s l, KeepsCompleted s') s₀
        ls ↔
      (workflowRuns spec steps).Along (CompletedFirst steps) s₀ ls := by
  have hinit : RunInv spec s₀ ∧ KeepsCompleted s₀ := by
    refine ⟨runInv_init h₀, ?_⟩
    obtain ⟨w, r, -, -, -, -, -, rfl⟩ := executeSpec_cases h₀
    exact ⟨List.Pairwise.nil, by simp⟩
  refine (workflowRuns spec steps).along_iff_of_inv
    (I := fun s => RunInv spec s ∧ KeepsCompleted s) ?_ ?_ hinit
  · rintro s l s' ⟨hs, -⟩ hkeeps hnext
    exact ⟨hs.next hnext, hkeeps s' hnext⟩
  · rintro s l ⟨hs, hk⟩
    exact keepsCompleted_iff_of_next hs hk l

/-! ## A wave that pauses before a completed result -/

/-- An approval gate and, in the same wave, a tool call behind it. -/
def branchSpec : WorkflowSpec String where
  id := "publish"
  steps := [{ id := "gate", type := .approvalGate }, { id := "call" }]
  valid := by decide

def plainEngine : WorkflowEngine String Unit where
  resolveInputs _ state := state

/-- The compiled steps of a specification. -/
def compiled (spec : WorkflowSpec String) (id : String) :
    Option (WorkflowStep (Answers String Unit) String) :=
  match plainEngine.buildStepsFromSpec spec.toSpecFields with
  | .ok built => stepsMap spec.toSpecFields built id
  | .error _ => none

/-- Approvals are created under `a` and are `approved`, and the gateway completes the call. -/
def approving (a : String) : Answers String Unit where
  createApproval _ := a
  getApproval _ := some { status := "approved" }
  gateway request := { toolCallId := request.toolCallId, status := .completed,
                       outputPayload := some "done" }
  other := ()

def initialState : Dict String String :=
  (∅ : Dict String String).update [("workspace_id", "w1"), ("run_id", "r1"), ("subject", "page")]

def started (spec : WorkflowSpec String) : Option (EngineState (Answers String Unit) String) :=
  executeSpec spec "wf" (fun _ => "h") initialState none

/-- The gate pauses the first wave, in which the call has completed; it is executed again. -/
def branchRun : List (EngineLabel (Answers String Unit)) :=
  [.wave [approving "a1", approving "a1"] (approving "a1"), .resume (approving "a1"),
    .wave [approving "a1"] (approving "a1")]

/-- The state that a run of the compiled specification leads to. -/
def reached (spec : WorkflowSpec String) (ls : List (EngineLabel (Answers String Unit))) :
    Option (EngineState (Answers String Unit) String) :=
  (started spec).bind fun s₀ => (workflowRuns spec (compiled spec)).run s₀ ls

/-- The same wave with the call in front of the gate, and a step behind both. -/
def orderlySpec : WorkflowSpec String where
  id := "publish"
  steps := [{ id := "call" }, { id := "gate", type := .approvalGate },
    { id := "notify", dependsOn := ["call", "gate"] }]
  valid := by decide

def orderlyStart : EngineState (Answers String Unit) String :=
  (started orderlySpec).get (by decide)

theorem started_orderlySpec : started orderlySpec = some orderlyStart :=
  (Option.some_get _).symm

theorem keepsCompleted_branchRun :
    (workflowRuns orderlySpec (compiled orderlySpec)).Along
      (fun s l => ∀ s' ∈ next orderlySpec (compiled orderlySpec) s l, KeepsCompleted s')
      orderlyStart branchRun :=
  (along_keepsCompleted_iff started_orderlySpec branchRun).mpr (by decide +kernel)

theorem not_keepsCompleted_branchRun : ¬∀ s ∈ reached branchSpec branchRun, KeepsCompleted s := by
  intro h
  have hlost := h ((reached branchSpec branchRun).get (by decide +kernel)) (Option.some_get _).symm
  exact absurd hlost.once (by decide +kernel)

end JavisSaas.Agent.Workflows
