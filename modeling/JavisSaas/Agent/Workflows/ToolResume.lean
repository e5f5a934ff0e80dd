import Mathlib.Data.List.Chain
import JavisSaas.Agent.Workflows.Progress

/-!
# Tool calls across pauses

`GatewayToolCallStep.run` takes every status that it does not look for, `in_progress` among them,
for a completion, and it stores the tool call id in a copy of the state that is dropped when the
step pauses.

* `KeepsCall`: the conditions on the gateway's answers and on the stored id.
* `toolLaw_of_run`: along whole runs.
-/

namespace JavisSaas.Agent.Workflows

open JavisSaas.Lib JavisSaas.Agent.Capabilities

variable {V O : Type} [PyValue V] [DecidableEq V]

/-! ## The law and its conditions -/

section Defs

variable (tool : GatewayToolCallStep V) (sid : String)

/-- The tool call id that an execution has submitted. -/
def submittedId (x : Execution (Answers V O) V) : Option String :=
  (tool.submits x.given x.answer).map (·.toolCallId)

/-- What the gateway has answered to an execution. -/
def answeredStatus (x : Execution (Answers V O) V) : Option GatewayStatus :=
  tool.gatewayStatus x.given x.answer

/-- The executions of the tool step. -/
def executionsOf (log : List (Execution (Answers V O) V)) : List (Execution (Answers V O) V) :=
  log.filter (·.stepId = sid)

/-- After a requested approval the next execution submits the same tool call id. -/
def Resubmits (x y : Execution (Answers V O) V) : Prop :=
  answeredStatus tool x = some .waitingApproval →
    ∀ id ∈ submittedId tool y, submittedId tool x = some id

structure ToolLaw (s : EngineState (Answers V O) V) : Prop where
  completed : sid ∈ s.workflow.completedSteps →
    ∃ x ∈ executionsOf sid s.log, answeredStatus tool x = some .completed
  recorded : ∀ o, s.workflow.stepOutcomes.get? sid = some o → o.status = .completed →
    ∃ x ∈ executionsOf sid s.log, x.outcome = o ∧ answeredStatus tool x = some .completed
  resubmits : (executionsOf sid s.log).IsChain (Resubmits tool)

/-- The statuses that `GatewayExecutionResult` documents. -/
def documented (status : GatewayStatus) : Prop :=
  status = .completed ∨ status = .failed ∨ status = .waitingApproval ∨ status = .denied
deriving Decidable

/-- The results of a wave that are merged, those before the first that is not completed. -/
def mergedResults (results : List (Execution (Answers V O) V)) :
    List (Execution (Answers V O) V) :=
  results.takeWhile (·.outcome.status = .completed)

/-- The first result that is not completed has failed. -/
def WaveFails (results : List (Execution (Answers V O) V)) : Prop :=
  ∃ x ∈ (results.dropWhile (·.outcome.status = .completed)).head?, x.outcome.status = .failed

/-- When the gateway requests an approval, the state holds a tool call id, and the wave leaves it. -/
def KeepsId (s : EngineState (Answers V O) V) (results : List (Execution (Answers V O) V)) : Prop :=
  ¬WaveFails results →
    ∀ x ∈ executionsOf sid results, answeredStatus tool x = some .waitingApproval →
      truthy (s.workflow.state.get? tool.stateKey) ∧
        (s.workflow.state.update
          ((mergedResults results).flatMap (·.outcome.updates.items))).get? tool.stateKey =
          s.workflow.state.get? tool.stateKey

variable (spec : WorkflowSpec V) (steps : String → Option (WorkflowStep (Answers V O) V))

/-- Answers have a documented status, and the tool call id of one that waits is kept. -/
def KeepsCall (s : EngineState (Answers V O) V) (l : EngineLabel (Answers V O)) : Prop :=
  (∀ s' ∈ next spec steps s l, ∀ x ∈ executionsOf sid (s'.log.drop s.log.length),
    ∀ status ∈ answeredStatus tool x, documented status) ∧
  match l with
  | .wave answers _ => ∀ results ∈ waveResults steps s answers, KeepsId tool sid s results
  | .resume _ => True

instance (results : List (Execution (Answers V O) V)) : Decidable (WaveFails results) := by
  unfold WaveFails
  infer_instance

instance (s : EngineState (Answers V O) V) (results : List (Execution (Answers V O) V)) :
    Decidable (KeepsId tool sid s results) := by
  unfold KeepsId
  infer_instance

instance (s : EngineState (Answers V O) V) (l : EngineLabel (Answers V O)) :
    Decidable (KeepsCall tool sid spec steps s l) := by
  unfold KeepsCall
  cases l <;> infer_instance

end Defs

variable {tool : GatewayToolCallStep V} {sid : String} {spec : WorkflowSpec V}
  {steps : String → Option (WorkflowStep (Answers V O) V)}

/-! ## The invariant -/

/-- While the tool step waits it is open and ready, and the state holds the submitted id. -/
structure AwaitsCall (tool : GatewayToolCallStep V) (sid : String) (spec : WorkflowSpec V)
    (s : EngineState (Answers V O) V) (x : Execution (Answers V O) V) : Prop where
  mem : sid ∈ spec.forwardIds
  notCompleted : sid ∉ s.workflow.completedSteps
  deps : ∀ step ∈ spec.forwardSteps, step.id = sid →
    ∀ dep ∈ step.dependsOn, dep ∈ s.workflow.completedSteps
  stored : ∃ v, truthy v ∧ s.workflow.state.get? tool.stateKey = some v ∧
    submittedId tool x = some (PyValue.str v)

structure ToolInv (tool : GatewayToolCallStep V) (sid : String) (spec : WorkflowSpec V)
    (s : EngineState (Answers V O) V) : Prop where
  answered : ∀ x ∈ executionsOf sid s.log, ∀ status ∈ answeredStatus tool x, documented status
  resubmits : (executionsOf sid s.log).IsChain (Resubmits tool)
  awaits : s.workflow.status ≠ .failed → ∀ x ∈ (executionsOf sid s.log).getLast?,
    answeredStatus tool x = some .waitingApproval → AwaitsCall tool sid spec s x

omit [PyValue V] [DecidableEq V] in
theorem mem_executionsOf {log : List (Execution (Answers V O) V)} {x : Execution (Answers V O) V} :
    x ∈ executionsOf sid log ↔ x ∈ log ∧ x.stepId = sid := by
  simp [executionsOf]

omit [PyValue V] [DecidableEq V] in
theorem executionsOf_append (log log' : List (Execution (Answers V O) V)) :
    executionsOf sid (log ++ log') = executionsOf sid log ++ executionsOf sid log' :=
  List.filter_append _ _

omit [PyValue V] [DecidableEq V] in
theorem executionsOf_length_le {results : List (Execution (Answers V O) V)}
    (h : (results.map (·.stepId)).Nodup) : (executionsOf sid results).length ≤ 1 := by
  unfold executionsOf
  rw [← List.countP_eq_length_filter]
  have hcount := List.nodup_iff_count_le_one.mp h sid
  rw [List.count, List.countP_map] at hcount
  refine le_trans (le_of_eq ?_) hcount
  apply List.countP_congr
  intro x _
  simp

/-- The law follows from the invariants. -/
theorem toolLaw_of_inv {s : EngineState (Answers V O) V} (htool : steps sid = some tool.step)
    (hl : LogInv steps s) (hi : ToolInv tool sid spec s) : ToolLaw tool sid s := by
  have hanswer : ∀ x ∈ s.log, x.stepId = sid → x.outcome.status = .completed →
      answeredStatus tool x = some .completed := by
    intro x hx hid hcompleted
    obtain ⟨step, hstep, hrun⟩ := hl.ran x hx
    rw [hid, htool] at hstep
    cases hstep
    rw [hrun] at hcompleted
    obtain ⟨status, hstatus, hwait, hdenied, hfailed⟩ :=
      (tool.run_completed_iff x.given x.answer).mp hcompleted
    have hdoc := hi.answered x (mem_executionsOf.mpr ⟨hx, hid⟩) status hstatus
    rcases hdoc with rfl | rfl | rfl | rfl
    · exact hstatus
    · exact absurd rfl hfailed
    · exact absurd rfl hwait
    · exact absurd rfl hdenied
  refine ⟨fun hmem => ?_, fun o hget hcompleted => ?_, hi.resubmits⟩
  · have hnone : gateAt steps sid = none := by
      unfold gateAt
      rw [htool]
      rfl
    obtain ⟨x, hx, hid, hcompleted⟩ := hl.completed sid hmem hnone
    exact ⟨x, mem_executionsOf.mpr ⟨hx, hid⟩, hanswer x hx hid hcompleted⟩
  · obtain ⟨x, hx, hid, rfl⟩ := hl.outcome sid o hget
    exact ⟨x, mem_executionsOf.mpr ⟨hx, hid⟩, rfl, hanswer x hx hid hcompleted⟩

/-! ## One wave -/

omit [PyValue V] [DecidableEq V] in
theorem mergedResults_eq {results done rest : List (Execution (Answers V O) V)}
    {stop : Execution (Answers V O) V} (hresults : results = done ++ stop :: rest)
    (hdone : ∀ x ∈ done, x.outcome.status = .completed)
    (hstop : stop.outcome.status ≠ .completed) :
    mergedResults results = done ∧
      results.dropWhile (·.outcome.status = .completed) = stop :: rest := by
  have hall : ∀ x ∈ done, decide (x.outcome.status = .completed) = true :=
    fun x hx => decide_eq_true (hdone x hx)
  unfold mergedResults
  rw [hresults, List.takeWhile_append_of_pos hall, List.dropWhile_append_of_pos hall,
    List.takeWhile_cons_of_neg (by simp [hstop]), List.dropWhile_cons_of_neg (by simp [hstop])]
  simp

omit [PyValue V] [DecidableEq V] in
theorem state_mergeAll (w : Workflow V) (done : List (Execution (Answers V O) V)) :
    (w.mergeAll done).state = w.state.update (done.flatMap (·.outcome.updates.items)) := by
  induction done generalizing w with
  | nil => rfl
  | cons _ _ ih =>
    rw [Workflow.mergeAll_cons, ih, List.flatMap_cons]
    exact (List.foldl_append ..).symm

/-- After a waiting execution the next one submits its tool call id again. -/
theorem resubmits_of_awaits {s : EngineState (Answers V O) V} {x y : Execution (Answers V O) V}
    (h : AwaitsCall tool sid spec s x) (hy : y.given.get? tool.stateKey =
      s.workflow.state.get? tool.stateKey) : Resubmits tool x y := by
  intro _ id hid
  obtain ⟨v, hv, hget, hsub⟩ := h.stored
  obtain ⟨request, hrequest, rfl⟩ := Option.map_eq_some_iff.mp hid
  rw [tool.toolCallId_of_submits (hy.trans hget) hv hrequest]
  exact hsub

omit [PyValue V] [DecidableEq V] in
/-- The state key of a tool step is not the key that the engine sets itself. -/
theorem stateKey_ne (tool : GatewayToolCallStep V) : "_workflow_step_id" ≠ tool.stateKey := by
  intro h
  have h' := congrArg (fun s => s.toList[1]?) h
  simp [GatewayToolCallStep.stateKey] at h'

/-- An invariant state whose wave has been gathered. -/
structure Gathered (tool : GatewayToolCallStep V) (sid : String) (spec : WorkflowSpec V)
    (steps : String → Option (WorkflowStep (Answers V O) V)) (s : EngineState (Answers V O) V)
    (results : List (Execution (Answers V O) V)) : Prop where
  htool : steps sid = some tool.step
  status : s.workflow.status = .running
  wave : Wave spec s results
  ran : ∀ x ∈ results, ∃ step, steps x.stepId = some step ∧
    x.given = s.workflow.state.set "_workflow_step_id" (PyValue.ofStr x.stepId) ∧
    x.outcome = (step.run x.given x.answer).1
  ready : results.map (·.stepId) = readyStepIds spec s.workflow.completedSteps []

namespace Gathered

variable {s : EngineState (Answers V O) V} {results : List (Execution (Answers V O) V)}

theorem given_eq (h : Gathered tool sid spec steps s results) {y : Execution (Answers V O) V}
    (hy : y ∈ results) : y.given.get? tool.stateKey = s.workflow.state.get? tool.stateKey := by
  obtain ⟨step, -, hgiven, -⟩ := h.ran y hy
  rw [hgiven]
  exact Dict.get?_set_of_ne _ (stateKey_ne tool) _

theorem waiting_of_answered (h : Gathered tool sid spec steps s results)
    {y : Execution (Answers V O) V} (hy : y ∈ executionsOf sid results)
    (hwait : answeredStatus tool y = some .waitingApproval) :
    y.outcome.status = .waitingApproval := by
  obtain ⟨hmem, hid⟩ := mem_executionsOf.mp hy
  obtain ⟨step, hstep, -, hrun⟩ := h.ran y hmem
  rw [hid, h.htool] at hstep
  cases hstep
  rw [hrun]
  exact (tool.run_waiting_iff y.given y.answer).mpr hwait

/-- While the tool step awaits its approval, every wave executes it. -/
theorem exists_execution (h : Gathered tool sid spec steps s results)
    {x : Execution (Answers V O) V} (ha : AwaitsCall tool sid spec s x) :
    ∃ y, y ∈ executionsOf sid results := by
  have hready := mem_readyStepIds_of_deps ha.mem ha.notCompleted ha.deps
  rw [← h.ready] at hready
  obtain ⟨y, hy, hid⟩ := List.mem_map.mp hready
  exact ⟨y, mem_executionsOf.mpr ⟨hy, hid⟩⟩

theorem awaits (h : Gathered tool sid spec steps s results)
    {done rest : List (Execution (Answers V O) V)} {stop y : Execution (Answers V O) V}
    (hresults : results = done ++ stop :: rest)
    (hdone : ∀ x ∈ done, x.outcome.status = .completed)
    (hstop : stop.outcome.status = .waitingApproval) (hkeeps : KeepsId tool sid s results)
    (hy : y ∈ executionsOf sid results) (hwait : answeredStatus tool y = some .waitingApproval)
    {s' : EngineState (Answers V O) V}
    (hsteps : s'.workflow.completedSteps = (s.workflow.mergeAll done).completedSteps)
    (hstate : s'.workflow.state = (s.workflow.mergeAll done).state) :
    AwaitsCall tool sid spec s' y := by
  obtain ⟨hmem, hid⟩ := mem_executionsOf.mp hy
  obtain ⟨hmerged, hdrop⟩ := mergedResults_eq hresults hdone (by simp [hstop])
  have hnotfail : ¬WaveFails results := by
    rintro ⟨x, hx, hfailed⟩
    rw [hdrop] at hx
    cases hx
    rw [hstop] at hfailed
    cases hfailed
  obtain ⟨htruthy, hkept⟩ := hkeeps hnotfail y hy hwait
  have hout := h.waiting_of_answered hy hwait
  refine ⟨hid ▸ h.wave.mem y hmem, ?_, fun step hstep hstepId dep hdep => ?_, ?_⟩
  · -- the waiting result is not one of those that are merged
    rw [hsteps, Workflow.mergeAll_completedSteps, List.mem_append, not_or]
    refine ⟨hid ▸ h.wave.notCompleted y hmem, fun hin => ?_⟩
    obtain ⟨z, hz, hzid⟩ := List.mem_map.mp hin
    have hz' : z ∈ results := by simp [hresults, hz]
    have heq : z = y := List.inj_on_of_nodup_map h.wave.nodup hz' hmem (hzid.trans hid.symm)
    have hcompleted := hdone z hz
    rw [heq, hout] at hcompleted
    cases hcompleted
  · have hready : sid ∈ readyStepIds spec s.workflow.completedSteps [] := by
      rw [← h.ready, ← hid]
      exact List.mem_map_of_mem hmem
    rw [hsteps, Workflow.mergeAll_completedSteps]
    exact List.mem_append_left _ (deps_of_mem_ready hready hstep hstepId dep hdep)
  · obtain ⟨v, hget, hv⟩ : ∃ v, s.workflow.state.get? tool.stateKey = some v ∧ truthy v := by
      cases hget : s.workflow.state.get? tool.stateKey with
      | none =>
        rw [hget] at htruthy
        cases htruthy
      | some v =>
        rw [hget] at htruthy
        exact ⟨v, rfl, htruthy⟩
    refine ⟨v, hv, ?_, ?_⟩
    · rw [hstate, state_mergeAll, ← hmerged, hkept, hget]
    · obtain ⟨request, hrequest, -⟩ := Option.map_eq_some_iff.mp hwait
      have hgiven := (h.given_eq hmem).trans hget
      show (tool.submits y.given y.answer).map (·.toolCallId) = _
      rw [hrequest, Option.map_some, tool.toolCallId_of_submits hgiven hv hrequest]

theorem inv_append (h : Gathered tool sid spec steps s results)
    (hi : ToolInv tool sid spec s) {compensations : List (Execution (Answers V O) V)}
    {s' : EngineState (Answers V O) V} (hlog : s'.log = s.log ++ (results ++ compensations))
    (hcomp : compensations.length ≤ 1 ∧
      ∀ x ∈ compensations, x.stepId ∈ spec.compensationTargets)
    (hdoc : ∀ x ∈ executionsOf sid (s'.log.drop s.log.length),
      ∀ status ∈ answeredStatus tool x, documented status)
    (hawaits : s'.workflow.status ≠ .failed → compensations = [] ∧
      ∀ y ∈ executionsOf sid results, answeredStatus tool y = some .waitingApproval →
        AwaitsCall tool sid spec s' y) : ToolInv tool sid spec s' := by
  have hrunning : s.workflow.status ≠ .failed := by simp [h.status]
  rw [hlog, List.drop_left] at hdoc
  have hlen : (executionsOf sid (results ++ compensations)).length ≤ 1 := by
    rw [executionsOf_append, List.length_append]
    by_cases htarget : sid ∈ spec.compensationTargets
    · have hnil : executionsOf sid results = [] := by
        refine List.filter_eq_nil_iff.mpr fun x hx hid => h.wave.forward x hx ?_
        exact (of_decide_eq_true hid) ▸ htarget
      have hle := List.length_filter_le (fun x => decide (x.stepId = sid)) compensations
      rw [hnil, List.length_nil, Nat.zero_add]
      exact hle.trans hcomp.1
    · have hnil : executionsOf sid compensations = [] := by
        refine List.filter_eq_nil_iff.mpr fun x hx hid => htarget ?_
        exact (of_decide_eq_true hid) ▸ hcomp.2 x hx
      rw [hnil, List.length_nil, Nat.add_zero]
      exact executionsOf_length_le h.wave.nodup
  refine ⟨fun x hx => ?_, ?_, fun hstatus x hx hwait => ?_⟩
  · rw [hlog, executionsOf_append] at hx
    exact (List.mem_append.mp hx).elim (hi.answered x) (hdoc x)
  · rw [hlog, executionsOf_append]
    refine List.isChain_append.mpr ⟨hi.resubmits, ?_, fun x hx y hy hwait => ?_⟩
    · match executionsOf sid (results ++ compensations), hlen with
      | [], _ => exact List.IsChain.nil
      | [y], _ => exact List.IsChain.singleton y
    · have ha := hi.awaits hrunning x hx hwait
      obtain ⟨hmem, hid⟩ := mem_executionsOf.mp (List.mem_of_mem_head? hy)
      rcases List.mem_append.mp hmem with hmem | hmem
      · exact resubmits_of_awaits ha (h.given_eq hmem) hwait
      · exact absurd (hid ▸ hcomp.2 y hmem) (notMem_targets_of_forward ha.mem)
  · obtain ⟨hnil, hnew⟩ := hawaits hstatus
    rw [hlog, hnil, List.append_nil, executionsOf_append] at hx
    by_cases hres : executionsOf sid results = []
    · -- without an execution in this wave the step does not await its approval
      rw [hres, List.append_nil] at hx
      obtain ⟨y, hy⟩ := h.exists_execution (hi.awaits hrunning x hx hwait)
      rw [hres] at hy
      exact absurd hy List.not_mem_nil
    · rw [List.getLast?_append_of_ne_nil _ hres] at hx
      exact hnew x (List.mem_of_getLast? hx) hwait

end Gathered

theorem toolInv_of_wave {s s' : EngineState (Answers V O) V} (htool : steps sid = some tool.step)
    (hs : RunInv spec s) (hi : ToolInv tool sid spec s) {answers : List (Answers V O)}
    {compensation : Answers V O} {results : List (Execution (Answers V O) V)}
    {cs ready : List String} (hphase : s.phase = .gathering cs [] ready)
    (hgather : gather steps s.workflow.state ready answers = some results)
    (hwave : Wave spec s results) (hc : KeepsCall tool sid spec steps s (.wave answers compensation))
    (hnext : next spec steps s (.wave answers compensation) = some s')
    (h : WaveCase spec steps compensation results cs [] s s') : ToolInv tool sid spec s' := by
  obtain ⟨hstatus, hcs, -, hready, -⟩ := hs.gathering cs [] ready hphase
  obtain ⟨hids, hran⟩ := gather_eq_some hgather
  have hg : Gathered tool sid spec steps s results :=
    ⟨htool, hstatus, hwave, hran, by rw [hids, hready, hcs]⟩
  have hdoc := hc.1 s' hnext
  have hkeeps : KeepsId tool sid s results := by
    apply hc.2 results
    unfold waveResults
    rw [hphase]
    exact hgather
  have hnone : (([] : List (Execution (Answers V O) V)).length ≤ 1 ∧
      ∀ x ∈ ([] : List (Execution (Answers V O) V)), x.stepId ∈ spec.compensationTargets) := by simp
  cases h with
  | merged hdone =>
    refine hg.inv_append hi (by simp) hnone hdoc fun _ => ⟨rfl, fun y hy hwait => ?_⟩
    -- a merged wave has no waiting result
    have hcompleted := hdone y (mem_executionsOf.mp hy).1
    rw [hg.waiting_of_answered hy hwait] at hcompleted
    cases hcompleted
  | paused _ _ _ hresults hdone hstop =>
    refine hg.inv_append hi (by simp) hnone hdoc fun _ => ⟨rfl, fun y hy hwait => ?_⟩
    exact hg.awaits hresults hdone hstop hkeeps hy hwait rfl rfl
  | failed _ _ _ _ _ _ hfail =>
    refine hg.inv_append hi rfl ?_ hdoc fun hne => absurd rfl hne
    rcases (failStep_cases hfail).2 with ⟨rfl, -⟩ | ⟨entry, rfl, htarget, -⟩
    · exact hnone
    · exact ⟨le_refl 1, fun x hx => List.mem_singleton.mp hx ▸ htarget⟩

/-! ## Runs -/

theorem toolInv_of_resume {s s' : EngineState (Answers V O) V}
    (htool : steps sid = some tool.step) (hi : ToolInv tool sid spec s) {answer : Answers V O}
    (h : ResumeCase spec steps answer s s') : ToolInv tool sid spec s' := by
  cases h with
  | notWaiting | pending => exact hi
  | refused =>
    exact ⟨hi.answered, hi.resubmits, fun hne => absurd rfl hne⟩
  | @noGate hw hgate r hloop =>
    refine ⟨hi.answered, hi.resubmits, fun _ x hx hwait => ?_⟩
    have ha := hi.awaits (by rw [hw]; decide) x hx hwait
    have hsteps : r.1.completedSteps = s.workflow.completedSteps := hloop.completedSteps_eq
    have hstate : r.1.state = s.workflow.state := hloop.state_eq
    refine ⟨ha.mem, ?_, ?_, ?_⟩ <;> dsimp only
    · rw [hsteps]
      exact ha.notCompleted
    · rw [hsteps]
      exact ha.deps
    · rw [hstate]
      exact ha.stored
  | @approved hw id check hgate outcome houtcome hcheck r hloop =>
    refine ⟨hi.answered, hi.resubmits, fun _ x hx hwait => ?_⟩
    have ha := hi.awaits (by rw [hw]; decide) x hx hwait
    obtain ⟨step, hstep, hpending⟩ := check_of_pausedGate hgate
    have hne : sid ≠ id := by
      rintro rfl
      rw [htool] at hstep
      cases hstep
      cases hpending
    have hsteps : r.1.completedSteps = s.workflow.completedSteps ++ [id] := hloop.completedSteps_eq
    have hstate : r.1.state = s.workflow.state := by
      have hupdates : outcome.updates = ∅ := by
        rw [← houtcome]
        exact step.noUpdates check hpending _ _ _
      rw [hloop.state_eq]
      show s.workflow.state.update outcome.updates.items = _
      rw [hupdates]
      rfl
    refine ⟨ha.mem, ?_, fun st hst hid dep hdep => ?_, ?_⟩ <;> dsimp only
    · rw [hsteps, List.mem_append, List.mem_singleton, not_or]
      exact ⟨ha.notCompleted, hne⟩
    · rw [hsteps]
      exact List.mem_append_left _ (ha.deps st hst hid dep hdep)
    · rw [hstate]
      exact ha.stored

/-- Where all executions of `sid` keep to `KeepsCall`, it is completed only after the gateway has
reported so, and an approved call is submitted under its tool call id. -/
theorem toolLaw_of_run (htool : steps sid = some tool.step) {id : String}
    {computeHash : SpecFields V → String} {initialState : Dict String V}
    {s₀ s : EngineState (Answers V O) V}
    (h₀ : executeSpec spec id computeHash initialState none = some s₀)
    {ls : List (EngineLabel (Answers V O))}
    (hc : (workflowRuns spec steps).Along (KeepsCall tool sid spec steps) s₀ ls)
    (hrun : (workflowRuns spec steps).run s₀ ls = some s) : ToolLaw tool sid s := by
  have hinv : RunInv spec s ∧ LogInv steps s ∧ ToolInv tool sid spec s := by
    refine (workflowRuns spec steps).inv_of_along
      (I := fun s => RunInv spec s ∧ LogInv steps s ∧ ToolInv tool sid spec s) ?_ ?_ hc hrun
    · rintro s l s' ⟨hs, hl, hi⟩ hc hnext
      refine ⟨hs.next hnext, hl.next hs hnext, ?_⟩
      rcases hs.next_cases hnext with
        ⟨answers, compensation, results, cs, ready, rfl, hphase, hgather, hwave, hcase⟩ |
        ⟨answer, rfl, -, hcase⟩
      · exact toolInv_of_wave htool hs hi hphase hgather hwave hc hnext hcase
      · exact toolInv_of_resume htool hi hcase
    · refine ⟨runInv_init h₀, logInv_init h₀, ?_⟩
      obtain ⟨w, r, -, -, -, -, -, rfl⟩ := executeSpec_cases h₀
      exact ⟨by simp [executionsOf], List.IsChain.nil, by simp [executionsOf]⟩
  exact toolLaw_of_inv htool hinv.2.1 hinv.2.2

/-! ## One call, paused and resumed -/

def callSpec : WorkflowSpec String where
  id := "charge"
  steps := [{ id := "call" }]
  valid := by decide

def callStep : GatewayToolCallStep String := (plainEngine : WorkflowEngine String Unit).toolStep
  { id := "call" }

/-- The gateway answers with a status, and the next tool call id to be drawn is `uuid`. -/
def gatewayAnswers (uuid : String) (status : GatewayStatus) : Answers String Unit where
  callUuid := uuid
  gateway request := { toolCallId := request.toolCallId, status := status }
  other := ()

def callStart (state : Dict String String) : Option (EngineState (Answers String Unit) String) :=
  executeSpec callSpec "wf" (fun _ => "h") state none

/-- The call is paused for an approval, resumed, and answered once more. -/
def callRun (status : GatewayStatus) : List (EngineLabel (Answers String Unit)) :=
  [.wave [gatewayAnswers "u1" .waitingApproval] (gatewayAnswers "u1" .failed),
    .resume (gatewayAnswers "u2" .failed),
    .wave [gatewayAnswers "u2" status] (gatewayAnswers "u2" .failed)]

/-- The state with a tool call id for the step. -/
def storedState : EngineState (Answers String Unit) String :=
  (callStart (initialState.set "_tool_call_id_call" "call_1")).get (by decide)

theorem steps_callSpec : compiled callSpec "call" = some callStep.step := rfl

theorem toolLaw_storedState : ToolLaw callStep "call"
    (((workflowRuns callSpec (compiled callSpec)).run storedState (callRun .completed)).get
      (by decide +kernel)) :=
  toolLaw_of_run steps_callSpec (Option.some_get _).symm (by decide +kernel)
    (Option.some_get _).symm

/-- The resumed call has a new id, so the gateway finds the claim of the paused one, and
`in_progress` is recorded as a completion. -/
theorem not_toolLaw_callRun : ¬∀ s ∈ (callStart initialState).bind fun s₀ =>
      (workflowRuns callSpec (compiled callSpec)).run s₀ (callRun .inProgress),
    ToolLaw callStep "call" s := by
  intro h
  have hlaw := h (Option.get _ (by decide +kernel)) (Option.some_get _).symm
  exact absurd (hlaw.completed (by decide +kernel)) (by decide +kernel)

end JavisSaas.Agent.Workflows
