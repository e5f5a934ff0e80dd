import JavisSaas.Cosa.Wga.TaskClosing

/-!
# Tasks that are closed by a run

* `report_of_done`: a run that has `wga_run.py` close its task has completed, and the report kept
  for it says `PASS`. If none was kept before, the criteria were met by the output.
* `not_met_of_done`: a report that was kept before closes a task whose criteria are not met.
-/

namespace JavisSaas.Cosa.Wga

open JavisSaas.Lib
open JavisSaas.Agent.Contracts (NumberText parseDoneCriteria criterionId)
open JavisSaas.Agent.Verification

/-! ## What a verification says -/

/-- The judge answered `pass` for the criterion, in the first answer of the attempts that could be
    read. -/
def JudgeAnswered (rt : JudgeRuntime) (a : VerifyAnswers) (rubric : List Json) (cid : Text) :
    Prop :=
  a.judgeTimesOut = false ∧ ∃ i < judgeMaxAttempts, ∃ output, a.attempts i = .completed output ∧
    JudgePasses rt output (expectedIds rubric) cid ∧
    ∀ j < i, ∃ earlier message, a.attempts j = .completed earlier ∧
      parseJudgeOutput rt earlier (expectedIds rubric) = .error (.judgeOutput message)

/-- A criterion is met: by the answer of the judge if it is a rubric, else by the facts. -/
def Met (rt : VerifyRuntime) (a : VerifyAnswers) (facts : RunFacts) (criteria : List Json)
    (criterion : Json) : Prop :=
  if isRubric criterion then
    ∃ cid, criterionId criterion = some cid ∧ JudgeAnswered rt.judge a (rubricOf criteria) cid
  else Holds rt.casefold facts criterion

/-- The required criteria of the run are met by its output, and the report is about both. -/
def Verified (rt : VerifyRuntime) (a : VerifyAnswers) (run : CompletedRun)
    (report : VerificationReport) : Prop :=
  ∃ criteria facts, parseDoneCriteria rt.shortest run.doneCriteria = .ok criteria ∧
    collectRunFacts rt a run criteria = .ok facts ∧
    (∀ criterion ∈ criteria, isRequired criterion → Met rt a facts criteria criterion) ∧
    rt.sha256 (rt.dumps criteria) = .ok report.criteriaHash ∧
    rt.sha256 run.outputText = .ok report.outputHash

/-- The report kept for the run says `PASS`: kept before, or from its verification. -/
def Passed (rt : VerifyRuntime) (a : VerifyAnswers) (s s' : Reports) (run : CompletedRun) : Prop :=
  ∃ kept, s'.get? (run.workspaceId, run.taskRunId) = some kept ∧
    kept.verdict = text Verdict.pass.value ∧
    (s.get? (run.workspaceId, run.taskRunId) = some kept ∨
      s.get? (run.workspaceId, run.taskRunId) = none ∧ Verified rt a run kept)

/-- A new report has an id of its own. -/
def FreshId (s : Reports) (a : VerifyAnswers) : Prop :=
  ∀ key kept, s.get? key = some kept → kept.reportId ≠ a.reportId

/-! ## The judge -/

section

variable {rt : VerifyRuntime} {a : VerifyAnswers} {run : CompletedRun} {criteria : List Json}
  {facts : RunFacts}

/-- An answer of the loop comes from an attempt after answers that could not be read. -/
theorem answer_of_judgeLoop {rt : JudgeRuntime} {taskRunId : Text} {expected : List Text}
    {attempts : ℕ → JudgeAttempt} {left attempt : ℕ} {judge : JudgeResult}
    {verdicts : List (Text × Judgement)}
    (h : judgeLoop rt taskRunId expected attempts left attempt = .ok judge)
    (hverdicts : judge.verdicts = some verdicts) :
    ∃ i, attempt ≤ i ∧ i < attempt + left ∧
      (∃ output, attempts i = .completed output ∧
        parseJudgeOutput rt output expected = .ok verdicts) ∧
      ∀ j, attempt ≤ j → j < i → ∃ earlier message, attempts j = .completed earlier ∧
        parseJudgeOutput rt earlier expected = .error (.judgeOutput message) := by
  induction left generalizing attempt with
  | zero =>
    cases h
    nomatch hverdicts
  | succ _ ih =>
    rw [judgeLoop] at h
    cases hattempt : attempts attempt with
    | refused | notCompleted =>
      rw [hattempt] at h
      cases h
      nomatch hverdicts
    | raised =>
      rw [hattempt] at h
      nomatch h
    | completed output =>
      rw [hattempt] at h
      dsimp only at h
      cases hparse : parseJudgeOutput rt output expected with
      | ok =>
        rw [hparse] at h
        cases h
        cases hverdicts
        refine ⟨attempt, Nat.le_refl attempt, by omega, ⟨output, hattempt, hparse⟩, ?_⟩
        intro j hj hlt
        omega
      | error e =>
        cases e with
        | raised =>
          rw [hparse] at h
          nomatch h
        | judgeOutput message =>
          rw [hparse] at h
          obtain ⟨i, hle, hlt, houtput, hearlier⟩ := ih h
          refine ⟨i, by omega, by omega, houtput, ?_⟩
          intro j hj hji
          rcases Nat.eq_or_lt_of_le hj with rfl | hj
          · exact ⟨output, message, hattempt, hparse⟩
          · exact hearlier j hj hji

theorem judgeAnswered_of_judgeRun {judge : Option JudgeResult} {result : JudgeResult}
    {verdicts : List (Text × Judgement)} {cid reason : Text}
    (h : judgeRun rt a run criteria = .ok judge) (hjudge : judge = some result)
    (hverdicts : result.verdicts = some verdicts)
    (hlookup : Dict.lookup verdicts cid = some (.pass, reason)) :
    JudgeAnswered rt.judge a (rubricOf criteria) cid := by
  unfold judgeRun at h
  split_ifs at h with hrubric
  · rw [hjudge] at h
    nomatch h
  · obtain ⟨result', hrun, hsome⟩ := map_eq_ok.mp h
    cases hsome.trans hjudge
    unfold runJudgeWithTimeout at hrun
    split_ifs at hrun with htimeout
    · cases hrun
      nomatch hverdicts
    · obtain ⟨i, -, hlt, ⟨output, houtput, hparse⟩, hearlier⟩ := answer_of_judgeLoop hrun hverdicts
      refine ⟨Bool.eq_false_iff.mpr htimeout, i, by omega, output, houtput, ?_, ?_⟩
      · exact lookup_parseJudgeOutput hparse hlookup
      · exact fun j hj => hearlier j (Nat.zero_le j) hj

/-! ## The results -/

theorem required_evaluateDeterministic {casefold : Casefold} {criterion : Json}
    {r : CriterionResult} (h : evaluateDeterministic casefold criterion facts = .ok r) :
    r.required = isRequired criterion := by
  have hartifact : ∀ args, (artifactExists casefold criterion args facts).required =
      isRequired criterion := by
    intro args
    unfold artifactExists
    split
    · rfl
    · split_ifs <;> rfl
  have hfield : ∀ args, (fieldPresent criterion args facts).required = isRequired criterion := by
    intro args
    unfold fieldPresent
    split
    · rfl
    · split
      · rfl
      · split
        · rfl
        · split_ifs <;> rfl
  unfold evaluateDeterministic at h
  split at h
  · cases h
    rfl
  · rename_i kind args _
    split_ifs at h
    · cases h
      exact hartifact args
    · cases h
      exact hfield args
    · obtain ⟨metric?, -, h⟩ := bind_eq_ok.mp h
      cases metric? with
      | none | some => exact (pure_eq_ok.mp h) ▸ rfl
    · cases h
      rfl

/-- The result of a required criterion is required, and where it passes the criterion is met. -/
theorem met_of_criterionResult {judge : Option JudgeResult} {criterion : Json}
    {r : CriterionResult} (hjudge : judgeRun rt a run criteria = .ok judge)
    (h : criterionResult rt facts judge criterion = .ok r) :
    r.required = isRequired criterion ∧
      (r.verdict = .pass → Met rt a facts criteria criterion) := by
  unfold criterionResult at h
  by_cases hvalid : validId criterion
  case neg =>
    rw [if_pos (by simp [hvalid])] at h
    cases h
    exact ⟨rfl, fun hpass => nomatch hpass⟩
  rw [if_neg (by simp [hvalid])] at h
  by_cases hrubric : isRubric criterion
  · rw [if_pos hrubric] at h
    cases h
    refine ⟨rfl, fun hpass => ?_⟩
    unfold Met
    rw [if_pos hrubric]
    cases hid : criterionId criterion with
    | none => simp [validId, hid] at hvalid
    | some cid =>
      refine ⟨cid, rfl, ?_⟩
      unfold rubricResult at hpass
      dsimp only at hpass
      rw [hid] at hpass
      cases hverdicts : judge.bind (·.verdicts) with
      | none =>
        rw [hverdicts] at hpass
        nomatch hpass
      | some verdicts =>
        obtain ⟨result, hresult, hverdicts'⟩ := Option.bind_eq_some_iff.mp hverdicts
        rw [hverdicts] at hpass
        cases hlookup : Dict.lookup verdicts cid with
        | none => simp [hlookup, omitted] at hpass
        | some judgement =>
          obtain ⟨verdict, reason⟩ := judgement
          obtain rfl : verdict = .pass := by simpa [hlookup] using hpass
          exact judgeAnswered_of_judgeRun hjudge hresult hverdicts' hlookup
  · rw [if_neg hrubric] at h
    refine ⟨required_evaluateDeterministic h, fun hpass => ?_⟩
    unfold Met
    rw [if_neg hrubric]
    exact (evaluateDeterministic_pass_iff h).mp hpass

theorem verified_of_assess {results : List CriterionResult} {report : VerificationReport}
    (hparse : parseDoneCriteria rt.shortest run.doneCriteria = .ok criteria)
    (h : assess rt a run criteria = .ok (results, report)) :
    report.reportId = a.reportId ∧ report.workspaceId = run.workspaceId ∧
      report.runId = run.taskRunId ∧ report.verdict = text (combine results).value ∧
      (combine results = .pass → Verified rt a run report) := by
  obtain ⟨facts, hfacts, h⟩ := bind_eq_ok.mp h
  obtain ⟨judge, hjudge, h⟩ := bind_eq_ok.mp h
  obtain ⟨results', hresults, h⟩ := bind_eq_ok.mp h
  obtain ⟨criteriaHash, hcriteria, h⟩ := bind_eq_ok.mp h
  obtain ⟨outputHash, houtput, h⟩ := bind_eq_ok.mp h
  cases h
  refine ⟨rfl, rfl, rfl, rfl, fun hpass => ?_⟩
  obtain ⟨-, hpass⟩ := combine_eq_pass.mp hpass
  refine ⟨criteria, facts, hparse, hfacts, ?_, hcriteria, houtput⟩
  intro criterion hmem hrequired
  obtain ⟨r, hr, hresult⟩ := exists_result_of_mapM hresults hmem
  obtain ⟨hrequired', hmet⟩ := met_of_criterionResult hjudge hresult
  exact hmet (hpass r hr (hrequired'.trans hrequired))

/-! ## The verdict -/

theorem value_injective {verdict verdict' : Verdict}
    (h : text verdict.value = text verdict'.value) : verdict = verdict' := by
  cases verdict <;> cases verdict' <;> first | rfl | exact absurd h (by decide)

theorem verdictOfText_eq_ok {s : Text} {verdict : Verdict} (h : verdictOfText s = .ok verdict) :
    s = text verdict.value := by
  unfold verdictOfText at h
  split at h
  · rename_i found hfind
    cases h
    have hvalue := List.find?_some hfind
    exact (of_decide_eq_true hvalue).symm
  · nomatch h

/-- A conclusion of `PASS` is that of a report with this verdict, or that of the new report. -/
theorem stored_of_conclude {results : List CriterionResult} {report : VerificationReport}
    {stored : Option VerificationReport} {outcome : VerificationOutcome}
    (h : conclude rt results report stored = .ok outcome) (hpass : outcome.verdict = .pass) :
    ∃ kept, stored = some kept ∧ (kept.verdict = text Verdict.pass.value ∨
      kept.reportId = report.reportId ∧ combine results = .pass) := by
  unfold conclude at h
  dsimp only at h
  cases stored with
  | none =>
    cases h
    dsimp only at hpass
    split_ifs at hpass with hcombine
    exact absurd hpass hcombine
  | some kept =>
    refine ⟨kept, rfl, ?_⟩
    dsimp only at h
    by_cases hother : kept.reportId ≠ report.reportId ∧ kept.verdict ≠ text (combine results).value
    · rw [if_pos hother] at h
      obtain ⟨verdict, hverdict, h⟩ := bind_eq_ok.mp h
      obtain ⟨results', -, h⟩ := bind_eq_ok.mp h
      cases h
      obtain rfl : verdict = .pass := hpass
      exact .inl (verdictOfText_eq_ok hverdict)
    · rw [if_neg hother] at h
      cases h
      have hcombine : combine results = .pass := hpass
      rw [hcombine] at hother
      by_cases hid : kept.reportId = report.reportId
      · exact .inr ⟨hid, hcombine⟩
      · exact .inl (not_not.mp fun hverdict => hother ⟨hid, hverdict⟩)

/-- The report that the store returns is kept for the run: it was kept before, or it is new. -/
theorem kept_of_storeReport {s : Reports} {report kept : VerificationReport} {store : StoreAnswer}
    (h : (storeReport s report store).2 = some kept) :
    (storeReport s report store).1.get? (report.workspaceId, report.runId) = some kept ∧
      (s.get? (report.workspaceId, report.runId) = some kept ∨
        s.get? (report.workspaceId, report.runId) = none ∧ kept = report) := by
  cases store with
  | lost | failed => nomatch h
  | ok =>
    have hkept : (createIfAbsent s report).2 = kept := Option.some.inj h
    subst hkept
    unfold storeReport createIfAbsent
    cases hget : s.get? (report.workspaceId, report.runId) with
    | some => exact ⟨hget, .inl rfl⟩
    | none => exact ⟨Dict.get?_set_self s _ report, .inr ⟨rfl, rfl⟩⟩

/-- A verification says `PASS` only where the report that is kept for the run does. -/
theorem passed_of_verifyTaskResult {s : Reports} (hfresh : FreshId s a)
    (h : (verifyTaskResult rt a s run).1.verdict = .pass) :
    Passed rt a s (verifyTaskResult rt a s run).2 run := by
  unfold verifyTaskResult at h ⊢
  cases hparse : parseDoneCriteria rt.shortest run.doneCriteria with
  | error =>
    rw [hparse] at h
    nomatch h
  | ok criteria =>
    rw [hparse] at h
    dsimp only at h ⊢
    cases hassess : assess rt a run criteria with
    | error =>
      rw [hassess] at h
      nomatch h
    | ok assessed =>
      obtain ⟨results, report⟩ := assessed
      rw [hassess] at h
      dsimp only at h ⊢
      obtain ⟨hid, hworkspace, hrun, hverdict, hverified⟩ := verified_of_assess hparse hassess
      cases hconclude : conclude rt results report (storeReport s report a.store).2 with
      | error =>
        rw [hconclude] at h
        nomatch h
      | ok =>
        rw [hconclude] at h
        obtain ⟨kept, hstored, hkept⟩ := stored_of_conclude hconclude h
        obtain ⟨hget, hbefore⟩ := kept_of_storeReport hstored
        rw [hworkspace, hrun] at hget hbefore
        rcases hbefore with hbefore | ⟨hnone, rfl⟩
        · -- a report that was kept before has another id
          have hother := hfresh _ kept hbefore
          rcases hkept with hpass | ⟨hsame, -⟩
          · exact ⟨kept, hget, hpass, .inl hbefore⟩
          · exact absurd (hsame.trans hid) hother
        · have hcombine : combine results = .pass := by
            rcases hkept with hpass | ⟨-, hcombine⟩
            · rw [hverdict] at hpass
              exact value_injective hpass
            · exact hcombine
          exact ⟨kept, hget, by rw [hverdict, hcombine], .inr ⟨hnone, hverified hcombine⟩⟩

end

/-! ## The two paths -/

/-- The Company is asked to close the task. -/
def Closes (sent : List (Advance × Reply)) : Prop := ∃ e ∈ sent, e.1.toStatus = .done

/-- The run of a claimed task that has completed. -/
def claimedRun (rt : WgaRuntime) (t : ClaimableTask) (workspaceId taskRunId : Text)
    (finalOutput : Option Json) (metricsBefore : Dict Text (Option PyFloat)) : CompletedRun where
  workspaceId
  projectId := orElse t.projectId []
  taskId := t.taskId
  taskRunId
  doneCriteria := t.doneCriteria
  finalOutput
  outputText := extractText rt.verify finalOutput
  metricsBefore

/-- The resumed run that has completed. -/
def resumedRun (rt : WgaRuntime) (ctx : TaskContext) (workspaceId taskId runId : Text)
    (finalOutput : Option Json) : CompletedRun where
  workspaceId
  projectId := ctx.projectId
  taskId
  taskRunId := runId
  doneCriteria := ctx.doneCriteria
  finalOutput
  outputText := extractText rt.verify finalOutput

section

variable {rt : WgaRuntime} {s : Reports}

theorem not_closes_leaveOpen (reply : Reply) : ¬ Closes (leaveOpen reply).1 := by
  rintro ⟨e, he, hdone⟩
  obtain rfl := List.mem_singleton.mp he
  nomatch hdone

theorem not_closes_endWith {status : AdvanceStatus} (hstatus : status ≠ .done) (reply : Reply)
    (outcome : TaskOutcome) : ¬ Closes (endWith s status reply outcome).sent := by
  rintro ⟨e, he, hdone⟩
  obtain rfl := List.mem_singleton.mp he
  exact hstatus hdone

/-- A run with a verification closes its task only if the verification says `PASS`. -/
theorem pass_of_closes {outcome : VerificationOutcome} {evidenceRefs : List Text}
    {needsApproval : Bool} {closing opening : Reply}
    (h : Closes (closeRun (some outcome) evidenceRefs needsApproval closing opening).1) :
    outcome.verdict = .pass := by
  unfold closeRun at h
  dsimp only at h
  by_cases hpass : outcome.verdict = .pass
  · exact hpass
  · rw [if_pos hpass] at h
    exact absurd h (not_closes_leaveOpen opening)

theorem passed_of_verifyCompletedRun {a : VerifyAnswers} {run : CompletedRun}
    (hon : rt.verificationEnabled = true) (hcriteria : run.doneCriteria.truthy = true)
    (hfresh : FreshId s a) {evidenceRefs : List Text} {needsApproval : Bool}
    {closing opening : Reply}
    (h : Closes (closeRun (verifyCompletedRun rt a s run).1 evidenceRefs needsApproval closing
      opening).1) :
    Passed rt.verify a s (verifyCompletedRun rt a s run).2 run := by
  unfold verifyCompletedRun at h ⊢
  rw [if_pos ⟨hon, hcriteria⟩] at h ⊢
  exact passed_of_verifyTaskResult hfresh (pass_of_closes h)

theorem passed_of_runClaimedTask {a : ExecutionAnswers} {t : ClaimableTask}
    {workspaceId taskRunId : Text} (hon : rt.verificationEnabled = true)
    (hcriteria : t.doneCriteria.truthy = true) (hfresh : FreshId s a.verify)
    (h : Closes (runClaimedTask rt a s t workspaceId taskRunId (orElse t.projectId [])).sent) :
    ∃ finalOutput metricsBefore, a.run = .completed finalOutput ∧
      fetchBefore rt a t.doneCriteria = .ok metricsBefore ∧
      Passed rt.verify a.verify s
        (runClaimedTask rt a s t workspaceId taskRunId (orElse t.projectId [])).reports
        (claimedRun rt t workspaceId taskRunId finalOutput metricsBefore) := by
  unfold runClaimedTask at h ⊢
  cases hbefore : fetchBefore rt a t.doneCriteria with
  | error e =>
    rw [hbefore] at h
    obtain ⟨e, he, -⟩ := h
    nomatch he
  | ok metricsBefore =>
    rw [hbefore] at h
    dsimp only at h ⊢
    cases hprepare : a.prepare with
    | raised =>
      rw [hprepare] at h
      obtain ⟨e, he, -⟩ := h
      nomatch he
    | refused =>
      rw [hprepare] at h
      exact absurd h (not_closes_endWith (by decide) _ _)
    | accepted =>
      cases hrun : a.run with
      | raised =>
        rw [hprepare, hrun] at h
        obtain ⟨e, he, -⟩ := h
        nomatch he
      | waitingApproval | failed =>
        rw [hprepare, hrun] at h
        exact absurd h (not_closes_endWith (by decide) _ _)
      | completed finalOutput =>
        rw [hprepare, hrun] at h
        dsimp only at h ⊢
        unfold completeTask at h ⊢
        dsimp only at h ⊢
        by_cases hremint : a.remintRaises
        · rw [if_pos hremint] at h
          obtain ⟨e, he, -⟩ := h
          nomatch he
        rw [if_neg hremint] at h ⊢
        exact ⟨finalOutput, metricsBefore, rfl, rfl,
          passed_of_verifyCompletedRun hon hcriteria hfresh h⟩

theorem passed_of_executeClaimedTask {a : ExecutionAnswers} {t : ClaimableTask}
    {workspaceId taskRunId : Text} {scope : Option Text} (hon : rt.verificationEnabled = true)
    (hcriteria : t.doneCriteria.truthy = true) (hfresh : FreshId s a.verify)
    (h : Closes (executeClaimedTask rt a s t workspaceId taskRunId scope).sent) :
    ∃ finalOutput metricsBefore, a.run = .completed finalOutput ∧
      fetchBefore rt a t.doneCriteria = .ok metricsBefore ∧
      Passed rt.verify a.verify s
        (executeClaimedTask rt a s t workspaceId taskRunId scope).reports
        (claimedRun rt t workspaceId taskRunId finalOutput metricsBefore) := by
  have hblocked : ∀ reply, ¬ Closes (endWith s .blocked reply .blocked).sent :=
    fun reply => not_closes_endWith (by decide) reply .blocked
  unfold executeClaimedTask at h ⊢
  by_cases hmint : a.mintRaises
  · rw [if_pos hmint] at h
    obtain ⟨e, he, -⟩ := h
    nomatch he
  rw [if_neg hmint] at h ⊢
  cases hspec : rt.specByProfile (orElse t.ownerAgentProfile (text "operations")) with
  | none =>
    rw [hspec] at h
    exact absurd h (hblocked _)
  | some =>
    rw [hspec] at h
    dsimp only at h ⊢
    split_ifs at h ⊢ with hexpected hscope
    · exact absurd h (hblocked _)
    · exact absurd h (hblocked _)
    · cases hclaim : a.claim with
      | refused | raised =>
        rw [hclaim] at h
        obtain ⟨e, he, -⟩ := h
        nomatch he
      | accepted =>
        rw [hclaim] at h
        dsimp only at h ⊢
        have h' : Closes (runClaimedTask rt a s t workspaceId taskRunId
            (orElse t.projectId [])).sent := by
          obtain ⟨e, he, hdone⟩ := h
          rcases List.mem_cons.mp he with rfl | he
          · nomatch hdone
          · exact ⟨e, he, hdone⟩
        exact passed_of_runClaimedTask hon hcriteria hfresh h'

theorem passed_of_executeResumeTask {a : ResumeAnswers} {runId : Text} {workspaceId : Option Text}
    (hon : rt.verificationEnabled = true)
    (hcriteria : ∀ ctx ∈ a.context, ctx.doneCriteria.truthy = true) (hfresh : FreshId s a.verify)
    (h : Closes (executeResumeTask rt a s runId workspaceId).sent) :
    ∃ finalOutput taskId workspace ctx, a.run = .completed finalOutput ∧ a.rejected = false ∧
      rt.taskOfRun runId = some taskId ∧ workspaceId = some workspace ∧ a.context = some ctx ∧
      Passed rt.verify a.verify s (executeResumeTask rt a s runId workspaceId).reports
        (resumedRun rt ctx workspace taskId runId finalOutput) := by
  have hempty : ¬ Closes [] := by
    rintro ⟨e, he, -⟩
    nomatch he
  unfold executeResumeTask at h ⊢
  cases hrun : a.run with
  | waitingApproval | failed =>
    rw [hrun] at h
    exact absurd h hempty
  | completed finalOutput =>
    rw [hrun] at h
    dsimp only at h ⊢
    by_cases hrejected : a.rejected
    · rw [if_pos hrejected] at h
      exact absurd h hempty
    rw [if_neg hrejected] at h ⊢
    unfold advanceWgaTaskAfterResume at h ⊢
    split at h
    case h_2 => exact absurd h hempty
    rename_i taskId c workspace htask
    rw [htask]
    dsimp only at h ⊢
    by_cases hmint : a.mintRaises
    · rw [if_pos hmint] at h
      exact absurd h hempty
    rw [if_neg hmint] at h ⊢
    unfold verifyResumedRun at h ⊢
    rw [if_neg (by simp [hon])] at h ⊢
    cases hcontext : a.context with
    | none =>
      rw [hcontext] at h
      nomatch pass_of_closes h
    | some ctx =>
      rw [hcontext] at h
      dsimp only at h ⊢
      rw [if_neg (by simp [hcriteria ctx hcontext])] at h ⊢
      cases hspec : rt.specByProfile (orElse ctx.ownerAgentProfile (text "operations")) with
      | none =>
        rw [hspec] at h
        nomatch pass_of_closes h
      | some =>
        rw [hspec] at h
        dsimp only at h ⊢
        exact ⟨finalOutput, taskId, c :: workspace, ctx, rfl, Bool.eq_false_iff.mpr hrejected, rfl,
          rfl, rfl, passed_of_verifyCompletedRun hon (hcriteria ctx hcontext) hfresh h⟩

end

/-- A verified run closes its task only if it has completed with a report that says `PASS`; where
none was kept before, the output met the criteria. -/
theorem report_of_done (rt : WgaRuntime) (s : Reports) (hon : rt.verificationEnabled = true) :
    (∀ (a : ExecutionAnswers) (t : ClaimableTask) (workspaceId taskRunId : Text)
      (scope : Option Text), t.doneCriteria.truthy = true → FreshId s a.verify →
      Closes (executeClaimedTask rt a s t workspaceId taskRunId scope).sent →
      ∃ finalOutput metricsBefore, a.run = .completed finalOutput ∧
        fetchBefore rt a t.doneCriteria = .ok metricsBefore ∧
        Passed rt.verify a.verify s
          (executeClaimedTask rt a s t workspaceId taskRunId scope).reports
          (claimedRun rt t workspaceId taskRunId finalOutput metricsBefore)) ∧
    ∀ (a : ResumeAnswers) (runId : Text) (workspaceId : Option Text),
      (∀ ctx ∈ a.context, ctx.doneCriteria.truthy = true) → FreshId s a.verify →
      Closes (executeResumeTask rt a s runId workspaceId).sent →
      ∃ finalOutput taskId workspace ctx, a.run = .completed finalOutput ∧ a.rejected = false ∧
        rt.taskOfRun runId = some taskId ∧ workspaceId = some workspace ∧ a.context = some ctx ∧
        Passed rt.verify a.verify s (executeResumeTask rt a s runId workspaceId).reports
          (resumedRun rt ctx workspace taskId runId finalOutput) :=
  ⟨fun _ _ _ _ _ hcriteria hfresh h => passed_of_executeClaimedTask hon hcriteria hfresh h,
    fun _ _ _ hcriteria hfresh h => passed_of_executeResumeTask hon hcriteria hfresh h⟩

/-! ## A run with a report of before -/

/-- The task was closed. -/
def Closed (sent : List (Advance × Reply)) : Prop :=
  ∃ e ∈ sent, e.1.toStatus = .done ∧ e.2 = .accepted
deriving Decidable

theorem Closed.closes {sent : List (Advance × Reply)} (h : Closed sent) : Closes sent := by
  obtain ⟨e, he, hdone, -⟩ := h
  exact ⟨e, he, hdone⟩

namespace Sample

/-- The decoder knows no text; every profile has the capability of reports. -/
def runtime : WgaRuntime where
  verify := {
    judge := { loads := fun _ => .error .decode, lower := id, isControl := fun _ => false }
    casefold := id
    shortest := fun _ => []
    str := fun _ => []
    dumps := fun _ => text "criteria"
    sha256 := fun s => .ok s }
  verificationEnabled := true
  specByProfile := fun _ => some [text "reports"]
  taskOfRun := fun _ => some (text "task")

/-- The run must leave an artifact. -/
def criterion : Json :=
  .dict [(text "id", .str (text "a")), (text "description", .str (text "artifact")),
    (text "required", .bool true), (text "check", .str (text "deterministic")),
    (text "predicate", .dict [(text "kind", .str (text "artifact_exists")),
      (text "args", .dict [(text "kind", .str (text "report"))])])]

def task : ClaimableTask where
  taskId := text "task"
  ownerAgentProfile := none
  expectedCapability := none
  projectId := some (text "project")
  needsApproval := false
  doneCriteria := .dict [(text "version", .int 1), (text "criteria", .list [criterion])]

def artifact : ArtifactRow := ⟨text "report", text "plan", text "run", none, none, text "ready"⟩

/-- The run completes, with so many artifacts. -/
def answers (artifacts : List ArtifactRow) : ExecutionAnswers where
  keyResultsBefore := .error "unavailable"
  run := .completed (some (.str (text "output")))
  artifactId := some (text "output")
  verify := {
    keyResults := .error "unavailable", artifacts := some (.ok artifacts), judgeTimesOut := false
    attempts := fun _ => .refused, reportId := text "new", store := .ok }

/-- A report of other criteria. -/
def earlier : VerificationReport where
  reportId := text "old"
  workspaceId := text "workspace"
  projectId := text "project"
  taskId := text "task"
  runId := text "run"
  verifierRunId := none
  verdict := text "PASS"
  mode := text "deterministic"
  criteriaResults := []
  criteriaHash := text "other criteria"
  outputHash := text "other output"

def reports : Reports := (∅ : Reports).set (text "workspace", text "run") earlier

/-- The run is resumed after its checkpoint was approved, and completes. -/
def resumeAnswers (artifacts : List ArtifactRow) : ResumeAnswers where
  run := .completed (some (.str (text "output")))
  rejected := false
  artifactId := some (text "output")
  context := some ⟨none, text "project", task.doneCriteria⟩
  verify := (answers artifacts).verify

/-- The execution of the task. -/
def execution (s : Reports) (artifacts : List ArtifactRow) : Effects TaskOutcome :=
  executeClaimedTask runtime (answers artifacts) s task (text "workspace") (text "run") none

theorem fresh_reports : FreshId reports (answers []).verify := by
  intro key kept hget
  rw [reports, Dict.get?_set] at hget
  split_ifs at hget
  · cases hget
    decide +kernel
  · nomatch hget

/-- The required criterion of the task is not met by a run without artifacts. -/
theorem not_verified (finalOutput : Option Json) (metricsBefore : Dict Text (Option PyFloat))
    (report : VerificationReport) :
    ¬ Verified runtime.verify (answers []).verify
      (claimedRun runtime task (text "workspace") (text "run") finalOutput metricsBefore)
      report := by
  rintro ⟨criteria, facts, hparse, hfacts, hmet, -⟩
  obtain rfl : [criterion] = criteria := Except.ok.inj hparse
  obtain ⟨metrics, -, hfacts⟩ := bind_eq_ok.mp hfacts
  cases hfacts
  have hholds := hmet criterion List.mem_cons_self (by decide +kernel)
  unfold Met at hholds
  rw [if_neg (by decide +kernel)] at hholds
  have heval : evaluateDeterministic runtime.verify.casefold criterion {
      outputText := extractText runtime.verify finalOutput
      structuredOutput := structuredOutput finalOutput
      artifacts := []
      metrics
      metricsBefore } = .ok (result criterion .fail "artifact_not_found") := rfl
  nomatch (evaluateDeterministic_pass_iff heval).mpr hholds

end Sample

/-- With the artifact, the task is closed on both paths. -/
theorem report_of_done_artifact :
    Passed Sample.runtime.verify (Sample.answers [Sample.artifact]).verify ∅
        (Sample.execution ∅ [Sample.artifact]).reports
        (claimedRun Sample.runtime Sample.task (text "workspace") (text "run")
          (some (.str (text "output"))) ∅) ∧
      ∃ taskId workspace ctx, Passed Sample.runtime.verify (Sample.answers [Sample.artifact]).verify
        ∅ (executeResumeTask Sample.runtime (Sample.resumeAnswers [Sample.artifact]) ∅ (text "run")
          (some (text "workspace"))).reports
        (resumedRun Sample.runtime ctx workspace taskId (text "run")
          (some (.str (text "output")))) := by
  obtain ⟨hfirst, hresumed⟩ := report_of_done Sample.runtime ∅ rfl
  constructor
  · obtain ⟨finalOutput, metricsBefore, hrun, hbefore, hpassed⟩ :=
      hfirst (Sample.answers [Sample.artifact]) Sample.task (text "workspace") (text "run") none rfl
        (fun _ _ h => nomatch h) (Closed.closes (by decide +kernel))
    obtain rfl := RunEnd.completed.inj hrun
    have hnone : fetchBefore Sample.runtime (Sample.answers [Sample.artifact])
        Sample.task.doneCriteria = .ok ∅ := rfl
    cases hbefore.symm.trans hnone
    exact hpassed
  · obtain ⟨finalOutput, taskId, workspace, ctx, hrun, -, -, -, -, hpassed⟩ :=
      hresumed (Sample.resumeAnswers [Sample.artifact]) (text "run") (some (text "workspace"))
        (fun ctx hctx => by
          cases hctx
          rfl)
        (fun _ _ h => nomatch h) (Closed.closes (by decide +kernel))
    obtain rfl := ResumeEnd.completed.inj hrun
    exact ⟨taskId, workspace, ctx, hpassed⟩

/-- The report of other criteria and another output was kept for the run. -/
theorem not_met_of_done :
    ¬ ∀ (rt : WgaRuntime) (s : Reports) (a : ExecutionAnswers) (t : ClaimableTask)
      (workspaceId taskRunId : Text) (scope : Option Text), rt.verificationEnabled = true →
      t.doneCriteria.truthy = true → FreshId s a.verify →
      Closed (executeClaimedTask rt a s t workspaceId taskRunId scope).sent →
      ∃ finalOutput metricsBefore kept, a.run = .completed finalOutput ∧
        (executeClaimedTask rt a s t workspaceId taskRunId scope).reports.get?
          (workspaceId, taskRunId) = some kept ∧
        kept.verdict = text Verdict.pass.value ∧
        Verified rt.verify a.verify
          (claimedRun rt t workspaceId taskRunId finalOutput metricsBefore) kept := by
  intro h
  obtain ⟨finalOutput, metricsBefore, kept, -, -, -, hverified⟩ :=
    h Sample.runtime Sample.reports (Sample.answers []) Sample.task (text "workspace") (text "run")
      none rfl rfl Sample.fresh_reports (by decide +kernel)
  exact Sample.not_verified finalOutput metricsBefore kept hverified

end JavisSaas.Cosa.Wga
