import JavisSaas.Agent.Verification.Judge

/-!
# Verification of a task result

`apps/cosa/worker/wga_verify.py`, with the report store of
`packages/agent/verification/repository.py`. What the Company, the artifact repository, the runs of
the judge and the report store answer is given; each of them may fail. The texts for the founder
and the event of the verification are left out.
-/

namespace JavisSaas.Cosa.Wga

open JavisSaas.Lib
open JavisSaas.Agent.Contracts (NumberText parseDoneCriteria criterionId)
open JavisSaas.Agent.Verification

/-! ## What the verifier calls -/

structure VerifyRuntime where
  judge : JudgeRuntime
  casefold : Casefold
  shortest : NumberText
  /-- `str(value)` of a value that is no text. -/
  str : Json → Text
  /-- `json.dumps(parsed, sort_keys=True, …)` -/
  dumps : List Json → Text
  /-- `_sha256`, which raises for a text that UTF-8 does not know. -/
  sha256 : Text → Except String Text

def VerifyRuntime.toStr (rt : VerifyRuntime) : Json → Text
  | .str s => s
  | value => rt.str value

/-- A stored artifact of a conversation. -/
structure ArtifactRow where
  kind : Text
  displayName : Text
  runId : Text
  objectRef : Option Text
  archivedAt : Option Text
  status : Text

/-- A run of the judge. -/
inductive JudgeAttempt
  /-- `RunCoreError` or `ModelRouteNotFound`. -/
  | refused
  /-- Another exception. -/
  | raised
  | notCompleted
  | completed (output : Text)

inductive StoreAnswer
  | ok
  /-- The report was stored, and the call raises. -/
  | lost
  /-- The call raises, or there is no repository. -/
  | failed

structure VerifyAnswers where
  /-- The response of `/operations/key-results`. -/
  keyResults : Except String Json
  /-- The artifacts of the conversation; `none` without a repository. -/
  artifacts : Option (Except String (List ArtifactRow))
  judgeTimesOut : Bool
  attempts : ℕ → JudgeAttempt
  /-- `vr_` and the hex of a `uuid4`. -/
  reportId : Text
  store : StoreAnswer

/-! ## The judge -/

structure JudgeResult where
  verdicts : Option (List (Text × Judgement))
  verifierRunId : Text
  error : Option Text

/-- The run of the verifier, `_JUDGE_MAX_ATTEMPTS` of them. -/
def verifierRunId (taskRunId : Text) (attempt : ℕ) : Text :=
  if attempt = 0 then taskRunId ++ text "__verify"
  else taskRunId ++ text "__verify_retry" ++ text (toString attempt)

def judgeMaxAttempts : ℕ := 2

/-- The loop of `run_judge`, with so many attempts left. -/
def judgeLoop (rt : JudgeRuntime) (taskRunId : Text) (expected : List Text)
    (attempts : ℕ → JudgeAttempt) : ℕ → ℕ → Except String JudgeResult
  | 0, attempt =>
    .ok ⟨none, verifierRunId taskRunId (attempt - 1), some (text "judge_output_invalid")⟩
  | left + 1, attempt =>
    let runId := verifierRunId taskRunId attempt
    match attempts attempt with
    | .refused | .notCompleted => .ok ⟨none, runId, some (text "judge_run_failed")⟩
    | .raised => .error "judge run raised"
    | .completed output =>
      match parseJudgeOutput rt output expected with
      | .ok verdicts => .ok ⟨some verdicts, runId, none⟩
      | .error (.judgeOutput _) => judgeLoop rt taskRunId expected attempts left (attempt + 1)
      | .error .raised => .error "judge output raised"

/-- The ids that the judge is asked for. -/
def expectedIds (rubric : List Json) : List Text :=
  (rubric.filterMap criterionId).filter fun cid => Text.strip cid ≠ []

def runJudgeWithTimeout (rt : JudgeRuntime) (a : VerifyAnswers) (taskRunId : Text)
    (rubric : List Json) : Except String JudgeResult :=
  if a.judgeTimesOut then
    .ok ⟨none, verifierRunId taskRunId 0, some (text "judge_timeout")⟩
  else judgeLoop rt taskRunId (expectedIds rubric) a.attempts judgeMaxAttempts 0

/-! ## The facts of the run -/

/-- The key result of a `metric_gte` criterion. -/
def metricId (criterion : Json) : Option Text :=
  match predicateOf criterion with
  | .ok (kind, args) =>
    match Args.get? args "key_result_id" with
    | some (.str keyResultId) =>
      if kind = text "metric_gte" ∧ Text.strip keyResultId ≠ [] then some keyResultId else none
    | _ => none
  | .error _ => none

def metricCriteriaIds (criteria : List Json) : List Text := (criteria.filterMap metricId).eraseDups

/-- The rows of the response that are key results with a number. -/
def keyResultRows (rt : VerifyRuntime) (response : Json) : List (Text × Json) :=
  match response.get? "data" with
  | some (.list rows) => rows.filterMap fun row =>
    match row with
    | .dict _ =>
      ((row.get? "currentValue").filter (·.number?.isSome)).map fun value =>
        (rt.toStr ((row.get? "id").getD .null), value)
    | _ => none
  | _ => []

/-- `float(value)`, which raises for too large an integer. -/
def toFloat : Json → Except String PyFloat
  | .int n => match floatOfInt n with
    | some x => .ok x
    | none => .error "OverflowError"
  | .float x => .ok x
  | _ => .error "TypeError"

/-- `fetch_kr_values`: a value that could not be read is `none`. -/
def fetchKrValues (rt : VerifyRuntime) (response : Except String Json) (ids : List Text) :
    Except String (Dict Text (Option PyFloat)) :=
  let initial : Dict Text (Option PyFloat) := (∅ : Dict Text _).update (ids.map (·, none))
  if ids = [] then .ok initial
  else match response with
    | .error _ => .ok initial
    | .ok response => (keyResultRows rt response).foldlM (fun values row =>
        if (values.get? row.1).isSome then do return values.set row.1 (some (← toFloat row.2))
        else .ok values) initial

def wgaTaskOutputDisplayName : Text := text "WGA task output"

/-- `WGA_TASK_OUTPUT_REF_TEMPLATE` -/
def wgaTaskOutputRef (runId : Text) : Text :=
  text "artifact://run/" ++ runId ++ text "/task-output"

def isPlatformEvidence (a : ArtifactRow) (taskRunId : Text) : Bool :=
  match a.objectRef with
  | some (c :: ref) => c :: ref = wgaTaskOutputRef taskRunId
  | _ => a.kind = text "report" ∧ a.displayName = wgaTaskOutputDisplayName

/-- The artifacts that count for the criteria. -/
def artifactFacts (artifacts : Option (Except String (List ArtifactRow))) (taskRunId : Text) :
    List ArtifactFact :=
  match artifacts with
  | some (.ok rows) =>
    (rows.filter fun a => a.runId = taskRunId ∧ isPlatformEvidence a taskRunId = false ∧
      a.archivedAt = none ∧ a.status ≠ text "archived").map fun a => ⟨a.kind, a.displayName⟩
  | _ => []

/-- The final output, if it is a dict with more than a response. -/
def structuredOutput : Option Json → Option Json
  | some (.dict items) =>
    if items.map Prod.fst = [text "response"] then none else some (.dict items)
  | _ => none

/-! ## Reports -/

structure VerificationReport where
  reportId : Text
  workspaceId : Text
  projectId : Text
  taskId : Text
  runId : Text
  verifierRunId : Option Text
  verdict : Text
  mode : Text
  criteriaResults : List Json
  criteriaHash : Text
  outputHash : Text

/-- The reports, one for each run of a workspace. -/
abbrev Reports := Dict (Text × Text) VerificationReport

/-- `create_if_absent`: the report that is kept for the run. -/
def createIfAbsent (s : Reports) (report : VerificationReport) : Reports × VerificationReport :=
  match s.get? (report.workspaceId, report.runId) with
  | some kept => (s, kept)
  | none => (s.set (report.workspaceId, report.runId) report, report)

def storeReport (s : Reports) (report : VerificationReport) :
    StoreAnswer → Reports × Option VerificationReport
  | .ok => ((createIfAbsent s report).1, some (createIfAbsent s report).2)
  | .lost => ((createIfAbsent s report).1, none)
  | .failed => (s, none)

/-- `to_dict` -/
def resultDict (r : CriterionResult) : Json :=
  .dict [(text "id", .str r.id), (text "required", .bool r.required), (text "check", .str r.check),
    (text "verdict", .str (text r.verdict.value)), (text "reason", .str r.reason)]

/-! ## `verify_task_result` -/

/-- A run that has completed, and the task that it was for. -/
structure CompletedRun where
  workspaceId : Text
  projectId : Text
  taskId : Text
  taskRunId : Text
  doneCriteria : Json
  finalOutput : Option Json
  outputText : Text
  metricsBefore : Dict Text (Option PyFloat) := ∅

structure VerificationOutcome where
  verdict : Verdict
  reportId : Option Text
  results : List CriterionResult

def isRubric (criterion : Json) : Bool :=
  match criterion.get? "check" with
  | some (.str check) => check = text "rubric"
  | _ => false

def validId (criterion : Json) : Bool :=
  match criterionId criterion with
  | some cid => Text.strip cid ≠ []
  | none => false

/-- The rubric criteria, which go to the judge. -/
def rubricOf (criteria : List Json) : List Json := criteria.filter fun c => validId c && isRubric c

/-- The result of a rubric criterion. -/
def rubricResult (rt : JudgeRuntime) (judge : Option JudgeResult) (criterion : Json) :
    CriterionResult :=
  let cid := (criterionId criterion).getD []
  let judged : Judgement := match judge.bind (·.verdicts) with
    | none => (.unclear, ((judge.bind (·.error)).getD (text "judge_failed")))
    | some verdicts =>
      let j := (Dict.lookup verdicts cid).getD omitted
      (j.1, cleanReason rt (some (.str j.2)))
  { id := cid, required := isRequired criterion, check := text "rubric", verdict := judged.1
    reason := judged.2 }

/-- The result of a criterion; one without a valid id is unclear. -/
def criterionResult (rt : VerifyRuntime) (facts : RunFacts) (judge : Option JudgeResult)
    (criterion : Json) : Except String CriterionResult :=
  if !validId criterion then
    .ok { id := [], required := isRequired criterion, verdict := .unclear
          check := if isRubric criterion then text "rubric" else text "deterministic"
          reason := text "invalid_criterion" }
  else if isRubric criterion then .ok (rubricResult rt.judge judge criterion)
  else evaluateDeterministic rt.casefold criterion facts

/-- `collect_run_facts`, after the key results were read. -/
def collectRunFacts (rt : VerifyRuntime) (a : VerifyAnswers) (run : CompletedRun)
    (criteria : List Json) : Except String RunFacts := do
  let metrics ← fetchKrValues rt a.keyResults (metricCriteriaIds criteria)
  return {
    outputText := run.outputText
    structuredOutput := structuredOutput run.finalOutput
    artifacts := artifactFacts a.artifacts run.taskRunId
    metrics
    metricsBefore := run.metricsBefore }

/-- The judge is run if there are rubric criteria. -/
def judgeRun (rt : VerifyRuntime) (a : VerifyAnswers) (run : CompletedRun) (criteria : List Json) :
    Except String (Option JudgeResult) :=
  if rubricOf criteria = [] then .ok none
  else some <$> runJudgeWithTimeout rt.judge a run.taskRunId (rubricOf criteria)

/-- The results and the report of them. -/
def assess (rt : VerifyRuntime) (a : VerifyAnswers) (run : CompletedRun) (criteria : List Json) :
    Except String (List CriterionResult × VerificationReport) := do
  let facts ← collectRunFacts rt a run criteria
  let judge ← judgeRun rt a run criteria
  let results ← criteria.mapM (criterionResult rt facts judge)
  let criteriaHash ← rt.sha256 (rt.dumps criteria)
  let outputHash ← rt.sha256 run.outputText
  return (results, {
    reportId := a.reportId
    workspaceId := run.workspaceId
    projectId := run.projectId
    taskId := run.taskId
    runId := run.taskRunId
    verifierRunId := judge.map (·.verifierRunId)
    verdict := text (combine results).value
    mode := if judge.isSome then text "deterministic+judge" else text "deterministic"
    criteriaResults := results.map resultDict
    criteriaHash
    outputHash })

/-- `Verdict(value)` -/
def verdictOfText (s : Text) : Except String Verdict :=
  match [Verdict.pass, .fail, .inconclusive].find? fun v => text v.value = s with
  | some verdict => .ok verdict
  | none => .error "ValueError"

/-- A result of a stored report. -/
def storedResult (rt : VerifyRuntime) (d : Json) : Except String CriterionResult := do
  let verdict ← match (d.get? "verdict").getD (.str (text "unclear")) with
    | .str s => match CriterionVerdict.ofText? s with
      | some verdict => .ok verdict
      | none => .error "ValueError"
    | _ => .error "ValueError"
  return {
    id := rt.toStr ((d.get? "id").getD (.str []))
    required := (d.get? "required").elim true Json.truthy
    check := rt.toStr ((d.get? "check").getD (.str (text "rubric")))
    verdict
    reason := rt.toStr ((d.get? "reason").getD (.str [])) }

/-- A report that was kept before with another verdict has the last word. -/
def conclude (rt : VerifyRuntime) (results : List CriterionResult) (report : VerificationReport)
    (stored : Option VerificationReport) : Except String VerificationOutcome :=
  let verdict := combine results
  match stored with
  | none => .ok ⟨if verdict = .pass then .inconclusive else verdict, none, results⟩
  | some stored =>
    if stored.reportId ≠ report.reportId ∧ stored.verdict ≠ text verdict.value then do
      let verdict ← verdictOfText stored.verdict
      let results ← stored.criteriaResults.mapM (storedResult rt)
      return ⟨verdict, some stored.reportId, results⟩
    else .ok ⟨verdict, some stored.reportId, results⟩

def inconclusive : VerificationOutcome := ⟨.inconclusive, none, []⟩

/-- `verify_task_result`: whatever raises is `INCONCLUSIVE`. -/
def verifyTaskResult (rt : VerifyRuntime) (a : VerifyAnswers) (s : Reports) (run : CompletedRun) :
    VerificationOutcome × Reports :=
  match parseDoneCriteria rt.shortest run.doneCriteria with
  | .error _ => (inconclusive, s)
  | .ok criteria =>
    match assess rt a run criteria with
    | .error _ => (inconclusive, s)
    | .ok (results, report) =>
      let (s', stored) := storeReport s report a.store
      (((conclude rt results report stored).toOption).getD inconclusive, s')

end JavisSaas.Cosa.Wga
