import JavisSaas.Cosa.Wga.TaskVerification

/-!
# How a task run closes its task

`apps/cosa/worker/wga_run.py`: the execution of a claimed task, and what follows a resumed run. The
notes that go with a change of status are left out.
-/

namespace JavisSaas.Cosa.Wga

open JavisSaas.Lib
open JavisSaas.Agent.Contracts (criterionId)
open JavisSaas.Agent.Verification

/-! ## Requests to the Company -/

/-- The statuses that an agent may set. -/
inductive AdvanceStatus
  | inProgress
  | waitingApproval
  | done
  | blocked
  deriving DecidableEq

structure Advance where
  toStatus : AdvanceStatus
  evidenceRefs : List Text := []

inductive Reply
  | accepted
  /-- A `CompanyServiceError`. -/
  | refused
  | raised
  deriving DecidableEq

/-- What an execution has sent, the reports that are kept after it, and its result. -/
structure Effects (R : Type) where
  sent : List (Advance × Reply) := []
  reports : Reports
  result : Except String R

/-- `_advance_task`: whether the Company accepted it. -/
def advanceTask (a : Advance) (reply : Reply) : List (Advance × Reply) × Except String Bool :=
  ([(a, reply)], match reply with
    | .accepted => .ok true
    | .refused => .ok false
    | .raised => .error "advance raised")

/-- The request that leaves the task open, and the result after it. -/
def leaveOpen (reply : Reply) : List (Advance × Reply) × Except String Bool :=
  let (sent, accepted) := advanceTask { toStatus := .inProgress } reply
  (sent, accepted.map fun _ => false)

/-- `finalize_wga_task_completion`: whether the task was closed. -/
def finalizeWgaTaskCompletion (evidenceRefs : List Text) (closing opening : Reply) :
    List (Advance × Reply) × Except String Bool :=
  if evidenceRefs = [] then leaveOpen opening
  else
    let closed : Advance := { toStatus := .done, evidenceRefs }
    match closing with
    | .accepted => ([(closed, .accepted)], .ok true)
    | .raised => ([(closed, .raised)], .error "advance raised")
    | .refused =>
      let (sent, result) := leaveOpen opening
      ((closed, .refused) :: sent, result)

/-- The end of both paths: a run that is not verified leaves its task open. -/
def closeRun (verification : Option VerificationOutcome) (evidenceRefs : List Text)
    (needsApproval : Bool) (closing opening : Reply) :
    List (Advance × Reply) × Except String Bool :=
  match verification with
  | some outcome =>
    if outcome.verdict ≠ .pass then leaveOpen opening
    else
      let evidenceRefs := match outcome.reportId, evidenceRefs with
        | some (c :: reportId), ref :: refs =>
          ref :: refs ++ [text "verification:" ++ c :: reportId]
        | _, refs => refs
      finalizeWgaTaskCompletion (if needsApproval then [] else evidenceRefs) closing opening
  | none =>
    finalizeWgaTaskCompletion (if needsApproval then [] else evidenceRefs) closing opening

/-! ## The runs -/

structure WgaRuntime where
  verify : VerifyRuntime
  /-- `WGA_VERIFY_ON_COMPLETE` is `1`. -/
  verificationEnabled : Bool
  /-- The capabilities of `_SPEC_BY_PROFILE`. -/
  specByProfile : Text → Option (List Text)
  /-- The group of `_WGA_TASK_RUN_RE`. -/
  taskOfRun : Text → Option Text

/-- `record_wga_task_evidence`; the artifact is `none` if it could not be stored. -/
def recordWgaTaskEvidence (artifactId : Option Text) (runId outputText : Text) : List Text :=
  if Text.strip outputText = [] then []
  else match artifactId with
    | none => []
    | some artifactId => [text "artifact:" ++ artifactId, text "run:" ++ runId]

def extractText (rt : VerifyRuntime) : Option Json → Text
  | none => []
  | some (.dict items) => rt.toStr ((Dict.lookup items (text "response")).getD (.dict items))
  | some value => if value.truthy then rt.toStr value else []

def verifyCompletedRun (rt : WgaRuntime) (a : VerifyAnswers) (s : Reports) (run : CompletedRun) :
    Option VerificationOutcome × Reports :=
  if rt.verificationEnabled ∧ run.doneCriteria.truthy then
    let (outcome, s) := verifyTaskResult rt.verify a s run
    (some outcome, s)
  else (none, s)

/-! ## The first execution -/

/-- A task that the Company lists for the agents. -/
structure ClaimableTask where
  taskId : Text
  ownerAgentProfile : Option Text
  expectedCapability : Option Text
  projectId : Option Text
  needsApproval : Bool
  doneCriteria : Json

inductive RunEnd
  | raised
  | completed (finalOutput : Option Json)
  | waitingApproval
  | failed

/-- What is answered to an execution. -/
structure ExecutionAnswers where
  mintRaises : Bool := false
  claim : Reply := .accepted
  /-- The key results before the run. -/
  keyResultsBefore : Except String Json
  prepare : Reply := .accepted
  run : RunEnd
  artifactId : Option Text
  verify : VerifyAnswers
  remintRaises : Bool := false
  /-- To the request that closes the task, and to the one that does not. -/
  closing : Reply := .accepted
  opening : Reply := .accepted

inductive TaskOutcome
  | done
  | pendingReview
  | waitingApproval
  | blocked
  | skipped

/-- A text that is not empty, or what stands in for it. -/
def orElse (value : Option Text) (default : Text) : Text :=
  match value with
  | some (c :: s) => c :: s
  | _ => default

def wantsChange (criteria : List Json) (keyResultId : Text) : Bool :=
  criteria.any fun c =>
    match predicateOf c with
    | .ok (kind, args) =>
      kind = text "metric_gte" &&
        (match Args.get? args "key_result_id", Args.get? args "must_change" with
        | some (.str id), some (.bool mustChange) => id = keyResultId && mustChange
        | _, _ => false)
    | .error _ => false

/-- The criteria of a value that was not parsed. -/
def rawCriteria (doneCriteria : Json) : List Json :=
  match doneCriteria.get? "criteria" with
  | some (.list criteria) => criteria
  | _ => []

/-- The values before the run of the key results that must change. -/
def fetchBefore (rt : WgaRuntime) (a : ExecutionAnswers) (doneCriteria : Json) :
    Except String (Dict Text (Option PyFloat)) :=
  let criteria := rawCriteria doneCriteria
  if rt.verificationEnabled ∧ doneCriteria.truthy then
    fetchKrValues rt.verify a.keyResultsBefore
      ((metricCriteriaIds criteria).filter (wantsChange criteria))
  else .ok ∅

/-- A request after which the execution ends. -/
def endWith (s : Reports) (status : AdvanceStatus) (reply : Reply) (outcome : TaskOutcome) :
    Effects TaskOutcome :=
  let (sent, accepted) := advanceTask { toStatus := status } reply
  { sent, reports := s, result := accepted.map fun _ => outcome }

/-- What follows a run that has completed. -/
def completeTask (rt : WgaRuntime) (a : ExecutionAnswers) (s : Reports) (t : ClaimableTask)
    (run : CompletedRun) : Effects TaskOutcome :=
  let evidence := recordWgaTaskEvidence a.artifactId run.taskRunId run.outputText
  let (verification, s) := verifyCompletedRun rt a.verify s run
  if a.remintRaises then { reports := s, result := .error "mint raised" }
  else
    let (sent, closed) := closeRun verification evidence t.needsApproval a.closing a.opening
    { sent, reports := s
      result := closed.map fun closed => if closed then .done else .pendingReview }

/-- What follows the claim. -/
def runClaimedTask (rt : WgaRuntime) (a : ExecutionAnswers) (s : Reports) (t : ClaimableTask)
    (workspaceId taskRunId projectId : Text) : Effects TaskOutcome :=
  match fetchBefore rt a t.doneCriteria with
  | .error e => { reports := s, result := .error e }
  | .ok metricsBefore =>
    match a.prepare, a.run with
    | .raised, _ => { reports := s, result := .error "prepare raised" }
    | .refused, _ => endWith s .blocked a.opening .blocked
    | .accepted, .raised => { reports := s, result := .error "run raised" }
    | .accepted, .completed finalOutput =>
      completeTask rt a s t {
        workspaceId, projectId, taskId := t.taskId, taskRunId, doneCriteria := t.doneCriteria
        finalOutput, outputText := extractText rt.verify finalOutput, metricsBefore }
    | .accepted, .waitingApproval => endWith s .waitingApproval a.opening .waitingApproval
    | .accepted, .failed => endWith s .blocked a.opening .blocked

/-- The reply for requests that block a task is the one that does not close it. -/
def executeClaimedTask (rt : WgaRuntime) (a : ExecutionAnswers) (s : Reports) (t : ClaimableTask)
    (workspaceId taskRunId : Text) (sweepProjectId : Option Text) : Effects TaskOutcome :=
  if a.mintRaises then { reports := s, result := .error "mint raised" }
  else match rt.specByProfile (orElse t.ownerAgentProfile (text "operations")) with
    | none => endWith s .blocked a.opening .blocked
    | some capabilityRefs =>
      let expected := orElse t.expectedCapability []
      if expected ≠ [] ∧ expected ∉ capabilityRefs then endWith s .blocked a.opening .blocked
      else
        let projectId := orElse t.projectId []
        let scope := orElse sweepProjectId []
        if projectId = [] ∨ scope ≠ [] ∧ projectId ≠ scope then
          endWith s .blocked a.opening .blocked
        else match a.claim with
          | .refused => { reports := s, result := .ok .skipped }
          | .raised => { reports := s, result := .error "claim raised" }
          | .accepted =>
            let r := runClaimedTask rt a s t workspaceId taskRunId projectId
            { r with sent := ({ toStatus := .inProgress }, .accepted) :: r.sent }

/-! ## The resumed run -/

/-- The response of `/agent-context`. -/
structure TaskContext where
  ownerAgentProfile : Option Text
  projectId : Text
  doneCriteria : Json

inductive ResumeEnd
  | completed (finalOutput : Option Json)
  | waitingApproval
  | failed

structure ResumeAnswers where
  run : ResumeEnd
  /-- The founder rejected the checkpoint. -/
  rejected : Bool
  artifactId : Option Text
  /-- `none` if it could not be read. -/
  context : Option TaskContext
  verify : VerifyAnswers
  mintRaises : Bool := false
  closing : Reply := .accepted
  opening : Reply := .accepted

/-- The verification of a resumed run. -/
def verifyResumedRun (rt : WgaRuntime) (a : ResumeAnswers) (s : Reports)
    (workspaceId taskId runId : Text) (finalOutput : Option Json) :
    Option VerificationOutcome × Reports :=
  if !rt.verificationEnabled then (none, s)
  else match a.context with
    | none => (some inconclusive, s)
    | some ctx =>
      if !ctx.doneCriteria.truthy then (none, s)
      else match rt.specByProfile (orElse ctx.ownerAgentProfile (text "operations")) with
        | none => (some inconclusive, s)
        | some _ => verifyCompletedRun rt a.verify s {
            workspaceId, projectId := ctx.projectId, taskId, taskRunId := runId
            doneCriteria := ctx.doneCriteria, finalOutput
            outputText := extractText rt.verify finalOutput }

def advanceWgaTaskAfterResume (rt : WgaRuntime) (a : ResumeAnswers) (s : Reports)
    (runId : Text) (workspaceId : Option Text) (finalOutput : Option Json) : Effects Unit :=
  match rt.taskOfRun runId, workspaceId with
  | some taskId, some (c :: workspaceId) =>
    let evidence :=
      recordWgaTaskEvidence a.artifactId runId (extractText rt.verify finalOutput)
    let (verification, s) := verifyResumedRun rt a s (c :: workspaceId) taskId runId finalOutput
    if a.mintRaises then { reports := s, result := .error "mint raised" }
    else
      let (sent, closed) := closeRun verification evidence false a.closing a.opening
      { sent, reports := s, result := closed.map fun _ => () }
  | _, _ => { reports := s, result := .ok () }

/-- The end of `execute_resume_task`; what its call raises is suppressed. -/
def executeResumeTask (rt : WgaRuntime) (a : ResumeAnswers) (s : Reports) (runId : Text)
    (workspaceId : Option Text) : Effects Unit :=
  match a.run with
  | .completed finalOutput =>
    if a.rejected then { reports := s, result := .ok () }
    else { advanceWgaTaskAfterResume rt a s runId workspaceId finalOutput with result := .ok () }
  | .waitingApproval | .failed => { reports := s, result := .ok () }

end JavisSaas.Cosa.Wga
