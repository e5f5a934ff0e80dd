import JavisSaas.Company.Operations.ExecutionPlans

/-!
# Work packages

`services/company/operations/services/work-package.service.ts` and `work-package-review.service.ts`.
Each function here is one query, or the statements of a transaction between two of which nothing
else is seen of it. The identifiers, the clock and the verdict of the Control Plane on an agent are
answers; `indexed` says whether the unique indexes of the schema are in the database, which its
migrations do not create.
-/

namespace JavisSaas.Company.Operations

open JavisSaas.Lib

/-! ## The tables -/

inductive WorkPackageStatus
  | queued
  | leased
  | running
  | validationPassed
  | pendingManagerReview
  | escalatedToFounder
  | accepted
  | rework
  | rejected
  | blocked
  | onHold
  | cancelled
  deriving DecidableEq

def WorkPackageStatus.text : WorkPackageStatus → String
  | queued => "QUEUED"
  | leased => "LEASED"
  | running => "RUNNING"
  | validationPassed => "VALIDATION_PASSED"
  | pendingManagerReview => "PENDING_MANAGER_REVIEW"
  | escalatedToFounder => "ESCALATED_TO_FOUNDER"
  | accepted => "ACCEPTED"
  | rework => "REWORK"
  | rejected => "REJECTED"
  | blocked => "BLOCKED"
  | onHold => "ON_HOLD"
  | cancelled => "CANCELLED"

def leasedWpStatuses : List WorkPackageStatus := [.leased, .running]

def reviewableStatuses : List WorkPackageStatus :=
  [.validationPassed, .pendingManagerReview, .escalatedToFounder]

inductive PackagePriority
  | p0
  | p1
  | p2
  | p3

inductive ContractStatus
  | draft
  | confirmed
  | superseded
  deriving DecidableEq

def ContractStatus.text : ContractStatus → String
  | draft => "DRAFT"
  | confirmed => "CONFIRMED"
  | superseded => "SUPERSEDED"

/-- A row of `task_outcome_contracts`, without what it promises. -/
structure OutcomeContract where
  id : ℕ
  workspaceId : ℕ
  taskId : ℕ
  revision : ℕ
  status : ContractStatus
  supersedesContractId : Option ℕ := none
  version : ℕ := 1
  deriving DecidableEq

/-- A row of `tasks`, as far as the queue reads it. -/
structure QueueTask where
  workspaceId : ℕ
  activeOutcomeContractId : Option ℕ := none
  status : String

structure WorkPackage where
  id : ℕ
  workspaceId : ℕ
  taskId : ℕ
  outcomeContractId : ℕ
  objective : String
  outputContract : List (String × String)
  acceptanceRubric : List (String × ℤ)
  requestedByManagerId : Option ℕ
  assignedAgentInstanceId : String
  requestedPriority : PackagePriority
  effectivePriority : PackagePriority
  priorityReason : Option String := none
  status : WorkPackageStatus := .queued
  reviewDueAt : Option ℤ := none
  idempotencyKey : Option String
  version : ℕ := 1

inductive AttemptStatus
  | active
  | reassigned
  | reworked

structure Attempt where
  id : ℕ
  workPackageId : ℕ
  sequenceNo : ℕ
  assignedAgentInstanceId : String
  status : AttemptStatus := .active
  endedAt : Option ℤ := none
  endedReason : Option String := none

inductive ReviewDecision
  | accept
  | rework
  | reject
  deriving DecidableEq

/-- The status that a decision sets. -/
def ReviewDecision.status : ReviewDecision → WorkPackageStatus
  | accept => .accepted
  | rework => .rework
  | reject => .rejected

/-- `decision.toLowerCase()`. -/
def ReviewDecision.lower : ReviewDecision → String
  | accept => "accept"
  | rework => "rework"
  | reject => "reject"

structure PackageReview where
  id : ℕ
  workPackageId : ℕ
  workAttemptId : Option ℕ
  reviewerMemberId : Option ℕ
  byFounder : Bool
  artifactVersionRef : String
  decision : ReviewDecision
  rubricScores : List (String × ℤ)
  reasonCode : String
  narrative : Option String
  supersedesReviewId : Option ℕ

/-- A row of `work_package_events`; `ref` is the review or the attempt that it names. -/
structure PackageEvent where
  workPackageId : ℕ
  eventType : String
  ref : Option ℕ
  reason : Option String

structure PriorityEvent where
  workPackageId : ℕ
  actorMemberId : Option ℕ
  requestedPriority : PackagePriority
  priorEffectivePriority : PackagePriority
  newEffectivePriority : PackagePriority
  reason : String

/-- An event in the outbox, with its aggregate. -/
structure PackageSignal where
  eventType : String
  workPackageId : ℕ

structure WorkDb where
  tasks : Dict ℕ QueueTask := ∅
  contracts : Dict ℕ OutcomeContract := ∅
  packages : Dict ℕ WorkPackage := ∅
  attempts : List Attempt := []
  reviews : List PackageReview := []
  events : List PackageEvent := []
  priorityEvents : List PriorityEvent := []
  outbox : List PackageSignal := []

structure TenantContext where
  workspaceId : ℕ
  membershipRole : String
  workforceMemberId : Option ℕ := none

/-- What the environment answers to a step. -/
structure WorkAnswers where
  now : ℤ := 0
  /-- The identifier of a new row. -/
  newId : ℕ := 0
  newAttemptId : ℕ := 0
  newContractId : ℕ := 0
  /-- `checkEligibility`. -/
  eligibility : Except ApiError Unit := .ok ()
  /-- `validateContractInput`. -/
  contractCheck : Except ApiError Unit := .ok ()

/-- `["founder", "co-founder"].includes(role)`. -/
def isFounder (ctx : TenantContext) : Bool :=
  ctx.membershipRole.toLower ∈ ["founder", "co-founder"]

def WorkDb.updatePackage (db : WorkDb) (id : ℕ) (f : WorkPackage → WorkPackage) : WorkDb :=
  match db.packages.get? id with
  | some wp => { db with packages := db.packages.set id (f wp) }
  | none => db

def WorkDb.append (db : WorkDb) (event : PackageEvent) : WorkDb :=
  { db with events := db.events ++ [event] }

def WorkDb.signal (db : WorkDb) (eventType : String) (workPackageId : ℕ) : WorkDb :=
  { db with outbox := db.outbox ++ [⟨eventType, workPackageId⟩] }

/-- The package of the workspace with this identifier. -/
def WorkDb.packageOf (db : WorkDb) (id workspaceId : ℕ) : Except ApiError WorkPackage :=
  match (db.packages.get? id).filter fun wp => wp.workspaceId = workspaceId with
  | some wp => .ok wp
  | none => .error (.notFound "work package not found in workspace")

theorem packageOf_eq_ok {db : WorkDb} {id workspaceId : ℕ} {wp : WorkPackage}
    (h : db.packageOf id workspaceId = .ok wp) : db.packages.get? id = some wp := by
  unfold WorkDb.packageOf at h
  split at h
  · next wp' hwp =>
    cases h
    exact (Option.filter_eq_some_iff.mp hwp).1
  · nomatch h

/-- The package still has the version that `wp` has. -/
def WorkDb.unchanged (db : WorkDb) (wp : WorkPackage) : Bool :=
  (db.packages.get? wp.id).any fun row => row.version = wp.version

def staleVersion (expected found : ℕ) : ApiError :=
  ⟨"aborted", "stale work package version: expected " ++ toString expected ++ ", got " ++
    toString found⟩

/-! ## `openAttempt` (lines 166–214) -/

structure OpenAttemptInput where
  workPackageId : ℕ
  assignedAgentInstanceId : String
  sequenceNo : Option ℕ := none

def WorkDb.attemptsOf (db : WorkDb) (workPackageId : ℕ) : List Attempt :=
  db.attempts.filter (·.workPackageId = workPackageId)

/-- The first row of `ORDER BY sequence_no ASC`. -/
def WorkDb.lastSequenceNo (db : WorkDb) (workPackageId : ℕ) : Option ℕ :=
  ((db.attemptsOf workPackageId).map (·.sequenceNo)).min?

def openAttempt (indexed : Bool) (db : WorkDb) (input : OpenAttemptInput) (newId : ℕ) :
    Except ApiError WorkDb := do
  require (∀ a ∈ db.attemptsOf input.workPackageId, a.endedAt.isSome)
    (.failedPrecondition "work package already has an active attempt")
  let sequenceNo :=
    input.sequenceNo.getD ((db.lastSequenceNo input.workPackageId).getD 0 + 1)
  require (indexed → ∀ a ∈ db.attemptsOf input.workPackageId, a.sequenceNo ≠ sequenceNo)
    ⟨"unique_violation", "uix_work_package_attempts_seq"⟩
  return { db with attempts := db.attempts ++ [{
    id := newId
    workPackageId := input.workPackageId
    sequenceNo
    assignedAgentInstanceId := input.assignedAgentInstanceId }] }

variable {db : WorkDb} {wp : WorkPackage} {ctx : TenantContext}

theorem openAttempt_frame {indexed : Bool} {db' : WorkDb} {input : OpenAttemptInput} {newId : ℕ}
    (h : openAttempt indexed db input newId = .ok db') :
    ∃ attempts, db' = { db with attempts } := by
  have h := of_require h
  have h := of_require h
  exact ⟨_, (pure_eq_ok.mp h).symm⟩

/-- The attempt that is open is ended. -/
def endActiveAttempt (db : WorkDb) (workPackageId : ℕ) (status : AttemptStatus) (reason : String)
    (now : ℤ) : WorkDb :=
  match (db.attemptsOf workPackageId).find? fun a => a.endedAt.isNone with
  | some active => { db with attempts := db.attempts.map fun a =>
      if a.id = active.id then { a with endedAt := some now, status, endedReason := some reason }
      else a }
  | none => db

theorem endActiveAttempt_frame (db : WorkDb) (workPackageId : ℕ) (status : AttemptStatus)
    (reason : String) (now : ℤ) :
    ∃ attempts, endActiveAttempt db workPackageId status reason now = { db with attempts } := by
  unfold endActiveAttempt
  split
  · exact ⟨_, rfl⟩
  · exact ⟨db.attempts, rfl⟩

/-! ## A new package (lines 216–375) -/

structure PackageInput where
  taskId : ℕ
  outcomeContractId : ℕ
  assignedAgentInstanceId : String
  requestedPriority : PackagePriority
  objective : String
  outputContract : List (String × String)
  acceptanceRubric : List (String × ℤ)
  idempotencyKey : Option String
  requestedByManagerId : Option ℕ := none

def validatePackageShape (input : PackageInput) : Except ApiError Unit := do
  require (trimmed input.objective ≠ "") (.invalidArgument "objective is required")
  require (trimmed input.assignedAgentInstanceId ≠ "")
    (.invalidArgument "assignedAgentInstanceId is required")
  require (input.outputContract ≠ []) (.invalidArgument "outputContract is required")
  require (input.acceptanceRubric ≠ []) (.invalidArgument "acceptanceRubric is required")

/-- The package that was created under an idempotency key. -/
def idempotentHit (db : WorkDb) (workspaceId : ℕ) (key : String) : Option WorkPackage :=
  db.packages.values.find? fun wp => wp.workspaceId = workspaceId && wp.idempotencyKey = some key

/-- `createWorkPackage` looks no empty key up. -/
def createdBefore (db : WorkDb) (workspaceId : ℕ) (key : Option String) : Option WorkPackage :=
  (key.filter (· ≠ "")).bind (idempotentHit db workspaceId)

def newPackage (workspaceId : ℕ) (input : PackageInput) (id : ℕ) : WorkPackage where
  id
  workspaceId
  taskId := input.taskId
  outcomeContractId := input.outcomeContractId
  objective := input.objective
  outputContract := input.outputContract
  acceptanceRubric := input.acceptanceRubric
  requestedByManagerId := input.requestedByManagerId
  assignedAgentInstanceId := input.assignedAgentInstanceId
  requestedPriority := input.requestedPriority
  effectivePriority := input.requestedPriority
  idempotencyKey := input.idempotencyKey

/-- `insertQueuedPackage` up to its attempt. -/
def insertPackage (db : WorkDb) (workspaceId : ℕ) (input : PackageInput) (answers : WorkAnswers) :
    Except ApiError (WorkDb × OpenAttemptInput) := do
  require ((db.tasks.get? input.taskId).any fun t => t.workspaceId = workspaceId)
    (.notFound ("task " ++ toString input.taskId ++ " not found"))
  require (db.packages.get? answers.newId = none) ⟨"unique_violation", "task_work_packages"⟩
  return ({ db with
    packages := db.packages.set answers.newId (newPackage workspaceId input answers.newId) },
    ⟨answers.newId, input.assignedAgentInstanceId, some 1⟩)

/-- `insertQueuedPackage` after its attempt. -/
def announcePackage (db : WorkDb) (answers : WorkAnswers) : WorkDb :=
  (((db.append ⟨answers.newId, "work_package.queued", none, none⟩).append
    ⟨answers.newId, "work_package.attempt_opened", some answers.newAttemptId, none⟩).signal
    "operations.work_package.created.v1" answers.newId).signal
    "operating.work_package.queued.v1" answers.newId

def insertQueuedPackage (indexed : Bool) (db : WorkDb) (workspaceId : ℕ) (input : PackageInput)
    (answers : WorkAnswers) : Except ApiError WorkDb := do
  let (db, attempt) ← insertPackage db workspaceId input answers
  let db ← openAttempt indexed db attempt answers.newAttemptId
  return announcePackage db answers

/-! ## The gate of the queue -/

/-- The contract that a task refers to (lines 415–468 of `task-outcome-contract.service.ts`). -/
def assertTaskCanEnterQueue (db : WorkDb) (taskId workspaceId : ℕ) : Except ApiError Unit :=
  match (db.tasks.get? taskId).filter fun t => t.workspaceId = workspaceId with
  | none => .error (.notFound ("task " ++ toString taskId ++ " not found in workspace"))
  | some task =>
    match task.activeOutcomeContractId with
    | none => .error (.failedPrecondition ("task " ++ toString taskId ++
        " has no confirmed Outcome Contract and cannot enter the queue"))
    | some contractId =>
      match (db.contracts.get? contractId).filter fun c => c.workspaceId = workspaceId with
      | none => .error (.failedPrecondition ("task " ++ toString taskId ++
          " references a foreign or missing Outcome Contract"))
      | some contract => do
        require (contract.taskId = taskId) (.failedPrecondition ("task " ++ toString taskId ++
          " references a foreign or missing Outcome Contract"))
        require (contract.status = .confirmed) (.failedPrecondition ("Outcome Contract for task " ++
          toString taskId ++ " is " ++ contract.status.text ++ ", not CONFIRMED"))

/-- The contract that the package names (lines 377–400). -/
def requireCurrentConfirmedContract (db : WorkDb) (workspaceId taskId contractId : ℕ) :
    Except ApiError Unit :=
  match (db.contracts.get? contractId).filter fun c =>
    c.workspaceId = workspaceId && c.taskId = taskId with
  | none => .error (.invalidArgument
      "outcomeContractId is not this task's contract in this workspace")
  | some contract => require (contract.status = .confirmed)
      (.failedPrecondition ("outcome contract is " ++ contract.status.text ++ ", not CONFIRMED"))

/-! ## `reassignWorkPackage` (lines 755–879) -/

structure ReassignInput where
  workPackageId : ℕ
  targetAgentInstanceId : String
  expectedVersion : ℕ
  reason : Option String := none

/-- The first query of the transaction. -/
def loadForReassign (db : WorkDb) (input : ReassignInput) (ctx : TenantContext) :
    Except ApiError WorkPackage := do
  let wp ← db.packageOf input.workPackageId ctx.workspaceId
  require (wp.version = input.expectedVersion) (staleVersion input.expectedVersion wp.version)
  return wp

theorem loadForReassign_eq_ok {input : ReassignInput} (h : loadForReassign db input ctx = .ok wp) :
    db.packages.get? input.workPackageId = some wp ∧ wp.version = input.expectedVersion := by
  obtain ⟨wp', hwp, h⟩ := bind_eq_ok.mp h
  obtain ⟨hversion, h⟩ := require_bind_eq_ok.mp h
  cases h
  exact ⟨packageOf_eq_ok hwp, hversion⟩

/-- A package that is leased is not taken away: the wish is recorded. -/
def requestReassignment (db : WorkDb) (input : ReassignInput) : WorkDb :=
  (db.append ⟨input.workPackageId, "work_package.reassignment_requested", none,
    input.reason⟩).signal "operating.work_package.reassign_requested.v1" input.workPackageId

/-- The tables and the input of `openAttempt`. -/
def reassignOpening (db : WorkDb) (input : ReassignInput) (wp : WorkPackage) (now : ℤ) :
    WorkDb × OpenAttemptInput :=
  (endActiveAttempt db wp.id .reassigned (input.reason.getD "reassigned") now,
    ⟨wp.id, input.targetAgentInstanceId, none⟩)

/-- The columns of the conditional update. -/
def ReassignInput.set (input : ReassignInput) (wp row : WorkPackage) : WorkPackage :=
  { row with
    assignedAgentInstanceId := input.targetAgentInstanceId
    status := .queued
    version := wp.version + 1 }

def changedConcurrently : ApiError := ⟨"aborted", "work package changed concurrently"⟩

/-- The conditional update, and what follows. -/
def reassignUpdate (db : WorkDb) (input : ReassignInput) (wp : WorkPackage) (attemptId : ℕ) :
    Except ApiError WorkDb := do
  require (db.unchanged wp) changedConcurrently
  return (db.updatePackage wp.id (input.set wp)).append
    ⟨wp.id, "work_package.reassigned", some attemptId, input.reason⟩

/-- The transaction after its first query. -/
def reassignWrites (indexed : Bool) (db : WorkDb) (input : ReassignInput) (wp : WorkPackage)
    (answers : WorkAnswers) : Except ApiError WorkDb :=
  if wp.status ∈ leasedWpStatuses then .ok (requestReassignment db input)
  else do
    let opening := reassignOpening db input wp answers.now
    let db ← openAttempt indexed opening.1 opening.2 answers.newAttemptId
    reassignUpdate db input wp answers.newAttemptId

/-! ## `reviewWorkPackage` (lines 92–224) -/

structure ReviewInput where
  workPackageId : ℕ
  workAttemptId : Option ℕ := none
  artifactVersionRef : String
  decision : ReviewDecision
  rubricScores : List (String × ℤ)
  reasonCode : String
  narrative : Option String := none
  expectedVersion : ℕ
  reworkTargetAgentInstanceId : Option String := none

def assertOwningManagerOrFounder (wp : WorkPackage) (ctx : TenantContext) : Except ApiError Unit :=
  require (isFounder ctx ∨
      (wp.requestedByManagerId.isSome ∧ wp.requestedByManagerId = ctx.workforceMemberId))
    (.permissionDenied "only the owning manager or a founder may review this package")

/-- The checks before the transaction. -/
def loadForReview (db : WorkDb) (input : ReviewInput) (ctx : TenantContext) :
    Except ApiError WorkPackage := do
  require (trimmed input.reasonCode ≠ "") (.invalidArgument "reasonCode is required")
  require (input.rubricScores ≠ []) (.invalidArgument "rubricScores are required")
  require (trimmed input.artifactVersionRef ≠ "")
    (.invalidArgument "artifactVersionRef is required")
  let wp ← db.packageOf input.workPackageId ctx.workspaceId
  assertOwningManagerOrFounder wp ctx
  require (wp.status ∈ reviewableStatuses)
    (.failedPrecondition ("work package is " ++ wp.status.text ++ ", not reviewable"))
  require (wp.version = input.expectedVersion) (staleVersion input.expectedVersion wp.version)
  return wp

theorem loadForReview_eq_ok {input : ReviewInput} (h : loadForReview db input ctx = .ok wp) :
    db.packages.get? input.workPackageId = some wp ∧ wp.status ∈ reviewableStatuses ∧
      wp.version = input.expectedVersion := by
  have h := of_require h
  have h := of_require h
  have h := of_require h
  obtain ⟨wp', hwp, h⟩ := bind_eq_ok.mp h
  obtain ⟨_, h⟩ := of_bind h
  obtain ⟨hstatus, h⟩ := require_bind_eq_ok.mp h
  obtain ⟨hversion, h⟩ := require_bind_eq_ok.mp h
  cases h
  exact ⟨packageOf_eq_ok hwp, hstatus, hversion⟩

def newReview (db : WorkDb) (input : ReviewInput) (ctx : TenantContext) (id : ℕ) :
    PackageReview where
  id
  workPackageId := input.workPackageId
  workAttemptId := input.workAttemptId
  reviewerMemberId := ctx.workforceMemberId
  byFounder := isFounder ctx
  artifactVersionRef := input.artifactVersionRef
  decision := input.decision
  rubricScores := input.rubricScores
  reasonCode := input.reasonCode
  narrative := input.narrative
  supersedesReviewId :=
    ((db.reviews.filter (·.workPackageId = input.workPackageId)).map (·.id)).getLast?

/-- The conditional update of a review, if it has found the version. -/
def reviewUpdate (db : WorkDb) (decision : ReviewDecision) (wp : WorkPackage) (matched : Bool) :
    WorkDb :=
  if matched then
    db.updatePackage wp.id fun row =>
      { row with status := decision.status, version := wp.version + 1 }
  else db

/-- The rows that a review leaves. -/
def recordReview (db : WorkDb) (input : ReviewInput) (ctx : TenantContext) (id : ℕ) : WorkDb :=
  ({ db with reviews := db.reviews ++ [newReview db input ctx id] } : WorkDb).append
    ⟨input.workPackageId, "work_package.review_" ++ input.decision.lower, some id,
      some input.reasonCode⟩

/-- The agent that the next attempt is for. -/
def reworkTarget (input : ReviewInput) (wp : WorkPackage) : String :=
  (input.reworkTargetAgentInstanceId.filter (· ≠ "")).getD wp.assignedAgentInstanceId

/-- The tables and the input of `openAttempt`, for a rework. -/
def reworkOpening (db : WorkDb) (input : ReviewInput) (wp : WorkPackage) (now : ℤ) :
    WorkDb × OpenAttemptInput :=
  (endActiveAttempt db wp.id .reworked input.reasonCode now, ⟨wp.id, reworkTarget input wp, none⟩)

/-- The last update of a rework, by the identifier of the package alone. -/
def requeue (db : WorkDb) (input : ReviewInput) (wp : WorkPackage) : WorkDb :=
  db.updatePackage wp.id fun row =>
    { row with
      status := .queued
      assignedAgentInstanceId := reworkTarget input wp
      version := wp.version + 2 }

/-- `matched`: the conditional update has found the version of `wp`. -/
def reviewWrites (indexed : Bool) (db : WorkDb) (input : ReviewInput) (ctx : TenantContext)
    (wp : WorkPackage) (matched : Bool) (answers : WorkAnswers) : Except ApiError WorkDb :=
  let db := recordReview (reviewUpdate db input.decision wp matched) input ctx answers.newId
  if input.decision = .rework then do
    let opening := reworkOpening db input wp answers.now
    let db ← openAttempt indexed opening.1 opening.2 answers.newAttemptId
    return requeue db input wp
  else .ok db

/-! ## `overrideWorkPackagePriority` (lines 230–310) -/

structure OverrideInput where
  workPackageId : ℕ
  effectivePriority : PackagePriority
  reason : String
  expectedVersion : ℕ

def loadForOverride (db : WorkDb) (input : OverrideInput) (ctx : TenantContext) :
    Except ApiError WorkPackage := do
  require (isFounder ctx) (.permissionDenied "Missing authority for workforce.priority.override")
  require (trimmed input.reason ≠ "")
    (.invalidArgument "reason is required for a priority override")
  let wp ← db.packageOf input.workPackageId ctx.workspaceId
  require (wp.version = input.expectedVersion) (staleVersion input.expectedVersion wp.version)
  return wp

theorem loadForOverride_eq_ok {input : OverrideInput} (h : loadForOverride db input ctx = .ok wp) :
    db.packages.get? input.workPackageId = some wp ∧ wp.version = input.expectedVersion := by
  have h := of_require h
  have h := of_require h
  obtain ⟨wp', hwp, h⟩ := bind_eq_ok.mp h
  obtain ⟨hversion, h⟩ := require_bind_eq_ok.mp h
  cases h
  exact ⟨packageOf_eq_ok hwp, hversion⟩

/-- The columns of the conditional update. -/
def OverrideInput.set (input : OverrideInput) (wp row : WorkPackage) : WorkPackage :=
  { row with
    effectivePriority := input.effectivePriority
    priorityReason := some input.reason
    version := wp.version + 1 }

def overrideWrites (db : WorkDb) (input : OverrideInput) (ctx : TenantContext)
    (wp : WorkPackage) : Except ApiError WorkDb := do
  require (db.unchanged wp) changedConcurrently
  let event : PriorityEvent :=
    ⟨wp.id, ctx.workforceMemberId, wp.requestedPriority, wp.effectivePriority,
      input.effectivePriority, input.reason⟩
  return ({ db.updatePackage wp.id (input.set wp) with
    priorityEvents := db.priorityEvents ++ [event] } : WorkDb).append
    ⟨wp.id, "work_package.reprioritized", none, some input.reason⟩

/-! ## `runReviewEscalationSweep` (lines 318–370) -/

/-- The packages whose review is overdue. -/
def overduePackages (db : WorkDb) (now : ℤ) (workspaceId : Option ℕ) : List WorkPackage :=
  db.packages.values.filter fun wp => wp.status = .pendingManagerReview &&
    wp.reviewDueAt.any (· < now) && workspaceId.all (· = wp.workspaceId)

/-- The loop over them: a package that has changed is passed over. -/
def escalate (db : WorkDb) (wp : WorkPackage) : WorkDb :=
  if db.unchanged wp then
    ((db.updatePackage wp.id fun row =>
      { row with status := .escalatedToFounder, version := wp.version + 1 }).append
      ⟨wp.id, "review.overdue", none, none⟩).signal
      "operating.work_package.review_overdue.v1" wp.id
  else db

/-! ## `markValidationPassed` (lines 373–386) -/

def markValidationPassed (db : WorkDb) (id : ℕ) (reviewDueAt : ℤ) (ctx : TenantContext) : WorkDb :=
  match db.packageOf id ctx.workspaceId with
  | .ok _ => db.updatePackage id fun row =>
      { row with status := .pendingManagerReview, reviewDueAt := some reviewDueAt }
  | .error _ => db

end JavisSaas.Company.Operations
