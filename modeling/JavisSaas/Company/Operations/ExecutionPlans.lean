import JavisSaas.Lib.Dict
import JavisSaas.Lib.CycleSearch
import JavisSaas.Company.Finance.Money
import JavisSaas.Company.Operations.AutonomyClassifier

/-!
# Execution plans

`services/company/operations/services/execution-plan.service.ts`. Each function here is one query,
or the writes of one transaction; the identifiers, the clock, the policies of the workspace and its
members are answers. Refused access, done criteria and the state of the decomposition are left out.

* `acc_of_assertNoCycles`: items that pass the check have no cycle of dependencies.
-/

namespace JavisSaas.Company.Operations

open JavisSaas.Lib

/-! ## The tables -/

inductive PlanStatus
  | draft
  | accepted
  | superseded
  | rejected
  deriving DecidableEq

def PlanStatus.text : PlanStatus → String
  | draft => "draft"
  | accepted => "accepted"
  | superseded => "superseded"
  | rejected => "rejected"

inductive ItemStatus
  | proposed
  | accepted
  | dropped
  deriving DecidableEq

inductive Priority
  | low
  | medium
  | high
  | urgent
  deriving DecidableEq

inductive PlanOrigin
  | commandCenter
  | chat

inductive ExecutionMode
  | agent
  | human

structure ExecutionPlan where
  id : ℕ
  workspaceId : ℕ
  projectId : ℕ
  weeklyPlanId : Option ℕ
  goalText : String
  status : PlanStatus := .draft
  origin : PlanOrigin
  originRef : Option String
  runId : Option String
  acceptedByMemberId : Option ℕ := none
  acceptedAt : Option ℤ := none
  deletedAt : Option ℤ := none

structure ExecutionPlanItem where
  id : ℕ
  planId : ℕ
  workspaceId : ℕ
  title : String
  decisionReason : String
  evidenceRefs : List String
  ownerAgentProfile : Option String
  expectedCapability : Option String
  autonomyClass : AutonomyClass
  autonomyClassSource : AutonomyClassSource
  priority : Priority
  dependsOnItemIds : List ℕ := []
  sortKey : ℕ
  materializedTaskId : Option ℕ := none
  status : ItemStatus := .proposed
  deriving DecidableEq

structure WeeklyPlan where
  workspaceId : ℕ
  projectId : ℕ

structure WeeklyCommitment where
  id : ℕ
  workspaceId : ℕ
  projectId : ℕ
  weeklyPlanId : ℕ
  initiativeId : Option ℕ
  /-- `commitmentOwnerType` is `FOUNDER`. -/
  ofFounder : Bool
  executionMode : ExecutionMode

/-- A task that was made of an item: `status` is `todo`, `source` is `ai_agent_proposal`. -/
structure Task where
  id : ℕ
  workspaceId : ℕ
  projectId : ℕ
  title : String
  priority : Priority
  weeklyCommitmentId : ℕ
  initiativeId : Option ℕ
  assigneeMemberId : Option ℕ
  executionMode : ExecutionMode

structure TaskDependency where
  taskId : ℕ
  dependsOnTaskId : ℕ
  deletedAt : Option ℤ := none
  deriving DecidableEq

/-- The event `EXECUTION_PLAN_ACCEPTED`. -/
structure PlanAccepted where
  workspaceId : ℕ
  projectId : ℕ
  planId : ℕ
  taskIds : List ℕ

structure PlanDb where
  /-- The workspace of every project. -/
  projects : Dict ℕ ℕ := ∅
  weeklyPlans : Dict ℕ WeeklyPlan := ∅
  plans : Dict ℕ ExecutionPlan := ∅
  items : Dict ℕ ExecutionPlanItem := ∅
  commitments : List WeeklyCommitment := []
  tasks : List Task := []
  dependencies : List TaskDependency := []
  outbox : List PlanAccepted := []

/-- What the environment answers to a step. -/
structure PlanAnswers where
  now : ℤ := 0
  /-- The identifier of a new plan, or of a new commitment. -/
  newId : ℕ := 0
  /-- The identifiers of new items. -/
  itemIds : ℕ → ℕ := id
  newTaskId : ℕ := 0
  /-- The rows of `workspace_capability_policy`. -/
  policy : String → Option TenantPolicyDecision := fun _ => none
  /-- `resolveFounderMemberId`. -/
  founderMemberId : Option ℕ := none
  /-- `ensureAiWorkforceMember`. -/
  aiMemberId : ℕ := 0

def trimmed (s : String) : String := String.ofList (Finance.trim s)

/-- `s.length`, in units of UTF-16. -/
def utf16Length (s : String) : ℕ := (s.toList.map fun c => if c.toNat < 0x10000 then 1 else 2).sum

/-! ## `createExecutionPlanService` (lines 183–343) -/

structure CreatePlanItemInput where
  title : String
  decisionReason : String
  evidenceRefs : List String := []
  suggestedDomain : Option String := none
  expectedCapability : Option String := none
  capabilityRisk : Option CapabilityRisk := none
  tenantPolicyDecision : Option TenantPolicyDecision := none
  dependsOnTitles : List String := []
  priority : Option Priority := none

structure CreateExecutionPlanInput where
  workspaceId : ℕ
  projectId : ℕ
  weeklyPlanId : Option ℕ
  goalText : String
  origin : PlanOrigin := .commandCenter
  originRef : Option String := none
  runId : Option String := none
  items : List CreatePlanItemInput

/-- As `uix_execution_plans_one_draft_per_weekly_plan` sees it. -/
def ExecutionPlan.isDraftOf (weeklyPlanId : ℕ) (p : ExecutionPlan) : Bool :=
  p.weeklyPlanId = some weeklyPlanId && p.status = .draft && p.deletedAt.isNone

/-- The drafts that a new plan replaces (lines 204–215). -/
def replaced (input : CreateExecutionPlanInput) (p : ExecutionPlan) : Bool :=
  input.weeklyPlanId.any fun w => p.isDraftOf w && p.workspaceId = input.workspaceId

def supersede (input : CreateExecutionPlanInput) (plans : Dict ℕ ExecutionPlan) :
    Dict ℕ ExecutionPlan :=
  plans.mapValues fun _ p => if replaced input p then { p with status := .superseded } else p

def newPlan (input : CreateExecutionPlanInput) (goalText : String) (id : ℕ) : ExecutionPlan where
  id
  workspaceId := input.workspaceId
  projectId := input.projectId
  weeklyPlanId := input.weeklyPlanId
  goalText
  origin := input.origin
  originRef := input.originRef
  runId := input.runId

def checkItem (it : CreatePlanItemInput) : Except ApiError Unit := do
  require (trimmed it.title ≠ "") (.invalidArgument "item.title không được rỗng")
  require (5 ≤ utf16Length (trimmed it.decisionReason))
    (.invalidArgument
      ("item \"" ++ trimmed it.title ++ "\": decisionReason tối thiểu 5 ký tự"))

/-- What an item is classified by: the policy of the workspace goes before that of the input. -/
def classifyInput (policy : String → Option TenantPolicyDecision) (it : CreatePlanItemInput) :
    ClassifyInput where
  expectedCapability := it.expectedCapability
  capabilityRisk := it.capabilityRisk
  tenantPolicyDecision :=
    ((it.expectedCapability.filter (· ≠ "")).bind policy).or it.tenantPolicyDecision

section Create

variable (keywords : OwnerAgentProfile → String → Bool)

/-- Pass 1, item number `idx` (lines 269–322). -/
def newItem (input : CreateExecutionPlanInput) (answers : PlanAnswers) (idx : ℕ)
    (it : CreatePlanItemInput) : ExecutionPlanItem :=
  let c := classifyItem (classifyInput answers.policy it)
  { id := answers.itemIds idx
    planId := answers.newId
    workspaceId := input.workspaceId
    title := trimmed it.title
    decisionReason := trimmed it.decisionReason
    evidenceRefs := it.evidenceRefs
    ownerAgentProfile :=
      if c.1 = .founderOnly then none
      else (routeOwnerProfile keywords it.expectedCapability it.suggestedDomain).map (·.text)
    expectedCapability := it.expectedCapability
    autonomyClass := c.1
    autonomyClassSource := c.2
    priority := it.priority.getD .medium
    sortKey := idx }

/-- Pass 2 (lines 324–340): a title that two items share means the later one. -/
def withDependencies (rows : List ExecutionPlanItem) (it : CreatePlanItemInput)
    (row : ExecutionPlanItem) : ExecutionPlanItem :=
  let titleToId := (rows.map fun r => (r.title, r.id)).reverse
  { row with dependsOnItemIds := it.dependsOnTitles.filterMap fun t => titleToId.lookup (trimmed t) }

/-- The items of a new plan. -/
def newItems (input : CreateExecutionPlanInput) (answers : PlanAnswers) : List ExecutionPlanItem :=
  let rows := input.items.mapIdx (newItem keywords input answers)
  List.zipWith (withDependencies rows) input.items rows

def createExecutionPlanService (db : PlanDb) (input : CreateExecutionPlanInput)
    (answers : PlanAnswers) : Except ApiError PlanDb := do
  let goalText := trimmed input.goalText
  require (goalText ≠ "") (.invalidArgument "goalText không được rỗng")
  require (input.items ≠ []) (.invalidArgument "plan phải có ít nhất 1 item")
  require (db.projects.get? input.projectId = some input.workspaceId)
    (.notFound ("project " ++ toString input.projectId ++ " not found"))
  let plans := supersede input db.plans
  require (plans.values.all fun p => !input.weeklyPlanId.any p.isDraftOf)
    ⟨"unique_violation", "uix_execution_plans_one_draft_per_weekly_plan"⟩
  input.items.forM checkItem
  let items := newItems keywords input answers
  require (plans.get? answers.newId = none ∧ (items.map (·.id)).Nodup ∧
    ∀ it ∈ items, db.items.get? it.id = none) ⟨"unique_violation", "primary key"⟩
  return { db with
    plans := plans.set answers.newId (newPlan input goalText answers.newId)
    items := db.items.update (items.map fun it => (it.id, it)) }

end Create

/-! ## `patchExecutionPlanItemService` (lines 495–570) -/

structure PatchPlanItemInput where
  title : Option String := none
  evidenceRefs : Option (List String) := none
  priority : Option Priority := none
  autonomyClass : Option AutonomyClass := none
  /-- `some none` is `null`. -/
  ownerAgentProfile : Option (Option String) := none
  drop : Bool := false

structure PatchParams where
  planId : ℕ
  itemId : ℕ
  workspaceId : ℕ
  patch : PatchPlanItemInput

/-- The first query of a patch: the plan, which must be a draft. -/
def patchablePlan (db : PlanDb) (p : PatchParams) : Except ApiError ExecutionPlan := do
  match (db.plans.get? p.planId).filter fun plan => plan.workspaceId = p.workspaceId with
  | none => .error (.notFound ("execution plan " ++ toString p.planId ++ " not found"))
  | some plan =>
    require (plan.status = .draft)
      (.failedPrecondition "chỉ sửa được item khi plan còn ở trạng thái draft")
    return plan

/-- The columns that a patch sets. -/
def PatchPlanItemInput.apply (c : PatchPlanItemInput) (it : ExecutionPlanItem) :
    ExecutionPlanItem :=
  { it with
    title := c.title.getD it.title
    evidenceRefs := c.evidenceRefs.getD it.evidenceRefs
    priority := c.priority.getD it.priority
    ownerAgentProfile := c.ownerAgentProfile.getD it.ownerAgentProfile
    autonomyClass := c.autonomyClass.getD it.autonomyClass
    autonomyClassSource := if c.autonomyClass.isSome then .founderOverride else it.autonomyClassSource
    status := if c.drop then .dropped else it.status }

/-- Whether the founder may make the item `AUTO` (lines 543–558). -/
def checkAuto (it : ExecutionPlanItem) : Except ApiError Unit := do
  require (it.autonomyClassSource ≠ .tenantPolicy) (.permissionDenied
    "Chính sách workspace không cho phép AUTO cho capability này — đổi chính sách trước")
  match validateFounderOverride .auto ⟨it.expectedCapability, none, some .allow⟩ with
  | some reason => .error (.permissionDenied reason)
  | none => return ()

/-- The class that a patch gives to an item, if it is another one. -/
def PatchPlanItemInput.newClass (patch : PatchPlanItemInput) (it : ExecutionPlanItem) :
    Option AutonomyClass := patch.autonomyClass.filter (· ≠ it.autonomyClass)

def checkNewClass (patch : PatchPlanItemInput) (it : ExecutionPlanItem) : Except ApiError Unit :=
  if patch.newClass it = some .auto then checkAuto it else .ok ()

/-- The second query of a patch: the item, and what is set in it. -/
def patchChanges (db : PlanDb) (p : PatchParams) : Except ApiError PatchPlanItemInput := do
  match (db.items.get? p.itemId).filter fun it => it.planId = p.planId with
  | none => .error (.notFound ("plan item " ++ toString p.itemId ++ " not found"))
  | some it =>
    require (p.patch.title.map trimmed ≠ some "") (.invalidArgument "title không được rỗng")
    checkNewClass p.patch it
    return { p.patch with
      title := p.patch.title.map trimmed, autonomyClass := p.patch.newClass it }

/-- The write of a patch, by the identifier of the item alone. -/
def writePatch (db : PlanDb) (itemId : ℕ) (c : PatchPlanItemInput) : PlanDb :=
  match db.items.get? itemId with
  | some it => { db with items := db.items.set itemId (c.apply it) }
  | none => db

/-! ## `rejectExecutionPlanService` (lines 927–948) -/

structure RejectParams where
  planId : ℕ
  workspaceId : ℕ

def rejectExecutionPlanService (db : PlanDb) (p : RejectParams) : Except ApiError PlanDb :=
  match (db.plans.get? p.planId).filter fun plan =>
    plan.workspaceId = p.workspaceId ∧ plan.status = .draft with
  | some plan =>
    .ok { db with plans := db.plans.set p.planId { plan with status := .rejected } }
  | none => .error (.failedPrecondition "plan không tồn tại hoặc không ở trạng thái draft")

/-! ## `acceptExecutionPlanService` (lines 622–848) -/

structure AcceptParams where
  planId : ℕ
  workspaceId : ℕ
  /-- An initiative of the workspace. -/
  initiativeId : Option ℕ := none

/-- The plan, which must be a draft of a weekly plan. -/
def acceptablePlan (db : PlanDb) (p : AcceptParams) : Except ApiError ExecutionPlan := do
  match (db.plans.get? p.planId).filter fun plan => plan.workspaceId = p.workspaceId with
  | none => .error (.notFound ("execution plan " ++ toString p.planId ++ " not found"))
  | some plan =>
    require (plan.status = .draft)
      (.failedPrecondition ("plan không ở trạng thái draft (hiện: " ++ plan.status.text ++ ")"))
    require plan.weeklyPlanId.isSome (.failedPrecondition
      "plan chưa gắn weekly_plan — đặt mục tiêu tuần trước khi duyệt kế hoạch")
    return plan

/-- The project of the weekly plan. -/
def weeklyPlanProject (db : PlanDb) (p : AcceptParams) (plan : ExecutionPlan) :
    Except ApiError ℕ :=
  let weeklyPlanId := plan.weeklyPlanId.getD 0
  match (db.weeklyPlans.get? weeklyPlanId).filter fun w => w.workspaceId = p.workspaceId with
  | some w => .ok w.projectId
  | none => .error (.notFound ("weekly plan " ++ toString weeklyPlanId ++ " not found"))

/-- The items of a plan that are not dropped. -/
def liveItems (db : PlanDb) (planId : ℕ) : List ExecutionPlanItem :=
  db.items.values.filter fun it => it.planId = planId && it.status ≠ .dropped

/-- The dependencies of an item among the items; those on dropped items are passed over. -/
def itemDeps (items : List ExecutionPlanItem) (id : ℕ) : List ℕ :=
  ((items.find? fun it => it.id = id).elim [] (·.dependsOnItemIds)).filter
    (· ∈ items.map (·.id))

def assertNoCycles (items : List ExecutionPlanItem) : Except ApiError Unit :=
  match cycleSearch (itemDeps items) (items.map (·.id)) with
  | .ok _ => .ok ()
  | .error path => .error (.invalidArgument
    ("circular dependency: " ++ " -> ".intercalate (path.map toString)))

/-- The items from which tasks are made. -/
def acceptableItems (db : PlanDb) (plan : ExecutionPlan) :
    Except ApiError (List ExecutionPlanItem) := do
  let items := liveItems db plan.id
  require (items ≠ [])
    (.invalidArgument "plan không còn item nào để duyệt (tất cả đã bỏ)")
  assertNoCycles items
  return items

/-- `EXECUTION_MODE_BY_CLASS`. -/
def AutonomyClass.executionMode : AutonomyClass → ExecutionMode
  | auto => .agent
  | needsApproval => .agent
  | founderOnly => .human

/-- What an acceptance makes of an item. -/
structure Made where
  item : ExecutionPlanItem
  commitment : WeeklyCommitment
  task : Task

/-- What an acceptance has read before it writes. -/
structure Acceptance where
  params : AcceptParams
  plan : ExecutionPlan
  projectId : ℕ
  items : List ExecutionPlanItem
  founderMemberId : Option ℕ

/-- The agent that takes an item; `none` for an item of the founder. -/
def agentProfile (it : ExecutionPlanItem) : Option String :=
  if it.autonomyClass = .founderOnly then none else some (it.ownerAgentProfile.getD "operations")

/-- The body of the loop over the items (lines 706–754); `assignee` is the member that takes
    the task. -/
def makeItem (a : Acceptance) (it : ExecutionPlanItem) (assignee : Option ℕ)
    (answers : PlanAnswers) : Made :=
  let commitment : WeeklyCommitment :=
    { id := answers.newId
      workspaceId := a.params.workspaceId
      projectId := a.projectId
      weeklyPlanId := a.plan.weeklyPlanId.getD 0
      initiativeId := a.params.initiativeId
      ofFounder := it.autonomyClass = .founderOnly
      executionMode := it.autonomyClass.executionMode }
  { item := it
    commitment
    task :=
      { id := answers.newTaskId
        workspaceId := a.params.workspaceId
        projectId := a.projectId
        title := it.title
        priority := it.priority
        weeklyCommitmentId := commitment.id
        initiativeId := commitment.initiativeId
        assigneeMemberId := assignee
        executionMode := it.autonomyClass.executionMode } }

/-- The new edges between the tasks (lines 779–791). -/
def newEdges (made : List Made) : List TaskDependency :=
  made.flatMap fun m => m.item.dependsOnItemIds.filterMap fun dep =>
    (made.find? fun m' => m'.item.id = dep).map fun m' => ⟨m.task.id, m'.task.id, none⟩

/-- The dependencies of the tasks of a workspace that there are (lines 760–764). -/
def existingDeps (db : PlanDb) (workspaceId : ℕ) : List TaskDependency :=
  db.dependencies.filter fun d =>
    d.deletedAt.isNone && db.tasks.any fun t => t.id = d.taskId && t.workspaceId = workspaceId

/-- No cycle of tasks (lines 793–808): the error names the task met again. Tasks without
dependencies come last. -/
def assertNoTaskCycles (edges : List TaskDependency) : Except ApiError Unit :=
  let deps (task : ℕ) : List ℕ := (edges.filter (·.taskId = task)).map (·.dependsOnTaskId)
  let nodes := (edges.map (·.taskId) ++ edges.map (·.dependsOnTaskId)).eraseDups
  match cycleSearch deps nodes with
  | .ok _ => .ok ()
  | .error path => .error (.invalidArgument
    ("circular task dependency involving " ++ path.getLast?.elim "" toString))

/-- The columns that the loop sets in an item. -/
def markAccepted (taskId : ℕ) (it : ExecutionPlanItem) : ExecutionPlanItem :=
  { it with materializedTaskId := some taskId, status := .accepted }

def acceptItem (items : Dict ℕ ExecutionPlanItem) (m : Made) : Dict ℕ ExecutionPlanItem :=
  match items.get? m.item.id with
  | some it => items.set m.item.id (markAccepted m.task.id it)
  | none => items

/-- The columns that the end of an acceptance sets, whatever the status is. -/
def acceptPlan (a : Acceptance) (now : ℤ) (plan : ExecutionPlan) : ExecutionPlan :=
  { plan with
    status := .accepted
    acceptedByMemberId := a.founderMemberId
    acceptedAt := some now }

/-- The writes of an acceptance. -/
def acceptWrites (db : PlanDb) (a : Acceptance) (made : List Made) (now : ℤ) : PlanDb :=
  { db with
    plans := db.plans.mapValues fun id plan =>
      if id = a.plan.id then acceptPlan a now plan else plan
    items := made.foldl acceptItem db.items
    commitments := db.commitments ++ made.map (·.commitment)
    tasks := db.tasks ++ made.map (·.task)
    dependencies := db.dependencies ++ newEdges made
    outbox := db.outbox ++
      [⟨a.params.workspaceId, a.plan.projectId, a.plan.id, made.map (·.task.id)⟩] }

theorem acc_of_assertNoCycles {items : List ExecutionPlanItem} {u : Unit}
    (h : assertNoCycles items = .ok u) {it : ExecutionPlanItem} (hit : it ∈ items) :
    Acc (DepOf (itemDeps items)) it.id := by
  unfold assertNoCycles at h
  split at h
  · next m hm => exact acc_of_cycleSearch hm _ (List.mem_map_of_mem hit)
  · nomatch h

end JavisSaas.Company.Operations
