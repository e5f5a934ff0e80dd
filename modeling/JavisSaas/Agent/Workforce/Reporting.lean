import JavisSaas.Lib.Dict
import JavisSaas.Lib.Fallible
import JavisSaas.Lib.Transition

/-!
# Reporting lines

`packages/agent/workforce/reporting.py`, the assignments of the two repositories in
`packages/agent/workforce/repository.py`, and `escalate` of `wakeup_service.py`. The workspace lock
makes a creation one step; the constraints of the table on a manager say what the check says.
-/

namespace JavisSaas.Agent.Workforce

open JavisSaas.Lib

/-! ## `reporting.py` -/

def maxReportingDepth : ℕ := 8

/-- `(reports_to_assignment_id, status)` -/
structure ReportingNode where
  reportsTo : Option String
  status : String

abbrev ReportingNodes := Dict String ReportingNode

structure ReportingLineError where
  code : String
  message : String

/-- `node[0] if node else None` -/
def ReportingNodes.parentOf (nodes : ReportingNodes) (id : String) : Option String :=
  (nodes.get? id).bind (·.reportsTo)

def ReportingNodes.isActive (nodes : ReportingNodes) (id : String) : Bool :=
  (nodes.get? id).any (·.status = "ACTIVE")

/-- The loop of `check_reporting_line`; `links` is how much deeper the line may get. -/
def checkAncestors (nodes : ReportingNodes) (links : ℕ) (seen : List String) (current : String) :
    Except ReportingLineError Unit :=
  if current ∈ seen then .error ⟨"cycle", "reporting line would create a cycle"⟩
  else
    match nodes.parentOf current with
    | none => .ok ()
    | some next =>
      match links with
      | 0 => .error ⟨"depth_exceeded", s!"reporting line deeper than {maxReportingDepth}"⟩
      | links + 1 => checkAncestors nodes links (current :: seen) next

def checkReportingLine (nodes : ReportingNodes) (assignmentId : String) (parentId : Option String) :
    Except ReportingLineError Unit :=
  match parentId with
  | none => .ok ()
  | some parentId => do
    require (parentId ≠ assignmentId) ⟨"self_reference", "an assignment cannot report to itself"⟩
    require (nodes.get? parentId).isSome ⟨"parent_not_found", s!"manager {parentId} not found"⟩
    require (nodes.isActive parentId) ⟨"parent_not_active", s!"manager {parentId} is not ACTIVE"⟩
    -- The link to the manager is the first of them.
    checkAncestors nodes (maxReportingDepth - 1) [assignmentId] parentId

/-- The loop of `manager_chain`. -/
def activeAncestors (nodes : ReportingNodes) : ℕ → List String → Option String → List String
  | 0, _, _ => []
  | _ + 1, _, none => []
  | hops + 1, seen, some current =>
    if current ∈ seen ∨ !nodes.isActive current then []
    else current :: activeAncestors nodes hops (current :: seen) (nodes.parentOf current)

def managerChain (nodes : ReportingNodes) (assignmentId : String)
    (maxHops : ℕ := maxReportingDepth) : List String :=
  activeAncestors nodes maxHops [assignmentId] (nodes.parentOf assignmentId)

/-! ## Assignments -/

/-- What is unique of an assignment. -/
structure AssignmentKey where
  workspaceId : String
  functionalKey : String
  specId : String
  specVersion : String
  definitionHash : String
  deriving DecidableEq

structure WorkforceAssignmentRecord where
  assignmentId : String
  key : AssignmentKey
  reportsToAssignmentId : Option String
  status : String := "ACTIVE"
  agentInstanceId : Option String := none

/-- The assignments of all workspaces, by their id. -/
abbrev Assignments := Dict String WorkforceAssignmentRecord

/-- `_nodes_of` of the assignments of a workspace. -/
def nodesOf (rows : Assignments) (workspaceId : String) : ReportingNodes :=
  Dict.update ∅ <| (rows.values.filter (·.key.workspaceId = workspaceId)).map fun r =>
    (r.assignmentId, ⟨r.reportsToAssignmentId, r.status⟩)

structure CreateAssignmentInput where
  key : AssignmentKey
  reportsToAssignmentId : Option String := none
  assignmentId : Option String := none
  agentInstanceId : Option String := none

inductive WorkforceError
  | employeeNotAssignable (message : String)
  | reportingLine (error : ReportingLineError)
  | uniqueViolation

namespace CreateAssignmentInput

variable (input : CreateAssignmentInput)

/-- The employee has to be active; `status` is the one that `get_employee` finds. -/
def checkEmployee (status : Option String) : Except WorkforceError Unit :=
  match input.agentInstanceId with
  | none => .ok ()
  | some id => require (status = some "ACTIVE") (.employeeNotAssignable
      s!"employee '{id}' is not an ACTIVE workforce employee in workspace '{input.key.workspaceId}'")

def record (assignmentId : String) : WorkforceAssignmentRecord where
  assignmentId
  key := input.key
  reportsToAssignmentId := input.reportsToAssignmentId
  agentInstanceId := input.agentInstanceId

/-- An assignment that is created again is active, under the new manager. -/
def updated (existing : WorkforceAssignmentRecord) : WorkforceAssignmentRecord where
  assignmentId := existing.assignmentId
  key := input.key
  reportsToAssignmentId := input.reportsToAssignmentId
  agentInstanceId := input.agentInstanceId.or existing.agentInstanceId

/-- The row with the unique key, if there is one. -/
def existing (rows : Assignments) : Option WorkforceAssignmentRecord :=
  rows.values.find? (·.key = input.key)

def effectiveId (rows : Assignments) (newId : String) : String :=
  match input.existing rows with
  | some row => row.assignmentId
  | none => input.assignmentId.getD newId

/-- The checks that both repositories make, with the lock of the workspace. -/
def check (rows : Assignments) (employeeStatus : Option String) (newId : String) :
    Except WorkforceError Unit := do
  input.checkEmployee employeeStatus
  (checkReportingLine (nodesOf rows input.key.workspaceId) (input.effectiveId rows newId)
    input.reportsToAssignmentId).mapError .reportingLine

end CreateAssignmentInput

/-- `PostgresWorkforceRepository.create_assignment`; the insert meets the primary key. -/
def createAssignmentPostgres (rows : Assignments) (input : CreateAssignmentInput)
    (employeeStatus : Option String) (newId : String) : Except WorkforceError Assignments := do
  input.check rows employeeStatus newId
  match input.existing rows with
  | some row => return rows.set row.assignmentId (input.updated row)
  | none =>
    let id := input.assignmentId.getD newId
    require (rows.get? id = none) .uniqueViolation
    return rows.set id (input.record id)

/-- `InMemoryWorkforceRepository.create_assignment`; a record with the same id is replaced. -/
def createAssignmentInMemory (rows : Assignments) (input : CreateAssignmentInput)
    (employeeStatus : Option String) (newId : String) : Except WorkforceError Assignments := do
  input.check rows employeeStatus newId
  match input.existing rows with
  | some row => return rows.set row.assignmentId (input.updated row)
  | none =>
    let id := input.effectiveId rows newId
    return rows.set id (input.record id)

/-- `retire_assignment` of both. -/
def retireAssignment (rows : Assignments) (workspaceId assignmentId : String) : Assignments :=
  match (rows.get? assignmentId).filter (·.key.workspaceId = workspaceId) with
  | some row => rows.set assignmentId { row with status := "RETIRED" }
  | none => rows

/-! ## The two repositories as systems -/

inductive WorkforceRepository
  | postgres
  | inMemory
  deriving DecidableEq

def WorkforceRepository.createAssignment : WorkforceRepository → Assignments →
    CreateAssignmentInput → Option String → String → Except WorkforceError Assignments
  | postgres => createAssignmentPostgres
  | inMemory => createAssignmentInMemory

inductive AssignmentOp
  | create (input : CreateAssignmentInput) (employeeStatus : Option String) (newId : String)
  | retire (workspaceId assignmentId : String)

/-- A creation that fails changes nothing. -/
def WorkforceRepository.next (repository : WorkforceRepository) (rows : Assignments) :
    AssignmentOp → Option Assignments
  | .create input employeeStatus newId =>
    some ((repository.createAssignment rows input employeeStatus newId).toOption.getD rows)
  | .retire workspaceId assignmentId => some (retireAssignment rows workspaceId assignmentId)

def WorkforceRepository.system (repository : WorkforceRepository) :
    System Assignments AssignmentOp :=
  ⟨repository.next⟩

/-! ## Escalation -/

structure WakeOutcome where
  status : String
  reason : Option String := none
  deriving DecidableEq

def eligibilityReasons : List String := ["assignment_not_found", "assignment_not_active",
  "employee_not_active", "no_executable_profile", "autonomy_below_minimum"]

/-- The manager cannot be woken. -/
def WakeOutcome.Ineligible (o : WakeOutcome) : Prop :=
  o.status = "suppressed" ∧ ∃ reason ∈ o.reason, reason ∈ eligibilityReasons
deriving Decidable

/-- `WakeupService.escalate` with `next_escalation_target`, once the flag is on and the id is a
UUID; `request` is what `request_wakeup` answers. -/
def escalate (nodes : ReportingNodes) (hopCap : ℕ) (request : String → ℕ → WakeOutcome)
    (current : String) (hop : ℕ) : WakeOutcome :=
  if hopCap ≤ hop then ⟨"operator", some "hop_cap_reached"⟩
  else
    match managerChain nodes current 1 with
    | [] => ⟨"operator", some "no_manager"⟩
    | manager :: _ =>
      if (request manager (hop + 1)).Ineligible then
        escalate nodes hopCap request manager (hop + 1)
      else request manager (hop + 1)
termination_by hopCap - hop

end JavisSaas.Agent.Workforce
