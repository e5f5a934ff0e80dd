import JavisSaas.Lib.Calls
import JavisSaas.Company.Operations.WorkPackages

/-!
# The confirmation of outcome contracts

A confirmation reads its draft before its transaction; what the transaction writes nobody sees until
it commits, but it locks the rows that it updates, and another one that updates them waits. What it
supersedes are the contracts that were committed as confirmed when it looked.
-/

namespace JavisSaas.Company.Operations

open JavisSaas.Lib

/-! ## Tables and inputs -/

structure ProposalInput where
  workspaceId : ℕ
  taskId : ℕ

structure InitialPackage where
  assignedAgentInstanceId : String
  objective : String
  outputContract : List (String × String)
  acceptanceRubric : List (String × ℤ)
  requestedPriority : Option PackagePriority := none

structure ConfirmInput where
  proposalTaskId : ℕ
  draftContractId : ℕ
  initialPackage : InitialPackage
  expectedVersion : ℕ
  idempotencyKey : String

structure CreateTaskInput where
  initialPackage : InitialPackage
  idempotencyKey : String

structure ContractAnswers extends WorkAnswers where
  newTaskId : ℕ := 0

def InitialPackage.input (p : InitialPackage) (taskId outcomeContractId : ℕ) (key : String)
    (requestedByManagerId : Option ℕ) : PackageInput where
  taskId
  outcomeContractId
  assignedAgentInstanceId := p.assignedAgentInstanceId
  requestedPriority := p.requestedPriority.getD .p1
  objective := p.objective
  outputContract := p.outputContract
  acceptanceRubric := p.acceptanceRubric
  idempotencyKey := some key
  requestedByManagerId

/-- How far the transaction of a confirmation is. -/
inductive ConfirmPhase
  /-- The new contract is inserted. -/
  | inserted
  /-- The draft is superseded. -/
  | draftLocked
  /-- The contracts were found that are to be superseded. -/
  | superseding (rest : List ℕ)
  deriving DecidableEq

/-- A confirmation in its transaction. -/
structure Confirmation where
  input : ConfirmInput
  ctx : TenantContext
  draft : OutcomeContract
  /-- The contracts that it has superseded. -/
  locked : List ℕ := []
  phase : ConfirmPhase := .inserted

/-- What the contract of a package was when the package was created. -/
structure QueueRecord where
  packageId : ℕ
  outcomeContractId : ℕ
  wasConfirmed : Bool

/-- The tables, and the transactions by the identifiers of their new contracts. -/
structure ContractStore where
  db : WorkDb
  confirming : Dict ℕ Confirmation := ∅
  queued : List QueueRecord := []

def newContract (workspaceId taskId id : ℕ) (status : ContractStatus) : OutcomeContract where
  id
  workspaceId
  taskId
  revision := 1
  status

/-- The contract that a confirmation inserts. -/
def Confirmation.newContract (t : Confirmation) (id : ℕ) : OutcomeContract where
  id
  workspaceId := t.ctx.workspaceId
  taskId := t.input.proposalTaskId
  revision := t.draft.revision + 1
  status := .confirmed
  supersedesContractId := some t.input.draftContractId

/-- `insertContractRevision` (lines 238–302 of `task-outcome-contract.service.ts`). -/
def insertContractRevision (indexed : Bool) (db : WorkDb) (row : OutcomeContract)
    (answers : ContractAnswers) : Except ApiError WorkDb := do
  answers.contractCheck
  require (db.contracts.get? row.id = none) ⟨"unique_violation", "task_outcome_contracts"⟩
  require (indexed → ∀ c ∈ db.contracts.values,
      ¬(c.taskId = row.taskId ∧ c.revision = row.revision))
    ⟨"unique_violation", "uix_task_outcome_contracts_task_revision"⟩
  return { db with contracts := db.contracts.set row.id row }

def supersedeContract (contracts : Dict ℕ OutcomeContract) (id : ℕ) : Dict ℕ OutcomeContract :=
  match contracts.get? id with
  | some c => contracts.set id { c with status := .superseded }
  | none => contracts

/-- The last update of `confirmContractInTx`. -/
def activateContract (db : WorkDb) (taskId contractId : ℕ) : WorkDb :=
  match db.tasks.get? taskId with
  | some task => { db with tasks := db.tasks.set taskId { task with
      activeOutcomeContractId := some contractId
      status := "todo" } }
  | none => db

/-- A package was created, and its contract is what it is then. -/
def ContractStore.queue (s : ContractStore) (db : WorkDb) (packageId : ℕ) (input : PackageInput) :
    ContractStore :=
  { s with
    db
    queued := s.queued ++ [⟨packageId, input.outcomeContractId,
      (db.contracts.get? input.outcomeContractId).any fun c =>
        c.status = .confirmed && c.taskId = input.taskId⟩] }

/-! ## The transaction of a confirmation (lines 673–746) -/

namespace Confirmation

def taskId (t : Confirmation) : ℕ := t.input.proposalTaskId

/-- The row is locked by the transaction. -/
def holds (t : Confirmation) (id : ℕ) : Bool :=
  (t.phase ≠ .inserted && t.input.draftContractId = id) || id ∈ t.locked

/-- The contracts to supersede were looked for. -/
def looked (t : Confirmation) : Bool :=
  match t.phase with
  | .superseding _ => true
  | _ => false

/-- The row that the next statement updates, if it is one that others update. -/
def wants (t : Confirmation) : Option ℕ :=
  match t.phase with
  | .inserted => some t.input.draftContractId
  | .superseding (id :: _) => some id
  | _ => none

/-- The committed contracts of the task that are confirmed. -/
def confirmedContracts (t : Confirmation) (db : WorkDb) : List ℕ :=
  (db.contracts.values.filter fun c => c.taskId = t.taskId &&
    c.workspaceId = t.ctx.workspaceId && c.status = .confirmed).map (·.id)

/-- A row that another transaction has changed meanwhile is passed over. -/
def supersede (t : Confirmation) (db : WorkDb) (id : ℕ) (rest : List ℕ) : Confirmation :=
  { t with
    locked := if (db.contracts.get? id).any fun c => c.status = .confirmed then t.locked ++ [id]
      else t.locked
    phase := .superseding rest }

def packageInput (t : Confirmation) (contractId : ℕ) : PackageInput :=
  t.input.initialPackage.input t.taskId contractId t.input.idempotencyKey
    t.ctx.workforceMemberId

/-- The tables with what the transaction has written to contracts and to its task. -/
def written (t : Confirmation) (db : WorkDb) (contractId : ℕ) : WorkDb :=
  activateContract { db with
    contracts := ((t.input.draftContractId :: t.locked).foldl supersedeContract db.contracts).set
      contractId (t.newContract contractId) } t.taskId contractId

def commit (indexed : Bool) (t : Confirmation) (s : ContractStore) (contractId : ℕ)
    (answers : ContractAnswers) : Except ApiError ContractStore := do
  let db ← insertQueuedPackage indexed (t.written s.db contractId) t.ctx.workspaceId
    (t.packageInput contractId) answers.toWorkAnswers
  return { s.queue db answers.newId (t.packageInput contractId) with
    confirming := s.confirming.erase contractId }

/-- The next statement of the transaction, or the last update and the commit. -/
def perform (indexed : Bool) (t : Confirmation) (s : ContractStore) (contractId : ℕ)
    (answers : ContractAnswers) : Except ApiError (ContractStore × Bool) :=
  let goOn (t : Confirmation) : ContractStore × Bool :=
    ({ s with confirming := s.confirming.set contractId t }, true)
  match t.phase with
  | .inserted => .ok (goOn { t with phase := .draftLocked })
  | .draftLocked => .ok (goOn { t with phase := .superseding (t.confirmedContracts s.db) })
  | .superseding (id :: rest) => .ok (goOn (t.supersede s.db id rest))
  | .superseding [] => do
    let s ← t.commit indexed s contractId answers
    return (s, false)

end Confirmation

/-! ## The calls -/

inductive ContractRequest
  /-- `createTaskOutcomeProposal` -/
  | propose (input : ProposalInput) (ctx : TenantContext)
  /-- `createAiTaskProposalService` -/
  | proposeTask (ctx : TenantContext)
  /-- `confirmAiProposalAndQueue` -/
  | confirm (input : ConfirmInput) (ctx : TenantContext)
  /-- `createConfirmedTaskAndQueue` -/
  | createTask (input : CreateTaskInput) (ctx : TenantContext)
  /-- `createWorkPackage` -/
  | queue (input : PackageInput) (ctx : TenantContext)

inductive ContractCall
  | propose (input : ProposalInput) (ctx : TenantContext)
  /-- The task is there. -/
  | proposing (input : ProposalInput) (ctx : TenantContext)
  /-- The task has no contract. -/
  | inserting (input : ProposalInput) (ctx : TenantContext)
  | proposeTask (ctx : TenantContext)
  | confirm (input : ConfirmInput) (ctx : TenantContext)
  /-- The key is new. -/
  | checkDraft (input : ConfirmInput) (ctx : TenantContext)
  | confirming (input : ConfirmInput) (ctx : TenantContext) (draft : OutcomeContract)
  | running (contractId : ℕ)
  | createTask (input : CreateTaskInput) (ctx : TenantContext)
  | creatingTask (input : CreateTaskInput) (ctx : TenantContext)
  | queue (input : PackageInput) (ctx : TenantContext)
  /-- The key is new. -/
  | gate (input : PackageInput) (ctx : TenantContext)
  /-- The task may enter the queue. -/
  | checkContract (input : PackageInput) (ctx : TenantContext)
  | queueing (input : PackageInput) (ctx : TenantContext)

def ContractRequest.call : ContractRequest → ContractCall
  | propose input ctx => .propose input ctx
  | proposeTask ctx => .proposeTask ctx
  | confirm input ctx => .confirm input ctx
  | createTask input ctx => .createTask input ctx
  | queue input ctx => .queue input ctx

/-- An open transaction has inserted the identifier or, with the index, the task and revision. -/
def ContractStore.pends (indexed : Bool) (s : ContractStore) (row : OutcomeContract) : Bool :=
  s.confirming.items.any fun entry =>
    let own := entry.2.newContract entry.1
    own.id = row.id || (indexed && own.taskId = row.taskId && own.revision = row.revision)

/-- Another transaction holds the row. -/
def ContractStore.heldByOther (s : ContractStore) (contractId id : ℕ) : Bool :=
  s.confirming.items.any fun entry => entry.1 ≠ contractId && entry.2.holds id

namespace ContractCall

/-- The contract that the next step inserts. -/
def inserts (answers : ContractAnswers) : ContractCall → Option OutcomeContract
  | inserting input ctx =>
    some (newContract ctx.workspaceId input.taskId answers.newContractId .draft)
  | proposeTask ctx =>
    some (newContract ctx.workspaceId answers.newTaskId answers.newContractId .draft)
  | confirming input ctx draft =>
    some (Confirmation.newContract { input, ctx, draft } answers.newContractId)
  | creatingTask _ ctx =>
    some (newContract ctx.workspaceId answers.newTaskId answers.newContractId .confirmed)
  | _ => none

/-- The next statement has to wait for another transaction. -/
def waits (indexed : Bool) (s : ContractStore) (answers : ContractAnswers) (call : ContractCall) :
    Bool :=
  match call with
  | running contractId =>
    ((s.confirming.get? contractId).bind (·.wants)).any (s.heldByOther contractId)
  | _ => (call.inserts answers).any (s.pends indexed)

def taskOf (db : WorkDb) (taskId workspaceId : ℕ) : Except ApiError Unit :=
  require ((db.tasks.get? taskId).any fun t => t.workspaceId = workspaceId)
    (.notFound ("task " ++ toString taskId ++ " not found in workspace"))

/-- The draft that a confirmation reads. -/
def loadDraft (db : WorkDb) (input : ConfirmInput) (ctx : TenantContext) :
    Except ApiError OutcomeContract :=
  match (db.contracts.get? input.draftContractId).filter fun c =>
    c.workspaceId = ctx.workspaceId && c.taskId = input.proposalTaskId with
  | none => .error (.notFound "draft contract not found for proposal task in workspace")
  | some draft => do
    require (draft.status = .draft)
      (.failedPrecondition ("contract is " ++ draft.status.text ++ ", not DRAFT"))
    require (draft.version = input.expectedVersion)
      ⟨"aborted", "stale contract version: expected " ++ toString input.expectedVersion ++
        ", got " ++ toString draft.version⟩
    return draft

def insertTask (db : WorkDb) (id workspaceId : ℕ) (status : String) : Except ApiError WorkDb := do
  require (db.tasks.get? id = none) ⟨"unique_violation", "tasks"⟩
  return { db with tasks := db.tasks.set id { workspaceId, status } }

/-- A new task with its draft. -/
def proposeTaskWrites (indexed : Bool) (db : WorkDb) (ctx : TenantContext)
    (answers : ContractAnswers) : Except ApiError WorkDb := do
  let db ← insertTask db answers.newTaskId ctx.workspaceId "draft"
  insertContractRevision indexed db
    (newContract ctx.workspaceId answers.newTaskId answers.newContractId .draft) answers

def packageOfTask (input : CreateTaskInput) (ctx : TenantContext) (answers : ContractAnswers) :
    PackageInput :=
  input.initialPackage.input answers.newTaskId answers.newContractId input.idempotencyKey
    ctx.workforceMemberId

/-- A new task with its contract and its first package; no other contract of it is superseded. -/
def createTaskWrites (indexed : Bool) (db : WorkDb) (input : CreateTaskInput) (ctx : TenantContext)
    (answers : ContractAnswers) : Except ApiError WorkDb := do
  let db ← insertTask db answers.newTaskId ctx.workspaceId "todo"
  let db ← insertContractRevision indexed db
    (newContract ctx.workspaceId answers.newTaskId answers.newContractId .confirmed) answers
  insertQueuedPackage indexed (activateContract db answers.newTaskId answers.newContractId)
    ctx.workspaceId (packageOfTask input ctx answers) answers.toWorkAnswers

def perform (indexed : Bool) (s : ContractStore) (answers : ContractAnswers) :
    ContractCall → Except ApiError (ContractStore × Option ContractCall)
  | propose input ctx => do
    require (input.workspaceId = ctx.workspaceId) (.permissionDenied "workspace mismatch")
    taskOf s.db input.taskId ctx.workspaceId
    return (s, some (proposing input ctx))
  | proposing input ctx => do
    require (∀ c ∈ s.db.contracts.values,
        ¬(c.taskId = input.taskId ∧ c.workspaceId = ctx.workspaceId))
      ⟨"already_exists", "task " ++ toString input.taskId ++ " already has an outcome contract"⟩
    return (s, some (inserting input ctx))
  | inserting input ctx => do
    let db ← insertContractRevision indexed s.db
      (newContract ctx.workspaceId input.taskId answers.newContractId .draft) answers
    return ({ s with db }, none)
  | proposeTask ctx => do
    let db ← proposeTaskWrites indexed s.db ctx answers
    return ({ s with db }, none)
  | confirm input ctx => do
    validatePackageShape (input.initialPackage.input 0 0 input.idempotencyKey none)
    if (idempotentHit s.db ctx.workspaceId input.idempotencyKey).isSome then
      return (s, none)
    else return (s, some (checkDraft input ctx))
  | checkDraft input ctx => do
    let draft ← loadDraft s.db input ctx
    answers.eligibility
    return (s, some (confirming input ctx draft))
  | confirming input ctx draft => do
    let t : Confirmation := { input, ctx, draft }
    -- the row is there for the transaction only
    let _ ← insertContractRevision indexed s.db (t.newContract answers.newContractId) answers
    return ({ s with confirming := s.confirming.set answers.newContractId t },
      some (running answers.newContractId))
  | running contractId =>
    match s.confirming.get? contractId with
    | some t => do
      let (s, more) ← t.perform indexed s contractId answers
      return (s, if more then some (running contractId) else none)
    | none => .ok (s, none)
  | createTask input ctx => do
    validatePackageShape (input.initialPackage.input 0 0 input.idempotencyKey none)
    if (idempotentHit s.db ctx.workspaceId input.idempotencyKey).isSome then
      return (s, none)
    else return (s, some (creatingTask input ctx))
  | creatingTask input ctx => do
    answers.eligibility
    let db ← createTaskWrites indexed s.db input ctx answers
    return (s.queue db answers.newId (packageOfTask input ctx answers), none)
  | queue input ctx => do
    validatePackageShape input
    if (createdBefore s.db ctx.workspaceId input.idempotencyKey).isSome then return (s, none)
    else
      taskOf s.db input.taskId ctx.workspaceId
      return (s, some (gate input ctx))
  | gate input ctx => do
    assertTaskCanEnterQueue s.db input.taskId ctx.workspaceId
    return (s, some (checkContract input ctx))
  | checkContract input ctx => do
    requireCurrentConfirmedContract s.db ctx.workspaceId input.taskId input.outcomeContractId
    answers.eligibility
    return (s, some (queueing input ctx))
  | queueing input ctx => do
    let db ← insertQueuedPackage indexed s.db ctx.workspaceId input answers.toWorkAnswers
    return (s.queue db answers.newId input, none)

/-- The transaction of a call is rolled back. -/
def abort : ContractCall → ContractStore → ContractStore
  | running contractId, s => { s with confirming := s.confirming.erase contractId }
  | _, s => s

/-- A call that fails is rolled back. -/
def step (indexed : Bool) (s : ContractStore) (call : ContractCall) (answers : ContractAnswers) :
    Option (ContractStore × Option ContractCall) :=
  if call.waits indexed s answers then none
  else some ((call.perform indexed s answers).toOption.getD (call.abort s, none))

end ContractCall

def contractCalls (indexed : Bool) :
    Service ContractRequest ContractStore ContractCall ContractAnswers where
  start := ContractRequest.call
  step := ContractCall.step indexed
  abort := ContractCall.abort

/-! ## The law -/

/-- One contract of a task is confirmed, the active one; a draft is confirmed at most once; and that
of a package was confirmed when the package was created. -/
structure ContractLaw (s : ContractStore) : Prop where
  single : ∀ id c id' c', s.db.contracts.get? id = some c → s.db.contracts.get? id' = some c' →
    c.status = .confirmed → c'.status = .confirmed → c.taskId = c'.taskId → id = id'
  active : ∀ id c, s.db.contracts.get? id = some c → c.status = .confirmed →
    ∃ task, s.db.tasks.get? c.taskId = some task ∧ task.activeOutcomeContractId = some id
  confirmed : ∀ taskId task id, s.db.tasks.get? taskId = some task →
    task.activeOutcomeContractId = some id →
      ∃ c, s.db.contracts.get? id = some c ∧ c.taskId = taskId ∧ c.status = .confirmed
  once : ∀ id c id' c' draftId, s.db.contracts.get? id = some c →
    s.db.contracts.get? id' = some c' → c.supersedesContractId = some draftId →
    c'.supersedesContractId = some draftId → id = id'
  queued : ∀ r ∈ s.queued, r.wasConfirmed

/-- The draft still is one, and no other confirmation of the task has looked meanwhile. -/
def Confirmation.NotOvertaken (s : ContractStore) (t : Confirmation) : Prop :=
  match t.phase with
  | .inserted => (s.db.contracts.get? t.input.draftContractId).any (·.status = .draft)
  | .draftLocked => ∀ t' ∈ s.confirming.values, t'.looked → t'.taskId ≠ t.taskId
  | .superseding _ => True

instance (s : ContractStore) (t : Confirmation) : Decidable (t.NotOvertaken s) := by
  unfold Confirmation.NotOvertaken
  split <;> infer_instance

/-- No confirmation is overtaken, and the contract of a new package is still confirmed. -/
def NothingOvertakes (s : ContractStore) : ContractCall → ContractAnswers → Prop
  | .running contractId, _ => ∀ t ∈ s.confirming.get? contractId, t.NotOvertaken s
  | .queueing input _, _ =>
    (s.db.contracts.get? input.outcomeContractId).any (·.status = .confirmed)
  | _, _ => True

instance (s : ContractStore) (call : ContractCall) (answers : ContractAnswers) :
    Decidable (NothingOvertakes s call answers) := by
  unfold NothingOvertakes
  split <;> infer_instance

end JavisSaas.Company.Operations
