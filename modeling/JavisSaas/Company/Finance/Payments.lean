import Mathlib.Algebra.Ring.Int.Defs
import JavisSaas.Lib.Fallible
import JavisSaas.Lib.Dict
import JavisSaas.Company.Finance.Money

/-!
# Payment requests, allocations and budgets

`payment-request.service.ts`, `payment-allocation.service.ts` and `budget-summary.service.ts`. What
a service has read before its transaction is an argument (`current`). Timestamps are milliseconds,
dates are days.

* `updatePaymentRequestService`, `transitionApprovalState`, `approvePaymentRequestService`,
  `reportPaymentTransferService`: the writes of a request, guarded by its version.
* `createPaymentAllocationService`, `reversePaymentAllocationService`: the allocations.
* `computeProjectBudgetPosition`: what an approval is checked against.
-/

namespace JavisSaas.Company.Finance

open JavisSaas.Lib

/-! ## The tables -/

inductive ApprovalState
  | draft
  | submitted
  | approved
  | rejected
  | cancelled
  deriving DecidableEq

def ApprovalState.name : ApprovalState → String
  | draft => "DRAFT"
  | submitted => "SUBMITTED"
  | approved => "APPROVED"
  | rejected => "REJECTED"
  | cancelled => "CANCELLED"

inductive SettlementState
  | unpaid
  | reported
  | partly
  | paid
  | exception
  deriving DecidableEq

def SettlementState.name : SettlementState → String
  | unpaid => "UNPAID"
  | reported => "REPORTED"
  | partly => "PARTIAL"
  | paid => "PAID"
  | exception => "EXCEPTION"

structure PaymentRequest where
  id : ℕ
  workspaceId : ℕ
  legalEntityId : ℕ
  projectId : Option ℕ := none
  ownerMemberId : Option ℕ := none
  amountMinor : ℤ
  currency : String
  beneficiaryBankBin : String
  beneficiaryAccountNumber : String
  beneficiaryName : String
  purpose : String
  documentRefs : List String := []
  dueAt : Option ℤ := none
  transferReference : Option String := none
  approvalState : ApprovalState := .draft
  settlementState : SettlementState := .unpaid
  version : ℕ := 1
  approvalHash : Option String := none
  approvedVersion : Option ℕ := none
  approvedByMemberId : Option ℕ := none
  approvedAt : Option ℤ := none
  reportedByMemberId : Option ℕ := none
  reportedAt : Option ℤ := none
  idempotencyKey : String
  deletedAt : Option ℤ := none
  budgetOverrideReason : Option String := none
  budgetOverrideByMemberId : Option ℕ := none
  deriving DecidableEq

inductive BankStatus
  | unreconciled
  | matched
  | confirmed
  deriving DecidableEq

def BankStatus.name : BankStatus → String
  | unreconciled => "UNRECONCILED"
  | matched => "MATCHED"
  | confirmed => "CONFIRMED"

structure BankTransaction where
  id : ℕ
  workspaceId : ℕ
  /-- The text of a `DECIMAL`. -/
  amount : String
  currency : String
  direction : String
  status : BankStatus := .unreconciled
  matchedAccountingDocumentId : Option ℕ := none

inductive AllocationStatus
  | active
  | reversed
  deriving DecidableEq

structure PaymentAllocation where
  id : ℕ
  workspaceId : ℕ
  bankTransactionId : ℕ
  requestId : ℕ
  amountMinor : ℤ
  currency : String
  status : AllocationStatus := .active
  reversedReason : Option String := none
  reversedByMemberId : Option ℕ := none
  reversedAt : Option ℤ := none
  idempotencyKey : String

structure ProjectBudgetEnvelope where
  id : ℕ
  workspaceId : ℕ
  projectId : ℕ
  legalEntityId : ℕ
  currency : String
  periodStart : ℤ
  periodEnd : ℤ
  limitMinor : ℤ
  createdAt : ℤ
  deletedAt : Option ℤ := none
  deriving DecidableEq

structure FinanceDb where
  requests : Dict ℕ PaymentRequest := ∅
  bankTransactions : Dict ℕ BankTransaction := ∅
  allocations : Dict ℕ PaymentAllocation := ∅
  envelopes : Dict ℕ ProjectBudgetEnvelope := ∅

def FinanceDb.putRequest (db : FinanceDb) (id : ℕ) (row : PaymentRequest) : FinanceDb :=
  { db with requests := db.requests.set id row }

def FinanceDb.putAllocation (db : FinanceDb) (id : ℕ) (row : PaymentAllocation) : FinanceDb :=
  { db with allocations := db.allocations.set id row }

def FinanceDb.putEnvelope (db : FinanceDb) (id : ℕ) (row : ProjectBudgetEnvelope) : FinanceDb :=
  { db with envelopes := db.envelopes.set id row }

/-! ## Who calls, and what the world answers -/

structure TenantContext where
  workspaceId : ℕ
  workforceMemberId : Option ℕ := none
  membershipRole : String := ""

/-- `Date.now()`, and the identifier that `generateSnowflake` returns. -/
structure Answers where
  now : ℤ
  newId : ℕ := 0

/-- `asOf.toISOString().split("T")[0]`. -/
def asOfDate (now : ℤ) : ℤ := now / 86400000

def requireFounderCommand (ctx : TenantContext) (action : String) : Except ApiError Unit :=
  require (ctx.membershipRole.toLower = "founder" ∨ ctx.membershipRole.toLower = "co-founder")
    (.permissionDenied s!"Missing authority for {action}")

/-! ## Payment requests -/

/-- A numeral as it was sent, and the integer that its column stores for it. -/
structure AmountText where
  text : String
  minor : ℤ
  minor_eq : ∀ n : ℤ, text = toString n → minor = n

/-- `SELECT … WHERE id AND workspace_id`. -/
def FinanceDb.ownRequest? (db : FinanceDb) (wsId id : ℕ) : Option PaymentRequest :=
  (db.requests.get? id).filter (·.workspaceId = wsId)

def loadOwnRequest (db : FinanceDb) (wsId id : ℕ) : Except ApiError PaymentRequest :=
  match (db.ownRequest? wsId id).filter (·.deletedAt = none) with
  | some row => .ok row
  | none => .error (.notFound s!"Payment request {id} not found")

/-- `uq_payment_requests_workspace_transfer_ref` and the index on the idempotency keys refuse the
row. -/
def FinanceDb.refusesRequest (db : FinanceDb) (row : PaymentRequest) : Bool :=
  db.requests.values.any fun r => r.id ≠ row.id && r.workspaceId = row.workspaceId &&
    (r.idempotencyKey = row.idempotencyKey ||
      r.transferReference.isSome && r.transferReference = row.transferReference)

/-- `UPDATE payment_requests SET … WHERE id AND workspace_id AND version`. -/
def casUpdate (db : FinanceDb) (current : PaymentRequest) (set : PaymentRequest → PaymentRequest)
    (concurrently : String) : Except ApiError FinanceDb :=
  match (db.ownRequest? current.workspaceId current.id).filter (·.version = current.version) with
  | some row =>
    if db.refusesRequest (set row) then .error ⟨"internal", "duplicate key value"⟩
    else .ok (db.putRequest current.id (set row))
  | none => .error (.concurrentModification s!"Concurrent modification during {concurrently}")

structure CreatePaymentRequestInput where
  legalEntityId : ℕ
  projectId : Option ℕ := none
  amountMinor : ℤ
  currency : String
  beneficiaryBankBin : String
  beneficiaryAccountNumber : String
  beneficiaryName : String
  purpose : String
  documentRefs : List String := []
  dueAt : Option ℤ := none
  transferReference : Option String := none
  idempotencyKey : String

def newPaymentRequest (U : UpperCase) (ctx : TenantContext) (input : CreatePaymentRequestInput)
    (id : ℕ) : PaymentRequest where
  id
  workspaceId := ctx.workspaceId
  legalEntityId := input.legalEntityId
  projectId := input.projectId
  ownerMemberId := ctx.workforceMemberId
  amountMinor := input.amountMinor
  currency := U.upper input.currency
  beneficiaryBankBin := input.beneficiaryBankBin
  beneficiaryAccountNumber := input.beneficiaryAccountNumber
  beneficiaryName := input.beneficiaryName
  purpose := input.purpose
  documentRefs := input.documentRefs
  dueAt := input.dueAt
  transferReference := input.transferReference
  idempotencyKey := input.idempotencyKey

/-- A request with the key is returned; the insertion does nothing where one appears meanwhile. -/
def createPaymentRequestService (U : UpperCase) (db : FinanceDb) (ctx : TenantContext)
    (input : CreatePaymentRequestInput) (answers : Answers) : Except ApiError FinanceDb := do
  require (0 < input.amountMinor) (.invalidArgument "amountMinor must be a positive integer")
  if db.requests.values.any fun r =>
      r.workspaceId = ctx.workspaceId && r.idempotencyKey = input.idempotencyKey then
    return db
  let row := newPaymentRequest U ctx input answers.newId
  require ((db.requests.get? row.id).isNone ∧ db.refusesRequest row = false)
    ⟨"internal", "duplicate key value"⟩
  return db.putRequest row.id row

structure UpdatePaymentRequestInput where
  expectedVersion : ℕ
  amountMinor : Option AmountText := none
  beneficiaryBankBin : Option String := none
  beneficiaryAccountNumber : Option String := none
  beneficiaryName : Option String := none
  purpose : Option String := none
  documentRefs : Option (List String) := none
  dueAt : Option (Option ℤ) := none
  transferReference : Option (Option String) := none

/-- `BENEFICIARY_AFFECTING_FIELDS.some(…)`. -/
def beneficiaryFieldChanged (input : UpdatePaymentRequestInput) (current : PaymentRequest) : Bool :=
  input.amountMinor.any (·.text ≠ toString current.amountMinor) ||
    input.beneficiaryBankBin.any (· ≠ current.beneficiaryBankBin) ||
    input.beneficiaryAccountNumber.any (· ≠ current.beneficiaryAccountNumber) ||
    input.beneficiaryName.any (· ≠ current.beneficiaryName)

/-- The proof of approval is void. -/
def revokes (input : UpdatePaymentRequestInput) (current : PaymentRequest) : Bool :=
  current.approvalState = .approved && beneficiaryFieldChanged input current

/-- The columns that an update sets, from the row that it has read. -/
def editPaymentRequest (input : UpdatePaymentRequestInput) (current row : PaymentRequest) :
    PaymentRequest :=
  { row with
    amountMinor := (input.amountMinor.map (·.minor)).getD current.amountMinor
    beneficiaryBankBin := input.beneficiaryBankBin.getD current.beneficiaryBankBin
    beneficiaryAccountNumber :=
      input.beneficiaryAccountNumber.getD current.beneficiaryAccountNumber
    beneficiaryName := input.beneficiaryName.getD current.beneficiaryName
    purpose := input.purpose.getD current.purpose
    documentRefs := input.documentRefs.getD current.documentRefs
    dueAt := input.dueAt.getD current.dueAt
    transferReference := input.transferReference.getD current.transferReference
    version := current.version + 1
    approvalState := if revokes input current then .draft else current.approvalState
    approvalHash := if revokes input current then none else current.approvalHash
    approvedVersion := if revokes input current then none else current.approvedVersion
    approvedByMemberId := if revokes input current then none else current.approvedByMemberId
    approvedAt := if revokes input current then none else current.approvedAt }

/-- `CAS mismatch`. -/
def requireVersion (current : PaymentRequest) (expectedVersion : ℕ) : Except ApiError Unit :=
  require (current.version = expectedVersion) (.concurrentModification
    s!"CAS mismatch: expected version {expectedVersion} but current is {current.version}")

def updatePaymentRequestService (db : FinanceDb) (input : UpdatePaymentRequestInput)
    (current : PaymentRequest) : Except ApiError FinanceDb := do
  require (current.approvalState ≠ .rejected ∧ current.approvalState ≠ .cancelled)
    (.failedPrecondition
      s!"Cannot edit a payment request in terminal state {current.approvalState.name}")
  require (current.settlementState = .unpaid) (.failedPrecondition
    s!"Cannot edit a payment request once settlement has started (settlementState={
      current.settlementState.name})")
  requireVersion current input.expectedVersion
  casUpdate db current (editPaymentRequest input current) "payment request update"

def transitionApprovalState (db : FinanceDb) (current : PaymentRequest) (expectedVersion : ℕ)
    (fromStates : List ApprovalState) (toState : ApprovalState) : Except ApiError FinanceDb := do
  requireVersion current expectedVersion
  require (current.approvalState ∈ fromStates) (.invalidArgument
    s!"Invalid payment request transition from {current.approvalState.name} to {toState.name}")
  casUpdate db current
    (fun row => { row with approvalState := toState, version := current.version + 1 })
    "payment request transition"

def submitPaymentRequestService (db : FinanceDb) (expectedVersion : ℕ)
    (current : PaymentRequest) : Except ApiError FinanceDb :=
  transitionApprovalState db current expectedVersion [.draft] .submitted

def rejectPaymentRequestService (db : FinanceDb) (expectedVersion : ℕ) (reason : String)
    (current : PaymentRequest) : Except ApiError FinanceDb := do
  require (trim reason ≠ []) (.invalidArgument "Rejecting a payment request requires a reason")
  transitionApprovalState db current expectedVersion [.submitted] .rejected

/-- What a cancellation asks of the row that it reads first. -/
def cancellable (current : PaymentRequest) : Except ApiError Unit :=
  require (current.settlementState = .unpaid) (.failedPrecondition
    s!"Cannot cancel a payment request once settlement has started (settlementState={
      current.settlementState.name})")

/-- And the rest of it, with the row that it reads next. -/
def cancelPaymentRequestService (db : FinanceDb) (expectedVersion : ℕ)
    (current : PaymentRequest) : Except ApiError FinanceDb :=
  transitionApprovalState db current expectedVersion [.draft, .submitted, .approved] .cancelled

def reportPaymentTransferService (db : FinanceDb) (ctx : TenantContext) (expectedVersion : ℕ)
    (current : PaymentRequest) (answers : Answers) : Except ApiError FinanceDb := do
  requireVersion current expectedVersion
  require (current.approvalState = .approved) (.failedPrecondition
    s!"Cannot report transfer for a payment request that is not APPROVED (approvalState={
      current.approvalState.name})")
  require (current.approvedVersion = some current.version)
    (.failedPrecondition "Approval proof is stale for the current version")
  require (current.settlementState = .unpaid) (.invalidArgument
    s!"Invalid settlement transition from {current.settlementState.name} to REPORTED")
  casUpdate db current
    (fun row => { row with
      settlementState := .reported
      reportedByMemberId := ctx.workforceMemberId
      reportedAt := some answers.now
      version := current.version + 1 })
    "report-transfer"

/-! ## Budgets -/

inductive BudgetCoverage
  | noEnvelope
  | complete
  deriving DecidableEq

structure BudgetPosition where
  envelopeId : Option ℕ := none
  limitMinor : ℤ := 0
  actualPaidMinor : ℤ := 0
  committedUnpaidMinor : ℤ := 0
  forecastUnapprovedMinor : ℤ := 0
  coverage : BudgetCoverage := .noEnvelope

structure BudgetPositionParams where
  workspaceId : ℕ
  projectId : ℕ
  currency : String
  asOf : ℤ

/-- The sum of the active allocations that satisfy `p`. -/
def sumActive (db : FinanceDb) (p : PaymentAllocation → Bool) : ℤ :=
  ((db.allocations.values.filter fun a => p a && a.status = .active).map (·.amountMinor)).sum

/-- `sumActiveAllocations(tx, "requestId", id)`. -/
def requestAllocated (db : FinanceDb) (requestId : ℕ) : ℤ :=
  sumActive db fun a => a.requestId = requestId

/-- `sumActiveAllocations(tx, "bankTransactionId", id)`. -/
def bankAllocated (db : FinanceDb) (bankTransactionId : ℕ) : ℤ :=
  sumActive db fun a => a.bankTransactionId = bankTransactionId

/-- The envelopes of a project that cover a day. -/
def envelopeRows (db : FinanceDb) (params : BudgetPositionParams) : List ProjectBudgetEnvelope :=
  db.envelopes.values.filter fun e => e.workspaceId = params.workspaceId &&
    e.projectId = params.projectId && e.currency = params.currency &&
    e.periodStart ≤ asOfDate params.asOf && asOfDate params.asOf ≤ e.periodEnd &&
    e.deletedAt.isNone

/-- The row that was created last; the first of them, if there are several. -/
def latestEnvelope (rows : List ProjectBudgetEnvelope) : Option ProjectBudgetEnvelope :=
  rows.foldl (fun latest row =>
    match latest with
    | none => some row
    | some l => if l.createdAt < row.createdAt then some row else some l) none

def BudgetPositionParams.covers (params : BudgetPositionParams) (r : PaymentRequest) : Bool :=
  r.workspaceId = params.workspaceId && r.projectId = some params.projectId &&
    r.currency = params.currency && r.deletedAt.isNone

/-- The requests of a project in a currency. -/
def budgetRequests (db : FinanceDb) (params : BudgetPositionParams) : List PaymentRequest :=
  db.requests.values.filter params.covers

/-- `OPEN_SETTLEMENT_STATES.includes(…)`. -/
def SettlementState.isOpen (s : SettlementState) : Bool :=
  s ∈ [.unpaid, .reported, .partly, .exception]

/-- What a request adds to `committedUnpaidMinor`. -/
def committedUnpaid (db : FinanceDb) (r : PaymentRequest) : ℤ :=
  if r.approvalState = .approved ∧ r.settlementState.isOpen = true then
    if 0 < r.amountMinor - requestAllocated db r.id then r.amountMinor - requestAllocated db r.id
    else 0
  else 0

/-- What a request adds to `forecastUnapprovedMinor`. -/
def forecastUnapproved (r : PaymentRequest) : ℤ :=
  if r.approvalState = .draft ∨ r.approvalState = .submitted then r.amountMinor else 0

def computeProjectBudgetPosition (db : FinanceDb) (params : BudgetPositionParams) :
    BudgetPosition :=
  match latestEnvelope (envelopeRows db params) with
  | none => {}
  | some envelope =>
    let requests := budgetRequests db params
    { envelopeId := some envelope.id
      limitMinor := envelope.limitMinor
      actualPaidMinor := (requests.map fun r => requestAllocated db r.id).sum
      committedUnpaidMinor := (requests.map (committedUnpaid db)).sum
      forecastUnapprovedMinor := (requests.map forecastUnapproved).sum
      coverage := .complete }

structure CreateBudgetEnvelopeInput where
  projectId : ℕ
  legalEntityId : ℕ
  currency : Option String := none
  periodStart : ℤ
  periodEnd : ℤ
  limitMinor : ℤ

/-- The currency is stored as it is spelled. -/
def newBudgetEnvelope (ctx : TenantContext) (input : CreateBudgetEnvelopeInput)
    (answers : Answers) : ProjectBudgetEnvelope where
  id := answers.newId
  workspaceId := ctx.workspaceId
  projectId := input.projectId
  legalEntityId := input.legalEntityId
  currency := input.currency.getD "VND"
  periodStart := input.periodStart
  periodEnd := input.periodEnd
  limitMinor := input.limitMinor
  createdAt := answers.now

def createBudgetEnvelopeService (db : FinanceDb) (ctx : TenantContext)
    (input : CreateBudgetEnvelopeInput) (answers : Answers) : Except ApiError FinanceDb := do
  requireFounderCommand ctx "finance.budget.envelope.set"
  require (0 < input.limitMinor) (.invalidArgument "limitMinor must be positive")
  require ((db.envelopes.get? answers.newId).isNone) ⟨"internal", "duplicate key value"⟩
  return db.putEnvelope answers.newId (newBudgetEnvelope ctx input answers)

/-! ## Approvals -/

/-- What the approval hash is computed from. -/
structure ApprovalTerms where
  workspaceId : ℕ
  legalEntityId : ℕ
  requestId : ℕ
  version : ℕ
  beneficiaryBankBin : String
  beneficiaryAccountNumber : String
  beneficiaryName : String
  amountMinor : ℤ
  currency : String
  transferReference : Option String
  deriving DecidableEq

def PaymentRequest.approvalTerms (r : PaymentRequest) (version : ℕ) : ApprovalTerms where
  workspaceId := r.workspaceId
  legalEntityId := r.legalEntityId
  requestId := r.id
  version
  beneficiaryBankBin := r.beneficiaryBankBin
  beneficiaryAccountNumber := r.beneficiaryAccountNumber
  beneficiaryName := r.beneficiaryName
  amountMinor := r.amountMinor
  currency := r.currency
  transferReference := r.transferReference

/-- `if (current.projectId)`. -/
def PaymentRequest.project? (r : PaymentRequest) : Option ℕ := r.projectId.filter (· ≠ 0)

def PaymentRequest.budgetParams (r : PaymentRequest) (projectId : ℕ) (now : ℤ) :
    BudgetPositionParams where
  workspaceId := r.workspaceId
  projectId
  currency := r.currency
  asOf := now

/-- What an approval asks of the request that it has read. -/
def approvable (expectedVersion : ℕ) (current : PaymentRequest) : Except ApiError Unit := do
  requireVersion current expectedVersion
  require (current.approvalState = .submitted) (.invalidArgument
    s!"Invalid payment request transition from {current.approvalState.name} to APPROVED")

/-- The reason for which the budget is overridden, if the approval would exceed it. -/
def budgetOverride (ctx : TenantContext) (overrideReason : Option String)
    (current : PaymentRequest) (position : BudgetPosition) : Except ApiError (Option String) :=
  if position.coverage = .complete ∧ position.limitMinor <
      position.committedUnpaidMinor + position.actualPaidMinor + current.amountMinor then do
    requireFounderCommand ctx "finance.budget.override"
    match overrideReason.filter (trim · ≠ []) with
    | some reason => .ok (some (String.ofList (trim reason)))
    | none => .error (.failedPrecondition
        "BUDGET_LIMIT_EXCEEDED: cần overrideReason khi duyệt vượt ngân sách")
  else .ok none

/-- The rest of an approval, once the budget was checked. -/
def approvePaymentRequestService (sha256 : ApprovalTerms → String) (db : FinanceDb)
    (ctx : TenantContext) (budgetOverrideReason : Option String)
    (current : PaymentRequest) (answers : Answers) : Except ApiError FinanceDb :=
  casUpdate db current
    (fun row => { row with
      approvalState := .approved
      version := current.version + 1
      approvalHash := some (sha256 (current.approvalTerms (current.version + 1)))
      approvedVersion := some (current.version + 1)
      approvedByMemberId := ctx.workforceMemberId
      approvedAt := some answers.now
      budgetOverrideReason
      budgetOverrideByMemberId := budgetOverrideReason.bind fun _ => ctx.workforceMemberId })
    "payment request approval"

/-! ## Allocations -/

structure CreatePaymentAllocationInput where
  requestId : ℕ
  bankTransactionId : ℕ
  amountMinor : ℤ
  idempotencyKey : String

/-- `SELECT … WHERE id AND workspace_id`. -/
def FinanceDb.ownBankTransaction? (db : FinanceDb) (wsId id : ℕ) : Option BankTransaction :=
  (db.bankTransactions.get? id).filter (·.workspaceId = wsId)

def newAllocation (ctx : TenantContext) (input : CreatePaymentAllocationInput)
    (request : PaymentRequest) (id : ℕ) : PaymentAllocation where
  id
  workspaceId := ctx.workspaceId
  bankTransactionId := input.bankTransactionId
  requestId := input.requestId
  amountMinor := input.amountMinor
  currency := request.currency
  idempotencyKey := input.idempotencyKey

/-- `UPDATE payment_requests SET settlement_state`. -/
def settle (db : FinanceDb) (request : PaymentRequest) (state : SettlementState) : FinanceDb :=
  db.putRequest request.id { request with settlementState := state }

/-- Of the two locks neither is taken for a row that is not there. -/
def createPaymentAllocationService (U : UpperCase) (db : FinanceDb) (ctx : TenantContext)
    (input : CreatePaymentAllocationInput) (answers : Answers) : Except ApiError FinanceDb := do
  require (0 < input.amountMinor) (.invalidArgument "amountMinor must be a positive integer")
  if db.allocations.values.any fun a =>
      a.workspaceId = ctx.workspaceId && a.idempotencyKey = input.idempotencyKey then
    return db
  match db.ownRequest? ctx.workspaceId input.requestId,
      db.ownBankTransaction? ctx.workspaceId input.bankTransactionId with
  | none, _ => .error (.notFound s!"Payment request {input.requestId} not found")
  | _, none => .error (.notFound s!"Bank transaction {input.bankTransactionId} not found")
  | some request, some bankTxn => do
    require (request.approvalState = .approved) (.failedPrecondition
      s!"Cannot allocate against a payment request that is not APPROVED (approvalState={
        request.approvalState.name})")
    require (request.approvedVersion = some request.version)
      (.failedPrecondition "Approval proof is stale for the current version")
    require (bankTxn.direction = "OUT") (.invalidArgument
      s!"Cannot allocate a payment request against an {bankTxn.direction} bank transaction (must be OUT)")
    require (U.upper bankTxn.currency = U.upper request.currency) (.invalidArgument
      s!"Currency mismatch: request is {request.currency}, bank transaction is {bankTxn.currency}")
    let bankAmount ← parseDecimalToMoney U bankTxn.amount bankTxn.currency
    let bankRemaining := bankAmount.minor - bankAllocated db bankTxn.id
    let requestRemainder := request.amountMinor - requestAllocated db request.id
    require (input.amountMinor ≤ bankRemaining ∧ input.amountMinor ≤ requestRemainder)
      ⟨"ALLOCATION_EXCEEDED", s!"Allocation of {input.amountMinor} exceeds available remainder (bankRemaining={
        bankRemaining}, requestRemainder={requestRemainder})"⟩
    let created := newAllocation ctx input request answers.newId
    require ((db.allocations.get? created.id).isNone) ⟨"internal", "duplicate key value"⟩
    return settle (db.putAllocation created.id created) request
      (if requestRemainder - input.amountMinor = 0 then .paid else .partly)

/-- `remainingActive === 0n ? "EXCEPTION" : "PARTIAL"`. -/
def stateAfterReversal (remainingActive : ℤ) : SettlementState :=
  if remainingActive = 0 then .exception else .partly

def reverseAllocation (ctx : TenantContext) (reason : String) (now : ℤ) (a : PaymentAllocation) :
    PaymentAllocation :=
  { a with
    status := .reversed
    reversedReason := some reason
    reversedByMemberId := ctx.workforceMemberId
    reversedAt := some now }

def reversePaymentAllocationService (db : FinanceDb) (ctx : TenantContext) (allocationId : ℕ)
    (reason : String) (answers : Answers) : Except ApiError FinanceDb := do
  require (trim reason ≠ []) (.invalidArgument "Reversing an allocation requires a reason")
  match (db.allocations.get? allocationId).filter (·.workspaceId = ctx.workspaceId) with
  | none => .error (.notFound s!"Payment allocation {allocationId} not found")
  | some alloc => do
    require (alloc.status = .active)
      (.failedPrecondition s!"Allocation {allocationId} is already REVERSED")
    let db := db.putAllocation allocationId (reverseAllocation ctx reason answers.now alloc)
    match db.ownRequest? ctx.workspaceId alloc.requestId with
    | none => return db
    | some request =>
      return settle db request (stateAfterReversal (requestAllocated db alloc.requestId))

end JavisSaas.Company.Finance
