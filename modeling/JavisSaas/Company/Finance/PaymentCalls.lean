import JavisSaas.Lib.Calls
import JavisSaas.Lib.Sums
import JavisSaas.Company.Finance.Payments

/-!
# Payment calls in flight

A call on a request reads the row first (a cancellation reads it twice) and writes it later, in one
step under the row's lock; an allocation is created and reversed in one step. An approval that has a
budget locks its envelopes and reads the requests and the allocations in two further steps. Ghosts
record what was approved and what was allocated against.

* `change_of_step`: everything that one step of `payments` may do to the database.
* `Seen`: what the row that was read says about the row that is there.
-/

namespace JavisSaas.Company.Finance

open JavisSaas.Lib

/-! ## The calls -/

/-- What is asked of a payment request. -/
inductive RequestOp
  | update (input : UpdatePaymentRequestInput)
  | submit (expectedVersion : ℕ)
  | approve (expectedVersion : ℕ) (overrideReason : Option String)
  | reject (expectedVersion : ℕ) (reason : String)
  | cancel (expectedVersion : ℕ)
  | report (expectedVersion : ℕ)

inductive PaymentReq
  | create (ctx : TenantContext) (input : CreatePaymentRequestInput)
  | onRequest (ctx : TenantContext) (id : ℕ) (op : RequestOp)
  | allocate (ctx : TenantContext) (input : CreatePaymentAllocationInput)
  | reverse (ctx : TenantContext) (allocationId : ℕ) (reason : String)
  | envelope (ctx : TenantContext) (input : CreateBudgetEnvelopeInput)

/-- What is left of a call. -/
inductive PaymentCall
  | create (ctx : TenantContext) (input : CreatePaymentRequestInput)
  | load (ctx : TenantContext) (id : ℕ) (op : RequestOp)
  /-- A cancellation that has seen the settlement state. -/
  | reload (ctx : TenantContext) (id : ℕ) (op : RequestOp)
  | write (ctx : TenantContext) (op : RequestOp) (current : PaymentRequest)
  /-- An approval in the transaction with this number. -/
  | approving (txn : ℕ)
  | allocate (ctx : TenantContext) (input : CreatePaymentAllocationInput)
  | reverse (ctx : TenantContext) (allocationId : ℕ) (reason : String)
  | envelope (ctx : TenantContext) (input : CreateBudgetEnvelopeInput)

def PaymentReq.call : PaymentReq → PaymentCall
  | create ctx input => .create ctx input
  | onRequest ctx id op => .load ctx id op
  | allocate ctx input => .allocate ctx input
  | reverse ctx allocationId reason => .reverse ctx allocationId reason
  | envelope ctx input => .envelope ctx input

/-- The table that the transaction of an approval has read last. -/
inductive BudgetQuery
  | envelopes
  | requests
  | allocations
  deriving DecidableEq

/-- The transaction of an approval: what it was asked, and each table as its query found it. -/
structure Approving where
  ctx : TenantContext
  overrideReason : Option String
  current : PaymentRequest
  params : BudgetPositionParams
  last : BudgetQuery := .envelopes
  seen : FinanceDb

/-- The envelopes that are locked until the transaction ends. -/
def Approving.locked (a : Approving) : List ℕ := (envelopeRows a.seen a.params).map (·.id)

def Approving.readRequests (a : Approving) (db : FinanceDb) : Approving :=
  { a with last := .requests, seen := { a.seen with requests := db.requests } }

def Approving.readAllocations (a : Approving) (db : FinanceDb) : Approving :=
  { a with last := .allocations, seen := { a.seen with allocations := db.allocations } }

structure Books where
  db : FinanceDb := {}
  approvals : Dict ℕ Approving := ∅
  nextTxn : ℕ := 0
  /-- Ghost: each request as its last approval wrote it. -/
  approvedAs : Dict ℕ PaymentRequest := ∅
  /-- Ghost: the request of each allocation as it was when the allocation was made. -/
  allocatedAs : Dict ℕ PaymentRequest := ∅

section Steps

variable (U : UpperCase) (sha256 : ApprovalTerms → String)

/-- The write of a request; an approval is written here if it has no project. -/
def writeRequest (db : FinanceDb) (ctx : TenantContext) (op : RequestOp)
    (current : PaymentRequest) (answers : Answers) : Except ApiError FinanceDb :=
  match op with
  | .update input => updatePaymentRequestService db input current
  | .submit expectedVersion => submitPaymentRequestService db expectedVersion current
  | .approve expectedVersion _ => do
    approvable expectedVersion current
    approvePaymentRequestService sha256 db ctx none current answers
  | .reject expectedVersion reason => rejectPaymentRequestService db expectedVersion reason current
  | .cancel expectedVersion => cancelPaymentRequestService db expectedVersion current
  | .report expectedVersion => reportPaymentTransferService db ctx expectedVersion current answers

/-- The row that an approval wrote is recorded. -/
def recordApproval (s : Books) (op : RequestOp) (id : ℕ) (db : FinanceDb) : Books :=
  match op, db.requests.get? id with
  | .approve _ _, some row => { s with db, approvedAs := s.approvedAs.set id row }
  | _, _ => { s with db }

/-- The request of a new allocation is recorded. -/
def recordAllocation (s : Books) (requestId newId : ℕ) (db : FinanceDb) : Books :=
  match s.db.allocations.get? newId, db.allocations.get? newId, s.db.requests.get? requestId with
  | none, some _, some row => { s with db, allocatedAs := s.allocatedAs.set newId row }
  | _, _, _ => { s with db }

/-- An approval waits for the envelopes that another one has locked. -/
def PaymentCall.waits (s : Books) (answers : Answers) (c : PaymentCall) : Bool :=
  match c with
  | .write _ (.approve _ _) current => current.project?.any fun projectId =>
    (envelopeRows s.db (current.budgetParams projectId answers.now)).any fun e =>
      s.approvals.values.any fun a => e.id ∈ a.locked
  | _ => false

/-- The transaction of an approval begins: the envelopes are read and locked. -/
def beginApproval (s : Books) (ctx : TenantContext) (expectedVersion : ℕ)
    (overrideReason : Option String) (current : PaymentRequest) (projectId : ℕ)
    (answers : Answers) : Except ApiError (Books × Option PaymentCall) := do
  approvable expectedVersion current
  let params := current.budgetParams projectId answers.now
  let a : Approving := { ctx, overrideReason, current, params, seen := s.db }
  return ({ s with approvals := s.approvals.set s.nextTxn a, nextTxn := s.nextTxn + 1 },
    some (.approving s.nextTxn))

/-- The next query of the transaction, and in the end its write. -/
def continueApproval (s : Books) (txn : ℕ) (a : Approving) (answers : Answers) :
    Except ApiError (Books × Option PaymentCall) :=
  match a.last with
  | .envelopes =>
    .ok ({ s with approvals := s.approvals.set txn (a.readRequests s.db) }, some (.approving txn))
  | .requests =>
    .ok ({ s with approvals := s.approvals.set txn (a.readAllocations s.db) },
      some (.approving txn))
  | .allocations => do
    let reason ← budgetOverride a.ctx a.overrideReason a.current
      (computeProjectBudgetPosition a.seen a.params)
    let db ← approvePaymentRequestService sha256 s.db a.ctx reason a.current answers
    let s := { s with approvals := s.approvals.erase txn }
    return (recordApproval s (.approve a.current.version a.overrideReason) a.current.id db, none)

/-- The next step of a call; an error ends it. -/
def PaymentCall.perform (s : Books) (answers : Answers) :
    PaymentCall → Except ApiError (Books × Option PaymentCall)
  | .create ctx input => do
    let db ← createPaymentRequestService U s.db ctx input answers
    return ({ s with db }, none)
  | .load ctx id op => do
    let current ← loadOwnRequest s.db ctx.workspaceId id
    match op with
    | .cancel _ =>
      cancellable current
      return (s, some (.reload ctx id op))
    | _ => return (s, some (.write ctx op current))
  | .reload ctx id op => do
    let current ← loadOwnRequest s.db ctx.workspaceId id
    return (s, some (.write ctx op current))
  | .write ctx op current =>
    match op, current.project? with
    | .approve expectedVersion overrideReason, some projectId =>
      beginApproval s ctx expectedVersion overrideReason current projectId answers
    | _, _ => do
      let db ← writeRequest sha256 s.db ctx op current answers
      return (recordApproval s op current.id db, none)
  | .approving txn =>
    match s.approvals.get? txn with
    | some a => continueApproval sha256 s txn a answers
    | none => .ok (s, none)
  | .allocate ctx input => do
    let db ← createPaymentAllocationService U s.db ctx input answers
    return (recordAllocation s input.requestId answers.newId db, none)
  | .reverse ctx allocationId reason => do
    let db ← reversePaymentAllocationService s.db ctx allocationId reason answers
    return ({ s with db }, none)
  | .envelope ctx input => do
    let db ← createBudgetEnvelopeService s.db ctx input answers
    return ({ s with db }, none)

/-- The locks of a transaction that is rolled back are released. -/
def PaymentCall.rollback (c : PaymentCall) (s : Books) : Books :=
  match c with
  | .approving txn => { s with approvals := s.approvals.erase txn }
  | _ => s

def payments : Service PaymentReq Books PaymentCall Answers where
  start := PaymentReq.call
  step s c answers :=
    if c.waits s answers then none
    else match c.perform U sha256 s answers with
      | .ok r => some r
      | .error _ => some (c.rollback s, none)
  abort := PaymentCall.rollback

end Steps

/-! ## What was read and what is there -/

/-- The columns that no later write sets. -/
structure RequestOrigin where
  id : ℕ
  workspaceId : ℕ
  projectId : Option ℕ
  currency : String
  deletedAt : Option ℤ

def PaymentRequest.origin (r : PaymentRequest) : RequestOrigin :=
  ⟨r.id, r.workspaceId, r.projectId, r.currency, r.deletedAt⟩

/-- The row has moved on, or only its settlement state has. -/
structure Seen (db : FinanceDb) (current : PaymentRequest) : Prop where
  notDeleted : current.deletedAt = none
  origin : ∀ row, db.requests.get? current.id = some row → row.origin = current.origin
  row : ∃ row, db.requests.get? current.id = some row ∧ current.version ≤ row.version ∧
    (row.version = current.version →
      current = { row with settlementState := current.settlementState })

/-- The checks that a write makes of the row that was read. -/
def RequestOp.accepts (op : RequestOp) (current : PaymentRequest) : Bool :=
  match op with
  | .update input => current.approvalState ≠ .rejected && current.approvalState ≠ .cancelled &&
    current.settlementState = .unpaid && current.version = input.expectedVersion
  | .submit expectedVersion =>
    current.version = expectedVersion && current.approvalState = .draft
  | .approve expectedVersion _ =>
    current.version = expectedVersion && current.approvalState = .submitted
  | .reject expectedVersion reason => trim reason ≠ [] &&
    current.version = expectedVersion && current.approvalState = .submitted
  | .cancel expectedVersion => current.version = expectedVersion &&
    current.approvalState ∈ [.draft, .submitted, .approved]
  | .report expectedVersion => current.version = expectedVersion &&
    current.approvalState = .approved && current.approvedVersion = some current.version &&
    current.settlementState = .unpaid

/-- What the write of a request makes of its row. -/
inductive Rewrite (sha256 : ApprovalTerms → String) (ctx : TenantContext) (answers : Answers)
    (row : PaymentRequest) : RequestOp → PaymentRequest → Prop
  | update (input : UpdatePaymentRequestInput) (hversion : row.version = input.expectedVersion)
    (hlive : row.approvalState ≠ .rejected ∧ row.approvalState ≠ .cancelled) :
    Rewrite sha256 ctx answers row (.update input) (editPaymentRequest input row row)
  | submit (hfrom : row.approvalState = .draft) :
    Rewrite sha256 ctx answers row (.submit row.version)
      { row with approvalState := .submitted, version := row.version + 1 }
  | approve (overrideReason budgetOverrideReason : Option String)
    (hfrom : row.approvalState = .submitted) :
    Rewrite sha256 ctx answers row (.approve row.version overrideReason)
      { row with
        approvalState := .approved
        version := row.version + 1
        approvalHash := some (sha256 (row.approvalTerms (row.version + 1)))
        approvedVersion := some (row.version + 1)
        approvedByMemberId := ctx.workforceMemberId
        approvedAt := some answers.now
        budgetOverrideReason
        budgetOverrideByMemberId := budgetOverrideReason.bind fun _ => ctx.workforceMemberId }
  | reject (reason : String) (hfrom : row.approvalState = .submitted) :
    Rewrite sha256 ctx answers row (.reject row.version reason)
      { row with approvalState := .rejected, version := row.version + 1 }
  | cancel (hfrom : row.approvalState ∈ [.draft, .submitted, .approved]) :
    Rewrite sha256 ctx answers row (.cancel row.version)
      { row with approvalState := .cancelled, version := row.version + 1 }
  | report (hfrom : row.approvalState = .approved)
    (hfresh : row.approvedVersion = some row.version) :
    Rewrite sha256 ctx answers row (.report row.version)
      { row with
        settlementState := .reported
        reportedByMemberId := ctx.workforceMemberId
        reportedAt := some answers.now
        version := row.version + 1 }

theorem casUpdate_eq_ok {db db' : FinanceDb} {current : PaymentRequest}
    {set : PaymentRequest → PaymentRequest} {concurrently : String}
    (h : casUpdate db current set concurrently = .ok db') :
    ∃ row, db.requests.get? current.id = some row ∧ row.version = current.version ∧
      db' = db.putRequest current.id (set row) := by
  unfold casUpdate FinanceDb.ownRequest? at h
  split at h
  · next row hrow =>
    split_ifs at h
    obtain ⟨hown, hversion⟩ := Option.filter_eq_some_iff.mp hrow
    obtain ⟨hget, -⟩ := Option.filter_eq_some_iff.mp hown
    exact ⟨row, hget, of_decide_eq_true hversion, (Except.ok.inj h).symm⟩
  · nomatch h

section Writes

variable {sha256 : ApprovalTerms → String} {db db' : FinanceDb} {ctx : TenantContext}
  {op : RequestOp} {current : PaymentRequest} {answers : Answers}

theorem approvable_eq_ok {expectedVersion : ℕ} {u : Unit} :
    approvable expectedVersion current = .ok u ↔
      current.version = expectedVersion ∧ current.approvalState = .submitted := by
  rw [approvable, requireVersion, require_bind_eq_ok, require_eq_ok]

/-- The write is guarded by the version, so it starts from the row that is there. -/
theorem rewrite_of_approve (overrideReason : Option String) {budgetOverrideReason : Option String}
    (hseen : Seen db current) (hfrom : current.approvalState = .submitted)
    (h : approvePaymentRequestService sha256 db ctx budgetOverrideReason current answers =
      .ok db') :
    ∃ row row', db.requests.get? current.id = some row ∧
      (RequestOp.approve current.version overrideReason).accepts current = true ∧
      row.version = current.version ∧
      Rewrite sha256 ctx answers row (.approve current.version overrideReason) row' ∧
      db' = db.putRequest current.id row' := by
  obtain ⟨-, -, row, hrow, -, hsame⟩ := hseen
  obtain ⟨row₀, hrow₀, hversion, rfl⟩ := casUpdate_eq_ok h
  cases hrow.symm.trans hrow₀
  have haccepts : (RequestOp.approve current.version overrideReason).accepts current = true := by
    simp [RequestOp.accepts, hfrom]
  have hcurrent := hsame hversion
  rw [hcurrent] at hfrom
  rw [← hversion] at haccepts ⊢
  refine ⟨row, _, hrow, haccepts, rfl, .approve overrideReason budgetOverrideReason hfrom, ?_⟩
  rw [hcurrent]
  rfl

theorem rewrite_of_write (hseen : Seen db current)
    (h : writeRequest sha256 db ctx op current answers = .ok db') :
    ∃ row row', db.requests.get? current.id = some row ∧ op.accepts current = true ∧
      row.version = current.version ∧ Rewrite sha256 ctx answers row op row' ∧
      db' = db.putRequest current.id row' := by
  have hread := hseen
  obtain ⟨-, -, row, hrow, -, hsame⟩ := hseen
  have hcas : ∀ {set concurrently}, casUpdate db current set concurrently = .ok db' →
      row.version = current.version ∧
        db' = db.putRequest current.id (set row) := by
    intro set concurrently h
    obtain ⟨row', hrow', hversion, hdb⟩ := casUpdate_eq_ok h
    cases hrow.symm.trans hrow'
    exact ⟨hversion, hdb⟩
  cases op with
  | update input =>
    simp only [writeRequest, updatePaymentRequestService, requireVersion, require_bind_eq_ok] at h
    obtain ⟨hlive, hunpaid, hversion, h⟩ := h
    obtain ⟨hrowVersion, rfl⟩ := hcas h
    have haccepts : (RequestOp.update input).accepts current = true := by
      simp [RequestOp.accepts, hlive, hunpaid, hversion]
    have hcurrent := hsame hrowVersion
    refine ⟨row, _, hrow, haccepts, hrowVersion, .update input ?_ ?_, ?_⟩
    · rw [hrowVersion, hversion]
    · rw [hcurrent] at hlive
      exact hlive
    · rw [hcurrent]
      rfl
  | submit =>
    simp only [writeRequest, submitPaymentRequestService, transitionApprovalState, requireVersion,
      require_bind_eq_ok, List.mem_singleton] at h
    obtain ⟨rfl, hfrom, h⟩ := h
    have haccepts : (RequestOp.submit current.version).accepts current = true := by
      simp [RequestOp.accepts, hfrom]
    obtain ⟨hrowVersion, rfl⟩ := hcas h
    rw [hsame hrowVersion] at hfrom
    rw [← hrowVersion] at haccepts ⊢
    exact ⟨row, _, hrow, haccepts, rfl, .submit hfrom, rfl⟩
  | approve _ overrideReason =>
    simp only [writeRequest] at h
    obtain ⟨_, happrovable, hwrite⟩ := bind_eq_ok.mp h
    obtain ⟨rfl, hfrom⟩ := approvable_eq_ok.mp happrovable
    exact rewrite_of_approve overrideReason hread hfrom hwrite
  | reject _ reason =>
    simp only [writeRequest, rejectPaymentRequestService, transitionApprovalState, requireVersion,
      require_bind_eq_ok, List.mem_singleton] at h
    obtain ⟨hreason, rfl, hfrom, h⟩ := h
    have haccepts : (RequestOp.reject current.version reason).accepts current = true := by
      simp [RequestOp.accepts, hreason, hfrom]
    obtain ⟨hrowVersion, rfl⟩ := hcas h
    rw [hsame hrowVersion] at hfrom
    rw [← hrowVersion] at haccepts ⊢
    exact ⟨row, _, hrow, haccepts, rfl, .reject reason hfrom, rfl⟩
  | cancel =>
    simp only [writeRequest, cancelPaymentRequestService, transitionApprovalState, requireVersion,
      require_bind_eq_ok] at h
    obtain ⟨rfl, hfrom, h⟩ := h
    have haccepts : (RequestOp.cancel current.version).accepts current = true := by
      simp [RequestOp.accepts, hfrom]
    obtain ⟨hrowVersion, rfl⟩ := hcas h
    rw [hsame hrowVersion] at hfrom
    rw [← hrowVersion] at haccepts ⊢
    exact ⟨row, _, hrow, haccepts, rfl, .cancel hfrom, rfl⟩
  | report =>
    simp only [writeRequest, reportPaymentTransferService, requireVersion, require_bind_eq_ok] at h
    obtain ⟨rfl, hfrom, hfresh, hunpaid, h⟩ := h
    have haccepts : (RequestOp.report current.version).accepts current = true := by
      simp [RequestOp.accepts, hfrom, hfresh, hunpaid]
    obtain ⟨hrowVersion, rfl⟩ := hcas h
    have hcurrent := hsame hrowVersion
    rw [hcurrent] at hfrom hfresh
    rw [← hrowVersion] at haccepts ⊢
    exact ⟨row, _, hrow, haccepts, rfl, .report hfrom hfresh, rfl⟩

end Writes

/-! ## What a step does -/

/-- Rows are stored under their identifiers, and an allocation has a request. -/
structure WellFormed (db : FinanceDb) : Prop where
  request : ∀ id row, db.requests.get? id = some row → row.id = id
  allocation : ∀ id a, db.allocations.get? id = some a → a.id = id
  bankTransaction : ∀ id b, db.bankTransactions.get? id = some b → b.id = id
  positive : ∀ a ∈ db.allocations.values, 0 < a.amountMinor
  requested : ∀ a ∈ db.allocations.values,
    ∃ row, db.ownRequest? a.workspaceId a.requestId = some row

/-- What the transaction of an approval has read of its request. -/
structure Approving.Sound (db : FinanceDb) (a : Approving) : Prop where
  seen : Seen db a.current
  submitted : a.current.approvalState = .submitted
  params : ∃ projectId now, a.current.project? = some projectId ∧
    a.params = a.current.budgetParams projectId now

structure Sound (s : Books) : Prop where
  wellFormed : WellFormed s.db
  approvals : ∀ txn a, s.approvals.get? txn = some a → a.Sound s.db

/-- What was read by the call that is about to write. -/
def PaymentCall.Reads (db : FinanceDb) : PaymentCall → Prop
  | .write _ _ current => Seen db current
  | _ => True

/-- A new allocation, with what was checked for it. -/
structure Allocates (U : UpperCase) (db : FinanceDb) (ctx : TenantContext)
    (input : CreatePaymentAllocationInput) (newId : ℕ) (request : PaymentRequest) : Prop where
  positive : 0 < input.amountMinor
  own : db.ownRequest? ctx.workspaceId input.requestId = some request
  approved : request.approvalState = .approved
  fresh : request.approvedVersion = some request.version
  bank : ∃ bankTxn bankAmount, db.ownBankTransaction? ctx.workspaceId input.bankTransactionId =
    some bankTxn ∧ parseDecimalToMoney U bankTxn.amount bankTxn.currency = .ok bankAmount ∧
    input.amountMinor ≤ bankAmount.minor - bankAllocated db bankTxn.id
  remainder : input.amountMinor ≤ request.amountMinor - requestAllocated db request.id
  newId : db.allocations.get? newId = none

/-- The state that an allocation leaves its request in. -/
def stateAfterAllocation (requestRemainder amountMinor : ℤ) : SettlementState :=
  if requestRemainder - amountMinor = 0 then .paid else .partly

section Changes

variable (U : UpperCase) (sha256 : ApprovalTerms → String)

/-- What a step that writes nothing does to the transactions of the approvals. -/
inductive Reading (s : Books) (answers : Answers) : PaymentCall → Dict ℕ Approving → ℕ → Prop
  | same (c : PaymentCall) : Reading s answers c s.approvals s.nextTxn
  | began (ctx : TenantContext) (expectedVersion : ℕ) (overrideReason : Option String)
    (current : PaymentRequest) (projectId : ℕ)
    (hwaits : (PaymentCall.write ctx (.approve expectedVersion overrideReason) current).waits s
      answers = false)
    (hproject : current.project? = some projectId) (hfrom : current.approvalState = .submitted)
    (a : Approving)
    (ha : a = ⟨ctx, overrideReason, current, current.budgetParams projectId answers.now,
      .envelopes, s.db⟩) :
    Reading s answers (.write ctx (.approve expectedVersion overrideReason) current)
      (s.approvals.set s.nextTxn a) (s.nextTxn + 1)
  | requests (txn : ℕ) (a : Approving) (hget : s.approvals.get? txn = some a)
    (hlast : a.last = .envelopes) :
    Reading s answers (.approving txn) (s.approvals.set txn (a.readRequests s.db)) s.nextTxn
  | allocations (txn : ℕ) (a : Approving) (hget : s.approvals.get? txn = some a)
    (hlast : a.last = .requests) :
    Reading s answers (.approving txn) (s.approvals.set txn (a.readAllocations s.db)) s.nextTxn
  | ended (txn : ℕ) : Reading s answers (.approving txn) (s.approvals.erase txn) s.nextTxn

/-- The call that writes a request, and the transactions that are left then. -/
inductive Writing (s : Books) : PaymentCall → TenantContext → RequestOp → PaymentRequest →
    Dict ℕ Approving → Prop
  | write (ctx : TenantContext) (op : RequestOp) (current : PaymentRequest)
    (hproject : ∀ expectedVersion overrideReason, op = .approve expectedVersion overrideReason →
      current.project? = none) :
    Writing s (.write ctx op current) ctx op current s.approvals
  | commit (txn : ℕ) (a : Approving) (budgetOverrideReason : Option String)
    (hget : s.approvals.get? txn = some a) (hlast : a.last = .allocations)
    (hbudget : budgetOverride a.ctx a.overrideReason a.current
      (computeProjectBudgetPosition a.seen a.params) = .ok budgetOverrideReason) :
    Writing s (.approving txn) a.ctx (.approve a.current.version a.overrideReason) a.current
      (s.approvals.erase txn)

/-- Everything that one step of a call may do to the books. -/
inductive Change (s : Books) (answers : Answers) : PaymentCall → Books → Prop
  | reading (c : PaymentCall) (approvals : Dict ℕ Approving) (nextTxn : ℕ)
    (h : Reading s answers c approvals nextTxn) :
    Change s answers c { s with approvals, nextTxn }
  | created (ctx : TenantContext) (input : CreatePaymentRequestInput)
    (hpos : 0 < input.amountMinor) (hnew : s.db.requests.get? answers.newId = none) :
    Change s answers (.create ctx input)
      { s with db := s.db.putRequest answers.newId (newPaymentRequest U ctx input answers.newId) }
  | rewritten (c : PaymentCall) (ctx : TenantContext) (op : RequestOp)
    (current row row' : PaymentRequest) (approvals : Dict ℕ Approving)
    (hwriting : Writing s c ctx op current approvals)
    (hrow : s.db.requests.get? current.id = some row) (haccepts : op.accepts current = true)
    (hversion : row.version = current.version)
    (hrewrite : Rewrite sha256 ctx answers row op row') :
    Change s answers c (recordApproval { s with approvals } op current.id
      (s.db.putRequest current.id row'))
  | allocated (ctx : TenantContext) (input : CreatePaymentAllocationInput)
    (request : PaymentRequest) (h : Allocates U s.db ctx input answers.newId request) :
    Change s answers (.allocate ctx input)
      { s with
        db := settle
          (s.db.putAllocation answers.newId (newAllocation ctx input request answers.newId)) request
          (stateAfterAllocation (request.amountMinor - requestAllocated s.db request.id)
            input.amountMinor)
        allocatedAs := s.allocatedAs.set answers.newId request }
  | reversed (ctx : TenantContext) (allocationId : ℕ) (reason : String) (a : PaymentAllocation)
    (request : PaymentRequest) (ha : s.db.allocations.get? allocationId = some a)
    (hactive : a.status = .active) (hrequest : s.db.requests.get? a.requestId = some request)
    (db : FinanceDb)
    (hdb : db = s.db.putAllocation allocationId (reverseAllocation ctx reason answers.now a)) :
    Change s answers (.reverse ctx allocationId reason)
      { s with db := settle db request (stateAfterReversal (requestAllocated db a.requestId)) }
  | enveloped (ctx : TenantContext) (input : CreateBudgetEnvelopeInput) :
    Change s answers (.envelope ctx input)
      { s with db := s.db.putEnvelope answers.newId (newBudgetEnvelope ctx input answers) }

variable {U sha256} {s s' : Books} {c : PaymentCall} {c' : Option PaymentCall} {answers : Answers}

variable {db : FinanceDb} {ctx : TenantContext}

theorem FinanceDb.ownRequest?_eq_some {wsId id : ℕ} {row : PaymentRequest} :
    db.ownRequest? wsId id = some row ↔ db.requests.get? id = some row ∧ row.workspaceId = wsId := by
  rw [FinanceDb.ownRequest?, Option.filter_eq_some_iff]
  simp only [decide_eq_true_eq]

theorem change_of_create {input : CreatePaymentRequestInput}
    (h : createPaymentRequestService U s.db ctx input answers = .ok db) :
    Change U sha256 s answers (.create ctx input) { s with db } := by
  simp only [createPaymentRequestService, require_bind_eq_ok] at h
  obtain ⟨hpos, h⟩ := h
  split_ifs at h
  · cases h
    exact .reading _ _ _ (.same _)
  · obtain ⟨⟨hnew, -⟩, h⟩ := require_bind_eq_ok.mp h
    cases h
    exact .created ctx input hpos (Option.isNone_iff_eq_none.mp hnew)

theorem change_of_allocate {input : CreatePaymentAllocationInput}
    (h : createPaymentAllocationService U s.db ctx input answers = .ok db) :
    Change U sha256 s answers (.allocate ctx input)
      (recordAllocation s input.requestId answers.newId db) := by
  simp only [createPaymentAllocationService, require_bind_eq_ok] at h
  obtain ⟨hpos, h⟩ := h
  split_ifs at h
  · -- an earlier call with the same key has allocated already
    cases h
    unfold recordAllocation
    cases s.db.allocations.get? answers.newId <;> exact .reading _ _ _ (.same _)
  · split at h
    · nomatch h
    · nomatch h
    · next request bankTxn hrequest hbank =>
      simp only [require_bind_eq_ok] at h
      obtain ⟨happroved, hfresh, -, -, h⟩ := h
      obtain ⟨bankAmount, hparse, h⟩ := bind_eq_ok.mp h
      obtain ⟨⟨hbankRemaining, hremainder⟩, h⟩ := require_bind_eq_ok.mp h
      obtain ⟨hnew, h⟩ := require_bind_eq_ok.mp h
      cases h
      have hnone := Option.isNone_iff_eq_none.mp hnew
      have hallocates : Allocates U s.db ctx input answers.newId request :=
        ⟨hpos, hrequest, happroved, hfresh, ⟨bankTxn, bankAmount, hbank, hparse, hbankRemaining⟩,
          hremainder, hnone⟩
      have hrecord : Change U sha256 s answers _ _ := .allocated ctx input request hallocates
      have hget := (FinanceDb.ownRequest?_eq_some.mp hrequest).1
      have hafter : ∀ state, (settle (s.db.putAllocation
          (newAllocation ctx input request answers.newId).id
          (newAllocation ctx input request answers.newId)) request state).allocations.get?
            answers.newId = some (newAllocation ctx input request answers.newId) :=
        fun _ => Dict.get?_set_self _ _ _
      unfold recordAllocation
      rw [hafter, show s.db.allocations.get? answers.newId = none from hnone, hget]
      exact hrecord

theorem change_of_reverse (hwf : WellFormed s.db) {allocationId : ℕ} {reason : String}
    (h : reversePaymentAllocationService s.db ctx allocationId reason answers = .ok db) :
    Change U sha256 s answers (.reverse ctx allocationId reason) { s with db } := by
  simp only [reversePaymentAllocationService, require_bind_eq_ok] at h
  obtain ⟨-, h⟩ := h
  split at h
  · nomatch h
  · next a ha =>
    obtain ⟨hget, hws⟩ := Option.filter_eq_some_iff.mp ha
    obtain ⟨hactive, h⟩ := require_bind_eq_ok.mp h
    obtain ⟨request, hrequest⟩ := hwf.requested a (Dict.mem_values.mpr ⟨_, hget⟩)
    rw [of_decide_eq_true hws] at hrequest
    have hown : (s.db.putAllocation allocationId
        (reverseAllocation ctx reason answers.now a)).ownRequest? ctx.workspaceId a.requestId =
        some request := hrequest
    rw [hown] at h
    cases h
    exact .reversed ctx allocationId reason a request hget hactive
      (FinanceDb.ownRequest?_eq_some.mp hrequest).1 _ rfl

theorem change_of_envelope {input : CreateBudgetEnvelopeInput}
    (h : createBudgetEnvelopeService s.db ctx input answers = .ok db) :
    Change U sha256 s answers (.envelope ctx input) { s with db } := by
  obtain ⟨_, h⟩ := of_bind h
  simp only [require_bind_eq_ok] at h
  obtain ⟨-, -, h⟩ := h
  cases h
  exact .enveloped ctx input

/-- The write of a request, or the begin of the transaction of an approval. -/
theorem change_of_write {op : RequestOp} {current : PaymentRequest} (hseen : Seen s.db current)
    (hwaits : (PaymentCall.write ctx op current).waits s answers = false)
    (h : (PaymentCall.write ctx op current).perform U sha256 s answers = .ok (s', c')) :
    Change U sha256 s answers (.write ctx op current) s' := by
  have hwrite : (∀ v o, op = .approve v o → current.project? = none) →
      (do let db ← writeRequest sha256 s.db ctx op current answers
          return (recordApproval s op current.id db, none)) = Except.ok (s', c') →
      Change U sha256 s answers (.write ctx op current) s' := by
    intro hproject h
    obtain ⟨db, hdb, hr⟩ := bind_eq_ok.mp h
    cases hr
    obtain ⟨row, row', hrow, haccepts, hversion, hrewrite, rfl⟩ := rewrite_of_write hseen hdb
    exact .rewritten _ ctx op current row row' _ (.write ctx op current hproject) hrow haccepts
      hversion hrewrite
  cases op with
  | approve expectedVersion overrideReason =>
    cases hproject : current.project? with
    | none =>
      simp only [PaymentCall.perform, hproject] at h
      exact hwrite (fun _ _ _ => hproject) h
    | some projectId =>
      simp only [PaymentCall.perform, hproject, beginApproval] at h
      obtain ⟨_, happrovable, h⟩ := bind_eq_ok.mp h
      cases h
      exact .reading _ _ _ (.began ctx expectedVersion overrideReason current projectId hwaits
        hproject (approvable_eq_ok.mp happrovable).2 _ rfl)
  | _ => exact hwrite (fun _ _ e => nomatch e) h

theorem change_of_approving (hsound : Sound s) {txn : ℕ} {a : Approving}
    (ha : s.approvals.get? txn = some a)
    (h : continueApproval sha256 s txn a answers = .ok (s', c')) :
    Change U sha256 s answers (.approving txn) s' := by
  unfold continueApproval at h
  split at h
  · next hlast =>
    cases h
    exact .reading _ _ _ (.requests txn a ha hlast)
  · next hlast =>
    cases h
    exact .reading _ _ _ (.allocations txn a ha hlast)
  · next hlast =>
    obtain ⟨reason, hbudget, h⟩ := bind_eq_ok.mp h
    obtain ⟨db, hdb, h⟩ := bind_eq_ok.mp h
    cases h
    have hread := hsound.approvals txn a ha
    obtain ⟨row, row', hrow, haccepts, hversion, hrewrite, rfl⟩ :=
      rewrite_of_approve a.overrideReason hread.seen hread.submitted hdb
    exact .rewritten _ a.ctx _ a.current row row' _ (.commit txn a reason ha hlast hbudget) hrow
      haccepts hversion hrewrite

theorem change_of_perform (hsound : Sound s) (hreads : c.Reads s.db)
    (hwaits : c.waits s answers = false) (h : c.perform U sha256 s answers = .ok (s', c')) :
    Change U sha256 s answers c s' := by
  cases c with
  | create =>
    obtain ⟨db, hdb, hr⟩ := bind_eq_ok.mp h
    cases hr
    exact change_of_create hdb
  | load _ _ op =>
    obtain ⟨current, -, hr⟩ := bind_eq_ok.mp h
    have hsame : s' = s := by
      cases op with
      | cancel =>
        obtain ⟨-, -, hr⟩ := bind_eq_ok.mp hr
        exact (Prod.mk.inj (pure_eq_ok.mp hr)).1.symm
      | _ => exact (Prod.mk.inj (pure_eq_ok.mp hr)).1.symm
    exact hsame ▸ .reading _ _ _ (.same _)
  | reload =>
    obtain ⟨current, -, hr⟩ := bind_eq_ok.mp h
    cases hr
    exact .reading _ _ _ (.same _)
  | write => exact change_of_write hreads hwaits h
  | approving =>
    simp only [PaymentCall.perform] at h
    split at h
    · next a ha => exact change_of_approving hsound ha h
    · cases h
      exact .reading _ _ _ (.same _)
  | allocate =>
    obtain ⟨db, hdb, hr⟩ := bind_eq_ok.mp h
    cases hr
    exact change_of_allocate hdb
  | reverse =>
    obtain ⟨db, hdb, hr⟩ := bind_eq_ok.mp h
    cases hr
    exact change_of_reverse hsound.wellFormed hdb
  | envelope =>
    obtain ⟨db, hdb, hr⟩ := bind_eq_ok.mp h
    cases hr
    exact change_of_envelope hdb

theorem change_of_rollback : Change U sha256 s answers c (c.rollback s) := by
  cases c with
  | approving txn => exact .reading _ _ _ (.ended txn)
  | _ => exact .reading _ _ _ (.same _)

theorem payments_step_eq_some :
    (payments U sha256).step s c answers = some (s', c') ↔ c.waits s answers = false ∧
      (c.perform U sha256 s answers = .ok (s', c') ∨
        ∃ e, c.perform U sha256 s answers = .error e ∧ c.rollback s = s' ∧ c' = none) := by
  show (if _ then _ else _) = _ ↔ _
  cases c.waits s answers with
  | true => simp
  | false =>
    cases c.perform U sha256 s answers with
    | ok => simp
    | error => simp [eq_comm]

theorem change_of_step (hsound : Sound s) (hreads : c.Reads s.db)
    (h : (payments U sha256).step s c answers = some (s', c')) :
    Change U sha256 s answers c s' := by
  obtain ⟨hwaits, hperform | ⟨e, -, rfl, -⟩⟩ := payments_step_eq_some.mp h
  · exact change_of_perform hsound hreads hwaits hperform
  · exact change_of_rollback

end Changes

/-! ## What every step keeps -/

/-- A request after a step: only its settlement state is another, or its version is higher. -/
inductive RowMoves (row : PaymentRequest) : PaymentRequest → Prop
  | settled (state : SettlementState) : RowMoves row { row with settlementState := state }
  | rewritten (row' : PaymentRequest) (horigin : row'.origin = row.origin)
    (hversion : row.version < row'.version) : RowMoves row row'

theorem RowMoves.refl (row : PaymentRequest) : RowMoves row row := .settled row.settlementState

variable {row row' : PaymentRequest}

theorem RowMoves.origin_eq (h : RowMoves row row') : row'.origin = row.origin := by
  cases h with
  | settled => rfl
  | rewritten _ horigin => exact horigin

theorem RowMoves.id_eq (h : RowMoves row row') : row'.id = row.id :=
  congrArg RequestOrigin.id h.origin_eq

theorem RowMoves.workspaceId_eq (h : RowMoves row row') : row'.workspaceId = row.workspaceId :=
  congrArg RequestOrigin.workspaceId h.origin_eq

theorem Seen.of_moves {db db' : FinanceDb} {current : PaymentRequest} (h : Seen db current)
    (hmoves : ∀ id row, db.requests.get? id = some row →
      ∃ row', db'.requests.get? id = some row' ∧ RowMoves row row') : Seen db' current := by
  obtain ⟨hdeleted, horigin, row, hrow, hle, hsame⟩ := h
  obtain ⟨row', hrow', hmove⟩ := hmoves _ row hrow
  have horigin' : ∀ r, db'.requests.get? current.id = some r → r.origin = current.origin := by
    intro r hr
    cases hrow'.symm.trans hr
    exact hmove.origin_eq.trans (horigin row hrow)
  refine ⟨hdeleted, horigin', row', hrow', ?_⟩
  cases hmove with
  | settled =>
    refine ⟨hle, fun hversion => ?_⟩
    rw [hsame hversion]
  | rewritten =>
    refine ⟨by omega, fun heq => ?_⟩
    omega

theorem Rewrite.moves {sha256 : ApprovalTerms → String} {ctx : TenantContext} {answers : Answers}
    {op : RequestOp} (h : Rewrite sha256 ctx answers row op row') : RowMoves row row' := by
  cases h <;> exact .rewritten _ rfl (Nat.lt_succ_self _)

section Kept

variable {U : UpperCase} {sha256 : ApprovalTerms → String} {s s' : Books} {c : PaymentCall}
  {c' : Option PaymentCall} {answers : Answers}

@[simp] theorem recordApproval_db (op : RequestOp) (id : ℕ) (db : FinanceDb) :
    (recordApproval s op id db).db = db := by
  unfold recordApproval
  split <;> rfl

@[simp] theorem recordApproval_approvals (op : RequestOp) (id : ℕ) (db : FinanceDb) :
    (recordApproval s op id db).approvals = s.approvals := by
  unfold recordApproval
  split <;> rfl

theorem recordApproval_eq (op : RequestOp) (id : ℕ) (db : FinanceDb) :
    ∃ approvedAs, recordApproval s op id db = { s with db, approvedAs } := by
  unfold recordApproval
  split
  · exact ⟨_, rfl⟩
  · exact ⟨s.approvedAs, rfl⟩

variable {db : FinanceDb} {k : ℕ} {row : PaymentRequest} {a : Approving}
  {approvals : Dict ℕ Approving} {ctx : TenantContext} {op : RequestOp} {current : PaymentRequest}

theorem requests_putRequest {id : ℕ} :
    (db.putRequest k row).requests.get? id = if k = id then some row else db.requests.get? id :=
  Dict.get?_set _ _ _ _

theorem allocations_putAllocation {a : PaymentAllocation} {id : ℕ} :
    (db.putAllocation k a).allocations.get? id =
      if k = id then some a else db.allocations.get? id :=
  Dict.get?_set _ _ _ _

@[simp] theorem allocations_settle (db : FinanceDb) (request : PaymentRequest)
    (state : SettlementState) : (settle db request state).allocations = db.allocations := rfl

@[simp] theorem allocations_putRequest (db : FinanceDb) (k : ℕ) (row : PaymentRequest) :
    (db.putRequest k row).allocations = db.allocations := rfl

@[simp] theorem requests_putAllocation (db : FinanceDb) (k : ℕ) (a : PaymentAllocation) :
    (db.putAllocation k a).requests = db.requests := rfl

theorem moves_putRequest {row' : PaymentRequest} (hk : db.requests.get? k = some row)
    (hmove : RowMoves row row') :
    ∀ id r, db.requests.get? id = some r →
      ∃ r', (db.putRequest k row').requests.get? id = some r' ∧ RowMoves r r' := by
  intro id r hr
  rw [requests_putRequest]
  split_ifs with hid
  · subst hid
    cases hk.symm.trans hr
    exact ⟨row', rfl, hmove⟩
  · exact ⟨r, hr, .refl r⟩

theorem Change.moves (hwf : WellFormed s.db) (h : Change U sha256 s answers c s') :
    ∀ id row, s.db.requests.get? id = some row →
      ∃ row', s'.db.requests.get? id = some row' ∧ RowMoves row row' := by
  cases h with
  | reading | enveloped => exact fun id row hrow => ⟨row, hrow, .refl row⟩
  | created _ _ _ hnew =>
    intro id row hrow
    refine ⟨row, ?_, .refl row⟩
    rw [requests_putRequest, if_neg]
    · exact hrow
    · rintro rfl
      nomatch hnew.symm.trans hrow
  | rewritten _ _ _ _ _ _ _ _ hrow _ _ hrewrite =>
    rw [recordApproval_db]
    exact moves_putRequest hrow hrewrite.moves
  | allocated _ _ _ hallocates =>
    obtain ⟨hget, -⟩ := FinanceDb.ownRequest?_eq_some.mp hallocates.own
    rw [← hwf.request _ _ hget] at hget
    exact moves_putRequest hget (.settled _)
  | reversed _ _ _ _ _ _ _ hrequest _ hdb =>
    subst hdb
    rw [← hwf.request _ _ hrequest] at hrequest
    exact moves_putRequest hrequest (.settled _)

theorem WellFormed.of_moves {db' : FinanceDb} (h : WellFormed db)
    (hmoves : ∀ id row, db.requests.get? id = some row →
      ∃ row', db'.requests.get? id = some row' ∧ RowMoves row row')
    (hrequest : ∀ id row, db'.requests.get? id = some row → row.id = id)
    (hbank : db'.bankTransactions = db.bankTransactions)
    (hallocation : ∀ id a, db'.allocations.get? id = some a → a.id = id ∧ 0 < a.amountMinor ∧
      ∃ row, db.ownRequest? a.workspaceId a.requestId = some row) : WellFormed db' where
  request := hrequest
  allocation id a ha := (hallocation id a ha).1
  bankTransaction := by
    rw [hbank]
    exact h.bankTransaction
  positive a ha := by
    obtain ⟨id, ha⟩ := Dict.mem_values.mp ha
    exact (hallocation id a ha).2.1
  requested a ha := by
    obtain ⟨id, ha⟩ := Dict.mem_values.mp ha
    obtain ⟨-, -, row, hrow⟩ := hallocation id a ha
    obtain ⟨hget, hws⟩ := FinanceDb.ownRequest?_eq_some.mp hrow
    obtain ⟨row', hget', hmove⟩ := hmoves _ row hget
    exact ⟨row', FinanceDb.ownRequest?_eq_some.mpr ⟨hget', hmove.workspaceId_eq.trans hws⟩⟩

theorem WellFormed.at_allocation (h : WellFormed db) :
    ∀ id a, db.allocations.get? id = some a → a.id = id ∧ 0 < a.amountMinor ∧
      ∃ row, db.ownRequest? a.workspaceId a.requestId = some row := by
  intro id a ha
  have hmem := Dict.mem_values.mpr ⟨id, ha⟩
  exact ⟨h.allocation id a ha, h.positive a hmem, h.requested a hmem⟩

/-- A request that was written in the place of another one is stored under its identifier. -/
theorem WellFormed.request_putRequest (h : ∀ id row, db.requests.get? id = some row → row.id = id)
    (hk : row.id = k) :
    ∀ id r, (db.putRequest k row).requests.get? id = some r → r.id = id := by
  intro id r hr
  rw [requests_putRequest] at hr
  split_ifs at hr with hid
  · rw [← Option.some.inj hr, hk, hid]
  · exact h id r hr

theorem WellFormed.change (hwf : WellFormed s.db) (h : Change U sha256 s answers c s') :
    WellFormed s'.db := by
  have hmoves := h.moves hwf
  cases h with
  | reading => exact hwf
  | created =>
    exact hwf.of_moves hmoves (WellFormed.request_putRequest hwf.request rfl) rfl hwf.at_allocation
  | rewritten _ _ _ _ _ _ _ _ hrow _ _ hrewrite =>
    rw [recordApproval_db] at hmoves ⊢
    refine hwf.of_moves hmoves (WellFormed.request_putRequest hwf.request ?_) rfl hwf.at_allocation
    exact hrewrite.moves.id_eq.trans (hwf.request _ _ hrow)
  | allocated _ _ request hallocates =>
    refine hwf.of_moves hmoves (WellFormed.request_putRequest hwf.request rfl) rfl ?_
    intro id a ha
    rw [allocations_settle, allocations_putAllocation] at ha
    split_ifs at ha with hid
    · cases ha
      exact ⟨hid, hallocates.positive, request, hallocates.own⟩
    · exact hwf.at_allocation id a ha
  | reversed _ _ _ a _ ha _ _ _ hdb =>
    subst hdb
    refine hwf.of_moves hmoves (WellFormed.request_putRequest hwf.request rfl) rfl ?_
    intro id a' ha'
    rw [allocations_settle, allocations_putAllocation] at ha'
    split_ifs at ha' with hid
    · cases ha'
      subst hid
      exact hwf.at_allocation _ a ha
    · exact hwf.at_allocation id a' ha'
  | enveloped =>
    exact hwf.of_moves hmoves hwf.request rfl hwf.at_allocation

theorem Approving.Sound.of_moves {db' : FinanceDb} (h : a.Sound db)
    (hmoves : ∀ id row, db.requests.get? id = some row →
      ∃ row', db'.requests.get? id = some row' ∧ RowMoves row row') : a.Sound db' :=
  ⟨h.seen.of_moves hmoves, h.submitted, h.params⟩

/-- The transactions that are left have read the same requests, or begin with what their call
    has read. -/
theorem Sound.reading (h : Sound s) (hreads : c.Reads s.db) {nextTxn : ℕ}
    (hreading : Reading s answers c approvals nextTxn) :
    Sound { s with approvals, nextTxn } := by
  have hset : ∀ {txn a'}, a'.Sound s.db → ∀ txn' a,
      (s.approvals.set txn a').get? txn' = some a → a.Sound s.db := by
    intro txn a' ha' txn' a hget
    rw [Dict.get?_set] at hget
    split_ifs at hget
    · cases hget
      exact ha'
    · exact h.approvals txn' a hget
  refine ⟨h.wellFormed, ?_⟩
  cases hreading with
  | same => exact h.approvals
  | began _ _ _ _ projectId _ hproject hfrom _ ha =>
    subst ha
    exact hset ⟨hreads, hfrom, projectId, answers.now, hproject, rfl⟩
  | requests txn a hget =>
    have hsound := h.approvals txn a hget
    exact hset ⟨hsound.seen, hsound.submitted, hsound.params⟩
  | allocations txn a hget =>
    have hsound := h.approvals txn a hget
    exact hset ⟨hsound.seen, hsound.submitted, hsound.params⟩
  | ended =>
    intro txn' a hget
    rw [Dict.get?_erase] at hget
    split_ifs at hget
    exact h.approvals txn' a hget

theorem Writing.get?_of_get? (h : Writing s c ctx op current approvals) {txn : ℕ}
    (ha : approvals.get? txn = some a) : s.approvals.get? txn = some a := by
  cases h with
  | write => exact ha
  | commit =>
    rw [Dict.get?_erase] at ha
    split_ifs at ha
    exact ha

theorem Writing.seen (h : Writing s c ctx op current approvals) (hsound : Sound s)
    (hreads : c.Reads s.db) : Seen s.db current := by
  cases h with
  | write => exact hreads
  | commit txn a _ hget => exact (hsound.approvals txn a hget).seen

theorem Sound.change (h : Sound s) (hreads : c.Reads s.db)
    (hc : Change U sha256 s answers c s') : Sound s' := by
  have hmoves := hc.moves h.wellFormed
  refine ⟨h.wellFormed.change hc, ?_⟩
  cases hc with
  | reading _ _ _ hreading => exact (h.reading hreads hreading).approvals
  | rewritten _ _ _ _ _ _ _ hwriting =>
    intro txn a ha
    rw [recordApproval_approvals] at ha
    exact (h.approvals txn a (hwriting.get?_of_get? ha)).of_moves hmoves
  | created | allocated =>
    exact fun txn a ha => (h.approvals txn a ha).of_moves hmoves
  | reversed _ _ _ a _ ha =>
    exact fun txn a ha => (h.approvals txn a ha).of_moves hmoves
  | enveloped => exact fun txn a ha => (h.approvals txn a ha).of_moves hmoves

theorem reads_of_write
    (h : (PaymentCall.write ctx op current).perform U sha256 s answers = .ok (s', c')) :
    ∀ d ∈ c', d.Reads s'.db := by
  simp only [PaymentCall.perform] at h
  split at h
  · obtain ⟨_, h⟩ := of_bind h
    cases h
    rintro d ⟨⟩
    trivial
  · obtain ⟨db, -, h⟩ := bind_eq_ok.mp h
    cases h
    exact fun d hd => nomatch hd

theorem reads_of_approving {txn : ℕ} {a : Approving}
    (h : continueApproval sha256 s txn a answers = .ok (s', c')) : ∀ d ∈ c', d.Reads s'.db := by
  unfold continueApproval at h
  split at h
  · cases h
    rintro d ⟨⟩
    trivial
  · cases h
    rintro d ⟨⟩
    trivial
  · obtain ⟨reason, -, h⟩ := bind_eq_ok.mp h
    obtain ⟨db, -, h⟩ := bind_eq_ok.mp h
    cases h
    exact fun d hd => nomatch hd

theorem reads_of_step (hwf : WellFormed s.db)
    (h : (payments U sha256).step s c answers = some (s', c')) : ∀ d ∈ c', d.Reads s'.db := by
  have hseen : ∀ {wsId id current}, loadOwnRequest s.db wsId id = .ok current →
      Seen s.db current := by
    intro wsId id current hload
    unfold loadOwnRequest at hload
    split at hload
    · next row hrow =>
      obtain rfl := Except.ok.inj hload
      obtain ⟨hown, hdeleted⟩ := Option.filter_eq_some_iff.mp hrow
      obtain ⟨hget, -⟩ := FinanceDb.ownRequest?_eq_some.mp hown
      rw [← hwf.request _ _ hget] at hget
      refine ⟨of_decide_eq_true hdeleted, fun r hr => ?_, row, hget, le_rfl, fun _ => rfl⟩
      rw [Option.some.inj (hget.symm.trans hr)]
    · nomatch hload
  obtain ⟨-, hperform | ⟨e, -, -, rfl⟩⟩ := payments_step_eq_some.mp h
  · cases c with
    | load _ _ op =>
      obtain ⟨current, hload, hr⟩ := bind_eq_ok.mp hperform
      cases op with
      | cancel =>
        obtain ⟨_, hr⟩ := of_bind hr
        cases hr
        rintro d ⟨⟩
        trivial
      | _ =>
        cases hr
        rintro d ⟨⟩
        exact hseen hload
    | reload =>
      obtain ⟨current, hload, hr⟩ := bind_eq_ok.mp hperform
      cases hr
      rintro d ⟨⟩
      exact hseen hload
    | write => exact reads_of_write hperform
    | approving =>
      simp only [PaymentCall.perform] at hperform
      split at hperform
      · exact reads_of_approving hperform
      · cases hperform
        exact fun d hd => nomatch hd
    | create ctx input | allocate ctx input | reverse ctx allocationId reason
    | envelope =>
      obtain ⟨db, -, hr⟩ := bind_eq_ok.mp hperform
      cases hr
      exact fun d hd => nomatch hd
  · exact fun d hd => nomatch hd

/-- Every step keeps the tables well formed, and what the calls have read. -/
theorem soundRule (U : UpperCase) (sha256 : ApprovalTerms → String) :
    (payments U sha256).Rule (fun _ _ _ => True) Sound fun s c => c.Reads s.db where
  start s req _ := by cases req <;> trivial
  step s c answers s' c' hsound hreads _ h := by
    have hchange := change_of_step hsound hreads h
    refine ⟨hsound.change hreads hchange, fun d hd => ?_, reads_of_step hsound.wellFormed h⟩
    cases d with
    | write => exact hd.of_moves (hchange.moves hsound.wellFormed)
    | _ => trivial
  abort s c hsound hreads := by
    have hchange : Change U sha256 s { now := 0 } c (c.rollback s) := change_of_rollback
    refine ⟨hsound.change hreads hchange, fun d hd => ?_⟩
    cases d with
    | write => exact hd.of_moves (hchange.moves hsound.wellFormed)
    | _ => trivial

end Kept

/-- No requests yet, over the bank transactions and the budgets that there are. -/
def openBooks (bankTransactions : List BankTransaction) (envelopes : List ProjectBudgetEnvelope) :
    InFlight Books PaymentCall where
  store := { db := {
    bankTransactions := Dict.ofRows BankTransaction.id bankTransactions
    envelopes := Dict.ofRows ProjectBudgetEnvelope.id envelopes } }

theorem sound_openBooks (bankTransactions : List BankTransaction)
    (envelopes : List ProjectBudgetEnvelope) :
    Sound (openBooks bankTransactions envelopes).store where
  wellFormed :=
    { request := fun _ _ h => nomatch h
      allocation := fun _ _ h => nomatch h
      bankTransaction := fun _ _ h => Dict.key_of_get?_ofRows h
      positive := fun _ h => absurd h List.not_mem_nil
      requested := fun _ h => absurd h List.not_mem_nil }
  approvals _ _ h := nomatch h

end JavisSaas.Company.Finance
