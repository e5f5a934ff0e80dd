import JavisSaas.Lib.LocalTime
import JavisSaas.Company.Finance.Payments

/-!
# Periods, postings and documents

`posting-guard.service.ts`, `accounting-period.service.ts`, `accounting-books.service.ts`,
`accounting-document.service.ts`, `reconciliation-proposal.service.ts` and the recording of a
transaction in `financial-transaction.service.ts`: what a query or a write makes of the tables. The
columns of dates hold days, as which the database reads the texts of the requests.

* `closedQuery`, `openQuery`, `anyQuery`: the queries of `assertOpenPostingPeriod`.
* `insertTransaction`, `insertBookEntry`, `confirmDocument`, `voidDocument`: the postings.
* `claimBankTransaction`: the match that an accepted proposal makes.
-/

namespace JavisSaas.Company.Finance

open JavisSaas.Lib
open Nat (ofDigitChars toDigits)

/-! ## Dates -/

/-- The type `date` of the database: the day as which a text is read, and the text of a day. -/
structure DateType where
  read : String → Option ℤ
  print : ℤ → String

def DateType.parse (T : DateType) (text : String) : Except ApiError ℤ :=
  match T.read text with
  | some day => .ok day
  | none => .error (.internal s!"invalid input syntax for type date: \"{text}\"")

/-- The texts of the form `YYYY-MM-DD`, read and printed as the database does. -/
def isoDates : DateType where
  read text :=
    match text.toList with
    | [y₁, y₂, y₃, y₄, '-', m₁, m₂, '-', d₁, d₂] =>
      let date : Civil := ⟨ofDigitChars 10 [y₁, y₂, y₃, y₄] 0, ofDigitChars 10 [m₁, m₂] 0,
        ofDigitChars 10 [d₁, d₂] 0⟩
      if [y₁, y₂, y₃, y₄, m₁, m₂, d₁, d₂].all Char.isDigit && Civil.ofDays date.toDays = date then
        some date.toDays
      else none
    | _ => none
  print day :=
    let date := Civil.ofDays day
    String.ofList (padZeros 4 (toDigits 10 date.year.toNat) ++ '-' ::
      padZeros 2 (toDigits 10 date.month.toNat) ++ '-' ::
      padZeros 2 (toDigits 10 date.day.toNat))

/-! ## The tables -/

inductive PeriodStatus
  | opened
  | closed
  deriving DecidableEq

def PeriodStatus.name : PeriodStatus → String
  | opened => "OPEN"
  | closed => "CLOSED"

structure AccountingPeriod where
  id : ℕ
  workspaceId : ℕ
  legalEntityId : Option ℕ := none
  startDate : ℤ
  endDate : ℤ
  status : PeriodStatus := .opened
  closedAt : Option ℤ := none
  version : ℕ := 1

inductive TransactionApproval
  | pendingApproval
  | autoApproved

structure FinancialTransaction where
  id : ℕ
  workspaceId : ℕ
  legalEntityId : Option ℕ := none
  projectId : Option ℕ := none
  transactionDate : ℤ
  description : String
  amount : String
  currency : String
  direction : String
  category : Option String := none
  workItemId : Option ℕ := none
  idempotencyKey : Option String := none
  approvalStatus : TransactionApproval

structure AccountingBookEntry where
  id : ℕ
  workspaceId : ℕ
  legalEntityId : ℕ
  periodId : ℕ
  documentId : Option ℕ := none
  item : String
  category : String
  amountMinor : ℤ
  currency : String
  effectiveDate : ℤ
  source : String
  deriving DecidableEq

inductive DocumentStatus
  | draft
  | confirmed
  | void
  deriving DecidableEq

inductive DocumentType
  | receipt
  | payment
  | invoice
  | journal

structure AccountingDocument where
  id : ℕ
  workspaceId : ℕ
  documentType : DocumentType
  number : String
  documentDate : ℤ
  amount : String
  currency : String
  description : String
  status : DocumentStatus := .draft
  confirmedAt : Option ℤ := none
  confirmedBy : Option ℕ := none
  voidReason : Option String := none

inductive ProposalStatus
  | pending
  | accepted
  | rejected
  deriving DecidableEq

def ProposalStatus.name : ProposalStatus → String
  | pending => "PENDING"
  | accepted => "ACCEPTED"
  | rejected => "REJECTED"

structure ReconciliationProposal where
  id : ℕ
  workspaceId : ℕ
  bankTransactionId : ℕ
  accountingDocumentId : ℕ
  confidence : String
  status : ProposalStatus := .pending
  acceptedBy : Option ℕ := none
  acceptedAt : Option ℤ := none

/-- The event `FINANCE_ACCOUNTING_DOCUMENT_CONFIRMED`. -/
structure DocumentConfirmed where
  workspaceId : ℕ
  documentId : ℕ
  documentType : DocumentType
  number : String
  amount : String
  confirmedAt : ℤ
  confirmedBy : ℕ

structure LedgerDb where
  periods : Dict ℕ AccountingPeriod := ∅
  transactions : Dict ℕ FinancialTransaction := ∅
  entries : Dict ℕ AccountingBookEntry := ∅
  documents : Dict ℕ AccountingDocument := ∅
  bankTransactions : Dict ℕ BankTransaction := ∅
  proposals : Dict ℕ ReconciliationProposal := ∅
  outbox : List DocumentConfirmed := []

/-- The clock, the ids, `requiresApproval`, which compares floats, and whether the project is there. -/
structure LedgerAnswers where
  now : ℤ
  newId : ℕ := 0
  requiresApproval : Bool := false
  projectInWorkspace : Bool := true

/-! ## Periods -/

structure OpenAccountingPeriodParams where
  workspaceId : ℕ
  legalEntityId : Option ℕ := none
  startDate : String
  endDate : String

def requireNewRow {V : Type} (table : Dict ℕ V) (id : ℕ) : Except ApiError Unit :=
  require ((table.get? id).isNone) ⟨"internal", "duplicate key value"⟩

def newPeriod (params : OpenAccountingPeriodParams) (startDate endDate : ℤ) (id : ℕ) :
    AccountingPeriod where
  id
  workspaceId := params.workspaceId
  legalEntityId := params.legalEntityId
  startDate
  endDate

def LedgerDb.putPeriod (db : LedgerDb) (id : ℕ) (row : AccountingPeriod) : LedgerDb :=
  { db with periods := db.periods.set id row }

def openAccountingPeriodService (T : DateType) (db : LedgerDb)
    (params : OpenAccountingPeriodParams) (answers : LedgerAnswers) : Except ApiError LedgerDb := do
  let startDate ← T.parse params.startDate
  let endDate ← T.parse params.endDate
  requireNewRow db.periods answers.newId
  return db.putPeriod answers.newId (newPeriod params startDate endDate answers.newId)

def closePeriod (now : ℤ) (p : AccountingPeriod) : AccountingPeriod :=
  { p with status := .closed, closedAt := some now, version := p.version + 1 }

/-- A period that is closed already is returned as it is. -/
def closeAccountingPeriodService (db : LedgerDb) (id : ℕ) (answers : LedgerAnswers) :
    Except ApiError LedgerDb :=
  match db.periods.get? id with
  | none => .error (.notFound s!"accounting period {id} not found")
  | some existing =>
    if existing.status = .closed then .ok db
    else .ok (db.putPeriod id (closePeriod answers.now existing))

/-! ## The posting guard -/

/-- `date.split("T")[0]`. -/
def normalizeDate (date : String) : String := String.ofList (date.toList.takeWhile (· ≠ 'T'))

structure AssertOpenPostingPeriodParams where
  workspaceId : ℕ
  legalEntityId : Option ℕ := none
  postingDate : String

namespace AssertOpenPostingPeriodParams

variable (params : AssertOpenPostingPeriodParams)

def dateStr : String := normalizeDate params.postingDate

/-- `if (legalEntityId)`. -/
def entity? : Option ℕ := params.legalEntityId.filter (· ≠ 0)

/-- The periods that the queries look at: those of the entity, if one is given. -/
def looksAt (p : AccountingPeriod) : Bool :=
  p.workspaceId = params.workspaceId && params.entity?.all fun e => p.legalEntityId = some e

end AssertOpenPostingPeriodParams

/-- `start_date <= date AND end_date >= date`. -/
def AccountingPeriod.coversDate (T : DateType) (p : AccountingPeriod) (date : String) : Bool :=
  (T.read date).any fun day => p.startDate ≤ day && day ≤ p.endDate

/-- The first query. -/
def closedQuery (T : DateType) (db : LedgerDb) (params : AssertOpenPostingPeriodParams) :
    Except ApiError Unit := do
  let _ ← T.parse params.dateStr
  require ((db.periods.values.any fun p =>
      params.looksAt p && p.status = .closed && p.coversDate T params.dateStr) = false)
    (.failedPrecondition
      s!"PERIOD_CLOSED: Không thể ghi sổ vào kỳ kế toán đã đóng (ngày {params.dateStr})")

/-- The second query: the open periods, which are locked in share mode. -/
def openQuery (T : DateType) (db : LedgerDb) (params : AssertOpenPostingPeriodParams) : List ℕ :=
  (db.periods.values.filter fun p =>
    params.looksAt p && p.status = .opened && p.coversDate T params.dateStr).map (·.id)

/-- The third query, if the second one finds none. -/
def anyQuery (db : LedgerDb) (params : AssertOpenPostingPeriodParams) : Except ApiError Unit :=
  require ((db.periods.values.any params.looksAt) = false) (.failedPrecondition
    s!"NO_OPEN_PERIOD: Không tìm thấy kỳ kế toán mở cho ngày ghi sổ {params.dateStr}")

/-! ## Transactions and book entries -/

structure RecordFinancialTransactionParams where
  workspaceId : ℕ
  legalEntityId : Option ℕ := none
  projectId : Option ℕ := none
  transactionDate : String
  description : String
  amount : String
  currency : Option String := none
  direction : String
  category : Option String := none
  workItemId : Option ℕ := none
  idempotencyKey : Option String := none

def newFinancialTransaction (U : UpperCase) (params : RecordFinancialTransactionParams)
    (transactionDate : ℤ) (answers : LedgerAnswers) : FinancialTransaction where
  id := answers.newId
  workspaceId := params.workspaceId
  legalEntityId := params.legalEntityId
  projectId := params.projectId
  transactionDate
  description := params.description
  amount := params.amount
  currency := U.upper ((params.currency.filter (· ≠ "")).getD "VND")
  direction := params.direction
  category := params.category.filter (· ≠ "")
  workItemId := params.workItemId
  idempotencyKey := params.idempotencyKey.filter (· ≠ "")
  approvalStatus := if answers.requiresApproval then .pendingApproval else .autoApproved

/-- `recordFinancialTransactionService` behind its guard: `none` for a key that is used. A date has
no time. -/
def insertTransaction (U : UpperCase) (T : DateType) (db : LedgerDb)
    (params : RecordFinancialTransactionParams) (answers : LedgerAnswers) :
    Except ApiError (Option LedgerDb) :=
  if (params.idempotencyKey.filter (· ≠ "")).any fun key => db.transactions.values.any fun t =>
      t.workspaceId = params.workspaceId && t.idempotencyKey = some key then .ok none
  else do
    require (params.projectId.isSome → answers.projectInWorkspace = true)
      (.notFound "Project không tồn tại trong workspace này")
    let transactionDate ← T.parse (normalizeDate params.transactionDate)
    requireNewRow db.transactions answers.newId
    let row := newFinancialTransaction U params transactionDate answers
    return some { db with transactions := db.transactions.set answers.newId row }

structure CreateBookEntryInput where
  legalEntityId : ℕ
  periodId : ℕ
  documentId : Option ℕ := none
  item : String
  category : String
  amountMinor : ℤ
  currency : Option String := none
  effectiveDate : String
  source : String

/-- The checks of the declared period, whose days are compared as texts. -/
def declaredPeriod (T : DateType) (db : LedgerDb) (ctx : TenantContext) (input : CreateBookEntryInput) :
    Except ApiError Unit :=
  match (db.periods.get? input.periodId).filter (·.workspaceId = ctx.workspaceId) with
  | none => .error (.failedPrecondition
      s!"PERIOD_CLOSED: Kỳ kế toán {input.periodId} không tồn tại trong workspace này")
  | some p => do
    let dateStr := normalizeDate input.effectiveDate
    let periodStart := normalizeDate (T.print p.startDate)
    let periodEnd := normalizeDate (T.print p.endDate)
    require (p.legalEntityId = none ∨ p.legalEntityId = some input.legalEntityId)
      (.failedPrecondition s!"PERIOD_CLOSED: Kỳ kế toán {
        input.periodId} thuộc pháp nhân khác, không ghi sổ chéo pháp nhân")
    require (p.status = .opened) (.failedPrecondition
      s!"PERIOD_CLOSED: Không thể ghi sổ vào kỳ kế toán {input.periodId} (status {p.status.name})")
    require (periodStart ≤ dateStr ∧ dateStr ≤ periodEnd) (.failedPrecondition
      s!"PERIOD_CLOSED: Ngày ghi sổ {dateStr} nằm ngoài kỳ kế toán {input.periodId} ({
        periodStart} → {periodEnd})")

def newBookEntry (ctx : TenantContext) (input : CreateBookEntryInput) (effectiveDate : ℤ)
    (answers : LedgerAnswers) : AccountingBookEntry where
  id := answers.newId
  workspaceId := ctx.workspaceId
  legalEntityId := input.legalEntityId
  periodId := input.periodId
  documentId := input.documentId
  item := input.item
  category := input.category
  amountMinor := input.amountMinor
  currency := input.currency.getD "VND"
  effectiveDate
  source := input.source

def insertBookEntry (T : DateType) (db : LedgerDb) (ctx : TenantContext)
    (input : CreateBookEntryInput) (answers : LedgerAnswers) : Except ApiError LedgerDb := do
  let effectiveDate ← T.parse (normalizeDate input.effectiveDate)
  requireNewRow db.entries answers.newId
  let row := newBookEntry ctx input effectiveDate answers
  return { db with entries := db.entries.set answers.newId row }

/-! ## Documents -/

structure DraftDocumentParams where
  workspaceId : ℕ
  documentType : DocumentType
  number : String
  documentDate : String
  amount : String
  currency : Option String := none
  description : String

def newDocument (p : DraftDocumentParams) (documentDate : ℤ) (id : ℕ) : AccountingDocument where
  id
  workspaceId := p.workspaceId
  documentType := p.documentType
  number := p.number
  documentDate
  amount := p.amount
  currency := (p.currency.filter (· ≠ "")).getD "VND"
  description := p.description

def createDraftDocumentService (T : DateType) (db : LedgerDb) (p : DraftDocumentParams)
    (answers : LedgerAnswers) : Except ApiError LedgerDb := do
  let documentDate ← T.parse p.documentDate
  requireNewRow db.documents answers.newId
  let row := newDocument p documentDate answers.newId
  return { db with documents := db.documents.set answers.newId row }

def LedgerDb.ownDocument? (db : LedgerDb) (wsId id : ℕ) : Option AccountingDocument :=
  (db.documents.get? id).filter (·.workspaceId = wsId)

def LedgerDb.putDocument (db : LedgerDb) (id : ℕ) (row : AccountingDocument) : LedgerDb :=
  { db with documents := db.documents.set id row }

def loadDocument (db : LedgerDb) (wsId id : ℕ) : Except ApiError AccountingDocument :=
  match db.ownDocument? wsId id with
  | some doc => .ok doc
  | none => .error (.notFound s!"Accounting document '{id}' not found")

/-- What a confirmation asks of the document that it reads. -/
def confirmable (db : LedgerDb) (wsId id : ℕ) : Except ApiError AccountingDocument := do
  let doc ← loadDocument db wsId id
  require (doc.status ≠ .confirmed)
    (.failedPrecondition s!"Document '{id}' is already confirmed")
  return doc

def markConfirmed (confirmedBy : ℕ) (now : ℤ) (doc : AccountingDocument) : AccountingDocument :=
  { doc with status := .confirmed, confirmedAt := some now, confirmedBy := some confirmedBy }

def documentConfirmed (confirmedBy : ℕ) (now : ℤ) (doc : AccountingDocument) :
    DocumentConfirmed where
  workspaceId := doc.workspaceId
  documentId := doc.id
  documentType := doc.documentType
  number := doc.number
  amount := doc.amount
  confirmedAt := now
  confirmedBy

/-- The write of a confirmation, and its event. -/
def confirmDocument (db : LedgerDb) (wsId id confirmedBy : ℕ) (answers : LedgerAnswers) :
    Except ApiError LedgerDb :=
  match db.ownDocument? wsId id with
  | none => .error ⟨"internal", "Cannot read properties of undefined"⟩
  | some doc => .ok { db.putDocument id (markConfirmed confirmedBy answers.now doc) with
      outbox := db.outbox ++ [documentConfirmed confirmedBy answers.now doc] }

def markVoid (voidReason : String) (doc : AccountingDocument) : AccountingDocument :=
  { doc with status := .void, voidReason := some voidReason }

/-- The write of a void. -/
def voidDocument (db : LedgerDb) (wsId id : ℕ) (voidReason : String) : Except ApiError LedgerDb :=
  match db.ownDocument? wsId id with
  | none => .error ⟨"internal", "Cannot read properties of undefined"⟩
  | some doc => .ok (db.putDocument id (markVoid voidReason doc))

/-! ## Reconciliation -/

structure ProposeReconciliationParams where
  workspaceId : ℕ
  bankTransactionId : ℕ
  accountingDocumentId : ℕ
  confidence : String
  /-- `Number.isFinite(p.confidence)`, and from 0 to 1. -/
  validConfidence : Bool := true

def LedgerDb.ownBank? (db : LedgerDb) (wsId id : ℕ) : Option BankTransaction :=
  (db.bankTransactions.get? id).filter (·.workspaceId = wsId)

def newProposal (p : ProposeReconciliationParams) (id : ℕ) : ReconciliationProposal where
  id
  workspaceId := p.workspaceId
  bankTransactionId := p.bankTransactionId
  accountingDocumentId := p.accountingDocumentId
  confidence := p.confidence

def proposeReconciliationService (db : LedgerDb) (p : ProposeReconciliationParams)
    (answers : LedgerAnswers) : Except ApiError LedgerDb := do
  require (p.validConfidence = true) (.invalidArgument "confidence must be between 0 and 1")
  require ((db.ownBank? p.workspaceId p.bankTransactionId).isSome)
    (.notFound s!"Bank transaction '{p.bankTransactionId}' not found")
  require ((db.ownDocument? p.workspaceId p.accountingDocumentId).isSome)
    (.notFound s!"Accounting document '{p.accountingDocumentId}' not found")
  requireNewRow db.proposals answers.newId
  return { db with proposals := db.proposals.set answers.newId (newProposal p answers.newId) }

structure AcceptProposalParams where
  proposalId : ℕ
  workspaceId : ℕ
  acceptedBy : ℕ

def LedgerDb.ownProposal? (db : LedgerDb) (wsId id : ℕ) : Option ReconciliationProposal :=
  (db.proposals.get? id).filter (·.workspaceId = wsId)

/-- The first query of an acceptance. -/
def pendingProposal (db : LedgerDb) (p : AcceptProposalParams) :
    Except ApiError ReconciliationProposal :=
  match db.ownProposal? p.workspaceId p.proposalId with
  | none => .error (.notFound s!"Reconciliation proposal '{p.proposalId}' not found")
  | some prop => do
    require (prop.status = .pending) (.failedPrecondition
      s!"Reconciliation proposal '{p.proposalId}' is {prop.status.name}, not PENDING")
    return prop

/-- The second query. -/
def unreconciledBank (db : LedgerDb) (p : AcceptProposalParams) (prop : ReconciliationProposal) :
    Except ApiError Unit :=
  match db.ownBank? p.workspaceId prop.bankTransactionId with
  | none => .error (.failedPrecondition "Linked bank transaction is not in this workspace")
  | some bankTx => require (bankTx.status = .unreconciled) (.failedPrecondition
      s!"Bank transaction is {bankTx.status.name}, cannot accept a new match")

/-- The third query. -/
def liveDocument (db : LedgerDb) (p : AcceptProposalParams) (prop : ReconciliationProposal) :
    Except ApiError AccountingDocument :=
  match db.ownDocument? p.workspaceId prop.accountingDocumentId with
  | none => .error (.failedPrecondition "Linked accounting document is not in this workspace")
  | some doc => do
    require (doc.status ≠ .void) (.failedPrecondition "Linked accounting document is VOID")
    return doc

def matchBank (documentId : ℕ) (b : BankTransaction) : BankTransaction :=
  { b with status := .matched, matchedAccountingDocumentId := some documentId }

def acceptProposal (acceptedBy : ℕ) (now : ℤ) (prop : ReconciliationProposal) :
    ReconciliationProposal :=
  { prop with status := .accepted, acceptedBy := some acceptedBy, acceptedAt := some now }

/-- The bank transaction has to be unreconciled, and the proposal pending. -/
def claimBankTransaction (db : LedgerDb) (p : AcceptProposalParams) (prop : ReconciliationProposal)
    (answers : LedgerAnswers) : Except ApiError LedgerDb :=
  match (db.ownBank? p.workspaceId prop.bankTransactionId).filter (·.status = .unreconciled) with
  | none => .error (.failedPrecondition
      "BANK_TRANSACTION_ALREADY_MATCHED: Giao dịch ngân hàng đã được đối soát hoặc không còn ở trạng thái UNRECONCILED")
  | some bankTx =>
    match (db.ownProposal? p.workspaceId p.proposalId).filter (·.status = .pending) with
    | none => .error (.failedPrecondition "Reconciliation proposal is no longer PENDING")
    | some row => .ok { db with
        bankTransactions := db.bankTransactions.set prop.bankTransactionId
          (matchBank prop.accountingDocumentId bankTx)
        proposals := db.proposals.set p.proposalId
          (acceptProposal p.acceptedBy answers.now row) }

end JavisSaas.Company.Finance
