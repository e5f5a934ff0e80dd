import JavisSaas.Lib.Calls
import JavisSaas.Company.Finance.Ledger

/-!
# Ledger calls in flight

Postings, periods that are opened and closed, and proposals that are accepted. A posting locks the
open periods that it finds in share mode until it ends; a period that none has locked is closed. An
acceptance reads three rows and writes two. Ghosts record what was posted, voided and matched.

* `ledgerChange_of_step`: everything that one step of `ledger` may do.
* `ledgerRule`: an invariant that every change keeps.
-/

namespace JavisSaas.Company.Finance

open JavisSaas.Lib

/-! ## The calls -/

/-- What is posted under the guard. -/
inductive PostingOp
  | transaction (params : RecordFinancialTransactionParams)
  | bookEntry (ctx : TenantContext) (input : CreateBookEntryInput)
  | confirm (workspaceId documentId confirmedBy : ℕ)
  | void (workspaceId documentId : ℕ) (voidReason : String)

inductive LedgerReq
  | openPeriod (params : OpenAccountingPeriodParams)
  | closePeriod (id : ℕ)
  | post (op : PostingOp)
  | createDraft (p : DraftDocumentParams)
  | propose (p : ProposeReconciliationParams)
  | accept (p : AcceptProposalParams)

/-- What is left of a call. -/
inductive LedgerCall
  | openPeriod (params : OpenAccountingPeriodParams)
  | closePeriod (id : ℕ)
  | post (op : PostingOp)
  /-- A posting in the transaction with this number. -/
  | posting (txn : ℕ)
  | createDraft (p : DraftDocumentParams)
  | propose (p : ProposeReconciliationParams)
  | accept (p : AcceptProposalParams)
  | acceptBank (p : AcceptProposalParams) (prop : ReconciliationProposal)
  | acceptDocument (p : AcceptProposalParams) (prop : ReconciliationProposal)
  | acceptCommit (p : AcceptProposalParams) (prop : ReconciliationProposal)
      (doc : AccountingDocument)

def LedgerReq.call : LedgerReq → LedgerCall
  | openPeriod params => .openPeriod params
  | closePeriod id => .closePeriod id
  | post op => .post op
  | createDraft p => .createDraft p
  | propose p => .propose p
  | accept p => .accept p

/-- The query of a posting that comes next. -/
inductive PostingQuery
  | closed
  | opened
  | any
  /-- The period that a book entry declares. -/
  | declared
  | commit
  deriving DecidableEq

/-- The transaction of a posting, the document that it has read and the periods that it has
    locked. -/
structure Posting where
  op : PostingOp
  guard : AssertOpenPostingPeriodParams
  doc? : Option AccountingDocument := none
  query : PostingQuery := .closed
  locked : List ℕ := []

/-- Ghost: a posting, and the periods when it was committed. -/
structure Posted where
  guard : AssertOpenPostingPeriodParams
  periods : Dict ℕ AccountingPeriod

/-- Ghost: a match, and the status of the document when it was committed. -/
structure Matched where
  bankTransactionId : ℕ
  documentId : ℕ
  documentStatus : Option DocumentStatus

structure Ledger where
  db : LedgerDb := {}
  postings : Dict ℕ Posting := ∅
  nextTxn : ℕ := 0
  posted : List Posted := []
  voided : List ℕ := []
  matched : List Matched := []

section Steps

variable (U : UpperCase) (T : DateType)

/-- What a posting reads before its guard. -/
def PostingOp.begin (db : LedgerDb) (op : PostingOp) : Except ApiError Posting :=
  match op with
  | transaction params =>
    .ok { op, guard := ⟨params.workspaceId, params.legalEntityId, params.transactionDate⟩ }
  | bookEntry ctx input => do
    require (0 < input.amountMinor) (.invalidArgument "amountMinor must be positive")
    return { op, guard := ⟨ctx.workspaceId, some input.legalEntityId, input.effectiveDate⟩ }
  | confirm workspaceId documentId _ => do
    let doc ← confirmable db workspaceId documentId
    return { op, guard := ⟨workspaceId, none, T.print doc.documentDate⟩, doc? := some doc }
  | void workspaceId documentId _ => do
    let doc ← loadDocument db workspaceId documentId
    return { op, guard := ⟨workspaceId, none, T.print doc.documentDate⟩, doc? := some doc }

/-- What follows the guard. -/
def PostingOp.afterGuard : PostingOp → PostingQuery
  | bookEntry _ _ => .declared
  | _ => .commit

/-- The write of a posting; `none` if there is nothing to write. -/
def PostingOp.commit (db : LedgerDb) (answers : LedgerAnswers) :
    PostingOp → Except ApiError (Option LedgerDb)
  | transaction params => insertTransaction U T db params answers
  | bookEntry ctx input => do
    let db ← insertBookEntry T db ctx input answers
    return some db
  | confirm workspaceId documentId confirmedBy => do
    let db ← confirmDocument db workspaceId documentId confirmedBy answers
    return some db
  | void workspaceId documentId voidReason => do
    let db ← voidDocument db workspaceId documentId voidReason
    return some db

/-- The document that a posting voids. -/
def PostingOp.voids : PostingOp → List ℕ
  | void _ documentId _ => [documentId]
  | _ => []

/-- The next query of a posting, and in the end its write. -/
def continuePosting (s : Ledger) (txn : ℕ) (a : Posting) (answers : LedgerAnswers) :
    Except ApiError (Ledger × Option LedgerCall) :=
  let goOn (a : Posting) : Ledger × Option LedgerCall :=
    ({ s with postings := s.postings.set txn a }, some (.posting txn))
  match a.query with
  | .closed => do
    closedQuery T s.db a.guard
    return goOn { a with query := .opened }
  | .opened =>
    match openQuery T s.db a.guard with
    | [] => .ok (goOn { a with query := .any })
    | locked => .ok (goOn { a with query := a.op.afterGuard, locked })
  | .any => do
    anyQuery s.db a.guard
    return goOn { a with query := a.op.afterGuard }
  | .declared =>
    match a.op with
    | .bookEntry ctx input => do
      declaredPeriod T s.db ctx input
      return goOn { a with query := .commit }
    | _ => .ok (goOn { a with query := .commit })
  | .commit => do
    match ← a.op.commit U T s.db answers with
    | none => return ({ s with postings := s.postings.erase txn }, none)
    | some db => return ({ s with
      db
      postings := s.postings.erase txn
      posted := s.posted ++ [⟨a.guard, s.db.periods⟩]
      voided := s.voided ++ a.op.voids }, none)

/-- A period is closed under a lock of its row. -/
def LedgerCall.waits (s : Ledger) : LedgerCall → Bool
  | .closePeriod id => s.postings.values.any fun a => id ∈ a.locked
  | _ => false

/-- The next step of a call; an error ends it. -/
def LedgerCall.perform (s : Ledger) (answers : LedgerAnswers) :
    LedgerCall → Except ApiError (Ledger × Option LedgerCall)
  | .openPeriod params => do
    let db ← openAccountingPeriodService T s.db params answers
    return ({ s with db }, none)
  | .closePeriod id => do
    let db ← closeAccountingPeriodService s.db id answers
    return ({ s with db }, none)
  | .post op => do
    let a ← op.begin T s.db
    return ({ s with postings := s.postings.set s.nextTxn a, nextTxn := s.nextTxn + 1 },
      some (.posting s.nextTxn))
  | .posting txn =>
    match s.postings.get? txn with
    | some a => continuePosting U T s txn a answers
    | none => .ok (s, none)
  | .createDraft p => do
    let db ← createDraftDocumentService T s.db p answers
    return ({ s with db }, none)
  | .propose p => do
    let db ← proposeReconciliationService s.db p answers
    return ({ s with db }, none)
  | .accept p => do
    let prop ← pendingProposal s.db p
    return (s, some (.acceptBank p prop))
  | .acceptBank p prop => do
    unreconciledBank s.db p prop
    return (s, some (.acceptDocument p prop))
  | .acceptDocument p prop => do
    let doc ← liveDocument s.db p prop
    return (s, some (.acceptCommit p prop doc))
  | .acceptCommit p prop _ => do
    let db ← claimBankTransaction s.db p prop answers
    let status := (s.db.documents.get? prop.accountingDocumentId).map (·.status)
    let m : Matched := ⟨prop.bankTransactionId, prop.accountingDocumentId, status⟩
    return ({ s with db, matched := s.matched ++ [m] }, none)

/-- The locks of a posting that is rolled back are released. -/
def LedgerCall.rollback (c : LedgerCall) (s : Ledger) : Ledger :=
  match c with
  | .posting txn => { s with postings := s.postings.erase txn }
  | _ => s

def ledger : Service LedgerReq Ledger LedgerCall LedgerAnswers where
  start := LedgerReq.call
  step s c answers :=
    if c.waits s then none
    else match c.perform U T s answers with
      | .ok r => some r
      | .error _ => some (c.rollback s, none)
  abort := LedgerCall.rollback

end Steps

/-! ## What a step does -/

/-- What a query of a posting makes of it. -/
inductive Queried (T : DateType) (db : LedgerDb) (a : Posting) : Posting → Prop
  | closed (hquery : a.query = .closed) (h : closedQuery T db a.guard = .ok ()) :
    Queried T db a { a with query := .opened }
  | opened (hquery : a.query = .opened) :
    Queried T db a { a with query := a.op.afterGuard, locked := openQuery T db a.guard }
  | none (hquery : a.query = .opened) : Queried T db a { a with query := .any }
  | any (hquery : a.query = .any) : Queried T db a { a with query := a.op.afterGuard }
  | declared (hquery : a.query = .declared) : Queried T db a { a with query := .commit }

/-- The writes that need no guard. -/
inductive Unguarded (s : Ledger) (answers : LedgerAnswers) : LedgerCall → LedgerDb → Prop
  | openPeriod (params : OpenAccountingPeriodParams) (startDate endDate : ℤ)
    (hnew : s.db.periods.get? answers.newId = none) :
    Unguarded s answers (.openPeriod params)
      (s.db.putPeriod answers.newId (newPeriod params startDate endDate answers.newId))
  | closePeriod (id : ℕ) (p : AccountingPeriod) (hget : s.db.periods.get? id = some p)
    (hfree : ∀ a ∈ s.postings.values, id ∉ a.locked) :
    Unguarded s answers (.closePeriod id) (s.db.putPeriod id (closePeriod answers.now p))
  | createDraft (p : DraftDocumentParams) (documentDate : ℤ)
    (hnew : s.db.documents.get? answers.newId = none) :
    Unguarded s answers (.createDraft p)
      (s.db.putDocument answers.newId (newDocument p documentDate answers.newId))
  | propose (p : ProposeReconciliationParams) (proposals : Dict ℕ ReconciliationProposal) :
    Unguarded s answers (.propose p) { s.db with proposals }

section Changes

variable (U : UpperCase) (T : DateType)

/-- Everything that one step of a call may do. -/
inductive LedgerChange (s : Ledger) (answers : LedgerAnswers) : LedgerCall → Ledger → Prop
  | same (c : LedgerCall) : LedgerChange s answers c s
  | unguarded (c : LedgerCall) (db : LedgerDb) (h : Unguarded s answers c db) :
    LedgerChange s answers c { s with db }
  | began (op : PostingOp) (a : Posting) (h : op.begin T s.db = .ok a) :
    LedgerChange s answers (.post op)
      { s with postings := s.postings.set s.nextTxn a, nextTxn := s.nextTxn + 1 }
  | queried (txn : ℕ) (a a' : Posting) (hget : s.postings.get? txn = some a)
    (h : Queried T s.db a a') :
    LedgerChange s answers (.posting txn) { s with postings := s.postings.set txn a' }
  | ended (txn : ℕ) : LedgerChange s answers (.posting txn)
      { s with postings := s.postings.erase txn }
  | posted (txn : ℕ) (a : Posting) (db : LedgerDb) (hget : s.postings.get? txn = some a)
    (hquery : a.query = .commit) (hcommit : a.op.commit U T s.db answers = .ok (some db)) :
    LedgerChange s answers (.posting txn)
      { s with
        db
        postings := s.postings.erase txn
        posted := s.posted ++ [⟨a.guard, s.db.periods⟩]
        voided := s.voided ++ a.op.voids }
  | matched (p : AcceptProposalParams) (prop : ReconciliationProposal) (doc : AccountingDocument)
    (db : LedgerDb) (h : claimBankTransaction s.db p prop answers = .ok db) :
    LedgerChange s answers (.acceptCommit p prop doc)
      { s with
        db
        matched := s.matched ++ [⟨prop.bankTransactionId, prop.accountingDocumentId,
          (s.db.documents.get? prop.accountingDocumentId).map (·.status)⟩] }

variable {U} {T} {s s' : Ledger} {c : LedgerCall} {c' : Option LedgerCall} {answers : LedgerAnswers}

theorem claim_eq_ok {p : AcceptProposalParams} {prop : ReconciliationProposal} {db' : LedgerDb}
    (h : claimBankTransaction s.db p prop answers = .ok db') :
    ∃ bankTx proposals, s.db.bankTransactions.get? prop.bankTransactionId = some bankTx ∧
      bankTx.status = .unreconciled ∧ db' = { s.db with
        bankTransactions := s.db.bankTransactions.set prop.bankTransactionId
          (matchBank prop.accountingDocumentId bankTx)
        proposals } := by
  unfold claimBankTransaction at h
  split at h
  · nomatch h
  · next bankTx hbank =>
    obtain ⟨hown, hstatus⟩ := Option.filter_eq_some_iff.mp hbank
    obtain ⟨hget, -⟩ := Option.filter_eq_some_iff.mp hown
    split at h
    · nomatch h
    · cases h
      exact ⟨bankTx, _, hget, of_decide_eq_true hstatus, rfl⟩

theorem periods_of_claim {p : AcceptProposalParams} {prop : ReconciliationProposal}
    {db' : LedgerDb} (h : claimBankTransaction s.db p prop answers = .ok db') :
    db'.periods = s.db.periods := by
  obtain ⟨bankTx, proposals, -, -, rfl⟩ := claim_eq_ok h
  rfl

theorem ledger_step_eq_some :
    (ledger U T).step s c answers = some (s', c') ↔ c.waits s = false ∧
      (c.perform U T s answers = .ok (s', c') ∨
        ∃ e, c.perform U T s answers = .error e ∧ c.rollback s = s' ∧ c' = none) := by
  show (if _ then _ else _) = _ ↔ _
  cases c.waits s with
  | true => simp
  | false =>
    cases c.perform U T s answers with
    | ok => simp
    | error => simp [eq_comm]

theorem requireNewRow_eq_ok {V : Type} {table : Dict ℕ V} {id : ℕ} {u : Unit} :
    requireNewRow table id = .ok u ↔ table.get? id = none := by
  rw [requireNewRow, require_eq_ok, Option.isNone_iff_eq_none]

theorem change_of_posting {txn : ℕ} {a : Posting} (hget : s.postings.get? txn = some a)
    (h : continuePosting U T s txn a answers = .ok (s', c')) :
    LedgerChange U T s answers (.posting txn) s' ∧ ∀ d ∈ c', d = .posting txn := by
  have hgoOn : ∀ d ∈ some (LedgerCall.posting txn), d = .posting txn := by
    rintro _ ⟨⟩
    rfl
  unfold continuePosting at h
  split at h
  · next hquery =>
    obtain ⟨_, hclosed, h⟩ := bind_eq_ok.mp h
    cases h
    exact ⟨.queried txn a _ hget (.closed hquery hclosed), hgoOn⟩
  · next hquery =>
    split at h
    · cases h
      exact ⟨.queried txn a _ hget (.none hquery), hgoOn⟩
    · cases h
      exact ⟨.queried txn a _ hget (.opened hquery), hgoOn⟩
  · next hquery =>
    obtain ⟨_, h⟩ := of_bind h
    cases h
    exact ⟨.queried txn a _ hget (.any hquery), hgoOn⟩
  · next hquery =>
    split at h
    · obtain ⟨_, h⟩ := of_bind h
      cases h
      exact ⟨.queried txn a _ hget (.declared hquery), hgoOn⟩
    · cases h
      exact ⟨.queried txn a _ hget (.declared hquery), hgoOn⟩
  · next hquery =>
    obtain ⟨o, hcommit, h⟩ := bind_eq_ok.mp h
    cases o with
    | none =>
      cases h
      exact ⟨.ended txn, fun _ hd => nomatch hd⟩
    | some db =>
      cases h
      exact ⟨.posted txn a db hget hquery hcommit, fun _ hd => nomatch hd⟩

theorem change_of_closePeriod {id : ℕ} {db : LedgerDb}
    (hwaits : (LedgerCall.closePeriod id).waits s = false)
    (h : closeAccountingPeriodService s.db id answers = .ok db) :
    LedgerChange U T s answers (.closePeriod id) { s with db } := by
  have hfree : ∀ a ∈ s.postings.values, id ∉ a.locked := by
    intro a ha
    exact of_decide_eq_false (List.any_eq_false.mp hwaits a ha |> Bool.eq_false_iff.mpr)
  unfold closeAccountingPeriodService at h
  split at h
  · nomatch h
  · next p hget =>
    split_ifs at h
    · cases h
      exact .same _
    · cases h
      exact .unguarded _ _ (.closePeriod id p hget hfree)

theorem ledgerChange_of_perform (hwaits : c.waits s = false)
    (h : c.perform U T s answers = .ok (s', c')) : LedgerChange U T s answers c s' := by
  cases c with
  | openPeriod params =>
    obtain ⟨db, hdb, h⟩ := bind_eq_ok.mp h
    cases h
    unfold openAccountingPeriodService at hdb
    obtain ⟨startDate, hdb⟩ := of_bind hdb
    obtain ⟨endDate, hdb⟩ := of_bind hdb
    obtain ⟨_, hnew, hdb⟩ := bind_eq_ok.mp hdb
    cases hdb
    exact .unguarded _ _ (.openPeriod params startDate endDate (requireNewRow_eq_ok.mp hnew))
  | closePeriod =>
    obtain ⟨db, hdb, h⟩ := bind_eq_ok.mp h
    cases h
    exact change_of_closePeriod hwaits hdb
  | post op =>
    obtain ⟨a, ha, h⟩ := bind_eq_ok.mp h
    cases h
    exact .began op a ha
  | posting =>
    simp only [LedgerCall.perform] at h
    split at h
    · next a hget => exact (change_of_posting hget h).1
    · cases h
      exact .same _
  | createDraft p =>
    obtain ⟨db, hdb, h⟩ := bind_eq_ok.mp h
    cases h
    unfold createDraftDocumentService at hdb
    obtain ⟨documentDate, hdb⟩ := of_bind hdb
    obtain ⟨_, hnew, hdb⟩ := bind_eq_ok.mp hdb
    cases hdb
    exact .unguarded _ _ (.createDraft p documentDate (requireNewRow_eq_ok.mp hnew))
  | propose p =>
    obtain ⟨db, hdb, h⟩ := bind_eq_ok.mp h
    cases h
    simp only [proposeReconciliationService, require_bind_eq_ok] at hdb
    obtain ⟨-, -, -, hdb⟩ := hdb
    obtain ⟨_, hdb⟩ := of_bind hdb
    cases hdb
    exact .unguarded _ _ (.propose p _)
  | accept =>
    obtain ⟨prop, -, h⟩ := bind_eq_ok.mp h
    cases h
    exact .same _
  | acceptBank | acceptDocument =>
    obtain ⟨_, h⟩ := of_bind h
    cases h
    exact .same _
  | acceptCommit p prop doc =>
    obtain ⟨db, hdb, h⟩ := bind_eq_ok.mp h
    cases h
    exact .matched p prop doc db hdb

theorem ledgerChange_of_rollback : LedgerChange U T s answers c (c.rollback s) := by
  cases c with
  | posting txn => exact .ended txn
  | _ => exact .same _

theorem ledgerChange_of_step (h : (ledger U T).step s c answers = some (s', c')) :
    LedgerChange U T s answers c s' := by
  obtain ⟨hwaits, hperform | ⟨e, -, rfl, -⟩⟩ := ledger_step_eq_some.mp h
  · exact ledgerChange_of_perform hwaits hperform
  · exact ledgerChange_of_rollback

end Changes

/-- The document that an acceptance has read is not void. -/
def LedgerCall.Live : LedgerCall → Prop
  | .acceptCommit _ _ doc => doc.status ≠ .void
  | _ => True

theorem live_of_step {U : UpperCase} {T : DateType} {s s' : Ledger} {c : LedgerCall}
    {c' : Option LedgerCall} {answers : LedgerAnswers}
    (h : (ledger U T).step s c answers = some (s', c')) : ∀ d ∈ c', d.Live := by
  obtain ⟨-, h | ⟨e, -, -, rfl⟩⟩ := ledger_step_eq_some.mp h
  · cases c with
    | posting =>
      simp only [LedgerCall.perform] at h
      split at h
      · next a hget =>
        intro d hd
        rw [(change_of_posting hget h).2 d hd]
        trivial
      · cases h
        exact fun _ hd => nomatch hd
    | acceptDocument =>
      unfold LedgerCall.perform at h
      obtain ⟨doc, hlive, h⟩ := bind_eq_ok.mp h
      cases h
      rintro _ ⟨⟩
      unfold liveDocument at hlive
      split at hlive
      · nomatch hlive
      · obtain ⟨hne, hlive⟩ := require_bind_eq_ok.mp hlive
        cases hlive
        exact hne
    | post | accept | acceptBank =>
      obtain ⟨_, h⟩ := of_bind h
      cases h
      rintro _ ⟨⟩
      trivial
    | _ =>
      obtain ⟨_, h⟩ := of_bind h
      cases h
      exact fun _ hd => nomatch hd
  · exact fun _ hd => nomatch hd

/-- An invariant of the store is kept by the calls if every change keeps it. -/
theorem ledgerRule {U : UpperCase} {T : DateType} {G : Ledger → LedgerCall → LedgerAnswers → Prop}
    {I : Ledger → Prop}
    (h : ∀ s c answers s', I s → c.Live → G s c answers → LedgerChange U T s answers c s' → I s')
    (hended : ∀ s txn, I s → I { s with postings := s.postings.erase txn }) :
    (ledger U T).Rule G I fun _ c => c.Live where
  start _ req _ := by cases req <;> trivial
  step s c answers s' c' hI hJ hG hs :=
    ⟨h s c answers s' hI hJ hG (ledgerChange_of_step hs), fun _ hd => hd, live_of_step hs⟩
  abort s c hI _ := by
    refine ⟨?_, fun _ hd => hd⟩
    cases c with
    | posting txn => exact hended s txn hI
    | _ => exact hI

/-- Nothing yet but bank transactions. -/
def openLedger (bankTransactions : List BankTransaction) : InFlight Ledger LedgerCall where
  store := { db := { bankTransactions := Dict.ofRows BankTransaction.id bankTransactions } }

end JavisSaas.Company.Finance
