import JavisSaas.Company.Finance.PeriodClosing

/-!
# Documents that are confirmed, voided and matched

A void document should not be confirmed, none twice, and no bank transaction be matched to a void
one. But a confirmation refuses only what is confirmed already and writes without comparing, and an
acceptance looks at the document before it writes.

* `documentLaw_of_run`: the law, if no confirmation reads a void document, and what was read of a
  document still stands at the write.
* `not_documentLaw_voided`: a voided document is confirmed.
-/

namespace JavisSaas.Company.Finance

open JavisSaas.Lib

/-! ## The law -/

/-- The confirmation events of a document. -/
def LedgerDb.confirmations (db : LedgerDb) (id : ℕ) : List DocumentConfirmed :=
  db.outbox.filter (·.documentId = id)

structure DocumentLaw (s : Ledger) : Prop where
  voided : ∀ id ∈ s.voided, ∀ doc ∈ s.db.documents.get? id, doc.status ≠ .confirmed
  once : ∀ id, (s.db.confirmations id).length ≤ 1
  matchedOnce : (s.matched.map (·.bankTransactionId)).Nodup
  matchedLive : ∀ m ∈ s.matched, m.documentStatus ≠ some .void

/-- No confirmation is asked of a void document; what was read of a document still stands at the
write. -/
def KeepsDocuments (s : Ledger) (c : LedgerCall) (_ : LedgerAnswers) : Prop :=
  match c with
  | .post (.confirm _ id _) => ∀ doc ∈ s.db.documents.get? id, doc.status ≠ .void
  | .posting txn => ∀ a ∈ s.postings.get? txn, a.query = .commit →
    match a.op with
    | .confirm _ id _ => ∀ read ∈ a.doc?, ∀ doc ∈ s.db.documents.get? id, doc.status = read.status
    | _ => True
  | .acceptCommit _ prop read => ∀ bankTx ∈ s.db.bankTransactions.get? prop.bankTransactionId,
    bankTx.status = .unreconciled → ∀ doc ∈ s.db.documents.get? prop.accountingDocumentId,
      doc.status = .void → read.status = .void
  | _ => True

instance (s : Ledger) (a : Posting) : (op : PostingOp) → Decidable (match op with
    | .confirm _ id _ => ∀ read ∈ a.doc?, ∀ doc ∈ s.db.documents.get? id, doc.status = read.status
    | _ => True)
  | .confirm _ _ _ => inferInstanceAs (Decidable (∀ _ ∈ _, ∀ _ ∈ _, _))
  | .transaction _ | .bookEntry _ _ | .void _ _ _ => instDecidableTrue

instance (s : Ledger) (answers : LedgerAnswers) : (c : LedgerCall) →
    Decidable (KeepsDocuments s c answers)
  | .posting _ => inferInstanceAs (Decidable (∀ _ ∈ _, _ → _))
  | .acceptCommit _ _ _ => inferInstanceAs (Decidable (∀ _ ∈ _, _ → ∀ _ ∈ _, _ → _))
  | .post (.confirm _ _ _) => inferInstanceAs (Decidable (∀ _ ∈ _, _))
  | .post (.transaction _) | .post (.bookEntry _ _) | .post (.void _ _ _) | .openPeriod _
  | .closePeriod _ | .createDraft _ | .propose _ | .accept _ | .acceptBank _ _
  | .acceptDocument _ _ => instDecidableTrue

/-! ## Every step -/

structure DocumentsKept (s : Ledger) : Prop where
  keyed : ∀ id doc, s.db.documents.get? id = some doc → doc.id = id
  once : ∀ id, (s.db.confirmations id).length ≤ 1
  /-- Neither a draft nor a document to come has an event. -/
  draft : ∀ id, (∀ doc ∈ s.db.documents.get? id, doc.status = .draft) → s.db.confirmations id = []
  voided : ∀ id ∈ s.voided, ∃ doc, s.db.documents.get? id = some doc ∧ doc.status = .void
  matchedOnce : (s.matched.map (·.bankTransactionId)).Nodup
  matchedBank : ∀ m ∈ s.matched, ∃ bankTx,
    s.db.bankTransactions.get? m.bankTransactionId = some bankTx ∧ bankTx.status = .matched
  matchedLive : ∀ m ∈ s.matched, m.documentStatus ≠ some .void
  /-- A confirmation has read a draft. -/
  read : ∀ txn a, s.postings.get? txn = some a → ∀ workspaceId id confirmedBy,
    a.op = .confirm workspaceId id confirmedBy → ∃ doc ∈ a.doc?, doc.status = .draft

/-- A bank transaction is matched once, and stays matched. -/
structure MatchedOnce (s : Ledger) : Prop where
  once : (s.matched.map (·.bankTransactionId)).Nodup
  bank : ∀ m ∈ s.matched, ∃ bankTx,
    s.db.bankTransactions.get? m.bankTransactionId = some bankTx ∧ bankTx.status = .matched

theorem DocumentsKept.law {s : Ledger} (h : DocumentsKept s) : DocumentLaw s where
  voided id hid doc hdoc := by
    obtain ⟨doc', hdoc', hvoid⟩ := h.voided id hid
    cases hdoc'.symm.trans hdoc
    rw [hvoid]
    exact fun h => nomatch h
  once := h.once
  matchedOnce := h.matchedOnce
  matchedLive := h.matchedLive

/-- What the write of a posting makes of the documents. -/
inductive DocumentWrite (db : LedgerDb) (answers : LedgerAnswers) : PostingOp → LedgerDb → Prop
  | transaction (params : RecordFinancialTransactionParams)
    (transactions : Dict ℕ FinancialTransaction) :
    DocumentWrite db answers (.transaction params) { db with transactions }
  | bookEntry (ctx : TenantContext) (input : CreateBookEntryInput)
    (entries : Dict ℕ AccountingBookEntry) :
    DocumentWrite db answers (.bookEntry ctx input) { db with entries }
  | confirm (workspaceId id confirmedBy : ℕ) (doc : AccountingDocument)
    (hget : db.documents.get? id = some doc) :
    DocumentWrite db answers (.confirm workspaceId id confirmedBy)
      { db.putDocument id (markConfirmed confirmedBy answers.now doc) with
        outbox := db.outbox ++ [documentConfirmed confirmedBy answers.now doc] }
  | void (workspaceId id : ℕ) (voidReason : String) (doc : AccountingDocument)
    (hget : db.documents.get? id = some doc) :
    DocumentWrite db answers (.void workspaceId id voidReason)
      (db.putDocument id (markVoid voidReason doc))

section Step

variable {U : UpperCase} {T : DateType} {s s' : Ledger} {c : LedgerCall} {answers : LedgerAnswers}
  {db db' : LedgerDb}

theorem documentWrite_of_commit {op : PostingOp}
    (h : op.commit U T db answers = .ok (some db')) : DocumentWrite db answers op db' := by
  cases op with
  | transaction params =>
    simp only [PostingOp.commit, insertTransaction] at h
    split_ifs at h
    · cases h
    · have h := of_require h
      obtain ⟨_, h⟩ := of_bind h
      obtain ⟨_, h⟩ := of_bind h
      cases h
      exact .transaction params _
  | bookEntry ctx input =>
    obtain ⟨db₁, hdb₁, h⟩ := bind_eq_ok.mp h
    cases h
    unfold insertBookEntry at hdb₁
    obtain ⟨_, hdb₁⟩ := of_bind hdb₁
    obtain ⟨_, hdb₁⟩ := of_bind hdb₁
    cases hdb₁
    exact .bookEntry ctx input _
  | confirm workspaceId id confirmedBy =>
    obtain ⟨db₁, hdb₁, h⟩ := bind_eq_ok.mp h
    cases h
    unfold confirmDocument at hdb₁
    split at hdb₁
    · cases hdb₁
    · next doc hdoc =>
      cases hdb₁
      exact .confirm workspaceId id confirmedBy doc (Option.filter_eq_some_iff.mp hdoc).1
  | void workspaceId id voidReason =>
    obtain ⟨db₁, hdb₁, h⟩ := bind_eq_ok.mp h
    cases h
    unfold voidDocument at hdb₁
    split at hdb₁
    · cases hdb₁
    · next doc hdoc =>
      cases hdb₁
      exact .void workspaceId id voidReason doc (Option.filter_eq_some_iff.mp hdoc).1

theorem documents_putDocument {id id' : ℕ} {doc : AccountingDocument} :
    (db.putDocument id doc).documents.get? id' =
      if id = id' then some doc else db.documents.get? id' :=
  Dict.get?_set _ _ _ _

/-- A document that is put there leaves those that were voided before. -/
theorem DocumentsKept.voided_put (h : DocumentsKept s) {id : ℕ} {doc : AccountingDocument}
    (hdoc : id ∈ s.voided → doc.status = .void) : ∀ id' ∈ s.voided,
      ∃ doc', (s.db.putDocument id doc).documents.get? id' = some doc' ∧ doc'.status = .void := by
  intro id' hid'
  rw [documents_putDocument]
  split_ifs with heq
  · subst heq
    exact ⟨doc, rfl, hdoc hid'⟩
  · exact h.voided id' hid'

theorem DocumentsKept.keyed_put (h : DocumentsKept s) {id : ℕ} {doc : AccountingDocument}
    (hdoc : doc.id = id) : ∀ id' doc', (s.db.putDocument id doc).documents.get? id' = some doc' →
      doc'.id = id' := by
  intro id' doc' hget
  rw [documents_putDocument] at hget
  split_ifs at hget with heq
  · cases hget
    exact hdoc.trans heq
  · exact h.keyed id' doc' hget

theorem DocumentsKept.created (h : DocumentsKept s) {p : DraftDocumentParams} {documentDate : ℤ}
    (hnew : s.db.documents.get? answers.newId = none) :
    DocumentsKept { s with
      db := s.db.putDocument answers.newId (newDocument p documentDate answers.newId) } := by
  have hnone : ∀ doc ∈ s.db.documents.get? answers.newId, doc.status = .draft := by
    rw [hnew]
    exact fun _ h => nomatch h
  have hvoided : answers.newId ∉ s.voided := by
    intro hid
    obtain ⟨doc, hdoc, -⟩ := h.voided _ hid
    nomatch hnew.symm.trans hdoc
  refine ⟨h.keyed_put rfl, h.once, fun id hdraft => ?_, ?_, h.matchedOnce, h.matchedBank,
    h.matchedLive, h.read⟩
  · rw [documents_putDocument] at hdraft
    split_ifs at hdraft with heq
    · subst heq
      exact h.draft _ hnone
    · exact h.draft id hdraft
  · exact h.voided_put fun hid => absurd hid hvoided

theorem DocumentsKept.posted (h : DocumentsKept s) {op : PostingOp} {posted : List Posted}
    (hwrite : DocumentWrite s.db answers op db)
    (hdraft : ∀ workspaceId id confirmedBy, op = .confirm workspaceId id confirmedBy →
      ∀ doc ∈ s.db.documents.get? id, doc.status = .draft) :
    DocumentsKept { s with db, posted, voided := s.voided ++ op.voids } := by
  cases hwrite with
  | transaction | bookEntry =>
    exact ⟨h.keyed, h.once, h.draft, by simpa [PostingOp.voids] using h.voided, h.matchedOnce,
      h.matchedBank, h.matchedLive, h.read⟩
  | confirm _ id confirmedBy doc hget =>
    have hid := h.keyed id doc hget
    have hnone := h.draft id (hdraft _ _ _ rfl)
    have hevents : ∀ id', (s.db.outbox ++ [documentConfirmed confirmedBy answers.now doc]).filter
        (·.documentId = id') = s.db.confirmations id' ++
          if id = id' then [documentConfirmed confirmedBy answers.now doc] else [] := by
      intro id'
      rw [List.filter_append]
      congr 1
      by_cases heq : id = id'
      · rw [if_pos heq, List.filter_eq_self]
        simp [documentConfirmed, hid, heq]
      · rw [if_neg heq, List.filter_eq_nil_iff]
        simp [documentConfirmed, hid, heq]
    have hvoided : id ∉ s.voided := by
      intro hmem
      obtain ⟨doc', hdoc', hvoid⟩ := h.voided id hmem
      nomatch (hdraft _ _ _ rfl doc' hdoc').symm.trans hvoid
    refine ⟨h.keyed_put hid, fun id' => ?_, fun id' hdraft' => ?_, ?_, h.matchedOnce,
      h.matchedBank, h.matchedLive, h.read⟩
    · show (List.filter _ _).length ≤ 1
      rw [hevents]
      split_ifs with heq
      · subst heq
        rw [hnone]
        exact le_rfl
      · rw [List.append_nil]
        exact h.once id'
    · show List.filter _ _ = []
      rw [hevents]
      have hget' : (s.db.putDocument id (markConfirmed confirmedBy answers.now doc)).documents.get?
          id' = _ := documents_putDocument
      split_ifs with heq
      · rw [if_pos heq] at hget'
        nomatch hdraft' _ hget'
      · rw [if_neg heq] at hget'
        rw [List.append_nil]
        refine h.draft id' fun doc' hdoc' => hdraft' doc' ?_
        rw [← hget'] at hdoc'
        exact hdoc'
    · simp only [PostingOp.voids, List.append_nil]
      exact h.voided_put fun hmem => absurd hmem hvoided
  | void _ id voidReason doc hget =>
    refine ⟨h.keyed_put (h.keyed id doc hget), h.once, fun id' hdraft' => ?_, ?_, h.matchedOnce,
      h.matchedBank, h.matchedLive, h.read⟩
    · have hget' : (s.db.putDocument id (markVoid voidReason doc)).documents.get? id' = _ :=
        documents_putDocument
      split_ifs at hget' with heq
      · nomatch hdraft' _ hget'
      · refine h.draft id' fun doc' hdoc' => hdraft' doc' ?_
        rw [← hget'] at hdoc'
        exact hdoc'
    · intro id' hid'
      rcases mem_concat hid' with hid' | rfl
      · exact h.voided_put (fun _ => rfl) id' hid'
      · exact ⟨_, (documents_putDocument).trans (if_pos rfl), rfl⟩

variable {p : AcceptProposalParams} {prop : ReconciliationProposal}

theorem MatchedOnce.matched (h : MatchedOnce s)
    (hclaim : claimBankTransaction s.db p prop answers = .ok db) (status : Option DocumentStatus) :
    MatchedOnce { s with
      db
      matched := s.matched ++ [⟨prop.bankTransactionId, prop.accountingDocumentId, status⟩] } := by
  obtain ⟨bankTx, proposals, hget, hstatus, rfl⟩ := claim_eq_ok hclaim
  have hnew : prop.bankTransactionId ∉ s.matched.map (·.bankTransactionId) := by
    intro hmem
    obtain ⟨m, hm, hid⟩ := List.mem_map.mp hmem
    obtain ⟨bankTx', hget', hmatched⟩ := h.bank m hm
    rw [hid, hget] at hget'
    cases hget'
    nomatch hstatus.symm.trans hmatched
  refine ⟨?_, fun m hm => ?_⟩
  · rw [List.map_append, List.nodup_append]
    refine ⟨h.once, List.nodup_singleton _, fun a ha b hb heq => hnew ?_⟩
    have hb' : b = prop.bankTransactionId := List.mem_singleton.mp hb
    rw [← hb', ← heq]
    exact ha
  · show ∃ bankTx', (s.db.bankTransactions.set _ _).get? _ = _ ∧ _
    rw [Dict.get?_set]
    split_ifs with heq
    · exact ⟨_, rfl, rfl⟩
    · rcases mem_concat hm with hm | hm
      · exact h.bank m hm
      · rw [hm] at heq
        exact absurd rfl heq

/-- Neither a confirmation nor a void touches the bank transactions. -/
theorem MatchedOnce.change (h : MatchedOnce s) (hc : LedgerChange U T s answers c s') :
    MatchedOnce s' := by
  cases hc with
  | unguarded _ _ hwrite => cases hwrite <;> exact ⟨h.once, h.bank⟩
  | posted _ a _ _ _ hcommit =>
    have hwrite := documentWrite_of_commit hcommit
    generalize a.op = op at hwrite
    cases hwrite <;> exact ⟨h.once, h.bank⟩
  | matched _ _ _ _ hclaim => exact h.matched hclaim _
  | _ => exact ⟨h.once, h.bank⟩

theorem DocumentsKept.matched (h : DocumentsKept s)
    (hclaim : claimBankTransaction s.db p prop answers = .ok db)
    (hlive : ∀ bankTx ∈ s.db.bankTransactions.get? prop.bankTransactionId,
      bankTx.status = .unreconciled →
        ∀ doc ∈ s.db.documents.get? prop.accountingDocumentId, doc.status ≠ .void) :
    DocumentsKept { s with
      db
      matched := s.matched ++ [⟨prop.bankTransactionId, prop.accountingDocumentId,
        (s.db.documents.get? prop.accountingDocumentId).map (·.status)⟩] } := by
  obtain ⟨honce, hbank⟩ := MatchedOnce.matched ⟨h.matchedOnce, h.matchedBank⟩ hclaim
    ((s.db.documents.get? prop.accountingDocumentId).map (·.status))
  obtain ⟨bankTx, proposals, hget, hstatus, rfl⟩ := claim_eq_ok hclaim
  refine ⟨h.keyed, h.once, h.draft, h.voided, honce, hbank, fun m hm => ?_, h.read⟩
  rcases mem_concat hm with hm | hm
  · exact h.matchedLive m hm
  · rw [hm]
    intro hvoid
    obtain ⟨doc, hdoc, hstatus'⟩ := Option.map_eq_some_iff.mp hvoid
    exact hlive bankTx hget hstatus doc hdoc hstatus'

theorem DocumentsKept.erase (h : DocumentsKept s) (txn : ℕ) :
    DocumentsKept { s with postings := s.postings.erase txn } := by
  refine ⟨h.keyed, h.once, h.draft, h.voided, h.matchedOnce, h.matchedBank, h.matchedLive,
    fun txn' a ha => ?_⟩
  rw [Dict.get?_erase] at ha
  split_ifs at ha
  exact h.read txn' a ha

theorem DocumentsKept.put (h : DocumentsKept s) {txn nextTxn : ℕ} {a : Posting}
    (hread : ∀ workspaceId id confirmedBy, a.op = .confirm workspaceId id confirmedBy →
      ∃ doc ∈ a.doc?, doc.status = .draft) :
    DocumentsKept { s with postings := s.postings.set txn a, nextTxn } := by
  refine ⟨h.keyed, h.once, h.draft, h.voided, h.matchedOnce, h.matchedBank, h.matchedLive,
    fun txn' a' ha' => ?_⟩
  rw [Dict.get?_set] at ha'
  split_ifs at ha'
  · cases ha'
    exact hread
  · exact h.read txn' a' ha'

/-- A confirmation that begins reads a draft: what is confirmed already is refused. -/
theorem read_of_begin {op : PostingOp} {a : Posting} (h : op.begin T db = .ok a)
    (hvoid : ∀ workspaceId id confirmedBy, op = .confirm workspaceId id confirmedBy →
      ∀ doc ∈ db.documents.get? id, doc.status ≠ .void) :
    ∀ workspaceId id confirmedBy, a.op = .confirm workspaceId id confirmedBy →
      ∃ doc ∈ a.doc?, doc.status = .draft := by
  intro workspaceId id confirmedBy ha
  cases op with
  | transaction =>
    cases h
    nomatch ha
  | bookEntry =>
    have h := of_require h
    cases h
    nomatch ha
  | confirm =>
    obtain ⟨doc, hdoc, h⟩ := bind_eq_ok.mp h
    cases h
    obtain ⟨_, hread, hdoc⟩ := bind_eq_ok.mp hdoc
    obtain ⟨hconfirmed, hdoc⟩ := require_bind_eq_ok.mp hdoc
    cases hdoc
    unfold loadDocument at hread
    split at hread
    · next hget =>
      rw [Except.ok.inj hread] at hget
      have hlive := hvoid _ _ _ rfl doc (Option.filter_eq_some_iff.mp hget).1
      refine ⟨doc, rfl, ?_⟩
      cases hstatus : doc.status with
      | draft => rfl
      | confirmed => exact absurd hstatus hconfirmed
      | void => exact absurd hstatus hlive
    · nomatch hread
  | void =>
    obtain ⟨doc, -, h⟩ := bind_eq_ok.mp h
    cases h
    nomatch ha

theorem DocumentsKept.change (h : DocumentsKept s) (hlive : c.Live)
    (hG : KeepsDocuments s c answers) (hc : LedgerChange U T s answers c s') :
    DocumentsKept s' := by
  cases hc with
  | same => exact h
  | unguarded _ _ hwrite =>
    cases hwrite with
    | createDraft _ _ hnew => exact h.created hnew
    | openPeriod | closePeriod | propose =>
      exact ⟨h.keyed, h.once, h.draft, h.voided, h.matchedOnce, h.matchedBank, h.matchedLive, h.read⟩
  | began _ _ hbegin =>
    refine h.put (read_of_begin hbegin ?_)
    rintro workspaceId id confirmedBy rfl
    exact hG
  | queried txn a _ hget hquery =>
    obtain ⟨-, hop, hdoc⟩ := hquery.guard_eq
    refine h.put ?_
    rw [hop, hdoc]
    exact h.read txn a hget
  | ended txn => exact h.erase txn
  | posted txn a _ hget hquery hcommit =>
    refine (h.posted (documentWrite_of_commit hcommit)
      fun workspaceId id confirmedBy hop doc hdoc => ?_).erase txn
    obtain ⟨read, hread, hdraft⟩ := h.read txn a hget _ _ _ hop
    have hsame := hG a hget hquery
    rw [hop] at hsame
    exact (hsame read hread doc hdoc).trans hdraft
  | matched _ _ _ _ hclaim =>
    exact h.matched hclaim fun bankTx hbank hstatus doc hdoc hvoid =>
      hlive (hG bankTx hbank hstatus doc hdoc hvoid)

end Step

/-! ## Every run -/

theorem documentsKept_openLedger (bankTransactions : List BankTransaction) :
    DocumentsKept (openLedger bankTransactions).store where
  keyed _ _ h := nomatch h
  once _ := Nat.zero_le 1
  draft _ _ := rfl
  voided _ h := absurd h List.not_mem_nil
  matchedOnce := List.nodup_nil
  matchedBank _ h := absurd h List.not_mem_nil
  matchedLive _ h := absurd h List.not_mem_nil
  read _ _ h := nomatch h

/-- If every step keeps the documents, the law holds in every state. -/
theorem documentLaw_of_run (U : UpperCase) (T : DateType) (bankTransactions : List BankTransaction)
    (ls : List (CallLabel LedgerReq LedgerAnswers)) (s : InFlight Ledger LedgerCall)
    (h : (ledger U T).system.Along (Service.Meets KeepsDocuments) (openLedger bankTransactions) ls)
    (hs : (ledger U T).system.run (openLedger bankTransactions) ls = some s) :
    DocumentLaw s.store := by
  have hrule : (ledger U T).Rule KeepsDocuments DocumentsKept fun _ c => c.Live :=
    ledgerRule (fun _ _ _ _ hI hlive hG hc => hI.change hlive hG hc) fun _ txn hI => hI.erase txn
  exact (hrule.inv_of_along (.of_empty (documentsKept_openLedger bankTransactions)) h hs).store.law

/-- No acceptances, however they interleave, match a bank transaction twice. -/
theorem matchedOnce_of_run (U : UpperCase) (T : DateType) (bankTransactions : List BankTransaction)
    {ls : List (CallLabel LedgerReq LedgerAnswers)} {s : InFlight Ledger LedgerCall}
    (h : (ledger U T).system.run (openLedger bankTransactions) ls = some s) :
    MatchedOnce s.store := by
  have hrule : (ledger U T).Rule (fun _ _ _ => True) MatchedOnce fun _ c => c.Live :=
    ledgerRule (fun _ _ _ _ hI _ _ hc => hI.change hc) fun _ _ hI => ⟨hI.once, hI.bank⟩
  have hstart : MatchedOnce (openLedger bankTransactions).store :=
    ⟨List.nodup_nil, fun _ h => absurd h List.not_mem_nil⟩
  exact (hrule.inv_of_run (.of_empty hstart) h).store

/-! ### Runs -/

def invoice : DraftDocumentParams where
  workspaceId := 1
  documentType := .invoice
  number := "INV-1"
  documentDate := "2026-01-15"
  amount := "10.00"
  description := "servers"

/-- Call `i` creates document 50. -/
def draftInvoice (i : ℕ) : List (CallLabel LedgerReq LedgerAnswers) :=
  [.start (.createDraft invoice), ledgerStep i 50]

/-- Call `i` posts with the periods that there are: it begins, runs three queries and commits. -/
def postAtOnce (i : ℕ) (op : PostingOp) : List (CallLabel LedgerReq LedgerAnswers) :=
  .start (.post op) :: List.replicate 5 (ledgerStep i 0)

def proposedMatch : ProposeReconciliationParams where
  workspaceId := 1
  bankTransactionId := 20
  accountingDocumentId := 50
  confidence := "0.9"

/-- The invoice is confirmed, and matched to bank transaction 20. -/
def matchedInvoice : List (CallLabel LedgerReq LedgerAnswers) :=
  draftInvoice 0 ++ postAtOnce 1 (.confirm 1 50 7) ++
    [CallLabel.start (LedgerReq.propose proposedMatch), ledgerStep 2 60,
      .start (.accept { proposalId := 60, workspaceId := 1, acceptedBy := 7 })] ++
    List.replicate 4 (ledgerStep 3 0)

def matchedInvoiceState : InFlight Ledger LedgerCall :=
  ((ledger upperVnd isoDates).system.run (openLedger [outgoing]) matchedInvoice).get (by decide +kernel)

theorem documentLaw_matchedInvoice : DocumentLaw matchedInvoiceState.store :=
  documentLaw_of_run upperVnd isoDates [outgoing] matchedInvoice matchedInvoiceState (by decide +kernel)
    (Option.some_get _).symm

theorem matchedOnce_matchedInvoice : matchedInvoiceState.store.matched ≠ [] ∧
    MatchedOnce matchedInvoiceState.store :=
  ⟨by decide +kernel, matchedOnce_of_run upperVnd isoDates [outgoing] (Option.some_get _).symm⟩

/-- The invoice is voided, and confirmed then. -/
def voidedInvoice : List (CallLabel LedgerReq LedgerAnswers) :=
  draftInvoice 0 ++ postAtOnce 1 (.void 1 50 "wrong amount") ++ postAtOnce 2 (.confirm 1 50 7)

def voidedInvoiceState : InFlight Ledger LedgerCall :=
  ((ledger upperVnd isoDates).system.run (openLedger [outgoing]) voidedInvoice).get (by decide +kernel)

/-- A document that was voided is confirmed. -/
theorem not_documentLaw_voided :
    (ledger upperVnd isoDates).system.run (openLedger [outgoing]) voidedInvoice = some voidedInvoiceState ∧
      ¬DocumentLaw voidedInvoiceState.store := by
  refine ⟨(Option.some_get _).symm, fun h => ?_⟩
  have hconfirmed : ∃ id ∈ voidedInvoiceState.store.voided,
      ∃ doc ∈ voidedInvoiceState.store.db.documents.get? id, doc.status = .confirmed := by
    decide +kernel
  obtain ⟨id, hid, doc, hdoc, hstatus⟩ := hconfirmed
  exact h.voided id hid doc hdoc hstatus

end JavisSaas.Company.Finance
