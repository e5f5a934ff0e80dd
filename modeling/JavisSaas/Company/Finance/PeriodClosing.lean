import JavisSaas.Company.Finance.LedgerCalls
import JavisSaas.Company.Finance.Settlement

/-!
# Postings and closed periods

No posting should commit with a date that a closed period covers, of its legal entity or of the
whole workspace. The guard looks at the periods of the entity only and locks the open ones; a period
of the workspace may be closed already, and one that is not locked may be closed before the commit.

* `periodLaw_of_run`: the law holds if neither happens.
* `refused_onlyEntity`: the periods of other entities refuse nothing.
* `not_periodLaw_workspace`: a closed period of the whole workspace.
-/

namespace JavisSaas.Company.Finance

open JavisSaas.Lib

/-! ## The law -/

/-- The periods of the entity of a posting, and those of the whole workspace. -/
def AssertOpenPostingPeriodParams.concerns (params : AssertOpenPostingPeriodParams)
    (p : AccountingPeriod) : Bool :=
  p.workspaceId = params.workspaceId &&
    (p.legalEntityId = none || params.entity?.isSome && p.legalEntityId = params.entity?)

/-- A closed period that concerns the posting covers its date. -/
def ClosedOver (T : DateType) (periods : Dict ℕ AccountingPeriod)
    (params : AssertOpenPostingPeriodParams) : Prop :=
  ∃ p ∈ periods.values, params.concerns p = true ∧ p.status = .closed ∧
    p.coversDate T params.dateStr = true
deriving Decidable

/-- The tables without the periods of other entities. -/
def LedgerDb.onlyEntity (db : LedgerDb) (e : ℕ) : LedgerDb :=
  { db with periods := db.periods.filter fun p => p.legalEntityId.all (· = e) }

/-- A posting for an entity is not refused because of the period of another one. -/
def SparedByOthers (U : UpperCase) (T : DateType) (s : Ledger) : Prop :=
  ∀ txn a e answers err, s.postings.get? txn = some a → a.guard.entity? = some e →
    continuePosting U T s txn a answers = .error err →
      ∃ err', continuePosting U T { s with db := s.db.onlyEntity e } txn a answers = .error err'

structure PeriodLaw (U : UpperCase) (T : DateType) (s : Ledger) : Prop where
  posted : ∀ x ∈ s.posted, ¬ClosedOver T x.periods x.guard
  spared : SparedByOthers U T s

/-- No period of the whole workspace that covers the date of a posting for an entity is closed. -/
def NoWorkspacePeriod (T : DateType) (periods : Dict ℕ AccountingPeriod)
    (params : AssertOpenPostingPeriodParams) : Prop :=
  params.entity?.isSome = true → ∀ p ∈ periods.values, p.workspaceId = params.workspaceId →
    p.legalEntityId = none → p.status = .closed → p.coversDate T params.dateStr = false
deriving Decidable

/-- A guard begins while no period of the whole workspace is closed over its date; and until it ends
no period over its date that it has not locked is closed. -/
def KeepsPeriods (T : DateType) (s : Ledger) (c : LedgerCall) (_ : LedgerAnswers) : Prop :=
  match c with
  | .posting txn => ∀ a ∈ s.postings.get? txn, a.query = .closed →
    NoWorkspacePeriod T s.db.periods a.guard
  | .closePeriod id => ∀ p ∈ s.db.periods.get? id, ∀ a ∈ s.postings.values,
    a.query ≠ .closed → id ∉ a.locked → a.guard.concerns p = true →
      p.coversDate T a.guard.dateStr = false
  | _ => True

instance (T : DateType) (s : Ledger) (answers : LedgerAnswers) (c : LedgerCall) :
    Decidable (KeepsPeriods T s c answers) := by
  unfold KeepsPeriods
  split <;> infer_instance

/-! ## Other entities -/

section Spared

variable {U : UpperCase} {T : DateType} {db : LedgerDb} {params : AssertOpenPostingPeriodParams} {e : ℕ}

theorem looksAt_of_entity (he : params.entity? = some e) {p : AccountingPeriod}
    (h : params.looksAt p = true) : p.legalEntityId.all (· = e) = true := by
  simp only [AssertOpenPostingPeriodParams.looksAt, he, Option.all_some, Bool.and_eq_true,
    decide_eq_true_eq] at h
  simp [h.2]

/-- The queries of the guard do not look at the periods of other entities. -/
theorem any_onlyEntity (he : params.entity? = some e) (f : AccountingPeriod → Bool) :
    (db.onlyEntity e).periods.values.any (fun p => params.looksAt p && f p) =
      db.periods.values.any fun p => params.looksAt p && f p := by
  rw [LedgerDb.onlyEntity, Dict.values_filter, List.any_filter]
  congr 1
  funext p
  cases hlooks : params.looksAt p with
  | false => simp
  | true => simp [looksAt_of_entity he hlooks]

theorem closedQuery_onlyEntity (he : params.entity? = some e) :
    closedQuery T (db.onlyEntity e) params = closedQuery T db params := by
  unfold closedQuery
  simp only [Bool.and_assoc, any_onlyEntity he]

theorem anyQuery_onlyEntity (he : params.entity? = some e) :
    anyQuery (db.onlyEntity e) params = anyQuery db params := by
  have hany : (db.onlyEntity e).periods.values.any (fun p => params.looksAt p && true) = _ :=
    any_onlyEntity he fun _ => true
  simp only [Bool.and_true] at hany
  unfold anyQuery
  rw [hany]

/-- A declared period that is refused is refused also if it cannot be seen. -/
theorem declaredPeriod_onlyEntity {ctx : TenantContext} {input : CreateBookEntryInput}
    {err : ApiError} (h : declaredPeriod T db ctx input = .error err) :
    ∃ err', declaredPeriod T (db.onlyEntity input.legalEntityId) ctx input = .error err' := by
  unfold declaredPeriod at h ⊢
  cases hres : ((db.onlyEntity input.legalEntityId).periods.get? input.periodId).filter
      (·.workspaceId = ctx.workspaceId) with
  | none => exact ⟨_, rfl⟩
  | some =>
    obtain ⟨hget, hws⟩ := Option.filter_eq_some_iff.mp hres
    rw [LedgerDb.onlyEntity, Dict.get?_filter, Option.filter_eq_some_iff] at hget
    rw [Option.filter_eq_some_iff.mpr ⟨hget.1, hws⟩] at h
    exact ⟨err, h⟩

theorem commit_periods {op : PostingOp} {answers : LedgerAnswers}
    (periods : Dict ℕ AccountingPeriod) :
    op.commit U T { db with periods } answers =
      (op.commit U T db answers).map (Option.map fun db' => { db' with periods }) := by
  have hdocument : ∀ wsId id, LedgerDb.ownDocument? { db with periods } wsId id =
      db.ownDocument? wsId id := fun _ _ => rfl
  cases op with
  | transaction params =>
    simp only [PostingOp.commit, insertTransaction]
    split_ifs
    · rfl
    · cases require (params.projectId.isSome → answers.projectInWorkspace = true)
          (ApiError.notFound "Project không tồn tại trong workspace này") with
      | error => rfl
      | ok =>
        cases T.parse (normalizeDate params.transactionDate) with
        | error => rfl
        | ok => cases requireNewRow db.transactions answers.newId <;> rfl
  | bookEntry _ input =>
    simp only [PostingOp.commit, insertBookEntry]
    cases T.parse (normalizeDate input.effectiveDate) with
    | error => rfl
    | ok => cases requireNewRow db.entries answers.newId <;> rfl
  | confirm workspaceId documentId =>
    simp only [PostingOp.commit, confirmDocument, hdocument]
    cases db.ownDocument? workspaceId documentId <;> rfl
  | void workspaceId documentId =>
    simp only [PostingOp.commit, voidDocument, hdocument]
    cases db.ownDocument? workspaceId documentId <;> rfl

theorem periods_of_commit {db' : LedgerDb} {op : PostingOp} {answers : LedgerAnswers}
    (h : op.commit U T db answers = .ok (some db')) : db'.periods = db.periods := by
  have hsame : op.commit U T db answers = (op.commit U T db answers).map
      (Option.map fun db' => { db' with periods := db.periods }) := commit_periods db.periods
  rw [h] at hsame
  have hdb := congrArg LedgerDb.periods (Option.some.inj (Except.ok.inj hsame))
  exact hdb

/-- The entity for which a posting is made. -/
def PostingOp.entity? : PostingOp → Option ℕ
  | transaction params => params.legalEntityId
  | bookEntry _ input => some input.legalEntityId
  | _ => none

theorem entity_of_begin {op : PostingOp} {a : Posting} (h : op.begin T db = .ok a) :
    a.guard.legalEntityId = a.op.entity? ∧ a.query = .closed := by
  cases op with
  | transaction =>
    cases h
    exact ⟨rfl, rfl⟩
  | bookEntry =>
    have h := of_require h
    cases h
    exact ⟨rfl, rfl⟩
  | confirm workspaceId documentId confirmedBy | void workspaceId documentId voidReason =>
    obtain ⟨doc, -, h⟩ := bind_eq_ok.mp h
    cases h
    exact ⟨rfl, rfl⟩

/-- A posting that is refused is refused also without the periods of other entities. -/
theorem refused_onlyEntity {s : Ledger} {txn : ℕ} {a : Posting} {answers : LedgerAnswers}
    {err : ApiError} (hentity : a.guard.legalEntityId = a.op.entity?)
    (he : a.guard.entity? = some e) (h : continuePosting U T s txn a answers = .error err) :
    ∃ err', continuePosting U T { s with db := s.db.onlyEntity e } txn a answers = .error err' := by
  unfold continuePosting at h ⊢
  cases hquery : a.query with
  | closed =>
    rw [hquery] at h
    rcases bind_eq_error.mp h with hclosed | ⟨_, -, h⟩
    · refine ⟨err, bind_eq_error.mpr (.inl ?_)⟩
      rw [← hclosed]
      exact closedQuery_onlyEntity he
    · nomatch h
  | opened =>
    rw [hquery] at h
    dsimp only at h
    split at h <;> nomatch h
  | any =>
    rw [hquery] at h
    rcases bind_eq_error.mp h with hany | ⟨_, -, h⟩
    · refine ⟨err, bind_eq_error.mpr (.inl ?_)⟩
      rw [← hany]
      exact anyQuery_onlyEntity he
    · nomatch h
  | declared =>
    rw [hquery] at h
    dsimp only at h ⊢
    cases hop : a.op with
    | bookEntry _ input =>
      rw [hop] at h hentity
      rcases bind_eq_error.mp h with hdeclared | ⟨_, -, h⟩
      · have hsome := (Option.filter_eq_some_iff.mp he).1
        obtain rfl : input.legalEntityId = e := Option.some.inj (hentity.symm.trans hsome)
        obtain ⟨err', herr'⟩ := declaredPeriod_onlyEntity hdeclared
        exact ⟨err', bind_eq_error.mpr (.inl herr')⟩
      · nomatch h
    | _ =>
      rw [hop] at h
      nomatch h
  | commit =>
    rw [hquery] at h
    rcases bind_eq_error.mp h with hcommit | ⟨o, -, h⟩
    · refine ⟨err, bind_eq_error.mpr (.inl ?_)⟩
      show a.op.commit U T (s.db.onlyEntity e) answers = _
      rw [LedgerDb.onlyEntity, commit_periods, hcommit]
      rfl
    · cases o <;> nomatch h

end Spared

/-! ## Every step -/

/-- What is posted was not closed, nor is a period over a posting that has begun its guard. -/
structure PeriodsKept (T : DateType) (s : Ledger) : Prop where
  posted : ∀ x ∈ s.posted, ¬ClosedOver T x.periods x.guard
  begun : ∀ txn a, s.postings.get? txn = some a → a.query ≠ .closed →
    ¬ClosedOver T s.db.periods a.guard
  entity : ∀ txn a, s.postings.get? txn = some a → a.guard.legalEntityId = a.op.entity?

section Step

variable {U : UpperCase} {T : DateType} {s s' : Ledger} {c : LedgerCall} {answers : LedgerAnswers}

/-- The first query looks at all periods of a posting, but for those of the workspace if it has an
entity. -/
theorem not_closedOver_of_closedQuery {db : LedgerDb} {params : AssertOpenPostingPeriodParams}
    (h : closedQuery T db params = .ok ()) (hws : NoWorkspacePeriod T db.periods params) :
    ¬ClosedOver T db.periods params := by
  rintro ⟨p, hp, hconcerns, hclosed, hcovers⟩
  obtain ⟨_, h⟩ := of_bind h
  have hnone := List.any_eq_false.mp (require_eq_ok.mp h) p hp
  have hlooks : params.looksAt p = false := by
    simpa [hclosed, hcovers] using hnone
  simp only [AssertOpenPostingPeriodParams.concerns, Bool.and_eq_true, Bool.or_eq_true,
    decide_eq_true_eq] at hconcerns
  obtain ⟨hworkspace, hentity⟩ := hconcerns
  simp only [AssertOpenPostingPeriodParams.looksAt, hworkspace, decide_true, Bool.true_and] at hlooks
  cases he : params.entity? with
  | none =>
    rw [he] at hlooks
    nomatch hlooks
  | some =>
    rw [he, Option.all_some, decide_eq_false_iff_not] at hlooks
    rcases hentity with hentity | ⟨-, hentity⟩
    · exact Bool.false_ne_true
        ((hws (by rw [he]; rfl) p hp hworkspace hentity hclosed).symm.trans hcovers)
    · exact hlooks (hentity.trans he)

theorem ClosedOver.of_put {periods : Dict ℕ AccountingPeriod} {id : ℕ} {p : AccountingPeriod}
    {params : AssertOpenPostingPeriodParams} (h : ClosedOver T (periods.set id p) params)
    (hp : params.concerns p = true → p.status = .closed → p.coversDate T params.dateStr = false) :
    ClosedOver T periods params := by
  obtain ⟨q, hq, hconcerns, hclosed, hcovers⟩ := h
  obtain ⟨k, hk⟩ := Dict.mem_values.mp hq
  rw [Dict.get?_set] at hk
  split_ifs at hk
  · cases hk
    nomatch (hp hconcerns hclosed).symm.trans hcovers
  · exact ⟨q, Dict.mem_values.mpr ⟨k, hk⟩, hconcerns, hclosed, hcovers⟩

/-- The periods after a write that needs no guard: what a posting has locked is not closed. -/
theorem PeriodsKept.unguarded {db : LedgerDb} (h : PeriodsKept T s)
    (hG : KeepsPeriods T s c answers) (hc : Unguarded s answers c db) :
    PeriodsKept T { s with db } := by
  refine ⟨h.posted, fun txn a ha hbegun hover => h.begun txn a ha hbegun ?_, h.entity⟩
  cases hc with
  | openPeriod =>
    exact ClosedOver.of_put hover fun _ hclosed => nomatch hclosed
  | closePeriod _ p hget hfree =>
    have hmem : a ∈ s.postings.values := Dict.mem_values.mpr ⟨txn, ha⟩
    exact ClosedOver.of_put hover fun hconcerns _ =>
      hG p hget a hmem hbegun (hfree a hmem) hconcerns
  | createDraft | propose => exact hover

theorem PeriodsKept.not_closedOver_of_queried (h : PeriodsKept T s) {txn : ℕ} {a a' : Posting}
    (hG : KeepsPeriods T s (.posting txn) answers) (hget : s.postings.get? txn = some a)
    (hq : Queried T s.db a a') : ¬ClosedOver T s.db.periods a.guard := by
  cases hq with
  | closed hquery hclosed => exact not_closedOver_of_closedQuery hclosed (hG a hget hquery)
  | opened hquery | none hquery | any hquery | declared hquery =>
    exact h.begun txn a hget (by rw [hquery]; exact nofun)

theorem Queried.guard_eq {db : LedgerDb} {a a' : Posting} (h : Queried T db a a') :
    a'.guard = a.guard ∧ a'.op = a.op ∧ a'.doc? = a.doc? := by
  cases h <;> exact ⟨rfl, rfl, rfl⟩

theorem PeriodsKept.erase (h : PeriodsKept T s) (txn : ℕ) :
    PeriodsKept T { s with postings := s.postings.erase txn } := by
  have hold : ∀ txn' a, (s.postings.erase txn).get? txn' = some a →
      s.postings.get? txn' = some a := by
    intro txn' a ha
    rw [Dict.get?_erase] at ha
    split_ifs at ha
    exact ha
  exact ⟨h.posted, fun txn' a ha => h.begun txn' a (hold txn' a ha),
    fun txn' a ha => h.entity txn' a (hold txn' a ha)⟩

theorem PeriodsKept.put (h : PeriodsKept T s) {txn nextTxn : ℕ} {a : Posting}
    (hbegun : a.query ≠ .closed → ¬ClosedOver T s.db.periods a.guard)
    (hentity : a.guard.legalEntityId = a.op.entity?) :
    PeriodsKept T { s with postings := s.postings.set txn a, nextTxn } := by
  refine ⟨h.posted, fun txn' a' ha' => ?_, fun txn' a' ha' => ?_⟩
  · rw [Dict.get?_set] at ha'
    split_ifs at ha'
    · cases ha'
      exact hbegun
    · exact h.begun txn' a' ha'
  · rw [Dict.get?_set] at ha'
    split_ifs at ha'
    · cases ha'
      exact hentity
    · exact h.entity txn' a' ha'

theorem PeriodsKept.change (h : PeriodsKept T s) (hG : KeepsPeriods T s c answers)
    (hc : LedgerChange U T s answers c s') : PeriodsKept T s' := by
  cases hc with
  | same => exact h
  | unguarded _ _ hwrite => exact h.unguarded hG hwrite
  | began _ _ hbegin =>
    obtain ⟨hentity, hquery⟩ := entity_of_begin hbegin
    exact h.put (fun hbegun => absurd hquery hbegun) hentity
  | queried txn a _ hget hquery =>
    obtain ⟨hguard, hop, -⟩ := hquery.guard_eq
    refine h.put (fun _ => ?_) ?_
    · rw [hguard]
      exact h.not_closedOver_of_queried hG hget hquery
    · rw [hguard, hop]
      exact h.entity txn a hget
  | ended txn => exact h.erase txn
  | posted txn a db hget hquery hcommit =>
    have hover : ¬ClosedOver T s.db.periods a.guard :=
      h.begun txn a hget (by rw [hquery]; exact nofun)
    have hrest := h.erase txn
    refine ⟨fun x hx => ?_, ?_, hrest.entity⟩
    · rcases mem_concat hx with hx | hx
      · exact h.posted x hx
      · rw [hx]
        exact hover
    · show ∀ txn' a', _ → _ → ¬ClosedOver T db.periods _
      rw [periods_of_commit hcommit]
      exact hrest.begun
  | matched _ _ _ db hclaim =>
    refine ⟨h.posted, ?_, h.entity⟩
    show ∀ txn' a', _ → _ → ¬ClosedOver T db.periods _
    rw [periods_of_claim hclaim]
    exact h.begun

end Step

/-! ## Every run -/

theorem periodsKept_openLedger (T : DateType) (bankTransactions : List BankTransaction) :
    PeriodsKept T (openLedger bankTransactions).store where
  posted _ hx := absurd hx List.not_mem_nil
  begun _ _ h := nomatch h
  entity _ _ h := nomatch h

/-- If every step keeps the periods, nothing is posted into a closed one; and the periods of other
entities refuse nothing. -/
theorem periodLaw_of_run (U : UpperCase) (T : DateType) (bankTransactions : List BankTransaction)
    (ls : List (CallLabel LedgerReq LedgerAnswers)) (s : InFlight Ledger LedgerCall)
    (h : (ledger U T).system.Along (Service.Meets (KeepsPeriods T)) (openLedger bankTransactions) ls)
    (hs : (ledger U T).system.run (openLedger bankTransactions) ls = some s) :
    PeriodLaw U T s.store := by
  have hrule : (ledger U T).Rule (KeepsPeriods T) (PeriodsKept T) fun _ c => c.Live :=
    ledgerRule (fun _ _ _ _ hI _ hG hc => hI.change hG hc) fun _ txn hI => hI.erase txn
  have hinv := hrule.inv_of_along (.of_empty (periodsKept_openLedger T bankTransactions)) h hs
  refine ⟨hinv.store.posted, fun txn a e answers err hget he herr => ?_⟩
  exact refused_onlyEntity (hinv.store.entity txn a hget) he herr

/-! ### Runs -/

def january (legalEntityId : Option ℕ) : OpenAccountingPeriodParams where
  workspaceId := 1
  legalEntityId
  startDate := "2026-01-01"
  endDate := "2026-01-31"

def rent : RecordFinancialTransactionParams where
  workspaceId := 1
  legalEntityId := some 5
  transactionDate := "2026-01-15"
  description := "rent"
  amount := "10.00"
  direction := "OUT"

/-- A step of call `i`. -/
def ledgerStep (i : ℕ) (newId : ℕ) : CallLabel LedgerReq LedgerAnswers :=
  .step i { now := 0, newId }

/-- Call `i` opens January for an entity, or for the whole workspace. -/
def openJanuary (i id : ℕ) (legalEntityId : Option ℕ) :
    List (CallLabel LedgerReq LedgerAnswers) :=
  [.start (.openPeriod (january legalEntityId)), ledgerStep i id]

def closeJanuary (i id : ℕ) : List (CallLabel LedgerReq LedgerAnswers) :=
  [.start (.closePeriod id), ledgerStep i 0]

/-- Call `i` records the rent: it begins, runs two queries and commits. -/
def recordRent (i id : ℕ) : List (CallLabel LedgerReq LedgerAnswers) :=
  .start (.post (.transaction rent)) :: List.replicate 4 (ledgerStep i id)

/-- The rent is recorded, and January is closed. -/
def closedAfter : List (CallLabel LedgerReq LedgerAnswers) :=
  openJanuary 0 10 (some 5) ++ recordRent 1 100 ++ closeJanuary 2 10

def closedAfterState : InFlight Ledger LedgerCall :=
  ((ledger upperVnd isoDates).system.run (openLedger []) closedAfter).get (by decide +kernel)

theorem periodLaw_closedAfter : PeriodLaw upperVnd isoDates closedAfterState.store :=
  periodLaw_of_run upperVnd isoDates [] closedAfter closedAfterState (by decide +kernel)
    (Option.some_get _).symm

/-- January is closed for the whole workspace, and open for the entity. -/
def closedBefore : List (CallLabel LedgerReq LedgerAnswers) :=
  openJanuary 0 10 none ++ closeJanuary 1 10 ++ openJanuary 2 11 (some 5) ++ recordRent 3 100

def closedBeforeState : InFlight Ledger LedgerCall :=
  ((ledger upperVnd isoDates).system.run (openLedger []) closedBefore).get (by decide +kernel)

/-- The rent is posted into the closed period of the whole workspace. -/
theorem not_periodLaw_workspace :
    (ledger upperVnd isoDates).system.run (openLedger []) closedBefore = some closedBeforeState ∧
      ¬PeriodLaw upperVnd isoDates closedBeforeState.store := by
  refine ⟨(Option.some_get _).symm, fun h => ?_⟩
  have hover : ∃ x ∈ closedBeforeState.store.posted, ClosedOver isoDates x.periods x.guard := by
    decide +kernel
  obtain ⟨x, hx, hclosed⟩ := hover
  exact h.posted x hx hclosed

end JavisSaas.Company.Finance
