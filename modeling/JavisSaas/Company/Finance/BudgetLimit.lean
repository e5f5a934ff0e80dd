import JavisSaas.Company.Finance.Settlement

/-!
# The limit of a budget

What is paid and outstanding of the approved requests of a project in one currency should stay in
its envelope. An approval adds up what there is under a lock of the envelope, in two queries, while
the other services take no such lock; and the envelope is found by the spelling of its currency.

* `budgetLaw_of_paidStays`: no approval passes the limit of an upper-case envelope, if what it reads
  as paid is still covered when it reads the allocations.
* `not_budgetLaw_lowerCase`: an envelope for `vnd`.
-/

namespace JavisSaas.Company.Finance

open JavisSaas.Lib

/-! ## The law -/

/-- A project, and the currency that is counted. -/
structure Budget where
  workspaceId : ℕ
  projectId : ℕ
  currency : String

section Law

variable (U : UpperCase) (sha256 : ApprovalTerms → String) (b : Budget) (e : ProjectBudgetEnvelope)

def Budget.covers (r : PaymentRequest) : Bool :=
  r.workspaceId = b.workspaceId && r.projectId = some b.projectId &&
    U.upper r.currency = U.upper b.currency && r.deletedAt.isNone

/-- The envelopes in force at a time, however their currency is spelled. -/
def Budget.inForce (db : FinanceDb) (now : ℤ) : List ProjectBudgetEnvelope :=
  db.envelopes.values.filter fun e => e.workspaceId = b.workspaceId &&
    e.projectId = b.projectId && U.upper e.currency = U.upper b.currency &&
    e.periodStart ≤ asOfDate now && asOfDate now ≤ e.periodEnd && e.deletedAt.isNone

/-- What is outstanding of a request, if it is approved. -/
def outstanding (db : FinanceDb) (r : PaymentRequest) : ℤ :=
  if r.approvalState = .approved ∧ 0 < r.amountMinor - requestAllocated db r.id then
    r.amountMinor - requestAllocated db r.id
  else 0

/-- What is paid and what is outstanding. -/
def spentOn (db : FinanceDb) (r : PaymentRequest) : ℤ := requestAllocated db r.id + outstanding db r

def Budget.term (db : FinanceDb) (r : PaymentRequest) : ℤ :=
  if b.covers U r then spentOn db r else 0

def Budget.spent (db : FinanceDb) : ℤ := db.requests.sum (b.term U db)

/-- The request of an approval that is about to begin. -/
def PaymentCall.begins? : PaymentCall → Option PaymentRequest
  | .write _ (.approve _ _) current => some current
  | _ => none

/-- The transaction of an approval that has begun. -/
def PaymentCall.transaction? (s : Books) : PaymentCall → Option Approving
  | .approving txn => s.approvals.get? txn
  | _ => none

/-- The one envelope in force when an approval looks for it. -/
def OneEnvelope (s : Books) (c : PaymentCall) (answers : Answers) : Prop :=
  ∀ current ∈ c.begins?, b.covers U current = true → b.inForce U s.db answers.now = [e]
deriving Decidable

/-- The budget is overridden. -/
def overrides (a : Approving) : Bool :=
  match budgetOverride a.ctx a.overrideReason a.current
      (computeProjectBudgetPosition a.seen a.params) with
  | .ok (some _) => true
  | _ => false

def WithoutOverride (s : Books) (c : PaymentCall) (_ : Answers) : Prop :=
  ∀ a ∈ c.transaction? s, b.covers U a.current = true → a.last = .allocations →
    overrides a = false
deriving Decidable

/-- No approval of the budget has begun. -/
def Budget.idle (s : Books) : Prop := ∀ a ∈ s.approvals.values, b.covers U a.current = false

/-- What was within the limit at the start stays so. -/
def BudgetLaw (s : InFlight Books PaymentCall) (ls : List (CallLabel PaymentReq Answers)) : Prop :=
  b.idle U s.store → b.spent U s.store.db ≤ e.limitMinor →
    (payments U sha256).system.Along (Service.Meets (OneEnvelope U b e)) s ls →
    (payments U sha256).system.Along (Service.Meets (WithoutOverride U b)) s ls →
    ∀ s', (payments U sha256).system.run s ls = some s' → b.spent U s'.store.db ≤ e.limitMinor

/-- What is read as paid, of the approval's project and currency, is covered by its allocations. -/
def PaidStays (s : Books) (c : PaymentCall) (_ : Answers) : Prop :=
  ∀ a ∈ c.transaction? s, b.covers U a.current = true → a.last = .requests →
    ∀ r ∈ a.seen.requests.values, a.params.covers r = true → r.approvalState = .approved →
      r.settlementState = .paid → ∀ row ∈ s.db.requests.get? r.id, row.approvalState = .approved →
        row.amountMinor ≤ requestAllocated s.db r.id
deriving Decidable

end Law

/-! ## What the sums say -/

section Sums

variable {U : UpperCase} {b : Budget} {db db' : FinanceDb} {r r' : PaymentRequest}

theorem Budget.covers_congr (h : r'.origin = r.origin) : b.covers U r' = b.covers U r := by
  have hws : r'.workspaceId = r.workspaceId := congrArg RequestOrigin.workspaceId h
  have hproject : r'.projectId = r.projectId := congrArg RequestOrigin.projectId h
  have hcurrency : r'.currency = r.currency := congrArg RequestOrigin.currency h
  have hdeleted : r'.deletedAt = r.deletedAt := congrArg RequestOrigin.deletedAt h
  rw [Budget.covers, Budget.covers, hws, hproject, hcurrency, hdeleted]

/-- The larger of what is paid and of the amount, if the request is approved. -/
theorem spentOn_eq : spentOn db r = if r.approvalState = .approved then
    max (requestAllocated db r.id) r.amountMinor else requestAllocated db r.id := by
  unfold spentOn outstanding
  by_cases h : r.approvalState = .approved
  · simp only [h, true_and, if_true]
    split_ifs <;> omega
  · simp only [h, false_and, if_false, add_zero]

theorem WellFormed.spentOn_nonneg (h : WellFormed db) : 0 ≤ spentOn db r := by
  have hnonneg : 0 ≤ requestAllocated db r.id := h.sumActive_nonneg
  rw [spentOn_eq]
  split_ifs <;> omega

theorem WellFormed.term_nonneg (h : WellFormed db) : 0 ≤ b.term U db r := by
  unfold Budget.term
  split_ifs
  · exact h.spentOn_nonneg
  · exact le_rfl

/-- A request that is not approved, and for which nothing is paid. -/
def Untouched (db : FinanceDb) (id : ℕ) (r : PaymentRequest) : Prop :=
  r.approvalState ≠ .approved ∧ requestAllocated db id = 0

theorem Untouched.spentOn (h : Untouched db r.id r) : spentOn db r = 0 := by
  rw [spentOn_eq, if_neg h.1, h.2]

/-- An approved request was approved before, with the same amount. -/
def KeepsApproval (r r' : PaymentRequest) : Prop :=
  r'.approvalState = .approved → r.approvalState = .approved ∧ r.amountMinor = r'.amountMinor

theorem KeepsApproval.refl (r : PaymentRequest) : KeepsApproval r r := fun h => ⟨h, rfl⟩

theorem KeepsApproval.trans {r'' : PaymentRequest} (h : KeepsApproval r r')
    (h' : KeepsApproval r' r'') : KeepsApproval r r'' := fun happroved =>
  ⟨(h (h' happroved).1).1, (h (h' happroved).1).2.trans (h' happroved).2⟩

/-- No approval of the budget was given in between, and nothing was spent. -/
def Shrinks (U : UpperCase) (b : Budget) (db db' : FinanceDb) : Prop :=
  ∀ id r', db'.requests.get? id = some r' → b.covers U r' = true → Untouched db' id r' ∨
    ∃ r, db.requests.get? id = some r ∧ r'.origin = r.origin ∧ KeepsApproval r r' ∧
      spentOn db' r' ≤ spentOn db r

theorem Shrinks.refl (db : FinanceDb) : Shrinks U b db db :=
  fun _ r hr _ => .inr ⟨r, hr, rfl, .refl r, le_rfl⟩

theorem Shrinks.spent_le (h : Shrinks U b db db') (hwf : WellFormed db) (hwf' : WellFormed db') :
    b.spent U db' ≤ b.spent U db := by
  apply Dict.sum_le_sum_of_get? fun r _ => hwf.term_nonneg
  intro id r' hr'
  by_cases hcovers : b.covers U r' = true
  · rcases h id r' hr' hcovers with huntouched | ⟨r, hr, horigin, -, hle⟩
    · left
      rw [← hwf'.request _ _ hr'] at huntouched
      rw [Budget.term, huntouched.spentOn, ite_self]
    · right
      refine ⟨r, hr, ?_⟩
      rw [Budget.term, Budget.term, if_pos hcovers, if_pos (Budget.covers_congr horigin ▸ hcovers)]
      exact hle
  · left
    rw [Budget.term, if_neg hcovers]

end Sums

/-! ## The other services -/

section Shrinking

variable {U : UpperCase} {sha256 : ApprovalTerms → String} {b : Budget} {s s' : Books}
  {c : PaymentCall} {answers : Answers} {db db' : FinanceDb} {k : ℕ} {row row' : PaymentRequest}

/-- One request is written, and only for it there may be other allocations. -/
theorem Shrinks.of_row (hwf : WellFormed db) (hk : db.requests.get? k = some row)
    (hget : ∀ id, db'.requests.get? id = if k = id then some row' else db.requests.get? id)
    (hallocated : ∀ id, id ≠ k → requestAllocated db' id = requestAllocated db id)
    (horigin : row'.origin = row.origin) (hkeeps : KeepsApproval row row')
    (hle : spentOn db' row' ≤ spentOn db row) : Shrinks U b db db' := by
  intro id r hr _
  right
  rw [hget] at hr
  split_ifs at hr with hid
  · cases hr
    subst hid
    exact ⟨row, hk, horigin, hkeeps, hle⟩
  · have hother : r.id ≠ k := by
      rw [hwf.request id r hr]
      exact Ne.symm hid
    refine ⟨r, hr, rfl, .refl r, ?_⟩
    rw [spentOn_eq, spentOn_eq, hallocated r.id hother]

variable {request : PaymentRequest} {ctx : TenantContext}

theorem Shrinks.settle (hwf : WellFormed db) (hrequest : db.requests.get? request.id = some request)
    (hrequests : db'.requests = db.requests)
    (hallocated : ∀ id, id ≠ request.id → requestAllocated db' id = requestAllocated db id)
    (hle : spentOn db' request ≤ spentOn db request) (state : SettlementState) :
    Shrinks U b db (settle db' request state) := by
  have hget : ∀ id, (Finance.settle db' request state).requests.get? id =
      if request.id = id then some { request with settlementState := state }
      else db.requests.get? id := by
    intro id
    rw [requests_settle, hrequests]
  exact .of_row hwf hrequest hget hallocated rfl (fun h => ⟨h, rfl⟩) hle

theorem Rewrite.keepsApproval {op : RequestOp} (h : Rewrite sha256 ctx answers row op row')
    (hop : ∀ v o, op ≠ .approve v o) :
    KeepsApproval row row' := by
  cases h with
  | update input =>
    intro happroved
    have hrevokes : revokes input row = false := by
      by_contra hr
      have hdraft : (editPaymentRequest input row row).approvalState = .draft := by
        simp [editPaymentRequest, Bool.eq_true_of_not_eq_false hr]
      cases hdraft.symm.trans happroved
    have hkept : (editPaymentRequest input row row).approvalState = row.approvalState := by
      simp [editPaymentRequest, hrevokes]
    have hrow : row.approvalState = .approved := hkept.symm.trans happroved
    have hfields : beneficiaryFieldChanged input row = false := by
      simpa [revokes, hrow] using hrevokes
    exact ⟨hrow, (edit_of_unchanged hfields).1.amountMinor⟩
  | approve => exact absurd rfl (hop _ _)
  | submit | reject | cancel => exact fun h => by cases h
  | report hfrom => exact fun _ => ⟨hfrom, rfl⟩

theorem spentOn_mono (hid : row'.id = row.id) (hkeeps : KeepsApproval row row')
    (hle : requestAllocated db' row.id ≤ requestAllocated db row.id) :
    spentOn db' row' ≤ spentOn db row := by
  rw [spentOn_eq, spentOn_eq, hid]
  by_cases h : row'.approvalState = .approved
  · obtain ⟨happroved, hamount⟩ := hkeeps h
    rw [if_pos h, if_pos happroved, hamount]
    omega
  · rw [if_neg h]
    split_ifs <;> omega

theorem Allocates.shrinks (hwf : WellFormed s.db) {input : CreatePaymentAllocationInput}
    (h : Allocates U s.db ctx input answers.newId request) (state : SettlementState) :
    Shrinks U b s.db (settle (s.db.putAllocation answers.newId
      (newAllocation ctx input request answers.newId)) request state) := by
  obtain ⟨hget, -⟩ := FinanceDb.ownRequest?_eq_some.mp h.own
  have hid : request.id = input.requestId := hwf.request _ _ hget
  rw [← hid] at hget
  have hsum : ∀ id, requestAllocated (s.db.putAllocation answers.newId
      (newAllocation ctx input request answers.newId)) id =
        requestAllocated s.db id + activeTerm (fun a => a.requestId = id)
          (newAllocation ctx input request answers.newId) :=
    fun id => sumActive_insert h.newId
  refine .settle hwf hget ?_ (fun id hne => ?_) ?_ state
  · rfl
  · have hother : (newAllocation ctx input request answers.newId).requestId ≠ id :=
      fun e => hne (e.symm.trans hid.symm)
    rw [hsum, activeTerm_of_not (decide_eq_false hother), add_zero]
  · have hremainder := h.remainder
    rw [spentOn_eq, spentOn_eq, if_pos h.approved, if_pos h.approved, hsum,
      activeTerm_of_active (decide_eq_true hid.symm) rfl]
    show max (requestAllocated s.db request.id + input.amountMinor) _ ≤ _
    omega

theorem shrinks_reverse (hwf : WellFormed s.db) {allocationId : ℕ} {reason : String}
    {a : PaymentAllocation} (ha : s.db.allocations.get? allocationId = some a)
    (hrequest : s.db.requests.get? a.requestId = some request) (state : SettlementState) :
    Shrinks U b s.db (settle (s.db.putAllocation allocationId
      (reverseAllocation ctx reason answers.now a)) request state) := by
  have hid : request.id = a.requestId := hwf.request _ _ hrequest
  rw [← hid] at hrequest
  have hpos := hwf.positive a (Dict.mem_values.mpr ⟨_, ha⟩)
  have hsum : ∀ id, requestAllocated (s.db.putAllocation allocationId
      (reverseAllocation ctx reason answers.now a)) id =
        requestAllocated s.db id - activeTerm (fun a => a.requestId = id) a := by
    intro id
    refine (sumActive_replace ha).trans ?_
    rw [activeTerm_reverse, add_zero]
    rfl
  refine .settle hwf hrequest ?_ (fun id hne => ?_) (spentOn_mono rfl (.refl _) ?_) state
  · rfl
  · rw [hsum, activeTerm_of_not (decide_eq_false fun e => hne (e.symm.trans hid.symm)), sub_zero]
  · have hterm := activeTerm_nonneg (p := fun x : PaymentAllocation => x.requestId = request.id) hpos
    rw [hsum]
    omega

theorem Shrinks.of_not_covers (horigin : row'.origin = row.origin)
    (hcovers : b.covers U row = false) : Shrinks U b db (db.putRequest k row') := by
  intro id r hr hcovers'
  right
  rw [requests_putRequest] at hr
  split_ifs at hr with hid
  · cases hr
    rw [Budget.covers_congr horigin, hcovers] at hcovers'
    nomatch hcovers'
  · exact ⟨r, hr, rfl, .refl r, le_rfl⟩

end Shrinking

/-! ## The transaction of an approval -/

section Position

variable {U : UpperCase} {b : Budget} {e : ProjectBudgetEnvelope} {db db' seen : FinanceDb}
  {params : BudgetPositionParams} {r : PaymentRequest}

/-- What was read of the requests is still so, as far as it counts. -/
def Matches (U : UpperCase) (b : Budget) (db : FinanceDb) (rows : Dict ℕ PaymentRequest)
    (params : BudgetPositionParams) : Prop :=
  ∀ id r', db.requests.get? id = some r' → b.covers U r' = true → Untouched db id r' ∨
    ∃ r, rows.get? id = some r ∧ r.id = id ∧ params.covers r = true ∧ KeepsApproval r r'

theorem Matches.of_shrinks {rows : Dict ℕ PaymentRequest} (h : Matches U b db rows params)
    (hwf : WellFormed db) (hwf' : WellFormed db') (hshrinks : Shrinks U b db db') :
    Matches U b db' rows params := by
  intro id r'' hr'' hcovers
  rcases hshrinks id r'' hr'' hcovers with huntouched | ⟨r', hr', horigin, hkeeps, hle⟩
  · exact .inl huntouched
  · rw [Budget.covers_congr horigin] at hcovers
    rcases h id r' hr' hcovers with huntouched | ⟨r, hr, hid, hparams, hkept⟩
    · have hnot : r''.approvalState ≠ .approved := fun h => huntouched.1 (hkeeps h).1
      have hid' : r'.id = id := hwf.request _ _ hr'
      have hid'' : r''.id = id := hwf'.request _ _ hr''
      have hnonneg : 0 ≤ requestAllocated db' id := hwf'.sumActive_nonneg
      subst hid'
      rw [huntouched.spentOn, spentOn_eq, if_neg hnot, hid''] at hle
      exact .inl ⟨hnot, by omega⟩
    · exact .inr ⟨r, hr, hid, hparams, hkept.trans hkeeps⟩

/-- What a request adds to the sums of the position. -/
def positionTerm (db : FinanceDb) (params : BudgetPositionParams) (r : PaymentRequest) : ℤ :=
  if params.covers r then requestAllocated db r.id + committedUnpaid db r else 0

theorem position_eq (h : latestEnvelope (envelopeRows db params) = some e) :
    (computeProjectBudgetPosition db params).coverage = .complete ∧
      (computeProjectBudgetPosition db params).limitMinor = e.limitMinor ∧
      (computeProjectBudgetPosition db params).committedUnpaidMinor +
        (computeProjectBudgetPosition db params).actualPaidMinor =
          db.requests.sum (positionTerm db params) := by
  unfold computeProjectBudgetPosition
  rw [h]
  refine ⟨rfl, rfl, ?_⟩
  show (List.map _ (List.filter _ _)).sum + (List.map _ (List.filter _ _)).sum = _
  rw [sum_map_filter, sum_map_filter, add_comm, ← List.sum_map_add]
  refine congrArg List.sum (List.map_congr_left fun r _ => ?_)
  unfold positionTerm
  split_ifs <;> simp

theorem committedUnpaid_nonneg : 0 ≤ committedUnpaid db r := by
  unfold committedUnpaid
  split_ifs <;> omega

theorem SettlementState.paid_of_not_isOpen {state : SettlementState} (h : ¬state.isOpen = true) :
    state = .paid := by
  cases state <;> simp [SettlementState.isOpen] at h ⊢

/-- The sums cover what is spent, if what was read as paid is still covered. -/
theorem Matches.spent_le (hwf : WellFormed db) (hseen : seen.allocations = db.allocations)
    (h : Matches U b db seen.requests params)
    (hpaid : ∀ r ∈ seen.requests.values, params.covers r = true → r.approvalState = .approved →
      r.settlementState = .paid → ∀ row ∈ db.requests.get? r.id, row.approvalState = .approved →
        row.amountMinor ≤ requestAllocated db r.id) :
    b.spent U db ≤ seen.requests.sum (positionTerm seen params) := by
  have hsame : ∀ id, requestAllocated seen id = requestAllocated db id := by
    intro id
    unfold requestAllocated sumActive
    rw [hseen]
  have hcommitted : ∀ r, committedUnpaid seen r = committedUnpaid db r := by
    intro r
    unfold committedUnpaid
    rw [hsame]
  apply Dict.sum_le_sum_of_get?
  · intro r _
    have hnonneg : 0 ≤ requestAllocated db r.id := hwf.sumActive_nonneg
    have hcommitted' : 0 ≤ committedUnpaid db r := committedUnpaid_nonneg
    unfold positionTerm
    rw [hsame, hcommitted]
    split_ifs <;> omega
  · intro id r' hr'
    have hid' : r'.id = id := hwf.request _ _ hr'
    unfold Budget.term
    split_ifs with hcovers
    · rcases h id r' hr' hcovers with huntouched | ⟨r, hr, hid, hparams, hkeeps⟩
      · subst hid'
        exact .inl huntouched.spentOn.le
      · refine .inr ⟨r, hr, ?_⟩
        rw [positionTerm, if_pos hparams, hsame, hcommitted, hid, spentOn, hid']
        have hrest : outstanding db r' ≤ committedUnpaid db r := by
          unfold outstanding
          split_ifs with happroved
          · obtain ⟨hstate, hamount⟩ := hkeeps happroved.1
            by_cases hopen : r.settlementState.isOpen = true
            · rw [committedUnpaid, if_pos ⟨hstate, hopen⟩, hid, hamount]
              rw [hid'] at happroved ⊢
              rw [if_pos happroved.2]
            · have hcovered := hpaid r (Dict.mem_values.mpr ⟨id, hr⟩) hparams hstate
                (SettlementState.paid_of_not_isOpen hopen) r' (hid ▸ hr') happroved.1
              rw [hid] at hcovered
              have hless := happroved.2
              rw [hid'] at hless
              omega
          · exact committedUnpaid_nonneg
        omega
    · exact .inl le_rfl

end Position

/-! ## Every step -/

/-- How far the approval of a request of the budget has come. -/
structure Begun (U : UpperCase) (b : Budget) (e : ProjectBudgetEnvelope) (db : FinanceDb)
    (a : Approving) : Prop where
  envelope : envelopeRows a.seen a.params = [e]
  requests : a.last = .requests → Matches U b db a.seen.requests a.params
  allocations : a.last = .allocations →
    b.spent U db ≤ a.seen.requests.sum (positionTerm a.seen a.params)

/-- The currencies of the requests are in upper case. -/
def UpperSpelled (U : UpperCase) (db : FinanceDb) : Prop :=
  ∀ id r, db.requests.get? id = some r → U.upper r.currency = r.currency

/-- The limit is kept, and at most one approval of the budget is under way. -/
structure Within (U : UpperCase) (b : Budget) (e : ProjectBudgetEnvelope) (s : Books) : Prop where
  spent : b.spent U s.db ≤ e.limitMinor
  only : ∀ txn txn' a a', s.approvals.get? txn = some a → s.approvals.get? txn' = some a' →
    b.covers U a.current = true → b.covers U a'.current = true → txn = txn'
  begun : ∀ txn a, s.approvals.get? txn = some a → b.covers U a.current = true →
    Begun U b e s.db a

section Step

variable {U : UpperCase} {sha256 : ApprovalTerms → String} {b : Budget} {e : ProjectBudgetEnvelope}
  {s s' : Books} {c : PaymentCall} {answers : Answers}

theorem UpperSpelled.put {k : ℕ} {row' : PaymentRequest} (h : UpperSpelled U s.db)
    (hrow' : U.upper row'.currency = row'.currency) : UpperSpelled U (s.db.putRequest k row') := by
  intro id r hr
  rw [requests_putRequest] at hr
  split_ifs at hr
  · cases hr
    exact hrow'
  · exact h id r hr

theorem UpperSpelled.change (h : UpperSpelled U s.db)
    (hc : Change U sha256 s answers c s') : UpperSpelled U s'.db := by
  cases hc with
  | reading | enveloped => exact h
  | created => exact h.put (U.upper_upper _)
  | rewritten _ _ _ _ row row' _ _ hrow _ _ hrewrite =>
    rw [recordApproval_db]
    have hcurrency : row'.currency = row.currency :=
      congrArg RequestOrigin.currency hrewrite.moves.origin_eq
    refine h.put ?_
    rw [hcurrency]
    exact h _ row hrow
  | allocated _ _ request hallocates =>
    obtain ⟨hget, -⟩ := FinanceDb.ownRequest?_eq_some.mp hallocates.own
    exact h.put (h _ request hget)
  | reversed _ _ _ _ request _ _ hrequest _ hdb =>
    subst hdb
    exact h.put (h _ request hrequest)

theorem Within.of_shrinks (h : Within U b e s) (hwf : WellFormed s.db) (hwf' : WellFormed s'.db)
    (hshrinks : Shrinks U b s.db s'.db)
    (happrovals : ∀ txn a, s'.approvals.get? txn = some a → s.approvals.get? txn = some a) :
    Within U b e s' where
  spent := (hshrinks.spent_le hwf hwf').trans h.spent
  only txn txn' a a' ha ha' := h.only txn txn' a a' (happrovals _ _ ha) (happrovals _ _ ha')
  begun txn a ha hcovers := by
    obtain ⟨henvelope, hrequests, hallocations⟩ := h.begun txn a (happrovals _ _ ha) hcovers
    exact ⟨henvelope, fun hlast => (hrequests hlast).of_shrinks hwf hwf' hshrinks,
      fun hlast => (hshrinks.spent_le hwf hwf').trans (hallocations hlast)⟩

variable {k : ℕ} {row' : PaymentRequest} {a : Approving} {nextTxn : ℕ} {current : PaymentRequest}
  {projectId : ℕ} {ctx : TenantContext} {row : PaymentRequest}

theorem Within.set (h : Within U b e s) {txn : ℕ} (a' : Approving)
    (hget : s.approvals.get? txn = some a) (hcurrent : a'.current = a.current)
    (hbegun : b.covers U a.current = true → Begun U b e s.db a') :
    Within U b e { s with approvals := s.approvals.set txn a', nextTxn } := by
  have hold : ∀ txn' a'', (s.approvals.set txn a').get? txn' = some a'' →
      ∃ a₀, s.approvals.get? txn' = some a₀ ∧ a''.current = a₀.current := by
    intro txn' a'' ha''
    rw [Dict.get?_set] at ha''
    split_ifs at ha'' with htxn
    · cases ha''
      subst htxn
      exact ⟨a, hget, hcurrent⟩
    · exact ⟨a'', ha'', rfl⟩
  refine ⟨h.spent, fun txn₁ txn₂ a₁ a₂ h₁ h₂ hc₁ hc₂ => ?_, fun txn' a'' ha'' hcovers => ?_⟩
  · obtain ⟨b₁, hb₁, he₁⟩ := hold txn₁ a₁ h₁
    obtain ⟨b₂, hb₂, he₂⟩ := hold txn₂ a₂ h₂
    exact h.only txn₁ txn₂ b₁ b₂ hb₁ hb₂ (he₁ ▸ hc₁) (he₂ ▸ hc₂)
  · rw [Dict.get?_set] at ha''
    split_ifs at ha''
    · cases ha''
      exact hbegun (hcurrent ▸ hcovers)
    · exact h.begun txn' a'' ha'' hcovers

theorem Within.erase (h : Within U b e s) (txn : ℕ) :
    Within U b e { s with approvals := s.approvals.erase txn } := by
  have hold : ∀ txn' a, (s.approvals.erase txn).get? txn' = some a →
      s.approvals.get? txn' = some a := by
    intro txn' a ha
    rw [Dict.get?_erase] at ha
    split_ifs at ha
    exact ha
  exact ⟨h.spent, fun _ _ _ _ ha ha' => h.only _ _ _ _ (hold _ _ ha) (hold _ _ ha'),
    fun _ _ ha => h.begun _ _ (hold _ _ ha)⟩

theorem envelopeRows_of_inForce {current : PaymentRequest} {projectId : ℕ} {now : ℤ}
    {db : FinanceDb} (he : U.upper e.currency = e.currency)
    (hcurrent : U.upper current.currency = current.currency)
    (hproject : current.project? = some projectId) (hcovers : b.covers U current = true)
    (h : b.inForce U db now = [e]) : envelopeRows db (current.budgetParams projectId now) = [e] := by
  simp only [Budget.covers, Bool.and_eq_true, decide_eq_true_eq] at hcovers
  obtain ⟨⟨⟨hws, hprojectId⟩, hcurrency⟩, -⟩ := hcovers
  obtain rfl : projectId = b.projectId := by
    have hsome := (Option.filter_eq_some_iff.mp hproject).1
    exact Option.some.inj (hsome.symm.trans hprojectId)
  have hmem : e ∈ b.inForce U db now := by
    rw [h]
    exact List.mem_singleton_self e
  have hspelling : e.currency = current.currency := by
    have hforce := (List.mem_filter.mp hmem).2
    simp only [Bool.and_eq_true, decide_eq_true_eq] at hforce
    rw [← he, ← hcurrent, hforce.1.1.1.2, hcurrency]
  have hrows : envelopeRows db (current.budgetParams b.projectId now) =
      (b.inForce U db now).filter fun e => e.currency = current.currency := by
    unfold envelopeRows Budget.inForce
    rw [List.filter_filter]
    refine List.filter_congr fun e' _ => ?_
    simp only [PaymentRequest.budgetParams, hws]
    by_cases hsame : e'.currency = current.currency
    · simp [hsame, hcurrency]
    · simp [hsame]
  rw [hrows, h, List.filter_eq_self]
  simpa using hspelling

theorem Within.began (h : Within U b e s) (he : U.upper e.currency = e.currency)
    {expectedVersion : ℕ} {overrideReason : Option String}
    (hcurrent : U.upper current.currency = current.currency)
    (hwaits : (PaymentCall.write ctx (.approve expectedVersion overrideReason) current).waits s
      answers = false) (hproject : current.project? = some projectId)
    (hone : b.covers U current = true → b.inForce U s.db answers.now = [e])
    (ha : a = ⟨ctx, overrideReason, current, current.budgetParams projectId answers.now,
      .envelopes, s.db⟩) :
    Within U b e { s with approvals := s.approvals.set s.nextTxn a, nextTxn } := by
  subst ha
  have hrows : b.covers U current = true →
      envelopeRows s.db (current.budgetParams projectId answers.now) = [e] :=
    fun hcovers => envelopeRows_of_inForce he hcurrent hproject hcovers (hone hcovers)
  have hnone : b.covers U current = true → ∀ txn a, s.approvals.get? txn = some a →
      b.covers U a.current = false := by
    intro hcovers txn a hget
    by_contra hother
    have hlocked : e.id ∈ a.locked := by
      rw [Approving.locked, (h.begun txn a hget (Bool.eq_true_of_not_eq_false hother)).envelope]
      exact List.mem_singleton_self _
    simp only [PaymentCall.waits, hproject, Option.any_some, hrows hcovers, List.any_cons,
      List.any_nil, Bool.or_false] at hwaits
    rw [List.any_eq_false] at hwaits
    exact hwaits a (Dict.mem_values.mpr ⟨txn, hget⟩) (decide_eq_true hlocked)
  refine ⟨h.spent, fun txn txn' a a' hget hget' hcovers hcovers' => ?_, fun txn a hget hcovers => ?_⟩
  · rw [Dict.get?_set] at hget hget'
    split_ifs at hget hget' with htxn htxn' htxn'
    · exact htxn.symm.trans htxn'
    · cases hget
      nomatch (hnone hcovers txn' a' hget').symm.trans hcovers'
    · cases hget'
      nomatch (hnone hcovers' txn a hget).symm.trans hcovers
    · exact h.only txn txn' a a' hget hget' hcovers hcovers'
  · rw [Dict.get?_set] at hget
    split_ifs at hget
    · cases hget
      exact ⟨hrows hcovers, (fun h => nomatch h), fun h => nomatch h⟩
    · exact h.begun txn a hget hcovers

/-- The requests of the budget, as a position in their spelling counts them. -/
theorem covers_params {r : PaymentRequest} {now : ℤ}
    (hcurrent : U.upper current.currency = current.currency) (hr : U.upper r.currency = r.currency)
    (hproject : current.project? = some projectId) (hcovers : b.covers U current = true)
    (hcoversRow : b.covers U r = true) :
    (current.budgetParams projectId now).covers r = true := by
  simp only [Budget.covers, Bool.and_eq_true, decide_eq_true_eq] at hcovers hcoversRow
  obtain ⟨⟨⟨hws, hprojectId⟩, hcurrency⟩, -⟩ := hcovers
  obtain ⟨⟨⟨hws', hprojectId'⟩, hcurrency'⟩, hdeleted⟩ := hcoversRow
  have hsome := (Option.filter_eq_some_iff.mp hproject).1
  have hsame : r.currency = current.currency := by rw [← hr, hcurrency', ← hcurrency, hcurrent]
  simp [BudgetPositionParams.covers, PaymentRequest.budgetParams, hws, hws', hprojectId',
    ← hprojectId, hsome, hsame, hdeleted]

theorem Within.reading (hsound : Sound s) (hreads : c.Reads s.db) (hupper : UpperSpelled U s.db)
    (he : U.upper e.currency = e.currency) (h : Within U b e s)
    (hone : OneEnvelope U b e s c answers) (hpaid : PaidStays U b s c answers)
    {approvals : Dict ℕ Approving} (hreading : Reading s answers c approvals nextTxn) :
    Within U b e { s with approvals, nextTxn } := by
  have hspelled : ∀ {current}, Seen s.db current → U.upper current.currency = current.currency := by
    intro current hseen
    obtain ⟨row, hrow, -⟩ := hseen.row
    have hcurrency : row.currency = current.currency :=
      congrArg RequestOrigin.currency (hseen.origin row hrow)
    rw [← hcurrency]
    exact hupper _ row hrow
  cases hreading with
  | same => exact ⟨h.spent, h.only, h.begun⟩
  | began _ _ _ current _ hwaits hproject _ _ ha =>
    exact h.began he (hspelled hreads) hwaits hproject (hone current rfl) ha
  | requests txn a hget =>
    refine h.set (a.readRequests s.db) hget rfl fun hcovers => ?_
    refine ⟨(h.begun txn a hget hcovers).envelope, fun _ id r hr hcoversRow => ?_, fun h => nomatch h⟩
    obtain ⟨hseen, -, projectId, now, hproject, hparams⟩ := hsound.approvals txn a hget
    refine .inr ⟨r, hr, hsound.wellFormed.request _ _ hr, ?_, .refl r⟩
    show a.params.covers r = true
    rw [hparams]
    exact covers_params (hspelled hseen) (hupper id r hr) hproject hcovers hcoversRow
  | allocations txn a hget hlast =>
    refine h.set (a.readAllocations s.db) hget rfl fun hcovers => ?_
    have hbegun := h.begun txn a hget hcovers
    refine ⟨hbegun.envelope, (fun h => nomatch h), fun _ => ?_⟩
    have hmatches : Matches U b s.db (a.readAllocations s.db).seen.requests a.params :=
      hbegun.requests hlast
    exact hmatches.spent_le hsound.wellFormed rfl (hpaid a hget hcovers hlast)
  | ended txn => exact h.erase txn

theorem budgetOverride_eq_none {overrideReason : Option String} {position : BudgetPosition}
    (h : budgetOverride ctx overrideReason current position = .ok none)
    (hcoverage : position.coverage = .complete) :
    position.committedUnpaidMinor + position.actualPaidMinor + current.amountMinor ≤
      position.limitMinor := by
  unfold budgetOverride at h
  split_ifs at h with hexceeded
  · obtain ⟨_, h⟩ := of_bind h
    split at h
    · nomatch Except.ok.inj h
    · nomatch h
  · by_contra hle
    exact hexceeded ⟨hcoverage, by omega⟩

theorem spent_putRequest {db : FinanceDb} (hk : db.requests.get? k = some row) :
    b.spent U (db.putRequest k row') = b.spent U db - b.term U db row + b.term U db row' :=
  Dict.sum_set_of_some _ hk

theorem Within.approved (hsound : Sound s) (h : Within U b e s) {txn : ℕ}
    {budgetOverrideReason : Option String} (hget : s.approvals.get? txn = some a)
    (hlast : a.last = .allocations) (hbudget : budgetOverride a.ctx a.overrideReason a.current
      (computeProjectBudgetPosition a.seen a.params) = .ok budgetOverrideReason)
    (hcovers : b.covers U a.current = true) (hno : overrides a = false)
    (hrow : s.db.requests.get? a.current.id = some row) (hversion : row.version = a.current.version)
    (hrow' : row'.origin = row.origin) (hamount : row'.amountMinor = row.amountMinor)
    (hstate : row.approvalState = .submitted) :
    b.spent U (s.db.putRequest a.current.id row') ≤ e.limitMinor := by
  have hbegun := h.begun txn a hget hcovers
  have hread := hsound.approvals txn a hget
  have hlatest : latestEnvelope (envelopeRows a.seen a.params) = some e := by
    rw [hbegun.envelope]
    rfl
  obtain ⟨hcoverage, hlimit, hsums⟩ := position_eq hlatest
  have hnone : budgetOverrideReason = none := by
    cases budgetOverrideReason with
    | none => rfl
    | some =>
      simp only [overrides, hbudget] at hno
      nomatch hno
  subst hnone
  have hle := budgetOverride_eq_none hbudget hcoverage
  rw [hlimit, hsums] at hle
  have hspent := hbegun.allocations hlast
  have hsame : a.current.amountMinor = row.amountMinor := by
    obtain ⟨row₀, hrow₀, -, hsame⟩ := hread.seen.row
    cases hrow.symm.trans hrow₀
    rw [hsame hversion]
  have hcoversRow : b.covers U row = true := by
    rw [Budget.covers_congr (hread.seen.origin row hrow)]
    exact hcovers
  have hcoversRow' : b.covers U row' = true := by
    rw [Budget.covers_congr hrow']
    exact hcoversRow
  have hid : row'.id = row.id := congrArg RequestOrigin.id hrow'
  have hterm : b.term U s.db row = requestAllocated s.db row.id := by
    rw [Budget.term, if_pos hcoversRow, spentOn_eq, if_neg]
    rw [hstate]
    exact fun h => nomatch h
  have hterm' : b.term U s.db row' ≤ max (requestAllocated s.db row.id) row.amountMinor := by
    rw [Budget.term, if_pos hcoversRow', spentOn_eq, hid, hamount]
    split_ifs <;> omega
  have hnonneg : 0 ≤ requestAllocated s.db row.id := hsound.wellFormed.sumActive_nonneg
  have hwithin := h.spent
  rw [spent_putRequest hrow, hterm]
  omega

theorem shrinks_create (hwf : WellFormed s.db) (hnew : s.db.requests.get? answers.newId = none)
    (hdraft : row.approvalState = .draft) :
    Shrinks U b s.db (s.db.putRequest answers.newId row) := by
  intro id r hr _
  rw [requests_putRequest] at hr
  split_ifs at hr with hid
  · cases hr
    subst hid
    refine .inl ⟨(fun h => nomatch hdraft.symm.trans h), ?_⟩
    refine sumActive_of_forall_not fun a ha => decide_eq_false fun hrequest => ?_
    obtain ⟨row, hrow⟩ := hwf.requested a ha
    have hget := (FinanceDb.ownRequest?_eq_some.mp hrow).1
    rw [hrequest, hnew] at hget
    nomatch hget
  · exact .inr ⟨r, hr, rfl, .refl r, le_rfl⟩

theorem Rewrite.shrinks (hwf : WellFormed s.db) {op : RequestOp}
    (h : Rewrite sha256 ctx answers row op row') (hop : ∀ v o, op ≠ .approve v o)
    (hk : s.db.requests.get? k = some row) :
    Shrinks U b s.db (s.db.putRequest k row') := by
  have hkeeps := h.keepsApproval hop
  exact .of_row hwf hk (fun id => requests_putRequest) (fun _ _ => rfl) h.moves.origin_eq hkeeps
    (spentOn_mono h.moves.id_eq hkeeps le_rfl)

theorem Within.rewritten (hsound : Sound s) (hsound' : Sound s') (hproject : b.projectId ≠ 0)
    (h : Within U b e s) (hno : WithoutOverride U b s c answers) (hreads : c.Reads s.db)
    {op : RequestOp} {approvals : Dict ℕ Approving}
    (hwriting : Writing s c ctx op current approvals)
    (hrow : s.db.requests.get? current.id = some row) (hversion : row.version = current.version)
    (hrewrite : Rewrite sha256 ctx answers row op row')
    (hs' : s'.db = s.db.putRequest current.id row') (happrovals : s'.approvals = approvals) :
    Within U b e s' := by
  have hkept : ∀ txn a, s'.approvals.get? txn = some a → s.approvals.get? txn = some a := by
    intro txn a ha
    rw [happrovals] at ha
    exact hwriting.get?_of_get? ha
  have horigin := hrewrite.moves.origin_eq
  have hshrinks : Shrinks U b s.db (s.db.putRequest current.id row') → Within U b e s' := by
    intro hshrinks
    rw [← hs'] at hshrinks
    exact h.of_shrinks hsound.wellFormed hsound'.wellFormed hshrinks hkept
  cases hcovers : b.covers U row with
  | false => exact hshrinks (.of_not_covers horigin hcovers)
  | true =>
    have hcurrent : b.covers U current = true := by
      rw [← Budget.covers_congr ((hwriting.seen hsound hreads).origin row hrow)]
      exact hcovers
    cases hwriting with
    | write _ _ current hnone =>
      refine hshrinks (hrewrite.shrinks hsound.wellFormed (fun v o hop => ?_) hrow)
      simp only [Budget.covers, Bool.and_eq_true, decide_eq_true_eq] at hcurrent
      have hsome : current.project? = some b.projectId := by
        rw [PaymentRequest.project?, hcurrent.1.1.2, Option.filter_some, if_pos]
        exact decide_eq_true hproject
      nomatch hsome.symm.trans (hnone v o hop)
    | commit txn a _ hget hlast hbudget =>
      have hlimit : b.spent U s'.db ≤ e.limitMinor := by
        rw [hs']
        rw [← hversion] at hrewrite
        cases hrewrite with
        | approve _ _ hfrom =>
          exact h.approved hsound hget hlast hbudget hcurrent (hno a hget hcurrent hlast) hrow
            hversion rfl rfl hfrom
      have hlast : ∀ txn' a', s'.approvals.get? txn' = some a' → b.covers U a'.current ≠ true := by
        intro txn' a' ha' hcovers'
        have htxn := h.only txn txn' a a' hget (hkept txn' a' ha') hcurrent hcovers'
        rw [happrovals, ← htxn, Dict.get?_erase, if_pos rfl] at ha'
        nomatch ha'
      exact ⟨hlimit, fun _ _ _ _ ha _ hcovers' _ => absurd hcovers' (hlast _ _ ha),
        fun _ _ ha hcovers' => absurd hcovers' (hlast _ _ ha)⟩

theorem Within.change (hsound : Sound s) (hreads : c.Reads s.db) (hupper : UpperSpelled U s.db)
    (hproject : b.projectId ≠ 0) (he : U.upper e.currency = e.currency) (h : Within U b e s)
    (hone : OneEnvelope U b e s c answers) (hno : WithoutOverride U b s c answers)
    (hpaid : PaidStays U b s c answers) (hc : Change U sha256 s answers c s') :
    Within U b e s' := by
  have hsound' := hsound.change hreads hc
  cases hc with
  | reading _ _ _ hreading =>
    exact h.reading hsound hreads hupper he hone hpaid hreading
  | created _ _ _ hnew =>
    exact h.of_shrinks hsound.wellFormed hsound'.wellFormed
      (shrinks_create hsound.wellFormed hnew rfl) fun _ _ ha => ha
  | rewritten _ _ _ _ _ _ _ hwriting hrow _ hversion hrewrite =>
    exact h.rewritten hsound hsound' hproject hno hreads hwriting hrow hversion hrewrite
      (recordApproval_db _ _ _) (recordApproval_approvals _ _ _)
  | allocated _ _ _ hallocates =>
    exact h.of_shrinks hsound.wellFormed hsound'.wellFormed
      (hallocates.shrinks hsound.wellFormed _) fun _ _ ha => ha
  | reversed _ _ _ _ _ ha _ hrequest _ hdb =>
    subst hdb
    exact h.of_shrinks hsound.wellFormed hsound'.wellFormed
      (shrinks_reverse hsound.wellFormed ha hrequest _) fun _ _ ha => ha
  | enveloped =>
    exact h.of_shrinks hsound.wellFormed hsound'.wellFormed (Shrinks.refl s.db) fun _ _ ha => ha

end Step

/-! ## Every run -/

theorem upperRule (U : UpperCase) (sha256 : ApprovalTerms → String) :
    (payments U sha256).Rule (fun _ _ _ => True) (fun s => Sound s ∧ UpperSpelled U s.db)
      fun s c => c.Reads s.db := by
  have hrule := (soundRule U sha256).and (fun _ _ _ => True) (fun s => UpperSpelled U s.db)
    (fun _ _ _ _ _ hsound hreads h _ hs => h.change (change_of_step hsound hreads hs))
    fun _ c _ _ h => by cases c <;> exact h
  exact hrule.imp fun _ _ _ _ => ⟨trivial, trivial⟩

/-- The premises of the law, and the condition. -/
def KeepsBudget (U : UpperCase) (b : Budget) (e : ProjectBudgetEnvelope) (s : Books)
    (c : PaymentCall) (answers : Answers) : Prop :=
  OneEnvelope U b e s c answers ∧ WithoutOverride U b s c answers ∧ PaidStays U b s c answers

theorem withinRule (U : UpperCase) (sha256 : ApprovalTerms → String) {b : Budget}
    {e : ProjectBudgetEnvelope} (hproject : b.projectId ≠ 0)
    (he : U.upper e.currency = e.currency) :
    (payments U sha256).Rule (KeepsBudget U b e)
      (fun s => (Sound s ∧ UpperSpelled U s.db) ∧ Within U b e s) fun s c => c.Reads s.db := by
  have hrule := (upperRule U sha256).and (KeepsBudget U b e) (Within U b e)
    (fun _ _ _ _ _ hI hreads h hG hs => h.change hI.1 hreads hI.2 hproject he hG.1 hG.2.1 hG.2.2
      (change_of_step hI.1 hreads hs))
    fun _ c _ _ h => by
      cases c with
      | approving txn => exact h.erase txn
      | _ => exact h
  exact hrule.imp fun _ _ _ hG => ⟨trivial, hG⟩

/-- While the one envelope in force is spelled in upper case, and paid stays covered, the limit is
kept. -/
theorem budgetLaw_of_paidStays (U : UpperCase) (sha256 : ApprovalTerms → String)
    (bankTransactions : List BankTransaction) (envelopes : List ProjectBudgetEnvelope)
    (b : Budget) (e : ProjectBudgetEnvelope) (before ls : List (CallLabel PaymentReq Answers))
    (s : InFlight Books PaymentCall) (hproject : b.projectId ≠ 0)
    (he : U.upper e.currency = e.currency)
    (hs : (payments U sha256).system.run (openBooks bankTransactions envelopes) before = some s)
    (hpaid : (payments U sha256).system.Along (Service.Meets (PaidStays U b)) s ls) :
    BudgetLaw U sha256 b e s ls := by
  intro hidle hle hone hno s' hs'
  have hopen : UpperSpelled U (openBooks bankTransactions envelopes).store.db :=
    fun _ _ h => nomatch h
  have hbefore := (upperRule U sha256).inv_of_run (.of_empty ⟨sound_openBooks _ _, hopen⟩) hs
  have hidle' : ∀ txn a, s.store.approvals.get? txn = some a → b.covers U a.current ≠ true := by
    intro txn a ha hcovers
    nomatch (hidle a (Dict.mem_values.mpr ⟨txn, ha⟩)).symm.trans hcovers
  have hwithin : Within U b e s.store := ⟨hle, fun _ _ _ _ ha _ hcovers _ =>
    absurd hcovers (hidle' _ _ ha), fun _ _ ha hcovers => absurd hcovers (hidle' _ _ ha)⟩
  have hG := (payments U sha256).system.along_and hone
    ((payments U sha256).system.along_and hno hpaid)
  have hafter := (withinRule U sha256 hproject he).inv_of_along
    ⟨⟨hbefore.store, hwithin⟩, hbefore.calls⟩
    (hG.mono _ fun _ _ hl => hl.1.and (hl.2.1.and hl.2.2)) hs'
  exact hafter.store.2.spent

/-! ### Runs -/

def project5 : Budget where
  workspaceId := 1
  projectId := 5
  currency := "VND"

def yearly (currency : Option String) (limitMinor : ℤ) : CreateBudgetEnvelopeInput where
  projectId := 5
  legalEntityId := 2
  currency
  periodStart := 0
  periodEnd := 364
  limitMinor

/-- The envelope of the project is created. -/
def setEnvelope (currency : Option String) (limitMinor : ℤ) :
    List (CallLabel PaymentReq Answers) :=
  [.start (.envelope founder (yearly currency limitMinor)), .step 0 (drawing 300)]

/-- A request of the project is created by call `i`, and submitted by the next one. -/
def submitted (i id : ℕ) (idempotencyKey : String) : List (CallLabel PaymentReq Answers) :=
  [.start (.create founder { hosting with projectId := some 5, idempotencyKey }),
    .step i (drawing id), .start (.onRequest founder id (.submit 1)), .step (i + 1) (drawing 0),
    .step (i + 1) (drawing 0)]

/-- The request `id` is approved by call `i`. -/
def approves (i id : ℕ) : List (CallLabel PaymentReq Answers) :=
  .start (.onRequest founder id (.approve 2 none)) :: List.replicate 5 (.step i (drawing 0))

/-- Two requests of 10 are approved, and one of them is paid meanwhile. -/
def twoApprovals : List (CallLabel PaymentReq Answers) :=
  submitted 1 100 "a" ++ submitted 3 101 "b" ++ approves 5 100 ++
    [CallLabel.start (PaymentReq.onRequest founder 101 (.approve 2 none)), .step 6 (drawing 0),
      .step 6 (drawing 0)] ++
    allocateHosting 7 4 200 "c" ++ List.replicate 3 (.step 6 (drawing 0))

def yearlyEnvelope (currency : Option String) (limitMinor : ℤ) : ProjectBudgetEnvelope :=
  newBudgetEnvelope founder (yearly currency limitMinor) (drawing 300)

/-- An envelope of 25. -/
def upperCaseState : InFlight Books PaymentCall :=
  ((payments upperVnd someSha256).system.run (openBooks [outgoing] []) (setEnvelope none 25)).get
    (by decide +kernel)

theorem budgetLaw_twoApprovals :
    BudgetLaw upperVnd someSha256 project5 (yearlyEnvelope none 25) upperCaseState twoApprovals :=
  budgetLaw_of_paidStays upperVnd someSha256 [outgoing] [] project5 (yearlyEnvelope none 25)
    (setEnvelope none 25) twoApprovals upperCaseState (by decide) (by decide)
    (Option.some_get _).symm (by decide +kernel)

/-- An envelope of 15, for `vnd`. -/
def lowerCaseState : InFlight Books PaymentCall :=
  ((payments upperVnd someSha256).system.run (openBooks [outgoing] [])
    (setEnvelope (some "vnd") 15)).get (by decide +kernel)

def lowerCaseSpentState : InFlight Books PaymentCall :=
  ((payments upperVnd someSha256).system.run lowerCaseState twoApprovals).get (by decide +kernel)

/-- The envelope is in force, but no approval finds it: 20 are spent of 15. -/
theorem not_budgetLaw_lowerCase :
    ¬BudgetLaw upperVnd someSha256 project5 (yearlyEnvelope (some "vnd") 15) lowerCaseState
      twoApprovals := by
  intro h
  have hidle : project5.idle upperVnd lowerCaseState.store := by
    unfold Budget.idle
    decide +kernel
  have hspent := h hidle (by decide +kernel) (by decide +kernel) (by decide +kernel)
    lowerCaseSpentState (Option.some_get _).symm
  have hover : ¬project5.spent upperVnd lowerCaseSpentState.store.db ≤ 15 := by decide +kernel
  exact hover hspent

end JavisSaas.Company.Finance
