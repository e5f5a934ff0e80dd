import Mathlib.Algebra.Order.Group.Int
import JavisSaas.Company.Finance.PaymentCalls

/-!
# The settlement of payment requests

A request with active allocations should be approved, keep its terms and show how much of it is
allocated. Allocations are made under locks, but do not change the version that guards the other
writes, and an update may set any amount.

* `settlementLaw_of_run`: the law, if no update, cancellation or reported transfer falls on active
  allocations, and amounts are positive.
* `not_settlementLaw_cancelled`: a cancellation that read the request before an allocation.
-/

namespace JavisSaas.Company.Finance

open JavisSaas.Lib

/-! ## Sums of allocations -/

section Sums

variable {db : FinanceDb} {p : PaymentAllocation → Bool} {k : ℕ} {a : PaymentAllocation}

/-- What an allocation adds to the sum of the active ones that satisfy `p`. -/
def activeTerm (p : PaymentAllocation → Bool) (a : PaymentAllocation) : ℤ :=
  if p a && a.status = .active then a.amountMinor else 0

theorem sumActive_eq (db : FinanceDb) (p : PaymentAllocation → Bool) :
    sumActive db p = db.allocations.sum (activeTerm p) := sum_map_filter _ _ _

theorem sumActive_insert (h : db.allocations.get? k = none) :
    sumActive (db.putAllocation k a) p = sumActive db p + activeTerm p a := by
  rw [sumActive_eq, sumActive_eq]
  exact Dict.sum_set_of_none _ h

theorem sumActive_replace {a₀ : PaymentAllocation} (h : db.allocations.get? k = some a₀) :
    sumActive (db.putAllocation k a) p = sumActive db p - activeTerm p a₀ + activeTerm p a := by
  rw [sumActive_eq, sumActive_eq]
  exact Dict.sum_set_of_some _ h

@[simp] theorem sumActive_putRequest (row : PaymentRequest) :
    sumActive (db.putRequest k row) p = sumActive db p := rfl

@[simp] theorem sumActive_settle (db : FinanceDb) (request : PaymentRequest)
    (state : SettlementState) : sumActive (settle db request state) p = sumActive db p := rfl

@[simp] theorem activeTerm_reverse (ctx : TenantContext) (reason : String) (now : ℤ) :
    activeTerm p (reverseAllocation ctx reason now a) = 0 := by
  simp [activeTerm, reverseAllocation]

theorem activeTerm_of_not (h : p a = false) : activeTerm p a = 0 := by simp [activeTerm, h]

theorem activeTerm_of_active (hp : p a = true) (hactive : a.status = .active) :
    activeTerm p a = a.amountMinor := by
  simp [activeTerm, hp, hactive]

theorem activeTerm_nonneg (h : 0 < a.amountMinor) : 0 ≤ activeTerm p a := by
  unfold activeTerm
  split_ifs <;> omega

theorem WellFormed.sumActive_nonneg (h : WellFormed db) : 0 ≤ sumActive db p := by
  rw [sumActive_eq]
  exact Dict.sum_nonneg fun a ha => activeTerm_nonneg (h.positive a ha)

theorem WellFormed.le_sumActive (h : WellFormed db) (ha : a ∈ db.allocations.values)
    (hp : p a = true) (hactive : a.status = .active) : a.amountMinor ≤ sumActive db p := by
  rw [sumActive_eq, ← activeTerm_of_active hp hactive]
  exact Dict.le_sum (fun a ha => activeTerm_nonneg (h.positive a ha)) ha

theorem WellFormed.not_active_of_sum (h : WellFormed db) (hsum : sumActive db p = 0)
    (ha : a ∈ db.allocations.values) (hp : p a = true) : a.status ≠ .active := by
  intro hactive
  have hle := h.le_sumActive ha hp hactive
  have hpos := h.positive a ha
  omega

theorem sumActive_of_forall_not (h : ∀ a ∈ db.allocations.values, p a = false) :
    sumActive db p = 0 := by
  rw [sumActive_eq, Dict.sum_congr fun a ha => activeTerm_of_not (h a ha)]
  apply List.sum_eq_zero
  intro x hx
  obtain ⟨a, -, rfl⟩ := List.mem_map.mp hx
  rfl

end Sums

/-! ## The law -/

/-- Amount and beneficiary. -/
structure SameTerms (r r' : PaymentRequest) : Prop where
  amountMinor : r.amountMinor = r'.amountMinor
  beneficiaryBankBin : r.beneficiaryBankBin = r'.beneficiaryBankBin
  beneficiaryAccountNumber : r.beneficiaryAccountNumber = r'.beneficiaryAccountNumber
  beneficiaryName : r.beneficiaryName = r'.beneficiaryName

structure SettlementLaw (U : UpperCase) (s : Books) : Prop where
  /-- A request with an active allocation is approved, on the terms of the allocation. -/
  active : ∀ id a, s.db.allocations.get? id = some a → a.status = .active →
    ∃ r r₀, s.db.requests.get? a.requestId = some r ∧ r.approvalState = .approved ∧
      s.allocatedAs.get? id = some r₀ ∧ SameTerms r₀ r
  request : ∀ id r, s.db.requests.get? id = some r → requestAllocated s.db id ≤ r.amountMinor
  /-- The active allocations of a bank transaction, if there are any. -/
  bank : ∀ a ∈ s.db.allocations.values, a.status = .active →
    ∃ b m, s.db.bankTransactions.get? a.bankTransactionId = some b ∧
      parseDecimalToMoney U b.amount b.currency = .ok m ∧
      bankAllocated s.db a.bankTransactionId ≤ m.minor
  paid : ∀ id r, s.db.requests.get? id = some r →
    (r.settlementState = .paid ↔ requestAllocated s.db id = r.amountMinor)
  partly : ∀ id r, s.db.requests.get? id = some r → (r.settlementState = .partly ↔
    0 < requestAllocated s.db id ∧ requestAllocated s.db id < r.amountMinor)
  exception : ∀ id r, s.db.requests.get? id = some r → r.settlementState = .exception →
    (∃ a ∈ s.db.allocations.values, a.requestId = id) ∧
      ∀ a ∈ s.db.allocations.values, a.requestId = id → a.status = .reversed

/-- The version is still the one that was read. -/
def StillAt (db : FinanceDb) (current : PaymentRequest) : Prop :=
  ∃ row ∈ db.requests.get? current.id, row.version = current.version
deriving Decidable

/-- A write that is accepted does not fall on active allocations, and sets a positive amount. -/
def SparesAllocations (s : Books) (c : PaymentCall) (_ : Answers) : Prop :=
  match c with
  | .write _ op current => op.accepts current = true → StillAt s.db current →
    match op with
    | .update input =>
      (beneficiaryFieldChanged input current = true → requestAllocated s.db current.id = 0) ∧
        ∀ t ∈ input.amountMinor, 0 < t.minor
    | .cancel _ => requestAllocated s.db current.id = 0
    | .report _ => requestAllocated s.db current.id = 0
    | _ => True
  | _ => True

instance (s : Books) (answers : Answers) (c : PaymentCall) :
    Decidable (SparesAllocations s c answers) := by
  unfold SparesAllocations
  split
  · split <;> infer_instance
  · infer_instance

/-! ## The invariant -/

/-- The settlement state that goes with an allocated sum. -/
def StateOf (state : SettlementState) (allocated amount : ℤ) : Prop :=
  match state with
  | .unpaid => allocated = 0
  | .reported => allocated = 0
  | .partly => 0 < allocated ∧ allocated < amount
  | .paid => allocated = amount
  | .exception => allocated = 0

/-- What holds of a request of which so much is allocated. -/
structure RequestSettled (allocations : Dict ℕ PaymentAllocation) (id : ℕ) (allocated : ℤ)
    (r : PaymentRequest) : Prop where
  amount : 0 < r.amountMinor
  state : StateOf r.settlementState allocated r.amountMinor
  approved : 0 < allocated → r.approvalState = .approved
  exception : r.settlementState = .exception → ∃ a ∈ allocations.values, a.requestId = id

structure Settled (U : UpperCase) (s : Books) : Prop where
  request : ∀ id r, s.db.requests.get? id = some r →
    RequestSettled s.db.allocations id (requestAllocated s.db id) r
  terms : ∀ id a, s.db.allocations.get? id = some a → a.status = .active →
    ∃ r r₀, s.db.requests.get? a.requestId = some r ∧ s.allocatedAs.get? id = some r₀ ∧
      SameTerms r₀ r
  bank : ∀ a ∈ s.db.allocations.values, a.status = .active →
    ∃ b m, s.db.bankTransactions.get? a.bankTransactionId = some b ∧
      parseDecimalToMoney U b.amount b.currency = .ok m ∧
      bankAllocated s.db a.bankTransactionId ≤ m.minor

/-- The active allocations of a bank transaction come to no more than its amount. -/
def BankCovered (U : UpperCase) (db : FinanceDb) : Prop :=
  ∀ a ∈ db.allocations.values, a.status = .active →
    ∃ b m, db.bankTransactions.get? a.bankTransactionId = some b ∧
      parseDecimalToMoney U b.amount b.currency = .ok m ∧
      bankAllocated db a.bankTransactionId ≤ m.minor

theorem StateOf.le {state : SettlementState} {allocated amount : ℤ}
    (h : StateOf state allocated amount) (hamount : 0 < amount) : allocated ≤ amount := by
  cases state <;> simp only [StateOf] at h <;> omega

/-- Under the invariant the state says how much is allocated. -/
theorem Settled.law {U : UpperCase} {s : Books} (hwf : WellFormed s.db) (h : Settled U s) :
    SettlementLaw U s where
  active id a ha hactive := by
    obtain ⟨r, r₀, hr, hr₀, hterms⟩ := h.terms id a ha hactive
    have hmem : a ∈ s.db.allocations.values := Dict.mem_values.mpr ⟨id, ha⟩
    have hle : a.amountMinor ≤ requestAllocated s.db a.requestId :=
      hwf.le_sumActive hmem (decide_eq_true rfl) hactive
    have hpos := hwf.positive a hmem
    exact ⟨r, r₀, hr, (h.request _ r hr).approved (by omega), hr₀, hterms⟩
  request id r hr := (h.request id r hr).state.le (h.request id r hr).amount
  bank := h.bank
  paid id r hr := by
    have hstate := (h.request id r hr).state
    have hamount := (h.request id r hr).amount
    cases hs : r.settlementState <;> simp only [hs, StateOf] at hstate <;> simp <;> omega
  partly id r hr := by
    have hstate := (h.request id r hr).state
    have hamount := (h.request id r hr).amount
    cases hs : r.settlementState <;> simp only [hs, StateOf] at hstate <;> simp <;> omega
  exception id r hr hexception := by
    refine ⟨(h.request id r hr).exception hexception, fun a ha hid => ?_⟩
    have hstate := (h.request id r hr).state
    rw [hexception] at hstate
    have hnot := hwf.not_active_of_sum hstate ha (decide_eq_true hid)
    cases hstatus : a.status with
    | active => exact absurd hstatus hnot
    | reversed => rfl

/-! ## Every step -/

section Step

variable {U : UpperCase} {sha256 : ApprovalTerms → String} {s s' : Books} {c : PaymentCall}
  {answers : Answers} {db : FinanceDb}

theorem SameTerms.trans {a b c : PaymentRequest} (h : SameTerms a b) (h' : SameTerms b c) :
    SameTerms a c :=
  ⟨h.1.trans h'.1, h.2.trans h'.2, h.3.trans h'.3, h.4.trans h'.4⟩

variable {request : PaymentRequest} {id : ℕ} {row : PaymentRequest} {ctx : TenantContext}

theorem requests_settle {state : SettlementState} :
    (settle db request state).requests.get? id =
      if request.id = id then some { request with settlementState := state }
      else db.requests.get? id :=
  requests_putRequest

theorem hasAllocation_put {k : ℕ} {a : PaymentAllocation}
    (hk : ∀ a₀, db.allocations.get? k = some a₀ → a.requestId = a₀.requestId)
    (h : ∃ a ∈ db.allocations.values, a.requestId = id) :
    ∃ a' ∈ (db.putAllocation k a).allocations.values, a'.requestId = id := by
  obtain ⟨a₀, ha₀, hid⟩ := h
  obtain ⟨k₀, hget⟩ := Dict.mem_values.mp ha₀
  by_cases hkey : k = k₀
  · subst hkey
    refine ⟨a, Dict.mem_values.mpr ⟨k, ?_⟩, (hk a₀ hget).trans hid⟩
    rw [allocations_putAllocation, if_pos rfl]
  · refine ⟨a₀, Dict.mem_values.mpr ⟨k₀, ?_⟩, hid⟩
    rw [allocations_putAllocation, if_neg hkey]
    exact hget

theorem edit_of_unchanged {input : UpdatePaymentRequestInput}
    (h : beneficiaryFieldChanged input row = false) :
    SameTerms row (editPaymentRequest input row row) ∧
      (editPaymentRequest input row row).approvalState = row.approvalState := by
  have hrevokes : revokes input row = false := by simp [revokes, h]
  simp only [beneficiaryFieldChanged, Bool.or_eq_false_iff] at h
  obtain ⟨⟨⟨hamount, hbin⟩, haccount⟩, hname⟩ := h
  have hkept : ∀ (o : Option String) (old : String), (o.any (· ≠ old)) = false →
      old = o.getD old := by
    intro o old ho
    cases o with
    | none => rfl
    | some new =>
      have heq : new = old := by simpa using ho
      exact heq.symm
  refine ⟨⟨?_, hkept _ _ hbin, hkept _ _ haccount, hkept _ _ hname⟩, ?_⟩
  · show row.amountMinor = (input.amountMinor.map (·.minor)).getD row.amountMinor
    cases hinput : input.amountMinor with
    | none => rfl
    | some t =>
      rw [hinput] at hamount
      have htext : t.text = toString row.amountMinor := by simpa using hamount
      exact (t.minor_eq _ htext).symm
  · simp [editPaymentRequest, hrevokes]

/-- A request that changes its terms has no active allocation, and gets a positive amount. -/
theorem Rewrite.settled {op : RequestOp} {current row' : PaymentRequest}
    (h : Rewrite sha256 ctx answers row op row')
    (hG : SparesAllocations s (.write ctx op current) answers)
    (haccepts : op.accepts current = true) (hrow : s.db.requests.get? current.id = some row)
    (hversion : row.version = current.version)
    (hsame : current = { row with settlementState := current.settlementState })
    (hsettled : RequestSettled s.db.allocations id (requestAllocated s.db current.id) row)
    (hnonneg : 0 ≤ requestAllocated s.db current.id) :
    RequestSettled s.db.allocations id (requestAllocated s.db current.id) row' ∧
      (requestAllocated s.db current.id = 0 ∨ SameTerms row row') := by
  have hspares := hG haccepts ⟨row, hrow, hversion⟩
  obtain ⟨hamount, hstate, happroved, hexception⟩ := hsettled
  generalize requestAllocated s.db current.id = allocated at *
  cases h with
  | update input =>
    obtain ⟨hunchanged, hpos⟩ := hspares
    have hnew : 0 < (editPaymentRequest input row row).amountMinor := by
      show 0 < (input.amountMinor.map (·.minor)).getD row.amountMinor
      cases hinput : input.amountMinor with
      | none => exact hamount
      | some t => exact hpos t hinput
    by_cases hzero : allocated = 0
    · subst hzero
      refine ⟨⟨hnew, ?_, fun h => absurd h (lt_irrefl _), hexception⟩, .inl rfl⟩
      show StateOf row.settlementState 0 _
      cases hs : row.settlementState <;> simp only [hs, StateOf] at hstate ⊢ <;> omega
    · have hfields : beneficiaryFieldChanged input row = false := by
        have hnot := Bool.eq_false_iff.mpr fun h => hzero (hunchanged h)
        rw [hsame] at hnot
        exact hnot
      obtain ⟨hterms, hrevokes⟩ := edit_of_unchanged hfields
      refine ⟨⟨hnew, ?_, ?_, hexception⟩, .inr hterms⟩
      · rw [← hterms.amountMinor]
        exact hstate
      · intro hactive
        rw [hrevokes]
        exact happroved hactive
  | submit hfrom =>
    refine ⟨⟨hamount, hstate, fun h => ?_, hexception⟩, .inr ⟨rfl, rfl, rfl, rfl⟩⟩
    nomatch hfrom.symm.trans (happroved h)
  | approve =>
    exact ⟨⟨hamount, hstate, fun _ => rfl, hexception⟩, .inr ⟨rfl, rfl, rfl, rfl⟩⟩
  | reject _ hfrom =>
    refine ⟨⟨hamount, hstate, fun h => ?_, hexception⟩, .inr ⟨rfl, rfl, rfl, rfl⟩⟩
    nomatch hfrom.symm.trans (happroved h)
  | cancel =>
    have hzero : allocated = 0 := hspares
    refine ⟨⟨hamount, hstate, fun h => ?_, hexception⟩, .inl hzero⟩
    omega
  | report hfrom =>
    have hzero : allocated = 0 := hspares
    exact ⟨⟨hamount, hzero, fun _ => hfrom, fun h => nomatch h⟩, .inl hzero⟩

/-- What holds of the requests and of the allocated sums, after the request `k` was replaced. -/
theorem Settled.putRequest {k : ℕ} {row' : PaymentRequest} (hwf : WellFormed s.db) (h : Settled U s)
    (hk : s.db.requests.get? k = some row)
    (hrow' : RequestSettled s.db.allocations k (requestAllocated s.db k) row')
    (hterms : requestAllocated s.db k = 0 ∨ SameTerms row row') {approvedAs : Dict ℕ PaymentRequest} :
    Settled U { s with db := s.db.putRequest k row', approvedAs } where
  request id r hr := by
    rw [requests_putRequest] at hr
    split_ifs at hr with hid
    · cases hr
      subst hid
      exact hrow'
    · exact h.request id r hr
  terms id a ha hactive := by
    obtain ⟨r, r₀, hr, hr₀, hsame⟩ := h.terms id a ha hactive
    by_cases hid : k = a.requestId
    · rcases hterms with hzero | hterms
      · have hnot := hwf.not_active_of_sum hzero (Dict.mem_values.mpr ⟨id, ha⟩)
          (decide_eq_true hid.symm)
        exact absurd hactive hnot
      · rw [← hid, hk] at hr
        cases hr
        refine ⟨row', r₀, ?_, hr₀, hsame.trans hterms⟩
        rw [requests_putRequest, if_pos hid]
    · refine ⟨r, r₀, ?_, hr₀, hsame⟩
      rw [requests_putRequest, if_neg hid]
      exact hr
  bank := h.bank

theorem Settled.created (hwf : WellFormed s.db) (h : Settled U s)
    {input : CreatePaymentRequestInput} (hpos : 0 < input.amountMinor)
    (hnew : s.db.requests.get? answers.newId = none) :
    Settled U { s with
      db := s.db.putRequest answers.newId (newPaymentRequest U ctx input answers.newId) } := by
  have hnone : ∀ a ∈ s.db.allocations.values, answers.newId ≠ a.requestId := by
    intro a ha hid
    obtain ⟨row, hrow⟩ := hwf.requested a ha
    have hget := (FinanceDb.ownRequest?_eq_some.mp hrow).1
    rw [← hid, hnew] at hget
    nomatch hget
  constructor
  · intro id r hr
    rw [requests_putRequest] at hr
    split_ifs at hr with hid
    · cases hr
      subst hid
      have hzero : requestAllocated s.db answers.newId = 0 :=
        sumActive_of_forall_not fun a ha => decide_eq_false (hnone a ha).symm
      refine ⟨hpos, hzero, fun h => ?_, fun h => nomatch h⟩
      have hactive : 0 < requestAllocated s.db answers.newId := h
      omega
    · exact h.request id r hr
  · intro id a ha hactive
    obtain ⟨r, r₀, hr, hr₀, hsame⟩ := h.terms id a ha hactive
    refine ⟨r, r₀, ?_, hr₀, hsame⟩
    rw [requests_putRequest, if_neg (hnone a (Dict.mem_values.mpr ⟨id, ha⟩))]
    exact hr
  · exact h.bank

theorem BankCovered.allocated (hwf : WellFormed s.db) (h : BankCovered U s.db)
    {input : CreatePaymentAllocationInput}
    (hallocates : Allocates U s.db ctx input answers.newId request) (state : SettlementState) :
    BankCovered U (settle (s.db.putAllocation answers.newId
      (newAllocation ctx input request answers.newId)) request state) := by
  intro a ha hactive
  obtain ⟨b, m, hb, hparse, hle⟩ := hallocates.bank
  obtain ⟨hbget, -⟩ := Option.filter_eq_some_iff.mp hb
  have hbid : b.id = input.bankTransactionId := hwf.bankTransaction _ _ hbget
  have hbank := sumActive_insert (a := newAllocation ctx input request answers.newId)
    (p := fun a' => a'.bankTransactionId = a.bankTransactionId) hallocates.newId
  show ∃ b m, _ ∧ _ ∧ sumActive _ _ ≤ _
  by_cases hsame : input.bankTransactionId = a.bankTransactionId
  · refine ⟨b, m, hsame ▸ hbget, hparse, ?_⟩
    rw [sumActive_settle, hbank, activeTerm_of_active (decide_eq_true hsame) rfl, ← hsame, ← hbid]
    show bankAllocated s.db b.id + input.amountMinor ≤ m.minor
    omega
  · have hother : (newAllocation ctx input request answers.newId).bankTransactionId ≠
        a.bankTransactionId := hsame
    obtain ⟨id, hgeta⟩ := Dict.mem_values.mp ha
    rw [allocations_settle, allocations_putAllocation] at hgeta
    split_ifs at hgeta with heq
    · exact absurd (congrArg PaymentAllocation.bankTransactionId (Option.some.inj hgeta)) hother
    · obtain ⟨b', m', hb', hparse', hle'⟩ :=
        h a (Dict.mem_values.mpr ⟨id, hgeta⟩) hactive
      refine ⟨b', m', hb', hparse', ?_⟩
      rw [sumActive_settle, hbank, activeTerm_of_not (decide_eq_false hother), add_zero]
      exact hle'

theorem Settled.allocated (hwf : WellFormed s.db) (h : Settled U s)
    {input : CreatePaymentAllocationInput}
    (hallocates : Allocates U s.db ctx input answers.newId request) :
    Settled U { s with
      db := settle (s.db.putAllocation answers.newId (newAllocation ctx input request answers.newId))
        request (stateAfterAllocation (request.amountMinor - requestAllocated s.db request.id)
          input.amountMinor)
      allocatedAs := s.allocatedAs.set answers.newId request } := by
  obtain ⟨hget, hws⟩ := FinanceDb.ownRequest?_eq_some.mp hallocates.own
  have hid : request.id = input.requestId := hwf.request _ _ hget
  have hnew := hallocates.newId
  have hsum : ∀ p, sumActive (s.db.putAllocation answers.newId
      (newAllocation ctx input request answers.newId)) p = sumActive s.db p +
        activeTerm p (newAllocation ctx input request answers.newId) :=
    fun p => sumActive_insert hnew
  have hnonneg : 0 ≤ requestAllocated s.db request.id := hwf.sumActive_nonneg
  have hpos := hallocates.positive
  have hremainder := hallocates.remainder
  have hkeep : ∀ id, (∃ a ∈ s.db.allocations.values, a.requestId = id) → ∃ a ∈ (s.db.putAllocation
      answers.newId (newAllocation ctx input request answers.newId)).allocations.values,
        a.requestId = id :=
    fun id => hasAllocation_put fun a₀ ha₀ => nomatch hnew.symm.trans ha₀
  constructor
  · intro id r hr
    have hown := hsum fun a => a.requestId = id
    rw [requests_settle] at hr
    show RequestSettled _ id (sumActive _ _) r
    split_ifs at hr with heq
    · -- the request that is allocated against
      cases hr
      subst heq
      rw [sumActive_settle, hown, activeTerm_of_active (decide_eq_true hid.symm) rfl]
      show RequestSettled _ _ (requestAllocated s.db request.id + input.amountMinor) _
      refine ⟨(h.request _ request (hid ▸ hget)).amount, ?_, fun _ => hallocates.approved, ?_⟩
      · show StateOf (stateAfterAllocation _ _) _ _
        unfold stateAfterAllocation
        split_ifs with hzero <;> simp only [StateOf] <;> omega
      · intro _
        refine ⟨newAllocation ctx input request answers.newId, ?_, hid.symm⟩
        exact Dict.mem_values.mpr ⟨answers.newId, Dict.get?_set_self _ _ _⟩
    · have hother : (newAllocation ctx input request answers.newId).requestId ≠ id :=
        fun e => heq (hid.trans e)
      rw [sumActive_settle, hown, activeTerm_of_not (decide_eq_false hother), add_zero]
      obtain ⟨hamount, hstate, happroved, hexception⟩ := h.request id r hr
      exact ⟨hamount, hstate, happroved, fun he => hkeep id (hexception he)⟩
  · intro id a ha hactive
    rw [allocations_settle, allocations_putAllocation] at ha
    split_ifs at ha with heq
    · cases ha
      subst heq
      exact ⟨_, request, requests_settle.trans (if_pos hid), Dict.get?_set_self _ _ _,
        ⟨rfl, rfl, rfl, rfl⟩⟩
    · obtain ⟨r, r₀, hr, hr₀, hsame⟩ := h.terms id a ha hactive
      have hr₀' : (s.allocatedAs.set answers.newId request).get? id = some r₀ := by
        rw [Dict.get?_set_of_ne _ heq]
        exact hr₀
      by_cases hreq : request.id = a.requestId
      · rw [← hreq, hid, hget] at hr
        cases hr
        exact ⟨_, r₀, requests_settle.trans (if_pos hreq), hr₀',
          ⟨hsame.1, hsame.2, hsame.3, hsame.4⟩⟩
      · refine ⟨r, r₀, ?_, hr₀', hsame⟩
        rw [requests_settle, if_neg hreq]
        exact hr
  · exact BankCovered.allocated hwf h.bank hallocates _

theorem BankCovered.reversed (hwf : WellFormed s.db) (h : BankCovered U s.db) {allocationId : ℕ}
    {reason : String} {a : PaymentAllocation} (ha : s.db.allocations.get? allocationId = some a)
    (hdb : db = s.db.putAllocation allocationId (reverseAllocation ctx reason answers.now a))
    (state : SettlementState) : BankCovered U (settle db request state) := by
  subst hdb
  intro a' ha' hactive'
  obtain ⟨id, hgeta⟩ := Dict.mem_values.mp ha'
  rw [allocations_settle, allocations_putAllocation] at hgeta
  split_ifs at hgeta with heq
  · rw [← Option.some.inj hgeta] at hactive'
    nomatch hactive'
  · obtain ⟨b, m, hb, hparse, hle⟩ := h a' (Dict.mem_values.mpr ⟨id, hgeta⟩) hactive'
    refine ⟨b, m, hb, hparse, ?_⟩
    let p (x : PaymentAllocation) : Bool := x.bankTransactionId = a'.bankTransactionId
    have hterm : 0 ≤ activeTerm p a :=
      activeTerm_nonneg (hwf.positive a (Dict.mem_values.mpr ⟨_, ha⟩))
    show sumActive _ p ≤ m.minor
    rw [sumActive_settle, sumActive_replace ha, activeTerm_reverse, add_zero]
    exact (Int.sub_le_self _ hterm).trans hle

theorem Settled.reversed (hwf : WellFormed s.db) (h : Settled U s) {allocationId : ℕ}
    {reason : String} {a : PaymentAllocation} (ha : s.db.allocations.get? allocationId = some a)
    (hactive : a.status = .active) (hrequest : s.db.requests.get? a.requestId = some request)
    (hdb : db = s.db.putAllocation allocationId (reverseAllocation ctx reason answers.now a)) :
    Settled U
      { s with db := settle db request (stateAfterReversal (requestAllocated db a.requestId)) } := by
  have hid : request.id = a.requestId := hwf.request _ _ hrequest
  have hmem : a ∈ s.db.allocations.values := Dict.mem_values.mpr ⟨_, ha⟩
  have hpos := hwf.positive a hmem
  have hsum : ∀ p, sumActive db p = sumActive s.db p - activeTerm p a := by
    intro p
    rw [hdb, sumActive_replace ha, activeTerm_reverse, add_zero]
  have hget : ∀ id, db.allocations.get? id =
      if allocationId = id then some (reverseAllocation ctx reason answers.now a)
      else s.db.allocations.get? id := by
    intro id
    rw [hdb, allocations_putAllocation]
  have hrequests : db.requests = s.db.requests := by rw [hdb]; rfl
  constructor
  · intro id r hr
    rw [requests_settle, hrequests] at hr
    show RequestSettled db.allocations id (sumActive db _) r
    rw [hsum]
    split_ifs at hr with heq
    · -- the request that the allocation was made against
      cases hr
      subst heq
      have hown := h.request _ request (hid ▸ hrequest)
      have hle : a.amountMinor ≤ requestAllocated s.db request.id :=
        hwf.le_sumActive hmem (decide_eq_true hid.symm) hactive
      have hcovers := hown.state.le hown.amount
      have hallocated : requestAllocated db a.requestId =
          requestAllocated s.db request.id - a.amountMinor := by
        rw [← hid]
        exact (hsum _).trans (by rw [activeTerm_of_active (decide_eq_true hid.symm) hactive]; rfl)
      rw [activeTerm_of_active (decide_eq_true hid.symm) hactive]
      show RequestSettled _ _ (requestAllocated s.db request.id - a.amountMinor) _
      refine ⟨hown.amount, ?_, fun _ => hown.approved (by omega), fun _ => ?_⟩
      · show StateOf (stateAfterReversal _) _ _
        rw [hallocated]
        unfold stateAfterReversal
        split_ifs with hzero <;> simp only [StateOf] <;> omega
      · refine ⟨reverseAllocation ctx reason answers.now a, ?_, hid.symm⟩
        exact Dict.mem_values.mpr ⟨allocationId, (hget _).trans (if_pos rfl)⟩
    · have hother : a.requestId ≠ id := fun e => heq (hid.trans e)
      rw [activeTerm_of_not (decide_eq_false hother), sub_zero]
      obtain ⟨hamount, hstate, happroved, hexception⟩ := h.request id r hr
      refine ⟨hamount, hstate, happroved, fun he => ?_⟩
      rw [hdb]
      refine hasAllocation_put (fun a₀ ha₀ => ?_) (hexception he)
      rw [Option.some.inj (ha.symm.trans ha₀)]
      rfl
  · intro id a' ha' hactive'
    rw [allocations_settle, hget] at ha'
    split_ifs at ha' with heq
    · rw [← Option.some.inj ha'] at hactive'
      nomatch hactive'
    · obtain ⟨r, r₀, hr, hr₀, hsame⟩ := h.terms id a' ha' hactive'
      by_cases hreq : request.id = a'.requestId
      · rw [← hreq, hid, hrequest] at hr
        cases hr
        exact ⟨_, r₀, requests_settle.trans (if_pos hreq), hr₀,
          ⟨hsame.1, hsame.2, hsame.3, hsame.4⟩⟩
      · refine ⟨r, r₀, ?_, hr₀, hsame⟩
        rw [requests_settle, if_neg hreq, hrequests]
        exact hr
  · exact BankCovered.reversed hwf h.bank ha hdb _

theorem SparesAllocations.writing {op : RequestOp} {current : PaymentRequest}
    {approvals : Dict ℕ Approving} (h : Writing s c ctx op current approvals)
    (hG : SparesAllocations s c answers) :
    SparesAllocations s (.write ctx op current) answers := by
  cases h with
  | write => exact hG
  | commit => exact fun _ _ => trivial

theorem Settled.change (hsound : Sound s) (hreads : c.Reads s.db) (h : Settled U s)
    (hG : SparesAllocations s c answers) (hc : Change U sha256 s answers c s') : Settled U s' := by
  have hwf := hsound.wellFormed
  cases hc with
  | reading | enveloped => exact ⟨h.request, h.terms, h.bank⟩
  | created _ _ hpos hnew => exact h.created hwf hpos hnew
  | rewritten _ _ op current row row' approvals hwriting hrow haccepts hversion hrewrite =>
    obtain ⟨-, -, row₀, hrow₀, -, hsame⟩ := hwriting.seen hsound hreads
    cases hrow.symm.trans hrow₀
    have hsettled := hrewrite.settled (hG.writing hwriting) haccepts hrow hversion (hsame hversion)
      (h.request _ row hrow) hwf.sumActive_nonneg
    obtain ⟨approvedAs, hrecord⟩ := recordApproval_eq (s := { s with approvals }) op current.id
      (s.db.putRequest current.id row')
    have hput : Settled U { s with db := s.db.putRequest current.id row', approvedAs } :=
      h.putRequest hwf hrow hsettled.1 hsettled.2
    rw [hrecord]
    exact ⟨hput.request, hput.terms, hput.bank⟩
  | allocated _ _ _ hallocates => exact h.allocated hwf hallocates
  | reversed _ _ _ _ _ ha hactive hrequest _ hdb =>
    exact h.reversed hwf ha hactive hrequest hdb

end Step

/-! ## Every run -/

theorem settledRule (U : UpperCase) (sha256 : ApprovalTerms → String) :
    (payments U sha256).Rule SparesAllocations (fun s => Sound s ∧ Settled U s)
      fun s c => c.Reads s.db := by
  have hrule := (soundRule U sha256).and SparesAllocations (Settled U)
    (fun _ _ _ _ _ hsound hreads h hG hs =>
      h.change hsound hreads hG (change_of_step hsound hreads hs))
    fun _ c _ _ h => by cases c <;> exact ⟨h.request, h.terms, h.bank⟩
  exact hrule.imp fun _ _ _ hG => ⟨trivial, hG⟩

theorem settled_openBooks (U : UpperCase) (bankTransactions : List BankTransaction)
    (envelopes : List ProjectBudgetEnvelope) :
    Settled U (openBooks bankTransactions envelopes).store where
  request _ _ h := nomatch h
  terms _ _ h := nomatch h
  bank _ h := absurd h List.not_mem_nil

/-- If nothing falls on active allocations and amounts are positive, the law holds. -/
theorem settlementLaw_of_run (U : UpperCase) (sha256 : ApprovalTerms → String)
    (bankTransactions : List BankTransaction) (envelopes : List ProjectBudgetEnvelope)
    (ls : List (CallLabel PaymentReq Answers)) (s : InFlight Books PaymentCall)
    (h : (payments U sha256).system.Along (Service.Meets SparesAllocations)
      (openBooks bankTransactions envelopes) ls)
    (hs : (payments U sha256).system.run (openBooks bankTransactions envelopes) ls = some s) :
    SettlementLaw U s.store := by
  have hinv := (settledRule U sha256).inv_of_along
    (.of_empty ⟨sound_openBooks _ _, settled_openBooks U _ _⟩)
    h hs
  exact hinv.store.2.law hinv.store.1.wellFormed

theorem BankCovered.change (hwf : WellFormed s.db) (h : BankCovered U s.db)
    (hc : Change U sha256 s answers c s') : BankCovered U s'.db := by
  cases hc with
  | reading | created | enveloped => exact h
  | rewritten _ _ op current _ row' approvals =>
    obtain ⟨_, hrecord⟩ := recordApproval_eq (s := { s with approvals }) op current.id
      (s.db.putRequest current.id row')
    rw [hrecord]
    exact h
  | allocated _ _ _ hallocates => exact h.allocated hwf hallocates _
  | reversed _ _ _ _ _ ha _ _ _ hdb => exact h.reversed hwf ha hdb _

/-- Whatever is edited or reversed, no bank transaction is allocated beyond its amount. -/
theorem bankCovered_of_run (U : UpperCase) (sha256 : ApprovalTerms → String)
    (bankTransactions : List BankTransaction) (envelopes : List ProjectBudgetEnvelope)
    {ls : List (CallLabel PaymentReq Answers)} {f : InFlight Books PaymentCall}
    (h : (payments U sha256).system.run (openBooks bankTransactions envelopes) ls = some f) :
    (∀ a ∈ f.store.db.allocations.values, 0 < a.amountMinor) ∧ BankCovered U f.store.db := by
  have hrule := (soundRule U sha256).and (fun _ _ _ => True) (fun s => BankCovered U s.db)
    (fun _ _ _ _ _ hsound hreads h _ hs =>
      h.change hsound.wellFormed (change_of_step hsound hreads hs))
    fun _ c _ _ h => by cases c <;> exact h
  have hinv := (hrule.imp fun _ _ _ _ => ⟨trivial, trivial⟩).inv_of_run
    (.of_empty ⟨sound_openBooks _ _, fun _ h => absurd h List.not_mem_nil⟩) h
  exact ⟨hinv.store.1.wellFormed.positive, hinv.store.2⟩

/-! ### Runs -/

/-- `toUpperCase()` on the spellings of one currency. -/
def upperVnd : UpperCase where
  upper s := if s = "vnd" then "VND" else s
  upper_upper s := by split_ifs <;> simp_all

def someSha256 (terms : ApprovalTerms) : String := "sha256:" ++ terms.beneficiaryName

def founder : TenantContext where
  workspaceId := 1
  workforceMemberId := some 7
  membershipRole := "founder"

def hosting : CreatePaymentRequestInput where
  legalEntityId := 2
  amountMinor := 10
  currency := "VND"
  beneficiaryBankBin := "970415"
  beneficiaryAccountNumber := "123456789"
  beneficiaryName := "HOSTING"
  purpose := "servers"
  idempotencyKey := "req-1"

def outgoing : BankTransaction where
  id := 20
  workspaceId := 1
  amount := "10.00"
  currency := "VND"
  direction := "OUT"

def drawing (newId : ℕ) : Answers := { now := 0, newId }

/-- Call `i` on request 100 reads and writes at once. -/
def atOnce (i : ℕ) (op : RequestOp) : List (CallLabel PaymentReq Answers) :=
  [.start (.onRequest founder 100 op), .step i (drawing 0), .step i (drawing 0)]

/-- Request 100 is created, submitted and approved. -/
def approvedHosting : List (CallLabel PaymentReq Answers) :=
  [CallLabel.start (PaymentReq.create founder hosting), .step 0 (drawing 100)] ++
    atOnce 1 (.submit 1) ++
    atOnce 2 (.approve 2 none)

/-- Call `i` allocates against request 100. -/
def allocateHosting (i : ℕ) (amountMinor : ℤ) (newId : ℕ) (idempotencyKey : String) :
    List (CallLabel PaymentReq Answers) :=
  [.start (.allocate founder
    { requestId := 100, bankTransactionId := 20, amountMinor, idempotencyKey }),
    .step i (drawing newId)]

/-- The request is paid in two parts, and one of them is reversed. -/
def paidHosting : List (CallLabel PaymentReq Answers) :=
  approvedHosting ++ allocateHosting 3 4 200 "a" ++ allocateHosting 4 6 201 "b" ++
    [CallLabel.start (PaymentReq.reverse founder 200 "wrong account"), .step 5 (drawing 0)]

def paidHostingState : InFlight Books PaymentCall :=
  ((payments upperVnd someSha256).system.run (openBooks [outgoing] []) paidHosting).get
    (by decide +kernel)

theorem settlementLaw_paidHosting : SettlementLaw upperVnd paidHostingState.store :=
  settlementLaw_of_run upperVnd someSha256 [outgoing] [] paidHosting _ (by decide +kernel)
    (Option.some_get _).symm

/-- A cancellation reads the request twice, an allocation is made, and the cancellation is
    written. -/
def cancelledHosting : List (CallLabel PaymentReq Answers) :=
  approvedHosting ++
    [CallLabel.start (PaymentReq.onRequest founder 100 (.cancel 3)), .step 3 (drawing 0),
      .step 3 (drawing 0)] ++
    allocateHosting 4 10 200 "a" ++ [CallLabel.step 3 (drawing 0)]

def cancelledHostingState : InFlight Books PaymentCall :=
  ((payments upperVnd someSha256).system.run (openBooks [outgoing] []) cancelledHosting).get
    (by decide +kernel)

theorem bankCovered_cancelledHosting :
    (∀ a ∈ cancelledHostingState.store.db.allocations.values, 0 < a.amountMinor) ∧
      BankCovered upperVnd cancelledHostingState.store.db :=
  bankCovered_of_run upperVnd someSha256 [outgoing] [] (Option.some_get _).symm

/-- A request with an active allocation is cancelled. -/
theorem not_settlementLaw_cancelled :
    (payments upperVnd someSha256).system.run (openBooks [outgoing] []) cancelledHosting =
      some cancelledHostingState ∧ ¬SettlementLaw upperVnd cancelledHostingState.store := by
  refine ⟨(Option.some_get _).symm, fun h => ?_⟩
  have hactive : ∃ a, cancelledHostingState.store.db.allocations.get? 200 = some a ∧
      a.status = .active ∧ a.requestId = 100 := by decide +kernel
  obtain ⟨a, ha, hactive, hrequest⟩ := hactive
  obtain ⟨r, r₀, hr, happroved, -⟩ := h.active 200 a ha hactive
  have hcancelled : ∀ r ∈ cancelledHostingState.store.db.requests.get? 100,
      r.approvalState = .cancelled := by decide +kernel
  rw [hrequest] at hr
  nomatch happroved.symm.trans (hcancelled r hr)

end JavisSaas.Company.Finance
