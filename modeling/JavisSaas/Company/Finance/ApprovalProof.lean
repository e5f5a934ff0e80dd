import JavisSaas.Company.Finance.Settlement

/-!
# The proof of an approval

An approval is recorded with the version that it led to, and the services that pay take it for fresh
as long as the version is that one. But a reported transfer and an update of any field end that, and
a new transfer reference, which the hash covers, does not send the request back.

* `approvalProofLaw_of_run`: the check means what it should in every run without such writes.
* `not_approvalProofLaw_reported`: a reported transfer can no longer be settled.
-/

namespace JavisSaas.Company.Finance

open JavisSaas.Lib

/-! ## The law -/

/-- The fields that the approval hash covers are the same. -/
def Covered (r r' : PaymentRequest) : Prop := r.approvalTerms 0 = r'.approvalTerms 0

/-- An approved request passes the check exactly if nothing changed that was approved. -/
def FreshnessLaw (s : Books) : Prop :=
  ∀ id r, s.db.requests.get? id = some r → r.approvalState = .approved →
    ∃ r₀, s.approvedAs.get? id = some r₀ ∧
      (r.approvedVersion = some r.version ↔ Covered r₀ r)

/-- An approved request that changes in what was approved is sent back. -/
def SentBack (s s' : Books) : Prop :=
  ∀ id r r', s.db.requests.get? id = some r → s'.db.requests.get? id = some r' →
    r.approvalState = .approved → ¬Covered r r' → r'.approvalState = .draft

theorem SentBack.refl (s : Books) : SentBack s s := by
  intro id r r' hr hr' _ hchanged
  cases hr.symm.trans hr'
  exact absurd rfl hchanged

/-- Both, in the states that a run reaches and for its steps. -/
structure ApprovalProofLaw (U : UpperCase) (sha256 : ApprovalTerms → String)
    (s : InFlight Books PaymentCall) (ls : List (CallLabel PaymentReq Answers)) : Prop where
  fresh : ∀ s', (payments U sha256).system.run s ls = some s' → FreshnessLaw s'.store
  sentBack : (payments U sha256).system.Along
    (fun s l => ∀ s' ∈ (payments U sha256).next s l, SentBack s.store s'.store) s ls

/-- An update changes the amount or the beneficiary, and no transfer is reported. -/
def SparesProofs (s : Books) (c : PaymentCall) (_ : Answers) : Prop :=
  match c with
  | .write _ op current => op.accepts current = true → StillAt s.db current →
    match op with
    | .update input => current.approvalState = .approved → beneficiaryFieldChanged input current = true
    | .report _ => False
    | _ => True
  | _ => True

instance (s : Books) (answers : Answers) : (c : PaymentCall) →
    Decidable (SparesProofs s c answers)
  | .write _ (.update _) _ => inferInstanceAs (Decidable (_ → _ → _ → _))
  | .write _ (.report _) _ => inferInstanceAs (Decidable (_ → _ → False))
  | .write _ (.cancel _) _ | .write _ (.submit _) _ | .write _ (.approve _ _) _
  | .write _ (.reject _ _) _ => inferInstanceAs (Decidable (_ → _ → True))
  | .create .. | .load .. | .reload .. | .approving _ | .allocate .. | .reverse .. | .envelope .. =>
    instDecidableTrue

/-! ## Every step -/

/-- An approved request is as it was approved, under the version of the approval. -/
def Proven (s : Books) : Prop :=
  ∀ id r, s.db.requests.get? id = some r → r.approvalState = .approved →
    r.approvedVersion = some r.version ∧ ∃ r₀, s.approvedAs.get? id = some r₀ ∧ Covered r₀ r

theorem Proven.law {s : Books} (h : Proven s) : FreshnessLaw s := by
  intro id r hr happroved
  obtain ⟨hfresh, r₀, hr₀, hcovered⟩ := h id r hr happroved
  exact ⟨r₀, hr₀, iff_of_true hfresh hcovered⟩

section Step

variable {U : UpperCase} {sha256 : ApprovalTerms → String} {s s' : Books} {c : PaymentCall}
  {answers : Answers} {ctx : TenantContext} {op : RequestOp} {current row row' : PaymentRequest}

theorem recordApproval_approve {db : FinanceDb} {expectedVersion : ℕ}
    {overrideReason : Option String} {id : ℕ} :
    recordApproval s (.approve expectedVersion overrideReason) id (db.putRequest id row') =
      { s with db := db.putRequest id row', approvedAs := s.approvedAs.set id row' } := by
  unfold recordApproval
  rw [requests_putRequest, if_pos rfl]

theorem approvedAs_of_ne {id id' : ℕ} {db : FinanceDb} (h : id' ≠ id) :
    (recordApproval s op id db).approvedAs.get? id' = s.approvedAs.get? id' := by
  unfold recordApproval
  split
  · exact Dict.get?_set_of_ne _ h.symm _
  · rfl

/-- What a write makes of an approved request, or makes approved. -/
inductive ApprovalStep (row row' : PaymentRequest) : RequestOp → Prop
  | approved {expectedVersion : ℕ} {overrideReason : Option String}
    (hfresh : row'.approvedVersion = some row'.version) (hcovered : Covered row row') :
    ApprovalStep row row' (.approve expectedVersion overrideReason)
  | notApproved {op : RequestOp} (hnot : row'.approvalState ≠ .approved)
    (hback : row.approvalState = .approved → row'.approvalState = .draft ∨ Covered row row') :
    ApprovalStep row row' op

theorem Rewrite.approvalStep (h : Rewrite sha256 ctx answers row op row')
    (hG : SparesProofs s (.write ctx op current) answers) (haccepts : op.accepts current = true)
    (hrow : s.db.requests.get? current.id = some row) (hversion : row.version = current.version)
    (hsame : current = { row with settlementState := current.settlementState }) :
    ApprovalStep row row' op := by
  have hspares := hG haccepts ⟨row, hrow, hversion⟩
  cases h with
  | update input =>
    have hchanged : row.approvalState = .approved → beneficiaryFieldChanged input row = true := by
      rw [hsame] at hspares
      exact hspares
    by_cases happroved : row.approvalState = .approved
    · have hdraft : (editPaymentRequest input row row).approvalState = .draft := by
        simp [editPaymentRequest, revokes, happroved, hchanged happroved]
      refine .notApproved ?_ fun _ => .inl hdraft
      rw [hdraft]
      exact fun h => by cases h
    · have hkept : (editPaymentRequest input row row).approvalState = row.approvalState := by
        simp [editPaymentRequest, revokes, happroved]
      refine .notApproved ?_ fun h => absurd h happroved
      rw [hkept]
      exact happroved
  | submit | reject | cancel => exact .notApproved (fun h => by cases h) fun _ => .inr rfl
  | approve => exact .approved rfl rfl
  | report => exact hspares.elim

theorem Proven.settle {request : PaymentRequest} {state : SettlementState} {db : FinanceDb}
    {allocatedAs : Dict ℕ PaymentRequest} (h : Proven s)
    (hdb : db.requests = s.db.requests)
    (hrequest : s.db.requests.get? request.id = some request) :
    Proven { s with db := Finance.settle db request state, allocatedAs } ∧
      SentBack s { s with db := Finance.settle db request state, allocatedAs } := by
  constructor
  · intro id r hr happroved
    rw [requests_settle, hdb] at hr
    split_ifs at hr with hid
    · cases hr
      subst hid
      exact h _ request hrequest happroved
    · exact h id r hr happroved
  · intro id r r' hr hr' happroved hchanged
    rw [requests_settle, hdb] at hr'
    split_ifs at hr' with hid
    · cases hr'
      subst hid
      cases hrequest.symm.trans hr
      exact absurd rfl hchanged
    · cases hr.symm.trans hr'
      exact absurd rfl hchanged

theorem SparesProofs.writing {approvals : Dict ℕ Approving} {ctx : TenantContext}
    (h : Writing s c ctx op current approvals) (hG : SparesProofs s c answers) :
    SparesProofs s (.write ctx op current) answers := by
  cases h with
  | write => exact hG
  | commit => exact fun _ _ => trivial

theorem Proven.change (hsound : Sound s) (hreads : c.Reads s.db) (h : Proven s)
    (hG : SparesProofs s c answers) (hc : Change U sha256 s answers c s') :
    Proven s' ∧ SentBack s s' := by
  have hwf := hsound.wellFormed
  cases hc with
  | reading | enveloped => exact ⟨h, SentBack.refl s⟩
  | created _ _ _ hnew =>
    refine ⟨fun id r hr happroved => ?_, fun id r r' hr hr' _ hchanged => ?_⟩
    · rw [requests_putRequest] at hr
      split_ifs at hr
      · cases hr
        nomatch happroved
      · exact h id r hr happroved
    · rw [requests_putRequest] at hr'
      split_ifs at hr' with hid
      · rw [← hid, hnew] at hr
        nomatch hr
      · cases hr.symm.trans hr'
        exact absurd rfl hchanged
  | rewritten _ _ _ _ _ row' _ hwriting hrow haccepts hversion hrewrite =>
    obtain ⟨-, -, row₀, hrow₀, -, hsame⟩ := hwriting.seen hsound hreads
    cases hrow.symm.trans hrow₀
    have hstep := hrewrite.approvalStep (hG.writing hwriting) haccepts hrow hversion (hsame hversion)
    constructor
    · intro id r hr happroved
      rw [recordApproval_db, requests_putRequest] at hr
      split_ifs at hr with hid
      · cases hr
        subst hid
        cases hstep with
        | approved hfresh =>
          refine ⟨hfresh, row', ?_, rfl⟩
          rw [recordApproval_approve]
          exact Dict.get?_set_self _ _ _
        | notApproved hnot => exact absurd happroved hnot
      · rw [approvedAs_of_ne (Ne.symm hid)]
        exact h id r hr happroved
    · intro id r r' hr hr' happroved hchanged
      rw [recordApproval_db, requests_putRequest] at hr'
      split_ifs at hr' with hid
      · cases hr'
        subst hid
        cases hrow.symm.trans hr
        cases hstep with
        | approved _ hcovered => exact absurd hcovered hchanged
        | notApproved _ hback => exact (hback happroved).resolve_right hchanged
      · cases hr.symm.trans hr'
        exact absurd rfl hchanged
  | allocated _ _ _ hallocates =>
    obtain ⟨hget, -⟩ := FinanceDb.ownRequest?_eq_some.mp hallocates.own
    rw [← hwf.request _ _ hget] at hget
    exact h.settle rfl hget
  | reversed _ _ _ _ _ _ _ hrequest _ hdb =>
    rw [← hwf.request _ _ hrequest] at hrequest
    exact h.settle (by rw [hdb]; rfl) hrequest

end Step

/-! ## Every run -/

theorem provenRule (U : UpperCase) (sha256 : ApprovalTerms → String) :
    (payments U sha256).Rule SparesProofs (fun s => Sound s ∧ Proven s)
      fun s c => c.Reads s.db := by
  have hrule := (soundRule U sha256).and SparesProofs Proven
    (fun _ _ _ _ _ hsound hreads h hG hs =>
      (h.change hsound hreads hG (change_of_step hsound hreads hs)).1)
    fun _ c _ _ h => by cases c <;> exact h
  exact hrule.imp fun _ _ _ hG => ⟨trivial, hG⟩

/-- In every run whose writes spare the proofs, the check means what it should. -/
theorem approvalProofLaw_of_run (U : UpperCase) (sha256 : ApprovalTerms → String)
    (bankTransactions : List BankTransaction) (envelopes : List ProjectBudgetEnvelope)
    (ls : List (CallLabel PaymentReq Answers))
    (h : (payments U sha256).system.Along (Service.Meets SparesProofs)
      (openBooks bankTransactions envelopes) ls) :
    ApprovalProofLaw U sha256 (openBooks bankTransactions envelopes) ls := by
  have hproven : Proven (openBooks bankTransactions envelopes).store := fun _ _ hr => nomatch hr
  have hopen : Service.Inv (fun s : Books => Sound s ∧ Proven s) (fun s c => c.Reads s.db)
      (openBooks bankTransactions envelopes) :=
    .of_empty ⟨sound_openBooks _ _, hproven⟩
  constructor
  · intro s' hs'
    exact ((provenRule U sha256).inv_of_along hopen h hs').store.2.law
  · refine (payments U sha256).system.along_of_inv
      (fun _ _ _ hI hG hn => (provenRule U sha256).inv_next hI hG hn) ?_ hopen h
    intro s l hinv hG s' hs'
    rcases (payments U sha256).store_of_next hs' with hstore | ⟨c, hstore⟩ |
      ⟨i, answers, c, c', rfl, hc, hstep⟩
    · rw [hstore]
      exact SentBack.refl _
    · rw [hstore]
      cases c <;> exact SentBack.refl _
    · have hreads := hinv.calls i c hc
      have hchange := change_of_step hinv.store.1 hreads hstep
      exact (hinv.store.2.change hinv.store.1 hreads (hG c hc) hchange).2

/-! ### Runs -/

/-- Request 100 is approved, changed, approved again and paid. -/
def changedHosting : List (CallLabel PaymentReq Answers) :=
  approvedHosting ++
    atOnce 3 (.update { expectedVersion := 3, beneficiaryName := some "HOSTING LTD" }) ++
    atOnce 4 (.submit 4) ++ atOnce 5 (.approve 5 none) ++ allocateHosting 6 10 200 "a"

theorem approvalProofLaw_changedHosting :
    ApprovalProofLaw upperVnd someSha256 (openBooks [outgoing] []) changedHosting :=
  approvalProofLaw_of_run upperVnd someSha256 [outgoing] [] changedHosting (by decide +kernel)

/-- The transfer of request 100 is reported. -/
def reportedHosting : List (CallLabel PaymentReq Answers) := approvedHosting ++ atOnce 3 (.report 3)

def reportedHostingState : InFlight Books PaymentCall :=
  ((payments upperVnd someSha256).system.run (openBooks [outgoing] []) reportedHosting).get
    (by decide +kernel)

/-- Nothing changed that was approved, and the check fails: what was reported cannot be
    allocated. -/
theorem not_approvalProofLaw_reported :
    ¬ApprovalProofLaw upperVnd someSha256 (openBooks [outgoing] []) reportedHosting := by
  intro h
  have hlaw : FreshnessLaw reportedHostingState.store := h.fresh _ (Option.some_get _).symm
  have hstale : ∃ r ∈ reportedHostingState.store.db.requests.get? 100,
      ∃ r₀ ∈ reportedHostingState.store.approvedAs.get? 100, r.approvalState = .approved ∧
        r.approvedVersion ≠ some r.version ∧ r₀.approvalTerms 0 = r.approvalTerms 0 := by
    decide +kernel
  obtain ⟨r, hr, r₀, hr₀, happroved, hversion, hcovered⟩ := hstale
  obtain ⟨r₁, hr₁, hiff⟩ := hlaw 100 r hr happroved
  cases hr₀.symm.trans hr₁
  exact hversion (hiff.mpr hcovered)

end JavisSaas.Company.Finance
