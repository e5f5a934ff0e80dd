import JavisSaas.Agent.Capabilities.ClaimProtocol

/-!
# One effect for each idempotency key

Executions of one claim key should call the handler one at a time, and not again once a call has
returned.

* `SoleResume`: a running claim is only resumed by its own invocation, when no execution of that
  is under way and no handler call has returned.
* `oneEffect_of_run`: in runs of such resumes in which nothing raises after the handler has
  returned, every key has one effect.
* `not_oneEffect_eventRun`: an event that cannot be appended reopens the completed claim.
-/

namespace JavisSaas.Agent.Capabilities

open JavisSaas.Lib JavisSaas.Agent.Governance JavisSaas.Agent.Runs
open ClaimPhase (after afterHandler after_of_not_touchesClaim cached found resume start turnedAway)

variable {P : Type}

/-! ## What the history shows -/

abbrev GatewayEntry (P : Type) := Entry (GatewayOp P) GatewayOp.Ans PyException (GatewayCall P)

abbrev GatewayThread (P : Type) :=
  Thread (GatewayOp P) GatewayOp.Ans PyException (GatewayExecutionResult P) (GatewayCall P)

/-- The request and the result of a handler call that returned. -/
def returnedCall : GatewayEntry P → Option (GatewayCall P × P)
  | .did _ req (.callHandler _ _) (.ok output) => some (req, output)
  | _ => none

/-- The request of a handler call that began. -/
def begunCall : GatewayEntry P → Option (GatewayCall P)
  | .began _ req (.callHandler _ _) => some req
  | _ => none

/-- The execution that asked for a claim and got an answer. -/
def askedClaim : GatewayEntry P → Option (ℕ × IdempotencyClaimRecord P)
  | .did i _ (.claimIdempotency claim) (.ok _) => some (i, claim)
  | _ => none

section

variable (g : CapabilityGateway P) (κ : ClaimKey)

/-- A handler call of the key returned `output`. -/
def Returned (output : P) (e : GatewayEntry P) : Prop :=
  ∃ req, returnedCall e = some (req, output) ∧ executionKey g req = some κ

/-- A handler call of the key returned. -/
def HandlerReturned (e : GatewayEntry P) : Prop :=
  ∃ x ∈ (returnedCall e).toList, executionKey g x.1 = some κ
deriving Decidable

/-- A handler call of the key began. -/
def HandlerBegan (e : GatewayEntry P) : Prop :=
  ∃ req ∈ (begunCall e).toList, executionKey g req = some κ
deriving Decidable

/-- Execution `i` asked for the claim of the key and got an answer. -/
def Claimed (i : ℕ) (e : GatewayEntry P) : Prop :=
  ∃ claim, askedClaim e = some (i, claim) ∧ claim.key = κ

theorem handlerReturned_iff {e : GatewayEntry P} :
    HandlerReturned g κ e ↔ ∃ output, Returned g κ output e := by
  constructor
  · rintro ⟨⟨req, output⟩, hx, hκ⟩
    exact ⟨output, req, Option.mem_toList.mp hx, hκ⟩
  · rintro ⟨output, req, hx, hκ⟩
    exact ⟨(req, output), Option.mem_toList.mpr hx, hκ⟩

/-- No two executions are inside the handler, none calls it after it has returned, and who asks for
the claim after that gets the recorded result or is turned away. -/
structure OneEffect (s : GatewayPool P) : Prop where
  inFlight : ∀ (i j : ℕ) (t u : GatewayThread P), s.threads[i]? = some t → s.threads[j]? = some u →
    t.busy = true → u.busy = true → executionKey g t.tag = some κ → executionKey g u.tag = some κ →
    i = j
  noRepeat : ¬Before (HandlerReturned g κ) (HandlerBegan g κ) s.log
  later : ∀ i output, Before (Returned g κ output) (Claimed κ i) s.log →
    ∀ (t : GatewayThread P) result, s.threads[i]? = some t → t.code = .ret result →
      result.status = .inProgress ∨ result.status = .completed ∧
        result.outputPayload = some output ∧ result.cachedIdempotency = true

end

/-! ## The conditions -/

/-- The execution can still do something. -/
def isActive (t : GatewayThread P) : Bool := t.alive && t.code.pending.isSome

/-- Where an execution stands with respect to its claim. -/
def claimPhase (i : ℕ) (s : GatewayPool P) : ClaimPhase P :=
  phase ClaimPhase.after .start i s.log

/-- Execution `i` holds the claim of the key. -/
def holdsClaim (g : CapabilityGateway P) (κ : ClaimKey) (s : GatewayPool P) (i : ℕ) : Bool :=
  s.threads[i]?.any fun t =>
    isActive t && executionKey g t.tag = some κ && (claimPhase i s).owns

/-- `uuid4` makes identifiers that no stored claim has. -/
def FreshClaimIds (s : GatewayPool P) : GatewayLabel P → Prop
  | .step i _ => ∀ x ∈ s.pendingAt i,
    match x.2 with
    | .claimIdempotency claim =>
      (s.store.idempotencyIndex.get? claim.key).isNone → (s.store.getClaim claim.claimId).isNone
    | _ => True
  | _ => True

/-- A claim found by its own invocation is resumed only when it runs, is held by none, and no
handler call has returned. -/
def SoleResume (g : CapabilityGateway P) (s : GatewayPool P) : GatewayLabel P → Prop
  | .step i answer => ∀ x ∈ s.pendingAt i,
    match x.2 with
    | .claimIdempotency claim =>
      match ((workload g).respond (.claimIdempotency claim) (answer (.claimIdempotency claim))
        s.store).1 with
      | .ok (false, record) =>
        ((claimPhase i s).afterClaim claim (.ok (false, record))).owns →
          record.status = .running ∧ (∀ j < s.threads.length, holdsClaim g claim.key s j = false) ∧
            ∀ e ∈ s.log, ¬HandlerReturned g claim.key e
      | _ => True
    | _ => True
  | _ => True

/-- Nothing raises in an execution whose handler has returned, and claims are resumed alone. -/
def Undisturbed (g : CapabilityGateway P) (s : GatewayPool P) (l : GatewayLabel P) : Prop :=
  (workload g).AnswersAs (claimContract g) .start s l ∧ SoleResume g s l

theorem FreshClaimIds.free {s : GatewayPool P} {i : ℕ} {req : GatewayCall P}
    {answer : (o : GatewayOp P) → Except PyException o.Ans} {claim : IdempotencyClaimRecord P}
    (h : FreshClaimIds s (.step i answer))
    (hp : s.pendingAt i = some (req, .claimIdempotency claim))
    (hid : s.store.idempotencyIndex.get? claim.key = none) :
    s.store.getClaim claim.claimId = none :=
  Option.isNone_iff_eq_none.mp (h _ hp (Option.isNone_iff_eq_none.mpr hid))

theorem SoleResume.alone {g : CapabilityGateway P} {s : GatewayPool P} {i : ℕ} {req : GatewayCall P}
    {answer : (o : GatewayOp P) → Except PyException o.Ans} {claim record : IdempotencyClaimRecord P}
    (h : SoleResume g s (.step i answer))
    (hp : s.pendingAt i = some (req, .claimIdempotency claim))
    (hr : ((workload g).respond (.claimIdempotency claim) (answer (.claimIdempotency claim))
      s.store).1 = .ok (false, record))
    (hgranted : (claimPhase i s).afterClaim claim (.ok (false, record)) = .granted record.claimId) :
    record.status = .running ∧
      (∀ (j : ℕ) (u : GatewayThread P), s.threads[j]? = some u → isActive u = true →
        executionKey g u.tag = some claim.key → (claimPhase j s).owns = false) ∧
      ∀ e ∈ s.log, ¬HandlerReturned g claim.key e := by
  have hx := h _ hp
  dsimp only at hx
  rw [hr] at hx
  obtain ⟨hrun, hfree, hnone⟩ := hx (by rw [hgranted]; rfl)
  refine ⟨hrun, fun j u hu ha hκ => ?_, hnone⟩
  have hj := hfree j (Workload.lt_of_getElem? hu)
  rw [holdsClaim, hu] at hj
  simpa [ha, hκ] using hj

/-! ## The claim protocol of a pool -/

/-- The claims, the unfinished executions and the results of a pool. -/
def view (g : CapabilityGateway P) (s : GatewayPool P) : ClaimView P where
  claim := s.store.getClaim
  index := s.store.idempotencyIndex.get?
  exec i := s.threads[i]?.bind fun t =>
    if isActive t then (executionKey g t.tag).map fun κ => (κ, claimPhase i s) else none
  returned κ output := ∃ e ∈ s.log, Returned g κ output e

section

variable {g : CapabilityGateway P} {s s' : GatewayPool P} {i j : ℕ} {κ : ClaimKey}

theorem view_exec_eq_some {φ : ClaimPhase P} : (view g s).exec i = some (κ, φ) ↔
    ∃ t, s.threads[i]? = some t ∧ isActive t = true ∧ executionKey g t.tag = some κ ∧
      φ = claimPhase i s := by
  show (s.threads[i]?.bind fun t => _) = _ ↔ _
  rw [Option.bind_eq_some_iff]
  refine exists_congr fun t => and_congr_right fun _ => ?_
  split_ifs with ha
  · rw [Option.map_eq_some_iff]
    constructor
    · rintro ⟨κ', hκ, heq⟩
      cases heq
      exact ⟨ha, hκ, rfl⟩
    · rintro ⟨_, hκ, rfl⟩
      exact ⟨κ, hκ, rfl⟩
  · simp [ha]

/-- A step of the pool is a step of the protocol, when what it leaves behind is. -/
theorem sound_of_view {v : ClaimView P} (h : v.Sound)
    (hclaim : ∀ claimId, s'.store.getClaim claimId = v.claim claimId)
    (hindex : ∀ κ, s'.store.idempotencyIndex.get? κ = v.index κ)
    (hexec : ∀ j κ t, s'.threads[j]? = some t → isActive t = true → executionKey g t.tag = some κ →
      v.exec j = some (κ, claimPhase j s'))
    (hreturned : ∀ κ output e, e ∈ s'.log → Returned g κ output e → v.returned κ output) :
    (view g s').Sound := by
  refine h.mono hclaim hindex (fun j x hx => ?_) fun κ output hr => ?_
  · obtain ⟨κ, φ⟩ := x
    obtain ⟨t, ht, ha, hκ, rfl⟩ := view_exec_eq_some.mp hx
    exact hexec j κ t ht ha hκ
  · obtain ⟨e, he, hr⟩ := hr
    exact hreturned κ output e he hr

theorem view_exec_of_thread {t : GatewayThread P} (ht : s.threads[i]? = some t)
    (ha : isActive t = true) (hκ : executionKey g t.tag = some κ) :
    (view g s).exec i = some (κ, claimPhase i s) :=
  view_exec_eq_some.mpr ⟨t, ht, ha, hκ, rfl⟩

/-! ## Steps that leave the claims alone -/

/-- The claims and the index are the same. -/
def SameClaims (repo repo' : RunRepository P) : Prop :=
  (∀ claimId, repo'.getClaim claimId = repo.getClaim claimId) ∧
    ∀ κ, repo'.idempotencyIndex.get? κ = repo.idempotencyIndex.get? κ

variable {o : GatewayOp P}

theorem sameClaims_respond (h : o.touchesClaim = false)
    (answer : Except PyException o.Ans) (repo : RunRepository P) :
    SameClaims repo ((workload g).respond o answer repo).2 := by
  cases answer with
  | error => exact ⟨fun _ => rfl, fun _ => rfl⟩
  | ok => cases o <;> first | exact ⟨fun _ => rfl, fun _ => rfl⟩ | nomatch h

theorem sameClaims_decide (repo : RunRepository P) (d : ApprovalDecision) :
    SameClaims repo ((workload g).act d repo) := by
  show SameClaims repo (repo.decideApproval d.approvalId d.reviewer d.approved d.reason d.evidence).2
  unfold RunRepository.decideApproval
  cases repo.getApproval d.approvalId with
  | none => exact ⟨fun _ => rfl, fun _ => rfl⟩
  | some =>
    dsimp only
    split_ifs <;> exact ⟨fun _ => rfl, fun _ => rfl⟩

variable {tag : GatewayCall P}

theorem tag_of_returnedCall {r : Except PyException o.Ans}
    {x : GatewayCall P × P} (h : returnedCall (.did i tag o r) = some x) : x.1 = tag := by
  cases o with
  | callHandler _ _ =>
    cases r with
    | error => nomatch h
    | ok => exact (congrArg Prod.fst (Option.some.inj h)).symm
  | _ => nomatch h

theorem returnedCall_of_not_touchesClaim
    {r : Except PyException o.Ans} (h : o.touchesClaim = false) :
    returnedCall (.did i tag o r) = none := by
  cases o <;> first | rfl | nomatch h

/-! ## One operation -/

section Step

variable {tag : GatewayCall P} {o : GatewayOp P} {busy : Bool} {r : Except PyException o.Ans}
variable {k : Except PyException o.Ans → GatewayProg P (GatewayExecutionResult P)}
variable {store : RunRepository P}

/-- The pool after execution `i` got the answer `r`. -/
def answered (s : GatewayPool P) (i : ℕ) (tag : GatewayCall P) (o : GatewayOp P)
    (r : Except PyException o.Ans) (code : GatewayProg P (GatewayExecutionResult P))
    (store : RunRepository P) : GatewayPool P where
  store
  threads := s.threads.set i ⟨tag, code, false, true⟩
  log := s.log ++ [Entry.did i tag o r]

theorem claimPhase_answered_self :
    claimPhase i (answered s i tag o r (k r) store) = (claimPhase i s).after o r :=
  phase_did_self

theorem claimPhase_answered_of_ne (h : i ≠ j) :
    claimPhase j (answered s i tag o r (k r) store) = claimPhase j s :=
  phase_did_of_ne h

variable {φ : ClaimPhase P} {claimId : String}

/-- What a step makes of the view, from what it makes of the protocol. -/
theorem sound_answered {w : ClaimView P} {R : P → Prop} (hκ : executionKey g tag = some κ)
    (hφ : (claimPhase i s).after o r = φ) (h : ((w.setExec i κ φ).addReturned κ R).Sound)
    (hexec : w.exec = (view g s).exec) (hret : w.returned = (view g s).returned)
    (hclaim : ∀ claimId, store.getClaim claimId = w.claim claimId)
    (hindex : ∀ κ, store.idempotencyIndex.get? κ = w.index κ)
    (hnew : ∀ output, returnedCall (.did i tag o r) = some (tag, output) → R output) :
    (view g (answered s i tag o r (k r) store)).Sound := by
  refine sound_of_view h hclaim hindex (fun j κ' t ht ha hκ' => ?_) fun κ' output e he hr => ?_
  · show Function.update w.exec i (some (κ, _)) j = _
    rcases Workload.getElem?_set ht with ⟨rfl, rfl⟩ | ⟨hij, ht⟩
    · rw [Function.update_self, claimPhase_answered_self, hφ]
      rw [show κ = κ' from Option.some.inj (hκ.symm.trans hκ')]
    · rw [Function.update_of_ne (Ne.symm hij), claimPhase_answered_of_ne hij, hexec]
      exact view_exec_of_thread ht ha hκ'
  · show w.returned κ' output ∨ κ' = κ ∧ R output
    rcases mem_concat he with he | he
    · rw [hret]
      exact Or.inl ⟨e, he, hr⟩
    · rw [he] at hr
      obtain ⟨req, hcall, hreq⟩ := hr
      obtain rfl : req = tag := tag_of_returnedCall hcall
      exact Or.inr ⟨Option.some.inj (hreq.symm.trans hκ), hnew output hcall⟩

theorem sound_answered_setClaim {c : IdempotencyClaimRecord P} {R : P → Prop}
    (hκ : executionKey g tag = some κ) (hφ : (claimPhase i s).after o r = φ)
    (h : ((((view g s).setClaim claimId c).setExec i κ φ).addReturned κ R).Sound)
    (hclaim : ∀ id, store.getClaim id = if claimId = id then some c else s.store.getClaim id)
    (hindex : ∀ κ, store.idempotencyIndex.get? κ = s.store.idempotencyIndex.get? κ)
    (hnew : ∀ output, returnedCall (.did i tag o r) = some (tag, output) → R output) :
    (view g (answered s i tag o r (k r) store)).Sound := by
  refine sound_answered hκ hφ h rfl rfl (fun id => ?_) hindex hnew
  show _ = Function.update s.store.getClaim claimId (some c) id
  rw [hclaim, Function.update_apply]
  simp only [eq_comm]

theorem sound_frame (h : (view g s).Sound)
    (ht : s.threads[i]? = some ⟨tag, .call o k, busy, true⟩)
    (hphase : (claimPhase i s).after o r = claimPhase i s) (hsame : SameClaims s.store store)
    (hnone : returnedCall (.did i tag o r) = none) :
    (view g (answered s i tag o r (k r) store)).Sound := by
  refine sound_of_view h hsame.1 hsame.2 (fun j κ t ht' ha hκ => ?_) fun κ output e he hr => ?_
  · rcases Workload.getElem?_set ht' with ⟨rfl, rfl⟩ | ⟨hij, ht'⟩
    · rw [claimPhase_answered_self, hphase]
      exact view_exec_of_thread ht rfl hκ
    · rw [claimPhase_answered_of_ne hij]
      exact view_exec_of_thread ht' ha hκ
  · rcases mem_concat he with he | he
    · exact ⟨e, he, hr⟩
    · rw [he] at hr
      obtain ⟨req, hcall, -⟩ := hr
      rw [hnone] at hcall
      nomatch hcall

/-! ### Claiming -/

variable {claim record : IdempotencyClaimRecord P}

theorem afterClaim_error (φ : ClaimPhase P) (e : PyException) : φ.afterClaim claim (.error e) = φ := by
  cases φ <;> rfl

/-- A claim of a key that is taken is answered with a copy of the stored record. -/
theorem afterClaim_taken (claim record : IdempotencyClaimRecord P)
    (hφ : φ = .start ∨ φ = .refreshing) :
    φ.afterClaim claim (.ok (false, record)) = .cached record ∧ record.status = .completed ∨
    φ.afterClaim claim (.ok (false, record)) = .retrying record.claimId ∧
      record.status = .failed ∨
    φ.afterClaim claim (.ok (false, record)) = .turnedAway ∨
    φ.afterClaim claim (.ok (false, record)) = .granted record.claimId := by
  have hresume : resume claim record = .turnedAway ∨
      resume claim record = .granted record.claimId := by
    unfold resume
    split_ifs
    · exact Or.inr rfl
    · exact Or.inl rfl
  rcases hφ with rfl | rfl
  · show (found claim record = _ ∧ _) ∨ (found claim record = _ ∧ _) ∨
      found claim record = _ ∨ found claim record = _
    unfold found
    cases hstatus : record.status with
    | completed => exact Or.inl ⟨rfl, rfl⟩
    | failed => exact Or.inr (Or.inl ⟨rfl, rfl⟩)
    | running => exact Or.inr (Or.inr hresume)
  · exact Or.inr (Or.inr hresume)

theorem sound_claim_taken {k : Except PyException (Bool × IdempotencyClaimRecord P) →
      GatewayProg P (GatewayExecutionResult P)} (h : (view g s).Sound)
    (hκ : executionKey g tag = some claim.key)
    (hφ : claimPhase i s = .start ∨ claimPhase i s = .refreshing)
    (hid : s.store.idempotencyIndex.get? claim.key = some claimId)
    (hrecord : s.store.getClaim claimId = some record)
    (hsole : (claimPhase i s).afterClaim claim (.ok (false, record)) = .granted record.claimId →
      record.status = .running ∧
      (∀ (j : ℕ) (u : GatewayThread P), s.threads[j]? = some u → isActive u →
        executionKey g u.tag = some claim.key → (claimPhase j s).owns = false) ∧
      ∀ e ∈ s.log, ¬HandlerReturned g claim.key e) :
    (view g (answered s i tag (.claimIdempotency claim) (.ok (false, record))
      (k (.ok (false, record))) s.store)).Sound := by
  obtain ⟨c, hc, hkey⟩ := h.indexed claim.key claimId hid
  obtain rfl : record = c := Option.some.inj (hrecord.symm.trans hc)
  have hcid : record.claimId = claimId := (h.keyed claimId record hrecord).1
  have idle : ∀ φ : ClaimPhase P, (claimPhase i s).afterClaim claim (.ok (false, record)) = φ →
      φ.owns = false → (∀ id, φ.claimId? = some id → (view g s).index claim.key = some id) →
      (view g (answered s i tag (.claimIdempotency claim) (.ok (false, record))
        (k (.ok (false, record))) s.store)).Sound := by
    intro φ hafter howns hclaimId
    exact sound_answered hκ hafter (h.idle howns hclaimId).addNone rfl rfl (fun _ => rfl)
      (fun _ => rfl) (fun output hr => nomatch hr)
  rcases afterClaim_taken claim record hφ with
    ⟨hafter, -⟩ | ⟨hafter, -⟩ | hafter | hafter
  · exact idle _ hafter rfl fun _ h => nomatch h
  · refine idle _ hafter rfl fun id heq => ?_
    rw [← Option.some.inj heq, hcid]
    exact hid
  · exact idle _ hafter rfl fun _ h => nomatch h
  · obtain ⟨hrun, hfree, hnone⟩ := hsole hafter
    have hgrant : ((((view g s).setClaim claimId record).setExec i claim.key
        (.granted claimId)).addReturned claim.key fun _ => False).Sound := h.grant hid hkey hcid hrun
      (fun j ψ hj => by
        obtain ⟨u, hu, ha, hk, rfl⟩ := view_exec_eq_some.mp hj
        exact hfree j u hu ha hk)
      (fun output hr => by
        obtain ⟨e, he, hr⟩ := hr
        exact hnone e he ((handlerReturned_iff g _).mpr ⟨output, hr⟩))
    rw [hcid] at hafter
    refine sound_answered_setClaim hκ hafter hgrant (fun id => ?_) (fun _ => rfl)
      (fun output hr => nomatch hr)
    split_ifs with heq
    · exact heq ▸ hrecord
    · rfl

theorem afterClaim_free (hφ : φ = .start ∨ φ = .refreshing) :
    φ.afterClaim claim (.ok (true, claim)) = .granted claim.claimId := by
  rcases hφ with rfl | rfl
  · rfl
  · show resume claim claim = _
    unfold resume
    rw [if_pos ⟨rfl, rfl⟩]

theorem sound_claim_free {k : Except PyException (Bool × IdempotencyClaimRecord P) →
      GatewayProg P (GatewayExecutionResult P)} (h : (view g s).Sound)
    (hκ : executionKey g tag = some claim.key) (hrun : claim.status = .running)
    (hφ : claimPhase i s = .start ∨ claimPhase i s = .refreshing)
    (hid : s.store.idempotencyIndex.get? claim.key = none)
    (hfresh : s.store.getClaim claim.claimId = none) :
    (view g (answered s i tag (.claimIdempotency claim) (.ok (true, claim))
      (k (.ok (true, claim))) (s.store.claimIdempotency claim).2)).Sound := by
  obtain ⟨-, -, hindex, hclaim⟩ := RunRepository.claimIdempotency_of_free hid
  have hcreate := h.create (i := i) hid hfresh rfl hrun
  refine sound_answered hκ (afterClaim_free hφ) hcreate.addNone rfl rfl (fun id => ?_) (fun κ => ?_)
    (fun output hr => nomatch hr)
  · show _ = Function.update s.store.getClaim claim.claimId (some claim) id
    rw [hclaim, Function.update_apply]
    simp only [eq_comm]
  · show _ = Function.update s.store.idempotencyIndex.get? claim.key (some claim.claimId) κ
    rw [hindex, Function.update_apply]
    simp only [eq_comm]

/-! ### Retrying, recording, giving up -/

theorem claim_of_claimId? (h : (view g s).Sound)
    (ht : s.threads[i]? = some ⟨tag, .call o k, busy, true⟩) (hκ : executionKey g tag = some κ)
    (hφ : (claimPhase i s).claimId? = some claimId) :
    s.store.idempotencyIndex.get? κ = some claimId ∧
      ∃ c, s.store.getClaim claimId = some c ∧ c.key = κ ∧ c.claimId = claimId := by
  have hindex := h.held i κ _ claimId (view_exec_of_thread ht rfl hκ) hφ
  obtain ⟨c, hc, hkey⟩ := h.indexed κ claimId hindex
  exact ⟨hindex, c, hc, hkey, (h.keyed claimId c hc).1⟩

theorem sound_retry {k : Except PyException (Option (IdempotencyClaimRecord P)) →
      GatewayProg P (GatewayExecutionResult P)} (h : (view g s).Sound)
    (ht : s.threads[i]? = some ⟨tag, .call (.retryIdempotencyClaim claimId) k, busy, true⟩)
    (hκ : executionKey g tag = some κ) (hφ : claimPhase i s = .retrying claimId) :
    (view g (answered s i tag (.retryIdempotencyClaim claimId)
      (.ok (s.store.retryIdempotencyClaim claimId).1) (k (.ok (s.store.retryIdempotencyClaim claimId).1))
      (s.store.retryIdempotencyClaim claimId).2)).Sound := by
  obtain ⟨hindex, c, hc, hkey, hcid⟩ := claim_of_claimId? h ht hκ (by rw [hφ]; rfl)
  by_cases hfailed : c.status = .failed
  · rw [RunRepository.retryIdempotencyClaim_of_failed hc hfailed]
    obtain ⟨hfree, hnone⟩ := h.free_of_failed hindex hc hfailed
    have hgrant : ((((view g s).setClaim claimId
        { c with status := .running, errorMessage := none }).setExec i κ
        (.granted claimId)).addReturned κ fun _ => False).Sound :=
      h.grant hindex hkey hcid rfl hfree hnone
    refine sound_answered_setClaim hκ (φ := .granted claimId) ?_ hgrant
      RunRepository.getClaim_setClaim (fun _ => rfl) (fun output hr => nomatch hr)
    show (claimPhase i s).afterRetry _ = _
    rw [hφ, ← hcid]
    rfl
  · rw [RunRepository.retryIdempotencyClaim_of_not_failed hc hfailed]
    have hidle : ((view g s).setExec i κ .refreshing).Sound := h.idle rfl fun _ heq => nomatch heq
    refine sound_answered hκ ?_ hidle.addNone rfl rfl (fun _ => rfl) (fun _ => rfl)
      (fun output hr => nomatch hr)
    show (claimPhase i s).afterRetry _ = _
    rw [hφ]
    rfl

theorem sound_complete {k : Except PyException (Option (IdempotencyClaimRecord P)) →
      GatewayProg P (GatewayExecutionResult P)} {resultHash : String} {output : P}
    (h : (view g s).Sound) (ht : s.threads[i]? =
      some ⟨tag, .call (.completeIdempotencyClaim claimId output resultHash) k, busy, true⟩)
    (hκ : executionKey g tag = some κ) (hφ : claimPhase i s = .succeeded claimId output) :
    (view g (answered s i tag (.completeIdempotencyClaim claimId output resultHash)
      (.ok (s.store.completeIdempotencyClaim claimId output resultHash).1)
      (k (.ok (s.store.completeIdempotencyClaim claimId output resultHash).1))
      (s.store.completeIdempotencyClaim claimId output resultHash).2)).Sound := by
  obtain ⟨hindex, c, hc, -, -⟩ := claim_of_claimId? h ht hκ (by rw [hφ]; rfl)
  have hi := view_exec_of_thread ht rfl hκ
  rw [hφ] at hi
  have hcomplete := h.complete resultHash hi hindex hc
  rw [RunRepository.completeIdempotencyClaim_of_getClaim hc]
  refine sound_answered_setClaim hκ ?_ hcomplete RunRepository.getClaim_setClaim (fun _ => rfl)
    (fun output hr => nomatch hr)
  show (claimPhase i s).afterComplete _ = _
  rw [hφ]
  rfl

theorem sound_fail {k : Except PyException (Option (IdempotencyClaimRecord P)) →
      GatewayProg P (GatewayExecutionResult P)} {errorMessage : String} (h : (view g s).Sound)
    (ht : s.threads[i]? = some ⟨tag, .call (.failIdempotencyClaim claimId errorMessage) k, busy, true⟩)
    (hκ : executionKey g tag = some κ)
    (hφ : claimPhase i s = .granted claimId ∨ claimPhase i s = .failing claimId) :
    (view g (answered s i tag (.failIdempotencyClaim claimId errorMessage)
      (.ok (s.store.failIdempotencyClaim claimId errorMessage).1)
      (k (.ok (s.store.failIdempotencyClaim claimId errorMessage).1))
      (s.store.failIdempotencyClaim claimId errorMessage).2)).Sound := by
  have hid : (claimPhase i s).claimId? = some claimId := by rcases hφ with hφ | hφ <;> rw [hφ] <;> rfl
  obtain ⟨hindex, c, hc, -, -⟩ := claim_of_claimId? h ht hκ hid
  have hrelease := h.release (some errorMessage) hφ (view_exec_of_thread ht rfl hκ) hindex hc
  rw [RunRepository.failIdempotencyClaim_of_getClaim hc]
  refine sound_answered_setClaim hκ ?_ hrelease RunRepository.getClaim_setClaim (fun _ => rfl)
    (fun output hr => nomatch hr)
  show (claimPhase i s).afterFail _ = _
  rcases hφ with hφ | hφ <;> rw [hφ] <;> rfl

/-! ### The handler -/

theorem sound_handler {k : Except PyException P → GatewayProg P (GatewayExecutionResult P)}
    {capabilityId : String} {payload : P} (h : (view g s).Sound)
    (ht : s.threads[i]? = some ⟨tag, .call (.callHandler capabilityId payload) k, busy, true⟩)
    (hκ : executionKey g tag = some κ) (hφ : claimPhase i s = .granted claimId)
    (r : Except PyException P) :
    (view g (answered s i tag (.callHandler capabilityId payload) r (k r) s.store)).Sound := by
  obtain ⟨hindex, c, hc, -, -⟩ := claim_of_claimId? h ht hκ (by rw [hφ]; rfl)
  have hi := view_exec_of_thread ht rfl hκ
  rw [hφ] at hi
  have hsame : ∀ id, s.store.getClaim id = if claimId = id then some c else s.store.getClaim id := by
    intro id
    split_ifs with heq
    · exact heq ▸ hc
    · rfl
  have hafter : (claimPhase i s).after (.callHandler capabilityId payload) r =
      afterHandler (.granted claimId) r := by
    rw [hφ]
    rfl
  cases r with
  | error =>
    exact sound_answered_setClaim hκ hafter (h.handlerRaised hi hindex hc) hsame (fun _ => rfl)
      (fun output hr => nomatch hr)
  | ok =>
    exact sound_answered_setClaim hκ hafter (h.handlerReturned hi hindex hc) hsame (fun _ => rfl)
      (fun output' hr => (congrArg Prod.snd (Option.some.inj hr)).symm)

end Step

/-! ## Every step -/

variable {l : GatewayLabel P}

/-- The answer of an operation that the repository does not raise on. -/
theorem sound_operation {busy : Bool}
    {k : Except PyException o.Ans → GatewayProg P (GatewayExecutionResult P)}
    {answer : (o : GatewayOp P) → Except PyException o.Ans} (h : (view g s).Sound)
    (hfresh : FreshClaimIds s (.step i answer)) (hsole : SoleResume g s (.step i answer))
    (ht : s.threads[i]? = some ⟨tag, .call o k, busy, true⟩)
    (hallowed : claimAllowed g tag (claimPhase i s) o) :
    (view g (answered s i tag o ((workload g).respond o (answer o) s.store).1
      (k ((workload g).respond o (answer o) s.store).1)
      ((workload g).respond o (answer o) s.store).2)).Sound := by
  by_cases htouch : o.touchesClaim = true
  swap
  · rw [Bool.not_eq_true] at htouch
    exact sound_frame h ht (after_of_not_touchesClaim htouch _)
      (sameClaims_respond htouch _ _) (returnedCall_of_not_touchesClaim htouch)
  have same : SameClaims s.store s.store := ⟨fun _ => rfl, fun _ => rfl⟩
  cases o with
  | claimIdempotency claim =>
    obtain ⟨hκ, hrun, hφ⟩ := hallowed
    cases hans : answer (.claimIdempotency claim) with
    | error e => exact sound_frame h ht (afterClaim_error _ e) same rfl
    | ok =>
      show (view g (answered s i tag (.claimIdempotency claim)
        (.ok (s.store.claimIdempotency claim).1)
        (k (.ok (s.store.claimIdempotency claim).1)) (s.store.claimIdempotency claim).2)).Sound
      cases hid : s.store.idempotencyIndex.get? claim.key with
      | none =>
        rw [(RunRepository.claimIdempotency_of_free hid).1]
        exact sound_claim_free h hκ hrun hφ hid (hfresh.free (s.pendingAt_of_call ht) hid)
      | some =>
        obtain ⟨record, hrecord⟩ := RunRepository.claim_of_index hid
        have hclaim := RunRepository.claimIdempotency_of_index hid hrecord
        rw [hclaim]
        refine sound_claim_taken h hκ hφ hid hrecord fun hgranted => ?_
        refine hsole.alone (s.pendingAt_of_call ht) ?_ hgranted
        rw [hans]
        show Except.ok (s.store.claimIdempotency claim).1 = _
        rw [hclaim]
  | retryIdempotencyClaim claimId =>
    obtain ⟨hsome, hφ⟩ := hallowed
    obtain ⟨κ, hκ⟩ := Option.isSome_iff_exists.mp hsome
    cases answer (.retryIdempotencyClaim claimId) with
    | error => exact sound_frame h ht (by show (claimPhase i s).afterRetry _ = _; rw [hφ]; rfl) same rfl
    | ok => exact sound_retry h ht hκ hφ
  | completeIdempotencyClaim claimId output resultHash =>
    obtain ⟨hsome, hφ⟩ := hallowed
    obtain ⟨κ, hκ⟩ := Option.isSome_iff_exists.mp hsome
    cases answer (.completeIdempotencyClaim claimId output resultHash) with
    | error =>
      exact sound_frame h ht (by show (claimPhase i s).afterComplete _ = _; rw [hφ]; rfl) same rfl
    | ok => exact sound_complete h ht hκ hφ
  | failIdempotencyClaim claimId errorMessage =>
    obtain ⟨hsome, hφ⟩ := hallowed
    obtain ⟨κ, hκ⟩ := Option.isSome_iff_exists.mp hsome
    cases answer (.failIdempotencyClaim claimId errorMessage) with
    | error =>
      refine sound_frame h ht ?_ same rfl
      show (claimPhase i s).afterFail _ = _
      rcases hφ with hφ | hφ <;> rw [hφ] <;> rfl
    | ok => exact sound_fail h ht hκ hφ
  | callHandler capabilityId payload =>
    obtain ⟨hsome, claimId, hφ⟩ := hallowed
    obtain ⟨κ, hκ⟩ := Option.isSome_iff_exists.mp hsome
    cases answer (.callHandler capabilityId payload) with
    | error e => exact sound_handler h ht hκ hφ (.error e)
    | ok output => exact sound_handler h ht hκ hφ (.ok output)
  | _ => nomatch htouch

abbrev Conforming (g : CapabilityGateway P) (s : GatewayPool P) : Prop :=
  (workload g).Conforms (claimContract g) .start claimOutcome s

theorem sound_next (hconf : Conforming g s) (h : (view g s).Sound) (hfresh : FreshClaimIds s l)
    (hsole : SoleResume g s l) (hn : (workload g).next s l = some s') : (view g s').Sound := by
  cases (workload g).moves_of_next hn with
  | start tag =>
    by_cases hκ : ∃ κ, executionKey g tag = some κ
    · obtain ⟨κ, hκ⟩ := hκ
      have hidle : ((view g s).setExec s.threads.length κ .start).Sound :=
        h.idle rfl fun _ heq => nomatch heq
      refine sound_of_view hidle (fun _ => rfl) (fun _ => rfl) (fun j κ' t ht ha hκ' => ?_)
        (fun κ' output e he hr => ⟨e, he, hr⟩)
      show Function.update (view g s).exec _ _ j = _
      rcases Workload.getElem?_start ht with ht | ⟨rfl, rfl⟩
      · rw [Function.update_of_ne (Nat.ne_of_lt (Workload.lt_of_getElem? ht))]
        exact view_exec_of_thread ht ha hκ'
      · rw [Function.update_self, show κ = κ' from Option.some.inj (hκ.symm.trans hκ')]
        show some (κ', start) = some (κ', phase after .start _ s.log)
        rw [phase_of_fresh hconf.threads]
    · refine sound_of_view h (fun _ => rfl) (fun _ => rfl) (fun j κ' t ht ha hκ' => ?_)
        (fun κ' output e he hr => ⟨e, he, hr⟩)
      rcases Workload.getElem?_start ht with ht | ⟨rfl, rfl⟩
      · exact view_exec_of_thread ht ha hκ'
      · exact absurd ⟨κ', hκ'⟩ hκ
  | @begin i tag o k ht hlast =>
    refine sound_of_view h (fun _ => rfl) (fun _ => rfl) (fun j κ t htj ha hκ => ?_)
      (fun κ output e he hr => ?_)
    · rw [claimPhase, phase_began]
      rcases Workload.getElem?_set htj with ⟨rfl, rfl⟩ | ⟨-, htj⟩
      · exact view_exec_of_thread ht rfl hκ
      · exact view_exec_of_thread htj ha hκ
    · rcases mem_concat he with he | he
      · exact ⟨e, he, hr⟩
      · rw [he] at hr
        obtain ⟨req, hcall, -⟩ := hr
        nomatch hcall
  | @step i tag o k busy answer r store ht hlast hr =>
    have hallowed : claimAllowed g tag (claimPhase i s) o := hconf.allowed ht rfl
    have hop := sound_operation h hfresh hsole ht hallowed
    rw [hr] at hop
    exact hop
  | @crash i tag code busy ht =>
    refine sound_of_view h (fun _ => rfl) (fun _ => rfl) (fun j κ t htj ha hκ => ?_)
      (fun κ output e he hr => ⟨e, he, hr⟩)
    rcases Workload.getElem?_set htj with ⟨rfl, rfl⟩ | ⟨-, htj⟩
    · nomatch ha
    · exact view_exec_of_thread htj ha hκ
  | act d =>
    have hsame := sameClaims_decide (g := g) s.store d
    exact sound_of_view h hsame.1 hsame.2 (fun j κ t ht ha hκ => view_exec_of_thread ht ha hκ)
      (fun κ output e he hr => ⟨e, he, hr⟩)

/-! ## Whole runs -/

/-- What an execution has found out when it asked for a claim whose handler had returned. -/
def FoundSettled (φ : ClaimPhase P) (output : P) : Prop :=
  φ = .turnedAway ∨ ∃ record, φ = .cached record ∧ record.resultPayload = some output

theorem FoundSettled.after {φ : ClaimPhase P} {output : P} (h : FoundSettled φ output)
    (o : GatewayOp P) (r : Except PyException o.Ans) : FoundSettled (φ.after o r) output := by
  rcases h with rfl | ⟨record, rfl, hrecord⟩
  · rw [show turnedAway.after o r = .turnedAway by cases o <;> rfl]
    exact Or.inl rfl
  · rw [show (cached record).after o r = .cached record by cases o <;> rfl]
    exact Or.inr ⟨record, rfl, hrecord⟩

/-- The protocol is sound, nothing was called again, and who asked found the result or was turned
away. -/
structure ClaimsKept (g : CapabilityGateway P) (s : GatewayPool P) : Prop where
  conforms : Conforming g s
  sound : (view g s).Sound
  noRepeat : ∀ κ, ¬Before (HandlerReturned g κ) (HandlerBegan g κ) s.log
  later : ∀ κ i output, Before (Returned g κ output) (Claimed κ i) s.log →
    FoundSettled (claimPhase i s) output

theorem claimsKept_idle : ClaimsKept g (idle : GatewayPool P) where
  conforms := Workload.conforms_empty
  sound := {
    keyed := fun _ _ h => nomatch h
    indexed := fun _ _ h => nomatch h
    held := fun _ _ _ _ h => nomatch h
    running := fun _ _ _ _ _ h => nomatch h
    unique := fun _ _ _ _ _ h => nomatch h
    returned := fun _ _ ⟨_, he, _⟩ => nomatch he }
  noRepeat _ := not_before_nil
  later _ _ _ h := absurd h not_before_nil

/-- An execution that asks for a claim whose handler has returned finds the result or is
    turned away. -/
theorem foundSettled_of_claim {claim : IdempotencyClaimRecord P}
    {answer : (o : GatewayOp P) → Except PyException o.Ans} {output : P}
    {a : Bool × IdempotencyClaimRecord P} (h : (view g s).Sound)
    (hsole : SoleResume g s (.step i answer))
    (hpending : s.pendingAt i = some (tag, .claimIdempotency claim))
    (hallowed : claimAllowed g tag (claimPhase i s) (.claimIdempotency claim))
    (hr : ((workload g).respond (.claimIdempotency claim) (answer (.claimIdempotency claim))
      s.store).1 = .ok a)
    (hreturned : ∃ e ∈ s.log, Returned g claim.key output e) :
    FoundSettled ((claimPhase i s).afterClaim claim (.ok a)) output := by
  obtain ⟨claimId, record, hid, hrecord, hset⟩ := h.returned claim.key output hreturned
  have ha : a = (false, record) := by
    have hclaim := RunRepository.claimIdempotency_of_index hid hrecord
    cases hans : answer (.claimIdempotency claim) with
    | error => rw [hans] at hr; nomatch hr
    | ok =>
      rw [hans] at hr
      change Except.ok (s.store.claimIdempotency claim).1 = _ at hr
      rw [hclaim] at hr
      exact (Except.ok.inj hr).symm
  subst ha
  rcases afterClaim_taken claim record hallowed.2.2 with
    ⟨hafter, hdone⟩ | ⟨hafter, hfailed⟩ | hafter | hafter
  · rcases hset with ⟨-, hpayload⟩ | ⟨hrun, -⟩
    · exact Or.inr ⟨record, hafter, hpayload⟩
    · rw [hdone] at hrun; nomatch hrun
  · rcases hset with ⟨hdone, -⟩ | ⟨hrun, -⟩
    · rw [hfailed] at hdone; nomatch hdone
    · rw [hfailed] at hrun; nomatch hrun
  · exact Or.inl hafter
  · obtain ⟨e, he, hreturned⟩ := hreturned
    exact absurd ((handlerReturned_iff g _).mpr ⟨output, hreturned⟩)
      ((hsole.alone hpending hr hafter).2.2 e he)

theorem ClaimsKept.next (h : ClaimsKept g s) (hfresh : FreshClaimIds s l) (hl : Undisturbed g s l)
    (hn : (workload g).next s l = some s') : ClaimsKept g s' := by
  have hconf := h.conforms.next (executeInternal_meets g) hl.1 hn
  have hsound := sound_next h.conforms h.sound hfresh hl.2 hn
  cases (workload g).moves_of_next hn with
  | start | crash | act => exact ⟨hconf, hsound, h.noRepeat, h.later⟩
  | @begin i tag o k ht hlast =>
    refine ⟨hconf, hsound, fun κ hbefore => ?_, fun κ j output hbefore => ?_⟩
    · rcases before_snoc.mp hbefore with hbefore | ⟨hbegan, e, he, hreturned⟩
      · exact h.noRepeat κ hbefore
      · -- the execution that begins the call holds the claim
        have hallowed : claimAllowed g tag (claimPhase i s) o := h.conforms.allowed ht rfl
        obtain ⟨req, hcall, hκ⟩ := hbegan
        cases o with
        | callHandler =>
          obtain rfl : tag = req := Option.some.inj (Option.mem_toList.mp hcall)
          obtain ⟨-, claimId, hφ⟩ := hallowed
          have hi := view_exec_of_thread ht rfl hκ
          obtain ⟨output, hreturned⟩ := (handlerReturned_iff g κ).mp hreturned
          refine h.sound.not_returned hi ?_ ?_ ⟨e, he, hreturned⟩
          · rw [hφ]; rfl
          · rw [hφ]; exact fun _ _ heq => nomatch heq
        | _ => nomatch hcall
    · rw [claimPhase, phase_began]
      rcases before_snoc.mp hbefore with hbefore | ⟨⟨claim, hclaimed, -⟩, -⟩
      · exact h.later κ j output hbefore
      · nomatch hclaimed
  | @step i tag o k busy answer r store ht hlast hr =>
    refine ⟨hconf, hsound, fun κ hbefore => ?_, fun κ j output hbefore => ?_⟩
    · rcases before_snoc.mp hbefore with hbefore | ⟨⟨req, hcall, -⟩, -⟩
      · exact h.noRepeat κ hbefore
      · nomatch hcall
    · rcases before_snoc.mp hbefore with hbefore | ⟨⟨claim, hclaimed, hkey⟩, hreturned⟩
      · have hfound := h.later κ j output hbefore
        by_cases hij : i = j
        · subst hij
          rw [claimPhase, phase_did_self]
          exact hfound.after o r
        · rw [claimPhase, phase_did_of_ne hij]
          exact hfound
      · cases o with
        | claimIdempotency =>
          cases r with
          | error => nomatch hclaimed
          | ok =>
            cases hclaimed
            subst hkey
            rw [claimPhase, phase_did_self]
            have hallowed : claimAllowed g tag (claimPhase i s) (.claimIdempotency claim) :=
              h.conforms.allowed ht rfl
            exact foundSettled_of_claim h.sound hl.2 (s.pendingAt_of_call ht) hallowed
              (congrArg Prod.fst hr) hreturned
        | _ => nomatch hclaimed

theorem ClaimsKept.oneEffect (h : ClaimsKept g s) (κ : ClaimKey) : OneEffect g κ s where
  inFlight i j t u ht hu hbt hbu hκt hκu := by
    have hgranted : ∀ i (t : GatewayThread P), s.threads[i]? = some t → t.busy = true →
        isActive t = true ∧ (claimPhase i s).owns = true := by
      intro i t ht hb
      obtain ⟨halive, o, hpending, hlast⟩ := h.conforms.busy i t ht hb
      refine ⟨?_, ?_⟩
      · rw [isActive, halive, hpending]; rfl
      · have hallowed : claimAllowed g t.tag (claimPhase i s) o := h.conforms.allowed ht hpending
        cases o with
        | callHandler =>
          obtain ⟨-, claimId, hφ⟩ := hallowed
          rw [hφ]; rfl
        | _ => nomatch hlast
    obtain ⟨hat, hot⟩ := hgranted i t ht hbt
    obtain ⟨hau, hou⟩ := hgranted j u hu hbu
    exact h.sound.unique i j κ _ _ (view_exec_of_thread ht hat hκt)
      (view_exec_of_thread hu hau hκu) hot hou
  noRepeat := h.noRepeat κ
  later i output hbefore t result ht hcode := by
    have hmeets := h.conforms.meets i t ht
    rw [hcode] at hmeets
    have houtcome : claimOutcome t.tag (claimPhase i s) (.ok result) := hmeets
    rcases h.later κ i output hbefore with hφ | ⟨record, hφ, hpayload⟩
    · rw [hφ] at houtcome
      exact Or.inl houtcome
    · rw [hφ] at houtcome
      obtain rfl := houtcome
      exact Or.inr ⟨rfl, hpayload, rfl⟩

/-- Runs of undisturbed steps have one effect for each key. -/
theorem oneEffect_of_run (g : CapabilityGateway P) {s : GatewayPool P} {ls : List (GatewayLabel P)}
    (hfresh : (workload g).system.Along FreshClaimIds idle ls)
    (hl : (workload g).system.Along (Undisturbed g) idle ls)
    (hrun : (workload g).system.run idle ls = some s) (κ : ClaimKey) : OneEffect g κ s := by
  have hboth := (workload g).system.along_and hfresh hl
  exact ((workload g).system.inv_of_along
    (fun _ _ _ hI hG hn => ClaimsKept.next hI hG.1 hG.2 hn) claimsKept_idle hboth hrun).oneEffect κ

end

/-! ## Two runs -/

instance freshDecidable (s : GatewayPool P) (l : GatewayLabel P) :
    Decidable (FreshClaimIds s l) := by
  unfold FreshClaimIds
  split
  · refine @Option.decidableForallMem _ _ (fun x => ?_) (s.pendingAt _)
    split <;> infer_instance
  · infer_instance

instance soleDecidable (g : CapabilityGateway P) (s : GatewayPool P) (l : GatewayLabel P) :
    Decidable (SoleResume g s l) := by
  unfold SoleResume
  split
  · refine @Option.decidableForallMem _ _ (fun x => ?_) (s.pendingAt _)
    split
    · split <;> infer_instance
    · infer_instance
  · infer_instance

instance (g : CapabilityGateway P) (s : GatewayPool P) (l : GatewayLabel P) :
    Decidable (Undisturbed g s l) := instDecidableAnd

/-- Answers under which nothing goes wrong; `hex` is the next identifier. -/
def calmAnswers (hex : String) : (o : GatewayOp String) → Except PyException o.Ans
  | .checkReadiness _ => .ok {}
  | .assertEnabledForInvocation _ _ _ _ => .ok (true, none)
  | .uuid4 => .ok hex
  | .claimIdempotency claim => .ok (true, claim)
  | .completeIdempotencyClaim _ _ _ => .ok none
  | .failIdempotencyClaim _ _ => .ok none
  | .retryIdempotencyClaim _ => .ok none
  | .saveToolCall _ => .ok ()
  | .appendEvent _ => .ok ()
  | .evaluatePolicy _ _ => .ok .none
  | .loadGovernanceState _ _ => .ok none
  | .saveGovernanceState _ _ => .ok ()
  | .getApprovalByToolCall _ => .ok none
  | .createApproval approval => .ok approval
  | .resolveConnectorGrant _ => .ok none
  | .verifyConnectorGrant _ _ _ _ => .ok { isAllowed := true, reason := "" }
  | .authorize _ => .ok { allowed := true }
  | .callHandler _ payload => .ok (payload ++ ", sent")

/-- The same, when the event log is out of reach. -/
def eventLost : (o : GatewayOp String) → Except PyException o.Ans
  | .appendEvent _ => .error (.other "connection lost")
  | o => calmAnswers "" o

def mailGateway : CapabilityGateway String where
  registry := fun _ => some {}
  computePayloadHash := .ok

def mailCall (toolCallId : String) : GatewayCall String where
  runId := "run_1"
  capabilityId := "mail.send"
  inputPayload := "hello"
  checkpointRef := "ckpt_1"
  toolCallId
  idempotencyKey := some "mail_1"

def mailKey : ClaimKey := ⟨"RUN", "run_1", "mail.send", "mail_1"⟩

/-- Execution `i` performs `n` operations. -/
def steps (i n : ℕ) (hex : String) : List (GatewayLabel String) :=
  List.replicate n (.step i (calmAnswers hex))

/-- The first execution cannot append `tool.completed`, the second finds the claim failed and begins
again. -/
def eventRun : List (GatewayLabel String) :=
  [PoolLabel.start (mailCall "call_1")] ++ steps 0 10 "a" ++ [PoolLabel.begin 0] ++ steps 0 3 "a" ++
    [PoolLabel.step 0 eventLost] ++ steps 0 3 "a" ++
    [PoolLabel.start (mailCall "call_2")] ++ steps 1 11 "b" ++
    [PoolLabel.begin 1]

/-- Not every run has one effect for each key. -/
theorem not_oneEffect_eventRun : ¬∀ s, (workload mailGateway).system.run idle eventRun = some s →
    OneEffect mailGateway mailKey s := by
  intro h
  have hrun := h (Option.get _ (by decide +kernel)) (Option.some_get _).symm
  exact absurd hrun.noRepeat (by decide +kernel)

/-- One execution calls the handler, a second is turned away, a third returns the recorded result. -/
def sharedRun : List (GatewayLabel String) :=
  [PoolLabel.start (mailCall "call_1"), .start (mailCall "call_2")] ++ steps 0 4 "a" ++
    steps 1 4 "b" ++ steps 0 6 "a" ++ [PoolLabel.begin 0] ++
    steps 0 4 "a" ++ [PoolLabel.start (mailCall "call_3")] ++ steps 2 4 "c"

theorem oneEffect_sharedRun : OneEffect mailGateway mailKey
    (((workload mailGateway).system.run idle sharedRun).get (by decide +kernel)) :=
  oneEffect_of_run mailGateway (by decide +kernel) (by decide +kernel) (Option.some_get _).symm
    mailKey

end JavisSaas.Agent.Capabilities
