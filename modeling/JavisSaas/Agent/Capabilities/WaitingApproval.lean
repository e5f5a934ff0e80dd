import JavisSaas.Agent.Capabilities.ApprovalGate

/-!
# What a request that waits is waiting for

A `waiting_approval` should wait for a pending record that a decision can release, and a denial
should not leave a claim running. The gate waits for a denied record as well, a record of an earlier
checkpoint or of another run may stand in the way, and the claim of a denied request is not given
up.

* `waitingLaw_of_run`: executions that find no such record obey the law.
* `not_waitingLaw_denied`: a denied request waits again.
-/

namespace JavisSaas.Agent.Capabilities

open JavisSaas.Lib JavisSaas.Agent.Governance JavisSaas.Agent.Runs
open ApprovalGateDecider (checkpointMismatch isCleared)

variable {P : Type}

/-! ## The law -/

/-- A decision in favour of the record lets the request through. -/
structure Releasable (b : Backend P) (req : GatewayCall P) (a : RunApprovalRecord) : Prop where
  stored : b.approvals.get? a.approvalId = some a
  pending : a.status = .pending
  toolCall : a.toolCallId = some req.toolCallId
  checkpoint : a.checkpointRef = some req.checkpointRef
  released : ∀ d : ApprovalDecision, d.approvalId = a.approvalId → d.approved = true →
    ∀ found ∈ lookups (d.apply b).isDurable (d.apply b).approvals req.toolCallId,
      isCleared found req.checkpointRef = true

/-- The request was answered that it waits for the approval. -/
def WaitsFor (s : GatePool P) (approvalId : String) (req : GatewayCall P) : Prop :=
  ∃ t ∈ s.threads, t.tag = req ∧ ∃ result ∈ t.code.result?, result.status = .waitingApproval ∧
    (result.waitDescriptor.bind (·.relatedRef)) = some approvalId

/-- No request that waits for the approval has its claim running. -/
def NoClaimRunning (g : CapabilityGateway P) (s : GatePool P) (approvalId : String)
    (b : Backend P) : Prop :=
  ∀ req, WaitsFor s approvalId req → ∀ key ∈ executionKey g req, ∀ c ∈ b.claimOf key,
    c.status ≠ .running

/-- The decision denies an approval that is pending. -/
def Denies (d : ApprovalDecision) (b : Backend P) : Prop :=
  d.approved = false ∧ ∃ a ∈ b.approvals.get? d.approvalId, a.status = .pending

/-- Who waits can be released, and who was denied holds no claim. -/
def WaitingLaw (g : CapabilityGateway P) (s : GatePool P) : GateLabel P → Prop
  | .step i answer => ∀ s' ∈ (gateSystem g).next s (.step i answer), ∀ t ∈ s'.threads[i]?,
    ∀ result ∈ t.code.result?, result.status = .waitingApproval →
      ∃ a, Releasable s'.store.repo t.tag a
  | .act d => Denies d s.store.repo → NoClaimRunning g s d.approvalId (d.apply s.store.repo)
  | _ => True

/-! ## The condition -/

/-- The record that is found clears the request, is pending for its checkpoint or will be replaced;
without one the request's own identifier is free in Postgres. -/
def Usable (v : ApprovalView P) (req : GatewayCall P) (found : Option RunApprovalRecord) : Prop :=
  match found with
  | none => v.durable = true → v.approvals.get? (approvalIdOf req) = none
  | some a => isCleared found req.checkpointRef = true ∨
    (a.status = .pending ∧ a.checkpointRef = some req.checkpointRef) ∨
    (checkpointMismatch found req.checkpointRef = true ∧ v.durable = false ∧
      a.approvalId = approvalIdOf req)

instance (v : ApprovalView P) (req : GatewayCall P) :
    (found : Option RunApprovalRecord) → Decidable (Usable v req found)
  | none => inferInstanceAs (Decidable (_ → _))
  | some _ => inferInstanceAs (Decidable (_ ∨ _))

/-- A lookup finds a usable record, and nothing is denied that a running claim waits for. -/
def WaitsUsably (g : CapabilityGateway P) (s : GatePool P) (l : GateLabel P) : Prop :=
  Workload.PerformedIn (LooksUp Usable) s l ∧ ∀ d, l = .act d → Denies d s.store.repo →
    NoClaimRunning g s d.approvalId s.store.repo

/-! ## The record that is waited for -/

/-- The lookup finds this record, which is pending for the request. -/
structure Awaited (v : ApprovalView P) (req : GatewayCall P) (a : RunApprovalRecord) : Prop where
  stored : v.approvals.get? a.approvalId = some a
  pending : a.status = .pending
  toolCall : a.toolCallId = some req.toolCallId
  checkpoint : a.checkpointRef = some req.checkpointRef
  found : ∀ found ∈ v.lookups req.toolCallId, found = some a

section Lookups

variable {approvals : Dict String RunApprovalRecord} {toolCallId : String}
  {row : RunApprovalRecord}

theorem mem_lookups_durable {found : Option RunApprovalRecord} :
    found ∈ lookups true approvals toolCallId ↔
      (found = none ∧ ∀ a ∈ approvals.values, a.toolCallId ≠ some toolCallId) ∨
      ∃ a ∈ approvals.values, a.toolCallId = some toolCallId ∧ found = some a := by
  have hrows : ∀ a, a ∈ PostgresRepository.toolCallRows approvals toolCallId ↔
      a ∈ approvals.values ∧ a.toolCallId = some toolCallId := by
    intro a
    simp [PostgresRepository.toolCallRows]
  unfold lookups
  rw [if_pos rfl]
  cases h : PostgresRepository.toolCallRows approvals toolCallId with
  | nil =>
    rw [h] at hrows
    simp only [List.mem_singleton]
    constructor
    · rintro rfl
      exact .inl ⟨rfl, fun a ha hcall => List.not_mem_nil ((hrows a).mpr ⟨ha, hcall⟩)⟩
    · rintro (⟨rfl, -⟩ | ⟨a, ha, hcall, -⟩)
      · rfl
      · exact absurd ((hrows a).mpr ⟨ha, hcall⟩) List.not_mem_nil
  | cons b =>
    rw [h] at hrows
    rw [List.mem_map]
    constructor
    · rintro ⟨a, ha, rfl⟩
      exact .inr ⟨a, ((hrows a).mp ha).1, ((hrows a).mp ha).2, rfl⟩
    · rintro (⟨-, hnone⟩ | ⟨a, ha, hcall, rfl⟩)
      · have hb := (hrows b).mp List.mem_cons_self
        exact absurd hb.2 (hnone b hb.1)
      · exact ⟨a, (hrows a).mpr ⟨ha, hcall⟩, rfl⟩

theorem mem_values_set {key : String} {a : RunApprovalRecord} :
    a ∈ (approvals.set key row).values ↔
      a = row ∨ ∃ key', key ≠ key' ∧ approvals.get? key' = some a := by
  rw [Dict.mem_values]
  constructor
  · rintro ⟨key', ha⟩
    rw [Dict.get?_set] at ha
    split_ifs at ha with hkey
    · exact .inl (Option.some.inj ha).symm
    · exact .inr ⟨key', hkey, ha⟩
  · rintro (rfl | ⟨key', hkey, ha⟩)
    · exact ⟨key, Dict.get?_set_self _ _ _⟩
    · exact ⟨key', by rw [Dict.get?_set_of_ne _ hkey, ha]⟩

/-- In Postgres, if all rows of the tool call are under one key, replacing it leaves one. -/
theorem lookups_set_durable {key : String} (hrow : row.toolCallId = some toolCallId)
    (honly : ∀ key' a, approvals.get? key' = some a → a.toolCallId = some toolCallId → key = key') :
    ∀ found ∈ lookups true (approvals.set key row) toolCallId, found = some row := by
  intro found hfound
  rcases mem_lookups_durable.mp hfound with ⟨-, hnone⟩ | ⟨a, ha, hcall, rfl⟩
  · exact absurd hrow (hnone row (mem_values_set.mpr (.inl rfl)))
  · rcases mem_values_set.mp ha with rfl | ⟨key', hne, ha⟩
    · rfl
    · exact absurd (honly key' a ha hcall) hne

theorem lookups_set_of_none {durable : Bool} {key : String}
    (hrow : row.toolCallId = some toolCallId) (hnone : none ∈ lookups durable approvals toolCallId) :
    ∀ found ∈ lookups durable (approvals.set key row) toolCallId, found = some row := by
  cases durable with
  | false =>
    have hfind : approvals.values.find? (fun a => a.toolCallId = some toolCallId) = none :=
      (List.mem_singleton.mp hnone).symm
    intro found hfound
    rw [List.mem_singleton.mp hfound]
    exact Dict.find?_set_of_none hfind (decide_eq_true hrow)
  | true =>
    refine lookups_set_durable hrow fun key' a ha hcall => ?_
    rcases mem_lookups_durable.mp hnone with ⟨-, hno⟩ | ⟨a', -, -, h⟩
    · exact absurd hcall (hno a (Dict.mem_values.mpr ⟨key', ha⟩))
    · nomatch h

theorem lookups_set_of_found {v : ApprovalView P} (h : v.Kept) {a : RunApprovalRecord}
    (hget : v.approvals.get? a.approvalId = some a) (hrow : row.toolCallId = some toolCallId)
    (hall : ∀ found ∈ v.lookups toolCallId, found = some a) :
    ∀ found ∈ lookups v.durable (v.approvals.set a.approvalId row) toolCallId, found = some row := by
  have hkey : ∀ key', v.approvals.get? key' = some a → key' = a.approvalId := by
    intro key' ha
    obtain ⟨-, -, -, hid⟩ := h.made key' a ha
    exact hid.symm
  unfold ApprovalView.lookups at hall
  cases hdurable : v.durable with
  | false =>
    rw [hdurable] at hall
    have hfind := hall _ (List.mem_singleton_self _)
    intro found hfound
    rw [List.mem_singleton.mp hfound]
    exact Dict.find?_set_of_found hfind hget hkey (decide_eq_true hrow)
  | true =>
    rw [hdurable] at hall
    refine lookups_set_durable hrow fun key' a' ha' hcall => ?_
    have hsame := hall (some a')
      (mem_lookups_durable.mpr (.inr ⟨a', Dict.mem_values.mpr ⟨key', ha'⟩, hcall, rfl⟩))
    cases hsame
    exact (hkey key' ha').symm

end Lookups

section Await

variable {v v' : ApprovalView P} {req : GatewayCall P}

variable {a : RunApprovalRecord}

theorem checkpointMismatch_of_eq {checkpointRef : String} (h : a.checkpointRef = some checkpointRef) :
    checkpointMismatch (some a) checkpointRef = false := by
  simp [checkpointMismatch, h]

theorem awaited_of_created : Creates Usable fun (v : ApprovalView P) req => ∃ a, Awaited v req a := by
  intro v v' req row found hkept hfound husable hnew hbound hpending hcreated
  refine ⟨row, ?_⟩
  have hmismatch : ∀ a, found = some a → checkpointMismatch found req.checkpointRef = true ∧
      v.durable = false ∧ a.approvalId = approvalIdOf req := by
    rintro a rfl
    have hdiffers : checkpointMismatch (some a) req.checkpointRef = true := by
      rcases hnew with h | h
      · nomatch h
      · exact h
    rcases husable with hclear | ⟨-, hcheckpoint⟩ | h
    · obtain ⟨-, -, -, hmatch⟩ := isCleared_iff.mp hclear
      exact absurd (hmatch.symm.trans hdiffers) Bool.false_ne_true
    · exact absurd ((checkpointMismatch_of_eq hcheckpoint).symm.trans hdiffers) Bool.false_ne_true
    · exact h
  cases hcreated with
  | taken hdurable hthere =>
    rw [hbound.approvalId] at hthere
    cases found with
    | none =>
      rw [husable hdurable] at hthere
      nomatch hthere
    | some a => exact absurd ((hmismatch a rfl).2.1.symm.trans hdurable) Bool.false_ne_true
  | stored _ hdurable happrovals =>
    refine ⟨?_, hpending, hbound.toolCallId, hbound.checkpointRef, ?_⟩
    · rw [happrovals]
      exact Dict.get?_set_self _ _ _
    · unfold ApprovalView.lookups
      rw [happrovals, hdurable]
      cases found with
      | none => exact lookups_set_of_none hbound.toolCallId hfound
      | some a =>
        obtain ⟨-, hmemory, hid⟩ := hmismatch a rfl
        rw [hbound.approvalId, ← hid]
        refine lookups_set_of_found hkept (ApprovalView.stored_of_mem_lookups hkept hfound).1
          hbound.toolCallId fun found' hfound' => ?_
        unfold ApprovalView.lookups at hfound hfound'
        rw [hmemory] at hfound hfound'
        exact (List.mem_singleton.mp hfound').trans (List.mem_singleton.mp hfound).symm

variable {s : GateStore P} {log : List (GateEntry P)}

theorem GateKept.found_of_mem (h : GateKept s log) {toolCallId : String}
    (ha : some a ∈ (approvalView s.repo log).lookups toolCallId) :
    ∀ found ∈ (approvalView s.repo log).lookups toolCallId, found = some a := by
  intro found hfound
  cases hdurable : s.repo.isDurable with
  | false =>
    have hone : ∀ x, x ∈ (approvalView s.repo log).lookups toolCallId →
        x = s.repo.approvals.values.find? fun a => a.toolCallId = some toolCallId := by
      intro x hx
      unfold ApprovalView.lookups at hx
      rw [show (approvalView s.repo log).durable = false from hdurable] at hx
      exact List.mem_singleton.mp hx
    exact (hone found hfound).trans (hone _ ha).symm
  | true =>
    have hview : (approvalView s.repo log).durable = true := hdurable
    obtain ⟨hget, hcall⟩ := ApprovalView.stored_of_mem_lookups h.approvals ha
    have hmem := hfound
    unfold ApprovalView.lookups at hmem
    rw [hview] at hmem
    rcases mem_lookups_durable.mp hmem with ⟨-, hnone⟩ | ⟨a', ha', hcall', rfl⟩
    · exact absurd hcall (hnone a (Dict.mem_values.mpr ⟨_, hget⟩))
    · obtain ⟨hget', -⟩ := ApprovalView.stored_of_mem_lookups h.approvals hfound
      obtain ⟨req, -, hbound, -⟩ := h.approvals.made _ a hget
      obtain ⟨req', -, hbound', -⟩ := h.approvals.made _ a' hget'
      have hknown := h.linked.known hdurable _ a hget _ hbound.runId _ hcall
      have hknown' := h.linked.known hdurable _ a' hget' _ hbound'.runId _ hcall'
      have hrun : (req'.runId, toolCallId) = (req.runId, toolCallId) :=
        List.inj_on_of_nodup_map h.linked.nodup hknown' hknown rfl
      have hid : a'.approvalId = a.approvalId := by
        have htool : req'.toolCallId = req.toolCallId :=
          Option.some.inj ((hbound'.toolCallId.symm.trans hcall').trans
            (hbound.toolCallId.symm.trans hcall).symm)
        rw [hbound'.approvalId, hbound.approvalId, approvalIdOf, approvalIdOf,
          (Prod.mk.inj hrun).1, htool]
      rw [hid, hget] at hget'
      rw [Option.some.inj hget']

/-- The record that an execution waits for without having created it. -/
theorem awaited_of_waits (h : GateKept s log)
    (hfound : some a ∈ (approvalView s.repo log).lookups req.toolCallId)
    (husable : Usable (approvalView s.repo log) req (some a)) (hstatus : a.status ≠ .approved)
    (hmatch : checkpointMismatch (some a) req.checkpointRef = false) :
    Awaited (approvalView s.repo log) req a := by
  obtain ⟨hget, hcall⟩ := ApprovalView.stored_of_mem_lookups h.approvals hfound
  rcases husable with hclear | ⟨hpending, hcheckpoint⟩ | ⟨hmismatch, -⟩
  · obtain ⟨a', ha', happroved, -⟩ := isCleared_iff.mp hclear
    cases ha'
    exact absurd happroved hstatus
  · exact ⟨hget, hpending, hcall, hcheckpoint, h.found_of_mem hfound⟩
  · exact absurd (hmatch.symm.trans hmismatch) Bool.false_ne_true

/-- A decision in its favour releases the request that waits for it. -/
theorem Awaited.releasable (hkept : (approvalView s.repo log).Kept)
    (h : Awaited (approvalView s.repo log) req a) : Releasable s.repo req a := by
  refine ⟨h.stored, h.pending, h.toolCall, h.checkpoint, fun d hid happroved found hfound => ?_⟩
  obtain ⟨hdecided, hdurable, -⟩ := Backend.approvalDecided_of_decideApproval s.repo
    d.approvalId d.reviewer d.approved d.reason d.evidence
  have hget : s.repo.approvals.get? d.approvalId = some a := hid ▸ h.stored
  cases hdecided with
  | kept hnot => exact absurd h.pending (hnot a hget)
  | decided a' ha' _ reviewer reason evidence happrovals =>
    obtain rfl : a = a' := Option.some.inj (hget.symm.trans ha')
    rw [show (d.apply s.repo).isDurable = s.repo.isDurable from hdurable,
      show (d.apply s.repo).approvals = _ from happrovals, hid] at hfound
    have hrow : (a.decided reviewer d.approved reason evidence).toolCallId =
        some req.toolCallId := h.toolCall
    rw [lookups_set_of_found hkept h.stored hrow h.found found hfound]
    refine isCleared_iff.mpr ⟨_, rfl, ?_, checkpointMismatch_of_eq h.checkpoint⟩
    rw [RunApprovalRecord.status_decided, happroved]
    rfl

end Await

/-! ## Every run -/

section Run

variable {g : CapabilityGateway P} {s : GatePool P} {l : GateLabel P}

theorem claimOf_decideApproval (d : ApprovalDecision) (b : Backend P) (key : ClaimKey) :
    (d.apply b).claimOf key = b.claimOf key := by
  cases b with
  | memory repo =>
    show Backend.claimOf (.memory (repo.decideApproval _ _ _ _ _).2) key = _
    unfold RunRepository.decideApproval
    cases repo.getApproval d.approvalId with
    | none => rfl
    | some => dsimp only; split_ifs <;> rfl
  | postgres db =>
    show Backend.claimOf (.postgres (db.decideApproval _ _ _ _ _).2) key = _
    unfold PostgresRepository.decideApproval
    cases db.approvals.get? d.approvalId with
    | none => rfl
    | some => dsimp only; split_ifs <;> rfl

theorem waitingLaw_of_inv (h : GateInv g Usable (fun v req => ∃ a, Awaited v req a) s)
    (hl : WaitsUsably g s l) : WaitingLaw g s l := by
  cases l with
  | step i =>
    intro s' hs' t ht result hresult hwaiting
    have hnext := h.next awaited_of_created hl.1 hs'
    have hfacts := Workload.SerialInv.facts_of_step h (gateRule g awaited_of_created) hl.1 hs' ht
    have hmeets := hnext.conforms.meets i t ht
    rw [Prog.eq_ret_of_result? hresult] at hmeets
    have hwaits := hmeets result rfl hwaiting
    generalize phase (gateContract t.tag).after GatePhase.start i s'.log = φ at hfacts hwaits
    cases φ with
    | found =>
      obtain ⟨a, rfl, hstatus, hmatch⟩ := hwaits
      obtain ⟨-, -, hfound, husable⟩ := hfacts
      exact ⟨a, (awaited_of_waits hnext.kept hfound husable hstatus hmatch).releasable
        hnext.kept.approvals⟩
    | created =>
      obtain ⟨-, a, hawaited⟩ := hfacts
      exact ⟨a, hawaited.releasable hnext.kept.approvals⟩
    | _ => exact absurd hwaits (by exact fun h => h)
  | act d =>
    intro hdenies req hwaits key hkey c hc
    rw [claimOf_decideApproval] at hc
    exact hl.2 d rfl hdenies req hwaits key hkey c hc
  | _ => trivial

end Run

/-- If lookups find usable records and no approval is denied under a running claim, who waits can be
released. -/
theorem waitingLaw_of_run (g : CapabilityGateway P) (durable : Bool)
    (runs : Dict String (RunRecord P)) (ls : List (GateLabel P))
    (h : (gateSystem g).Along (WaitsUsably g) (gateIdle durable runs) ls) :
    (gateSystem g).Along (WaitingLaw g) (gateIdle durable runs) ls :=
  (gateSystem g).along_of_inv (I := GateInv g Usable fun v req => ∃ a, Awaited v req a)
    (fun _ _ _ h hl hs => h.next awaited_of_created hl.1 hs)
    (fun _ _ h hl => waitingLaw_of_inv h hl) (gateInv_idle durable runs) h

/-- Usable records are found, and every decision is in favour. -/
def WaitsAndIsApproved (s : GatePool P) (l : GateLabel P) : Prop :=
  Workload.PerformedIn (LooksUp Usable) s l ∧
    match l with
    | .act d => d.approved = true
    | _ => True

instance (s : GatePool P) (l : GateLabel P) :
    Decidable (WaitsAndIsApproved s l) := by
  unfold WaitsAndIsApproved
  split <;> infer_instance

theorem WaitsAndIsApproved.waitsUsably {g : CapabilityGateway P} {s : GatePool P}
    {l : GateLabel P} (h : WaitsAndIsApproved s l) : WaitsUsably g s l := by
  refine ⟨h.1, ?_⟩
  rintro d rfl ⟨hdenied, -⟩
  exact absurd (hdenied.symm.trans h.2) Bool.false_ne_true

/-- The mail waits, is approved and is sent. -/
theorem waitingLaw_resumedMail :
    ((gateSystem tenantGateway).run (gateIdle true mailRuns) (resumedMail "hello" "b")).isSome ∧
      (gateSystem tenantGateway).Along (WaitingLaw tenantGateway) (gateIdle true mailRuns)
        (resumedMail "hello" "b") :=
  ⟨by decide +kernel, waitingLaw_of_run tenantGateway true mailRuns _
    (System.Along.mono _ (fun _ _ h => h.waitsUsably) (by decide +kernel :
      (gateSystem tenantGateway).Along WaitsAndIsApproved _ _))⟩

/-- The approval of the mail is denied. -/
def deniedMail : List (GateLabel String) :=
  performs 0 14 (tenantCall "call_1" "hello") (answering (.outcome .requireApproval) none "a") ++
    [PoolLabel.act { approvalId := "appr_run_1_call_1", reviewer := "founder", approved := false }]

def deniedMailPool : GatePool String :=
  ((gateSystem tenantGateway).run (gateIdle true mailRuns) deniedMail).get (by decide +kernel)

/-- The record that the next lookup finds. -/
def mailDenied : Option RunApprovalRecord :=
  deniedMailPool.store.repo.getApprovalByToolCall "call_1" 0

def deniedAnswers : (o : GatewayOp String) → Except PyException o.Ans :=
  answering (.outcome .requireApproval) mailDenied "b"

/-- The mail is tried again, up to the answer. -/
def retriedMail : List (GateLabel String) :=
  deniedMail ++ performs 1 11 (tenantCall "call_1" "hello") deniedAnswers

def retriedMailPool : GatePool String :=
  ((gateSystem tenantGateway).run (gateIdle true mailRuns) retriedMail).get (by decide +kernel)

def waitingPool : GatePool String :=
  ((gateSystem tenantGateway).next retriedMailPool (.step 1 deniedAnswers)).get
    (by decide +kernel)

/-- A denied request is answered that it waits, and no record could release it. -/
theorem not_waitingLaw_denied : ¬(gateSystem tenantGateway).Along (WaitingLaw tenantGateway)
    (gateIdle true mailRuns) (retriedMail ++ [.step 1 deniedAnswers]) := by
  intro h
  have hrun : (gateSystem tenantGateway).run (gateIdle true mailRuns) retriedMail =
      some retriedMailPool := (Option.some_get _).symm
  have hstep := (((gateSystem tenantGateway).along_append hrun).mp h).2.1
  have hnext : (gateSystem tenantGateway).next retriedMailPool (.step 1 deniedAnswers) =
      some waitingPool := (Option.some_get _).symm
  have hwaits : ∃ t ∈ waitingPool.threads[1]?, ∃ result ∈ t.code.result?,
      result.status = .waitingApproval := by decide +kernel
  obtain ⟨t, ht, result, hresult, hwaiting⟩ := hwaits
  obtain ⟨a, hreleasable⟩ := hstep _ hnext t ht result hresult hwaiting
  have hnone : ∀ a ∈ waitingPool.store.repo.approvals.values, a.status ≠ .pending := by
    decide +kernel
  exact hnone a (Dict.mem_values.mpr ⟨_, hreleasable.stored⟩) hreleasable.pending

end JavisSaas.Agent.Capabilities
