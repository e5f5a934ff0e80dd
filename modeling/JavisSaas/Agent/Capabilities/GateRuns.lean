import JavisSaas.Agent.Capabilities.GateStore

/-!
# What sequences of gateway executions keep

Between the executions, the governance state of an invocation is the strictest of what was observed
of it, and every approval is bound to the request that it was created for.

* `GateKept`, `GateFacts`: the invariant, and the facts of the execution under way.
* `gateRule`: every operation keeps both, with what is known of the records found (`R`) and of the
  record created (`D`).
-/

namespace JavisSaas.Agent.Capabilities

open JavisSaas.Lib JavisSaas.Agent.Governance JavisSaas.Agent.Runs
open ApprovalGateDecider (checkpointMismatch isCleared newApproval)

variable {P : Type}

/-! ## Approvals and their requests -/

/-- The approvals, and the request that each was created for. -/
@[ext]
structure ApprovalView (P : Type) where
  approvals : Dict String RunApprovalRecord
  durable : Bool
  requester : String → Option (GatewayCall P)

def approvalView (b : Backend P) (log : List (GateEntry P)) : ApprovalView P where
  approvals := b.approvals
  durable := b.isDurable
  requester := requester b log

/-- The identifier of the approval that `decide` creates for a request. -/
def approvalIdOf (req : GatewayCall P) : String := s!"appr_{req.runId}_{req.toolCallId}"

/-- The approval names the run, the tool call, the checkpoint and the capability. -/
structure Bound (a : RunApprovalRecord) (req : GatewayCall P) : Prop where
  approvalId : a.approvalId = approvalIdOf req
  runId : a.runId = some req.runId
  toolCallId : a.toolCallId = some req.toolCallId
  checkpointRef : a.checkpointRef = some req.checkpointRef
  action : a.action = some req.capabilityId

theorem bound_newApproval (req : GatewayCall P) (payloadHash : String)
    (currentDecision : PolicyDecision) : Bound (newApproval req payloadHash currentDecision) req :=
  ⟨rfl, rfl, rfl, rfl, rfl⟩

theorem Bound.stored {a row : RunApprovalRecord} {req : GatewayCall P} (h : Bound a req)
    (hrow : Backend.IsStored a row) : Bound row req := by
  obtain ⟨workspaceId, decisionVersion, rfl⟩ := hrow
  exact ⟨h.approvalId, h.runId, h.toolCallId, h.checkpointRef, h.action⟩

theorem Bound.decided {a : RunApprovalRecord} {req : GatewayCall P} (h : Bound a req)
    (reviewer : String) (approved : Bool) (reason : Option String) (evidence : Option Evidence) :
    Bound (a.decided reviewer approved reason evidence) req :=
  ⟨h.approvalId, h.runId, h.toolCallId, h.checkpointRef, h.action⟩

namespace ApprovalView

variable (v v' : ApprovalView P)

def lookups (toolCallId : String) : List (Option RunApprovalRecord) :=
  Capabilities.lookups v.durable v.approvals toolCallId

/-- Every approval is bound to its request, under its own identifier. -/
structure Kept : Prop where
  made : ∀ approvalId a, v.approvals.get? approvalId = some a →
    ∃ req, v.requester approvalId = some req ∧ Bound a req ∧ a.approvalId = approvalId
  absent : ∀ approvalId, v.approvals.get? approvalId = none → v.requester approvalId = none

/-- The view after a row was created for a request. -/
inductive Created (req : GatewayCall P) (row : RunApprovalRecord) : Prop where
  | stored (hnew : v.durable = true → v.approvals.get? row.approvalId = none)
    (hdurable : v'.durable = v.durable)
    (happrovals : v'.approvals = v.approvals.set row.approvalId row)
    (hrequester : ∀ approvalId, v'.requester approvalId =
      if row.approvalId = approvalId then some req else v.requester approvalId)
  | taken (hdurable : v.durable = true) (hthere : (v.approvals.get? row.approvalId).isSome)
    (h : v' = v)

variable {v v'}

theorem Kept.created (h : v.Kept) {req : GatewayCall P} {row : RunApprovalRecord}
    (hbound : Bound row req) (hcreated : Created v v' req row) : v'.Kept := by
  cases hcreated with
  | taken _ _ hv =>
    rw [hv]
    exact h
  | stored _ _ happrovals hrequester =>
    constructor
    · intro approvalId a ha
      rw [happrovals, Dict.get?_set] at ha
      rw [hrequester]
      split_ifs at ha ⊢ with hid
      · cases ha
        exact ⟨req, rfl, hbound, hid⟩
      · exact h.made approvalId a ha
    · intro approvalId ha
      rw [happrovals, Dict.get?_set] at ha
      rw [hrequester]
      split_ifs at ha ⊢ with hid
      exact h.absent approvalId ha

theorem stored_of_mem_lookups (h : v.Kept) {toolCallId : String} {a : RunApprovalRecord}
    (ha : some a ∈ v.lookups toolCallId) :
    v.approvals.get? a.approvalId = some a ∧ a.toolCallId = some toolCallId := by
  have hmem : a ∈ v.approvals.values ∧ a.toolCallId = some toolCallId := by
    unfold lookups Capabilities.lookups PostgresRepository.toolCallRows at ha
    split_ifs at ha
    · split at ha
      · simp at ha
      · next hrows =>
        obtain ⟨row, hrow, hsome⟩ := List.mem_map.mp ha
        rw [← hrows] at hrow
        cases hsome
        obtain ⟨hvalue, hcall⟩ := List.mem_filter.mp hrow
        exact ⟨hvalue, of_decide_eq_true hcall⟩
    · have hfind := (List.mem_singleton.mp ha).symm
      have hcall := List.find?_some
        (p := fun a : RunApprovalRecord => a.toolCallId = some toolCallId) hfind
      exact ⟨List.mem_of_find?_eq_some hfind, of_decide_eq_true hcall⟩
  obtain ⟨approvalId, hget⟩ := Dict.mem_values.mp hmem.1
  obtain ⟨req, -, -, hid⟩ := h.made approvalId a hget
  rw [hid]
  exact ⟨hget, hmem.2⟩

end ApprovalView

/-! ## The invariant -/

/-- Tool calls of approvals are known in Postgres, where an identifier has one run. -/
structure Linked (b : Backend P) : Prop where
  known : b.isDurable = true → ∀ approvalId a, b.approvals.get? approvalId = some a →
    a.ToolCallKnown b.toolCalls
  nodup : (b.toolCalls.map Prod.snd).Nodup

/-- The state of an invocation is the strictest of what was observed of it. -/
def GovernanceKept (governance : Dict (String × String) InvocationGovernanceState)
    (log : List (GateEntry P)) : Prop :=
  ∀ invocation, match governance.get? invocation with
    | none => observations log invocation = []
    | some state => (state.runId, state.toolCallId) = invocation ∧
      state.accumulated.outcome ≠ .nonApprovable ∧
      IsStrictest state.accumulated.outcome (observations log invocation)

structure GateKept (s : GateStore P) (log : List (GateEntry P)) : Prop where
  governance : GovernanceKept s.governance log
  approvals : (approvalView s.repo log).Kept
  linked : Linked s.repo

/-- The saved state of the invocation of a request. -/
def GateStore.stateOf (s : GateStore P) (req : GatewayCall P) : Option InvocationGovernanceState :=
  s.governance.get? (req.runId, req.toolCallId)

/-- The tool call whose approval is looked up. -/
def GatewayOp.lookup? : GatewayOp P → Option String
  | .getApprovalByToolCall toolCallId => some toolCallId
  | _ => none

section Facts

variable (R : ApprovalView P → GatewayCall P → Option RunApprovalRecord → Prop)
variable (D : ApprovalView P → GatewayCall P → Prop)

/-- The facts of an execution in its phase. -/
def GateFacts (req : GatewayCall P) (φ : GatePhase) (s : GateStore P) (log : List (GateEntry P)) :
    Prop :=
  match φ with
  | .start => True
  | .loaded existing => s.stateOf req = existing
  | .governed state => s.stateOf req = some state
  | .found state approval => s.stateOf req = some state ∧
    state.accumulated.outcome = .requireApproval ∧
    approval ∈ (approvalView s.repo log).lookups req.toolCallId ∧
    R (approvalView s.repo log) req approval
  | .created state => s.stateOf req = some state ∧ D (approvalView s.repo log) req

/-- A lookup is made where all it may return satisfies `R`. -/
def LooksUp (s : GateStore P) (log : List (GateEntry P)) (req : GatewayCall P)
    (o : GatewayOp P) : Prop :=
  ∀ toolCallId ∈ o.lookup?, ∀ found ∈ (approvalView s.repo log).lookups toolCallId,
    R (approvalView s.repo log) req found

instance [∀ v req found, Decidable (R v req found)] (s : GateStore P) (log : List (GateEntry P))
    (req : GatewayCall P) (o : GatewayOp P) : Decidable (LooksUp R s log req o) :=
  inferInstanceAs (Decidable (∀ toolCallId ∈ o.lookup?,
    ∀ found ∈ (approvalView s.repo log).lookups toolCallId, R (approvalView s.repo log) req found))

end Facts

/-! ## The history grows -/

section History

variable {log : List (GateEntry P)} {e : GateEntry P}

theorem observations_snoc (invocation : String × String) :
    observations (log ++ [e]) invocation = observations log invocation ++
      (((observation? e).toList.filter (·.1 = invocation)).map (·.2)) := by
  unfold observations
  rw [List.filterMap_append, List.filter_append, List.map_append]
  cases h : observation? e <;> simp [h]

theorem observations_of_none (h : observation? e = none) (invocation : String × String) :
    observations (log ++ [e]) invocation = observations log invocation := by
  rw [observations_snoc, h]
  exact List.append_nil _

theorem creations_snoc (approvalId : String) :
    creations (log ++ [e]) approvalId = creations log approvalId ++
      (((creation? e).toList.filter (·.1 = approvalId)).map (·.2)) := by
  unfold creations
  rw [List.filterMap_append, List.filter_append, List.map_append]
  cases h : creation? e <;> simp [h]

theorem creations_of_none (h : creation? e = none) (approvalId : String) :
    creations (log ++ [e]) approvalId = creations log approvalId := by
  rw [creations_snoc, h]
  exact List.append_nil _

theorem approvalView_congr {b b' : Backend P} (happrovals : b'.approvals = b.approvals)
    (hdurable : b'.isDurable = b.isDurable) (h : creation? e = none) :
    approvalView b' (log ++ [e]) = approvalView b log := by
  ext1
  · exact happrovals
  · exact hdurable
  · funext approvalId
    show requester _ _ _ = requester _ _ _
    unfold requester
    rw [hdurable, creations_of_none h]

theorem GovernanceKept.congr {governance : Dict (String × String) InvocationGovernanceState}
    (h : GovernanceKept governance log) (he : observation? e = none) :
    GovernanceKept governance (log ++ [e]) := by
  intro invocation
  rw [observations_of_none he]
  exact h invocation

/-- The entry says nothing about governance or approvals. -/
structure Unrelated (e : GateEntry P) : Prop where
  observation : observation? e = none
  creation : creation? e = none

theorem unrelated_error {i : ℕ} {req : GatewayCall P} {o : GatewayOp P} {exc : PyException} :
    Unrelated (.did i req o (.error exc)) := by
  constructor <;> cases o <;> rfl

end History

/-! ## One operation -/

section Operation

variable {g : CapabilityGateway P} {s s' : GateStore P} {log : List (GateEntry P)}
  {e : GateEntry P} {req : GatewayCall P} {φ : GatePhase}
variable {R : ApprovalView P → GatewayCall P → Option RunApprovalRecord → Prop}
  {D : ApprovalView P → GatewayCall P → Prop}

/-- Governance and approvals are the same. -/
structure SameGate (s s' : GateStore P) : Prop where
  governance : s'.governance = s.governance
  approvals : s'.repo.approvals = s.repo.approvals
  isDurable : s'.repo.isDurable = s.repo.isDurable

theorem SameGate.refl (s : GateStore P) : SameGate s s := ⟨rfl, rfl, rfl⟩

theorem GateKept.frame (h : GateKept s log) (hsame : SameGate s s') (hlinked : Linked s'.repo)
    (he : Unrelated e) : GateKept s' (log ++ [e]) where
  governance := hsame.governance ▸ h.governance.congr he.observation
  approvals := by
    rw [approvalView_congr hsame.approvals hsame.isDurable he.creation]
    exact h.approvals
  linked := hlinked

theorem GateFacts.frame (h : GateFacts R D req φ s log) (hsame : SameGate s s')
    (he : Unrelated e) : GateFacts R D req φ s' (log ++ [e]) := by
  have hview : approvalView s'.repo (log ++ [e]) = approvalView s.repo log :=
    approvalView_congr hsame.approvals hsame.isDurable he.creation
  have hstate : s'.stateOf req = s.stateOf req := by
    unfold GateStore.stateOf
    rw [hsame.governance]
  cases φ with
  | start => trivial
  | loaded | governed => exact hstate.trans h
  | found _ approval =>
    show _ ∧ _ ∧ approval ∈ (approvalView _ _).lookups _ ∧ R (approvalView _ _) _ _
    rw [hview]
    exact ⟨hstate.trans h.1, h.2⟩
  | created =>
    show _ ∧ D (approvalView _ _) _
    rw [hview]
    exact ⟨hstate.trans h.1, h.2⟩

theorem Linked.congr {b b' : Backend P} (h : Linked b) (hsame : Backend.SameApprovals b b') :
    Linked b' where
  known := by
    rw [hsame.isDurable, hsame.approvals, hsame.toolCalls]
    exact h.known
  nodup := hsame.toolCalls ▸ h.nodup

theorem Linked.saveToolCall {b b' : Backend P} {runId toolCallId : String} (h : Linked b)
    (hsave : b.saveToolCall runId toolCallId = .ok b') : Linked b' := by
  obtain ⟨happrovals, hdurable, hsub, hnodup⟩ := Backend.toolCalls_saveToolCall hsave
  refine ⟨fun hd approvalId a ha => ?_, hnodup h.nodup⟩
  rw [happrovals] at ha
  exact fun runId hrun toolCallId hcall =>
    hsub (h.known (hdurable ▸ hd) approvalId a ha runId hrun toolCallId hcall)

theorem GovernanceKept.save {governance : Dict (String × String) InvocationGovernanceState}
    (h : GovernanceKept governance log) (req : GatewayCall P) (i : ℕ)
    {observation : PolicyDecision} (houtcome : observation.outcome ≠ .nonApprovable) :
    let existing := governance.get? (req.runId, req.toolCallId)
    let state := observed req existing observation
    (state.runId, state.toolCallId) = (req.runId, req.toolCallId) ∧
    GovernanceKept (governance.set (req.runId, req.toolCallId) state)
      (log ++ [Entry.did i req (.saveGovernanceState state observation) (.ok ())]) := by
  intro existing state
  have hprev := h (req.runId, req.toolCallId)
  have hstate : (state.runId, state.toolCallId) = (req.runId, req.toolCallId) ∧
      state.accumulated.outcome ≠ .nonApprovable ∧ IsStrictest state.accumulated.outcome
        (observations log (req.runId, req.toolCallId) ++ [observation]) := by
    cases hget : governance.get? (req.runId, req.toolCallId) with
    | none =>
      rw [hget] at hprev
      have hstart : state = .start req.runId req.toolCallId observation := by
        show observed req (governance.get? _) _ = _
        rw [hget]
        rfl
      rw [hstart, hprev]
      exact ⟨rfl, houtcome, isStrictest_start observation⟩
    | some old =>
      rw [hget] at hprev
      obtain ⟨hkey, hold, hstrict⟩ := hprev
      have haccumulate : state = old.accumulate observation := by
        show observed req (governance.get? _) _ = _
        rw [hget]
        rfl
      rw [haccumulate]
      refine ⟨hkey, ?_, hstrict.accumulate observation⟩
      show (if _ then _ else _) ≠ _
      split_ifs
      · exact hold
      · exact houtcome
  refine ⟨hstate.1, fun invocation => ?_⟩
  rw [observations_snoc, Dict.get?_set]
  have hentry : observation? (.did i req (.saveGovernanceState state observation) (.ok ()) :
      GateEntry P) = some ((req.runId, req.toolCallId), observation) := by
    rw [← hstate.1]
    rfl
  rw [hentry]
  by_cases hid : (req.runId, req.toolCallId) = invocation
  · rw [if_pos hid]
    subst hid
    simpa using hstate
  · rw [if_neg hid]
    simpa [hid] using h invocation

theorem created_of_insertApproval {b b' : Backend P} {approval x : RunApprovalRecord}
    (hkept : (approvalView b log).Kept) (hlinked : Linked b) (req : GatewayCall P) (i : ℕ)
    (record : RunApprovalRecord) (h : b.insertApproval approval = .ok (x, b')) :
    ∃ row, Backend.IsStored approval row ∧
      (approvalView b log).Created (approvalView b'
        (log ++ [Entry.did i req (.createApproval approval) (.ok record)])) req row ∧
          Linked b' := by
  obtain ⟨hinserted, hdurable, hcalls⟩ := Backend.approvalInserted_of_insertApproval h
  have hentry : creation? (.did i req (.createApproval approval) (.ok record) : GateEntry P) =
      some (approval.approvalId, req) := rfl
  have hcreations : ∀ approvalId, creations
      (log ++ [Entry.did i req (.createApproval approval) (.ok record)]) approvalId =
      creations log approvalId ++ if approval.approvalId = approvalId then [req] else [] := by
    intro approvalId
    rw [creations_snoc, hentry]
    split_ifs with hid <;> simp [hid]
  have hrowId : ∀ {row}, Backend.IsStored approval row → row.approvalId = approval.approvalId := by
    rintro row ⟨_, _, rfl⟩
    rfl
  cases hinserted with
  | replaced row hmemory hrow happrovals =>
    refine ⟨row, hrow, .stored ?_ hdurable ?_ fun approvalId => ?_, ⟨fun hd => ?_, ?_⟩⟩
    · intro hd
      exact absurd (hmemory.symm.trans hd) Bool.false_ne_true
    · rw [hrowId hrow]
      exact happrovals
    · show requester _ _ _ = if _ then _ else requester _ _ _
      unfold requester
      rw [hdurable, hmemory, hcreations, hrowId hrow]
      split_ifs <;> simp_all
    · rw [hdurable, hmemory] at hd
      nomatch hd
    · rw [hcalls]
      exact hlinked.nodup
  | taken hd hthere happrovals =>
    refine ⟨approval, ⟨_, _, rfl⟩, .taken hd hthere ?_, ⟨?_, ?_⟩⟩
    · ext1
      · exact happrovals
      · exact hdurable
      · funext approvalId
        show requester _ _ _ = requester _ _ _
        unfold requester
        rw [hdurable, hd, hcreations, if_pos rfl, if_pos rfl]
        split_ifs with hid
        · obtain ⟨a, ha⟩ := Option.isSome_iff_exists.mp hthere
          obtain ⟨req', hreq', -⟩ := hkept.made _ a ha
          have hhead : (creations log approval.approvalId).head? = some req' := by
            have hreq' : requester b log approval.approvalId = some req' := hreq'
            rwa [requester, hd, if_pos rfl] at hreq'
          rw [← hid, List.head?_append, hhead]
          rfl
        · rw [List.append_nil]
    · rw [hdurable, happrovals, hcalls]
      exact hlinked.known
    · rw [hcalls]
      exact hlinked.nodup
  | inserted row hd hnew hknown hrow happrovals =>
    refine ⟨row, hrow, .stored ?_ hdurable ?_ fun approvalId => ?_, ⟨fun _ approvalId a ha => ?_, ?_⟩⟩
    · intro _
      rw [hrowId hrow]
      exact hnew
    · rw [hrowId hrow]
      exact happrovals
    · show requester _ _ _ = if _ then _ else requester _ _ _
      unfold requester
      rw [hdurable, hd, hcreations, hrowId hrow, if_pos rfl, if_pos rfl]
      split_ifs with hid
      · have hnone : requester b log approval.approvalId = none := hkept.absent _ hnew
        rw [requester, hd, if_pos rfl] at hnone
        rw [← hid, List.head?_append, hnone]
        rfl
      · rw [List.append_nil]
    · rw [happrovals, Dict.get?_set] at ha
      rw [hcalls]
      split_ifs at ha with hid
      · cases ha
        obtain ⟨_, _, rfl⟩ := hrow
        exact hknown
      · exact hlinked.known hd approvalId a ha
    · rw [hcalls]
      exact hlinked.nodup

theorem GateKept.decide (h : GateKept s log) (d : ApprovalDecision) :
    GateKept { s with repo := d.apply s.repo } log := by
  obtain ⟨hdecided, hdurable, hcalls⟩ := Backend.approvalDecided_of_decideApproval s.repo
    d.approvalId d.reviewer d.approved d.reason d.evidence
  have hrequester : (approvalView (d.apply s.repo) log).requester =
      (approvalView s.repo log).requester := by
    funext approvalId
    show requester _ _ _ = requester _ _ _
    unfold requester
    rw [show (d.apply s.repo).isDurable = s.repo.isDurable from hdurable]
  cases hdecided with
  | kept _ happrovals =>
    refine ⟨h.governance, ?_, h.linked.congr ⟨happrovals, hdurable, hcalls⟩⟩
    have hview : approvalView (d.apply s.repo) log = approvalView s.repo log :=
      ApprovalView.ext happrovals hdurable hrequester
    rw [hview]
    exact h.approvals
  | decided a ha _ reviewer reason evidence happrovals =>
    have hget : ∀ approvalId, (d.apply s.repo).approvals.get? approvalId =
        if d.approvalId = approvalId then some (a.decided reviewer d.approved reason evidence)
        else s.repo.approvals.get? approvalId := by
      intro approvalId
      rw [show (d.apply s.repo).approvals = _ from happrovals, Dict.get?_set]
    refine ⟨h.governance, ⟨fun approvalId a' ha' => ?_, fun approvalId ha' => ?_⟩,
      ⟨fun hd approvalId a' ha' => ?_, ?_⟩⟩
    · rw [hrequester]
      have ha' : (d.apply s.repo).approvals.get? approvalId = some a' := ha'
      rw [hget] at ha'
      split_ifs at ha' with hid
      · cases ha'
        obtain ⟨req, hreq, hbound, hkey⟩ := h.approvals.made approvalId a (hid ▸ ha)
        exact ⟨req, hreq, hbound.decided _ _ _ _, hkey⟩
      · exact h.approvals.made approvalId a' ha'
    · rw [hrequester]
      have ha' : (d.apply s.repo).approvals.get? approvalId = none := ha'
      rw [hget] at ha'
      split_ifs at ha'
      exact h.approvals.absent approvalId ha'
    · have ha' : (d.apply s.repo).approvals.get? approvalId = some a' := ha'
      rw [hget] at ha'
      show a'.ToolCallKnown (d.apply s.repo).toolCalls
      rw [show (d.apply s.repo).toolCalls = s.repo.toolCalls from hcalls]
      have hd : s.repo.isDurable = true := hdurable ▸ hd
      split_ifs at ha' with hid
      · cases ha'
        exact h.linked.known hd d.approvalId a ha
      · exact h.linked.known hd approvalId a' ha'
    · show ((d.apply s.repo).toolCalls.map Prod.snd).Nodup
      rw [show (d.apply s.repo).toolCalls = s.repo.toolCalls from hcalls]
      exact h.linked.nodup

end Operation

/-! ## The rule -/

/-- What is known of a record that was found is enough for the record created beside it. -/
def Creates (R : ApprovalView P → GatewayCall P → Option RunApprovalRecord → Prop)
    (D : ApprovalView P → GatewayCall P → Prop) : Prop :=
  ∀ (v v' : ApprovalView P) (req : GatewayCall P) (row : RunApprovalRecord)
    (found : Option RunApprovalRecord), v.Kept → found ∈ v.lookups req.toolCallId →
    R v req found → (found = none ∨ checkpointMismatch found req.checkpointRef = true) →
    Bound row req → row.status = .pending → v.Created v' req row → D v' req

section Rule

variable {g : CapabilityGateway P} {s s' : GateStore P} {log : List (GateEntry P)}
  {req : GatewayCall P} {φ : GatePhase} {i : ℕ}
variable {R : ApprovalView P → GatewayCall P → Option RunApprovalRecord → Prop}
  {D : ApprovalView P → GatewayCall P → Prop}

/-- Both are kept by an operation that says nothing about governance or approvals. -/
theorem kept_of_same (hK : GateKept s log) (hF : GateFacts R D req φ s log) (hsame : SameGate s s')
    (hlinked : Linked s'.repo) {e : GateEntry P} (he : Unrelated e) :
    GateKept s' (log ++ [e]) ∧ GateFacts R D req φ s' (log ++ [e]) :=
  ⟨hK.frame hsame hlinked he, hF.frame hsame he⟩

theorem kept_of_withRepo (hK : GateKept s log) (hF : GateFacts R D req φ s log)
    {A : Type} {x : Except IntegrityError (A × Backend P)} {a : A}
    (h : s.withRepo x = some (a, s')) (hx : ∀ y, x = .ok y →
      Backend.SameApprovals s.repo y.2) {e : GateEntry P} (he : Unrelated e) :
    GateKept s' (log ++ [e]) ∧ GateFacts R D req φ s' (log ++ [e]) := by
  cases x with
  | error => nomatch h
  | ok y =>
    obtain ⟨-, rfl⟩ := Prod.mk.inj (Option.some.inj h)
    have hsame := hx y rfl
    have hgate : SameGate s { s with repo := y.2 } := ⟨rfl, hsame.approvals, hsame.isDurable⟩
    exact kept_of_same hK hF hgate (hK.linked.congr hsame) he

theorem respond_of_exec {o : GatewayOp P} {a a' : o.Ans} (h : GateStore.exec o s = some (a', s')) :
    (gateWorkload g).respond o (.ok a) s = (.ok a', s') := by
  have hexec : (gateWorkload g).exec o s = some (a', s') := h
  simp only [Workload.respond, hexec]

theorem respond_of_none {o : GatewayOp P} {a : o.Ans} (h : GateStore.exec o s = none) :
    (gateWorkload g).respond o (.ok a) s = (.ok a, s) := by
  have hexec : (gateWorkload g).exec o s = none := h
  simp only [Workload.respond, hexec]

theorem not_isOk_of_withRepo {A : Type} {x : Except IntegrityError (A × Backend P)}
    (h : s.withRepo x = none) : ¬x.isOk = true := by
  cases x with
  | error => exact Bool.false_ne_true
  | ok => nomatch h

theorem isOk_map {A B : Type} (f : A → B) (x : Except IntegrityError A) :
    (x.map f).isOk = x.isOk := by
  cases x <;> rfl

theorem operation_kept (hcreates : Creates R D) {o : GatewayOp P}
    {answer r : Except PyException o.Ans} (hK : GateKept s log) (hF : GateFacts R D req φ s log)
    (hallowed : gateAllowed req φ o) (hlooks : LooksUp R s log req o)
    (hadmits : GateStore.admits o s answer = true)
    (hr : (gateWorkload g).respond o answer s = (r, s')) :
    GateKept s' (log ++ [Entry.did i req o r]) ∧
      GateFacts R D req (φ.after o r) s' (log ++ [Entry.did i req o r]) := by
  cases answer with
  | error exc =>
    cases hr
    have hafter : φ.after o (.error exc) = φ := by
      cases o <;> cases φ <;> rfl
    rw [hafter]
    exact kept_of_same hK hF (.refl s) hK.linked unrelated_error
  | ok a =>
    cases hexec : GateStore.exec o s with
    | none =>
      obtain ⟨rfl, rfl⟩ := Prod.mk.inj ((respond_of_none hexec).symm.trans hr)
      cases o with
      | claimIdempotency | createApproval => exact absurd hadmits (not_isOk_of_withRepo hexec)
      | saveToolCall =>
        have hrefused := not_isOk_of_withRepo hexec
        rw [isOk_map] at hrefused
        exact absurd hadmits hrefused
      | completeIdempotencyClaim | failIdempotencyClaim | retryIdempotencyClaim
      | loadGovernanceState | saveGovernanceState => nomatch hexec
      | getApprovalByToolCall =>
        obtain ⟨rfl, state, rfl, houtcome⟩ := hallowed
        refine ⟨hK.frame (.refl s) hK.linked ⟨rfl, rfl⟩, ?_⟩
        have hview : approvalView s.repo (log ++ [Entry.did i req (.getApprovalByToolCall req.toolCallId)
            (.ok a)]) = approvalView s.repo log := approvalView_congr rfl rfl rfl
        have hfound : a ∈ (approvalView s.repo log).lookups req.toolCallId :=
          of_decide_eq_true hadmits
        show _ ∧ _ ∧ a ∈ (approvalView _ _).lookups _ ∧ R (approvalView _ _) _ _
        rw [hview]
        exact ⟨hF, houtcome, hfound, hlooks _ rfl a hfound⟩
      | _ => exact kept_of_same hK hF (.refl s) hK.linked ⟨rfl, rfl⟩
    | some x =>
      obtain ⟨a', s''⟩ := x
      obtain ⟨rfl, rfl⟩ := Prod.mk.inj ((respond_of_exec hexec).symm.trans hr)
      cases o with
      | claimIdempotency =>
        exact kept_of_withRepo hK hF hexec
          (fun _ h => Backend.sameApprovals_claimIdempotency h) ⟨rfl, rfl⟩
      | completeIdempotencyClaim claimId resultPayload resultHash =>
        refine kept_of_withRepo (x := .ok (s.repo.completeIdempotencyClaim claimId resultPayload resultHash))
          hK hF hexec (fun _ h => ?_) ⟨rfl, rfl⟩
        rw [← Except.ok.inj h]
        exact Backend.sameApprovals_completeIdempotencyClaim _ _ _ _
      | failIdempotencyClaim claimId errorMessage =>
        refine kept_of_withRepo (x := .ok (s.repo.failIdempotencyClaim claimId errorMessage))
          hK hF hexec (fun _ h => ?_) ⟨rfl, rfl⟩
        rw [← Except.ok.inj h]
        exact Backend.sameApprovals_failIdempotencyClaim _ _ _
      | retryIdempotencyClaim claimId =>
        refine kept_of_withRepo (x := .ok (s.repo.retryIdempotencyClaim claimId))
          hK hF hexec (fun _ h => ?_) ⟨rfl, rfl⟩
        rw [← Except.ok.inj h]
        exact Backend.sameApprovals_retryIdempotencyClaim _ _
      | saveToolCall toolCall =>
        have hexec : s.withRepo ((s.repo.saveToolCall toolCall.runId toolCall.toolCallId).map
          fun b => ((), b)) = some (a', s'') := hexec
        cases hsave : s.repo.saveToolCall toolCall.runId toolCall.toolCallId with
        | error =>
          rw [hsave] at hexec
          nomatch hexec
        | ok b =>
          rw [hsave] at hexec
          obtain ⟨-, rfl⟩ := Prod.mk.inj (Option.some.inj hexec)
          obtain ⟨happrovals, hdurable, -⟩ := Backend.toolCalls_saveToolCall hsave
          have hgate : SameGate s { s with repo := b } := ⟨rfl, happrovals, hdurable⟩
          exact kept_of_same hK hF hgate (hK.linked.saveToolCall hsave) ⟨rfl, rfl⟩
      | loadGovernanceState =>
        cases hexec
        obtain ⟨rfl, rfl, rfl⟩ := hallowed
        exact ⟨hK.frame (.refl s) hK.linked ⟨rfl, rfl⟩, rfl⟩
      | saveGovernanceState =>
        obtain ⟨-, rfl⟩ := Prod.mk.inj (Option.some.inj hexec)
        obtain ⟨houtcome, existing, rfl, rfl⟩ := hallowed
        have hexisting : s.governance.get? (req.runId, req.toolCallId) = existing := hF
        have hsaved := hK.governance.save req i houtcome
        rw [hexisting] at hsaved
        obtain ⟨hkey, hgovernance⟩ := hsaved
        refine ⟨⟨?_, ?_, hK.linked⟩, ?_⟩
        · show GovernanceKept (s.governance.set _ _) _
          rw [hkey]
          exact hgovernance
        · show (approvalView s.repo _).Kept
          rw [approvalView_congr rfl rfl rfl]
          exact hK.approvals
        · show (s.governance.set _ _).get? _ = _
          rw [hkey]
          exact Dict.get?_set_self _ _ _
      | createApproval =>
        obtain ⟨⟨payloadHash, currentDecision, rfl⟩, state, found, rfl, hnew⟩ := hallowed
        have hexec : s.withRepo (s.repo.insertApproval
          (newApproval req payloadHash currentDecision)) = some (a', s'') := hexec
        cases hinsert : s.repo.insertApproval (newApproval req payloadHash currentDecision) with
        | error =>
          rw [hinsert] at hexec
          nomatch hexec
        | ok x =>
          rw [hinsert] at hexec
          cases hexec
          obtain ⟨hstate, houtcome, hfound, hR⟩ := hF
          have hbound := bound_newApproval req payloadHash currentDecision
          obtain ⟨row, hrow, hcreated, hlinked⟩ := created_of_insertApproval hK.approvals
            hK.linked req i x.1 hinsert
          have hstatus : row.status = .pending := by
            obtain ⟨_, _, rfl⟩ := hrow
            rfl
          refine ⟨⟨hK.governance.congr rfl, hK.approvals.created (hbound.stored hrow) hcreated,
            hlinked⟩, hstate, ?_⟩
          exact hcreates _ _ req row found hK.approvals hfound hR hnew (hbound.stored hrow) hstatus
            hcreated
      | _ => nomatch hexec

end Rule

theorem gateRule (g : CapabilityGateway P)
    {R : ApprovalView P → GatewayCall P → Option RunApprovalRecord → Prop}
    {D : ApprovalView P → GatewayCall P → Prop} (hcreates : Creates R D) :
    (gateWorkload g).SerialRule GateStore.admits gateContract .start GateKept (GateFacts R D)
      (LooksUp R) where
  start _ _ := trivial
  began _ _ _ h := h.frame (.refl _) h.linked ⟨rfl, rfl⟩
  factsBegan _ _ _ h := h.frame (.refl _) ⟨rfl, rfl⟩
  did hK hF hallowed hlooks hadmits hr := operation_kept hcreates hK hF hallowed hlooks hadmits hr
  act d h := h.decide d

/-! ## Every run -/

section Runs

variable (g : CapabilityGateway P)
  (R : ApprovalView P → GatewayCall P → Option RunApprovalRecord → Prop)
  (D : ApprovalView P → GatewayCall P → Prop)

abbrev GateInv (s : GatePool P) : Prop :=
  (gateWorkload g).SerialInv gateContract .start gateOutcome GateKept (GateFacts R D) s

variable {g R D} {s s' : GatePool P} {l : GateLabel P}

theorem gateInv_idle (durable : Bool) (runs : Dict String (RunRecord P)) :
    GateInv g R D (gateIdle durable runs) := by
  refine Workload.serialInv_empty ⟨fun _ => rfl, ⟨fun approvalId a ha => ?_, fun _ _ => ?_⟩,
    ⟨fun _ approvalId a ha => ?_, ?_⟩⟩
  · cases durable <;> nomatch ha
  · cases durable <;> rfl
  · cases durable <;> nomatch ha
  · cases durable <;> exact List.nodup_nil

theorem GateInv.next (h : GateInv g R D s) (hcreates : Creates R D)
    (hl : Workload.PerformedIn (LooksUp R) s l) (hs : (gateSystem g).next s l = some s') :
    GateInv g R D s' :=
  Workload.SerialInv.next h (gateRule g hcreates) (executeInternal_governed g)
    (fun _ _ _ _ => trivial) hl hs

/-- An execution that is about to call the handler was let through, and calls it for its
    own request. -/
theorem GateInv.at_handlerCall (h : GateInv g R D s) {i : ℕ} {req : GatewayCall P}
    {o : GatewayOp P} (hi : s.nextAt i = some (req, o)) (ho : o.isHandlerCall = true) :
    o = .callHandler req.capabilityId req.inputPayload ∧
      ∃ φ, GateFacts R D req φ s.store s.log ∧ MayExecute req φ := by
  obtain ⟨φ, hfacts, hallowed⟩ := Workload.SerialInv.at_nextAt h hi
  cases o with
  | callHandler =>
    obtain ⟨rfl, rfl, hmay⟩ := hallowed
    exact ⟨rfl, φ, hfacts, hmay⟩
  | _ => nomatch ho

end Runs

end JavisSaas.Agent.Capabilities
