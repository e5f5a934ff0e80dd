import JavisSaas.Agent.Capabilities.Stages

/-!
# How an execution is governed

The phases of an execution, and its contract: it saves the state it has loaded with its own
observation, asks for an approval only when that state requires one, creates a record only when it
found none or one for another checkpoint, and calls the handler only when it was let through.

* `executeInternal_governed`: the pipeline keeps the contract.
-/

namespace JavisSaas.Agent.Capabilities

open JavisSaas.Lib JavisSaas.Agent.Governance JavisSaas.Agent.Runs
open ApprovalGateDecider (checkpointMismatch isCleared newApproval)

variable {P : Type}

/-! ## Phases -/

inductive GatePhase where
  /-- nothing loaded yet -/
  | start
  /-- read the governance state of the invocation -/
  | loaded (existing : Option InvocationGovernanceState)
  /-- saved it with its own observation -/
  | governed (state : InvocationGovernanceState)
  /-- looked the approval up -/
  | found (state : InvocationGovernanceState) (approval : Option RunApprovalRecord)
  /-- created an approval of its own -/
  | created (state : InvocationGovernanceState)

namespace GatePhase

def afterLoad : GatePhase → Except PyException (Option InvocationGovernanceState) → GatePhase
  | start, .ok existing => loaded existing
  | φ, _ => φ

def afterSave (state : InvocationGovernanceState) : GatePhase → Except PyException Unit → GatePhase
  | loaded _, .ok _ => governed state
  | φ, _ => φ

def afterLookup : GatePhase → Except PyException (Option RunApprovalRecord) → GatePhase
  | governed state, .ok approval => found state approval
  | φ, _ => φ

def afterCreate : GatePhase → Except PyException RunApprovalRecord → GatePhase
  | found state _, .ok _ => created state
  | φ, _ => φ

def after (φ : GatePhase) : (o : GatewayOp P) → Except PyException o.Ans → GatePhase
  | .loadGovernanceState _ _, r => φ.afterLoad r
  | .saveGovernanceState state _, r => φ.afterSave state r
  | .getApprovalByToolCall _, r => φ.afterLookup r
  | .createApproval _, r => φ.afterCreate r
  | _, _ => φ

end GatePhase

/-! ## The contract -/

/-- The state of the invocation with one more observation. -/
def observed (req : GatewayCall P) (existing : Option InvocationGovernanceState)
    (observation : PolicyDecision) : InvocationGovernanceState :=
  match existing with
  | none => InvocationGovernanceState.start req.runId req.toolCallId observation
  | some existing => existing.accumulate observation

/-- The execution was let through. -/
def MayExecute (req : GatewayCall P) : GatePhase → Prop
  | .governed state =>
    state.accumulated.outcome ≠ .requireApproval ∧ state.accumulated.outcome ≠ .deny
  | .found _ approval => isCleared approval req.checkpointRef = true
  | _ => False

/-- What an execution may do in a phase. -/
def gateAllowed (req : GatewayCall P) (φ : GatePhase) : GatewayOp P → Prop
  | .loadGovernanceState runId toolCallId =>
    runId = req.runId ∧ toolCallId = req.toolCallId ∧ φ = .start
  | .saveGovernanceState state observation => observation.outcome ≠ .nonApprovable ∧
    ∃ existing, φ = .loaded existing ∧ state = observed req existing observation
  | .getApprovalByToolCall toolCallId => toolCallId = req.toolCallId ∧
    ∃ state, φ = .governed state ∧ state.accumulated.outcome = .requireApproval
  | .createApproval approval => (∃ payloadHash currentDecision,
      approval = newApproval req payloadHash currentDecision) ∧
    ∃ state found, φ = .found state found ∧
      (found = none ∨ checkpointMismatch found req.checkpointRef = true)
  | .callHandler capabilityId payload =>
    capabilityId = req.capabilityId ∧ payload = req.inputPayload ∧ MayExecute req φ
  | _ => True

def gateContract (req : GatewayCall P) :
    Contract (GatewayOp P) GatewayOp.Ans PyException GatePhase where
  allowed := gateAllowed req
  assumed _ _ _ := True
  after := GatePhase.after

/-- What an execution that waits has found or done. -/
def Waits (req : GatewayCall P) : GatePhase → Prop
  | .found _ approval => ∃ a, approval = some a ∧ a.status ≠ .approved ∧
    checkpointMismatch approval req.checkpointRef = false
  | .created _ => True
  | _ => False

/-- An execution that is answered `waiting_approval` waits. -/
def gateOutcome (req : GatewayCall P) (φ : GatePhase)
    (r : Except PyException (GatewayExecutionResult P)) : Prop :=
  ∀ result, r = .ok result → result.status = .waitingApproval → Waits req φ

/-- The execution is not answered `waiting_approval`. -/
def Settled (_ : GatePhase) (r : Except PyException (GatewayExecutionResult P)) : Prop :=
  ∀ result, r = .ok result → result.status ≠ .waitingApproval

theorem Settled.gateOutcome {req : GatewayCall P} {φ : GatePhase}
    {r : Except PyException (GatewayExecutionResult P)} (h : Settled φ r) : gateOutcome req φ r :=
  fun result hr hwaits => absurd hwaits (h result hr)

theorem settled_error {φ : GatePhase} {e : PyException} :
    Settled φ (.error e : Except PyException (GatewayExecutionResult P)) := fun _ h => nomatch h

theorem settled_ok {φ : GatePhase} {result : GatewayExecutionResult P}
    (h : result.status ≠ .waitingApproval) : Settled φ (.ok result) :=
  fun _ hr => Except.ok.inj hr ▸ h

/-! ## Operations that have nothing to do with the gate -/

/-- The operations on governance states and approvals, and the handler call. -/
def GatewayOp.touchesGate : GatewayOp P → Bool
  | loadGovernanceState _ _ => true
  | saveGovernanceState _ _ => true
  | getApprovalByToolCall _ => true
  | createApproval _ => true
  | callHandler _ _ => true
  | _ => false

section

variable {g : CapabilityGateway P} {req : GatewayCall P} {φ : GatePhase}

theorem ungated_after {o : GatewayOp P} (h : o.touchesGate = false)
    (r : Except PyException o.Ans) : φ.after o r = φ := by
  cases o <;> first | rfl | nomatch h

theorem ungated {o : GatewayOp P} (h : o.touchesGate = false) :
    Prog.Keeps (gateContract req) φ (Prog.perform o) := by
  have hsilent : Prog.Silent (gateContract req) φ o :=
    ⟨by cases o <;> trivial, fun r _ => ungated_after h r⟩
  exact hsilent.keeps

theorem ungated_of_isPlain (o : GatewayOp P) (h : o.isPlain = true) :
    Prog.Silent (gateContract req) φ o := by
  have hgate : o.touchesGate = false := by cases o <;> first | rfl | nomatch h
  exact ⟨by cases o <;> trivial, fun r _ => ungated_after hgate r⟩

/-! ## The stages keep the contract -/

theorem keeps_tryClaim {runId toolCallId capabilityId idempotencyKey payloadHash : String} :
    Prog.Keeps (gateContract req) φ
      (tryClaim runId toolCallId capabilityId idempotencyKey payloadHash) := by
  refine (ungated rfl).bind fun hex => (ungated rfl).bind fun x => ?_
  obtain ⟨claimed, record⟩ := x
  cases claimed with
  | true => exact Prog.keeps_pure _
  | false =>
    show Prog.Keeps (gateContract req) φ (resolveExisting _ record)
    unfold resolveExisting
    cases record.status with
    | completed | running => exact Prog.keeps_pure _
    | failed =>
      refine (ungated rfl).bind fun retried => ?_
      cases retried with
      | some _ => exact Prog.keeps_pure _
      | none => exact (ungated rfl).bind fun _ => Prog.keeps_pure _

theorem keeps_releaseDenied {tc : RunToolCallRecord P} {claimId failMessage : String}
    {errorMessage : Option String} {event : Option RunEventRecord} :
    Prog.Keeps (gateContract req) φ (releaseDenied tc claimId errorMessage failMessage event) := by
  refine (ungated rfl).bind fun _ => (ungated rfl).bind fun _ => ?_
  cases event with
  | none => exact Prog.keeps_pure _
  | some => exact ungated rfl

theorem denied_settled {tc : RunToolCallRecord P} {claimId failMessage : String}
    {errorMessage : Option String} {event : Option RunEventRecord}
    {result : GatewayExecutionResult P} (h : result.status ≠ .waitingApproval) :
    (releaseDenied tc claimId errorMessage failMessage event >>= fun _ => pure result).Meets
      (gateContract req) Settled φ :=
  keeps_releaseDenied.meets_bind (fun _ => settled_ok h) (fun _ => settled_error)

section Execute

variable {spec : CapabilitySpec} {tc : RunToolCallRecord P} {claimId : String}
  {govState : InvocationGovernanceState}

theorem callAndRecord_settled (hmay : MayExecute req φ) :
    (callAndRecord g req tc claimId govState).Meets (gateContract req)
      (fun φ' r => φ' = φ ∧ Settled φ' r) φ := by
  have hcall : Prog.Keeps (gateContract req) φ
      (Await.callHandler req.capabilityId req.inputPayload) :=
    Prog.meets_perform.mpr ⟨⟨rfl, rfl, hmay⟩, fun _ _ => rfl⟩
  refine hcall.meets_bind (fun output => ?_) (fun _ => ⟨rfl, settled_error⟩)
  refine (ungated rfl).meets_bind (fun _ => ?_) (fun _ => ⟨rfl, settled_error⟩)
  refine (Prog.keeps_ofExcept _).meets_bind (fun resultHash => ?_) (fun _ => ⟨rfl, settled_error⟩)
  refine (ungated rfl).meets_bind (fun _ => ?_) (fun _ => ⟨rfl, settled_error⟩)
  refine (ungated rfl).meets_bind (fun _ => ?_) (fun _ => ⟨rfl, settled_error⟩)
  exact ⟨rfl, settled_ok (by nofun)⟩

theorem executeHandler_settled (hmay : MayExecute req φ) :
    (executeHandler g req tc claimId govState).Meets (gateContract req) Settled φ := by
  refine (ungated rfl).meets_bind (fun _ => ?_) (fun _ => settled_error)
  refine Prog.meets_tryCatch.mpr ((callAndRecord_settled hmay).mono fun φ' r hr => ?_)
  cases r with
  | ok => exact hr.2
  | error =>
    refine (ungated rfl).meets_bind (fun _ => ?_) (fun _ => settled_error)
    refine (ungated rfl).meets_bind (fun _ => ?_) (fun _ => settled_error)
    exact (ungated rfl).meets_bind (fun _ => settled_ok (by nofun)) (fun _ => settled_error)

theorem recheckAndExecute_settled (hmay : MayExecute req φ) :
    (recheckAndExecute g spec req tc claimId govState).Meets (gateContract req) Settled φ := by
  unfold recheckAndExecute
  cases verifyAmbientGovernance req.context with
  | some => exact denied_settled (by nofun)
  | none =>
    refine (keeps_checkTicket ungated_of_isPlain).meets_bind (fun denied => ?_)
      (fun _ => settled_error)
    cases denied with
    | some => exact denied_settled (by nofun)
    | none => exact executeHandler_settled hmay

theorem executeApproved_settled (hmay : MayExecute req φ) :
    (executeApproved g spec req tc claimId govState).Meets (gateContract req) Settled φ := by
  refine (resolveAndVerify_meets ungated_of_isPlain).bind (fun φ' resolution h => ?_)
    (fun _ _ _ => settled_error)
  obtain ⟨rfl, hdenied⟩ := h
  have hstatus : ∀ result, resolution.refusal? = some result →
      result.status ≠ .waitingApproval := by
    intro result hresult
    rw [hdenied resolution result rfl hresult]
    exact nofun
  cases resolution with
  | allowed => exact recheckAndExecute_settled hmay
  | resolverError _ result => exact denied_settled (hstatus result rfl)
  | denied _ result => exact denied_settled (hstatus result rfl)

end Execute

/-- What the approval gate answers in a phase. -/
def gateVerdict (req : GatewayCall P) (φ : GatePhase) :
    Except PyException (ApprovalVerdict P) → Prop
  | .ok .execute => MayExecute req φ
  | .ok (.wait _) => Waits req φ
  | .ok (.deny result) => result.status ≠ .waitingApproval
  | .error _ => True

section Govern

variable {state : InvocationGovernanceState} {payloadHash : String}
  {currentDecision : PolicyDecision}

theorem awaitApproval_governed {approval : Option RunApprovalRecord}
    (hclear : isCleared approval req.checkpointRef ≠ true) :
    (ApprovalGateDecider.awaitApproval req payloadHash currentDecision approval).Meets
      (gateContract req) (gateVerdict req) (.found state approval) := by
  -- a record of its own is created, and then waited for
  have hcreate (hnew : approval = none ∨ checkpointMismatch approval req.checkpointRef = true) :
      (do
        let _ ← Await.createApproval (newApproval req payloadHash currentDecision)
        Await.appendEvent {
          runId := req.runId, eventType := "approval.required"
          payload := [("approval_id", .str (newApproval req payloadHash currentDecision).approvalId),
            ("tool_call_id", .str req.toolCallId)] }
        pure (.wait (ApprovalGateDecider.waitResult req
          (newApproval req payloadHash currentDecision).approvalId)) :
        GatewayProg P (ApprovalVerdict P)).Meets
        (gateContract req) (gateVerdict req) (.found state approval) := by
    refine Prog.meets_bind.mpr (Prog.meets_perform.mpr ⟨⟨⟨_, _, rfl⟩, _, _, rfl, hnew⟩, fun r _ => ?_⟩)
    cases r with
    | error => trivial
    | ok => exact (ungated rfl).meets_bind (fun _ => trivial) (fun _ => trivial)
  unfold ApprovalGateDecider.awaitApproval
  cases approval with
  | none => exact hcreate (.inl rfl)
  | some a =>
    dsimp only
    split_ifs with hmismatch
    · exact hcreate (.inr hmismatch)
    · have hmatch : checkpointMismatch (some a) req.checkpointRef = false :=
        Bool.eq_false_iff.mpr hmismatch
      refine ⟨a, rfl, fun happroved => hclear ?_, hmatch⟩
      rw [isCleared, happroved, hmatch]
      rfl

theorem decide_governed {effectiveOutcome : PolicyOutcome}
    (heffective : effectiveOutcome = state.accumulated.outcome) :
    (ApprovalGateDecider.decide req payloadHash effectiveOutcome currentDecision).Meets
      (gateContract req) (gateVerdict req) (.governed state) := by
  unfold ApprovalGateDecider.decide
  cases effectiveOutcome with
  | requireApproval =>
    refine Prog.meets_bind.mpr (Prog.meets_perform.mpr
      ⟨⟨rfl, state, rfl, heffective.symm⟩, fun r _ => ?_⟩)
    cases r with
    | error => trivial
    | ok approval =>
      show Prog.Meets _ (if isCleared approval req.checkpointRef then _ else _) _
        (GatePhase.found state approval)
      split_ifs with hclear
      · exact hclear
      · exact awaitApproval_governed hclear
  | deny => exact nofun
  | allow | nonApprovable =>
    show MayExecute req (.governed state)
    rw [MayExecute, ← heffective]
    exact ⟨nofun, nofun⟩

variable {spec : CapabilitySpec} {tc : RunToolCallRecord P} {claimId : String}

theorem governAndExecute_governed (houtcome : currentDecision.outcome ≠ .nonApprovable) :
    (governAndExecute g spec req tc claimId currentDecision).Meets (gateContract req)
      (gateOutcome req) .start := by
  refine Prog.meets_bind.mpr (Prog.meets_perform.mpr ⟨⟨rfl, rfl, rfl⟩, fun r _ => ?_⟩)
  cases r with
  | error => exact settled_error.gateOutcome
  | ok existing =>
    refine Prog.meets_bind.mpr (Prog.meets_perform.mpr
      ⟨⟨houtcome, existing, rfl, by cases existing <;> rfl⟩, fun r _ => ?_⟩)
    cases r with
    | error => exact settled_error.gateOutcome
    | ok _ =>
      refine (decide_governed rfl).bind
        (fun φ verdict h => ?_) (fun _ _ _ => settled_error.gateOutcome)
      cases verdict with
      | execute => exact (executeApproved_settled h).mono fun _ _ hr => hr.gateOutcome
      | deny => exact (denied_settled h).mono fun _ _ hr => hr.gateOutcome
      | wait =>
        refine (ungated rfl).meets_bind (fun _ => ?_) (fun _ => settled_error.gateOutcome)
        exact fun _ _ _ => h

theorem runClaimed_governed {workspaceId : String} :
    (runClaimed g spec req workspaceId tc claimId).Meets (gateContract req) (gateOutcome req)
      .start := by
  refine (ungated rfl).meets_bind (fun _ => ?_) (fun _ => settled_error.gateOutcome)
  refine (ungated rfl).meets_bind (fun _ => ?_) (fun _ => settled_error.gateOutcome)
  refine (keeps_evaluateTenant ungated_of_isPlain).meets_bind (fun tenantEvalRes => ?_)
    (fun _ => settled_error.gateOutcome)
  refine (ungated rfl).meets_bind (fun _ => ?_) (fun _ => settled_error.gateOutcome)
  refine (audit_meets ungated_of_isPlain).bind (fun φ suspended h => ?_)
    (fun _ _ _ => settled_error.gateOutcome)
  obtain ⟨rfl, hdenied⟩ := h
  cases suspended with
  | none => exact governAndExecute_governed (conjoin_ne_nonApprovable _ _ _)
  | some denial =>
    have hstatus : denial.1.status ≠ .waitingApproval := by
      rw [hdenied denial rfl]
      exact nofun
    exact (denied_settled hstatus).mono fun _ _ hr => hr.gateOutcome

end Govern

theorem claimAndRun_governed {spec : CapabilitySpec}
    {workspaceId payloadHash idempotencyKey : String} :
    (claimAndRun g spec req workspaceId payloadHash idempotencyKey).Meets (gateContract req)
      (gateOutcome req) .start := by
  refine keeps_tryClaim.meets_bind (fun x => ?_) (fun _ => settled_error.gateOutcome)
  obtain ⟨outcome, claim⟩ := x
  cases outcome with
  | claimed | retried => exact runClaimed_governed
  | cachedCompleted | inProgress => exact (settled_ok (by nofun)).gateOutcome

theorem checkAndRun_governed {spec : CapabilitySpec} {workspaceId : String} :
    (checkAndRun g spec req workspaceId).Meets (gateContract req) (gateOutcome req) .start := by
  refine (Prog.keeps_ofExcept _).meets_bind (fun payloadHash => ?_)
    (fun _ => settled_error.gateOutcome)
  refine (ungated rfl).meets_bind (fun readiness => ?_) (fun _ => settled_error.gateOutcome)
  dsimp only
  split_ifs
  · exact (settled_ok (by nofun)).gateOutcome
  · refine (ungated rfl).meets_bind (fun enabled => ?_) (fun _ => settled_error.gateOutcome)
    obtain ⟨isEnabled, enbError⟩ := enabled
    cases isEnabled with
    | true => exact claimAndRun_governed
    | false =>
      refine (ungated rfl).meets_bind (fun _ => ?_) (fun _ => settled_error.gateOutcome)
      refine (ungated rfl).meets_bind (fun _ => ?_) (fun _ => settled_error.gateOutcome)
      exact (settled_ok (by nofun)).gateOutcome

/-- The pipeline keeps the contract on its governance and its approval. -/
theorem executeInternal_governed (g : CapabilityGateway P) (req : GatewayCall P) :
    (executeInternal g req).Meets (gateContract req) (gateOutcome req) .start := by
  unfold executeInternal
  cases g.registry req.capabilityId with
  | none => exact (settled_ok (by nofun)).gateOutcome
  | some spec =>
    dsimp only
    cases verifyTenancy spec req with
    | error => exact (settled_ok (by nofun)).gateOutcome
    | ok =>
      dsimp only
      split_ifs
      · exact checkAndRun_governed
      · exact (settled_ok (by nofun)).gateOutcome

end

end JavisSaas.Agent.Capabilities
