import JavisSaas.Agent.Capabilities.Stages

/-!
# How an execution treats its idempotency claim

The phases of an execution, and its contract: it calls the handler only while it holds the claim,
records the result it got, and gives the claim up at most once. This counts on one thing: once the
handler has returned, nothing that the execution still does raises.

* `executeInternal_meets`: the pipeline keeps the contract, and returns a recorded result.
-/

namespace JavisSaas.Agent.Capabilities

open JavisSaas.Lib JavisSaas.Agent.Governance JavisSaas.Agent.Runs
open Prog (keeps_pure meets_bind meets_ofExcept meets_perform meets_tryCatch perform)

variable {P : Type}

/-! ## Phases -/

inductive ClaimPhase (P : Type) where
  /-- nothing asked yet, or the claim could not be asked for -/
  | start
  /-- found a failed claim, will try to set it running again -/
  | retrying (claimId : String)
  /-- somebody else retried first, will ask again -/
  | refreshing
  /-- holds the claim, has not called the handler -/
  | granted (claimId : String)
  /-- the handler returned -/
  | succeeded (claimId : String) (output : P)
  /-- the handler raised -/
  | failing (claimId : String)
  /-- recorded the result -/
  | recorded (claimId : String) (output : P)
  /-- gave the claim up -/
  | released
  /-- found a completed claim -/
  | cached (record : IdempotencyClaimRecord P)
  /-- found the claim held by another -/
  | turnedAway

namespace ClaimPhase

/-- The claim that an execution has an interest in. -/
def claimId? : ClaimPhase P → Option String
  | retrying claimId => some claimId
  | granted claimId => some claimId
  | succeeded claimId _ => some claimId
  | failing claimId => some claimId
  | _ => none

/-- The execution holds its claim. -/
def owns : ClaimPhase P → Bool
  | granted _ => true
  | succeeded _ _ => true
  | failing _ => true
  | _ => false

/-- The execution was given the claim at some time. -/
def isPastGrant : ClaimPhase P → Bool
  | granted _ => true
  | succeeded _ _ => true
  | failing _ => true
  | recorded _ _ => true
  | released => true
  | _ => false

/-- The phase after a claim was found that this very invocation holds, or another. -/
def resume (claim record : IdempotencyClaimRecord P) : ClaimPhase P :=
  if record.runId = claim.runId ∧ record.toolCallId = claim.toolCallId then .granted record.claimId
  else .turnedAway

/-- The phase after the claim of another execution was found. -/
def found (claim record : IdempotencyClaimRecord P) : ClaimPhase P :=
  match record.status with
  | .completed => cached record
  | .failed => retrying record.claimId
  | .running => resume claim record

def afterClaim (claim : IdempotencyClaimRecord P) :
    ClaimPhase P → Except PyException (Bool × IdempotencyClaimRecord P) → ClaimPhase P
  | start, .ok (true, record) => granted record.claimId
  | start, .ok (false, record) => found claim record
  | refreshing, .ok (_, record) => resume claim record
  | φ, _ => φ

def afterRetry :
    ClaimPhase P → Except PyException (Option (IdempotencyClaimRecord P)) → ClaimPhase P
  | retrying _, .ok (some record) => granted record.claimId
  | retrying _, .ok none => refreshing
  | φ, _ => φ

def afterComplete :
    ClaimPhase P → Except PyException (Option (IdempotencyClaimRecord P)) → ClaimPhase P
  | succeeded claimId output, .ok _ => recorded claimId output
  | φ, _ => φ

def afterFail :
    ClaimPhase P → Except PyException (Option (IdempotencyClaimRecord P)) → ClaimPhase P
  | granted _, .ok _ => released
  | failing _, .ok _ => released
  | φ, _ => φ

def afterHandler : ClaimPhase P → Except PyException P → ClaimPhase P
  | granted claimId, .ok output => succeeded claimId output
  | granted claimId, .error _ => failing claimId
  | φ, _ => φ

def after (φ : ClaimPhase P) : (o : GatewayOp P) → Except PyException o.Ans → ClaimPhase P
  | .claimIdempotency claim, r => φ.afterClaim claim r
  | .retryIdempotencyClaim _, r => φ.afterRetry r
  | .completeIdempotencyClaim _ _ _, r => φ.afterComplete r
  | .failIdempotencyClaim _ _, r => φ.afterFail r
  | .callHandler _ _, r => φ.afterHandler r
  | _, _ => φ

end ClaimPhase

/-! ## The contract -/

/-- The key of the claim that an execution asks for. -/
def executionKey (g : CapabilityGateway P) (req : GatewayCall P) : Option ClaimKey :=
  match g.computePayloadHash req.inputPayload with
  | .error _ => none
  | .ok payloadHash =>
    some ⟨"RUN", req.runId, req.capabilityId, idempotencyKeyOf req payloadHash⟩

/-- What an execution may do in a phase. -/
def claimAllowed (g : CapabilityGateway P) (req : GatewayCall P) (φ : ClaimPhase P) :
    GatewayOp P → Prop
  | .claimIdempotency claim =>
    executionKey g req = some claim.key ∧ claim.status = .running ∧ (φ = .start ∨ φ = .refreshing)
  | .retryIdempotencyClaim claimId => (executionKey g req).isSome ∧ φ = .retrying claimId
  | .completeIdempotencyClaim claimId output _ =>
    (executionKey g req).isSome ∧ φ = .succeeded claimId output
  | .failIdempotencyClaim claimId _ =>
    (executionKey g req).isSome ∧ (φ = .granted claimId ∨ φ = .failing claimId)
  | .callHandler _ _ => (executionKey g req).isSome ∧ ∃ claimId, φ = .granted claimId
  | _ => True

/-- The handler returned, and the execution is not finished with it. -/
def ClaimPhase.afterSuccess : ClaimPhase P → Bool
  | .succeeded _ _ => true
  | .recorded _ _ => true
  | _ => false

/-- The output of a handler has a hash, and once the handler has returned nothing raises. -/
def goesOn (g : CapabilityGateway P) (φ : ClaimPhase P) :
    (o : GatewayOp P) → Except PyException o.Ans → Bool
  | .callHandler _ _, .ok output => (g.computePayloadHash output).isOk
  | .callHandler _ _, .error _ => true
  | _, r => !φ.afterSuccess || r.isOk

def claimContract (g : CapabilityGateway P) (req : GatewayCall P) :
    Contract (GatewayOp P) GatewayOp.Ans PyException (ClaimPhase P) where
  allowed := claimAllowed g req
  assumed φ o r := goesOn g φ o r = true
  after := ClaimPhase.after

instance (g : CapabilityGateway P) (req : GatewayCall P) (φ : ClaimPhase P) (o : GatewayOp P)
    (r : Except PyException o.Ans) : Decidable ((claimContract g req).assumed φ o r) :=
  inferInstanceAs (Decidable (goesOn g φ o r = true))

/-- What an execution answers when it did not get the claim. -/
def claimOutcome (req : GatewayCall P) : ClaimPhase P →
    Except PyException (GatewayExecutionResult P) → Prop
  | .cached record, .ok result => result = {
      toolCallId := req.toolCallId, status := .completed
      outputPayload := record.resultPayload, cachedIdempotency := true }
  | .turnedAway, .ok result => result.status = .inProgress
  | _, _ => True

theorem claimOutcome_of_isPastGrant {req : GatewayCall P} {φ : ClaimPhase P}
    (h : φ.isPastGrant) (r : Except PyException (GatewayExecutionResult P)) :
    claimOutcome req φ r := by
  cases φ <;> trivial

/-! ## Operations that have nothing to do with the claim -/

/-- The operations on claims and the handler call. -/
def GatewayOp.touchesClaim : GatewayOp P → Bool
  | claimIdempotency _ => true
  | completeIdempotencyClaim _ _ _ => true
  | failIdempotencyClaim _ _ => true
  | retryIdempotencyClaim _ => true
  | callHandler _ _ => true
  | _ => false

section

variable {g : CapabilityGateway P} {req : GatewayCall P} {φ : ClaimPhase P}

theorem ClaimPhase.after_of_not_touchesClaim {o : GatewayOp P} (h : o.touchesClaim = false)
    (r : Except PyException o.Ans) : φ.after o r = φ := by
  cases o <;> first | rfl | nomatch h

theorem silent_of_not_touchesClaim {o : GatewayOp P} (h : o.touchesClaim = false) :
    Prog.Silent (claimContract g req) φ o where
  allowed := by cases o <;> trivial
  after r _ := ClaimPhase.after_of_not_touchesClaim h r

theorem silent_of_isPlain (o : GatewayOp P) (h : o.isPlain = true) :
    Prog.Silent (claimContract g req) φ o :=
  silent_of_not_touchesClaim (by cases o <;> first | rfl | nomatch h)

theorem keeps_of_not_touchesClaim {o : GatewayOp P} (h : o.touchesClaim = false) :
    Prog.Keeps (claimContract g req) φ (perform o) :=
  (silent_of_not_touchesClaim h).keeps

/-! ## The stages keep the contract -/

/-- What `tryClaim` tells its caller about the claim. -/
def claimVerdict : ClaimPhase P →
    Except PyException (IdempotencyOutcome × IdempotencyClaimRecord P) → Prop
  | φ, .ok (.claimed, record) => φ = .granted record.claimId
  | φ, .ok (.retried, record) => φ = .granted record.claimId
  | φ, .ok (.cachedCompleted, record) => φ = .cached record
  | φ, .ok (.inProgress, _) => φ = .turnedAway
  | _, .error _ => True

theorem claimVerdict_resume (claim record : IdempotencyClaimRecord P) :
    claimVerdict (.resume claim record) (.ok (resumeClaim claim record)) := by
  unfold ClaimPhase.resume resumeClaim
  split_ifs <;> rfl

theorem resolveExisting_meets {claim record : IdempotencyClaimRecord P}
    (hkey : executionKey g req = some claim.key) (hrun : claim.status = .running) :
    (resolveExisting claim record).Meets (claimContract g req) claimVerdict
      (.found claim record) := by
  unfold resolveExisting ClaimPhase.found
  cases record.status with
  | completed => exact rfl
  | running => exact claimVerdict_resume claim record
  | failed =>
    have hsome : (executionKey g req).isSome := by rw [hkey]; rfl
    refine meets_bind.mpr (meets_perform.mpr ⟨⟨hsome, rfl⟩, fun r _ => ?_⟩)
    match r with
    | .error _ => exact trivial
    | .ok (some retried) => exact rfl
    | .ok none =>
      refine meets_bind.mpr (meets_perform.mpr ⟨?_, fun r _ => ?_⟩)
      · exact ⟨hkey, hrun, Or.inr rfl⟩
      · match r with
        | .error _ => exact trivial
        | .ok (_, refreshed) => exact claimVerdict_resume claim refreshed

theorem tryClaim_meets {payloadHash : String}
    (hhash : g.computePayloadHash req.inputPayload = .ok payloadHash) :
    (tryClaim req.runId req.toolCallId req.capabilityId (idempotencyKeyOf req payloadHash)
      payloadHash).Meets (claimContract g req) claimVerdict .start := by
  refine (keeps_of_not_touchesClaim rfl).meets_bind (fun hex => ?_) (fun _ => trivial)
  have hkey : executionKey g req = some (newClaim (P := P) hex req.runId req.toolCallId
      req.capabilityId (idempotencyKeyOf req payloadHash) payloadHash).key := by
    rw [executionKey, hhash]; rfl
  refine meets_bind.mpr (meets_perform.mpr ⟨?_, fun r _ => ?_⟩)
  · exact ⟨hkey, rfl, Or.inl rfl⟩
  · match r with
    | .error _ => exact trivial
    | .ok (true, record) => exact rfl
    | .ok (false, record) => exact resolveExisting_meets hkey rfl

/-- From a phase in which the execution was given the claim, it stays in such phases. -/
def PastGrant (φ : ClaimPhase P) {α : Type} (_ : Except PyException α) : Prop := φ.isPastGrant

theorem keeps_awaitApproval {payloadHash : String} {currentDecision : PolicyDecision}
    {approval : Option RunApprovalRecord} : Prog.Keeps (claimContract g req) φ
      (ApprovalGateDecider.awaitApproval req payloadHash currentDecision approval) := by
  have hcreate : Prog.Keeps (claimContract g req) φ (do
      let _ ← Await.createApproval (ApprovalGateDecider.newApproval req payloadHash currentDecision)
      Await.appendEvent {
        runId := req.runId, eventType := "approval.required"
        payload := [("approval_id", .str
          (ApprovalGateDecider.newApproval req payloadHash currentDecision).approvalId),
          ("tool_call_id", .str req.toolCallId)] }
      pure (ApprovalVerdict.wait (ApprovalGateDecider.waitResult req
        (ApprovalGateDecider.newApproval req payloadHash currentDecision).approvalId))) :=
    (keeps_of_not_touchesClaim rfl).bind fun _ =>
      (keeps_of_not_touchesClaim rfl).bind fun _ => keeps_pure _
  unfold ApprovalGateDecider.awaitApproval
  cases approval with
  | none => exact hcreate
  | some =>
    dsimp only
    split_ifs
    · exact hcreate
    · exact keeps_pure _

theorem keeps_decide {payloadHash : String} {effectiveOutcome : PolicyOutcome}
    {currentDecision : PolicyDecision} : Prog.Keeps (claimContract g req) φ
      (ApprovalGateDecider.decide req payloadHash effectiveOutcome currentDecision) := by
  unfold ApprovalGateDecider.decide
  cases effectiveOutcome with
  | requireApproval =>
    refine (keeps_of_not_touchesClaim rfl).bind fun approval => ?_
    split_ifs
    · exact keeps_pure _
    · exact keeps_awaitApproval
  | allow | deny | nonApprovable => exact keeps_pure _

section PastGrant

variable {spec : CapabilitySpec} {tc : RunToolCallRecord P} {claimId : String}
variable (hsome : (executionKey g req).isSome)

include hsome

variable {tc : RunToolCallRecord P}

theorem releaseDenied_meets {claimId failMessage : String}
    {errorMessage : Option String} {event : Option RunEventRecord} :
    (releaseDenied tc claimId errorMessage failMessage event).Meets (claimContract g req)
      (fun φ r => PastGrant φ r) (.granted claimId) := by
  refine (keeps_of_not_touchesClaim rfl).meets_bind (fun _ => ?_) (fun _ => rfl)
  refine meets_bind.mpr (meets_perform.mpr ⟨⟨hsome, Or.inl rfl⟩, fun r _ => ?_⟩)
  match r with
  | .error _ => exact rfl
  | .ok _ =>
    cases event with
    | none => exact rfl
    | some => exact (keeps_of_not_touchesClaim rfl).meets fun _ => rfl

variable {govState : InvocationGovernanceState}

theorem callAndRecord_meets {claimId : String} :
    (callAndRecord g req tc claimId govState).Meets (claimContract g req)
      (fun φ r => φ.isPastGrant ∧ ∀ e, r = .error e → φ = .failing claimId) (.granted claimId) := by
  refine meets_bind.mpr (meets_perform.mpr ⟨⟨hsome, claimId, rfl⟩, fun r hr => ?_⟩)
  match r with
  | .error e => exact ⟨rfl, fun _ _ => rfl⟩
  | .ok output =>
    obtain ⟨resultHash, hhash⟩ : ∃ h, g.computePayloadHash output = .ok h := by
      have hok : (g.computePayloadHash output).isOk = true := hr
      cases h : g.computePayloadHash output with
      | error => rw [h] at hok; nomatch hok
      | ok resultHash => exact ⟨resultHash, rfl⟩
    refine meets_bind.mpr (meets_perform.mpr ⟨trivial, fun r hr => ?_⟩)
    cases r with
    | error => nomatch (show false = true from hr)
    | ok u =>
      refine meets_bind.mpr (meets_ofExcept.mpr ?_)
      rw [hhash]
      refine meets_bind.mpr (meets_perform.mpr ⟨⟨hsome, rfl⟩, fun r hr => ?_⟩)
      cases r with
      | error => nomatch (show false = true from hr)
      | ok =>
        refine meets_bind.mpr (meets_perform.mpr ⟨trivial, fun r hr => ?_⟩)
        cases r with
        | error => nomatch (show false = true from hr)
        | ok => exact ⟨rfl, fun _ h => nomatch h⟩

theorem recordFailure_meets {claimId : String} {exc : PyException} :
    (recordFailure req tc claimId exc).Meets (claimContract g req)
      (fun φ r => PastGrant φ r) (.failing claimId) := by
  refine (keeps_of_not_touchesClaim rfl).meets_bind (fun _ => ?_) (fun _ => rfl)
  refine meets_bind.mpr (meets_perform.mpr ⟨⟨hsome, Or.inr rfl⟩, fun r _ => ?_⟩)
  match r with
  | .error _ => exact rfl
  | .ok _ =>
    exact (keeps_of_not_touchesClaim rfl).meets_bind (fun _ => rfl) (fun _ => rfl)

theorem executeHandler_meets {claimId : String} :
    (executeHandler g req tc claimId govState).Meets (claimContract g req)
      (fun φ r => PastGrant φ r) (.granted claimId) := by
  refine (keeps_of_not_touchesClaim rfl).meets_bind (fun _ => ?_) (fun _ => rfl)
  refine meets_tryCatch.mpr ((callAndRecord_meets hsome).mono fun φ r hr => ?_)
  cases r with
  | ok => exact hr.1
  | error e => exact hr.2 e rfl ▸ recordFailure_meets hsome

theorem releaseDenied_bind_meets {failMessage : String} {errorMessage : Option String}
    {event : Option RunEventRecord} {result : GatewayExecutionResult P} :
    (releaseDenied tc claimId errorMessage failMessage event >>= fun _ => pure result).Meets
      (claimContract g req) (fun φ r => PastGrant φ r) (.granted claimId) :=
  (releaseDenied_meets hsome).bind (fun _ _ h => h) (fun _ _ h => h)

theorem recheckAndExecute_meets :
    (recheckAndExecute g spec req tc claimId govState).Meets (claimContract g req)
      (fun φ r => PastGrant φ r) (.granted claimId) := by
  unfold recheckAndExecute
  cases verifyAmbientGovernance req.context with
  | some => exact releaseDenied_bind_meets hsome
  | none =>
    refine (keeps_checkTicket silent_of_isPlain).meets_bind (fun denied => ?_) (fun _ => rfl)
    cases denied with
    | some => exact releaseDenied_bind_meets hsome
    | none => exact executeHandler_meets hsome

theorem executeApproved_meets :
    (executeApproved g spec req tc claimId govState).Meets (claimContract g req)
      (fun φ r => PastGrant φ r) (.granted claimId) := by
  refine (keeps_resolveAndVerify silent_of_isPlain).meets_bind (fun resolution => ?_) (fun _ => rfl)
  cases resolution with
  | allowed => exact recheckAndExecute_meets hsome
  | resolverError | denied => exact releaseDenied_bind_meets hsome

theorem governAndExecute_meets {currentDecision : PolicyDecision} :
    (governAndExecute g spec req tc claimId currentDecision).Meets (claimContract g req)
      (fun φ r => PastGrant φ r) (.granted claimId) := by
  refine (keeps_of_not_touchesClaim rfl).meets_bind (fun existing => ?_) (fun _ => rfl)
  refine (keeps_of_not_touchesClaim rfl).meets_bind (fun _ => ?_) (fun _ => rfl)
  refine keeps_decide.meets_bind (fun verdict => ?_) (fun _ => rfl)
  cases verdict with
  | execute => exact executeApproved_meets hsome
  | deny => exact releaseDenied_bind_meets hsome
  | wait =>
    exact (keeps_of_not_touchesClaim rfl).meets_bind (fun _ => rfl) (fun _ => rfl)

theorem runClaimed_meets {workspaceId : String} :
    (runClaimed g spec req workspaceId tc claimId).Meets (claimContract g req)
      (fun φ r => PastGrant φ r) (.granted claimId) := by
  refine (keeps_of_not_touchesClaim rfl).meets_bind (fun _ => ?_) (fun _ => rfl)
  refine (keeps_of_not_touchesClaim rfl).meets_bind (fun _ => ?_) (fun _ => rfl)
  refine (keeps_evaluateTenant silent_of_isPlain).meets_bind (fun tenantEvalRes => ?_) (fun _ => rfl)
  refine (keeps_of_not_touchesClaim rfl).meets_bind (fun _ => ?_) (fun _ => rfl)
  refine (keeps_audit silent_of_isPlain).meets_bind (fun suspended => ?_) (fun _ => rfl)
  cases suspended with
  | none => exact governAndExecute_meets hsome
  | some => exact releaseDenied_bind_meets hsome

end PastGrant

theorem claimAndRun_meets {spec : CapabilitySpec} {workspaceId payloadHash : String}
    (hhash : g.computePayloadHash req.inputPayload = .ok payloadHash) :
    (claimAndRun g spec req workspaceId payloadHash (idempotencyKeyOf req payloadHash)).Meets
      (claimContract g req) (claimOutcome req) .start := by
  have hsome : (executionKey g req).isSome := by rw [executionKey, hhash]; rfl
  refine (tryClaim_meets hhash).bind (fun φ verdict h => ?_) (fun φ e _ => ?_)
  · obtain ⟨outcome, claim⟩ := verdict
    cases outcome with
    | claimed | retried =>
      rw [show φ = .granted claim.claimId from h]
      exact (runClaimed_meets hsome).mono fun φ r hr => claimOutcome_of_isPastGrant hr r
    | cachedCompleted =>
      rw [show φ = .cached claim from h]
      exact rfl
    | inProgress =>
      rw [show φ = .turnedAway from h]
      exact rfl
  · cases φ <;> trivial

theorem executeInternal_meets (g : CapabilityGateway P) (req : GatewayCall P) :
    (executeInternal g req).Meets (claimContract g req) (claimOutcome req) .start := by
  unfold executeInternal
  cases g.registry req.capabilityId with
  | none => trivial
  | some spec =>
    dsimp only
    cases verifyTenancy spec req with
    | error => trivial
    | ok =>
      dsimp only
      split_ifs
      · refine meets_bind.mpr (meets_ofExcept.mpr ?_)
        cases hhash : g.computePayloadHash req.inputPayload with
        | error => trivial
        | ok =>
          refine (keeps_of_not_touchesClaim rfl).meets_bind (fun readiness => ?_) (fun _ => trivial)
          dsimp only
          split_ifs
          · trivial
          · refine (keeps_of_not_touchesClaim rfl).meets_bind (fun enabled => ?_) (fun _ => trivial)
            obtain ⟨isEnabled, enbError⟩ := enabled
            cases isEnabled with
            | true => exact claimAndRun_meets hhash
            | false =>
              refine (keeps_of_not_touchesClaim rfl).meets_bind (fun _ => ?_) (fun _ => trivial)
              exact (keeps_of_not_touchesClaim rfl).meets_bind (fun _ => trivial) (fun _ => trivial)
      · trivial

end

end JavisSaas.Agent.Capabilities
