import JavisSaas.Agent.Capabilities.GateRuns
import JavisSaas.Agent.Capabilities.OneEffect

/-!
# What the approval gate lets through

The handler is called only for an invocation whose observations so far allow it, or require an
approval that the store holds. Whether that was given for this request depends on the tool call
identifier alone.

* `letThrough_of_run`: the outcome accumulated for the invocation decides.
* `not_runLaw_deniedSibling`: the other tool calls of the run do not.
* `clearedByOwn_of_run`, `not_clearedByOwn_changedPayload`: whose approval clears a request.
-/

namespace JavisSaas.Agent.Capabilities

open JavisSaas.Lib JavisSaas.Agent.Governance JavisSaas.Agent.Runs
open ApprovalGateDecider (checkpointMismatch isCleared)

variable {P : Type}

/-- Whenever a call of the handler begins, its request satisfies `Pr`. -/
def AtHandlerCall (Pr : GatewayCall P → Prop) (s : GatePool P) : GateLabel P → Prop
  | .begin i => ∀ req o, s.nextAt i = some (req, o) → o.isHandlerCall = true → Pr req
  | _ => True

/-! ## The accumulated outcome -/

/-- The store holds an approved record for the tool call, and not for another checkpoint. -/
def HasApproved (s : GatePool P) (req : GatewayCall P) : Prop :=
  ∃ a ∈ s.store.repo.approvals.values, a.toolCallId = some req.toolCallId ∧
    a.status = .approved ∧ checkpointMismatch (some a) req.checkpointRef = false

/-- What was observed of the invocation allows it, or requires an approval that is there. -/
def LetThrough (s : GatePool P) (req : GatewayCall P) : Prop :=
  ∃ outcome, IsStrictest outcome (observations s.log (req.runId, req.toolCallId)) ∧
    (outcome = .allow ∨ outcome = .requireApproval ∧ HasApproved s req)

section Outcome

variable {g : CapabilityGateway P}
  {R : ApprovalView P → GatewayCall P → Option RunApprovalRecord → Prop}
  {D : ApprovalView P → GatewayCall P → Prop} {s : GatePool P} {l : GateLabel P}

theorem GateKept.strictest {s : GateStore P} {log : List (GateEntry P)} (h : GateKept s log)
    {req : GatewayCall P} {state : InvocationGovernanceState} (hstate : s.stateOf req = some state) :
    state.accumulated.outcome ≠ .nonApprovable ∧
      IsStrictest state.accumulated.outcome (observations log (req.runId, req.toolCallId)) := by
  have hkept := h.governance (req.runId, req.toolCallId)
  rw [show s.governance.get? (req.runId, req.toolCallId) = some state from hstate] at hkept
  exact hkept.2

theorem isCleared_iff {approval : Option RunApprovalRecord} {checkpointRef : String} :
    isCleared approval checkpointRef = true ↔ ∃ a, approval = some a ∧ a.status = .approved ∧
      checkpointMismatch approval checkpointRef = false := by
  cases approval with
  | none => exact iff_of_false Bool.false_ne_true (fun ⟨_, h, _⟩ => nomatch h)
  | some => simp [isCleared]

theorem letThrough_of_inv (h : GateInv g R D s) : AtHandlerCall (LetThrough s) s l := by
  cases l with
  | begin =>
    intro req o hi ho
    obtain ⟨-, φ, hfacts, hmay⟩ := h.at_handlerCall hi ho
    cases φ with
    | governed state =>
      obtain ⟨happrovable, hstrict⟩ := h.kept.strictest hfacts
      refine ⟨_, hstrict, .inl ?_⟩
      obtain ⟨hrequire, hdeny⟩ := hmay
      cases houtcome : state.accumulated.outcome with
      | allow => rfl
      | requireApproval => exact absurd houtcome hrequire
      | deny => exact absurd houtcome hdeny
      | nonApprovable => exact absurd houtcome happrovable
    | found =>
      obtain ⟨hstate, houtcome, hfound, -⟩ := hfacts
      obtain ⟨a, rfl, happroved, hmatch⟩ := isCleared_iff.mp hmay
      obtain ⟨hstored, hcall⟩ := ApprovalView.stored_of_mem_lookups h.kept.approvals hfound
      refine ⟨_, (h.kept.strictest hstate).2, .inr ⟨houtcome, a, ?_, hcall, happroved, hmatch⟩⟩
      exact Dict.mem_values.mpr ⟨a.approvalId, hstored⟩
    | _ => exact absurd hmay (by exact fun h => h)
  | _ => trivial

theorem performedIn_true :
    Workload.PerformedIn (LooksUp fun (_ : ApprovalView P) _ _ => True) s l := by
  cases l with
  | step => exact fun _ _ _ _ _ _ => trivial
  | _ => trivial

/-- The handler is called only for an invocation whose accumulated outcome lets it through. -/
theorem letThrough_of_run (g : CapabilityGateway P) (durable : Bool)
    (runs : Dict String (RunRecord P)) (ls : List (GateLabel P)) :
    (gateSystem g).Along (fun s => AtHandlerCall (LetThrough s) s) (gateIdle durable runs) ls :=
  (gateSystem g).along_of_inv (G := fun _ _ => True)
    (I := GateInv g (fun _ _ _ => True) fun _ _ => True)
    (fun _ _ _ h _ hs => h.next (fun _ _ _ _ _ _ _ _ _ _ _ _ => trivial) performedIn_true hs)
    (fun _ _ h _ => letThrough_of_inv h) (gateInv_idle durable runs) (System.along_true _)

end Outcome

/-! ### The other tool calls of the run -/

/-- What was observed of any tool call of the run. -/
def runObservations (log : List (GateEntry P)) (runId : String) : List PolicyDecision :=
  ((log.filterMap observation?).filter (·.1.1 = runId)).map (·.2)

/-- The observations of the run allow the call, or require an approval that asks for as much as
each. -/
def RunLaw (stricter : ApprovalRequirement → ApprovalRequirement → Prop) (s : GatePool P)
    (req : GatewayCall P) : Prop :=
  ∃ outcome, IsStrictest outcome (runObservations s.log req.runId) ∧
    (outcome = .allow ∨ outcome = .requireApproval ∧
      ∃ a ∈ s.store.repo.approvals.values, a.toolCallId = some req.toolCallId ∧
        a.status = .approved ∧ ∀ d ∈ runObservations s.log req.runId, ∀ r ∈ d.requirement,
          ∃ r' ∈ a.requirement, stricter r' r)

/-- The tenant's policy evaluates to `evaluation`, and the lookup finds `found`. -/
def answering (evaluation : Evaluation) (found : Option RunApprovalRecord) (hex : String) :
    (o : GatewayOp String) → Except PyException o.Ans
  | .evaluatePolicy _ _ => .ok evaluation
  | .getApprovalByToolCall _ => .ok found
  | o => calmAnswers hex o

def tenantGateway : CapabilityGateway String where
  registry := fun _ => some {}
  computePayloadHash := .ok
  hasPolicyEvaluator := true

def tenantCall (toolCallId payload : String) : GatewayCall String where
  runId := "run_1"
  capabilityId := "mail.send"
  inputPayload := payload
  checkpointRef := "ckpt_1"
  toolCallId

/-- Execution `i` is started and performs `n` operations. -/
def performs (i n : ℕ) (req : GatewayCall String)
    (answer : (o : GatewayOp String) → Except PyException o.Ans) : List (GateLabel String) :=
  .start req :: List.replicate n (.step i answer)

/-- The policy denies the first tool call of the run, and allows the second. -/
def deniedSibling : List (GateLabel String) :=
  performs 0 12 (tenantCall "call_1" "hello") (answering (.outcome .deny) none "a") ++
    performs 1 11 (tenantCall "call_2" "hi") (answering (.outcome .allow) none "b")

def deniedSiblingPool : GatePool String :=
  ((gateSystem tenantGateway).run (gateIdle false ∅) deniedSibling).get (by decide +kernel)

/-- The handler is called in a run in which another tool call was denied. -/
theorem not_runLaw_deniedSibling : ¬∃ stricter, (gateSystem tenantGateway).Along
    (fun s => AtHandlerCall (RunLaw stricter s) s) (gateIdle false ∅)
    (deniedSibling ++ [PoolLabel.begin 1]) := by
  rintro ⟨stricter, h⟩
  have hrun : (gateSystem tenantGateway).run (gateIdle false ∅) deniedSibling =
      some deniedSiblingPool := (Option.some_get _).symm
  have hbegins := (((gateSystem tenantGateway).along_append hrun).mp h).2.1
  have hnext : ∃ x ∈ deniedSiblingPool.nextAt 1, x.1.runId = "run_1" ∧
      x.2.isHandlerCall = true := by decide +kernel
  obtain ⟨⟨req, o⟩, hi, hreq, ho⟩ := hnext
  obtain ⟨outcome, hstrict, hcases⟩ := hbegins req o hi ho
  rw [show req.runId = "run_1" from hreq] at hstrict
  have hdenied : outcomeRank .deny ≤ outcomeRank outcome := by
    have hmem : ∃ d ∈ runObservations deniedSiblingPool.log "run_1", d.outcome = .deny := by
      decide +kernel
    obtain ⟨d, hd, houtcome⟩ := hmem
    exact houtcome ▸ hstrict.le d hd
  rcases hcases with rfl | ⟨rfl, -⟩
  · exact absurd hdenied (by decide)
  · exact absurd hdenied (by decide)

/-! ## The approval and the request -/

/-- The two requests are one invocation. -/
structure SameInvocation (g : CapabilityGateway P) (req₀ req : GatewayCall P) : Prop where
  runId : req₀.runId = req.runId
  checkpointRef : req₀.checkpointRef = req.checkpointRef
  capabilityId : req₀.capabilityId = req.capabilityId
  payloadHash : g.computePayloadHash req₀.inputPayload = g.computePayloadHash req.inputPayload

instance (g : CapabilityGateway P) (req₀ req : GatewayCall P) :
    Decidable (SameInvocation g req₀ req) :=
  decidable_of_iff (_ ∧ _ ∧ _ ∧ _)
    ⟨fun ⟨h₁, h₂, h₃, h₄⟩ => ⟨h₁, h₂, h₃, h₄⟩, fun ⟨h₁, h₂, h₃, h₄⟩ => ⟨h₁, h₂, h₃, h₄⟩⟩

/-- A required approval is in the store, for the call's run, tool call, checkpoint, capability and
hash. -/
def ClearedByOwn (g : CapabilityGateway P) (s : GatePool P) (req : GatewayCall P) : Prop :=
  (∃ state ∈ s.store.stateOf req, state.accumulated.outcome = .requireApproval) →
    ∃ a, s.store.repo.approvals.get? a.approvalId = some a ∧ a.status = .approved ∧
      a.runId = some req.runId ∧ a.toolCallId = some req.toolCallId ∧
      a.checkpointRef = some req.checkpointRef ∧ a.action = some req.capabilityId ∧
      ∃ req₀ ∈ requester s.store.repo s.log a.approvalId,
        g.computePayloadHash req₀.inputPayload = g.computePayloadHash req.inputPayload

/-- An approval that would clear the request was created for the same invocation. -/
def OwnApproval (g : CapabilityGateway P) (v : ApprovalView P) (req : GatewayCall P)
    (found : Option RunApprovalRecord) : Prop :=
  ∀ a ∈ found, isCleared found req.checkpointRef = true →
    ∀ req₀ ∈ v.requester a.approvalId, SameInvocation g req₀ req
deriving Decidable

/-- When an execution looks its approval up, no approval of another invocation clears it. -/
def FindsOwn (g : CapabilityGateway P) (s : GatePool P) (l : GateLabel P) : Prop :=
  Workload.PerformedIn (LooksUp (OwnApproval g)) s l
deriving Decidable

section Own

variable {g : CapabilityGateway P} {s : GatePool P} {l : GateLabel P}

theorem clearedByOwn_of_inv {D : ApprovalView P → GatewayCall P → Prop}
    (h : GateInv g (OwnApproval g) D s) : AtHandlerCall (ClearedByOwn g s) s l := by
  cases l with
  | begin =>
    intro req o hi ho
    obtain ⟨-, φ, hfacts, hmay⟩ := h.at_handlerCall hi ho
    rintro ⟨state', hstate', hrequires⟩
    cases φ with
    | governed state =>
      -- let through without an approval
      obtain rfl : state = state' := Option.some.inj (hfacts.symm.trans hstate')
      exact absurd hrequires hmay.1
    | found =>
      obtain ⟨-, -, hfound, hown⟩ := hfacts
      obtain ⟨a, rfl, happroved, -⟩ := isCleared_iff.mp hmay
      obtain ⟨hstored, hcall⟩ := ApprovalView.stored_of_mem_lookups h.kept.approvals hfound
      obtain ⟨req₀, hreq₀, hbound, -⟩ := h.kept.approvals.made a.approvalId a hstored
      have hsame := hown a rfl hmay req₀ hreq₀
      refine ⟨a, hstored, happroved, ?_, hcall, ?_, ?_, req₀, hreq₀, hsame.payloadHash⟩
      · rw [hbound.runId, hsame.runId]
      · rw [hbound.checkpointRef, hsame.checkpointRef]
      · rw [hbound.action, hsame.capabilityId]
    | _ => exact absurd hmay (by exact fun h => h)
  | _ => trivial

end Own

/-- If no execution finds the approval of another invocation, a required approval is the
invocation's own. -/
theorem clearedByOwn_of_run (g : CapabilityGateway P) (durable : Bool)
    (runs : Dict String (RunRecord P)) (ls : List (GateLabel P))
    (h : (gateSystem g).Along (FindsOwn g) (gateIdle durable runs) ls) :
    (gateSystem g).Along (fun s => AtHandlerCall (ClearedByOwn g s) s)
      (gateIdle durable runs) ls :=
  (gateSystem g).along_of_inv (I := GateInv g (OwnApproval g) fun _ _ => True)
    (fun _ _ _ h hown hs => h.next (fun _ _ _ _ _ _ _ _ _ _ _ _ => trivial) hown hs)
    (fun _ _ h _ => clearedByOwn_of_inv h) (gateInv_idle durable runs) h

/-- `run_1` is there. -/
def mailRuns : Dict String (RunRecord String) :=
  (∅ : Dict String (RunRecord String)).set "run_1" { runId := "run_1", workspaceId := some "ws" }

/-- The policy requires an approval of the mail, which is given. -/
def approvedMail : List (GateLabel String) :=
  performs 0 14 (tenantCall "call_1" "hello") (answering (.outcome .requireApproval) none "a") ++
    [PoolLabel.act { approvalId := "appr_run_1_call_1", reviewer := "founder", approved := true }]

def approvedMailPool : GatePool String :=
  ((gateSystem tenantGateway).run (gateIdle true mailRuns) approvedMail).get (by decide +kernel)

/-- The approval that the next lookup finds. -/
def mailApproved : Option RunApprovalRecord :=
  approvedMailPool.store.repo.getApprovalByToolCall "call_1" 0

/-- The same tool call is executed again, up to the handler. -/
def resumedMail (payload hex : String) : List (GateLabel String) :=
  approvedMail ++ performs 1 12 (tenantCall "call_1" payload)
    (answering (.outcome .requireApproval) mailApproved hex) ++ [PoolLabel.begin 1]

/-- The approved mail is sent. -/
theorem clearedByOwn_resumedMail :
    ((gateSystem tenantGateway).run (gateIdle true mailRuns) (resumedMail "hello" "b")).isSome ∧
      (gateSystem tenantGateway).Along
        (fun s => AtHandlerCall (ClearedByOwn tenantGateway s) s) (gateIdle true mailRuns)
        (resumedMail "hello" "b") :=
  ⟨by decide +kernel, clearedByOwn_of_run tenantGateway true mailRuns _ (by decide +kernel)⟩

/-- Another payload under the same tool call, before the handler is called. -/
def changedPayload : List (GateLabel String) := (resumedMail "pay 9000" "b").dropLast

def changedPayloadPool : GatePool String :=
  ((gateSystem tenantGateway).run (gateIdle true mailRuns) changedPayload).get (by decide +kernel)

/-- The approval of one payload lets another one be sent under the same tool call. -/
theorem not_clearedByOwn_changedPayload : ¬(gateSystem tenantGateway).Along
    (fun s => AtHandlerCall (ClearedByOwn tenantGateway s) s) (gateIdle true mailRuns)
    (changedPayload ++ [PoolLabel.begin 1]) := by
  intro h
  have hrun : (gateSystem tenantGateway).run (gateIdle true mailRuns) changedPayload =
      some changedPayloadPool := (Option.some_get _).symm
  have hbegins := (((gateSystem tenantGateway).along_append hrun).mp h).2.1
  have hnext : ∃ x ∈ changedPayloadPool.nextAt 1, x.1.inputPayload = "pay 9000" ∧
      x.2.isHandlerCall = true ∧ ∃ state ∈ changedPayloadPool.store.stateOf x.1,
        state.accumulated.outcome = .requireApproval := by decide +kernel
  obtain ⟨⟨req, o⟩, hi, hpayload, ho, hrequires⟩ := hnext
  obtain ⟨a, hstored, -, -, -, -, -, req₀, hreq₀, hhash⟩ := hbegins req o hi ho hrequires
  have hothers : ∀ a ∈ changedPayloadPool.store.repo.approvals.values,
      ∀ req₀ ∈ requester changedPayloadPool.store.repo changedPayloadPool.log a.approvalId,
        tenantGateway.computePayloadHash req₀.inputPayload ≠
          tenantGateway.computePayloadHash "pay 9000" := by decide +kernel
  refine hothers a (Dict.mem_values.mpr ⟨_, hstored⟩) req₀ hreq₀ ?_
  rw [hhash, show req.inputPayload = "pay 9000" from hpayload]

end JavisSaas.Agent.Capabilities
