import JavisSaas.Agent.Capabilities.Gateway

/-!
# Stages of the pipeline that neither claims nor approvals depend on

Under any contract for which the plain operations are silent, the policy
evaluation, the compliance audit, the connector grant and the authorization
ticket leave the phase alone.
-/

namespace JavisSaas.Agent.Capabilities

open JavisSaas.Lib JavisSaas.Agent.Governance JavisSaas.Agent.Runs

variable {P : Type}

/-- Operations on neither claims, governance states nor approvals, the handler call apart. -/
def GatewayOp.isPlain : GatewayOp P → Bool
  | claimIdempotency _ => false
  | completeIdempotencyClaim _ _ _ => false
  | failIdempotencyClaim _ _ => false
  | retryIdempotencyClaim _ => false
  | loadGovernanceState _ _ => false
  | saveGovernanceState _ _ => false
  | getApprovalByToolCall _ => false
  | createApproval _ => false
  | callHandler _ _ => false
  | _ => true

/-- The result that a resolution refuses the execution with. -/
def ConnectorGrantResolution.refusal? :
    ConnectorGrantResolution P → Option (GatewayExecutionResult P)
  | allowed _ => none
  | resolverError _ result => some result
  | denied _ result => some result

variable {Φ : Type} {C : Contract (GatewayOp P) GatewayOp.Ans PyException Φ} {φ : Φ}
variable (hC : ∀ o : GatewayOp P, o.isPlain = true → Prog.Silent C φ o)
variable {g : CapabilityGateway P} {req : GatewayCall P}

include hC

theorem keeps_evaluateTenant : Prog.Keeps C φ (evaluateTenant g req) := by
  unfold evaluateTenant
  split_ifs
  · exact (hC _ rfl).keeps
  · exact Prog.keeps_pure _

/-- The audit leaves the phase alone, and what it refuses is denied. -/
theorem audit_meets {workspaceId : String} {currentDecision : PolicyDecision} :
    (audit req workspaceId currentDecision).Meets C
      (fun φ' r => φ' = φ ∧ ∀ denial, r = .ok (some denial) → denial.1.status = .denied) φ := by
  unfold audit
  cases req.context.complianceSnapshot with
  | none => exact Prog.meets_pure.mpr ⟨rfl, fun _ h => nomatch Except.ok.inj h⟩
  | some =>
    dsimp only
    split_ifs
    · refine Prog.meets_pure.mpr ⟨rfl, fun denial h => ?_⟩
      rw [← Option.some.inj (Except.ok.inj h)]
    · exact ((hC _ rfl).keeps).meets_bind (fun _ => Prog.meets_pure.mpr
        ⟨rfl, fun _ h => nomatch Except.ok.inj h⟩) (fun _ => ⟨rfl, fun _ h => nomatch h⟩)

theorem keeps_audit {workspaceId : String} {currentDecision : PolicyDecision} :
    Prog.Keeps C φ (audit req workspaceId currentDecision) :=
  (audit_meets hC).mono fun _ _ h => h.1

/-- The check of the connector grant leaves the phase alone, and what it refuses is denied. -/
theorem resolveAndVerify_meets {connectorId : Option String} :
    (resolveAndVerify g connectorId req).Meets C
      (fun φ' r => φ' = φ ∧ ∀ resolution result, r = .ok resolution →
        resolution.refusal? = some result → result.status = .denied) φ := by
  have hrefused : ∀ (resolution : ConnectorGrantResolution P) (result : GatewayExecutionResult P),
      resolution.refusal? = some result → result.status = .denied →
      (pure resolution : GatewayProg P (ConnectorGrantResolution P)).Meets C
        (fun φ' r => φ' = φ ∧ ∀ resolution result, r = .ok resolution →
          resolution.refusal? = some result → result.status = .denied) φ := by
    intro resolution result hresult hstatus
    refine Prog.meets_pure.mpr ⟨rfl, fun resolution' result' h h' => ?_⟩
    rw [← Except.ok.inj h, hresult] at h'
    rw [← Option.some.inj h', hstatus]
  have hallowed : ∀ grant, (pure (.allowed grant) : GatewayProg P (ConnectorGrantResolution P)).Meets
      C (fun φ' r => φ' = φ ∧ ∀ resolution result, r = .ok resolution →
        resolution.refusal? = some result → result.status = .denied) φ := by
    intro grant
    refine Prog.meets_pure.mpr ⟨rfl, fun resolution' result' h h' => ?_⟩
    rw [← Except.ok.inj h] at h'
    nomatch h'
  unfold resolveAndVerify
  split_ifs
  · exact hallowed _
  · refine ((hC _ rfl).keeps).attempt.meets_bind (fun r => ?_)
      (fun _ => ⟨rfl, fun _ _ h => nomatch h⟩)
    match r with
    | .error (.connectorGrantDenied _) => exact hrefused _ _ rfl rfl
    | .error (.tenancyUnresolved _) => exact hrefused _ _ rfl rfl
    | .error (.other _) => exact hrefused _ _ rfl rfl
    | .ok grant =>
      refine ((hC _ rfl).keeps).meets_bind (fun verification => ?_)
        (fun _ => ⟨rfl, fun _ _ h => nomatch h⟩)
      split_ifs
      · exact hallowed _
      · exact hrefused _ _ rfl rfl

theorem keeps_resolveAndVerify {connectorId : Option String} :
    Prog.Keeps C φ (resolveAndVerify g connectorId req) :=
  (resolveAndVerify_meets hC).mono fun _ _ h => h.1

theorem keeps_checkTicket {spec : CapabilitySpec} :
    Prog.Keeps C φ (checkTicket g spec req) := by
  unfold checkTicket
  cases g.liveAuthorizer with
  | none => exact Prog.keeps_pure _
  | some =>
    dsimp only
    split_ifs
    · exact Prog.keeps_pure _
    · refine ((hC _ rfl).keeps).bind fun authRes => ?_
      split_ifs <;> exact Prog.keeps_pure _

end JavisSaas.Agent.Capabilities
