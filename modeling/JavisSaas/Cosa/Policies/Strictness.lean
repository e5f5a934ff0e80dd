import JavisSaas.Cosa.Policies.PolicyEngine

/-!
# How strict the policy engine is

The outcome of `evaluate` should be at least as strict as the answer of every source. But the
business rules are asked before the tenant's rule, and their `REQUIRE_APPROVAL` ends the evaluation.

* `decided_of_evaluate`: which source decides a call, and what the ones before it answered.
* `isStrict_iff_not_denialShadowed`: the outcome is as strict as every answer exactly if no denial
  of the tenant stands behind an approval that the business rules require.
-/

namespace JavisSaas.Cosa.Policies

open JavisSaas.Lib
open JavisSaas.Agent.Governance (PolicyOutcome PolicyDecision outcomeRank)

/-! ## The answers of the sources -/

/-- The governing sources of a call. -/
inductive Source
  | readOnlyRun
  | status
  | emergencyLock
  | statutoryFloor
  | agentGrant
  | businessRules
  | tenantRule
  | requiredApprovals
  deriving DecidableEq

/-- The sources that are asked before the business rules. -/
def Source.early : List Source :=
  [.readOnlyRun, .status, .emergencyLock, .statutoryFloor, .agentGrant]

/-- A gate that lets the call pass allows it. -/
def gateAnswer (gate : Option PolicyDecision) : PolicyOutcome :=
  (gate.map (·.outcome)).getD .allow

@[simp] theorem gateAnswer_none : gateAnswer none = .allow := rfl

@[simp] theorem gateAnswer_some (d : PolicyDecision) : gateAnswer (some d) = d.outcome := rfl

/-- The decision that a tenant's rule states; other texts than the two say nothing. -/
def TenantPolicyRule.outcome (r : TenantPolicyRule) : PolicyOutcome :=
  if r.decision = "DENY" then .deny
  else if r.decision = "REQUIRE_APPROVAL" then .requireApproval
  else .allow

section

variable {V : Type} [PayloadValue V]

/-- What does not apply, or raises, restricts nothing: it counts as an `ALLOW`. -/
def Source.answer (capabilityId : String) (payload : PyDict V) (ctx : PolicyContext V)
    (source : Source) : PolicyOutcome :=
  let snapshot := ctx.policySnapshot.toOption.join
  match source with
  | .readOnlyRun => gateAnswer (readOnlyGate capabilityId ctx)
  | .status => gateAnswer ((statusGate snapshot).or (ambientGate snapshot ctx))
  | .emergencyLock => gateAnswer (lockGate ctx)
  | .statutoryFloor => gateAnswer (floorGate capabilityId ctx)
  | .agentGrant =>
    match checkGrant capabilityId payload snapshot with
    | .ok grant => gateAnswer (grantGate grant)
    | .error _ => .allow
  | .businessRules =>
    match checkGrant capabilityId payload snapshot with
    | .ok grant =>
      match businessEffect snapshot (grant.action capabilityId) with
      | .ok (some (effect, _)) => effect
      | _ => .allow
    | .error _ => .allow
  | .tenantRule => ((matchedRule capabilityId snapshot).map (·.outcome)).getD .allow
  | .requiredApprovals =>
    if capabilityId ∈ ctx.requireApprovalCapabilities then .requireApproval else .allow

/-- The decision is at least as strict as the answer of every source. -/
def IsStrict (capabilityId : String) (payload : PyDict V) (ctx : PolicyContext V)
    (decision : PolicyDecision) : Prop :=
  ∀ source : Source,
    outcomeRank (source.answer capabilityId payload ctx) ≤ outcomeRank decision.outcome

/-- The business rules require an approval of what the tenant, and none before, denies. -/
def DenialShadowed (capabilityId : String) (payload : PyDict V) (ctx : PolicyContext V) : Prop :=
  (∀ source ∈ Source.early, source.answer capabilityId payload ctx ≠ .deny) ∧
    Source.businessRules.answer capabilityId payload ctx = .requireApproval ∧
    Source.tenantRule.answer capabilityId payload ctx = .deny
deriving Decidable

/-! ## One lemma for each source -/

section Gates

variable {capabilityId : String} {payload : PyDict V} {ctx : PolicyContext V}
  {snapshot : Option (PolicySnapshot V)} {d : PolicyDecision}

omit [PayloadValue V] in
theorem outcome_readOnlyGate (h : readOnlyGate capabilityId ctx = some d) : d.outcome = .deny := by
  unfold readOnlyGate at h
  split_ifs at h
  exact Option.some.inj h ▸ rfl

omit [PayloadValue V] in
theorem outcome_statusGate (h : statusGate snapshot = some d) : d.outcome = .deny := by
  unfold statusGate at h
  split at h
  · nomatch h
  · split_ifs at h <;> exact Option.some.inj h ▸ rfl

omit [PayloadValue V] in
theorem outcome_lockGate (h : lockGate ctx = some d) : d.outcome = .deny := by
  unfold lockGate at h
  split_ifs at h
  exact Option.some.inj h ▸ rfl

omit [PayloadValue V] in
theorem outcome_ambientGate (h : ambientGate snapshot ctx = some d) : d.outcome = .deny := by
  unfold ambientGate at h
  split at h
  · nomatch h
  · split at h
    · exact Option.some.inj h ▸ rfl
    · obtain ⟨status, -, rfl⟩ := Option.map_eq_some_iff.mp h
      rfl

omit [PayloadValue V] in
theorem outcome_floorGate (h : floorGate capabilityId ctx = some d) : d.outcome = .deny := by
  unfold floorGate at h
  split_ifs at h
  obtain ⟨reason, -, rfl⟩ := Option.map_eq_some_iff.mp h
  rfl

omit [PayloadValue V] in
theorem outcome_grantGate {grant : GrantCheck V} (h : grantGate grant = some d) :
    d.outcome = .deny := by
  cases grant with
  | refused => exact Option.some.inj h ▸ rfl
  | unchecked | granted => nomatch h

theorem effect_ne_nonApprovable {ruleSet : BusinessPolicyRuleSet V} {action : String}
    {facts : Option (PyDict V)} {effect : PolicyOutcome} {reasons : List String}
    (h : evaluateBusinessPolicyRuleset ruleSet action facts = .ok (effect, reasons)) :
    effect ≠ .nonApprovable := by
  obtain ⟨best, -, h⟩ := bind_eq_ok.mp h
  dsimp only at h
  split_ifs at h
  · cases h
    unfold combinePermissionRules
    split_ifs <;> nofun
  · exact (Prod.mk.inj (Except.ok.inj h)).1 ▸ nofun
  · exact (Prod.mk.inj (Except.ok.inj h)).1 ▸ nofun

theorem outcome_businessGate {answer : Option (PolicyOutcome × List String)}
    (h : businessGate answer = some d) :
    d.outcome = (answer.map Prod.fst).getD .allow ∧ d.outcome ≠ .allow := by
  match answer with
  | none => nomatch h
  | some (.deny, reasons) | some (.requireApproval, reasons) =>
    cases h
    exact ⟨rfl, nofun⟩
  | some (.allow, reasons) | some (.nonApprovable, reasons) => nomatch h

theorem effect_of_businessEffect {action : String} {effect : PolicyOutcome} {reasons : List String}
    (h : businessEffect snapshot action = .ok (some (effect, reasons))) :
    effect ≠ .nonApprovable := by
  unfold businessEffect at h
  split at h
  · nomatch h
  · obtain ⟨p, hp, h⟩ := bind_eq_ok.mp h
    cases h
    exact effect_ne_nonApprovable hp

theorem effect_of_businessGate {action : String} {answer : Option (PolicyOutcome × List String)}
    (hanswer : businessEffect snapshot action = .ok answer) (h : businessGate answer = none) :
    (answer.map Prod.fst).getD .allow = .allow := by
  match answer with
  | none => rfl
  | some (.allow, reasons) => rfl
  | some (.deny, reasons) | some (.requireApproval, reasons) => nomatch h
  | some (.nonApprovable, reasons) => exact absurd rfl (effect_of_businessEffect hanswer)

theorem outcome_tenantGate {rule : Option TenantPolicyRule} (h : tenantGate rule = some d) :
    d.outcome = (rule.map (·.outcome)).getD .allow ∧ d.outcome ≠ .allow := by
  cases rule with
  | none => nomatch h
  | some r =>
    simp only [tenantGate] at h
    show _ = TenantPolicyRule.outcome r ∧ _
    unfold TenantPolicyRule.outcome
    split_ifs at h ⊢ <;> exact Option.some.inj h ▸ ⟨rfl, nofun⟩

theorem outcome_of_tenantGate {rule : Option TenantPolicyRule} (h : tenantGate rule = none) :
    (rule.map (·.outcome)).getD .allow = .allow := by
  cases rule with
  | none => rfl
  | some r =>
    simp only [tenantGate] at h
    show TenantPolicyRule.outcome r = _
    unfold TenantPolicyRule.outcome
    split_ifs at h ⊢
    rfl

end Gates

/-! ## Which source decides -/

section Evaluate

variable {engine : CosaPolicyEngine} {capabilityId : String} {payload : PyDict V}
  {ctx : PolicyContext V} {d : PolicyDecision}

open CosaPolicyEngine (tighten)

omit [PayloadValue V] in
theorem tighten_of_ne_allow (h : d.outcome ≠ .allow) : tighten capabilityId ctx d = d :=
  if_neg fun h' => h h'.1

theorem rank_le_tighten :
    outcomeRank (Source.requiredApprovals.answer capabilityId payload ctx) ≤
      outcomeRank (tighten capabilityId ctx d).outcome := by
  show outcomeRank (if _ then _ else _) ≤ _
  unfold tighten
  by_cases hmem : capabilityId ∈ ctx.requireApprovalCapabilities
  · rw [if_pos hmem]
    by_cases hallow : d.outcome = .allow
    · rw [if_pos ⟨hallow, hmem⟩]
      exact le_refl _
    · rw [if_neg fun h => hallow h.1]
      cases houtcome : d.outcome with
      | allow => exact absurd houtcome hallow
      | deny | requireApproval | nonApprovable => simp [outcomeRank]
  · rw [if_neg hmem]
    exact Nat.zero_le _

/-- Every source before the business rules lets the call pass. -/
def EarlyAllow (capabilityId : String) (payload : PyDict V) (ctx : PolicyContext V) : Prop :=
  ∀ source ∈ Source.early, source.answer capabilityId payload ctx = .allow

/-- The source that decided a call, with the answers of the sources asked before it. -/
inductive Decided (capabilityId : String) (payload : PyDict V) (ctx : PolicyContext V)
    (d : PolicyDecision) : Prop
  | denied (source : Source) (hsource : source ∈ Source.early)
      (hanswer : source.answer capabilityId payload ctx = .deny) (houtcome : d.outcome = .deny)
  | business (hearly : EarlyAllow capabilityId payload ctx)
      (hne : Source.businessRules.answer capabilityId payload ctx ≠ .allow)
      (houtcome : d.outcome = Source.businessRules.answer capabilityId payload ctx)
  | tenant (hearly : EarlyAllow capabilityId payload ctx)
      (hbusiness : Source.businessRules.answer capabilityId payload ctx = .allow)
      (hne : Source.tenantRule.answer capabilityId payload ctx ≠ .allow)
      (houtcome : d.outcome = Source.tenantRule.answer capabilityId payload ctx)
  | permitted (hearly : EarlyAllow capabilityId payload ctx)
      (hbusiness : Source.businessRules.answer capabilityId payload ctx = .allow)
      (htenant : Source.tenantRule.answer capabilityId payload ctx = .allow)
      (hrequired : outcomeRank (Source.requiredApprovals.answer capabilityId payload ctx) ≤
        outcomeRank d.outcome)

section Snapshot

variable {snapshot : Option (PolicySnapshot V)}

omit [PayloadValue V] in
theorem join_policySnapshot (hs : ctx.policySnapshot = .ok snapshot) :
    ctx.policySnapshot.toOption.join = snapshot := by
  rw [hs]
  rfl

/-- The gates that are asked first are among the answers of the sources. -/
theorem denied_of_currentGates (payload : PyDict V) (hs : ctx.policySnapshot = .ok snapshot)
    (h : (currentGates capabilityId snapshot ctx).findSome? id = some d) :
    ∃ source ∈ Source.early, source.answer capabilityId payload ctx = .deny ∧ d.outcome = .deny := by
  have hjoin := join_policySnapshot hs
  obtain ⟨gate, hgate, hd⟩ := List.exists_of_findSome?_eq_some h
  subst hd
  simp only [currentGates, List.mem_cons, List.not_mem_nil, or_false] at hgate
  rcases hgate with hgate | hgate | hgate | hgate
  · have houtcome := outcome_statusGate hgate.symm
    refine ⟨.status, by decide, ?_, houtcome⟩
    show gateAnswer (Option.or (statusGate _) _) = _
    rw [hjoin, ← hgate]
    exact houtcome
  · have houtcome := outcome_lockGate hgate.symm
    refine ⟨.emergencyLock, by decide, ?_, houtcome⟩
    show gateAnswer (lockGate ctx) = _
    rw [← hgate]
    exact houtcome
  · have houtcome := outcome_ambientGate hgate.symm
    refine ⟨.status, by decide, ?_, houtcome⟩
    show gateAnswer (Option.or (statusGate _) (ambientGate _ ctx)) = _
    rw [hjoin]
    cases hstatus : statusGate snapshot with
    | none => rw [← hgate]; exact houtcome
    | some => exact outcome_statusGate hstatus
  · have houtcome := outcome_floorGate hgate.symm
    refine ⟨.statutoryFloor, by decide, ?_, houtcome⟩
    show gateAnswer (floorGate capabilityId ctx) = _
    rw [← hgate]
    exact houtcome

theorem earlyAllow_of_gates {grant : GrantCheck V} (hs : ctx.policySnapshot = .ok snapshot)
    (hread : readOnlyGate capabilityId ctx = none)
    (hgates : (currentGates capabilityId snapshot ctx).findSome? id = none)
    (hcheck : checkGrant capabilityId payload snapshot = .ok grant)
    (hgrant : grantGate grant = none) : EarlyAllow capabilityId payload ctx := by
  have hjoin := join_policySnapshot hs
  simp only [currentGates, List.findSome?_eq_none_iff, List.forall_mem_cons, id_eq] at hgates
  obtain ⟨hstatus, hlock, hambient, hfloor, -⟩ := hgates
  intro source hsource
  simp only [Source.early, List.mem_cons, List.not_mem_nil, or_false] at hsource
  rcases hsource with rfl | rfl | rfl | rfl | rfl
  · show gateAnswer (readOnlyGate capabilityId ctx) = _
    rw [hread, gateAnswer_none]
  · show gateAnswer (Option.or (statusGate _) (ambientGate _ ctx)) = _
    rw [hjoin, hstatus, hambient]
    rfl
  · show gateAnswer (lockGate ctx) = _
    rw [hlock, gateAnswer_none]
  · show gateAnswer (floorGate capabilityId ctx) = _
    rw [hfloor, gateAnswer_none]
  · simp only [Source.answer, hjoin, hcheck, hgrant, gateAnswer_none]

theorem answer_businessRules {grant : GrantCheck V}
    {answer : Option (PolicyOutcome × List String)} (hs : ctx.policySnapshot = .ok snapshot)
    (hcheck : checkGrant capabilityId payload snapshot = .ok grant)
    (hanswer : businessEffect snapshot (grant.action capabilityId) = .ok answer) :
    Source.businessRules.answer capabilityId payload ctx =
      (answer.map Prod.fst).getD .allow := by
  have hjoin := join_policySnapshot hs
  simp only [Source.answer, hjoin, hcheck, hanswer]
  cases answer <;> rfl

theorem answer_tenantRule (capabilityId : String) (payload : PyDict V)
    (hs : ctx.policySnapshot = .ok snapshot) :
    Source.tenantRule.answer capabilityId payload ctx =
      ((matchedRule capabilityId snapshot).map (·.outcome)).getD .allow := by
  show ((matchedRule capabilityId ctx.policySnapshot.toOption.join).map _).getD _ = _
  rw [hs]
  rfl

theorem decided_of_evaluateRules {grant : GrantCheck V}
    (hs : ctx.policySnapshot = .ok snapshot) (hearly : EarlyAllow capabilityId payload ctx)
    (hcheck : checkGrant capabilityId payload snapshot = .ok grant)
    (h : engine.evaluateRules capabilityId payload snapshot grant = .ok d) :
    Decided capabilityId payload ctx (tighten capabilityId ctx d) := by
  obtain ⟨answer, hanswer, h⟩ := bind_eq_ok.mp h
  have hbusiness := answer_businessRules hs hcheck hanswer
  have htenant := answer_tenantRule capabilityId payload hs
  split at h
  · next d' hgate =>
    cases h
    obtain ⟨houtcome, hne⟩ := outcome_businessGate hgate
    rw [tighten_of_ne_allow hne]
    exact .business hearly (hbusiness ▸ houtcome ▸ hne) (houtcome.trans hbusiness.symm)
  · next hgate =>
    replace hbusiness := hbusiness.trans (effect_of_businessGate hanswer hgate)
    cases hrule : tenantGate (matchedRule capabilityId snapshot) with
    | some d' =>
      simp only [hrule, Option.some_or] at h
      cases h
      obtain ⟨houtcome, hne⟩ := outcome_tenantGate hrule
      rw [tighten_of_ne_allow hne]
      exact .tenant hearly hbusiness (htenant ▸ houtcome ▸ hne) (houtcome.trans htenant.symm)
    | none =>
      replace htenant := htenant.trans (outcome_of_tenantGate hrule)
      exact .permitted hearly hbusiness htenant rank_le_tighten

end Snapshot

/-- One source decides, and all that were asked before it let the call pass. -/
theorem decided_of_evaluate (h : engine.evaluate capabilityId payload ctx = .ok d) :
    Decided capabilityId payload ctx d := by
  unfold CosaPolicyEngine.evaluate at h
  split at h
  · next d' hread =>
    cases h
    have houtcome := outcome_readOnlyGate hread
    refine .denied .readOnlyRun (by decide) ?_ houtcome
    show gateAnswer (readOnlyGate capabilityId ctx) = _
    rw [hread]
    exact houtcome
  · next hread =>
    obtain ⟨base, hbase, rfl⟩ := map_eq_ok.mp h
    obtain ⟨snapshot, hs, hbase⟩ := bind_eq_ok.mp hbase
    split at hbase
    · next d' hgates =>
      cases hbase
      obtain ⟨source, hsource, hanswer, houtcome⟩ := denied_of_currentGates payload hs hgates
      rw [tighten_of_ne_allow (by rw [houtcome]; nofun)]
      exact .denied source hsource hanswer houtcome
    · next hgates =>
      obtain ⟨grant, hcheck, hbase⟩ := bind_eq_ok.mp hbase
      split at hbase
      · next d' hgrant =>
        cases hbase
        have houtcome := outcome_grantGate hgrant
        rw [tighten_of_ne_allow (by rw [houtcome]; nofun)]
        refine .denied .agentGrant (by decide) ?_ houtcome
        simp only [Source.answer, join_policySnapshot hs, hcheck, hgrant, gateAnswer_some, houtcome]
      · next hgrant =>
        exact decided_of_evaluateRules hs (earlyAllow_of_gates hs hread hgates hcheck hgrant)
          hcheck hbase

/-! ## Strictness -/

theorem one_le_rank {o : PolicyOutcome} (h : o ≠ .allow) : 1 ≤ outcomeRank o := by
  cases o with
  | allow => exact absurd rfl h
  | deny | requireApproval | nonApprovable => simp [outcomeRank]

theorem eq_requireApproval_of_rank {o : PolicyOutcome} (h : outcomeRank o = 1) :
    o = .requireApproval := by
  cases o <;> simp_all [outcomeRank]

theorem eq_deny_of_rank {o : PolicyOutcome} (h : outcomeRank o = 2) : o = .deny := by
  cases o <;> simp_all [outcomeRank]

theorem rank_outcome (r : TenantPolicyRule) : outcomeRank r.outcome ≤ 2 := by
  unfold TenantPolicyRule.outcome
  split_ifs <;> simp [outcomeRank]

theorem rank_requiredApprovals :
    outcomeRank (Source.requiredApprovals.answer capabilityId payload ctx) ≤ 1 := by
  show outcomeRank (if _ then _ else _) ≤ _
  split_ifs <;> simp [outcomeRank]

theorem rank_tenantRule :
    outcomeRank (Source.tenantRule.answer capabilityId payload ctx) ≤ 2 := by
  simp only [Source.answer]
  cases matchedRule capabilityId ctx.policySnapshot.toOption.join with
  | none => exact Nat.zero_le _
  | some r => exact rank_outcome r

theorem rank_gateAnswer {gate : Option PolicyDecision} (h : ∀ d ∈ gate, d.outcome = .deny) :
    outcomeRank (gateAnswer gate) ≤ 2 := by
  cases gate with
  | none => exact Nat.zero_le _
  | some d => rw [gateAnswer_some, h d rfl]; exact le_refl _

theorem rank_answer (source : Source) :
    outcomeRank (source.answer capabilityId payload ctx) ≤ 2 := by
  cases source with
  | readOnlyRun => exact rank_gateAnswer fun d hd => outcome_readOnlyGate hd
  | status =>
    refine rank_gateAnswer fun d hd => ?_
    rcases Option.or_eq_some_iff.mp hd with hd | ⟨-, hd⟩
    · exact outcome_statusGate hd
    · exact outcome_ambientGate hd
  | emergencyLock => exact rank_gateAnswer fun d hd => outcome_lockGate hd
  | statutoryFloor => exact rank_gateAnswer fun d hd => outcome_floorGate hd
  | agentGrant =>
    simp only [Source.answer]
    split
    · exact rank_gateAnswer fun d hd => outcome_grantGate hd
    · exact Nat.zero_le _
  | businessRules =>
    simp only [Source.answer]
    split
    · split
      · next effect reasons heffect =>
        have hne := effect_of_businessEffect heffect
        cases effect with
        | nonApprovable => exact absurd rfl hne
        | allow | deny | requireApproval => simp [outcomeRank]
      · exact Nat.zero_le _
    · exact Nat.zero_le _
  | tenantRule => exact rank_tenantRule
  | requiredApprovals => exact rank_requiredApprovals.trans (by decide)

/-- Behind the early sources, three answers are left to compare with. -/
theorem isStrict_of_earlyAllow (hearly : EarlyAllow capabilityId payload ctx)
    (hbusiness : outcomeRank (Source.businessRules.answer capabilityId payload ctx) ≤
      outcomeRank d.outcome)
    (htenant : outcomeRank (Source.tenantRule.answer capabilityId payload ctx) ≤
      outcomeRank d.outcome)
    (hrequired : outcomeRank (Source.requiredApprovals.answer capabilityId payload ctx) ≤
      outcomeRank d.outcome) : IsStrict capabilityId payload ctx d := by
  intro source
  cases source with
  | businessRules => exact hbusiness
  | tenantRule => exact htenant
  | requiredApprovals => exact hrequired
  | readOnlyRun | status | emergencyLock | statutoryFloor | agentGrant =>
    rw [hearly _ (by decide)]
    exact Nat.zero_le _

/-- The outcome is as strict as every answer, unless an approval hides a denial of the tenant. -/
theorem isStrict_iff_not_denialShadowed (h : engine.evaluate capabilityId payload ctx = .ok d) :
    IsStrict capabilityId payload ctx d ↔ ¬DenialShadowed capabilityId payload ctx := by
  have hrequired : outcomeRank (Source.requiredApprovals.answer capabilityId payload ctx) ≤ 1 :=
    rank_requiredApprovals
  cases decided_of_evaluate h with
  | denied source hsource hanswer houtcome =>
    have hstrict : IsStrict capabilityId payload ctx d := by
      intro source
      rw [houtcome]
      exact rank_answer source
    exact iff_of_true hstrict fun hshadowed => hshadowed.1 source hsource hanswer
  | business hearly hne houtcome =>
    have hrank := one_le_rank hne
    constructor
    · rintro hstrict ⟨-, hbusiness, htenant⟩
      have hle := hstrict .tenantRule
      rw [houtcome, hbusiness, htenant] at hle
      exact absurd hle (by decide)
    · intro hshadowed
      refine isStrict_of_earlyAllow hearly (by rw [houtcome]) ?_ (by rw [houtcome]; omega)
      rw [houtcome]
      -- An approval of the business rules meets no denial of the tenant.
      by_contra hlt
      have hle : outcomeRank (Source.businessRules.answer capabilityId payload ctx) ≤ 2 :=
        rank_answer _
      have hle' : outcomeRank (Source.tenantRule.answer capabilityId payload ctx) ≤ 2 :=
        rank_tenantRule
      refine hshadowed ⟨fun source hsource => by rw [hearly source hsource]; nofun, ?_, ?_⟩
      · exact eq_requireApproval_of_rank (by omega)
      · exact eq_deny_of_rank (by omega)
  | tenant hearly hbusiness hne houtcome =>
    have hrank := one_le_rank hne
    refine iff_of_true (isStrict_of_earlyAllow hearly ?_ ?_ ?_) fun hshadowed => ?_
    · rw [hbusiness]
      exact Nat.zero_le _
    · rw [houtcome]
    · rw [houtcome]
      omega
    · rw [hshadowed.2.1] at hbusiness
      nomatch hbusiness
  | permitted hearly hbusiness htenant hrequired =>
    refine iff_of_true (isStrict_of_earlyAllow hearly ?_ ?_ hrequired) fun hshadowed => ?_
    · rw [hbusiness]
      exact Nat.zero_le _
    · rw [htenant]
      exact Nat.zero_le _
    · rw [hshadowed.2.1] at hbusiness
      nomatch hbusiness

end Evaluate

end

/-! ## A payment request that the tenant denies -/

/-- Payloads whose values are integers. -/
instance : PayloadValue ℤ where
  truthy v := v ≠ 0
  asDict _ := none
  int := .ok
  greater v n := .ok (v > n)
  eq v w := v = w
  str := toString

/-- A tenant that froze its payment requests; its business rules give them the effect. -/
def frozenRequests (effect : String) : PolicyContext ℤ where
  policySnapshot := .ok (some
    { workspaceStatus := "active"
      principalStatus := "active"
      rules := [{ toolPattern := "finance.*", decision := "ALLOW" },
        { toolPattern := "finance.request.create", decision := "DENY",
          reason := some "Payment requests are frozen" }]
      businessPolicyRules := some
        { ruleGroups := [[{ permissionKey := "finance.request.create", effect }]]
          agentCapabilities := [{ capabilityId := "finance.request.create",
                                  permissionKey := "finance.request.create" }] } })

def requestPayload : PyDict ℤ := Dict.empty.set "amount" (some 500)

/-- With an `ALLOW` of the business rules the tenant's denial is heeded. -/
theorem isStrict_frozenRequests :
    ∃ d, CosaPolicyEngine.evaluate {} "finance.request.create" requestPayload
        (frozenRequests "ALLOW") = .ok d ∧
      IsStrict "finance.request.create" requestPayload (frozenRequests "ALLOW") d :=
  have h := eq_ok_get (x := CosaPolicyEngine.evaluate {} "finance.request.create" requestPayload
    (frozenRequests "ALLOW")) (by decide +kernel)
  ⟨_, h, (isStrict_iff_not_denialShadowed h).mpr (by decide +kernel)⟩

/-- The request waits for an administrator although the tenant denies it. -/
theorem not_isStrict_frozenRequests :
    ∃ d, CosaPolicyEngine.evaluate {} "finance.request.create" requestPayload
        (frozenRequests "REQUIRE_APPROVAL") = .ok d ∧ d.outcome = .requireApproval ∧
      ¬IsStrict "finance.request.create" requestPayload (frozenRequests "REQUIRE_APPROVAL") d := by
  refine ⟨_, eq_ok_get (by decide +kernel), by decide +kernel, fun hstrict => ?_⟩
  have hle := hstrict .tenantRule
  revert hle
  decide +kernel

end JavisSaas.Cosa.Policies
