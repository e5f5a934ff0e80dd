import JavisSaas.Agent.Governance.Policy
import JavisSaas.Lib.Dict
import JavisSaas.Lib.Fallible
import Mathlib.Data.List.MinMax

/-!
# The policy engine of the runtime

`apps/cosa/policies/evaluator.py`, `snapshot.py`, `business_permission_evaluator.py` and
`apps/cosa/compliance/statutory_floor.py`. `CosaPolicyEngine.evaluate` asks one source after
another; one that refuses ends the evaluation. Payloads, constraints and conditions hold Python
values, given by what the engine asks of them.
-/

namespace JavisSaas.Cosa.Policies

open JavisSaas.Lib
open JavisSaas.Agent.Governance (PolicyOutcome PolicyDecision contains)

/-! ## Values -/

/-- What a Python computation raises. -/
inductive PyError
  | typeError
  | valueError
  | overflowError
  | attributeError
  | validationError

/-- The entries of a `dict` with texts as keys; `none` as a value is `None`. -/
abbrev PyDict (V : Type) := Dict String (Option V)

/-- Python values other than `None`. -/
class PayloadValue (V : Type) extends Truthy V where
  /-- `isinstance(v, dict)`, with the entries. -/
  asDict : V → Option (PyDict V)
  /-- `int(v)` -/
  int : V → Except PyError ℤ
  /-- `v > n` -/
  greater : V → ℤ → Except PyError Bool
  /-- `v == w` -/
  eq : V → V → Bool
  /-- `str(v)` -/
  str : V → String

open PayloadValue (asDict)

section Values

variable {V : Type}

/-- `key in d` -/
def has (d : PyDict V) (key : String) : Bool := (d.get? key).isSome

/-- `d.get(key)` -/
def get (d : PyDict V) (key : String) : Option V := (d.get? key).join

/-- The truth value of a `dict`. -/
def nonEmpty (d : PyDict V) : Bool := !d.items.isEmpty

variable [PayloadValue V]

/-- `int(v)` -/
def int (v : Option V) : Except PyError ℤ := v.elim (.error .typeError) PayloadValue.int

/-- `v == w` -/
def eq : Option V → Option V → Bool
  | none, none => true
  | some v, some w => PayloadValue.eq v w
  | _, _ => false

end Values

/-- `s.startswith(p)` -/
def startsWith (s p : String) : Bool := decide (p.toList <+: s.toList)

/-- `s.endswith(p)` -/
def endsWith (s p : String) : Bool := decide (p.toList <:+ s.toList)

/-- `s[:-1]` -/
def dropLast (s : String) : String := String.ofList s.toList.dropLast

/-! ## Decisions -/

def deny (reasons : List String) : PolicyDecision := { outcome := .deny, reasons }

def requireApproval (role : String) (reasons : List String) : PolicyDecision :=
  { outcome := .requireApproval, requirement := some (.roleApproval role), reasons }

def allow (reasons : List String) : PolicyDecision := { outcome := .allow, reasons }

/-! ## Snapshots -/

/-- A row of `cosa.company_agent_policy`. -/
structure TenantPolicyRule where
  toolPattern : String
  /-- `ALLOW`, `REQUIRE_APPROVAL` or `DENY`; the column holds any text. -/
  decision : String
  reason : Option String := none

/-- A row of `core.role_permissions`. -/
structure BusinessPermissionRule (V : Type) where
  permissionKey : String
  effect : String
  conditions : PyDict V := ∅

structure AgentCapabilityAuthority (V : Type) where
  capabilityId : String
  permissionKey : String
  constraints : PyDict V := ∅

structure AgentAuthorizationSnapshot (V : Type) where
  grants : List (AgentCapabilityAuthority V)

structure BusinessPolicyRuleSet (V : Type) where
  isFounder : Bool := false
  ruleGroups : List (List (BusinessPermissionRule V)) := []
  agentCapabilities : List (AgentCapabilityAuthority V) := []

structure PolicySnapshot (V : Type) where
  workspaceStatus : String
  principalStatus : String
  rules : List TenantPolicyRule
  agentAuthority : Option (AgentAuthorizationSnapshot V) := none
  businessPolicyRules : Option (BusinessPolicyRuleSet V) := none

/-- `compliance_snapshot`; `prohibitedPurpose` is the truth value of its entry. -/
structure ComplianceSnapshot where
  mode : Option String := none
  status : Option String := none
  allowedCapabilities : List String := []
  prohibitedPurpose : Bool := false

/-- The entries of a run's context that the engine reads. -/
structure PolicyContext (V : Type) where
  /-- `PolicySnapshot.from_context`: a snapshot that fails its validation raises. -/
  policySnapshot : Except PyError (Option (PolicySnapshot V)) := .ok none
  emergencyLock : Bool := false
  tenantStatus : Option String := none
  principalStatus : Option String := none
  complianceSnapshot : Option ComplianceSnapshot := none
  readOnlyRun : Bool := false
  requireApprovalCapabilities : List String := []

/-! ## The tenant rule -/

/-- A pattern `prefix.*` that covers the capability. -/
def TenantPolicyRule.isPrefixMatch (capabilityId : String) (r : TenantPolicyRule) : Bool :=
  endsWith r.toolPattern ".*" && startsWith capabilityId (dropLast r.toolPattern)

/-- `PolicySnapshot.match`: exact, else the longest prefix, else `*`. -/
def PolicySnapshot.match {V : Type} (s : PolicySnapshot V) (capabilityId : String) :
    Option TenantPolicyRule :=
  match s.rules.find? (·.toolPattern = capabilityId) with
  | some exact => some exact
  | none =>
    match (s.rules.filter (·.isPrefixMatch capabilityId)).argmax (·.toolPattern.length) with
    | some longest => some longest
    | none => s.rules.find? (·.toolPattern = "*")

/-! ## The statutory floor -/

/-- A capability in a domain whose decisions the law keeps from the agent. -/
def isProhibitedDomain (capabilityId : String) : Bool :=
  startsWith capabilityId "hr." || contains capabilityId "candidate.rank" ||
    contains capabilityId "credit.score"

/-- `StatutoryFloor.evaluate`: the reason of a denial, or nothing. -/
def statutoryFloor (capabilityId : String) (snapshot : Option ComplianceSnapshot) :
    Option String :=
  match snapshot with
  | none => some "COMPLIANCE_SNAPSHOT_MISSING"
  | some snapshot =>
    if snapshot.prohibitedPurpose || isProhibitedDomain capabilityId then
      some "PROHIBITED_DECISION_DOMAIN"
    else if snapshot.status ≠ some "APPROVED_FOR_USE" then some "DEPLOYMENT_NOT_APPROVED"
    else if snapshot.mode ≠ some "ADVISORY_ONLY" then some "NON_ADVISORY_MODE"
    else if "*" ∉ snapshot.allowedCapabilities ∧ capabilityId ∉ snapshot.allowedCapabilities then
      some "CAPABILITY_NOT_BOUND"
    else none

/-! ## Agent capability grants -/

section Values

variable {V : Type} [PayloadValue V]

/-- `maxAmountMinor` of a grant against the payload's amount. -/
def amountRefusal (constraints payload : PyDict V) : Except PyError (Option String) :=
  if has constraints "maxAmountMinor" && nonEmpty payload then
    match get payload "amount" with
    | none => .ok (some "MISSING_REQUIRED_FACT_AMOUNT")
    | some factsAmount =>
      -- `{"minor": …, "currency": …}` or the bare amount
      match (asDict factsAmount).elim (some factsAmount) (get · "minor") with
      | none => .ok none
      | some minor => do
        let minor ← PayloadValue.int minor
        let maxAmountMinor ← int (get constraints "maxAmountMinor")
        return if minor > maxAmountMinor then some "CONSTRAINT_AMOUNT_EXCEEDED" else none
  else .ok none

/-- `currency` of a grant against the payload's amount; a bare amount passes. -/
def currencyRefusal (constraints payload : PyDict V) : Option String :=
  if has constraints "currency" && nonEmpty payload then
    match (get payload "amount").bind asDict with
    | none => none
    | some amount =>
      if eq (get amount "currency") (get constraints "currency") then none
      else some "CONSTRAINT_CURRENCY_MISMATCH"
  else none

/-- What the agent's own authority says of a call. -/
inductive GrantCheck (V : Type)
  /-- No authority is known: the grants are not asked. -/
  | unchecked
  | refused (reason : String)
  | granted (grant : AgentCapabilityAuthority V)

def AgentAuthorizationSnapshot.resolve (s : AgentAuthorizationSnapshot V) (capabilityId : String)
    (payload : PyDict V) : Except PyError (GrantCheck V) :=
  match s.grants.find? (·.capabilityId = capabilityId) with
  | none => .ok (.refused "MISSING_AGENT_CAPABILITY_GRANT")
  | some grant => do
    match ← amountRefusal grant.constraints payload with
    | some reason => return .refused reason
    | none =>
      match currencyRefusal grant.constraints payload with
      | some reason => return .refused reason
      | none => return .granted grant

/-! ## Business permission rules -/

/-- How specific a rule is for an action: 2 exact, 1 `domain.*`, 0 `*`, -1 not at all. -/
def BusinessPermissionRule.specificity (action : String) (rule : BusinessPermissionRule V) : ℤ :=
  if rule.permissionKey = action then 2
  else if endsWith rule.permissionKey ".*" && startsWith action (dropLast rule.permissionKey) then 1
  else if rule.permissionKey = "*" then 0
  else -1

/-- The body of the loop over the rules of a role, with the best rule so far. -/
def betterRule (action : String) (best : Option (BusinessPermissionRule V) × ℤ)
    (rule : BusinessPermissionRule V) : Option (BusinessPermissionRule V) × ℤ :=
  if rule.permissionKey = "" then best
  else if rule.specificity action > best.2 then (some rule, rule.specificity action)
  else best

/-- The first rule of the highest specificity. -/
def bestRule (rules : List (BusinessPermissionRule V)) (action : String) :
    Option (BusinessPermissionRule V) :=
  (rules.foldl (betterRule action) (none, -1)).1

/-- The conditions of a rule against an amount: whether they turn the rule into a denial. -/
def conditionsFail (conditions : PyDict V) (factAmount : V) : Except PyError Bool :=
  match asDict factAmount with
  | none => .error .attributeError
  | some amount => do
    let minor := get amount "minor"
    let factMinor ← if truthy minor then int minor else .ok 0
    if truthy (get conditions "currency") &&
        !eq (get conditions "currency") (get amount "currency") then
      return true
    match get conditions "maxAmountMinor" with
    | none => return false
    | some maxAmountMinor => return factMinor > (← PayloadValue.int maxAmountMinor)

/-- `match_best_rule_in_role`: a limit without an amount to check it against denies. -/
def matchBestRuleInRole (rules : List (BusinessPermissionRule V)) (action : String)
    (facts : Option (PyDict V)) : Except PyError (Option (BusinessPermissionRule V)) :=
  match bestRule rules action with
  | none => .ok none
  | some rule =>
    let conditions := rule.conditions
    let requiresAmountFacts := has conditions "maxAmountMinor" || has conditions "currency"
    match (facts.bind (get · "amount")).filter truthy with
    | none => .ok (some (if requiresAmountFacts then { rule with effect := "DENY" } else rule))
    | some factAmount => do
      if nonEmpty conditions && (← conditionsFail conditions factAmount) then
        return some { rule with effect := "DENY" }
      return some rule

def combinePermissionRules (rules : List (BusinessPermissionRule V)) : PolicyOutcome :=
  if rules.isEmpty || rules.any (·.effect = "DENY") then .deny
  else if rules.any (·.effect = "REQUIRE_APPROVAL") then .requireApproval
  else .allow

def evaluateBusinessPolicyRuleset (ruleSet : BusinessPolicyRuleSet V) (action : String)
    (facts : Option (PyDict V)) : Except PyError (PolicyOutcome × List String) := do
  let best ← ruleSet.ruleGroups.mapM (matchBestRuleInRole · action facts)
  let applicable := best.filterMap id
  if !applicable.isEmpty then
    let combined := combinePermissionRules applicable
    return (combined, [combined.value])
  if ruleSet.isFounder then return (.allow, ["FOUNDER_DEFAULT_ALLOW"])
  return (.deny, ["NO_MATCHING_RULE"])

end Values

/-! ## Gates

A gate is the decision that a source ends the evaluation with, or nothing. -/

def isReadCapability (capabilityId : String) : Bool :=
  [".read", ".list", ".get", ".search", ".tree_read", ".context_read", ".cadence_status",
    ".needing_review"].any (endsWith capabilityId)

section Engine

variable {V : Type}

def readOnlyGate (capabilityId : String) (ctx : PolicyContext V) : Option PolicyDecision :=
  if ctx.readOnlyRun && !isReadCapability capabilityId then
    some (deny [s!"Read-only consultation run cannot call {capabilityId}"])
  else none

/-- 0. The statuses of the snapshot. -/
def statusGate (snapshot : Option (PolicySnapshot V)) : Option PolicyDecision :=
  match snapshot with
  | none => none
  | some snapshot =>
    if snapshot.workspaceStatus ≠ "active" then
      some (deny [s!"Tenant is {snapshot.workspaceStatus}"])
    else if snapshot.principalStatus ≠ "active" then
      some (deny [s!"Principal is {snapshot.principalStatus}"])
    else none

/-- 1. -/
def lockGate (ctx : PolicyContext V) : Option PolicyDecision :=
  if ctx.emergencyLock then some (deny ["Global emergency lock is active"]) else none

/-- 1b. The bare statuses of a context without a snapshot. -/
def ambientGate (snapshot : Option (PolicySnapshot V)) (ctx : PolicyContext V) :
    Option PolicyDecision :=
  match snapshot with
  | some _ => none
  | none =>
    match ctx.tenantStatus.filter (· ∈ ["suspended", "disabled"]) with
    | some status => some (deny [s!"Tenant is {status}"])
    | none =>
      (ctx.principalStatus.filter (· ∈ ["revoked", "disabled"])).map fun status =>
        deny [s!"Principal is {status}"]

/-- 1c. The floor is asked about calls with a compliance snapshot and about those domains. -/
def floorGate (capabilityId : String) (ctx : PolicyContext V) : Option PolicyDecision :=
  if ctx.complianceSnapshot.isSome || isProhibitedDomain capabilityId then
    (statutoryFloor capabilityId ctx.complianceSnapshot).map fun reason => deny [reason]
  else none

/-- The gates before the grants, in the order in which they are asked. -/
def currentGates (capabilityId : String) (snapshot : Option (PolicySnapshot V))
    (ctx : PolicyContext V) : List (Option PolicyDecision) :=
  [statusGate snapshot, lockGate ctx, ambientGate snapshot ctx, floorGate capabilityId ctx]

/-- The agent's authority: the snapshot's own, else the capabilities among the business rules. -/
def agentAuth (snapshot : Option (PolicySnapshot V)) : Option (AgentAuthorizationSnapshot V) :=
  match snapshot with
  | none => none
  | some snapshot =>
    match snapshot.agentAuthority, snapshot.businessPolicyRules with
    | some authority, _ => some authority
    | none, none => none
    | none, some rules =>
      if rules.agentCapabilities.isEmpty then none else some ⟨rules.agentCapabilities⟩

variable [PayloadValue V]

/-- 2. The agent's grant for the capability. -/
def checkGrant (capabilityId : String) (payload : PyDict V)
    (snapshot : Option (PolicySnapshot V)) : Except PyError (GrantCheck V) :=
  match agentAuth snapshot with
  | none => .ok .unchecked
  | some authority => authority.resolve capabilityId payload

def grantGate : GrantCheck V → Option PolicyDecision
  | .refused reason => some (deny [reason])
  | .unchecked | .granted _ => none

/-- The business rules judge the permission behind the grant, or the capability itself. -/
def GrantCheck.action (capabilityId : String) : GrantCheck V → String
  | .granted grant => grant.permissionKey
  | .unchecked | .refused _ => capabilityId

/-- The answer of the business rules, if there are any. -/
def businessEffect (snapshot : Option (PolicySnapshot V)) (action : String) :
    Except PyError (Option (PolicyOutcome × List String)) :=
  match snapshot.bind (·.businessPolicyRules) with
  | none => .ok none
  | some rules => do return some (← evaluateBusinessPolicyRuleset rules action none)

def businessGate : Option (PolicyOutcome × List String) → Option PolicyDecision
  | some (.deny, reasons) => some (deny reasons)
  | some (.requireApproval, reasons) => some (requireApproval "admin" reasons)
  | _ => none

/-- The rule of the tenant for the capability. -/
def matchedRule (capabilityId : String) (snapshot : Option (PolicySnapshot V)) :
    Option TenantPolicyRule :=
  snapshot.bind (·.match capabilityId)

/-- `matched.reason or f"Tenant policy {decision} for {matched.tool_pattern}"` -/
def TenantPolicyRule.reasonOr (r : TenantPolicyRule) : String :=
  match r.reason.filter truthy with
  | some reason => reason
  | none => s!"Tenant policy {r.decision} for {r.toolPattern}"

/-- 2b. The overlay of the tenant's rule: an `ALLOW` falls through. -/
def tenantGate (rule : Option TenantPolicyRule) : Option PolicyDecision :=
  match rule with
  | none => none
  | some r =>
    if r.decision = "DENY" then some (deny [r.reasonOr])
    else if r.decision = "REQUIRE_APPROVAL" then some (requireApproval "admin" [r.reasonOr])
    else none

/-- What allows a call past the rules below: the grant, or an `ALLOW` of the tenant. -/
def permit (grant : GrantCheck V) (rule : Option TenantPolicyRule) : Option PolicyDecision :=
  match grant, rule with
  | .granted _, _ => some (allow ["Allowed by Company agent capability grant"])
  | _, some r => if r.decision = "ALLOW" then some (allow [r.reasonOr]) else none
  | _, none => none

/-! ## The engine -/

/-- `payload.get("amount", 0) > n` -/
def amountGreater (payload : PyDict V) (n : ℤ) : Except PyError Bool :=
  match payload.get? "amount" with
  | none => .ok (0 > n)
  | some none => .error .typeError
  | some (some amount) => PayloadValue.greater amount n

/-- `f"{payload.get('amount', 0)}"` -/
def amountText (payload : PyDict V) : String :=
  match payload.get? "amount" with
  | none => "0"
  | some amount => amount.elim "None" PayloadValue.str

structure CosaPolicyEngine where
  defaultOutcome : PolicyOutcome := .allow

namespace CosaPolicyEngine

/-- 3. The hard-coded rules. -/
def hardcodedRules (engine : CosaPolicyEngine) (capabilityId : String) (payload : PyDict V) :
    Except PyError PolicyDecision := do
  if contains capabilityId "payout" || contains capabilityId "wire" then
    let amount := amountText payload
    if ← amountGreater payload 10000 then
      return requireApproval "founder" [s!"High-value payout (${amount}) requires Founder approval"]
    return requireApproval "finance_lead" [s!"Payout (${amount}) requires Finance Lead approval"]
  if capabilityId = "engagement.message.send" then
    return requireApproval "admin" ["Public customer message send requires approval"]
  if contains capabilityId "transaction" && (← amountGreater payload 50000) then
    return requireApproval "cfo" ["High-value transaction record requires CFO review"]
  if startsWith capabilityId "operations.task.read" ||
      startsWith capabilityId "operations.task.list" then
    return allow ["Read-only operations task queries are permitted"]
  return { outcome := engine.defaultOutcome, reasons := ["Default policy outcome"] }

/-- The evaluation behind the agent's grant: the business rules first, then the tenant's rule. -/
def evaluateRules (engine : CosaPolicyEngine) (capabilityId : String) (payload : PyDict V)
    (snapshot : Option (PolicySnapshot V)) (grant : GrantCheck V) :
    Except PyError PolicyDecision := do
  match businessGate (← businessEffect snapshot (grant.action capabilityId)) with
  | some decision => return decision
  | none =>
    let rule := matchedRule capabilityId snapshot
    match (tenantGate rule).or (permit grant rule) with
    | some decision => return decision
    | none => engine.hardcodedRules capabilityId payload

def evaluateBase (engine : CosaPolicyEngine) (capabilityId : String) (payload : PyDict V)
    (ctx : PolicyContext V) : Except PyError PolicyDecision := do
  let snapshot ← ctx.policySnapshot
  match (currentGates capabilityId snapshot ctx).findSome? id with
  | some decision => return decision
  | none =>
    let grant ← checkGrant capabilityId payload snapshot
    match grantGate grant with
    | some decision => return decision
    | none => engine.evaluateRules capabilityId payload snapshot grant

/-- 4. The run's list only tightens an `ALLOW`. -/
def tighten (capabilityId : String) (ctx : PolicyContext V) (decision : PolicyDecision) :
    PolicyDecision :=
  if decision.outcome = .allow ∧ capabilityId ∈ ctx.requireApprovalCapabilities then
    requireApproval "founder" [s!"{capabilityId} requires founder approval in this run"]
  else decision

def evaluate (engine : CosaPolicyEngine) (capabilityId : String) (payload : PyDict V)
    (ctx : PolicyContext V) : Except PyError PolicyDecision :=
  match readOnlyGate capabilityId ctx with
  | some decision => .ok decision
  | none => tighten capabilityId ctx <$> engine.evaluateBase capabilityId payload ctx

end CosaPolicyEngine

end Engine

end JavisSaas.Cosa.Policies
