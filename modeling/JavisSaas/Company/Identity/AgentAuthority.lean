import Mathlib.Data.List.Perm.Basic
import JavisSaas.Company.Identity.AuthorizationTables

/-!
# The authority of an agent for a capability

`evaluateAgentCapabilityAuthority` of
`services/company/identity/services/agent-authorization.service.ts`.
-/

namespace JavisSaas.Company.Identity

open JavisSaas.Lib

structure ResourceScope where
  workspaceId : Option String := none
  projectId : Option String := none
  legalEntityId : Option String := none

structure EvaluateAgentCapabilityInput (V : Type) where
  workspaceId : ℕ
  agentWorkforceMemberId : ℕ
  capabilityId : String
  scope : ResourceScope := {}
  facts : Dict String V := ∅

/-- The decision about a call of an agent. -/
structure AgentCapabilityDecision where
  effect : PermissionEffect
  reasonCodes : List String := []
  policyVersion : ℤ
  matchedRuleIds : List String := []
  approvalRequired : Bool := false
  grantId : Option String := none
  riskClass : String

/-- What the queries of an evaluation return. -/
structure AuthorityRows (V : Type) where
  policyVersion : ℤ
  member : Option WorkforceMember
  binding : Option CapabilityPermissionBinding
  grants : List (AgentCapabilityGrant V)
  assignments : List MemberRoleAssignment
  permissions : List (RolePermission V)

section

variable {V : Type}

/-- The grants of the agent for the capability. -/
def AuthorizationTables.grantsOf (t : AuthorizationTables V)
    (input : EvaluateAgentCapabilityInput V) : List (AgentCapabilityGrant V) :=
  t.grants.filter fun g => g.workspaceId = input.workspaceId &&
    g.agentWorkforceMemberId = input.agentWorkforceMemberId && g.capabilityId = input.capabilityId

/-- The rules of any role for a permission. -/
def AuthorizationTables.permissionsOf (t : AuthorizationTables V)
    (binding : Option CapabilityPermissionBinding) : List (RolePermission V) :=
  t.rolePermissions.filter fun p => binding.any (p.permissionKey = ·.permissionKey)

def AuthorizationTables.authorityRows (t : AuthorizationTables V)
    (input : EvaluateAgentCapabilityInput V) : AuthorityRows V :=
  let binding := t.bindings.get? input.capabilityId
  { policyVersion := t.latestPolicyVersion input.workspaceId
    member := t.memberOf input.workspaceId input.agentWorkforceMemberId
    binding
    grants := t.grantsOf input
    assignments := t.assignmentsOf input.workspaceId input.agentWorkforceMemberId
    permissions := t.permissionsOf binding }

/-! ## The grants -/

/-- `if (limit && requested) … !== …`: a request that names nothing passes. -/
def scopePasses (limit : Option ℕ) (requested : Option String) : Bool :=
  match limit.filter (· ≠ 0), requested.filter (· ≠ "") with
  | some limit, some requested => toString limit = requested
  | _, _ => true

def AgentCapabilityGrant.isInForce (now : ℤ) (g : AgentCapabilityGrant V) : Bool :=
  g.status = "ACTIVE" && isValidAt g.validFrom g.validUntil now

/-- The filter of the active grants (lines 134–149). -/
def AgentCapabilityGrant.isActive (now : ℤ) (scope : ResourceScope) (g : AgentCapabilityGrant V) :
    Bool :=
  g.isInForce now && scopePasses g.projectId scope.projectId &&
    scopePasses g.legalEntityId scope.legalEntityId

variable [JsValue V]

/-- `maxAmountMinor` of a grant (lines 167–189): the reason of a refusal, or nothing. -/
def amountRefusal (constraints facts : Dict String V) : Except JsError (Option String) :=
  match constraints.get? "maxAmountMinor" with
  | none => .ok none
  | some maxAmountMinor =>
    match ((facts.get? "amount").filter truthy).bind (JsValue.member · "minor") with
    | none => .ok (some "MISSING_REQUIRED_FACT_AMOUNT")
    | some minor => do
      let minor ← JsValue.bigInt minor
      let maxAmountMinor ← JsValue.bigInt maxAmountMinor
      return if minor > maxAmountMinor then some "CONSTRAINT_AMOUNT_EXCEEDED" else none

/-- `currency` of a grant (lines 191–203). -/
def currencyRefusal (constraints facts : Dict String V) : Option String :=
  match constraints.get? "currency" with
  | none => none
  | some currency =>
    if (((facts.get? "amount").filter truthy).bind (JsValue.member · "currency")).any
      (JsValue.strictEq · currency) then none
    else some "CONSTRAINT_CURRENCY_MISMATCH"

/-- The constraints of a grant, in the order in which they are checked. -/
def constraintRefusal (constraints facts : Dict String V) : Except JsError (Option String) := do
  match ← amountRefusal constraints facts with
  | some reason => return some reason
  | none => return currencyRefusal constraints facts

/-! ## The role permissions -/

/-- The roles of the assignments in force (lines 220–226); their scopes are not asked. -/
def activeRoleIds (now : ℤ) (assignments : List MemberRoleAssignment) : List String :=
  (assignments.filter fun a => isValidAt a.validFrom a.validUntil now).map (·.roleId)

/-- What the rules of the roles say (lines 228–277); `none` without any. -/
def rolePermission (now : ℤ) (rows : AuthorityRows V) : PermissionEffect :=
  let roleIds := activeRoleIds now rows.assignments
  let matching := rows.permissions.filter fun p => p.roleId ∈ roleIds
  if matching.isEmpty || matching.any (·.effect = .deny) then .deny
  else if matching.any (·.effect = .requireApproval) then .requireApproval
  else .allow

/-! ## The evaluation -/

def AgentCapabilityDecision.denied (reason : String) (policyVersion : ℤ) (matched : List String)
    (riskClass : String) : AgentCapabilityDecision where
  effect := .deny
  reasonCodes := [reason]
  policyVersion
  matchedRuleIds := matched
  riskClass

/-- The refusals before the grants are looked at (lines 72–121), or the binding. -/
def bindingOf (input : EvaluateAgentCapabilityInput V) (rows : AuthorityRows V) :
    Except AgentCapabilityDecision CapabilityPermissionBinding := do
  let denied (reason : String) := AgentCapabilityDecision.denied reason rows.policyVersion [] "READ"
  require ((input.scope.workspaceId.filter (· ≠ "")).all (· = toString input.workspaceId))
    (denied "CROSS_WORKSPACE_ACCESS_DENIED")
  require (rows.member.any fun m => m.status = "active" && m.memberType = "AI_AGENT")
    (denied "INVALID_OR_INACTIVE_AI_MEMBER")
  match rows.binding with
  | none => .error (denied "UNKNOWN_CAPABILITY_BINDING")
  | some binding => return binding

/-- The decision that the matched grant leads to (lines 163–289). -/
def judgeGrant (input : EvaluateAgentCapabilityInput V) (now : ℤ) (rows : AuthorityRows V)
    (binding : CapabilityPermissionBinding) (matchedGrant : AgentCapabilityGrant V) :
    Except JsError AgentCapabilityDecision := do
  let denied (reason : String) := AgentCapabilityDecision.denied reason rows.policyVersion
    [matchedGrant.id] binding.riskClass
  match ← constraintRefusal matchedGrant.constraints input.facts with
  | some reason => return denied reason
  | none =>
    match rolePermission now rows with
    | .deny => return denied "ROLE_PERMISSION_DENIED"
    | effect => return {
        effect
        policyVersion := rows.policyVersion
        matchedRuleIds := [matchedGrant.id]
        approvalRequired := effect = .requireApproval
        grantId := some matchedGrant.id
        riskClass := binding.riskClass }

/-- The decision on the rows that the queries have returned; `now` is read between them. -/
def judgeAgentCapability (input : EvaluateAgentCapabilityInput V) (now : ℤ)
    (rows : AuthorityRows V) : Except JsError AgentCapabilityDecision :=
  match bindingOf input rows with
  | .error decision => .ok decision
  | .ok binding =>
    -- Of several active grants the first one returned is judged.
    match rows.grants.filter (·.isActive now input.scope) with
    | matchedGrant :: _ => judgeGrant input now rows binding matchedGrant
    | [] =>
      let reason := if rows.grants.any (·.status = "REVOKED") then "AGENT_CAPABILITY_GRANT_REVOKED"
        else "MISSING_AGENT_CAPABILITY_GRANT"
      .ok (.denied reason rows.policyVersion [] binding.riskClass)

def evaluateAgentCapabilityAuthority (t : AuthorizationTables V)
    (input : EvaluateAgentCapabilityInput V) (now : ℤ) : Except JsError AgentCapabilityDecision :=
  judgeAgentCapability input now (t.authorityRows input)

end

end JavisSaas.Company.Identity
