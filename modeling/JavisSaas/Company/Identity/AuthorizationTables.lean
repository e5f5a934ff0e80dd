import JavisSaas.Lib.Dict
import JavisSaas.Lib.Fallible
import JavisSaas.Company.Finance.Money

/-!
# The tables of the workspace authority

The rows of `services/company/shared/db/schema/identity.ts` that the authorization services read and
write. A table whose rows a query returns without an order is a list. The values of JSON columns are
given by what the code asks of them (`JsValue`).
-/

namespace JavisSaas.Company.Identity

open JavisSaas.Lib

/-! ## Values -/

/-- What a computation of the runtime throws. -/
inductive JsError
  | typeError
  | syntaxError
  | rangeError

/-- JavaScript values other than `undefined`. -/
class JsValue (V : Type) extends Truthy V where
  /-- `v.name`, of a value that is not `null`. -/
  member : V → String → Option V
  /-- `BigInt(v)` -/
  bigInt : V → Except JsError ℤ
  /-- `v === w` -/
  strictEq : V → V → Bool

/-- The numbers among the values. -/
instance : JsValue ℤ where
  truthy n := n ≠ 0
  member _ _ := none
  bigInt n := .ok n
  strictEq m n := m = n

/-! ## Rows -/

/-- A row of `workforce_members`. -/
structure WorkforceMember where
  workspaceId : ℕ
  memberType : String
  status : String := "active"

/-- A row of `workspace_roles`. -/
structure WorkspaceRole where
  workspaceId : ℕ
  roleKey : String
  name : String
  allowedMemberTypes : Option (List String) := none

/-- The values that `role_permissions_effect_check` admits. -/
inductive PermissionEffect
  | allow
  | deny
  | requireApproval
  deriving DecidableEq

/-- A row of `role_permissions`. -/
structure RolePermission (V : Type) where
  roleId : String
  permissionKey : String
  effect : PermissionEffect
  conditions : Dict String V := ∅

/-- A row of `member_role_assignments`. -/
structure MemberRoleAssignment where
  id : String
  workspaceId : ℕ
  workforceMemberId : ℕ
  roleId : String
  projectId : Option ℕ := none
  legalEntityId : Option ℕ := none
  validFrom : ℤ
  validUntil : Option ℤ := none
  deriving DecidableEq

/-- A row of `capability_permission_bindings`. -/
structure CapabilityPermissionBinding where
  permissionKey : String
  riskClass : String

/-- A row of `agent_capability_grants`. -/
structure AgentCapabilityGrant (V : Type) where
  id : String
  workspaceId : ℕ
  agentWorkforceMemberId : ℕ
  capabilityId : String
  projectId : Option ℕ := none
  legalEntityId : Option ℕ := none
  constraints : Dict String V := ∅
  validFrom : ℤ
  validUntil : Option ℤ := none
  status : String := "ACTIVE"
  grantedByFounderMemberId : ℕ := 0

/-- A row of `workspace_authorization_states`. -/
structure AuthorizationState where
  enforcementMode : String := "SHADOW"
  authorizationEpoch : ℕ := 1

/-- A row of `workspace_policy_versions`. -/
structure PolicyVersion where
  workspaceId : ℕ
  version : ℤ
  deriving DecidableEq

/-- A row of `agent_authorization_tickets`. -/
structure AuthorizationTicket where
  workspaceId : ℕ
  runId : String
  toolCallId : String
  checkpointRef : String
  capabilityId : String
  agentWorkforceMemberId : ℕ
  authorizationEpoch : ℕ
  status : String := "ISSUED"
  expiresAt : ℤ
  consumedAt : Option ℤ := none

structure AuthorizationTables (V : Type) where
  members : Dict ℕ WorkforceMember := ∅
  roles : Dict String WorkspaceRole := ∅
  rolePermissions : List (RolePermission V) := []
  assignments : List MemberRoleAssignment := []
  bindings : Dict String CapabilityPermissionBinding := ∅
  grants : List (AgentCapabilityGrant V) := []
  states : Dict ℕ AuthorizationState := ∅
  policyVersions : List PolicyVersion := []
  tickets : Dict String AuthorizationTicket := ∅

/-- `a.validFrom > now` and `a.validUntil <= now` do not hold. -/
def isValidAt (validFrom : ℤ) (validUntil : Option ℤ) (now : ℤ) : Bool :=
  validFrom ≤ now && validUntil.all (now < ·)

namespace AuthorizationTables

variable {V : Type} (t : AuthorizationTables V)

/-- The member of the workspace with the identifier. -/
def memberOf (workspaceId id : ℕ) : Option WorkforceMember :=
  (t.members.get? id).filter (·.workspaceId = workspaceId)

/-- The role of the workspace with the identifier. -/
def roleOf (workspaceId : ℕ) (id : String) : Option WorkspaceRole :=
  (t.roles.get? id).filter (·.workspaceId = workspaceId)

def assignmentsOf (workspaceId workforceMemberId : ℕ) : List MemberRoleAssignment :=
  t.assignments.filter fun a =>
    a.workspaceId = workspaceId && a.workforceMemberId = workforceMemberId

/-- `getLatestPolicyVersion` -/
def latestPolicyVersion (workspaceId : ℕ) : ℤ :=
  (((t.policyVersions.filter (·.workspaceId = workspaceId)).map (·.version)).max?).getD 1

/-- The epoch that is read for a ticket: a workspace without a row counts as being at 1. -/
def epochOf (workspaceId : ℕ) : ℕ :=
  ((t.states.get? workspaceId).map (·.authorizationEpoch)).getD 1

/-- The update of `advanceAuthorizationEpoch`: a workspace without a row has nothing to update. -/
def advanceAuthorizationEpoch (workspaceId : ℕ) : AuthorizationTables V :=
  { t with states := t.states.modify workspaceId fun state =>
      { state with authorizationEpoch := state.authorizationEpoch + 1 } }

/-- The row that `getWorkspaceAuthorizationState` leaves. -/
def withState (workspaceId : ℕ) : AuthorizationTables V :=
  if (t.states.get? workspaceId).isSome then t
  else { t with states := t.states.set workspaceId {} }

end AuthorizationTables

end JavisSaas.Company.Identity
