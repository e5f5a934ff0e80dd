import JavisSaas.Company.Identity.AuthorizationTables

/-!
# Changes of roles and permissions

The mutations of `updatePermissionsService`, in `permissions.service.ts`. Each reads the tables with
the writes of the ones before it, and then writes one row.
-/

namespace JavisSaas.Company.Identity

open JavisSaas.Lib

inductive PermissionMutation (V : Type)
  | assignRole (memberId : ℕ) (roleId : String) (projectId legalEntityId : Option ℕ)
      (validUntil : Option ℤ)
  | revokeRole (assignmentId : String)
  | setRolePermission (roleId permissionKey : String) (effect : PermissionEffect)
      (conditions : Option (Dict String V))

structure UpdatePermissionsRequest (V : Type) where
  expectedVersion : ℤ
  mutations : List (PermissionMutation V)

/-- What a mutation does once its checks have passed. -/
inductive PolicyWrite (V : Type)
  | upsertRolePermission (roleId permissionKey : String) (effect : PermissionEffect)
      (conditions : Option (Dict String V))
  | insertAssignment (row : MemberRoleAssignment)
  /-- With the time of the checks, as a ghost. -/
  | deleteAssignment (assignmentId : String) (checkedAt : ℤ)
  deriving DecidableEq

section

variable {V : Type}

/-! ## Founders -/

def AuthorizationTables.isFounder (t : AuthorizationTables V) (a : MemberRoleAssignment) : Bool :=
  (t.roles.get? a.roleId).any (·.roleKey = "founder")

/-- The founder assignments that `CANNOT_REVOKE_LAST_FOUNDER` counts. -/
def AuthorizationTables.founderAssignments (t : AuthorizationTables V) (workspaceId : ℕ) :
    List MemberRoleAssignment :=
  t.assignments.filter fun a => a.workspaceId = workspaceId && t.isFounder a

/-- The assignment is in force and held by an active human. -/
def AuthorizationTables.isHeld (t : AuthorizationTables V) (now : ℤ) (a : MemberRoleAssignment) :
    Bool :=
  isValidAt a.validFrom a.validUntil now &&
    (t.memberOf a.workspaceId a.workforceMemberId).any
      fun m => m.status = "active" && m.memberType = "HUMAN"

/-- The founder assignments that are in force and held by an active human. -/
def AuthorizationTables.foundersInForce (t : AuthorizationTables V) (workspaceId : ℕ) (now : ℤ) :
    List MemberRoleAssignment :=
  (t.founderAssignments workspaceId).filter (t.isHeld now)

/-! ## The writes -/

/-- `onConflictDoUpdate`: an existing rule keeps its conditions if none are given. -/
def upsertRolePermission (rules : List (RolePermission V)) (roleId permissionKey : String)
    (effect : PermissionEffect) (conditions : Option (Dict String V)) : List (RolePermission V) :=
  let isRule (p : RolePermission V) : Bool := p.roleId = roleId && p.permissionKey = permissionKey
  if rules.any isRule then
    rules.map fun p =>
      if isRule p then { p with effect, conditions := conditions.getD p.conditions } else p
  else rules ++ [{ roleId, permissionKey, effect, conditions := conditions.getD ∅ }]

def PolicyWrite.apply (t : AuthorizationTables V) : PolicyWrite V → AuthorizationTables V
  | upsertRolePermission roleId permissionKey effect conditions => { t with
      rolePermissions :=
        Identity.upsertRolePermission t.rolePermissions roleId permissionKey effect conditions }
  | insertAssignment row => { t with assignments := t.assignments ++ [row] }
  | deleteAssignment assignmentId _ => { t with
      assignments := t.assignments.filter (·.id ≠ assignmentId) }

def applyAll (t : AuthorizationTables V) (writes : List (PolicyWrite V)) : AuthorizationTables V :=
  writes.foldl PolicyWrite.apply t

/-! ## The checks -/

variable (isKnownPermission : String → Bool) (workspaceId : ℕ)

/-- The checks of a mutation, and what it will write. -/
def PermissionMutation.check (t : AuthorizationTables V) (now : ℤ) (newId : String) (txStart : ℤ) :
    PermissionMutation V → Except ApiError (PolicyWrite V)
  | setRolePermission roleId permissionKey effect conditions => do
    require (isKnownPermission permissionKey)
      (.invalidArgument s!"Unknown permission key: {permissionKey}")
    require (t.roleOf workspaceId roleId).isSome
      (.notFound s!"Role {roleId} not found in workspace")
    return .upsertRolePermission roleId permissionKey effect conditions
  | assignRole memberId roleId projectId legalEntityId validUntil =>
    match t.roleOf workspaceId roleId, t.memberOf workspaceId memberId with
    | none, _ => .error (.notFound s!"Role {roleId} not found in workspace")
    | some _, none => .error (.notFound s!"Member {memberId} not found in workspace")
    | some role, some member => do
      require (role.allowedMemberTypes.all fun allowed =>
          allowed = [] || member.memberType ∈ allowed)
        (.invalidArgument s!"ROLE_MEMBER_TYPE_MISMATCH: Member type {member.memberType} is not allowed for role {role.name}")
      return .insertAssignment {
        id := newId
        workspaceId
        workforceMemberId := memberId
        roleId
        projectId
        legalEntityId
        validFrom := txStart
        validUntil }
  | revokeRole assignmentId =>
    match t.assignments.find? fun a => a.id = assignmentId && a.workspaceId = workspaceId &&
      (t.roles.get? a.roleId).isSome with
    | none => .error (.notFound s!"Assignment {assignmentId} not found")
    | some assignment => do
      -- The guard counts the rows of the role, whether or not they are in force.
      require (t.isFounder assignment → 1 < (t.founderAssignments workspaceId).length)
        (.failedPrecondition "CANNOT_REVOKE_LAST_FOUNDER: Không thể thu hồi quyền quản trị của founder cuối cùng")
      return .deleteAssignment assignmentId now

/-- The constraints of the database on the row that is written. -/
def PolicyWrite.admissible (t : AuthorizationTables V) : PolicyWrite V → Bool
  | insertAssignment row =>
    row.validUntil.all (row.validFrom < ·) && t.assignments.all (·.id ≠ row.id)
  | _ => true

end

end JavisSaas.Company.Identity
