import Mathlib.Data.List.Sort
import Mathlib.Data.Rat.Init
import JavisSaas.Lib.ApiError
import JavisSaas.Lib.Calls
import JavisSaas.Lib.Dict
import JavisSaas.Lib.Fallible

/-!
# Invitations to a workspace

`services/cosa/services/workspace-invitation.service.ts`: the creation of an invitation, its
acceptance as a saga with the identity core, and the reconciler. A transaction that locks the
row it decides on is one step; the call to the core lies between two of them. A grant has its
invitation as a unique key, and is addressed by it.
-/

namespace JavisSaas.Cosa.Invitations

open JavisSaas.Lib

/-! ## Tables -/

inductive InvitationStatus
  | pending
  | accepted
  | revoked
  | expired
  deriving DecidableEq

/-- A row of `organization_invitations`; times are milliseconds. -/
structure WorkspaceInvitation where
  organizationId : ℕ
  emailNormalized : String
  roleId : String
  tokenHash : String
  status : InvitationStatus := .pending
  invitedByUserId : ℕ
  expiresAt : ℤ
  acceptedAt : Option ℤ := none
  deriving DecidableEq

/-- The columns of the index on pending invitations. -/
def WorkspaceInvitation.key (invitation : WorkspaceInvitation) : ℕ × String :=
  (invitation.organizationId, invitation.emailNormalized)

inductive GrantState
  | requested
  | coreGranted
  | projected
  | failed
  deriving DecidableEq

def GrantState.text : GrantState → String
  | requested => "requested"
  | coreGranted => "core_granted"
  | projected => "projected"
  | failed => "failed"

/-- A row of `organization_invitation_grants`. -/
structure InvitationGrant where
  organizationId : ℕ
  userId : ℕ
  requestedRole : String
  state : GrantState := .requested
  coreRole : Option String := none
  coreMembershipVersion : Option ℤ := none
  attempts : ℕ := 0
  lastErrorCode : Option String := none
  updatedAt : ℤ
  deriving DecidableEq

/-- The organization and the user that the grant is for. -/
def InvitationGrant.member (grant : InvitationGrant) : ℕ × ℕ := (grant.organizationId, grant.userId)

structure Workspace where
  workspaceName : String
  active : Bool := true
  deriving DecidableEq

/-- A row of `workspace_settings_audit_events`, without its details. -/
structure InvitationAuditEvent where
  organizationId : ℕ
  actorId : String
  eventType : String
  /-- The invitation. -/
  targetId : ℕ
  deriving DecidableEq

structure InvitationStore where
  /-- The e-mail addresses of the users. -/
  users : Dict ℕ (Option String) := ∅
  workspaces : Dict ℕ Workspace := ∅
  /-- The roles of the members, by organization and user. -/
  memberships : Dict (ℕ × ℕ) String := ∅
  invitations : Dict ℕ WorkspaceInvitation := ∅
  /-- By invitation. -/
  grants : Dict ℕ InvitationGrant := ∅
  auditEvents : List InvitationAuditEvent := []
  /-- The memberships that the core has granted, whether it said so or not. -/
  coreGrants : List (ℕ × ℕ) := []
  /-- The pending invitations that an acceptance has found expired. -/
  foundExpired : List ℕ := []
  deriving DecidableEq

/-- What the language and its libraries do to texts. -/
structure TextRuntime where
  trim : String → String
  toLowerCase : String → String
  /-- SHA-256, in hexadecimal. -/
  sha256 : String → String

variable (rt : TextRuntime)

def normalizeEmail (email : String) : String := rt.toLowerCase (rt.trim email)

def hashToken (rawToken : String) : String := rt.sha256 rawToken

namespace InvitationStore

/-- `writeInvitationAuditEvent` -/
def audit (s : InvitationStore) (organizationId : ℕ) (actorId eventType : String) (targetId : ℕ) :
    InvitationStore :=
  { s with auditEvents := s.auditEvents ++ [⟨organizationId, actorId, eventType, targetId⟩] }

end InvitationStore

/-! ## `createWorkspaceInvitation` -/

structure CreateWorkspaceInvitationParams where
  workspaceId : ℕ
  email : String
  roleId : String
  expiresInHours : Option ℚ := none
  deriving DecidableEq

def defaultExpiresInHours : ℚ := 168

/-- The latest time that a `Date` holds. -/
def maxDate : ℤ := 8640000000000000

namespace CreateWorkspaceInvitationParams

variable (params : CreateWorkspaceInvitationParams)

def checked (s : InvitationStore) : Except ApiError Unit := do
  let email := normalizeEmail rt params.email
  require (email ≠ "" ∧ '@' ∈ email.toList) (.invalidArgument "email không hợp lệ")
  require (params.roleId ∈ ["member", "admin"])
    (.invalidArgument "role_id chỉ có thể là 'member' hoặc 'admin'")
  require ((s.workspaces.get? params.workspaceId).any (·.active))
    (.notFound "workspace không tồn tại hoặc đã bị vô hiệu hóa")

/-- The check of the issuer, and the row to insert. -/
def row (s : InvitationStore) (actorUserId : ℕ) (rawToken : String) (now : ℤ) :
    Except ApiError WorkspaceInvitation := do
  require ((s.memberships.get? (params.workspaceId, actorUserId)).any
      (· ∈ ["founder", "co-founder", "admin"]))
    (.permissionDenied "chỉ founder, co-founder hoặc admin của workspace mới được mời thành viên mới")
  let expiresInHours := params.expiresInHours.getD defaultExpiresInHours
  require (0 < expiresInHours) (.invalidArgument "expires_in_hours phải là số dương")
  return {
    organizationId := params.workspaceId
    emailNormalized := normalizeEmail rt params.email
    roleId := params.roleId
    tokenHash := hashToken rt rawToken
    invitedByUserId := actorUserId
    expiresAt := now + (expiresInHours * 60 * 60 * 1000).floor }

end CreateWorkspaceInvitationParams

/-- The first row of the grant of an invitation. -/
def WorkspaceInvitation.grantFor (invitation : WorkspaceInvitation) (userId : ℕ) (now : ℤ) :
    InvitationGrant where
  organizationId := invitation.organizationId
  userId := userId
  requestedRole := invitation.roleId
  updatedAt := now

namespace InvitationStore

/-- A unique violation of any index counts as an invitation that there is. -/
def insertInvitation (s : InvitationStore) (id : ℕ) (row : WorkspaceInvitation) :
    Except ApiError InvitationStore := do
  require (row.expiresAt ≤ maxDate)
    (.internal "không thể tạo lời mời do lỗi hệ thống, vui lòng thử lại")
  require (s.invitations.get? id = none ∧ ∀ other ∈ s.invitations.values,
      other.tokenHash ≠ row.tokenHash ∧ ¬(other.status = .pending ∧ other.key = row.key))
    (.alreadyExists "đã tồn tại lời mời đang chờ cho email này trong workspace")
  return { s with invitations := s.invitations.set id row }

/-! ## `acceptWorkspaceInvitation` -/

/-- The outcome of the first transaction of an acceptance. -/
inductive Prepared
  | done
  | grant (invitationId : ℕ) (grant : InvitationGrant)

/-- The intention is written before the core is called; a retry takes the grant that there is. -/
def requestGrant (s : InvitationStore) (actorUserId invitationId : ℕ)
    (invitation : WorkspaceInvitation) (now : ℤ) : Except ApiError Prepared × InvitationStore :=
  match s.grants.get? invitationId with
  | some grant =>
    if grant.userId = actorUserId then (.ok (.grant invitationId grant), s)
    else (.error (.permissionDenied "lời mời này đang được xử lý cho người dùng khác"), s)
  | none => (.ok (.grant invitationId (invitation.grantFor actorUserId now)),
      { s with grants := s.grants.set invitationId (invitation.grantFor actorUserId now)
        }.audit invitation.organizationId (toString actorUserId) "invitation.grant_requested"
          invitationId)

/-- The invitation with the token. -/
def byToken (s : InvitationStore) (tokenHash : String) : Option (ℕ × WorkspaceInvitation) :=
  s.invitations.items.find? (·.2.tokenHash = tokenHash)

/-- The body of the first transaction, with what it has written when it ends. -/
def prepare (s : InvitationStore) (actorUserId : ℕ) (actorEmail : Option String)
    (tokenHash : String) (now : ℤ) : Except ApiError Prepared × InvitationStore :=
  match s.byToken tokenHash with
  | none => (.error (.permissionDenied "lời mời không tồn tại hoặc token không hợp lệ"), s)
  | some (id, invitation) =>
    if s.workspaces.get? invitation.organizationId = none then
      (.error (.notFound "workspace của lời mời không còn tồn tại"), s)
    else
      match invitation.status with
      | .accepted =>
        if s.memberships.get? (invitation.organizationId, actorUserId) = none then
          (.error (.permissionDenied "lời mời này đã được sử dụng"), s)
        else (.ok .done, s)
      | .revoked => (.error (.permissionDenied "lời mời đã bị thu hồi"), s)
      | .expired => (.error (.permissionDenied "lời mời đã hết hạn"), s)
      | .pending =>
        if invitation.expiresAt ≤ now then
          (.error (.permissionDenied "lời mời đã hết hạn"),
            { s with invitations := s.invitations.set id { invitation with status := .expired } })
        else if actorEmail.filter (· ≠ "") ≠ some invitation.emailNormalized then
          (.error (.permissionDenied "email của bạn không khớp với lời mời này"), s)
        else s.requestGrant actorUserId id invitation now

/-- The pending invitation that an acceptance finds expired. -/
def findsExpired (s : InvitationStore) (tokenHash : String) (now : ℤ) : Option ℕ :=
  match s.byToken tokenHash with
  | some (id, invitation) =>
    if s.workspaces.get? invitation.organizationId ≠ none ∧ invitation.status = .pending ∧
        invitation.expiresAt ≤ now then some id
    else none
  | none => none

/-- `db.transaction`: when the body throws, what it has written is rolled back. -/
def transaction {A : Type} (s : InvitationStore) (body : Except ApiError A × InvitationStore) :
    Except ApiError A × InvitationStore :=
  match body with
  | (.ok a, s') => (.ok a, s')
  | (.error e, _) => (.error e, s)

/-! ## `requestCoreGrant` -/

/-- The update of the grant after an error of the core. -/
def storeError (s : InvitationStore) (invitationId : ℕ) (code : String) (now : ℤ) :
    InvitationStore :=
  { s with grants := s.grants.modify invitationId fun grant => { grant with
      state := .requested
      attempts := grant.attempts + 1
      lastErrorCode := some code
      updatedAt := now } }

/-- The transaction after the core has granted the membership. -/
def storeGrant (s : InvitationStore) (actorId : String) (invitationId : ℕ)
    (grant : InvitationGrant) (role : String) (membershipVersion : Option ℤ) (now : ℤ) :
    InvitationStore :=
  { s with grants := s.grants.modify invitationId fun row => { row with
      state := .coreGranted
      coreRole := some role
      coreMembershipVersion := membershipVersion
      attempts := row.attempts + 1
      lastErrorCode := none
      updatedAt := now } }.audit grant.organizationId actorId "invitation.core_granted" invitationId

end InvitationStore

/-! ## `projectInvitationGrant` -/

def mapCoreRoleToCosaRole (coreRole : String) : String :=
  if coreRole = "owner" then "founder"
  else if coreRole ∈ ["founder", "co-founder", "admin", "member", "viewer"] then coreRole
  else "member"

/-- The invitation accepted, if it is pending. -/
def WorkspaceInvitation.accept (invitation : WorkspaceInvitation) (now : ℤ) : WorkspaceInvitation :=
  if invitation.status = .pending then
    { invitation with status := .accepted, acceptedAt := some now }
  else invitation

namespace InvitationStore

def projectInvitationGrant (s : InvitationStore) (invitationId : ℕ) (now : ℤ) :
    Except ApiError InvitationStore :=
  match s.grants.get? invitationId with
  | none => .error (.notFound "invitation grant không tồn tại")
  | some grant => do
    require (grant.state = .coreGranted ∨ grant.state = .projected) (.failedPrecondition
      ("invitation grant chưa được core xác nhận (state=" ++ grant.state.text ++ ")"))
    require (s.workspaces.get? grant.organizationId ≠ none)
      (.notFound "workspace của lời mời không còn tồn tại")
    let coreRoleId := mapCoreRoleToCosaRole (grant.coreRole.getD grant.requestedRole)
    return if grant.state = .projected ∧ s.memberships.get? grant.member ≠ none then s
      else { s with
        memberships := s.memberships.set grant.member coreRoleId
        invitations := s.invitations.modify invitationId (·.accept now)
        grants := s.grants.set invitationId { grant with state := .projected, updatedAt := now }
        }.audit grant.organizationId (toString grant.userId) "invitation.accepted" invitationId

/-! ## `reconcileInvitationGrants` -/

/-- The grants that are under way and have not moved since the cutoff, the oldest first. -/
def openGrants (s : InvitationStore) (limit : ℕ) (cutoff : ℤ) : List (ℕ × InvitationGrant) :=
  ((s.grants.items.filter fun row =>
    (row.2.state = .requested ∨ row.2.state = .coreGranted) ∧ row.2.updatedAt < cutoff).insertionSort
      fun a b => a.2.updatedAt ≤ b.2.updatedAt).take limit

/-- The invitation can no longer be accepted. -/
def lapsed (s : InvitationStore) (invitationId : ℕ) (now : ℤ) : Bool :=
  (s.invitations.get? invitationId).all fun invitation =>
    invitation.status ≠ .pending || decide (invitation.expiresAt ≤ now)

/-- The grant failed. -/
def failGrant (s : InvitationStore) (invitationId : ℕ) (now : ℤ) : InvitationStore :=
  { s with grants := s.grants.modify invitationId fun grant => { grant with
      state := .failed
      lastErrorCode := some "invitation_not_pending"
      updatedAt := now } }

end InvitationStore

/-! ## The calls -/

inductive InvitationRequest
  | create (actorUserId : ℕ) (params : CreateWorkspaceInvitationParams)
  | accept (actorUserId : ℕ) (token : String)
  | reconcile (limit : ℕ) (minAgeMs : ℤ)
  /-- `projectCoreAccess`: a user, a workspace and a membership as the core has them. -/
  | projectCoreAccess (userId : ℕ) (email : Option String) (organizationId : ℕ)
      (name role : String)

/-- What the core says to a grant, and whether it has made it although it said something else. -/
inductive CoreAnswer
  | granted (role : String) (membershipVersion : Option ℤ)
  | error (code : String) (made : Bool)

structure InvitationAnswers where
  now : ℤ := 0
  newId : ℕ := 0
  rawToken : String := ""
  core : CoreAnswer := .error "unavailable" false
  /-- The statement fails. -/
  fails : Bool := false

/-- An acceptance of a valid invitation, or the reconciler, with the rows yet to visit. -/
inductive GrantCaller
  | accepting (checkedAt : ℤ)
  | reconciling (rest : List (ℕ × InvitationGrant))
  deriving DecidableEq

inductive InvitationCall
  | create (actorUserId : ℕ) (params : CreateWorkspaceInvitationParams)
  | checkingIssuer (actorUserId : ℕ) (params : CreateWorkspaceInvitationParams)
  | inserting (actorUserId : ℕ) (row : WorkspaceInvitation)
  | auditingCreation (actorUserId : ℕ) (invitationId : ℕ) (row : WorkspaceInvitation)
  | accept (actorUserId : ℕ) (token : String)
  | preparing (actorUserId : ℕ) (actorEmail : Option String) (token : String)
  | askingCore (invitationId : ℕ) (grant : InvitationGrant) (caller : GrantCaller)
  | storingError (invitationId : ℕ) (grant : InvitationGrant) (code : String) (caller : GrantCaller)
  | storingGrant (invitationId : ℕ) (grant : InvitationGrant) (role : String)
      (membershipVersion : Option ℤ) (caller : GrantCaller)
  | projecting (invitationId : ℕ) (grant : InvitationGrant) (caller : GrantCaller)
  | auditingReconciled (invitationId : ℕ) (grant : InvitationGrant)
      (rest : List (ℕ × InvitationGrant))
  | reconcile (limit : ℕ) (minAgeMs : ℤ)
  | scanning (rows : List (ℕ × InvitationGrant))
  | failing (invitationId : ℕ) (grant : InvitationGrant) (rest : List (ℕ × InvitationGrant))
  | auditingFailure (invitationId : ℕ) (grant : InvitationGrant)
      (rest : List (ℕ × InvitationGrant))
  | projectCoreAccess (userId : ℕ) (email : Option String) (organizationId : ℕ)
      (name role : String)
  deriving DecidableEq

def InvitationRequest.call : InvitationRequest → InvitationCall
  | create actorUserId params => .create actorUserId params
  | accept actorUserId token => .accept actorUserId token
  | reconcile limit minAgeMs => .reconcile limit minAgeMs
  | projectCoreAccess userId email organizationId name role =>
    .projectCoreAccess userId email organizationId name role

namespace GrantCaller

/-- The `actorId` of the audit events. -/
def actorId (grant : InvitationGrant) : GrantCaller → String
  | accepting _ => toString grant.userId
  | reconciling _ => "system:reconciler"

/-- What remains to be done after an error. -/
def onError : GrantCaller → Option InvitationCall
  | accepting _ => none
  | reconciling rest => some (.scanning rest)

/-- What remains to be done after the projection. -/
def onProjected (invitationId : ℕ) (grant : InvitationGrant) : GrantCaller → Option InvitationCall
  | accepting _ => none
  | reconciling rest => some (.auditingReconciled invitationId grant rest)

end GrantCaller

namespace InvitationCall

/-- What remains to be done when the call throws. The reconciler goes on to the next row. -/
def onError : InvitationCall → Option InvitationCall
  | askingCore _ _ caller | storingError _ _ _ caller | storingGrant _ _ _ _ caller
  | projecting _ _ caller => caller.onError
  | auditingReconciled _ _ rest | failing _ _ rest | auditingFailure _ _ rest =>
    some (scanning rest)
  | scanning (_ :: rest) => some (scanning rest)
  | _ => none

/-- The first transaction of an acceptance, and what follows. -/
def prepareStep (s : InvitationStore) (actorUserId : ℕ) (actorEmail : Option String)
    (token : String) (now : ℤ) : InvitationStore × Option InvitationCall :=
  let found := (s.findsExpired (hashToken rt token) now).toList
  match s.transaction (s.prepare actorUserId actorEmail (hashToken rt token) now) with
  | (.error _, s') => ({ s' with foundExpired := s'.foundExpired ++ found }, none)
  | (.ok .done, s') => (s', none)
  | (.ok (.grant invitationId grant), s') =>
    (s', some <|
      if grant.state = .requested ∨ grant.state = .failed then
        askingCore invitationId grant (.accepting now)
      else projecting invitationId grant (.accepting now))

/-- The row that the loop of the reconciler comes to. -/
def visit (s : InvitationStore) (now : ℤ) : List (ℕ × InvitationGrant) → Option InvitationCall
  | [] => none
  | (id, grant) :: rest =>
    if grant.state = .requested then
      if s.lapsed id now then some (failing id grant rest)
      else some (askingCore id grant (.reconciling rest))
    else some (projecting id grant (.reconciling rest))

def perform (s : InvitationStore) (answers : InvitationAnswers) :
    InvitationCall → Except ApiError (InvitationStore × Option InvitationCall)
  | create actorUserId params => do
    params.checked rt s
    return (s, some (checkingIssuer actorUserId params))
  | checkingIssuer actorUserId params => do
    let row ← params.row rt s actorUserId answers.rawToken answers.now
    return (s, some (inserting actorUserId row))
  | inserting actorUserId row => do
    let s ← s.insertInvitation answers.newId row
    return (s, some (auditingCreation actorUserId answers.newId row))
  | auditingCreation actorUserId invitationId row =>
    .ok (s.audit row.organizationId (toString actorUserId) "invitation.created" invitationId, none)
  | accept actorUserId token =>
    match s.users.get? actorUserId with
    | some email => .ok (s, some (preparing actorUserId
      ((email.filter (· ≠ "")).map (normalizeEmail rt)) token))
    | none => .error (.notFound "platform user không tồn tại")
  | preparing actorUserId actorEmail token =>
    .ok (prepareStep rt s actorUserId actorEmail token answers.now)
  | askingCore invitationId grant caller =>
    match answers.core with
    | .granted role membershipVersion =>
      .ok ({ s with coreGrants := s.coreGrants ++ [grant.member] },
        some (storingGrant invitationId grant role membershipVersion caller))
    | .error code made =>
      .ok ({ s with coreGrants := s.coreGrants ++ if made then [grant.member] else [] },
        some (storingError invitationId grant code caller))
  | storingError invitationId _ code caller =>
    .ok (s.storeError invitationId code answers.now, caller.onError)
  | storingGrant invitationId grant role membershipVersion caller =>
    .ok (s.storeGrant (caller.actorId grant) invitationId grant role membershipVersion answers.now,
      some (projecting invitationId grant caller))
  | projecting invitationId grant caller => do
    let s ← s.projectInvitationGrant invitationId answers.now
    return (s, caller.onProjected invitationId grant)
  | auditingReconciled invitationId grant rest =>
    .ok (s.audit grant.organizationId "system:reconciler" "invitation.reconciled" invitationId,
      some (scanning rest))
  | reconcile limit minAgeMs =>
    .ok (s, some (scanning (s.openGrants limit (answers.now - minAgeMs))))
  | scanning rows => .ok (s, visit s answers.now rows)
  | failing invitationId grant rest =>
    .ok (s.failGrant invitationId answers.now, some (auditingFailure invitationId grant rest))
  | auditingFailure invitationId grant rest =>
    .ok (s.audit grant.organizationId "system:reconciler" "invitation.grant_failed" invitationId,
      some (scanning rest))
  | projectCoreAccess userId email organizationId name role => .ok ({ s with
      users := s.users.set userId email
      workspaces := s.workspaces.set organizationId
        ⟨name, ((s.workspaces.get? organizationId).map Workspace.active).getD true⟩
      memberships := s.memberships.set (organizationId, userId) (mapCoreRoleToCosaRole role) },
      none)

def step (s : InvitationStore) (call : InvitationCall) (answers : InvitationAnswers) :
    Option (InvitationStore × Option InvitationCall) :=
  some (if answers.fails then (s, call.onError)
    else (call.perform rt s answers).toOption.getD (s, call.onError))

end InvitationCall

def invitationCalls :
    Service InvitationRequest InvitationStore InvitationCall InvitationAnswers where
  start := InvitationRequest.call
  step := InvitationCall.step rt

/-! ## What a transaction does -/

section Outcomes

variable {rt} {s s' : InvitationStore} {call : InvitationCall} {answers : InvitationAnswers}
  {call' : Option InvitationCall}

/-- The outcomes of the first transaction of an acceptance. -/
inductive Prepares (s : InvitationStore) (actorUserId : ℕ) (now : ℤ) :
    Except ApiError InvitationStore.Prepared × InvitationStore → Prop
  | refused (e : ApiError) : Prepares s actorUserId now (.error e, s)
  | done : Prepares s actorUserId now (.ok .done, s)
  | found (id : ℕ) (invitation : WorkspaceInvitation) (grant : InvitationGrant)
      (hinvitation : s.invitations.get? id = some invitation) (hpending : invitation.status = .pending)
      (hnow : now < invitation.expiresAt) (hgrant : s.grants.get? id = some grant) :
    Prepares s actorUserId now (.ok (.grant id grant), s)
  | requested (id : ℕ) (invitation : WorkspaceInvitation)
      (hinvitation : s.invitations.get? id = some invitation) (hpending : invitation.status = .pending)
      (hnow : now < invitation.expiresAt) (hgrant : s.grants.get? id = none) :
    Prepares s actorUserId now (.ok (.grant id (invitation.grantFor actorUserId now)),
      { s with grants := s.grants.set id (invitation.grantFor actorUserId now)
        }.audit invitation.organizationId (toString actorUserId) "invitation.grant_requested" id)

theorem get?_of_byToken {tokenHash : String} {id : ℕ} {invitation : WorkspaceInvitation}
    (h : s.byToken tokenHash = some (id, invitation)) : s.invitations.get? id = some invitation :=
  Dict.get?_eq_some.mpr (List.mem_of_find?_eq_some h)

theorem prepares_requestGrant {id actorUserId : ℕ} {invitation : WorkspaceInvitation} {now : ℤ}
    (hinvitation : s.invitations.get? id = some invitation) (hpending : invitation.status = .pending)
    (hnow : now < invitation.expiresAt) : Prepares s actorUserId now
      (s.transaction (s.requestGrant actorUserId id invitation now)) := by
  unfold InvitationStore.requestGrant
  cases hgrant : s.grants.get? id with
  | none => exact .requested id invitation hinvitation hpending hnow hgrant
  | some grant =>
    by_cases huser : grant.userId = actorUserId
    · simp only [if_pos huser]
      exact .found id invitation grant hinvitation hpending hnow hgrant
    · simp only [if_neg huser]
      exact .refused _

theorem prepares_prepare (s : InvitationStore) (actorUserId : ℕ) (actorEmail : Option String)
    (tokenHash : String) (now : ℤ) : Prepares s actorUserId now
      (s.transaction (s.prepare actorUserId actorEmail tokenHash now)) := by
  unfold InvitationStore.prepare
  cases htoken : s.byToken tokenHash with
  | none => exact .refused _
  | some found =>
    obtain ⟨id, invitation⟩ := found
    have hinvitation := get?_of_byToken htoken
    by_cases hworkspace : s.workspaces.get? invitation.organizationId = none
    · simp only [if_pos hworkspace]
      exact .refused _
    · simp only [if_neg hworkspace]
      cases hstatus : invitation.status with
      | accepted =>
        by_cases hmember : s.memberships.get? (invitation.organizationId, actorUserId) = none
        · simp only [if_pos hmember]
          exact .refused _
        · simp only [if_neg hmember]
          exact .done
      | revoked | expired => exact .refused _
      | pending =>
        by_cases hexpired : invitation.expiresAt ≤ now
        · simp only [if_pos hexpired]
          exact .refused _
        · simp only [if_neg hexpired]
          by_cases hemail : actorEmail.filter (· ≠ "") ≠ some invitation.emailNormalized
          · rw [if_pos hemail]
            exact .refused _
          · rw [if_neg hemail]
            exact prepares_requestGrant hinvitation hstatus (by omega)

/-- The projection writes nothing if it was done before; otherwise it writes all of it. -/
theorem project_eq_ok {id : ℕ} {now : ℤ} (h : s.projectInvitationGrant id now = .ok s') :
    ∃ grant, s.grants.get? id = some grant ∧
      (grant.state = .coreGranted ∨ grant.state = .projected) ∧
      (s' = s ∧ grant.state = .projected ∧ s.memberships.get? grant.member ≠ none ∨
        ¬(grant.state = .projected ∧ s.memberships.get? grant.member ≠ none) ∧
        ∃ roleId, s' = { s with
          memberships := s.memberships.set grant.member roleId
          invitations := s.invitations.modify id (·.accept now)
          grants := s.grants.set id { grant with state := .projected, updatedAt := now }
          }.audit grant.organizationId (toString grant.userId) "invitation.accepted" id) := by
  unfold InvitationStore.projectInvitationGrant at h
  split at h
  · nomatch h
  · next grant hgrant =>
    obtain ⟨hstate, h⟩ := require_bind_eq_ok.mp h
    have h := of_require h
    have h := pure_eq_ok.mp h
    refine ⟨grant, hgrant, hstate, ?_⟩
    split_ifs at h with hdone
    · exact .inl ⟨h.symm, hdone⟩
    · exact .inr ⟨hdone, _, h.symm⟩

theorem insert_eq_ok {id : ℕ} {row : WorkspaceInvitation} (h : s.insertInvitation id row = .ok s') :
    s.invitations.get? id = none ∧ s' = { s with invitations := s.invitations.set id row } := by
  have h := of_require h
  obtain ⟨hnew, h⟩ := require_bind_eq_ok.mp h
  exact ⟨hnew.1, (pure_eq_ok.mp h).symm⟩

theorem step_eq (h : call.step rt s answers = some (s', call')) :
    (s' = s ∧ call' = call.onError) ∨ call.perform rt s answers = .ok (s', call') := by
  have h := Option.some.inj h
  split_ifs at h
  · cases h
    exact .inl ⟨rfl, rfl⟩
  · cases hperform : call.perform rt s answers with
    | error =>
      rw [hperform] at h
      cases h
      exact .inl ⟨rfl, rfl⟩
    | ok =>
      rw [hperform] at h
      exact .inr (congrArg Except.ok h)

end Outcomes

end JavisSaas.Cosa.Invitations
