import Mathlib.Algebra.Ring.Int.Defs
import JavisSaas.Lib.Calls
import JavisSaas.Lib.Dict
import JavisSaas.Lib.Fallible
import JavisSaas.Company.Finance.Money

/-!
# The projection of memberships

`services/company/identity/services/membership-projection.service.ts` and the session epoch of
`membership-reconciliation.service.ts`. Core sends an event for every version of a membership. A
statement reads what is committed; the writes of a transaction lock their rows until it commits, so
they are one step with the commit.
-/

namespace JavisSaas.Company.Identity

open JavisSaas.Lib

/-! ## Tables -/

inductive MembershipState
  | active
  | revoked
  deriving DecidableEq

/-- A row of `workspace_memberships`; times are milliseconds. -/
structure WorkspaceMembership where
  role : String
  membershipState : MembershipState := .active
  sourceMembershipVersion : ℤ := 1
  revokedAt : Option ℤ := none
  sessionNotBefore : Option ℤ := none

/-- A row of `membership_event_inbox`. -/
structure InboxRow where
  organizationId : String
  userId : String
  membershipVersion : ℤ
  status : String
  processedAt : ℤ
  deriving DecidableEq

structure IdentityStore where
  /-- `user_projections` by `platform_user_id`, with the local id. -/
  users : Dict String ℕ := ∅
  /-- `workspaces` by id, with the `platform_workspace_id`. -/
  workspaces : Dict ℕ (Option String) := ∅
  /-- `workspace_memberships` by its unique key `(workspace_id, user_id)`. -/
  memberships : Dict (ℕ × ℕ) WorkspaceMembership := ∅
  /-- `membership_event_inbox` by `event_id`. -/
  inbox : Dict String InboxRow := ∅

structure MembershipProjectionEvent where
  eventId : String
  organizationId : String
  userId : String
  membershipVersion : ℤ
  status : String
  role : Option String := none
  /-- The time that `new Date` reads in the text, if it is one. -/
  occurredAt : Option (Option ℤ) := none
  deriving DecidableEq

/-! ## `membership-reconciliation.service.ts` -/

/-- Issued before the last revocation, or in the same second; without an `auth_time`, as before. -/
def sessionPredatesRevocation (authTimeSeconds : Option ℤ) (sessionNotBefore : Option ℤ) : Bool :=
  match sessionNotBefore, authTimeSeconds with
  | none, _ => false
  | some _, none => true
  | some notBefore, some authTime => authTime ≤ notBefore / 1000

/-- It is active, and the session was issued after its last revocation. -/
def WorkspaceMembership.admits (m : WorkspaceMembership) (authTimeSeconds : Option ℤ) : Bool :=
  m.membershipState = .active && !sessionPredatesRevocation authTimeSeconds m.sessionNotBefore

/-! ## `applyMembershipProjection` -/

/-- `/^\d{1,19}$/` -/
def isNumericId (s : String) : Bool :=
  s.toList.all Char.isDigit && 1 ≤ s.toList.length && s.toList.length ≤ 19

/-- `BigInt(s)` of digits. -/
def bigInt (s : String) : ℕ := s.toList.foldl (fun n c => 10 * n + (c.toNat - '0'.toNat)) 0

def maxSafeInteger : ℤ := 2 ^ 53 - 1

/-- The largest `bigint` of the database. -/
def maxBigint : ℕ := 2 ^ 63 - 1

/-- An event that passed the checks, with the clock of its delivery. -/
structure Delivery where
  event : MembershipProjectionEvent
  now : ℤ
  occurredAt : ℤ

namespace MembershipProjectionEvent

def workspaceId (event : MembershipProjectionEvent) : ℕ := bigInt event.organizationId

def isActive (event : MembershipProjectionEvent) : Bool := event.status = "active"

/-- The checks before the transaction (lines 33–58). -/
def checked (event : MembershipProjectionEvent) (now : ℤ) : Except ApiError Delivery := do
  require (event.eventId ≠ "" ∧ event.organizationId ≠ "" ∧ event.userId ≠ "" ∧ event.status ≠ "")
    (.invalidArgument "Missing required fields in membership projection event")
  require (event.status ∈ ["active", "revoked", "deactivated"])
    (.invalidArgument ("unsupported membership status " ++ event.status))
  require (1 ≤ event.membershipVersion ∧ event.membershipVersion ≤ maxSafeInteger)
    (.invalidArgument "membershipVersion must be a positive integer")
  require (isNumericId event.organizationId)
    (.invalidArgument "organizationId must be a numeric id")
  match event.occurredAt with
  | none => return ⟨event, now, now⟩
  | some (some occurredAt) => return ⟨event, now, occurredAt⟩
  | some none => .error (.invalidArgument "occurredAt must be an ISO timestamp")

end MembershipProjectionEvent

namespace Delivery

def inboxRow (d : Delivery) : InboxRow where
  organizationId := d.event.organizationId
  userId := d.event.userId
  membershipVersion := d.event.membershipVersion
  status := d.event.status
  processedAt := d.now

/-- The insert into the inbox, with `onConflictDoNothing`. -/
def record (d : Delivery) (inbox : Dict String InboxRow) : Dict String InboxRow :=
  if (inbox.get? d.event.eventId).isSome then inbox else inbox.set d.event.eventId d.inboxRow

/-- `stale_after_revocation`: a tombstone that is newer than the event (lines 160–167). -/
def staleAfterRevocation (d : Delivery) (m : WorkspaceMembership) : Bool :=
  d.event.isActive && m.membershipState ≠ .active && m.revokedAt.any (d.occurredAt ≤ ·)

def updateValues (d : Delivery) (m : WorkspaceMembership) : WorkspaceMembership :=
  if d.event.isActive then { m with
    membershipState := .active
    sourceMembershipVersion := d.event.membershipVersion
    role := (d.event.role.filter (· ≠ "")).getD m.role
    revokedAt := none }
  else { m with
    membershipState := .revoked
    sourceMembershipVersion := d.event.membershipVersion
    revokedAt := some d.occurredAt
    sessionNotBefore := some d.now }

/-- The first row of a membership. -/
def newMembership (d : Delivery) : WorkspaceMembership where
  role := (d.event.role.filter (· ≠ "")).getD "member"
  sourceMembershipVersion := d.event.membershipVersion

end Delivery

namespace IdentityStore

/-- The workspace is inserted with `onConflictDoNothing`. -/
def insertWorkspace (s : IdentityStore) (id : ℕ) (platformWorkspaceId : String) : IdentityStore :=
  if (s.workspaces.get? id).isSome || s.workspaces.values.any (· = some platformWorkspaceId) then s
  else { s with workspaces := s.workspaces.set id (some platformWorkspaceId) }

/-- The writes that create a membership (lines 229–263). -/
def createMembership (s : IdentityStore) (d : Delivery) (userId : ℕ) :
    Except ApiError IdentityStore := do
  let workspaceId := d.event.workspaceId
  let s := s.insertWorkspace workspaceId d.event.organizationId
  require (s.workspaces.get? workspaceId).isSome
    ⟨"foreign_key_violation", "workspace_memberships_workspace_id_fkey"⟩
  require (s.memberships.get? (workspaceId, userId) = none)
    ⟨"unique_violation", "workspace_memberships_workspace_id_user_id_key"⟩
  return { s with
    memberships := s.memberships.set (workspaceId, userId) d.newMembership
    inbox := d.record s.inbox }

end IdentityStore

/-! ## The calls -/

structure IdentityAnswers where
  now : ℤ := 0
  newId : ℕ := 0

inductive MembershipRequest
  | apply (event : MembershipProjectionEvent)
  /-- Another service inserts the user, with the e-mail address. -/
  | register (platformUserId : String)

inductive MembershipCall
  | register (platformUserId : String)
  | apply (event : MembershipProjectionEvent)
  | checkingInbox (d : Delivery)
  | findingUser (d : Delivery)
  | findingMembership (d : Delivery) (userId : ℕ)
  /-- The event is recorded and not applied. -/
  | ignoring (d : Delivery)
  /-- The membership `found` is updated, whatever it is by then. -/
  | updating (d : Delivery) (userId : ℕ) (found : WorkspaceMembership)
  | creating (d : Delivery) (userId : ℕ)

def MembershipRequest.call : MembershipRequest → MembershipCall
  | apply event => .apply event
  | register platformUserId => .register platformUserId

namespace MembershipCall

/-- What is done about an event whose user is known (lines 139–279). -/
def judge (d : Delivery) (userId : ℕ) : Option WorkspaceMembership → MembershipCall
  | some m =>
    if d.event.membershipVersion ≤ m.sourceMembershipVersion then ignoring d
    else if d.staleAfterRevocation m then ignoring d
    else updating d userId m
  | none => if d.event.isActive then creating d userId else ignoring d

def perform (s : IdentityStore) (answers : IdentityAnswers) :
    MembershipCall → Except ApiError (IdentityStore × Option MembershipCall)
  | register platformUserId => do
    require (s.users.get? platformUserId = none)
      ⟨"unique_violation", "user_projections_platform_user_id_key"⟩
    require (answers.newId ∉ s.users.values) ⟨"unique_violation", "user_projections_pkey"⟩
    return ({ s with users := s.users.set platformUserId answers.newId }, none)
  | apply event => do
    let d ← event.checked answers.now
    return (s, some (checkingInbox d))
  | checkingInbox d =>
    .ok (s, if (s.inbox.get? d.event.eventId).isSome then none else some (findingUser d))
  | findingUser d =>
    match s.users.get? d.event.userId with
    | some userId => .ok (s, some (findingMembership d userId))
    | none =>
      -- The inserted user has neither an e-mail address nor a phone number.
      if d.event.isActive then
        .error ⟨"check_violation", "user_projections_email_or_phone_required"⟩
      else .ok (s, some (ignoring d))
  | findingMembership d userId => do
    require (d.event.workspaceId ≤ maxBigint) ⟨"numeric_value_out_of_range", "workspace_id"⟩
    return (s, some (judge d userId (s.memberships.get? (d.event.workspaceId, userId))))
  | ignoring d => .ok ({ s with inbox := d.record s.inbox }, none)
  | updating d userId _ => .ok ({ s with
      memberships := s.memberships.modify (d.event.workspaceId, userId) d.updateValues
      inbox := d.record s.inbox }, none)
  | creating d userId => do
    let s ← s.createMembership d userId
    return (s, none)

/-- A call that fails is rolled back. -/
def step (s : IdentityStore) (call : MembershipCall) (answers : IdentityAnswers) :
    Option (IdentityStore × Option MembershipCall) :=
  some ((call.perform s answers).toOption.getD (s, none))

end MembershipCall

def membershipCalls :
    Service MembershipRequest IdentityStore MembershipCall IdentityAnswers where
  start := MembershipRequest.call
  step := MembershipCall.step

end JavisSaas.Company.Identity
