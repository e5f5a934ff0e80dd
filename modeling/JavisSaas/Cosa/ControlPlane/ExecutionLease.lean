import Mathlib.Data.Int.Notation
import Mathlib.Data.List.Pairwise
import JavisSaas.Lib.Pool

/-!
# Workspace execution leases

`services/cosa/services/workspace-execution-lease.service.ts`. Every operation is one transaction
that reads the lease row `FOR UPDATE`, decides, draws a fencing token when it grants, writes and
commits; others run between these steps. One that finds no row locks nothing, and its insert fails
when another has inserted first. The clock is read before the first statement and shows any time.

* `grantLease`, `acquireWriteLease`, `promoteCloudRuntime`, `heartbeatWriteLease`,
  `releaseWriteLease`: what a transaction decides on the row it read.
* `leaseSystem`: the transactions interleaved.
* `leaseLaw_of_run`: tokens strictly increase, one passes the fence, a superseded one never again,
  and the cloud is only promoted while the policy is not `MANUAL`.
-/

namespace JavisSaas.Cosa.ControlPlane

open JavisSaas.Lib

/-! ## The lease row -/

inductive RuntimeRole where
  | localWorkspaceRuntime
  | cloudWorkspaceRuntime
  deriving DecidableEq

inductive FailoverPolicy where
  | auto
  | manual
  deriving DecidableEq

inductive SyncFreshness where
  | fresh
  | stale
  | unknown
  deriving DecidableEq

/-- Seconds. -/
def DEFAULT_LEASE_TTL_SEC : ℤ := 60

/-- A row of `organization_execution_leases`; times in milliseconds. -/
structure LeaseRow where
  activeRuntimeNodeId : ℕ
  activeRuntimeRole : RuntimeRole
  leaseEpoch : ℕ
  fencingToken : ℕ
  leaseExpiresAt : ℤ
  lastHeartbeatAt : ℤ
  lastSyncCursor : Option String := none
  failoverPolicy : FailoverPolicy
  deriving DecidableEq

/-- The errors, by the data in their texts. -/
inductive LeaseError where
  | cloudMustPromote
  | heldBy (nodeId epoch : ℕ) (leaseExpiresAt : ℤ)
  | noLease
  | localLeaseAlive (leaseExpiresAt : ℤ)
  | manualFailover
  | notFresh (syncFreshness : SyncFreshness)
  | staleToken (token current epoch : ℕ)
  | fencedHeartbeat
  | fencedRelease

/-! ## Decisions -/

/-- What `grantLease` is called with. -/
structure GrantParams where
  nodeId : ℕ
  role : RuntimeRole
  ttlSec : ℤ
  failoverPolicy : Option FailoverPolicy := none
  deriving DecidableEq

/-- `new Date(now.getTime() + ttlSec * 1000)`. -/
def expiry (now ttlSec : ℤ) : ℤ := now + ttlSec * 1000

/-- `grantLease`: the row that is inserted, or that the existing one is updated to. -/
def grantLease (p : GrantParams) (now : ℤ) (existing : Option LeaseRow) (fencing : ℕ) : LeaseRow where
  activeRuntimeNodeId := p.nodeId
  activeRuntimeRole := p.role
  leaseEpoch := match existing with
    | some row => row.leaseEpoch + 1
    | none => 1
  fencingToken := fencing
  leaseExpiresAt := expiry now p.ttlSec
  lastHeartbeatAt := now
  lastSyncCursor := existing.bind (·.lastSyncCursor)
  failoverPolicy := (p.failoverPolicy.or (existing.map (·.failoverPolicy))).getD .auto

/-- What a transaction writes after its read. -/
inductive LeasePlan where
  | grant (p : GrantParams)
  | renew (leaseExpiresAt lastHeartbeatAt : ℤ)
  | beat (leaseExpiresAt lastHeartbeatAt : ℤ) (lastSyncCursor : Option String)
  | expire
  | nothing
  deriving DecidableEq

def acquireWriteLease (nodeId : ℕ) (runtimeRole : Option RuntimeRole) (ttlSec : Option ℤ)
    (failoverPolicy : Option FailoverPolicy) (now : ℤ) (existing : Option LeaseRow) :
    Except LeaseError LeasePlan :=
  let role := runtimeRole.getD .localWorkspaceRuntime
  let ttl := ttlSec.getD DEFAULT_LEASE_TTL_SEC
  if role = .cloudWorkspaceRuntime then .error .cloudMustPromote
  else
    match existing with
    | some row =>
      if row.leaseExpiresAt > now then
        if row.activeRuntimeNodeId = nodeId then .ok (.renew (expiry now ttl) now)
        else .error (.heldBy row.activeRuntimeNodeId row.leaseEpoch row.leaseExpiresAt)
      else .ok (.grant { nodeId, role, ttlSec := ttl, failoverPolicy })
    | none => .ok (.grant { nodeId, role, ttlSec := ttl, failoverPolicy })

def promoteCloudRuntime (cloudNodeId : ℕ) (syncFreshness : SyncFreshness) (ttlSec : Option ℤ)
    (now : ℤ) (existing : Option LeaseRow) : Except LeaseError LeasePlan :=
  match existing with
  | none => .error .noLease
  | some row =>
    if row.leaseExpiresAt > now then .error (.localLeaseAlive row.leaseExpiresAt)
    else if row.failoverPolicy = .manual then .error .manualFailover
    else if syncFreshness ≠ .fresh then .error (.notFresh syncFreshness)
    else .ok (.grant {
      nodeId := cloudNodeId, role := .cloudWorkspaceRuntime
      ttlSec := ttlSec.getD DEFAULT_LEASE_TTL_SEC })

def heartbeatWriteLease (nodeId fencingToken : ℕ) (ttlSec : Option ℤ) (syncCursor : Option String)
    (now : ℤ) (existing : Option LeaseRow) : Except LeaseError LeasePlan :=
  match existing with
  | none => .error .noLease
  | some row =>
    if row.activeRuntimeNodeId ≠ nodeId ∨ row.fencingToken ≠ fencingToken then
      .error .fencedHeartbeat
    else .ok (.beat (expiry now (ttlSec.getD DEFAULT_LEASE_TTL_SEC)) now
      (syncCursor.or row.lastSyncCursor))

def releaseWriteLease (nodeId fencingToken : ℕ) (existing : Option LeaseRow) :
    Except LeaseError LeasePlan :=
  match existing with
  | none => .ok .nothing
  | some row =>
    if row.activeRuntimeNodeId ≠ nodeId ∨ row.fencingToken ≠ fencingToken then
      .error .fencedRelease
    else .ok .expire

inductive LeaseRequest where
  | acquire (nodeId : ℕ) (runtimeRole : Option RuntimeRole) (ttlSec : Option ℤ)
      (failoverPolicy : Option FailoverPolicy)
  | promoteCloud (cloudNodeId : ℕ) (syncFreshness : SyncFreshness) (ttlSec : Option ℤ)
  | heartbeat (nodeId fencingToken : ℕ) (ttlSec : Option ℤ) (syncCursor : Option String)
  | release (nodeId fencingToken : ℕ)

namespace LeaseRequest

/-- What the transaction of a request does with the row it read. -/
def decide : LeaseRequest → ℤ → Option LeaseRow → Except LeaseError LeasePlan
  | acquire nodeId runtimeRole ttlSec failoverPolicy =>
    acquireWriteLease nodeId runtimeRole ttlSec failoverPolicy
  | promoteCloud cloudNodeId syncFreshness ttlSec =>
    promoteCloudRuntime cloudNodeId syncFreshness ttlSec
  | heartbeat nodeId fencingToken ttlSec syncCursor =>
    heartbeatWriteLease nodeId fencingToken ttlSec syncCursor
  | release nodeId fencingToken => fun _ => releaseWriteLease nodeId fencingToken

/-- The fencing token that a request presents. -/
def token : LeaseRequest → Option ℕ
  | heartbeat _ fencingToken _ _ => some fencingToken
  | release _ fencingToken => some fencingToken
  | _ => none

end LeaseRequest

/-- The columns that a plan other than a grant sets. -/
def LeasePlan.set (plan : LeasePlan) (row : LeaseRow) : LeaseRow :=
  match plan with
  | renew leaseExpiresAt lastHeartbeatAt => { row with leaseExpiresAt, lastHeartbeatAt }
  | beat leaseExpiresAt lastHeartbeatAt lastSyncCursor =>
    { row with leaseExpiresAt, lastHeartbeatAt, lastSyncCursor }
  | expire => { row with leaseExpiresAt := 0 }
  | _ => row

/-! ## Transactions -/

/-- How far a transaction has come. -/
inductive LeaseStage where
  | waiting
  | decided (existing : Option LeaseRow) (plan : LeasePlan)
  | drawn (existing : Option LeaseRow) (p : GrantParams) (fencing : ℕ)
  | ended
  deriving DecidableEq

/-- The row that a transaction has read. -/
def LeaseStage.existing : LeaseStage → Option LeaseRow
  | decided existing _ => existing
  | drawn existing _ _ => existing
  | _ => none

structure LeaseTx where
  organizationId : ℕ
  request : LeaseRequest
  now : ℤ
  stage : LeaseStage := .waiting

/-- A lease that was granted, and the row that it replaced. -/
structure Grant where
  organizationId : ℕ
  replaced : Option LeaseRow
  row : LeaseRow

/-- `seq` is the last value of the fencing sequence; `granted` the history. -/
structure LeaseState where
  leases : ℕ → Option LeaseRow := fun _ => none
  seq : ℕ := 0
  txs : List LeaseTx := []
  granted : List Grant := []

namespace LeaseState

/-- A transaction that has read a row keeps its lock until it ends. -/
def Unlocked (s : LeaseState) (organizationId : ℕ) : Prop :=
  ∀ tx ∈ s.txs, tx.organizationId = organizationId → tx.stage.existing = none
deriving Decidable

def setStage (s : LeaseState) (i : ℕ) (tx : LeaseTx) (stage : LeaseStage) : LeaseState :=
  { s with txs := s.txs.set i { tx with stage } }

def setRow (s : LeaseState) (organizationId : ℕ) (row : LeaseRow) : LeaseState :=
  { s with leases := Function.update s.leases organizationId (some row) }

def addGrant (s : LeaseState) (g : Grant) : LeaseState := { s with granted := s.granted ++ [g] }

end LeaseState

inductive LeaseLabel where
  /-- a transaction begins; its clock shows `now` -/
  | begin (organizationId : ℕ) (request : LeaseRequest) (now : ℤ)
  /-- it reads the row, waiting for the lock, and decides -/
  | read (i : ℕ)
  /-- it draws a token from the sequence -/
  | nextval (i : ℕ)
  /-- it writes and commits -/
  | commit (i : ℕ)
  /-- it fails, or its process stops -/
  | rollback (i : ℕ)
  /-- `setFailoverPolicy`, one statement -/
  | setFailoverPolicy (organizationId : ℕ) (policy : FailoverPolicy)

/-- An update of the row `existing`, or an insert, which a row there by now refuses. -/
def commitGrant (s : LeaseState) (i : ℕ) (tx : LeaseTx) (existing : Option LeaseRow)
    (p : GrantParams) (fencing : ℕ) : LeaseState :=
  let row := grantLease p tx.now existing fencing
  let s := s.setStage i tx .ended
  if existing.isNone ∧ (s.leases tx.organizationId).isSome then s
  else (s.addGrant ⟨tx.organizationId, s.leases tx.organizationId, row⟩).setRow tx.organizationId row

def leaseNext (s : LeaseState) : LeaseLabel → Option LeaseState
  | .begin organizationId request now =>
    some { s with txs := s.txs ++ [{ organizationId, request, now }] }
  | .read i =>
    match s.txs[i]? with
    | some tx =>
      if tx.stage = .waiting ∧ s.Unlocked tx.organizationId then
        match tx.request.decide tx.now (s.leases tx.organizationId) with
        | .ok plan => some (s.setStage i tx (.decided (s.leases tx.organizationId) plan))
        | .error _ => some (s.setStage i tx .ended)
      else none
    | none => none
  | .nextval i =>
    match s.txs[i]? with
    | some tx =>
      match tx.stage with
      | .decided existing (.grant p) =>
        some { s.setStage i tx (.drawn existing p (s.seq + 1)) with seq := s.seq + 1 }
      | _ => none
    | none => none
  | .commit i =>
    match s.txs[i]? with
    | some tx =>
      match tx.stage with
      | .drawn existing p fencing => some (commitGrant s i tx existing p fencing)
      | .decided _ (.grant _) => none
      | .decided _ plan =>
        match s.leases tx.organizationId with
        | some row => some ((s.setStage i tx .ended).setRow tx.organizationId (plan.set row))
        | none => some (s.setStage i tx .ended)
      | _ => none
    | none => none
  | .rollback i =>
    match s.txs[i]? with
    | some tx => some (s.setStage i tx .ended)
    | none => none
  | .setFailoverPolicy organizationId policy =>
    if s.Unlocked organizationId then
      match s.leases organizationId with
      | some row => some (s.setRow organizationId { row with failoverPolicy := policy })
      | none => some s
    else none

def leaseSystem : System LeaseState LeaseLabel := ⟨leaseNext⟩

/-- `assertFencingTokenCurrent`: the gate of every durable write. -/
def assertFencingTokenCurrent (s : LeaseState) (organizationId fencingToken : ℕ) :
    Except LeaseError LeaseRow :=
  match s.leases organizationId with
  | none => .error .noLease
  | some row =>
    if row.fencingToken ≠ fencingToken then
      .error (.staleToken fencingToken row.fencingToken row.leaseEpoch)
    else .ok row

/-! ## The law of leases -/

/-- A later lease of the workspace was granted than the one with this token. -/
def LeaseState.Superseded (s : LeaseState) (organizationId fencingToken : ℕ) : Prop :=
  Before (fun g => g.organizationId = organizationId ∧ g.row.fencingToken = fencingToken)
    (fun g => g.organizationId = organizationId) s.granted

/-- Of two grants for one workspace the later one has the greater token and epoch. -/
def Grant.Precedes (g g' : Grant) : Prop :=
  g.organizationId = g'.organizationId →
    g.row.fencingToken < g'.row.fencingToken ∧ g.row.leaseEpoch < g'.row.leaseEpoch

structure LeaseLaw (s : LeaseState) : Prop where
  increasing : s.granted.Pairwise Grant.Precedes
  onePasses : ∀ organizationId token token',
    (assertFencingTokenCurrent s organizationId token).isOk →
    (assertFencingTokenCurrent s organizationId token').isOk → token = token'
  fenced : ∀ organizationId token, s.Superseded organizationId token →
    (assertFencingTokenCurrent s organizationId token).isOk = false
  /-- a heartbeat or release with a superseded token is refused when it reads the row -/
  refused : ∀ organizationId token, s.Superseded organizationId token →
    ∀ (request : LeaseRequest) now, request.token = some token →
      (request.decide now (s.leases organizationId)).isOk = false
  /-- and one that was accepted is not overtaken before it commits -/
  accepted : ∀ tx ∈ s.txs, ∀ token row plan, tx.request.token = some token →
    tx.stage = .decided (some row) plan → ¬s.Superseded tx.organizationId token
  /-- the cloud replaces a lease whose policy was not `MANUAL` -/
  promoted : ∀ g ∈ s.granted, g.row.activeRuntimeRole = .cloudWorkspaceRuntime →
    ∃ row, g.replaced = some row ∧ row.failoverPolicy = .auto

/-! ## The invariant -/

/-- What the stage of a transaction says about its workspace. -/
structure StageSound (s : LeaseState) (tx : LeaseTx) : Prop where
  /-- a row that was read is still there, unchanged -/
  locked : ∀ row, tx.stage.existing = some row → s.leases tx.organizationId = some row
  decided : ∀ existing plan, tx.stage = .decided existing plan →
    tx.request.decide tx.now existing = .ok plan
  drawn : ∀ existing p fencing, tx.stage = .drawn existing p fencing →
    tx.request.decide tx.now existing = .ok (.grant p) ∧ fencing ≤ s.seq ∧
      ∀ row, existing = some row → row.fencingToken < fencing

structure LeaseInv (s : LeaseState) : Prop where
  seq : ∀ organizationId row, s.leases organizationId = some row → row.fencingToken ≤ s.seq
  stages : ∀ tx ∈ s.txs, StageSound s tx
  /-- at most one transaction has the row of a workspace locked -/
  lock : ∀ (i j : ℕ) (tx tx' : LeaseTx), s.txs[i]? = some tx → s.txs[j]? = some tx' →
    tx.organizationId = tx'.organizationId → tx.stage.existing.isSome → tx'.stage.existing.isSome →
    i = j
  increasing : s.granted.Pairwise Grant.Precedes
  /-- no grant is greater than the row of its workspace -/
  current : ∀ g ∈ s.granted, ∃ row, s.leases g.organizationId = some row ∧
    g.row.fencingToken ≤ row.fencingToken ∧ g.row.leaseEpoch ≤ row.leaseEpoch
  promoted : ∀ g ∈ s.granted, g.row.activeRuntimeRole = .cloudWorkspaceRuntime →
    ∃ row, g.replaced = some row ∧ row.failoverPolicy = .auto

variable {s s' : LeaseState} {i : ℕ} {tx : LeaseTx} {organizationId : ℕ} {row : LeaseRow}

theorem stageSound_ended (s : LeaseState) (tx : LeaseTx) :
    StageSound s { tx with stage := .ended } where
  locked _ h := nomatch h
  decided _ _ h := nomatch h
  drawn _ _ _ h := nomatch h

variable {stage : LeaseStage} {request : LeaseRequest} {now : ℤ} {plan : LeasePlan}
  {existing : Option LeaseRow} {p : GrantParams} {token : ℕ}

theorem getElem?_setStage {j : ℕ} {tx' : LeaseTx} (h : (s.setStage i tx stage).txs[j]? = some tx') :
    i = j ∧ tx' = { tx with stage } ∨ i ≠ j ∧ s.txs[j]? = some tx' := by
  change (s.txs.set i { tx with stage })[j]? = some tx' at h
  rw [List.getElem?_set] at h
  split_ifs at h with hij hlt
  · exact Or.inl ⟨hij, (Option.some.inj h).symm⟩
  · exact Or.inr ⟨hij, h⟩

theorem mem_setStage {tx' : LeaseTx} {stage : LeaseStage}
    (h : tx' ∈ (s.setStage i tx stage).txs) : tx' = { tx with stage } ∨ tx' ∈ s.txs :=
  (List.mem_or_eq_of_mem_set h).symm

/-- A transaction moves on: it keeps the lock that it had, or takes one that is free. -/
theorem LeaseInv.setStage (h : LeaseInv s) (ht : s.txs[i]? = some tx)
    (hsound : StageSound s { tx with stage })
    (hlock : stage.existing.isSome → tx.stage.existing.isSome ∨ s.Unlocked tx.organizationId) :
    LeaseInv (s.setStage i tx stage) where
  seq := h.seq
  stages tx' htx' := by
    rcases mem_setStage htx' with rfl | htx'
    · exact ⟨hsound.locked, hsound.decided, hsound.drawn⟩
    · have hold := h.stages tx' htx'
      exact ⟨hold.locked, hold.decided, hold.drawn⟩
  lock j k u u' hj hk horg hu hu' := by
    have hother : ∀ (j : ℕ) (u : LeaseTx), i ≠ j → s.txs[j]? = some u →
        u.organizationId = tx.organizationId → u.stage.existing.isSome → ¬stage.existing.isSome := by
      intro j u hij hj horg hu hstage
      rcases hlock hstage with htx | hfree
      · exact hij (h.lock i j tx u ht hj horg.symm htx hu)
      · rw [hfree u (List.mem_of_getElem? hj) horg] at hu
        nomatch hu
    rcases getElem?_setStage hj with ⟨rfl, rfl⟩ | ⟨hij, hj⟩ <;>
      rcases getElem?_setStage hk with ⟨rfl, rfl⟩ | ⟨hik, hk⟩
    · rfl
    · exact absurd hu (hother k u' hik hk horg.symm hu')
    · exact absurd hu' (hother j u hij hj horg hu)
    · exact h.lock j k u u' hj hk horg hu hu'
  increasing := h.increasing
  current := h.current
  promoted := h.promoted

theorem LeaseInv.setRow (h : LeaseInv s) (hfree : s.Unlocked organizationId)
    (hseq : row.fencingToken ≤ s.seq)
    (hmono : ∀ old, s.leases organizationId = some old →
      old.fencingToken ≤ row.fencingToken ∧ old.leaseEpoch ≤ row.leaseEpoch) :
    LeaseInv (s.setRow organizationId row) where
  seq org r hr := by
    change Function.update s.leases organizationId (some row) org = some r at hr
    rw [Function.update_apply] at hr
    split_ifs at hr with horg
    · exact Option.some.inj hr ▸ hseq
    · exact h.seq org r hr
  stages tx htx := by
    have hold := h.stages tx htx
    refine ⟨fun r hr => ?_, hold.decided, hold.drawn⟩
    show Function.update s.leases organizationId (some row) tx.organizationId = some r
    by_cases horg : tx.organizationId = organizationId
    · rw [hfree tx htx horg] at hr
      nomatch hr
    · rw [Function.update_of_ne horg]
      exact hold.locked r hr
  lock := h.lock
  increasing := h.increasing
  current g hg := by
    obtain ⟨r, hr, htoken, hepoch⟩ := h.current g hg
    show ∃ r', Function.update s.leases organizationId (some row) g.organizationId = some r' ∧ _
    by_cases horg : g.organizationId = organizationId
    · rw [horg] at hr
      obtain ⟨ht, he⟩ := hmono r hr
      refine ⟨row, ?_, by omega, by omega⟩
      rw [horg, Function.update_self]
    · rw [Function.update_of_ne horg]
      exact ⟨r, hr, htoken, hepoch⟩
  promoted := h.promoted

theorem LeaseInv.grant (h : LeaseInv s) (hfree : s.Unlocked organizationId)
    (hseq : row.fencingToken ≤ s.seq)
    (hlt : ∀ old, s.leases organizationId = some old →
      old.fencingToken < row.fencingToken ∧ old.leaseEpoch < row.leaseEpoch)
    (hcloud : row.activeRuntimeRole = .cloudWorkspaceRuntime →
      ∃ old, s.leases organizationId = some old ∧ old.failoverPolicy = .auto) :
    LeaseInv ((s.addGrant ⟨organizationId, s.leases organizationId, row⟩).setRow
      organizationId row) := by
  have hset := h.setRow hfree hseq fun old hold =>
    ⟨Nat.le_of_lt (hlt old hold).1, Nat.le_of_lt (hlt old hold).2⟩
  refine ⟨hset.seq, fun tx htx => ?_, h.lock, ?_, fun g hg => ?_, fun g hg hrole => ?_⟩
  · have hold := hset.stages tx htx
    exact ⟨hold.locked, hold.decided, hold.drawn⟩
  · refine List.pairwise_append.mpr ⟨h.increasing, List.pairwise_singleton _ _, ?_⟩
    intro g hg g' hg' horg
    obtain rfl := List.mem_singleton.mp hg'
    obtain ⟨old, hold, htoken, hepoch⟩ := h.current g hg
    rw [horg] at hold
    obtain ⟨ht, he⟩ := hlt old hold
    exact ⟨by show g.row.fencingToken < row.fencingToken; omega,
      by show g.row.leaseEpoch < row.leaseEpoch; omega⟩
  · rcases mem_concat hg with hg | rfl
    · exact hset.current g hg
    · exact ⟨row, Function.update_self _ _ _, Nat.le_refl _, Nat.le_refl _⟩
  · rcases mem_concat hg with hg | rfl
    · exact h.promoted g hg hrole
    · exact hcloud hrole

theorem LeaseInv.unlocked_setStage_ended (h : LeaseInv s) (ht : s.txs[i]? = some tx)
    (hlock : tx.stage.existing.isSome) :
    (s.setStage i tx .ended).Unlocked tx.organizationId := by
  intro u hu horg
  obtain ⟨j, hj⟩ := List.getElem?_of_mem hu
  rcases getElem?_setStage hj with ⟨rfl, rfl⟩ | ⟨hij, hj⟩
  · rfl
  · rw [← Option.not_isSome_iff_eq_none]
    exact fun hsome => hij (h.lock i j tx u ht hj horg.symm hlock hsome)

theorem LeaseInv.unlocked_of_none (h : LeaseInv s) (hnone : s.leases organizationId = none) :
    s.Unlocked organizationId := by
  intro tx htx horg
  cases hr : tx.stage.existing with
  | none => rfl
  | some row =>
    have hrow := (h.stages tx htx).locked row hr
    rw [horg, hnone] at hrow
    nomatch hrow

/-! ## What the decisions guarantee -/

theorem LeaseRequest.decide_none {request : LeaseRequest} {now : ℤ} {plan : LeasePlan}
    (h : request.decide now none = .ok plan) : (∃ p, plan = .grant p) ∨ plan = .nothing := by
  cases request with
  | acquire =>
    simp only [decide, acquireWriteLease] at h
    split_ifs at h
    exact Or.inl ⟨_, (Except.ok.inj h).symm⟩
  | promoteCloud | heartbeat => nomatch h
  | release => exact Or.inr (Except.ok.inj h).symm

/-- The cloud is granted a lease by `promoteCloudRuntime` alone, and not under `MANUAL`. -/
theorem LeaseRequest.decide_cloud (h : request.decide now existing = .ok (.grant p))
    (hrole : p.role = .cloudWorkspaceRuntime) :
    ∃ row, existing = some row ∧ row.failoverPolicy = .auto := by
  cases request with
  | acquire =>
    simp only [decide, acquireWriteLease] at h
    split_ifs at h with hcloud
    cases existing with
    | none =>
      obtain rfl := LeasePlan.grant.inj (Except.ok.inj h)
      exact absurd hrole hcloud
    | some =>
      simp only at h
      split_ifs at h
      · nomatch Except.ok.inj h
      · obtain rfl := LeasePlan.grant.inj (Except.ok.inj h)
        exact absurd hrole hcloud
  | promoteCloud =>
    cases existing with
    | none => nomatch h
    | some row =>
      simp only [decide, promoteCloudRuntime] at h
      split_ifs at h with halive hmanual
      refine ⟨row, rfl, ?_⟩
      cases hpolicy : row.failoverPolicy with
      | auto => rfl
      | manual => exact absurd hpolicy hmanual
  | heartbeat =>
    cases existing with
    | none => nomatch h
    | some =>
      simp only [decide, heartbeatWriteLease] at h
      split_ifs at h
      nomatch h
  | release =>
    cases existing with
    | none => nomatch h
    | some =>
      simp only [decide, releaseWriteLease] at h
      split_ifs at h
      nomatch h

/-- A request that presents a token is accepted on a row with that token only. -/
theorem LeaseRequest.decide_token (htoken : request.token = some token)
    (h : request.decide now (some row) = .ok plan) :
    row.fencingToken = token := by
  cases request with
  | acquire | promoteCloud => nomatch htoken
  | heartbeat =>
    cases htoken
    simp only [decide, heartbeatWriteLease] at h
    split_ifs at h with hfenced
    exact not_not.mp (not_or.mp hfenced).2
  | release =>
    cases htoken
    simp only [decide, releaseWriteLease] at h
    split_ifs at h with hfenced
    exact not_not.mp (not_or.mp hfenced).2

@[simp] theorem LeasePlan.set_fencingToken (plan : LeasePlan) (row : LeaseRow) :
    (plan.set row).fencingToken = row.fencingToken := by cases plan <;> rfl

@[simp] theorem LeasePlan.set_leaseEpoch (plan : LeasePlan) (row : LeaseRow) :
    (plan.set row).leaseEpoch = row.leaseEpoch := by cases plan <;> rfl

/-! ## The steps -/

theorem LeaseInv.begin (h : LeaseInv s) (organizationId : ℕ) (request : LeaseRequest) (now : ℤ) :
    LeaseInv { s with txs := s.txs ++ [{ organizationId, request, now }] } where
  seq := h.seq
  stages u hu := by
    rcases mem_concat hu with hu | rfl
    · have hold := h.stages u hu
      exact ⟨hold.locked, hold.decided, hold.drawn⟩
    · exact ⟨fun _ h => (by cases h), fun _ _ h => (by cases h), fun _ _ _ h => (by cases h)⟩
  lock j k u u' hj hk horg hu hu' := by
    have hold : ∀ (j : ℕ) (u : LeaseTx),
        (s.txs ++ [({ organizationId, request, now } : LeaseTx)])[j]? = some u →
          u.stage.existing.isSome → s.txs[j]? = some u := by
      intro j u hj hu
      rw [List.getElem?_append] at hj
      split_ifs at hj with hlt
      · exact hj
      · have hnew := List.mem_singleton.mp (List.mem_of_getElem? hj)
        rw [hnew] at hu
        nomatch hu
    exact h.lock j k u u' (hold j u hj hu) (hold k u' hk hu') horg hu hu'
  increasing := h.increasing
  current := h.current
  promoted := h.promoted

theorem LeaseInv.read (h : LeaseInv s) (ht : s.txs[i]? = some tx)
    (hfree : s.Unlocked tx.organizationId)
    (hok : tx.request.decide tx.now (s.leases tx.organizationId) = .ok plan) :
    LeaseInv (s.setStage i tx (.decided (s.leases tx.organizationId) plan)) := by
  refine h.setStage ht ⟨fun row hrow => hrow, fun existing plan' hstage => ?_,
    fun _ _ _ hstage => nomatch hstage⟩ fun _ => Or.inr hfree
  cases hstage
  exact hok

/-- A token drawn from the sequence is greater than the token of every row. -/
theorem LeaseInv.nextval (h : LeaseInv s) (ht : s.txs[i]? = some tx)
    (hstage : tx.stage = .decided existing (.grant p)) :
    LeaseInv { s.setStage i tx (.drawn existing p (s.seq + 1)) with seq := s.seq + 1 } := by
  have hold := h.stages tx (List.mem_of_getElem? ht)
  have hraised : LeaseInv { s with seq := s.seq + 1 } := by
    refine ⟨fun org r hr => Nat.le_succ_of_le (h.seq org r hr), fun u hu => ?_, h.lock,
      h.increasing, h.current, h.promoted⟩
    have hu' := h.stages u hu
    refine ⟨hu'.locked, hu'.decided, fun existing p fencing hd => ?_⟩
    obtain ⟨hdecided, hle, hlt⟩ := hu'.drawn existing p fencing hd
    exact ⟨hdecided, Nat.le_succ_of_le hle, hlt⟩
  have hlocked : ∀ row, existing = some row → s.leases tx.organizationId = some row :=
    fun row hrow => hold.locked row (by rw [hstage]; exact hrow)
  refine hraised.setStage ht ⟨hlocked, fun _ _ hd => (by cases hd), fun e p' fencing hd => ?_⟩
    fun hsome => Or.inl (by rw [hstage]; exact hsome)
  cases hd
  refine ⟨hold.decided _ _ hstage, Nat.le_refl _, fun row hrow => ?_⟩
  have hle := h.seq tx.organizationId row (hlocked row hrow)
  show row.fencingToken < s.seq + 1
  omega

theorem LeaseInv.rollback (h : LeaseInv s) (ht : s.txs[i]? = some tx) :
    LeaseInv (s.setStage i tx .ended) :=
  h.setStage ht (stageSound_ended s tx) fun hsome => nomatch hsome

theorem LeaseInv.commitGrant (h : LeaseInv s) (ht : s.txs[i]? = some tx) {fencing : ℕ}
    (hstage : tx.stage = .drawn existing p fencing) :
    LeaseInv (commitGrant s i tx existing p fencing) := by
  have hold := h.stages tx (List.mem_of_getElem? ht)
  obtain ⟨hdecided, hle, hlt⟩ := hold.drawn existing p fencing hstage
  have hended := h.rollback ht
  simp only [ControlPlane.commitGrant]
  split_ifs with hrefused
  · exact hended
  -- the row that is replaced is the one that was read
  have hsame : s.leases tx.organizationId = existing := by
    cases existing with
    | some row => exact hold.locked row (by rw [hstage]; rfl)
    | none =>
      cases hrow : s.leases tx.organizationId with
      | none => rfl
      | some => exact absurd ⟨rfl, by show (s.leases tx.organizationId).isSome; rw [hrow]; rfl⟩ hrefused
  have hfree : (s.setStage i tx .ended).Unlocked tx.organizationId := by
    cases existing with
    | some => exact h.unlocked_setStage_ended ht (by rw [hstage]; rfl)
    | none => exact hended.unlocked_of_none hsame
  refine hended.grant hfree hle (fun old hgot => ?_) fun hrole => ?_
  · obtain rfl : existing = some old := hsame.symm.trans hgot
    exact ⟨hlt old rfl, Nat.lt_succ_self _⟩
  · obtain ⟨row, rfl, hauto⟩ := LeaseRequest.decide_cloud hdecided hrole
    exact ⟨row, hsame, hauto⟩

theorem LeaseInv.commitPlan (h : LeaseInv s) (ht : s.txs[i]? = some tx)
    (hstage : tx.stage = .decided existing plan) (hgrant : ∀ p, plan ≠ .grant p)
    (hrow : s.leases tx.organizationId = some row) :
    LeaseInv ((s.setStage i tx .ended).setRow tx.organizationId (plan.set row)) := by
  have hold := h.stages tx (List.mem_of_getElem? ht)
  have hended := h.rollback ht
  cases existing with
  | some =>
    have hfree := h.unlocked_setStage_ended ht (by rw [hstage]; rfl)
    refine hended.setRow hfree ?_ fun r hr => ?_
    · rw [LeasePlan.set_fencingToken]
      exact h.seq tx.organizationId row hrow
    · cases hrow.symm.trans hr
      simp
  | none =>
    -- nothing is written
    have hdecided := hold.decided none plan hstage
    obtain ⟨p, hp⟩ | rfl := LeaseRequest.decide_none hdecided
    · exact absurd hp (hgrant p)
    have hsame : (s.setStage i tx .ended).setRow tx.organizationId row = s.setStage i tx .ended := by
      show { s.setStage i tx .ended with
        leases := Function.update s.leases tx.organizationId (some row) } = s.setStage i tx .ended
      rw [← hrow, Function.update_eq_self]
      rfl
    show LeaseInv ((s.setStage i tx .ended).setRow tx.organizationId row)
    rw [hsame]
    exact hended

theorem LeaseInv.setFailoverPolicy (h : LeaseInv s) (hfree : s.Unlocked organizationId)
    (hrow : s.leases organizationId = some row) (policy : FailoverPolicy) :
    LeaseInv (s.setRow organizationId { row with failoverPolicy := policy }) := by
  refine h.setRow hfree (h.seq organizationId row hrow) fun r hr => ?_
  cases hrow.symm.trans hr
  exact ⟨Nat.le_refl _, Nat.le_refl _⟩

theorem leaseInv_start : LeaseInv {} where
  seq _ _ h := nomatch h
  stages _ h := nomatch h
  lock _ _ _ _ h := nomatch h
  increasing := List.Pairwise.nil
  current _ h := nomatch h
  promoted _ h := nomatch h

theorem LeaseInv.next {l : LeaseLabel} (h : LeaseInv s) (hs : leaseNext s l = some s') :
    LeaseInv s' := by
  cases l with
  | begin organizationId request now =>
    cases hs
    exact h.begin organizationId request now
  | read i =>
    simp only [leaseNext] at hs
    cases ht : s.txs[i]? with
    | none => rw [ht] at hs; nomatch hs
    | some tx =>
      simp only [ht] at hs
      split_ifs at hs with hwaiting
      cases hd : tx.request.decide tx.now (s.leases tx.organizationId) with
      | ok =>
        rw [hd] at hs
        cases hs
        exact h.read ht hwaiting.2 hd
      | error =>
        rw [hd] at hs
        cases hs
        exact h.rollback ht
  | nextval i =>
    simp only [leaseNext] at hs
    cases ht : s.txs[i]? with
    | none => rw [ht] at hs; nomatch hs
    | some =>
      simp only [ht] at hs
      split at hs
      · rename_i existing p hstage
        cases hs
        exact h.nextval ht hstage
      · nomatch hs
  | commit i =>
    simp only [leaseNext] at hs
    cases ht : s.txs[i]? with
    | none => rw [ht] at hs; nomatch hs
    | some tx =>
      simp only [ht] at hs
      split at hs
      · rename_i existing p fencing hstage
        cases hs
        exact h.commitGrant ht hstage
      · nomatch hs
      · rename_i existing plan hgrant hstage
        cases hrow : s.leases tx.organizationId with
        | none =>
          rw [hrow] at hs
          cases hs
          exact h.rollback ht
        | some =>
          rw [hrow] at hs
          cases hs
          exact h.commitPlan ht hstage (fun p hp => hgrant p hp) hrow
      · nomatch hs
  | rollback i =>
    simp only [leaseNext] at hs
    cases ht : s.txs[i]? with
    | none => rw [ht] at hs; nomatch hs
    | some =>
      rw [ht] at hs
      cases hs
      exact h.rollback ht
  | setFailoverPolicy organizationId policy =>
    simp only [leaseNext] at hs
    split_ifs at hs with hfree
    cases hrow : s.leases organizationId with
    | none =>
      rw [hrow] at hs
      cases hs
      exact h
    | some =>
      rw [hrow] at hs
      cases hs
      exact h.setFailoverPolicy hfree hrow policy

/-! ## The law -/

theorem LeaseInv.lt_of_superseded (h : LeaseInv s) (hs : s.Superseded organizationId token) :
    ∃ row, s.leases organizationId = some row ∧ token < row.fencingToken := by
  obtain ⟨pre, g', post, happ, horg', g, hg, horg, rfl⟩ := hs
  have hmem : g' ∈ s.granted := by rw [happ]; simp
  have hincreasing := h.increasing
  rw [happ] at hincreasing
  have hprecedes : g.Precedes g' :=
    (List.pairwise_append.mp hincreasing).2.2 g hg g' List.mem_cons_self
  obtain ⟨row, hrow, htoken, hepoch⟩ := h.current g' hmem
  obtain ⟨hlt, -⟩ := hprecedes (horg.trans horg'.symm)
  exact ⟨row, horg' ▸ hrow, by omega⟩

theorem assertFencingTokenCurrent_isOk :
    (assertFencingTokenCurrent s organizationId token).isOk ↔
      ∃ row, s.leases organizationId = some row ∧ row.fencingToken = token := by
  cases hrow : s.leases organizationId with
  | none => simp [assertFencingTokenCurrent, hrow, Except.isOk, Except.toBool]
  | some row =>
    by_cases htoken : row.fencingToken = token <;>
      simp [assertFencingTokenCurrent, hrow, htoken, Except.isOk, Except.toBool]

theorem LeaseInv.law (h : LeaseInv s) : LeaseLaw s where
  increasing := h.increasing
  onePasses org token token' hp hp' := by
    obtain ⟨row, hrow, rfl⟩ := assertFencingTokenCurrent_isOk.mp hp
    obtain ⟨row', hrow', rfl⟩ := assertFencingTokenCurrent_isOk.mp hp'
    cases hrow.symm.trans hrow'
    rfl
  fenced org token hs := by
    obtain ⟨row, hrow, hlt⟩ := h.lt_of_superseded hs
    rw [Bool.eq_false_iff]
    intro hp
    obtain ⟨row', hrow', rfl⟩ := assertFencingTokenCurrent_isOk.mp hp
    cases hrow.symm.trans hrow'
    omega
  refused org token hs request now htoken := by
    obtain ⟨row, hrow, hlt⟩ := h.lt_of_superseded hs
    rw [hrow]
    cases hd : request.decide now (some row) with
    | error => rfl
    | ok =>
      have heq := LeaseRequest.decide_token htoken hd
      omega
  accepted tx htx token row plan htoken hstage hs := by
    have hold := h.stages tx htx
    have hheld : s.leases tx.organizationId = some row := hold.locked row (by rw [hstage]; rfl)
    obtain ⟨row', hrow', hlt⟩ := h.lt_of_superseded hs
    cases hheld.symm.trans hrow'
    have heq := LeaseRequest.decide_token htoken (hold.decided (some row) plan hstage)
    omega
  promoted := h.promoted

/-- Whatever the nodes do in whatever order, the law holds in every state reached. -/
theorem leaseLaw_of_run {ls : List LeaseLabel} (hrun : leaseSystem.run {} ls = some s) :
    LeaseLaw s :=
  (leaseSystem.inv_of_run (I := LeaseInv) (fun _ _ _ h hs => h.next hs) leaseInv_start hrun).law

/-- Node 1 lets its lease expire, the cloud is promoted, and its heartbeat comes too late. -/
def failoverRun : List LeaseLabel :=
  [.begin 7 (.acquire 1 none none none) 0, .read 0, .nextval 0, .commit 0,
    .begin 7 (.promoteCloud 2 .fresh none) 60000, .read 1, .nextval 1, .commit 1,
    .begin 7 (.heartbeat 1 1 none none) 60001, .read 2]

theorem leaseLaw_failoverRun :
    LeaseLaw ((leaseSystem.run {} failoverRun).get (by decide +kernel)) :=
  leaseLaw_of_run (Option.some_get _).symm

end JavisSaas.Cosa.ControlPlane
