import Mathlib.Data.Int.Notation
import JavisSaas.Lib.Calls
import JavisSaas.Lib.Dict

/-!
# Leases of runs

`services/cosa/services/control-plane-lease.service.ts`, and the manager in memory,
`packages/agent/runs/leases.py`. A call reads the clock, and then the lease of its run, which in
Postgres it locks until it has written; where it finds none, another may insert one before it does.

* `runLeaseLaw_along`: of the leases that the workers were told of, at most one is unexpired; and a
  superseded token is refused.
-/

namespace JavisSaas.Cosa.ControlPlane

open JavisSaas.Lib

/-! ## Leases -/

/-- Where the leases are kept. -/
inductive LeaseBackend
  | postgres
  | memory
  deriving DecidableEq

/-- A lease of a run; times in milliseconds. -/
structure RunLease where
  workerId : String
  leaseToken : String
  acquiredAt : ℤ
  expiresAt : ℤ
  heartbeatIntervalSec : ℤ

/-- A new token comes with the request that draws it. -/
inductive RunLeaseRequest
  | acquire (runId workerId : String) (ttlSec : Option ℤ) (leaseToken : String)
  | renew (runId workerId leaseToken : String) (additionalTtlSec : Option ℤ)
  | release (runId workerId leaseToken : String)

def defaultTtlSec : ℤ := 60

/-- `ttlSec ?? DEFAULT_TTL_SEC`, or `ttl_sec or self._default_ttl`. -/
def LeaseBackend.duration : LeaseBackend → Option ℤ → ℤ
  | postgres, ttlSec => ttlSec.getD defaultTtlSec
  | memory, some ttlSec => if ttlSec = 0 then defaultTtlSec else ttlSec
  | memory, none => defaultTtlSec

/-- The lease that is written for an acquisition. -/
def LeaseBackend.lease (b : LeaseBackend) (workerId leaseToken : String) (ttlSec : Option ℤ)
    (now : ℤ) : RunLease where
  workerId
  leaseToken
  acquiredAt := now
  expiresAt := now + b.duration ttlSec * 1000
  heartbeatIntervalSec := if b = .postgres then b.duration ttlSec else 30

/-- The lease belongs to another worker, and has not expired. -/
def RunLease.Foreign (row : RunLease) (workerId : String) (now : ℤ) : Prop :=
  now < row.expiresAt ∧ row.workerId ≠ workerId
deriving Decidable

/-- The lease is the one that a worker names. -/
def RunLease.Is (row : RunLease) (workerId leaseToken : String) : Prop :=
  row.workerId = workerId ∧ row.leaseToken = leaseToken
deriving Decidable

/-- `renewLease`: the lease that is written, if the call does not answer `false`. -/
def renewLease (b : LeaseBackend) (existing : Option RunLease) (workerId leaseToken : String)
    (additionalTtlSec : Option ℤ) (now : ℤ) : Option RunLease :=
  match existing with
  | none => none
  | some row =>
    if row.Is workerId leaseToken then
      some { row with expiresAt := now + b.duration additionalTtlSec * 1000 }
    else none

/-- `releaseLease`: whether the lease is deleted. -/
def releaseLease (existing : Option RunLease) (workerId leaseToken : String) : Bool :=
  match existing with
  | none => false
  | some row => row.Is workerId leaseToken

/-! ## Calls -/

/-- What a worker is told. -/
inductive LeaseNotice
  | acquired (expiresAt : ℤ)
  | renewed (expiresAt : ℤ)
  | released

structure LeaseEvent where
  runId : String
  workerId : String
  leaseToken : String
  notice : LeaseNotice

structure RunLeaseStore where
  clock : ℤ := 0
  leases : Dict String RunLease := ∅
  log : List LeaseEvent := []

inductive LeasePhase
  | starting
  /-- `SELECT … FOR UPDATE`, and what follows it under the lock. -/
  | reading (now : ℤ)
  /-- `INSERT … ON CONFLICT DO NOTHING` -/
  | inserting (now : ℤ)
  /-- The insert found a lease. -/
  | rechecking (now : ℤ)

structure RunLeaseCall where
  request : RunLeaseRequest
  phase : LeasePhase := .starting

/-- The acquisition succeeds. -/
def grantRunLease (b : LeaseBackend) (s : RunLeaseStore) (runId workerId leaseToken : String)
    (ttlSec : Option ℤ) (now : ℤ) : RunLeaseStore :=
  let lease := b.lease workerId leaseToken ttlSec now
  { s with
    leases := s.leases.set runId lease
    log := s.log ++ [⟨runId, workerId, leaseToken, .acquired lease.expiresAt⟩] }

/-- The lease is looked at: the acquisition fails if it is another worker's. -/
def acquireLease (b : LeaseBackend) (s : RunLeaseStore) (runId workerId leaseToken : String)
    (ttlSec : Option ℤ) (now : ℤ) (row : RunLease) : RunLeaseStore :=
  if row.Foreign workerId now then s else grantRunLease b s runId workerId leaseToken ttlSec now

/-- The step of a call in its phase. -/
def runLeasePhase (b : LeaseBackend) (s : RunLeaseStore) (c : RunLeaseCall) :
    RunLeaseStore × Option RunLeaseCall :=
  match c.phase, c.request with
  | .starting, _ => (s, some { c with phase := .reading s.clock })
  | .reading now, .acquire runId workerId ttlSec leaseToken =>
    match s.leases.get? runId with
    | some row => (acquireLease b s runId workerId leaseToken ttlSec now row, none)
    | none =>
      if b = .memory then (grantRunLease b s runId workerId leaseToken ttlSec now, none)
      else (s, some { c with phase := .inserting now })
  | .reading now, .renew runId workerId leaseToken additionalTtlSec =>
    match renewLease b (s.leases.get? runId) workerId leaseToken additionalTtlSec now with
    | some lease => ({ s with
        leases := s.leases.set runId lease
        log := s.log ++ [⟨runId, workerId, leaseToken, .renewed lease.expiresAt⟩] }, none)
    | none => (s, none)
  | .reading _, .release runId workerId leaseToken =>
    if releaseLease (s.leases.get? runId) workerId leaseToken then
      ({ s with
        leases := s.leases.erase runId
        log := s.log ++ [⟨runId, workerId, leaseToken, .released⟩] }, none)
    else (s, none)
  | .inserting now, .acquire runId workerId ttlSec leaseToken =>
    match s.leases.get? runId with
    | some _ => (s, some { c with phase := .rechecking now })
    | none => (grantRunLease b s runId workerId leaseToken ttlSec now, none)
  | .rechecking now, .acquire runId workerId ttlSec leaseToken =>
    match s.leases.get? runId with
    | some row => (acquireLease b s runId workerId leaseToken ttlSec now row, none)
    | none => (s, none)
  | .inserting _, _ => (s, none)
  | .rechecking _, _ => (s, none)

/-- The step is taken at a time that is not before the last one. -/
def runLeaseStep (b : LeaseBackend) (s : RunLeaseStore) (c : RunLeaseCall) (time : ℤ) :
    Option (RunLeaseStore × Option RunLeaseCall) :=
  if s.clock ≤ time then some (runLeasePhase b { s with clock := time } c) else none

def runLeaseService (b : LeaseBackend) :
    Service RunLeaseRequest RunLeaseStore RunLeaseCall ℤ where
  start request := { request }
  step := runLeaseStep b

/-! ## What the workers were told -/

/-- The last notice of a worker on a run. -/
def lastNotice (log : List LeaseEvent) (runId workerId : String) : Option LeaseEvent :=
  (log.filter fun e => e.runId = runId ∧ e.workerId = workerId).getLast?

/-- The token and the expiry that a notice leaves its worker with. -/
def LeaseEvent.held (e : LeaseEvent) : Option (String × ℤ) :=
  match e.notice with
  | .acquired expiresAt => some (e.leaseToken, expiresAt)
  | .renewed expiresAt => some (e.leaseToken, expiresAt)
  | .released => none

/-- What a worker holds, by what it was told last. -/
def told (log : List LeaseEvent) (runId workerId : String) : Option (String × ℤ) :=
  (lastNotice log runId workerId).bind LeaseEvent.held

/-- The worker holds a lease with this token, which is unexpired at the time. -/
def Holds (log : List LeaseEvent) (runId workerId leaseToken : String) (time : ℤ) : Prop :=
  ∃ expiresAt, told log runId workerId = some (leaseToken, expiresAt) ∧ time < expiresAt

/-- The acquisitions of a run, in their order. -/
def acquisitions (log : List LeaseEvent) (runId : String) : List (String × String) :=
  log.filterMap fun e =>
    match e.notice with
    | .acquired _ => if e.runId = runId then some (e.workerId, e.leaseToken) else none
    | _ => none

/-- The run was acquired again after the acquisition with this token. -/
def SupersededLease (log : List LeaseEvent) (runId workerId leaseToken : String) : Prop :=
  (workerId, leaseToken) ∈ (acquisitions log runId).dropLast

structure RunLeaseLaw (b : LeaseBackend) (s : RunLeaseStore) : Prop where
  oneHolder : ∀ runId workerId leaseToken workerId' leaseToken' time, s.clock ≤ time →
    Holds s.log runId workerId leaseToken time → Holds s.log runId workerId' leaseToken' time →
    workerId = workerId' ∧ leaseToken = leaseToken'
  /-- what a worker holds unexpired is the lease of the run -/
  kept : ∀ runId workerId leaseToken time, s.clock ≤ time →
    Holds s.log runId workerId leaseToken time →
    ∃ row, s.leases.get? runId = some row ∧ row.Is workerId leaseToken ∧ time < row.expiresAt
  superseded : ∀ runId workerId leaseToken, SupersededLease s.log runId workerId leaseToken →
    (∀ additionalTtlSec now,
      renewLease b (s.leases.get? runId) workerId leaseToken additionalTtlSec now = none) ∧
    releaseLease (s.leases.get? runId) workerId leaseToken = false

/-- `randomUUID`, or `uuid4`: an acquisition has a token that none before it had. -/
def FreshToken (s : RunLeaseStore) (c : RunLeaseCall) (_ : ℤ) : Prop :=
  match c.request with
  | .acquire runId workerId _ leaseToken => (workerId, leaseToken) ∉ acquisitions s.log runId
  | _ => True

instance (s : RunLeaseStore) (c : RunLeaseCall) (time : ℤ) : Decidable (FreshToken s c time) := by
  unfold FreshToken
  split <;> infer_instance

/-! ## The log -/

section

variable {log : List LeaseEvent} {e : LeaseEvent} {runId workerId leaseToken : String}

theorem told_append : told (log ++ [e]) runId workerId =
    if e.runId = runId ∧ e.workerId = workerId then e.held else told log runId workerId := by
  unfold told lastNotice
  rw [List.filter_append]
  by_cases hsame : e.runId = runId ∧ e.workerId = workerId
  · rw [if_pos hsame, List.filter_cons_of_pos (by simpa using hsame), List.filter_nil,
      List.getLast?_append]
    rfl
  · rw [if_neg hsame, List.filter_cons_of_neg (by simpa using hsame), List.filter_nil,
      List.append_nil]

theorem acquisitions_append_acquired {expiresAt : ℤ} {runId' : String} :
    acquisitions (log ++ [⟨runId, workerId, leaseToken, .acquired expiresAt⟩]) runId' =
      if runId = runId' then acquisitions log runId' ++ [(workerId, leaseToken)]
      else acquisitions log runId' := by
  unfold acquisitions
  rw [List.filterMap_append]
  split_ifs with hsame <;> simp [hsame]

theorem acquisitions_append_of_ne (h : ∀ expiresAt, e.notice ≠ .acquired expiresAt) :
    acquisitions (log ++ [e]) runId = acquisitions log runId := by
  unfold acquisitions
  rw [List.filterMap_append]
  cases hnotice : e.notice with
  | acquired expiresAt => exact absurd hnotice (h expiresAt)
  | renewed | released => simp [hnotice]

end

/-! ## What the steps keep -/

structure RunLeaseInv (s : RunLeaseStore) : Prop where
  /-- what a worker was told of has expired, or is the lease of the run -/
  held : ∀ runId workerId leaseToken expiresAt,
    told s.log runId workerId = some (leaseToken, expiresAt) → expiresAt ≤ s.clock ∨
      ∃ row, s.leases.get? runId = some row ∧ row.Is workerId leaseToken ∧
        row.expiresAt = expiresAt
  last : ∀ runId row, s.leases.get? runId = some row →
    (acquisitions s.log runId).getLast? = some (row.workerId, row.leaseToken)
  nodup : ∀ runId, (acquisitions s.log runId).Nodup

/-- The time that a call has read is past. -/
def ReadClock (s : RunLeaseStore) (c : RunLeaseCall) : Prop :=
  match c.phase with
  | .starting => True
  | .reading now => now ≤ s.clock
  | .inserting now => now ≤ s.clock
  | .rechecking now => now ≤ s.clock

section

variable {b : LeaseBackend} {s s' : RunLeaseStore} {runId workerId leaseToken : String}
  {ttlSec : Option ℤ} {now : ℤ}

theorem RunLeaseInv.tick (h : RunLeaseInv s) {time : ℤ} (hle : s.clock ≤ time) :
    RunLeaseInv { s with clock := time } where
  held runId workerId leaseToken expiresAt htold := by
    rcases h.held runId workerId leaseToken expiresAt htold with hexpired | hrow
    · exact .inl (Int.le_trans hexpired hle)
    · exact .inr hrow
  last := h.last
  nodup := h.nodup

/-- Unless the lease of the run is another worker's, what the others were told of has expired. -/
theorem RunLeaseInv.expired_of_not_foreign (h : RunLeaseInv s) (hnow : now ≤ s.clock)
    (hfree : ∀ row, s.leases.get? runId = some row → ¬ row.Foreign workerId now)
    {workerId' leaseToken' : String} {expiresAt : ℤ} (hother : workerId ≠ workerId')
    (htold : told s.log runId workerId' = some (leaseToken', expiresAt)) :
    expiresAt ≤ s.clock := by
  rcases h.held runId workerId' leaseToken' expiresAt htold with hexpired | ⟨row, hrow, his, rfl⟩
  · exact hexpired
  · have hforeign : row.workerId ≠ workerId := fun hsame => hother (hsame.symm.trans his.1)
    have hpast : ¬ now < row.expiresAt := fun hlt => hfree row hrow ⟨hlt, hforeign⟩
    omega

/-- Where the lease of the run is a worker's, what the others were told of has expired. -/
theorem RunLeaseInv.expired_of_is (h : RunLeaseInv s) {row : RunLease}
    (hrow : s.leases.get? runId = some row) (his : row.Is workerId leaseToken)
    {workerId' leaseToken' : String} {expiresAt : ℤ} (hother : workerId ≠ workerId')
    (htold : told s.log runId workerId' = some (leaseToken', expiresAt)) :
    expiresAt ≤ s.clock := by
  rcases h.held runId workerId' leaseToken' expiresAt htold with hexpired | ⟨row', hrow', his', -⟩
  · exact hexpired
  · cases hrow.symm.trans hrow'
    exact absurd (his.1.symm.trans his'.1) hother

theorem RunLeaseInv.grant (h : RunLeaseInv s) (hnow : now ≤ s.clock)
    (hfree : ∀ row, s.leases.get? runId = some row → ¬ row.Foreign workerId now)
    (hfresh : (workerId, leaseToken) ∉ acquisitions s.log runId) :
    RunLeaseInv (grantRunLease b s runId workerId leaseToken ttlSec now) where
  held runId' workerId' leaseToken' expiresAt htold := by
    let lease := b.lease workerId leaseToken ttlSec now
    show _ ∨ ∃ row, (s.leases.set runId lease).get? runId' = some row ∧ _
    replace htold : told (s.log ++ [⟨runId, workerId, leaseToken, .acquired lease.expiresAt⟩])
      runId' workerId' = some (leaseToken', expiresAt) := htold
    rw [told_append] at htold
    rw [Dict.get?_set]
    by_cases hrun : runId = runId'
    · subst hrun
      rw [if_pos rfl]
      by_cases hworker : workerId = workerId'
      · rw [if_pos ⟨rfl, hworker⟩] at htold
        cases htold
        exact .inr ⟨lease, rfl, ⟨hworker, rfl⟩, rfl⟩
      · rw [if_neg fun hsame => hworker hsame.2] at htold
        exact .inl (h.expired_of_not_foreign hnow hfree hworker htold)
    · rw [if_neg fun hsame => hrun hsame.1] at htold
      rw [if_neg hrun]
      exact h.held runId' workerId' leaseToken' expiresAt htold
  last runId' row hrow := by
    replace hrow : (s.leases.set runId _).get? runId' = some row := hrow
    show (acquisitions (s.log ++ [_]) runId').getLast? = _
    rw [acquisitions_append_acquired]
    rw [Dict.get?_set] at hrow
    split_ifs at hrow ⊢ with hrun
    · cases hrow
      rw [List.getLast?_append]
      rfl
    · exact h.last runId' row hrow
  nodup runId' := by
    show (acquisitions (s.log ++ [_]) runId').Nodup
    rw [acquisitions_append_acquired]
    split_ifs with hrun
    · subst hrun
      exact List.nodup_append.mpr ⟨h.nodup runId, List.nodup_singleton _, fun p hp q hq hpq => by
        obtain rfl := List.mem_singleton.mp hq
        exact hfresh (hpq ▸ hp)⟩
    · exact h.nodup runId'

theorem RunLeaseInv.acquire (h : RunLeaseInv s) (hnow : now ≤ s.clock) {row : RunLease}
    (hrow : s.leases.get? runId = some row)
    (hfresh : (workerId, leaseToken) ∉ acquisitions s.log runId) :
    RunLeaseInv (acquireLease b s runId workerId leaseToken ttlSec now row) := by
  unfold acquireLease
  split_ifs with hforeign
  · exact h
  · refine h.grant hnow (fun row' hrow' => ?_) hfresh
    cases hrow.symm.trans hrow'
    exact hforeign

theorem renewLease_eq_some {existing : Option RunLease} {lease : RunLease}
    (h : renewLease b existing workerId leaseToken ttlSec now = some lease) :
    ∃ row, existing = some row ∧ row.Is workerId leaseToken ∧ lease.Is workerId leaseToken := by
  cases existing with
  | none => nomatch h
  | some row =>
    unfold renewLease at h
    dsimp only at h
    split_ifs at h with his
    cases h
    exact ⟨row, rfl, his, his⟩

theorem RunLeaseInv.renew (h : RunLeaseInv s) {lease : RunLease}
    (hrenew : renewLease b (s.leases.get? runId) workerId leaseToken ttlSec now = some lease) :
    RunLeaseInv { s with
      leases := s.leases.set runId lease
      log := s.log ++ [⟨runId, workerId, leaseToken, .renewed lease.expiresAt⟩] } := by
  obtain ⟨row, hrow, his, hlease⟩ := renewLease_eq_some hrenew
  have hacquisitions : ∀ runId', acquisitions
      (s.log ++ [⟨runId, workerId, leaseToken, .renewed lease.expiresAt⟩]) runId' =
        acquisitions s.log runId' := fun runId' => acquisitions_append_of_ne fun _ h => nomatch h
  refine ⟨fun runId' workerId' leaseToken' expiresAt htold => ?_, fun runId' row' hrow' => ?_,
    fun runId' => ?_⟩
  · show _ ∨ ∃ row, (s.leases.set runId lease).get? runId' = some row ∧ _
    replace htold : told (s.log ++ [⟨runId, workerId, leaseToken, .renewed lease.expiresAt⟩])
      runId' workerId' = some (leaseToken', expiresAt) := htold
    rw [told_append] at htold
    rw [Dict.get?_set]
    by_cases hrun : runId = runId'
    · subst hrun
      rw [if_pos rfl]
      by_cases hworker : workerId = workerId'
      · rw [if_pos ⟨rfl, hworker⟩] at htold
        cases htold
        exact .inr ⟨lease, rfl, hworker ▸ hlease, rfl⟩
      · rw [if_neg fun hsame => hworker hsame.2] at htold
        exact .inl (h.expired_of_is hrow his hworker htold)
    · rw [if_neg fun hsame => hrun hsame.1] at htold
      rw [if_neg hrun]
      exact h.held runId' workerId' leaseToken' expiresAt htold
  · show (acquisitions _ runId').getLast? = _
    rw [hacquisitions]
    replace hrow' : (s.leases.set runId lease).get? runId' = some row' := hrow'
    rw [Dict.get?_set] at hrow'
    split_ifs at hrow' with hrun
    · subst hrun
      cases hrow'
      rw [h.last runId row hrow, his.1, his.2, hlease.1, hlease.2]
    · exact h.last runId' row' hrow'
  · show (acquisitions _ runId').Nodup
    rw [hacquisitions]
    exact h.nodup runId'

theorem releaseLease_eq_true {existing : Option RunLease}
    (h : releaseLease existing workerId leaseToken = true) :
    ∃ row, existing = some row ∧ row.Is workerId leaseToken := by
  cases existing with
  | none => nomatch h
  | some row => exact ⟨row, rfl, of_decide_eq_true h⟩

theorem RunLeaseInv.release (h : RunLeaseInv s)
    (hrelease : releaseLease (s.leases.get? runId) workerId leaseToken = true) :
    RunLeaseInv { s with
      leases := s.leases.erase runId
      log := s.log ++ [⟨runId, workerId, leaseToken, .released⟩] } := by
  obtain ⟨row, hrow, his⟩ := releaseLease_eq_true hrelease
  have hacquisitions : ∀ runId', acquisitions
      (s.log ++ [⟨runId, workerId, leaseToken, .released⟩]) runId' = acquisitions s.log runId' :=
    fun runId' => acquisitions_append_of_ne fun _ h => nomatch h
  refine ⟨fun runId' workerId' leaseToken' expiresAt htold => ?_, fun runId' row' hrow' => ?_,
    fun runId' => ?_⟩
  · show _ ∨ ∃ row, (s.leases.erase runId).get? runId' = some row ∧ _
    replace htold : told (s.log ++ [⟨runId, workerId, leaseToken, .released⟩])
      runId' workerId' = some (leaseToken', expiresAt) := htold
    rw [told_append] at htold
    rw [Dict.get?_erase]
    by_cases hrun : runId = runId'
    · subst hrun
      by_cases hworker : workerId = workerId'
      · rw [if_pos ⟨rfl, hworker⟩] at htold
        nomatch htold
      · rw [if_neg fun hsame => hworker hsame.2] at htold
        exact .inl (h.expired_of_is hrow his hworker htold)
    · rw [if_neg fun hsame => hrun hsame.1] at htold
      rw [if_neg hrun]
      exact h.held runId' workerId' leaseToken' expiresAt htold
  · show (acquisitions _ runId').getLast? = _
    rw [hacquisitions]
    replace hrow' : (s.leases.erase runId).get? runId' = some row' := hrow'
    rw [Dict.get?_erase] at hrow'
    split_ifs at hrow' with hrun
    exact h.last runId' row' hrow'
  · show (acquisitions _ runId').Nodup
    rw [hacquisitions]
    exact h.nodup runId'

/-! ## The rule -/

theorem ReadClock.of_le {c : RunLeaseCall} (h : ReadClock s c) (hle : s.clock ≤ s'.clock) :
    ReadClock s' c := by
  unfold ReadClock at h ⊢
  cases hphase : c.phase with
  | starting => trivial
  | reading now | inserting now | rechecking now =>
    rw [hphase] at h
    exact Int.le_trans h hle

theorem RunLeaseInv.phase (h : RunLeaseInv s) {c : RunLeaseCall} {time : ℤ}
    (hread : ReadClock s c) (hfresh : FreshToken s c time) :
    RunLeaseInv (runLeasePhase b s c).1 ∧ (runLeasePhase b s c).1.clock = s.clock ∧
      ∀ d ∈ (runLeasePhase b s c).2, ReadClock s d := by
  have hended : ∀ {P : RunLeaseCall → Prop}, ∀ d ∈ (none : Option RunLeaseCall), P d :=
    fun _ hd => nomatch hd
  have hacquired : ∀ {runId workerId leaseToken ttlSec now row},
      (acquireLease b s runId workerId leaseToken ttlSec now row).clock = s.clock := by
    intro runId workerId leaseToken ttlSec now row
    unfold acquireLease
    split_ifs <;> rfl
  obtain ⟨request, phase⟩ := c
  cases phase with
  | starting =>
    refine ⟨h, rfl, fun d hd => ?_⟩
    cases hd
    exact Int.le_refl s.clock
  | reading now =>
    cases request with
    | acquire runId =>
      unfold runLeasePhase
      dsimp only
      cases hrow : s.leases.get? runId with
      | some => exact ⟨h.acquire hread hrow hfresh, hacquired, hended⟩
      | none =>
        dsimp only
        split_ifs with hmemory
        · refine ⟨h.grant hread (fun row hrow' => ?_) hfresh, rfl, hended⟩
          nomatch hrow.symm.trans hrow'
        · refine ⟨h, rfl, fun d hd => ?_⟩
          cases hd
          exact hread
    | renew runId workerId leaseToken additionalTtlSec =>
      unfold runLeasePhase
      dsimp only
      cases hrenew : renewLease b (s.leases.get? runId) workerId leaseToken additionalTtlSec now with
      | some => exact ⟨h.renew hrenew, rfl, hended⟩
      | none => exact ⟨h, rfl, hended⟩
    | release =>
      unfold runLeasePhase
      dsimp only
      split_ifs with hrelease
      · exact ⟨h.release hrelease, rfl, hended⟩
      · exact ⟨h, rfl, hended⟩
  | inserting =>
    cases request with
    | acquire runId =>
      unfold runLeasePhase
      dsimp only
      cases hrow : s.leases.get? runId with
      | some =>
        refine ⟨h, rfl, fun d hd => ?_⟩
        cases hd
        exact hread
      | none =>
        refine ⟨h.grant hread (fun row hrow' => ?_) hfresh, rfl, hended⟩
        nomatch hrow.symm.trans hrow'
    | renew | release => exact ⟨h, rfl, hended⟩
  | rechecking =>
    cases request with
    | acquire runId =>
      unfold runLeasePhase
      dsimp only
      cases hrow : s.leases.get? runId with
      | some => exact ⟨h.acquire hread hrow hfresh, hacquired, hended⟩
      | none => exact ⟨h, rfl, hended⟩
    | renew | release => exact ⟨h, rfl, hended⟩

theorem runLeaseRule (b : LeaseBackend) :
    (runLeaseService b).Rule FreshToken RunLeaseInv ReadClock where
  start _ _ _ := trivial
  step s c time s' c' h hread hfresh hs := by
    replace hs : runLeaseStep b s c time = some (s', c') := hs
    unfold runLeaseStep at hs
    split_ifs at hs with hle
    have hphase : runLeasePhase b { s with clock := time } c = (s', c') := Option.some.inj hs
    have hread' : ReadClock { s with clock := time } c := hread.of_le hle
    have hfresh' : FreshToken { s with clock := time } c time := hfresh
    obtain ⟨hinv, hclock, hown⟩ := (h.tick hle).phase (b := b) hread' hfresh'
    rw [hphase] at hinv hclock hown
    refine ⟨hinv, fun d hd => hd.of_le (hclock ▸ hle), fun d hd => ?_⟩
    exact (hown d hd).of_le (Int.le_of_eq hclock.symm)
  abort _ _ h _ := ⟨h, fun _ hd => hd⟩

theorem runLeaseInv_empty : RunLeaseInv {} where
  held _ _ _ _ h := nomatch h
  last _ _ h := nomatch h
  nodup _ := List.nodup_nil

theorem RunLeaseInv.law (h : RunLeaseInv s) : RunLeaseLaw b s := by
  have hkept : ∀ runId workerId leaseToken time, s.clock ≤ time →
      Holds s.log runId workerId leaseToken time →
      ∃ row, s.leases.get? runId = some row ∧ row.Is workerId leaseToken ∧
        time < row.expiresAt := by
    rintro runId workerId leaseToken time hle ⟨expiresAt, htold, hlt⟩
    rcases h.held runId workerId leaseToken expiresAt htold with hexpired | ⟨row, hrow, his, rfl⟩
    · omega
    · exact ⟨row, hrow, his, hlt⟩
  refine ⟨fun runId w token w' token' time hle hholds hholds' => ?_, hkept,
    fun runId workerId leaseToken hsuperseded => ?_⟩
  · obtain ⟨row, hrow, his, -⟩ := hkept runId w token time hle hholds
    obtain ⟨row', hrow', his', -⟩ := hkept runId w' token' time hle hholds'
    cases hrow.symm.trans hrow'
    exact ⟨his.1.symm.trans his'.1, his.2.symm.trans his'.2⟩
  · have hnot : ∀ row, s.leases.get? runId = some row → ¬ row.Is workerId leaseToken := by
      rintro row hrow ⟨rfl, rfl⟩
      -- the lease has the last token, which is none of those before it
      have hlast := h.last runId row hrow
      have hsplit := List.dropLast_append_getLast? _ hlast
      have hnodup := h.nodup runId
      rw [← hsplit, List.nodup_append] at hnodup
      exact hnodup.2.2 _ hsuperseded _ (List.mem_singleton_self _) rfl
    cases hrow : s.leases.get? runId with
    | none => exact ⟨fun _ _ => rfl, rfl⟩
    | some row =>
      have his := hnot row hrow
      refine ⟨fun additionalTtlSec now => ?_, ?_⟩
      · show (if row.Is workerId leaseToken then _ else none) = none
        rw [if_neg his]
      · exact decide_eq_false his

end

/-- In every run, at whatever times, the law holds. -/
theorem runLeaseLaw_along {b : LeaseBackend} {ls : List (CallLabel RunLeaseRequest ℤ)}
    {s : InFlight RunLeaseStore RunLeaseCall}
    (hfresh : (runLeaseService b).system.Along (Service.Meets FreshToken) { store := {} } ls)
    (hrun : (runLeaseService b).system.run { store := {} } ls = some s) :
    RunLeaseLaw b s.store :=
  ((runLeaseRule b).inv_of_along (.of_empty runLeaseInv_empty) hfresh hrun).store.law

/-- Two workers insert a lease, the second is refused; it acquires the expired one, and the first
renews too late. -/
def contendedRun : List (CallLabel RunLeaseRequest ℤ) :=
  [.start (.acquire "r" "a" none "t1"), .start (.acquire "r" "b" none "t2"), .step 0 0, .step 1 0,
    .step 0 1, .step 1 1, .step 0 2, .step 1 2, .step 1 3, .start (.acquire "r" "b" none "t3"),
    .step 2 60000, .step 2 60000, .start (.renew "r" "a" "t1" none), .step 3 60001, .step 3 60001]

theorem runLeaseLaw_contendedRun :
    RunLeaseLaw .postgres
      (((runLeaseService .postgres).system.run { store := {} } contendedRun).get
        (by decide +kernel)).store :=
  runLeaseLaw_along (by decide +kernel) (Option.some_get _).symm

end JavisSaas.Cosa.ControlPlane
