import JavisSaas.Lib.Table
import JavisSaas.Lib.Transition
import JavisSaas.Cosa.Snowflake.Generator

/-!
# Generator slots

`services/cosa/services/snowflake-registry.service.ts` over `snowflake_generator_slots`, and any
number of processes. A process reads the active slots and writes its row in two steps, and binds the
slot to its generator in a third; `now` is the clock that the step reads.

* `acquireExisting`, `acquireFree`, `renewGeneratorLease`, `releaseGeneratorSlot`: the writes.
* `snowflakes`: the processes and their registry as a system.
-/

namespace JavisSaas.Cosa.Snowflake

open JavisSaas.Lib

/-! ## The registry -/

inductive GeneratorRuntimeRole
  | cosaControlPlane
  | cloudWorkspaceRuntime

/-- A row of `control_plane.snowflake_generator_slots`. -/
structure GeneratorSlot where
  generatorId : String
  slot : ℤ
  runtimeRole : GeneratorRuntimeRole
  leaseEpoch : ℤ
  fencingToken : ℤ
  leaseExpiresAt : ℤ
  lastHeartbeatAt : ℤ
  clockCheckpoint : ℤ := 0

/-- Primary key `generator_id`, unique index `uq_snowflake_generator_slot`. -/
@[reducible] def slotSchema : Schema GeneratorSlot where
  Key := String
  key r := r.generatorId
  Index := Unit
  indexes := [()]
  Val _ := ℤ
  val _ r := some r.slot
  decKey := inferInstance
  decVal _ := inferInstance

abbrev SlotTable := Table slotSchema

def defaultLeaseTtlSec : ℤ := 60

structure AcquireParams where
  generatorId : String
  runtimeRole : GeneratorRuntimeRole
  ttlSec : ℤ := defaultLeaseTtlSec

structure GeneratorSlotLease where
  generatorId : String
  slot : ℤ
  runtimeRole : GeneratorRuntimeRole
  leaseEpoch : ℤ
  fencingToken : ℤ
  leaseExpiresAt : ℤ
  clockCheckpoint : ℤ

def toLease (r : GeneratorSlot) : GeneratorSlotLease where
  generatorId := r.generatorId
  slot := r.slot
  runtimeRole := r.runtimeRole
  leaseEpoch := r.leaseEpoch
  fencingToken := r.fencingToken
  leaseExpiresAt := r.leaseExpiresAt
  clockCheckpoint := r.clockCheckpoint

inductive RegistryError
  | violation (v : Violation slotSchema)
  | noFreeSlot
  | leaseNotValid

/-- The row of a generator that has one, renewed (lines 75–90); `nextval` is the token of a new
    lease. -/
def reacquire (params : AcquireParams) (now nextval : ℤ) (r : GeneratorSlot) : GeneratorSlot :=
  let stillValid := now < r.leaseExpiresAt
  { r with
    leaseEpoch := if stillValid then r.leaseEpoch else r.leaseEpoch + 1
    fencingToken := if stillValid then r.fencingToken else nextval
    leaseExpiresAt := now + params.ttlSec * 1000
    lastHeartbeatAt := now }

def acquireExisting (t : SlotTable) (params : AcquireParams) (existing : GeneratorSlot)
    (now nextval : ℤ) : Except (Violation slotSchema) (SlotTable × GeneratorSlotLease) := do
  let t' ← t.update existing.generatorId (reacquire params now nextval)
  return (t', toLease (reacquire params now nextval existing))

/-- The slots whose lease has not expired (lines 94–98). -/
def activeSlots (t : SlotTable) (now : ℤ) : List ℤ :=
  (t.rows.filter fun r => now < r.leaseExpiresAt).map (·.slot)

/-- `for (let slot = 0; slot <= MAX_SLOT; slot++) if (activeSlots.has(slot)) continue`. -/
def firstFree (active : List ℤ) : ℕ → ℤ → Option ℤ
  | 0, _ => none
  | n + 1, slot => if slot ∈ active then firstFree active n (slot + 1) else some slot

/-- The columns of a slot taken over from an expired holder (lines 114–124). -/
def takeOver (params : AcquireParams) (now nextval : ℤ) (r : GeneratorSlot) : GeneratorSlot :=
  { r with
    generatorId := params.generatorId
    runtimeRole := params.runtimeRole
    leaseEpoch := 1
    fencingToken := nextval
    leaseExpiresAt := now + params.ttlSec * 1000
    lastHeartbeatAt := now
    clockCheckpoint := 0 }

/-- A row for a slot that nobody has held (lines 130–140). -/
def newSlot (params : AcquireParams) (now nextval slot : ℤ) : GeneratorSlot where
  generatorId := params.generatorId
  slot := slot
  runtimeRole := params.runtimeRole
  leaseEpoch := 1
  fencingToken := nextval
  leaseExpiresAt := now + params.ttlSec * 1000
  lastHeartbeatAt := now

/-- Lines 100–149; a unique violation aborts, so that no further slot is tried. -/
def acquireFree (t : SlotTable) (params : AcquireParams) (now nextval : ℤ) (active : List ℤ) :
    Except RegistryError (SlotTable × GeneratorSlotLease) :=
  match firstFree active 1024 0 with
  | none => .error .noFreeSlot
  | some slot =>
    match t.rows.find? fun r => r.slot = slot ∧ r.leaseExpiresAt ≤ now with
    | some expired =>
      match t.update expired.generatorId (takeOver params now nextval) with
      | .error v => .error (.violation v)
      | .ok t' => .ok (t', toLease (takeOver params now nextval expired))
    | none =>
      match t.insert (newSlot params now nextval slot) with
      | .error v => .error (.violation v)
      | .ok t' => .ok (t', toLease (newSlot params now nextval slot))

structure RenewParams where
  generatorId : String
  fencingToken : ℤ
  clockCheckpointMs : Option ℤ := none
  ttlSec : ℤ := defaultLeaseTtlSec

/-- The row is held under this token and has not expired. -/
def Renewable (params : RenewParams) (now : ℤ) (r : GeneratorSlot) : Prop :=
  r.generatorId = params.generatorId ∧ r.fencingToken = params.fencingToken ∧
    now < r.leaseExpiresAt
deriving Decidable

def renew (params : RenewParams) (now : ℤ) (r : GeneratorSlot) : GeneratorSlot :=
  { r with
    leaseExpiresAt := now + params.ttlSec * 1000
    lastHeartbeatAt := now
    clockCheckpoint :=
      match params.clockCheckpointMs with
      | some ms => max r.clockCheckpoint ms
      | none => r.clockCheckpoint }

def renewGeneratorLease (t : SlotTable) (params : RenewParams) (now : ℤ) :
    Except RegistryError (SlotTable × ℤ) :=
  match t.rows.find? fun r => Renewable params now r with
  | none => .error .leaseNotValid
  | some r =>
    match t.update r.generatorId (renew params now) with
    | .error v => .error (.violation v)
    | .ok t' => .ok (t', now + params.ttlSec * 1000)

def releaseGeneratorSlot (t : SlotTable) (generatorId : String) :
    Except (Violation slotSchema) SlotTable :=
  t.update generatorId fun r => { r with leaseExpiresAt := 0 }

/-! ## Processes -/

/-- A process; its lease is `some` between `acquireGeneratorSlot` and `configureGeneratorSlot`. -/
structure Process where
  generator : Generator := {}
  lease : Option GeneratorSlotLease := none
  /-- `boundGeneratorId` and `boundFencingToken`. -/
  bound : Option (String × ℤ) := none

/-- An acquisition between the read of the active slots and its write. -/
structure Acquiring where
  pid : ℕ
  params : AcquireParams
  now : ℤ
  active : List ℤ

structure SnowflakeState where
  registry : SlotTable := ∅
  /-- The last value of the sequence `snowflake_fencing_seq`. -/
  fencingSeq : ℤ := 0
  acquiring : List Acquiring := []
  procs : ℕ → Process := fun _ => {}
  /-- Ghost: the identifiers issued, each with its process. -/
  issued : List (ℕ × ℤ) := []

inductive SnowflakeLabel
  | acquireRead (pid : ℕ) (params : AcquireParams) (now : ℤ)
  | acquireWrite (i : ℕ)
  | bind (pid : ℕ)
  | heartbeat (pid : ℕ) (clockCheckpointMs : Option ℤ) (now : ℤ)
  | release (generatorId : String)
  | generate (pid : ℕ) (now : ℤ) (readings : List ℤ)

def SnowflakeState.setProc (s : SnowflakeState) (pid : ℕ) (p : Process) : SnowflakeState :=
  { s with procs := Function.update s.procs pid p }

/-- Any number of processes, their clocks and the registry, under any interleaving. -/
def snowflakes (env : Env) : System SnowflakeState SnowflakeLabel where
  next s
    | .acquireRead pid params now =>
      match s.registry.get? params.generatorId with
      | some existing =>
        -- a new token is drawn for an expired lease only
        let seq := if now < existing.leaseExpiresAt then s.fencingSeq else s.fencingSeq + 1
        match acquireExisting s.registry params existing now seq with
        | .error _ => some { s with fencingSeq := seq }
        | .ok (t, lease) =>
          some ({ s with registry := t, fencingSeq := seq }.setProc pid
            { s.procs pid with lease := some lease })
      | none =>
        let tx : Acquiring := ⟨pid, params, now, activeSlots s.registry now⟩
        some { s with acquiring := s.acquiring ++ [tx] }
    | .acquireWrite i => do
      let tx ← s.acquiring[i]?
      let rest := s.acquiring.eraseIdx i
      match acquireFree s.registry tx.params tx.now (s.fencingSeq + 1) tx.active with
      | .error .noFreeSlot => some { s with acquiring := rest }
      | .error _ => some { s with fencingSeq := s.fencingSeq + 1, acquiring := rest }
      | .ok (t, lease) =>
        some ({ s with
          registry := t
          fencingSeq := s.fencingSeq + 1
          acquiring := rest }.setProc tx.pid { s.procs tx.pid with lease := some lease })
    | .bind pid => do
      let lease ← (s.procs pid).lease
      match configureGeneratorSlot (s.procs pid).generator lease.slot with
      | .error _ => some (s.setProc pid { s.procs pid with lease := none })
      | .ok g => some (s.setProc pid ⟨g, none, some (lease.generatorId, lease.fencingToken)⟩)
    | .heartbeat pid clockCheckpointMs now =>
      match (s.procs pid).bound with
      | none => some s
      | some (generatorId, fencingToken) =>
        match renewGeneratorLease s.registry ⟨generatorId, fencingToken, clockCheckpointMs,
            defaultLeaseTtlSec⟩ now with
        | .error _ => some s
        | .ok (t, _) => some { s with registry := t }
    | .release generatorId =>
      match releaseGeneratorSlot s.registry generatorId with
      | .error _ => some s
      | .ok t => some { s with registry := t }
    | .generate pid now readings =>
      match generateSnowflake env (s.procs pid).generator now readings with
      | none => none
      | some (g, .error _) => some (s.setProc pid { s.procs pid with generator := g })
      | some (g, .ok id) =>
        some { s.setProc pid { s.procs pid with generator := g } with
          issued := s.issued ++ [(pid, id)] }

/-- What a call of `generateSnowflake` adds to the identifiers issued. -/
def issuedOf (pid : ℕ) : Except GeneratorError ℤ → List (ℕ × ℤ)
  | .ok id => [(pid, id)]
  | .error _ => []

/-- What one step does to the generators and the identifiers. -/
inductive GeneratorStep (env : Env) (s s' : SnowflakeState) (l : SnowflakeLabel) : Prop
  | idle (hg : ∀ p, (s'.procs p).generator = (s.procs p).generator) (hi : s'.issued = s.issued)
  | bind (pid : ℕ) (slot : ℤ) (hslot : ValidSlot slot)
      (hg : ∀ p, (s'.procs p).generator =
        if p = pid then { (s.procs p).generator with configuredSlot := some slot }
        else (s.procs p).generator)
      (hi : s'.issued = s.issued)
  | generate (pid : ℕ) (now : ℤ) (readings : List ℤ) (g : Generator)
      (res : Except GeneratorError ℤ) (hl : l = .generate pid now readings)
      (hgen : generateSnowflake env (s.procs pid).generator now readings = some (g, res))
      (hg : ∀ p, (s'.procs p).generator = if p = pid then g else (s.procs p).generator)
      (hi : s'.issued = s.issued ++ issuedOf pid res)

theorem setProc_generator (s : SnowflakeState) (pid : ℕ) (proc : Process) (p : ℕ) :
    ((s.setProc pid proc).procs p).generator =
      if p = pid then proc.generator else (s.procs p).generator := by
  simp only [SnowflakeState.setProc, Function.update_apply]
  split_ifs <;> rfl

theorem snowflakes_cases {env : Env} {s s' : SnowflakeState} {l : SnowflakeLabel}
    (h : (snowflakes env).next s l = some s') : GeneratorStep env s s' l := by
  -- a process whose lease changes keeps its generator
  have hlease : ∀ (s₁ : SnowflakeState) (pid : ℕ) (proc : Process), s₁.procs = s.procs →
      proc.generator = (s.procs pid).generator →
      ∀ p, ((s₁.setProc pid proc).procs p).generator = (s.procs p).generator := by
    intro s₁ pid proc hprocs hgen p
    rw [setProc_generator, hprocs]
    split_ifs with hp
    · rw [hgen, hp]
    · rfl
  cases l with
  | acquireRead =>
    simp only [snowflakes] at h
    split at h
    · split at h
      · cases h; exact .idle (fun _ => rfl) rfl
      · cases h; exact .idle (hlease _ _ _ rfl rfl) rfl
    · cases h; exact .idle (fun _ => rfl) rfl
  | acquireWrite =>
    obtain ⟨tx, hi, h⟩ := Option.bind_eq_some_iff.mp h
    dsimp only at h
    split at h
    · cases h; exact .idle (fun _ => rfl) rfl
    · cases h; exact .idle (fun _ => rfl) rfl
    · cases h; exact .idle (hlease _ _ _ rfl rfl) rfl
  | bind pid =>
    obtain ⟨lease, hl, h⟩ := Option.bind_eq_some_iff.mp h
    split at h
    · cases h; exact .idle (hlease _ _ _ rfl rfl) rfl
    · rename_i g hconf
      cases h
      unfold configureGeneratorSlot at hconf
      split_ifs at hconf with hslot
      cases hconf
      refine .bind pid lease.slot hslot (fun p => ?_) rfl
      rw [setProc_generator]
      split_ifs with hp
      · rw [hp]
      · rfl
  | heartbeat =>
    simp only [snowflakes] at h
    split at h
    · cases h; exact .idle (fun _ => rfl) rfl
    · split at h <;> cases h <;> exact .idle (fun _ => rfl) rfl
  | release =>
    simp only [snowflakes] at h
    split at h <;> cases h <;> exact .idle (fun _ => rfl) rfl
  | generate pid now readings =>
    simp only [snowflakes] at h
    split at h
    · cases h
    · rename_i g e hgen
      cases h
      exact .generate pid now readings g (.error e) rfl hgen (setProc_generator _ _ _)
        (List.append_nil _).symm
    · rename_i g id hgen
      cases h
      exact .generate pid now readings g (.ok id) rfl hgen (setProc_generator _ _ _) rfl

end JavisSaas.Cosa.Snowflake
