import JavisSaas.Lib.Bits

/-!
# The Snowflake generator

`services/cosa/services/snowflake.service.ts`: the module state of one process, the layout of an
identifier (41 bits of milliseconds, a reserved bit, 10 bits of slot, 12 bits of sequence) and its
decoding. The clock readings are arguments.

* `decodeSnowflake_pack`: decoding inverts packing.
* `generateSnowflake_spec`: what a generated identifier is made of.
-/

namespace JavisSaas.Cosa.Snowflake

open JavisSaas.Lib

/-! ## Layout (lines 12–20, 88–106) -/

/-- 2024-01-01T00:00:00Z. -/
def cosaSnowflakeEpochMs : ℤ := 1704067200000

/-- One reserved bit, 10 bits of slot, 12 bits of sequence. -/
def timestampShift : ℕ := 23

def slotShift : ℕ := 12

def maxSequence : ℤ := 4095

def maxSlot : ℤ := 1023

def clockDriftBudgetMs : ℤ := 5000

/-- The fields of an identifier, put together. -/
def pack (timestamp slot sequence : ℤ) : ℤ :=
  Int.lor (Int.lor ((timestamp - cosaSnowflakeEpochMs) <<< (timestampShift : ℤ))
    (slot <<< (slotShift : ℤ))) sequence

structure DecodedSnowflake where
  timestampMs : ℤ
  slot : ℤ
  sequence : ℤ

def decodeSnowflake (id : ℤ) : DecodedSnowflake where
  timestampMs := (id >>> (timestampShift : ℤ)) + cosaSnowflakeEpochMs
  slot := Int.land (id >>> (slotShift : ℤ)) 1023
  sequence := Int.land id maxSequence

def ValidSlot (slot : ℤ) : Prop := 0 ≤ slot ∧ slot ≤ maxSlot
deriving Decidable

def ValidSequence (sequence : ℤ) : Prop := 0 ≤ sequence ∧ sequence ≤ maxSequence

variable {timestamp slot sequence : ℤ} {g : Generator}

theorem pack_eq (hslot : ValidSlot slot) (hseq : ValidSequence sequence) :
    pack timestamp slot sequence =
      (timestamp - cosaSnowflakeEpochMs) * 2 ^ timestampShift + slot * 2 ^ slotShift + sequence := by
  unfold ValidSlot maxSlot at hslot
  unfold ValidSequence maxSequence at hseq
  unfold pack
  rw [Int.shiftLeft_eq_mul_pow, Int.shiftLeft_eq_mul_pow]
  push_cast
  have hinner : Int.lor ((timestamp - cosaSnowflakeEpochMs) * 2 ^ timestampShift)
      (slot * 2 ^ slotShift) =
      (timestamp - cosaSnowflakeEpochMs) * 2 ^ timestampShift + slot * 2 ^ slotShift := by
    refine lor_eq_add _ _ _ ?_ ?_ <;> simp only [timestampShift, slotShift] <;> omega
  have hfactor : (timestamp - cosaSnowflakeEpochMs) * 2 ^ timestampShift + slot * 2 ^ slotShift =
      ((timestamp - cosaSnowflakeEpochMs) * 2 ^ 11 + slot) * 2 ^ slotShift := by
    simp only [timestampShift, slotShift]; ring
  rw [hinner, hfactor]
  refine lor_eq_add _ _ _ hseq.1 ?_
  simp only [slotShift]
  omega

theorem decodeSnowflake_pack (hslot : ValidSlot slot) (hseq : ValidSequence sequence) :
    decodeSnowflake (pack timestamp slot sequence) = ⟨timestamp, slot, sequence⟩ := by
  have hmask : (1023 : ℤ) = 2 ^ 10 - 1 := by norm_num
  have hseqmask : maxSequence = 2 ^ 12 - 1 := by norm_num [maxSequence]
  rw [pack_eq hslot hseq]
  unfold ValidSlot maxSlot at hslot
  unfold ValidSequence maxSequence at hseq
  unfold decodeSnowflake
  rw [shiftRight_eq_ediv, shiftRight_eq_ediv, hmask, hseqmask, land_two_pow_sub_one,
    land_two_pow_sub_one]
  simp only [timestampShift, slotShift, DecodedSnowflake.mk.injEq]
  refine ⟨?_, ?_, ?_⟩ <;> omega

theorem pack_injective {t t' slot slot' seq seq' : ℤ} (hs : ValidSlot slot) (hs' : ValidSlot slot')
    (hq : ValidSequence seq) (hq' : ValidSequence seq')
    (h : pack t slot seq = pack t' slot' seq') : t = t' ∧ slot = slot' ∧ seq = seq' := by
  have := congrArg decodeSnowflake h
  rw [decodeSnowflake_pack hs hq, decodeSnowflake_pack hs' hq', DecodedSnowflake.mk.injEq] at this
  exact this

/-! ## The generator (lines 22–93) -/

/-- What `resolveSlot` reads of the process's environment. -/
structure Env where
  testOrDev : Bool
  stagingOrProd : Bool
  /-- `Number(COSA_SNOWFLAKE_TEST_SLOT)`, when it is an integer. -/
  testSlot : Option ℤ := none

/-- The module state of a process. -/
structure Generator where
  configuredSlot : Option ℤ := none
  sequence : ℤ := 0
  lastTimestamp : ℤ := -1

inductive GeneratorError
  | invalidSlot (slot : ℤ)
  | unconfigured
  | clockRegression (driftMs : ℤ)
  deriving DecidableEq

def configureGeneratorSlot (g : Generator) (slot : ℤ) : Except GeneratorError Generator :=
  if ValidSlot slot then .ok { g with configuredSlot := some slot }
  else .error (.invalidSlot slot)

def resolveSlot (env : Env) (g : Generator) : Except GeneratorError ℤ :=
  match g.configuredSlot with
  | some slot => .ok slot
  | none =>
    if env.testOrDev then
      let parsed := env.testSlot.getD 0
      .ok (if ValidSlot parsed then parsed else 0)
    else if env.stagingOrProd then .error .unconfigured
    else .ok 0

/-- `readings` are those of the spin loop, up to the first past `lastTimestamp`; `none` while it
spins. -/
def advance (g : Generator) (now : ℤ) (readings : List ℤ) :
    Option (Except GeneratorError (ℤ × ℤ)) :=
  if now < g.lastTimestamp ∧ clockDriftBudgetMs < g.lastTimestamp - now then
    some (.error (.clockRegression (g.lastTimestamp - now)))
  else
    -- a clock that went back a little is held at the last timestamp
    let timestamp := if now < g.lastTimestamp then g.lastTimestamp else now
    if timestamp = g.lastTimestamp then
      let sequence := Int.land (g.sequence + 1) maxSequence
      if sequence = 0 then
        (readings.find? fun next => g.lastTimestamp < next).map fun next => .ok (next, 0)
      else some (.ok (timestamp, sequence))
    else some (.ok (timestamp, 0))

/-- The generator has moved on when `resolveSlot` throws. -/
def generateSnowflake (env : Env) (g : Generator) (now : ℤ) (readings : List ℤ) :
    Option (Generator × Except GeneratorError ℤ) :=
  match advance g now readings with
  | none => none
  | some (.error e) => some (g, .error e)
  | some (.ok (timestamp, sequence)) =>
    let g' := { g with sequence := sequence, lastTimestamp := timestamp }
    some (g', (resolveSlot env g').map fun slot => pack timestamp slot sequence)

/-- The order in which one generator counts. -/
def Before (t seq t' seq' : ℤ) : Prop := t < t' ∨ (t = t' ∧ seq < seq')

/-- The next identifier's fields come after the last one's, and not before the clock. -/
theorem advance_spec {now : ℤ} {readings : List ℤ} (hseq : ValidSequence g.sequence)
    (h : advance g now readings = some (.ok (timestamp, sequence))) :
    ValidSequence sequence ∧ Before g.lastTimestamp g.sequence timestamp sequence ∧
      now ≤ timestamp := by
  have hmask : Int.land (g.sequence + 1) maxSequence = (g.sequence + 1) % 4096 :=
    land_two_pow_sub_one 12 _
  unfold ValidSequence maxSequence at hseq
  unfold ValidSequence maxSequence Before
  unfold advance at h
  simp only [hmask] at h
  by_cases hdrift : now < g.lastTimestamp ∧ clockDriftBudgetMs < g.lastTimestamp - now
  · rw [if_pos hdrift] at h
    cases h
  rw [if_neg hdrift] at h
  -- the timestamp that the clock and the last identifier give
  generalize hts : (if now < g.lastTimestamp then g.lastTimestamp else now) = ts at h
  have hnow : now ≤ ts ∧ g.lastTimestamp ≤ ts := by rw [← hts]; split_ifs <;> omega
  by_cases hsame : ts = g.lastTimestamp
  · rw [if_pos hsame] at h
    by_cases hwrap : (g.sequence + 1) % 4096 = 0
    · rw [if_pos hwrap] at h
      obtain ⟨next, hfind, e⟩ := Option.map_eq_some_iff.mp h
      cases e
      have hlt : g.lastTimestamp < timestamp := by simpa using List.find?_some hfind
      omega
    · rw [if_neg hwrap] at h
      cases h
      omega
  · rw [if_neg hsame] at h
    cases h
    omega

/-- The fields of an identifier come after those of the last one, in the slot of the process. -/
theorem generateSnowflake_spec {env : Env} {g' : Generator} {now : ℤ} {readings : List ℤ}
    {res : Except GeneratorError ℤ} (hseq : ValidSequence g.sequence)
    (h : generateSnowflake env g now readings = some (g', res)) :
    g' = g ∧ (∃ e, res = .error e) ∨
    ValidSequence g'.sequence ∧ g'.configuredSlot = g.configuredSlot ∧
      Before g.lastTimestamp g.sequence g'.lastTimestamp g'.sequence ∧ now ≤ g'.lastTimestamp ∧
      res = (resolveSlot env g).map fun slot => pack g'.lastTimestamp slot g'.sequence := by
  unfold generateSnowflake at h
  split at h
  · cases h
  · cases h; exact Or.inl ⟨rfl, _, rfl⟩
  · rename_i timestamp sequence hadv
    cases h
    obtain ⟨hvalid, hbefore, hnow⟩ := advance_spec hseq hadv
    exact Or.inr ⟨hvalid, rfl, hbefore, hnow, rfl⟩

theorem validSlot_of_resolveSlot {env : Env} (hg : ∀ slot ∈ g.configuredSlot, ValidSlot slot)
    (h : resolveSlot env g = .ok slot) :
    ValidSlot slot := by
  have hzero : ValidSlot 0 := by decide
  unfold resolveSlot at h
  cases hc : g.configuredSlot with
  | some => rw [hc] at h; cases h; exact hg slot hc
  | none =>
    simp only [hc] at h
    split_ifs at h with h1 h2 h3
    · cases h; exact h2
    · cases h; exact hzero
    · cases h; exact hzero

end JavisSaas.Cosa.Snowflake
