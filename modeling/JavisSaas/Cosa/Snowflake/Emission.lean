import JavisSaas.Lib.Transition
import JavisSaas.Cosa.Snowflake.Generator

/-!
# The identifiers of one generator

The calls of one process, over any clock. The four fields (41, 1, 10 and 12 bits) make 64: from 2^40
milliseconds after the epoch on an identifier is 2^63 or more.

* `pack_lt_pack`: identifiers are ordered as their fields are.
* `pack_lt_two_pow_63_iff`: which identifiers are signed 64-bit integers.
* `emissionLaw_along`: what one generator emits while the clock is in the first half.
-/

namespace JavisSaas.Cosa.Snowflake

open JavisSaas.Lib

/-! ## The calls of a process -/

/-- A process and what it has emitted: each identifier beside the fields that the generator had. -/
structure EmissionState where
  generator : Generator := {}
  emitted : List (ℤ × DecodedSnowflake) := []

inductive GeneratorCall
  | configure (slot : ℤ)
  | generate (now : ℤ) (readings : List ℤ)

/-- The fields that an identifier is made of. -/
def Generator.fields (g : Generator) (slot : ℤ) : DecodedSnowflake :=
  ⟨g.lastTimestamp, slot, g.sequence⟩

/-- A generator whose spin loop never sees a later clock does not come back. -/
def emissions (env : Env) : System EmissionState GeneratorCall where
  next s
    | .configure slot =>
      match configureGeneratorSlot s.generator slot with
      | .ok g => some { s with generator := g }
      | .error _ => some s
    | .generate now readings =>
      match generateSnowflake env s.generator now readings, resolveSlot env s.generator with
      | none, _ => none
      | some (g, .ok id), .ok slot => some ⟨g, s.emitted ++ [(id, g.fields slot)]⟩
      | some (g, _), _ => some { s with generator := g }

/-! ## The order and the size of the identifiers -/

variable {t slot seq : ℤ} {g : Generator} {now : ℤ} {readings : List ℤ} {env : Env} {g' : Generator}
  {s s' : EmissionState}

/-- Identifiers are ordered by timestamp, then by slot, then by sequence. -/
theorem pack_lt_pack {t' slot' seq' : ℤ} (hs : ValidSlot slot) (hs' : ValidSlot slot')
    (hq : ValidSequence seq) (hq' : ValidSequence seq')
    (h : t < t' ∨ t = t' ∧ slot ≤ slot' ∧ seq < seq') : pack t slot seq < pack t' slot' seq' := by
  rw [pack_eq hs hq, pack_eq hs' hq']
  unfold ValidSlot maxSlot at hs hs'
  unfold ValidSequence maxSequence at hq hq'
  simp only [timestampShift, slotShift]
  omega

theorem pack_nonneg {t slot seq : ℤ} (ht : cosaSnowflakeEpochMs ≤ t) (hs : ValidSlot slot)
    (hq : ValidSequence seq) : 0 ≤ pack t slot seq := by
  rw [pack_eq hs hq]
  unfold ValidSlot at hs
  unfold ValidSequence at hq
  simp only [timestampShift, slotShift]
  omega

/-- An identifier is a signed 64-bit integer in the first half of the range of its timestamp. -/
theorem pack_lt_two_pow_63_iff (hs : ValidSlot slot) (hq : ValidSequence seq) :
    pack t slot seq < 2 ^ 63 ↔ t < cosaSnowflakeEpochMs + 2 ^ 40 := by
  rw [pack_eq hs hq]
  unfold ValidSlot maxSlot at hs
  unfold ValidSequence maxSequence at hq
  simp only [timestampShift, slotShift]
  omega

/-! ## Where a timestamp comes from -/

theorem advance_timestamp {timestamp sequence : ℤ}
    (h : advance g now readings = some (.ok (timestamp, sequence))) :
    timestamp = g.lastTimestamp ∨ timestamp ∈ now :: readings := by
  unfold advance at h
  by_cases hdrift : now < g.lastTimestamp ∧ clockDriftBudgetMs < g.lastTimestamp - now
  · rw [if_pos hdrift] at h
    nomatch h
  rw [if_neg hdrift] at h
  generalize hts : (if now < g.lastTimestamp then g.lastTimestamp else now) = ts at h
  have hheld : ts = g.lastTimestamp ∨ ts ∈ now :: readings := by
    rw [← hts]
    split_ifs
    · exact .inl rfl
    · exact .inr List.mem_cons_self
  dsimp only at h
  by_cases hsame : ts = g.lastTimestamp
  · rw [if_pos hsame] at h
    by_cases hwrap : Int.land (g.sequence + 1) maxSequence = 0
    · -- the sequence is used up, and the loop has seen a later clock
      rw [if_pos hwrap] at h
      obtain ⟨next, hfind, e⟩ := Option.map_eq_some_iff.mp h
      cases e
      exact .inr (List.mem_cons_of_mem _ (List.mem_of_find?_eq_some hfind))
    · rw [if_neg hwrap] at h
      obtain ⟨rfl, -⟩ := Prod.mk.inj (Except.ok.inj (Option.some.inj h))
      exact hheld
  · rw [if_neg hsame] at h
    obtain ⟨rfl, -⟩ := Prod.mk.inj (Except.ok.inj (Option.some.inj h))
    exact hheld

theorem generateSnowflake_timestamp {res : Except GeneratorError ℤ}
    (h : generateSnowflake env g now readings = some (g', res)) :
    g'.lastTimestamp = g.lastTimestamp ∨ g'.lastTimestamp ∈ now :: readings := by
  unfold generateSnowflake at h
  split at h
  · nomatch h
  · cases h
    exact .inl rfl
  · next timestamp sequence hadvance =>
    cases h
    exact advance_timestamp hadvance

/-! ## The law -/

/-- The last millisecond of the timestamp field is 2^41 - 1. -/
def InField (t : ℤ) : Prop :=
  cosaSnowflakeEpochMs ≤ t ∧ t < cosaSnowflakeEpochMs + 2 ^ 41
deriving Decidable

def InFirstHalf (t : ℤ) : Prop :=
  cosaSnowflakeEpochMs ≤ t ∧ t < cosaSnowflakeEpochMs + 2 ^ 40
deriving Decidable

/-- A process whose slot was lowered waits until its clock is past what it emitted before. -/
def SlotKept (env : Env) (s : EmissionState) (now : ℤ) : Prop :=
  ∀ e ∈ s.emitted, ∀ slot ∈ (resolveSlot env s.generator).toOption,
    slot < e.2.slot → e.2.timestampMs < now

instance (env : Env) (s : EmissionState) (now : ℤ) : Decidable (SlotKept env s now) := by
  unfold SlotKept
  infer_instance

/-- The readings that a call makes are in a range, and the slot is not lowered. -/
def ClockIn (range : ℤ → Prop) (env : Env) (s : EmissionState) : GeneratorCall → Prop
  | .configure _ => True
  | .generate now readings => (∀ t ∈ now :: readings, range t) ∧ SlotKept env s now

instance (range : ℤ → Prop) [DecidablePred range] (env : Env) (s : EmissionState)
    (l : GeneratorCall) : Decidable (ClockIn range env s l) := by
  cases l <;> unfold ClockIn <;> infer_instance

/-- What the identifiers of one generator are. -/
structure EmissionLaw (emitted : List (ℤ × DecodedSnowflake)) : Prop where
  increasing : (emitted.map Prod.fst).Pairwise (· < ·)
  fits : ∀ e ∈ emitted, -2 ^ 63 ≤ e.1 ∧ e.1 < 2 ^ 63
  decoded : ∀ e ∈ emitted, decodeSnowflake e.1 = e.2
  slot : ∀ e ∈ emitted, ValidSlot e.2.slot
  sequence : ∀ e ∈ emitted, ValidSequence e.2.sequence

/-! ## The invariant -/

/-- An identifier is packed from the fields beside it, which are valid and not after the last. -/
structure EmittedBy (g : Generator) (e : ℤ × DecodedSnowflake) : Prop where
  packed : e.1 = pack e.2.timestampMs e.2.slot e.2.sequence
  slot : ValidSlot e.2.slot
  sequence : ValidSequence e.2.sequence
  clock : InFirstHalf e.2.timestampMs
  notAfter : ¬ Before g.lastTimestamp g.sequence e.2.timestampMs e.2.sequence

structure EmissionInv (s : EmissionState) : Prop where
  sequence : ValidSequence s.generator.sequence
  slot : ∀ slot ∈ s.generator.configuredSlot, ValidSlot slot
  clock : s.generator.lastTimestamp < cosaSnowflakeEpochMs + 2 ^ 40
  emitted : ∀ e ∈ s.emitted, EmittedBy s.generator e
  increasing : (s.emitted.map Prod.fst).Pairwise (· < ·)

theorem emissionInv_init : EmissionInv {} where
  sequence := by
    unfold ValidSequence
    decide
  slot _ h := nomatch h
  clock := by decide
  emitted _ h := nomatch h
  increasing := List.Pairwise.nil

/-- A generator that moves on emits an identifier after all that it has emitted. -/
theorem EmittedBy.lt_pack {e : ℤ × DecodedSnowflake} (h : EmittedBy g e)
    (hbefore : Before g.lastTimestamp g.sequence g'.lastTimestamp g'.sequence)
    (hslot : ValidSlot slot) (hseq : ValidSequence g'.sequence)
    (hkept : slot < e.2.slot → e.2.timestampMs < g'.lastTimestamp) :
    e.1 < pack g'.lastTimestamp slot g'.sequence := by
  rw [h.packed]
  refine pack_lt_pack h.slot hslot h.sequence hseq ?_
  have hnot := h.notAfter
  unfold Before at hbefore hnot
  by_cases hlower : slot < e.2.slot
  · exact .inl (hkept hlower)
  · omega

theorem EmittedBy.mono {e : ℤ × DecodedSnowflake} (h : EmittedBy g e)
    (hbefore : Before g.lastTimestamp g.sequence g'.lastTimestamp g'.sequence) :
    EmittedBy g' e where
  packed := h.packed
  slot := h.slot
  sequence := h.sequence
  clock := h.clock
  notAfter := by
    have hnot := h.notAfter
    unfold Before at *
    omega

theorem emissions_generate (h : (emissions env).next s (.generate now readings) = some s') :
    ∃ res, generateSnowflake env s.generator now readings = some (s'.generator, res) ∧
      ((∃ id slot, res = .ok id ∧ resolveSlot env s.generator = .ok slot ∧
          s'.emitted = s.emitted ++ [(id, s'.generator.fields slot)]) ∨
        s'.emitted = s.emitted) := by
  dsimp only [emissions] at h
  split at h
  · nomatch h
  · next g id slot hgenerate hslot =>
    cases h
    exact ⟨.ok id, hgenerate, .inl ⟨id, slot, rfl, hslot, rfl⟩⟩
  · next g res hgenerate _ =>
    cases h
    exact ⟨res, hgenerate, .inr rfl⟩

theorem EmissionInv.generate (hI : EmissionInv s)
    (hG : ClockIn InFirstHalf env s (.generate now readings))
    (h : (emissions env).next s (.generate now readings) = some s') : EmissionInv s' := by
  obtain ⟨res, hgenerate, hemitted⟩ := emissions_generate h
  rcases generateSnowflake_spec hI.sequence hgenerate with ⟨hsame, e, rfl⟩ |
    ⟨hseq, hconf, hbefore, hnow, hres⟩
  · -- the clock went back too far, and nothing moved
    rcases hemitted with ⟨id, slot, hid, -⟩ | hemitted
    · nomatch hid
    · exact ⟨hsame ▸ hI.sequence, hsame ▸ hI.slot, hsame ▸ hI.clock,
        hemitted ▸ hsame ▸ hI.emitted, hemitted ▸ hI.increasing⟩
  · have hclock : s'.generator.lastTimestamp < cosaSnowflakeEpochMs + 2 ^ 40 := by
      rcases generateSnowflake_timestamp hgenerate with hlast | hread
      · exact hlast ▸ hI.clock
      · exact (hG.1 _ hread).2
    have hold : ∀ e ∈ s.emitted, EmittedBy s'.generator e := fun e he =>
      (hI.emitted e he).mono hbefore
    have hslots : ∀ slot ∈ s'.generator.configuredSlot, ValidSlot slot := hconf ▸ hI.slot
    rcases hemitted with ⟨id, slot, rfl, hslot, hemitted⟩ | hemitted
    · have hid : id = pack s'.generator.lastTimestamp slot s'.generator.sequence := by
        rw [hslot] at hres
        exact Except.ok.inj hres
      have hvalid : ValidSlot slot := validSlot_of_resolveSlot hI.slot hslot
      have hlt : ∀ e ∈ s.emitted, e.1 < id := by
        intro e he
        rw [hid]
        refine (hI.emitted e he).lt_pack hbefore hvalid hseq fun hlower => ?_
        have hpast := hG.2 e he slot (by rw [hslot]; rfl) hlower
        omega
      have hnew : EmittedBy s'.generator (id, s'.generator.fields slot) := {
        packed := hid
        slot := hvalid
        sequence := hseq
        clock := ⟨(hG.1 now List.mem_cons_self).1.trans hnow, hclock⟩
        notAfter := by
          unfold Before Generator.fields
          dsimp only
          omega }
      refine ⟨hseq, hslots, hclock, fun e he => ?_, ?_⟩
      · rw [hemitted, List.mem_append, List.mem_singleton] at he
        rcases he with he | rfl
        · exact hold e he
        · exact hnew
      · rw [hemitted, List.map_append, List.pairwise_append]
        refine ⟨hI.increasing, List.pairwise_singleton _ _, fun a ha b hb => ?_⟩
        obtain ⟨e, he, rfl⟩ := List.mem_map.mp ha
        obtain rfl := List.mem_singleton.mp hb
        exact hlt e he
    · exact ⟨hseq, hslots, hclock, hemitted ▸ hold, hemitted ▸ hI.increasing⟩

theorem EmissionInv.configure (hI : EmissionInv s)
    (h : (emissions env).next s (.configure slot) = some s') : EmissionInv s' := by
  dsimp only [emissions, configureGeneratorSlot] at h
  by_cases hslot : ValidSlot slot
  · rw [if_pos hslot] at h
    cases h
    refine ⟨hI.sequence, fun slot' hslot' => ?_, hI.clock, fun e he => ?_, hI.increasing⟩
    · cases hslot'
      exact hslot
    · have hby := hI.emitted e he
      exact ⟨hby.packed, hby.slot, hby.sequence, hby.clock, hby.notAfter⟩
  · rw [if_neg hslot] at h
    cases h
    exact hI

theorem EmissionInv.next {l : GeneratorCall} (hI : EmissionInv s) (hG : ClockIn InFirstHalf env s l)
    (h : (emissions env).next s l = some s') : EmissionInv s' := by
  cases l with
  | configure => exact hI.configure h
  | generate => exact hI.generate hG h

theorem EmissionInv.law (hI : EmissionInv s) : EmissionLaw s.emitted where
  increasing := hI.increasing
  fits e he := by
    have hby := hI.emitted e he
    rw [hby.packed]
    have hnonneg := pack_nonneg hby.clock.1 hby.slot hby.sequence
    exact ⟨by omega, (pack_lt_two_pow_63_iff hby.slot hby.sequence).mpr hby.clock.2⟩
  decoded e he := by
    have hby := hI.emitted e he
    rw [hby.packed]
    exact decodeSnowflake_pack hby.slot hby.sequence
  slot e he := (hI.emitted e he).slot
  sequence e he := (hI.emitted e he).sequence

/-- A generator whose clock stays in the first half of the range of the timestamp field. -/
theorem emissionLaw_along {env : Env} {calls : List GeneratorCall} {s : EmissionState}
    (hG : (emissions env).Along (ClockIn InFirstHalf env) {} calls)
    (h : (emissions env).run {} calls = some s) : EmissionLaw s.emitted :=
  ((emissions env).inv_of_along (fun _ _ _ hI hG hn => hI.next hG hn) emissionInv_init hG h).law

/-! ## Two clocks -/

namespace Sample

def staging : Env := { testOrDev := false, stagingOrProd := true }

/-- The clock stands still, goes back by a second and comes to the next millisecond. -/
def stalled : List GeneratorCall :=
  [.configure 1023, .generate 1704067205100 [], .generate 1704067205100 [],
    .generate 1704067204100 [], .generate 1704067205101 []]

/-- The clock of a generator shows 2^40 milliseconds after the epoch, in November 2058. -/
def late : List GeneratorCall := [.configure 0, .generate 2803578827776 []]

end Sample

theorem emissionLaw_along_stalled :
    EmissionLaw (((emissions Sample.staging).run {} Sample.stalled).get
      (by decide +kernel)).emitted := by
  have hG : (emissions Sample.staging).Along (ClockIn InFirstHalf Sample.staging) {}
      Sample.stalled := by decide +kernel
  exact emissionLaw_along hG (Option.some_get _).symm

/-- Every reading is in the range of the field, and yet an identifier is 2^63. -/
theorem not_emissionLaw_late :
    ¬ ∀ (env : Env) (calls : List GeneratorCall) (s : EmissionState),
      (emissions env).Along (ClockIn InField env) {} calls →
      (emissions env).run {} calls = some s → EmissionLaw s.emitted := by
  intro hall
  have hlaw := hall Sample.staging Sample.late
    (((emissions Sample.staging).run {} Sample.late).get (by decide +kernel)) (by decide +kernel)
    (Option.some_get _).symm
  exact absurd hlaw.fits (by decide +kernel)

end JavisSaas.Cosa.Snowflake
