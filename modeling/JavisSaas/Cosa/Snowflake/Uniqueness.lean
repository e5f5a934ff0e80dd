import JavisSaas.Cosa.Snowflake.Registry

/-!
# Identifiers across processes

`generateSnowflake` looks neither at the lease, which may have been taken over, nor at the clock
checkpoint of the slot, which a takeover resets. What keeps processes apart is their clocks.

* `ClockAhead`: a process generates past the timestamps of the others in its slot.
* `issuedInv_next`: each process issues in increasing order.
* `nodup_issued`: runs of such steps issue no identifier twice.
-/

namespace JavisSaas.Cosa.Snowflake

open JavisSaas.Lib

/-- The clock is past every identifier of another process in the slot. -/
def ClockAhead (env : Env) (s : SnowflakeState) : SnowflakeLabel → Prop
  | .generate pid now _ =>
    ∀ i ∈ s.issued, i.1 ≠ pid →
      resolveSlot env (s.procs pid).generator = .ok (decodeSnowflake i.2).slot →
      (decodeSnowflake i.2).timestampMs < now
  | _ => True

instance (env : Env) (s : SnowflakeState) (l : SnowflakeLabel) : Decidable (ClockAhead env s l) := by
  cases l <;> unfold ClockAhead <;> infer_instance

/-- The identifier is packed from valid fields that do not come after the generator's last. -/
def IssuedBy (g : Generator) (id : ℤ) : Prop :=
  ∃ timestamp slot sequence, id = pack timestamp slot sequence ∧ ValidSlot slot ∧
    ValidSequence sequence ∧ ¬ Before g.lastTimestamp g.sequence timestamp sequence

/-- What holds of the generators and the identifiers in every reachable state. -/
structure IssuedInv (s : SnowflakeState) : Prop where
  sequence : ∀ p, ValidSequence (s.procs p).generator.sequence
  slot : ∀ p, ∀ slot ∈ (s.procs p).generator.configuredSlot, ValidSlot slot
  issued : ∀ i ∈ s.issued, IssuedBy (s.procs i.1).generator i.2
  nodup : (s.issued.map Prod.snd).Nodup

theorem Before.trans_not {t q t' q' t'' q'' : ℤ} (h : Before t q t' q')
    (hnot : ¬ Before t q t'' q'') : ¬ Before t' q' t'' q'' := by
  unfold Before at *
  omega

theorem IssuedBy.mono {g g' : Generator} {id : ℤ} (h : IssuedBy g id)
    (hbefore : Before g.lastTimestamp g.sequence g'.lastTimestamp g'.sequence) :
    IssuedBy g' id := by
  obtain ⟨t, slot, q, rfl, hslot, hq, hnot⟩ := h
  exact ⟨t, slot, q, rfl, hslot, hq, hbefore.trans_not hnot⟩

/-- A generator that moves on issues no identifier that it issued before. -/
theorem IssuedBy.ne_pack {g g' : Generator} {id slot : ℤ} (h : IssuedBy g id)
    (hbefore : Before g.lastTimestamp g.sequence g'.lastTimestamp g'.sequence)
    (hslot : ValidSlot slot) (hseq : ValidSequence g'.sequence) :
    id ≠ pack g'.lastTimestamp slot g'.sequence := by
  obtain ⟨t, slot', q, rfl, hslot', hq, hnot⟩ := h
  intro e
  obtain ⟨rfl, -, rfl⟩ := pack_injective hslot' hslot hq hseq e
  exact hnot hbefore

theorem issuedInv_next {env : Env} {s s' : SnowflakeState} {l : SnowflakeLabel} (hI : IssuedInv s)
    (hG : ClockAhead env s l) (h : (snowflakes env).next s l = some s') : IssuedInv s' := by
  rcases snowflakes_cases h with ⟨hg, hi⟩ | ⟨pid, slot, hslot, hg, hi⟩ |
    ⟨pid, now, readings, g, res, rfl, hgen, hg, hi⟩
  · exact ⟨fun p => by rw [hg]; exact hI.sequence p, fun p => by rw [hg]; exact hI.slot p,
      fun i hmem => by rw [hi] at hmem; rw [hg]; exact hI.issued i hmem, by rw [hi]; exact hI.nodup⟩
  · refine ⟨fun p => ?_, fun p => ?_, fun i hmem => ?_, by rw [hi]; exact hI.nodup⟩
    · rw [hg]; split_ifs <;> exact hI.sequence p
    · rw [hg]
      split_ifs
      · intro slot' hmem; cases hmem; exact hslot
      · exact hI.slot p
    · rw [hi] at hmem
      rw [hg]
      split_ifs
      · exact hI.issued i hmem
      · exact hI.issued i hmem
  · rcases generateSnowflake_spec (hI.sequence pid) hgen with ⟨rfl, e, rfl⟩ |
      ⟨hseq, hconf, hbefore, hnow, rfl⟩
    · -- the clock went back too far, and nothing moved
      have hsame : ∀ p, (s'.procs p).generator = (s.procs p).generator := by
        intro p
        rw [hg]
        split_ifs with hp
        · rw [hp]
        · rfl
      have hissued : s'.issued = s.issued := by simpa [issuedOf] using hi
      exact ⟨fun p => by rw [hsame]; exact hI.sequence p, fun p => by rw [hsame]; exact hI.slot p,
        fun i hmem => by rw [hissued] at hmem; rw [hsame]; exact hI.issued i hmem,
        by rw [hissued]; exact hI.nodup⟩
    · have hold : ∀ i ∈ s.issued, IssuedBy (s'.procs i.1).generator i.2 := by
        intro i hmem
        rw [hg]
        split_ifs with hp
        · exact (hI.issued i hmem).mono (by rw [hp]; exact hbefore)
        · exact hI.issued i hmem
      have hsequence : ∀ p, ValidSequence (s'.procs p).generator.sequence := by
        intro p
        rw [hg]
        split_ifs
        · exact hseq
        · exact hI.sequence p
      have hslots : ∀ p, ∀ slot ∈ (s'.procs p).generator.configuredSlot, ValidSlot slot := by
        intro p
        rw [hg]
        split_ifs
        · rw [hconf]; exact hI.slot pid
        · exact hI.slot p
      cases hres : resolveSlot env (s.procs pid).generator with
      | error =>
        have hissued : s'.issued = s.issued := by simpa [hres, Except.map, issuedOf] using hi
        exact ⟨hsequence, hslots, by rw [hissued]; exact hold, by rw [hissued]; exact hI.nodup⟩
      | ok slot =>
        have hslot : ValidSlot slot := validSlot_of_resolveSlot (hI.slot pid) hres
        have hissued : s'.issued = s.issued ++ [(pid, pack g.lastTimestamp slot g.sequence)] := by
          simpa [hres, Except.map, issuedOf] using hi
        have hnew : ∀ i ∈ s.issued, i.2 ≠ pack g.lastTimestamp slot g.sequence := by
          intro i hmem
          by_cases hp : i.1 = pid
          · exact IssuedBy.ne_pack (hp ▸ hI.issued i hmem) hbefore hslot hseq
          · -- another process's identifier has another slot, or an earlier timestamp
            intro e
            have hdec : decodeSnowflake (pack g.lastTimestamp slot g.sequence) =
                ⟨g.lastTimestamp, slot, g.sequence⟩ := decodeSnowflake_pack hslot hseq
            have hlt := hG i hmem hp (by rw [hres, e, hdec])
            rw [e, hdec] at hlt
            simp only at hlt
            omega
        refine ⟨hsequence, hslots, fun i hmem => ?_, ?_⟩
        · rw [hissued, List.mem_append, List.mem_singleton] at hmem
          rcases hmem with hmem | rfl
          · exact hold i hmem
          · refine ⟨g.lastTimestamp, slot, g.sequence, rfl, hslot, hseq, ?_⟩
            rw [hg, if_pos rfl]
            unfold Before
            omega
        · rw [hissued, List.map_append, List.nodup_append]
          refine ⟨hI.nodup, List.nodup_singleton _, fun a ha b hb => ?_⟩
          obtain ⟨i, hmem, rfl⟩ := List.mem_map.mp ha
          rw [List.map_singleton, List.mem_singleton] at hb
          exact hb ▸ hnew i hmem

theorem issuedInv_init : IssuedInv {} := by
  refine ⟨fun p => ?_, fun p slot hmem => ?_, fun i hmem => ?_, List.nodup_nil⟩
  · unfold ValidSequence maxSequence
    simp
  · cases hmem
  · cases hmem

/-- If clocks are ahead of the others in their slot, no identifier is issued twice. -/
theorem nodup_issued {env : Env} {ls : List SnowflakeLabel} {s : SnowflakeState}
    (hG : (snowflakes env).Along (ClockAhead env) {} ls)
    (h : (snowflakes env).run {} ls = some s) : (s.issued.map Prod.snd).Nodup :=
  ((snowflakes env).inv_of_along (fun _ _ _ hI hG hn => issuedInv_next hI hG hn) issuedInv_init hG
    h).nodup

/-! ## Takeovers -/

def production : Env := { testOrDev := false, stagingOrProd := true }

/-- `bootstrapGeneratorSlot` of a process that has no slot yet. -/
def bootstrap (pid : ℕ) (generatorId : String) (now : ℤ) : List SnowflakeLabel :=
  [ .acquireRead pid { generatorId := generatorId, runtimeRole := .cosaControlPlane } now,
    .acquireWrite 0, .bind pid ]

/-- A slot changes hands and the new holder's clock is ahead. -/
def orderlyTakeover : List SnowflakeLabel :=
  bootstrap 0 "a" 0 ++ [SnowflakeLabel.generate 0 1704067200100 []] ++ bootstrap 1 "b" 60000 ++
    [SnowflakeLabel.generate 1 1704067260100 [], .generate 1 1704067260100 []]

theorem nodup_orderlyTakeover :
    ((((snowflakes production).run {} orderlyTakeover).getD {}).issued.map Prod.snd).Nodup :=
  nodup_issued (show (snowflakes production).Along (ClockAhead production) {} orderlyTakeover by
    decide) rfl

/-- The lease of process 0 expires and process 1 takes its slot over; 0 generates on. -/
def staleHolder : List SnowflakeLabel :=
  bootstrap 0 "a" 0 ++ bootstrap 1 "b" 60000 ++
    [SnowflakeLabel.generate 1 1704067260100 [], .generate 0 1704067260100 []]

theorem not_nodup_issued :
    ∃ s, (snowflakes production).run {} staleHolder = some s ∧ ¬ (s.issued.map Prod.snd).Nodup :=
  ⟨((snowflakes production).run {} staleHolder).getD {}, rfl, by decide⟩

end JavisSaas.Cosa.Snowflake
