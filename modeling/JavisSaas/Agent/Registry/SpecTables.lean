import JavisSaas.Agent.Registry.SpecRegistry

/-!
# Tables of published specs

What a publication, a batch and a change of status make of a table of specs.

* `memoryPublishBatch_of_consistent`, `memoryPublishBatch_of_not`: a table in memory takes a batch
  as a whole, if its records agree on their hashes, or none of it.
-/

namespace JavisSaas.Agent.Registry

open JavisSaas.Lib

variable {C : Type} {specHash : SpecHash C}

/-! ## Tables -/

/-- The registries have the same records. -/
def Agree (t m : SpecTable C) : Prop := ∀ key, t.get? key = m.get? key

/-- What was published is still there: only its status has changed. -/
def SpecsKept (t t' : SpecTable C) : Prop :=
  ∀ key row, t.get? key = some row → ∃ row', t'.get? key = some row' ∧
    row' = { row with status := row'.status, retiredAt := row'.retiredAt }

/-- The spec is in the registry with the hash of the record. -/
def Stored (t : SpecTable C) (r : PublishedSpecRecord C) : Prop :=
  ∃ row, t.get? r.key = some row ∧ row.definitionHash = r.definitionHash

/-- Every spec is kept under its key, with the hash of its content. -/
def Hashed (specHash : SpecHash C) (t : SpecTable C) : Prop :=
  ∀ key row, t.get? key = some row → row.Declares specHash ∧ row.key = key

section

variable {t t' m : SpecTable C} {r : PublishedSpecRecord C} {key : SpecKey}

theorem SpecsKept.refl (t : SpecTable C) : SpecsKept t t := fun _ row h => ⟨row, h, rfl⟩

theorem SpecsKept.trans {t'' : SpecTable C} (h : SpecsKept t t') (h' : SpecsKept t' t'') :
    SpecsKept t t'' := by
  intro key row hrow
  obtain ⟨row', hrow', hsame⟩ := h key row hrow
  obtain ⟨row'', hrow'', hsame'⟩ := h' key row' hrow'
  refine ⟨row'', hrow'', ?_⟩
  rw [hsame] at hsame'
  exact hsame'

theorem SpecsKept.hash (h : SpecsKept t t') {row : PublishedSpecRecord C}
    (hrow : t.get? key = some row) :
    ∃ row', t'.get? key = some row' ∧ row'.definitionHash = row.definitionHash := by
  obtain ⟨row', hrow', hsame⟩ := h key row hrow
  exact ⟨row', hrow', congrArg (·.definitionHash) hsame⟩

theorem Stored.kept (h : Stored t r) (hkept : SpecsKept t t') : Stored t' r := by
  obtain ⟨row, hrow, hhash⟩ := h
  obtain ⟨row', hrow', hsame⟩ := hkept.hash hrow
  exact ⟨row', hrow', hsame.trans hhash⟩

variable {row : PublishedSpecRecord C} {records : List (PublishedSpecRecord C)}

theorem stored_or_otherHash (hrow : t.get? r.key = some row) :
    (¬ OtherHash t r ↔ row.definitionHash = r.definitionHash) := by
  constructor
  · exact fun hnot => not_not.mp fun hne => hnot ⟨row, hrow, hne⟩
  · rintro hsame ⟨row', hrow', hne⟩
    cases hrow.symm.trans hrow'
    exact hne hsame

theorem Agree.set (h : Agree t m) : Agree (t.set key row) (m.set key row) := by
  intro key'
  rw [Dict.get?_set, Dict.get?_set, h key']

theorem Agree.updateStatus (h : Agree t m) (status : String) (now : ℕ) :
    Agree (updateStatus t key status now) (updateStatus m key status now) := by
  intro key'
  unfold Registry.updateStatus
  rw [Dict.get?_modify, Dict.get?_modify, h key']

theorem specsKept_updateStatus (t : SpecTable C) (key : SpecKey) (status : String) (now : ℕ) :
    SpecsKept t (updateStatus t key status now) := by
  intro key' row hrow
  unfold updateStatus
  rw [Dict.get?_modify, hrow]
  refine ⟨_, rfl, ?_⟩
  split_ifs <;> rfl

theorem Hashed.updateStatus (h : Hashed specHash t) (key : SpecKey) (status : String) (now : ℕ) :
    Hashed specHash (updateStatus t key status now) := by
  intro key' row hrow
  unfold Registry.updateStatus at hrow
  rw [Dict.get?_modify] at hrow
  obtain ⟨row', hrow', rfl⟩ := Option.map_eq_some_iff.mp hrow
  have hrow'' := h key' row' hrow'
  split_ifs <;> exact hrow''

theorem specsKept_set (hnone : t.get? key = none) (row : PublishedSpecRecord C) :
    SpecsKept t (t.set key row) := by
  intro key' row' hrow'
  refine ⟨row', ?_, rfl⟩
  rw [Dict.get?_set_of_ne _ (fun hsame => ?_)]
  · exact hrow'
  · subst hsame
    nomatch hnone.symm.trans hrow'

theorem Hashed.set (h : Hashed specHash t) (hdeclares : r.Declares specHash) :
    Hashed specHash (t.set r.key r) := by
  intro key row hrow
  rw [Dict.get?_set] at hrow
  split_ifs at hrow with hkey
  · cases hrow
    exact ⟨hdeclares, hkey⟩
  · exact h key row hrow

/-! ## Several records -/

theorem get?_publishAll_of_notMem {records : List (PublishedSpecRecord C)}
    (h : key ∉ records.map (·.key)) : (publishAll t records).get? key = t.get? key := by
  induction records generalizing t with
  | nil => rfl
  | cons _ _ ih =>
    rw [List.map_cons, List.mem_cons, not_or] at h
    exact (ih h.2).trans (Dict.get?_set_of_ne _ (Ne.symm h.1) _)

theorem get?_publishAll_of_mem (hkeys : (records.map (·.key)).Nodup) (hr : r ∈ records) :
    (publishAll t records).get? r.key = some r := by
  induction records generalizing t with
  | nil => nomatch hr
  | cons _ records ih =>
    rw [List.map_cons, List.nodup_cons] at hkeys
    rcases List.mem_cons.mp hr with rfl | hr
    · show (publishAll (t.set r.key r) records).get? r.key = _
      rw [get?_publishAll_of_notMem hkeys.1, Dict.get?_set_self]
    · exact ih hkeys.2 hr

theorem get?_publishAll (hkeys : (records.map (·.key)).Nodup)
    (h : (publishAll t records).get? key = some row) :
    t.get? key = some row ∧ key ∉ records.map (·.key) ∨
      row ∈ records ∧ row.key = key := by
  by_cases hmem : key ∈ records.map (·.key)
  · obtain ⟨r, hr, rfl⟩ := List.mem_map.mp hmem
    rw [get?_publishAll_of_mem hkeys hr] at h
    cases h
    exact .inr ⟨hr, rfl⟩
  · exact .inl ⟨(get?_publishAll_of_notMem hmem).symm.trans h, hmem⟩

end

/-! ## The batch in memory -/

section

variable {m : SpecTable C} {records : List (PublishedSpecRecord C)}
  {pending pending' : Dict SpecKey (PublishedSpecRecord C)}

/-- The records agree on their hashes, with each other and with the registry. -/
structure Consistent (m : SpecTable C) (records : List (PublishedSpecRecord C)) : Prop where
  registry : ∀ r ∈ records, ∀ row, m.get? r.key = some row →
    row.definitionHash = r.definitionHash
  batch : ∀ r ∈ records, ∀ r' ∈ records, r.key = r'.key → r.definitionHash = r'.definitionHash

/-- The pending records are under their keys, which are new. -/
def PendingNew (m : SpecTable C) (pending : Dict SpecKey (PublishedSpecRecord C)) : Prop :=
  ∀ key r, pending.get? key = some r → r.key = key ∧ m.get? key = none

/-- What the loop has found where it does not raise. -/
structure Collected (m : SpecTable C) (records : List (PublishedSpecRecord C))
    (pending pending' : Dict SpecKey (PublishedSpecRecord C)) : Prop where
  new : PendingNew m pending'
  kept : ∀ key r, pending.get? key = some r → ∃ r', pending'.get? key = some r' ∧
    r'.definitionHash = r.definitionHash
  registry : ∀ r ∈ records, ∀ row, m.get? r.key = some row →
    row.definitionHash = r.definitionHash
  collected : ∀ r ∈ records, m.get? r.key = none → ∃ r', pending'.get? r.key = some r' ∧
    r'.definitionHash = r.definitionHash
  source : ∀ key r, pending'.get? key = some r → pending.get? key = some r ∨ r ∈ records

theorem collected_of_memoryPending (hnew : PendingNew m pending)
    (h : memoryPending m records pending = some pending') : Collected m records pending pending' := by
  induction records generalizing pending with
  | nil =>
    cases h
    exact ⟨hnew, fun _ r hr => ⟨r, hr, rfl⟩, (fun _ h => nomatch h), (fun _ h => nomatch h),
      fun _ _ h => .inl h⟩
  | cons r _ ih =>
    rw [memoryPending] at h
    by_cases hother : ∃ hash ∈ ((pending.get? r.key).or (m.get? r.key)).map
        (·.definitionHash), hash ≠ r.definitionHash
    · rw [if_pos hother] at h
      nomatch h
    rw [if_neg hother] at h
    -- the record has no other hash than the ones that are known
    have hregistry : ∀ row, m.get? r.key = some row →
        row.definitionHash = r.definitionHash := by
      intro row hrow
      have hpending : pending.get? r.key = none := by
        cases hp : pending.get? r.key with
        | none => rfl
        | some p => nomatch hrow.symm.trans (hnew _ p hp).2
      refine not_not.mp fun hne => hother ⟨_, ?_, hne⟩
      rw [hpending, hrow]
      rfl
    have hknown : ∀ p, pending.get? r.key = some p → p.definitionHash = r.definitionHash := by
      intro p hp
      refine not_not.mp fun hne => hother ⟨_, ?_, hne⟩
      rw [hp]
      rfl
    by_cases hnone : m.get? r.key = none
    · rw [if_pos (by rw [hnone]; rfl)] at h
      have hnew' : PendingNew m (pending.set r.key r) := by
        intro key p hp
        rw [Dict.get?_set] at hp
        split_ifs at hp with hkey
        · cases hp
          exact ⟨hkey, hkey ▸ hnone⟩
        · exact hnew key p hp
      obtain ⟨hnew'', hkept, hreg, hcollected, hsource⟩ := ih hnew' h
      refine ⟨hnew'', fun key p hp => ?_, ?_, ?_, fun key p hp => ?_⟩
      · by_cases hkey : r.key = key
        · subst hkey
          obtain ⟨p', hp', hhash⟩ := hkept r.key r (Dict.get?_set_self _ _ _)
          exact ⟨p', hp', hhash.trans (hknown p hp).symm⟩
        · exact hkept key p ((Dict.get?_set_of_ne _ hkey _).trans hp)
      · exact List.forall_mem_cons.mpr ⟨hregistry, hreg⟩
      · exact List.forall_mem_cons.mpr
          ⟨fun _ => hkept r.key r (Dict.get?_set_self _ _ _), hcollected⟩
      · rcases hsource key p hp with hp | hp
        · rw [Dict.get?_set] at hp
          split_ifs at hp with hkey
          · cases hp
            exact .inr List.mem_cons_self
          · exact .inl hp
        · exact .inr (List.mem_cons_of_mem _ hp)
    · have hsome : ¬ (m.get? r.key).isNone := by simpa using hnone
      rw [if_neg hsome] at h
      obtain ⟨hnew'', hkept, hreg, hcollected, hsource⟩ := ih hnew h
      refine ⟨hnew'', hkept, List.forall_mem_cons.mpr ⟨hregistry, hreg⟩,
        List.forall_mem_cons.mpr ⟨fun hnone' => absurd hnone' hnone, hcollected⟩, fun key p hp => ?_⟩
      rcases hsource key p hp with hp | hp
      · exact .inl hp
      · exact .inr (List.mem_cons_of_mem _ hp)

theorem pendingNew_empty : PendingNew m (∅ : Dict SpecKey (PublishedSpecRecord C)) :=
  fun _ _ h => nomatch h

theorem Collected.consistent (h : Collected m records ∅ pending') : Consistent m records where
  registry := h.registry
  batch r hr r' hr' hkey := by
    cases hrow : m.get? r.key with
    | some row =>
      have hrow' : m.get? r'.key = some row := hkey ▸ hrow
      exact (h.registry r hr row hrow).symm.trans (h.registry r' hr' row hrow')
    | none =>
      obtain ⟨p, hp, hhash⟩ := h.collected r hr hrow
      obtain ⟨p', hp', hhash'⟩ := h.collected r' hr' (hkey ▸ hrow)
      rw [hkey] at hp
      cases hp.symm.trans hp'
      exact hhash.symm.trans hhash'

theorem exists_memoryPending (hconsistent : Consistent m records)
    (hpending : ∀ r ∈ records, ∀ p, pending.get? r.key = some p →
      p.definitionHash = r.definitionHash) :
    ∃ pending', memoryPending m records pending = some pending' := by
  induction records generalizing pending with
  | nil => exact ⟨pending, rfl⟩
  | cons r records ih =>
    have hconsistent' : Consistent m records :=
      ⟨fun r' hr' => hconsistent.registry r' (List.mem_cons_of_mem _ hr'),
        fun r' hr' r'' hr'' => hconsistent.batch r' (List.mem_cons_of_mem _ hr') r''
          (List.mem_cons_of_mem _ hr'')⟩
    rw [memoryPending, if_neg]
    · refine ih hconsistent' fun r' hr' p hp => ?_
      split_ifs at hp
      · rw [Dict.get?_set] at hp
        split_ifs at hp with hkey
        · cases hp
          exact hconsistent.batch _ List.mem_cons_self r' (List.mem_cons_of_mem _ hr') hkey
        · exact hpending r' (List.mem_cons_of_mem _ hr') p hp
      · exact hpending r' (List.mem_cons_of_mem _ hr') p hp
    · rintro ⟨hash, hhash, hne⟩
      obtain ⟨known, hknown, rfl⟩ := Option.map_eq_some_iff.mp hhash
      rcases Option.or_eq_some_iff.mp hknown with hp | ⟨-, hrow⟩
      · exact hne (hpending r List.mem_cons_self known hp)
      · exact hne (hconsistent.registry r List.mem_cons_self known hrow)

theorem memoryPublishBatch_of_not (h : ¬ Consistent m records) :
    memoryPublishBatch m records = (m, false) := by
  unfold memoryPublishBatch
  cases hpending : memoryPending m records ∅ with
  | none => rfl
  | some => exact absurd (collected_of_memoryPending pendingNew_empty hpending).consistent h

theorem nodup_values {pending : Dict SpecKey (PublishedSpecRecord C)} (h : PendingNew m pending) :
    (pending.values.map (·.key)).Nodup := by
  have hkeys : pending.values.map (·.key) = pending.keys := by
    unfold Dict.values Dict.keys
    rw [List.map_map]
    exact List.map_congr_left fun item hitem => (h item.1 item.2 (Dict.get?_eq_some.mpr hitem)).1
  rw [hkeys]
  exact pending.nodup_keys

/-- A batch whose records agree adds those of them that are new, if it has one for each key. -/
theorem memoryPublishBatch_of_consistent (h : Consistent m records)
    (hone : ∀ r ∈ records, ∀ r' ∈ records, r.key = r'.key → m.get? r.key = none → r = r') :
    (memoryPublishBatch m records).2 = true ∧ ∀ key, (memoryPublishBatch m records).1.get? key =
      (m.get? key).or (records.find? (·.key = key)) := by
  have hempty : ∀ r ∈ records, ∀ p,
      (∅ : Dict SpecKey (PublishedSpecRecord C)).get? r.key = some p →
        p.definitionHash = r.definitionHash := fun _ _ _ hp => nomatch hp
  obtain ⟨pending, hpending⟩ := exists_memoryPending h hempty
  have hcollected := collected_of_memoryPending pendingNew_empty hpending
  have hsource : ∀ key p, pending.get? key = some p → p ∈ records := fun key p hp =>
    (hcollected.source key p hp).resolve_left fun h => nomatch h
  unfold memoryPublishBatch
  rw [hpending]
  refine ⟨rfl, fun key => ?_⟩
  dsimp only
  have hkeys := nodup_values hcollected.new
  cases hrow : m.get? key with
  | some =>
    have hnot : key ∉ pending.values.map (·.key) := by
      intro hmem
      obtain ⟨r, hr, rfl⟩ := List.mem_map.mp hmem
      obtain ⟨key', hkey'⟩ := Dict.mem_values.mp hr
      obtain ⟨rfl, hnone⟩ := hcollected.new key' r hkey'
      nomatch hrow.symm.trans hnone
    rw [get?_publishAll_of_notMem hnot, hrow]
    rfl
  | none =>
    rw [Option.none_or]
    cases hfind : records.find? (·.key = key) with
    | some r =>
      have hr := List.mem_of_find?_eq_some hfind
      obtain rfl : r.key = key := by simpa using List.find?_some hfind
      obtain ⟨p, hp, -⟩ := hcollected.collected r hr hrow
      have hpkey := (hcollected.new r.key p hp).1
      rw [← hpkey, get?_publishAll_of_mem hkeys (Dict.mem_values.mpr ⟨r.key, hp⟩)]
      exact congrArg some (hone p (hsource r.key p hp) r hr hpkey (hpkey ▸ hrow))
    | none =>
      rw [get?_publishAll_of_notMem, hrow]
      intro hmem
      obtain ⟨p, hp, rfl⟩ := List.mem_map.mp hmem
      obtain ⟨key', hkey'⟩ := Dict.mem_values.mp hp
      have hnot := List.find?_eq_none.mp hfind p (hsource key' p hkey')
      simp at hnot

end

end JavisSaas.Agent.Registry
