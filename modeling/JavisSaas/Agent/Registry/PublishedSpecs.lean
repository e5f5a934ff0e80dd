import JavisSaas.Agent.Registry.SpecTables
import JavisSaas.Lib.Custody

/-!
# Published specs stay published

What holds in every interleaving of publications, batches and changes of status, if the declared
hashes are those of the contents, a batch has one record for each new key, and none is overtaken
between its read of a key and its insert.

* `registryLaw_along`: the registries agree, and keep what was published.
* `not_registryLaw_declared`: of two versions with one declared hash, the second is not stored.
-/

namespace JavisSaas.Agent.Registry

open JavisSaas.Lib

variable {C : Type} {specHash : SpecHash C}

/-! ## What the registry keeps -/

/-- A publication ends alike in both registries; it is stored if it returned, and inserted nothing
if it raised. -/
structure OutcomeLaw (t : SpecTable C) (o : PublishOutcome C) : Prop where
  same : o.returned = o.inMemory
  stored : o.returned = true → ∀ r ∈ o.records, Stored t r
  raised : o.returned = false → o.inserted = []

structure RegistryInv (specHash : SpecHash C) (s : RegistryStore C) : Prop where
  hashed : Hashed specHash s.table
  agree : Agree s.table s.memory
  declared : ∀ u ∈ s.uncommitted, u.Declares specHash
  fresh : ∀ u ∈ s.uncommitted, s.table.get? u.key = none
  log : ∀ o ∈ s.log, OutcomeLaw s.table o

/-- What a batch has found and inserted, with `todo` still to come. -/
structure BatchInv (s : RegistryStore C) (all todo : List (PublishedSpecRecord C))
    (seen : Dict SpecKey String) (pending : List (PublishedSpecRecord C)) : Prop where
  listed : ∀ r ∈ todo, r ∈ all
  inserted : ∀ p ∈ pending, p ∈ all ∧ p ∈ s.uncommitted
  nodup : (pending.map (·.key)).Nodup
  marked : ∀ p ∈ pending, seen.get? p.key = some p.definitionHash
  source : ∀ key hash, seen.get? key = some hash → ∃ r ∈ all, r.key = key ∧ r.definitionHash = hash
  done : ∀ r ∈ all, r ∈ todo ∨ (s.table.get? r.key).isSome ∨ r ∈ pending

/-- What a batch that has committed finds when it reads its records again. -/
def BatchEnd (t : SpecTable C) (all todo inserted : List (PublishedSpecRecord C))
    (inMemory : Bool) : Prop :=
  inMemory = true ∧ (∀ r ∈ all, Stored t r) ∧ (∀ r ∈ todo, r ∈ all) ∨
    inMemory = false ∧ inserted = [] ∧ ∃ r ∈ todo, OtherHash t r

def CallInv (s : RegistryStore C) : RegistryCall C → Prop
  | .checking _ _ | .inserting _ | .updating _ _ _ => True
  | .readingBack r inserted inMemory => ∃ row, s.table.get? r.key = some row ∧
    (inMemory = true ↔ row.definitionHash = r.definitionHash) ∧
      (inMemory = false → inserted = [])
  | .selecting all todo seen pending => BatchInv s all todo seen pending
  | .adding all r todo seen pending =>
    BatchInv s all (r :: todo) seen pending ∧ seen.get? r.key = some r.definitionHash
  | .batchReading all todo inserted inMemory => BatchEnd s.table all todo inserted inMemory

/-- The call has inserted a row with the key in its open transaction. -/
def RegistryCall.Holds : RegistryCall C → SpecKey → Prop
  | .selecting _ _ _ pending, key | .adding _ _ _ _ pending, key => key ∈ pending.map (·.key)
  | _, _ => False

section

variable {s s' : RegistryStore C} {t t' m : SpecTable C} {r : PublishedSpecRecord C}
  {o : PublishOutcome C} {all todo pending inserted : List (PublishedSpecRecord C)}
  {seen : Dict SpecKey String} {inMemory : Bool}

theorem OutcomeLaw.kept (h : OutcomeLaw t o) (hkept : SpecsKept t t') : OutcomeLaw t' o :=
  ⟨h.same, fun hret r hr => (h.stored hret r hr).kept hkept, h.raised⟩

theorem otherHash_kept (h : OtherHash t r) (hkept : SpecsKept t t') : OtherHash t' r := by
  obtain ⟨row, hrow, hne⟩ := h
  obtain ⟨row', hrow', hsame⟩ := hkept.hash hrow
  exact ⟨row', hrow', by rwa [hsame]⟩

theorem SpecsKept.isSome {key : SpecKey} (h : SpecsKept t t') (hkey : (t.get? key).isSome) :
    (t'.get? key).isSome := by
  obtain ⟨row, hrow⟩ := Option.isSome_iff_exists.mp hkey
  obtain ⟨row', hrow', -⟩ := h key row hrow
  exact Option.isSome_iff_exists.mpr ⟨row', hrow'⟩

/-- What is known of a call depends on the rows that are published, and on its own that are not. -/
theorem CallInv.kept {d : RegistryCall C} (h : CallInv s d) (hkept : SpecsKept s.table s'.table)
    (hown : ∀ u ∈ s.uncommitted, d.Holds u.key → u ∈ s'.uncommitted) : CallInv s' d := by
  have hbatch : ∀ {all todo pending : List (PublishedSpecRecord C)} {seen : Dict SpecKey String},
      (∀ u ∈ s.uncommitted, u.key ∈ pending.map (·.key) → u ∈ s'.uncommitted) →
        BatchInv s all todo seen pending → BatchInv s' all todo seen pending := by
    rintro all todo pending seen hown ⟨htodo, hpending, hnodup, hseen, hsource, hdone⟩
    refine ⟨htodo, fun p hp => ⟨(hpending p hp).1, ?_⟩, hnodup, hseen, hsource, fun r hr => ?_⟩
    · exact hown p (hpending p hp).2 (List.mem_map_of_mem hp)
    · exact (hdone r hr).imp_right fun h => h.imp_left hkept.isSome
  cases d with
  | checking | inserting | updating => trivial
  | readingBack =>
    obtain ⟨row, hrow, hrest⟩ := h
    obtain ⟨row', hrow', hsame⟩ := hkept.hash hrow
    exact ⟨row', hrow', by rwa [hsame]⟩
  | selecting => exact hbatch hown h
  | adding => exact ⟨hbatch hown h.1, h.2⟩
  | batchReading =>
    rcases h with ⟨hmem, hall, htodo⟩ | ⟨hmem, hins, r, hr, hother⟩
    · exact .inl ⟨hmem, fun r hr => (hall r hr).kept hkept, htodo⟩
    · exact .inr ⟨hmem, hins, r, hr, otherHash_kept hother hkept⟩

theorem RegistryInv.logged (h : RegistryInv specHash s) (ho : OutcomeLaw s.table o) :
    RegistryInv specHash (s.logged o) := by
  refine ⟨h.hashed, h.agree, h.declared, h.fresh, fun o' ho' => ?_⟩
  rcases mem_concat ho' with ho' | rfl
  · exact h.log o' ho'
  · exact ho

theorem mem_release {u : PublishedSpecRecord C} :
    u ∈ (s.release pending).uncommitted ↔ u ∈ s.uncommitted ∧ u.key ∉ pending.map (·.key) := by
  show u ∈ s.uncommitted.filter _ ↔ _
  rw [List.mem_filter, decide_eq_true_iff]

theorem RegistryInv.release (h : RegistryInv specHash s) :
    RegistryInv specHash (s.release pending) :=
  ⟨h.hashed, h.agree, fun u hu => h.declared u (mem_release.mp hu).1,
    fun u hu => h.fresh u (mem_release.mp hu).1, h.log⟩

/-! ### The two registries -/

theorem memoryPublish_of_none (h : m.get? r.key = none) :
    memoryPublish m r = (m.set r.key r, true) := by
  rw [memoryPublish, h]

/-- For a key that is published the registry in memory answers as the other does. -/
theorem Agree.memoryPublish (h : Agree t m) {row : PublishedSpecRecord C}
    (hrow : t.get? r.key = some row) :
    memoryPublish m r = (m, decide (row.definitionHash = r.definitionHash)) := by
  rw [Registry.memoryPublish, ← h r.key, hrow]

theorem Agree.missingDependency (h : Agree t m) (kind : String) (ref : PinnedRef) :
    missingDependency m kind ref = missingDependency t kind ref := by
  rw [Registry.missingDependency, ← h, Registry.missingDependency]

theorem not_consistent_of_otherHash (h : Agree t m) (hr : r ∈ all) (hother : OtherHash t r) :
    ¬ Consistent m all := by
  intro hconsistent
  obtain ⟨row, hrow, hne⟩ := hother
  exact hne (hconsistent.registry r hr row ((h r.key).symm.trans hrow))

theorem BatchInv.not_consistent (hI : RegistryInv specHash s)
    (h : BatchInv s all (r :: todo) seen pending)
    (hraise : ∃ hash ∈ (seen.get? r.key).or ((s.table.get? r.key).map (·.definitionHash)),
      hash ≠ r.definitionHash) : ¬ Consistent s.memory all := by
  have hr := h.listed r List.mem_cons_self
  obtain ⟨hash, hhash, hne⟩ := hraise
  rcases Option.or_eq_some_iff.mp hhash with hseen | ⟨-, hrow⟩
  · obtain ⟨r', hr', hkey, rfl⟩ := h.source r.key hash hseen
    exact fun hconsistent => hne (hconsistent.batch r' hr' r hr hkey)
  · obtain ⟨row, hget, rfl⟩ := Option.map_eq_some_iff.mp hrow
    exact not_consistent_of_otherHash hI.agree hr ⟨row, hget, hne⟩

theorem BatchInv.fresh (hI : RegistryInv specHash s) (h : BatchInv s all todo seen pending)
    {key : SpecKey} (hkey : key ∈ pending.map (·.key)) : s.table.get? key = none := by
  obtain ⟨p, hp, rfl⟩ := List.mem_map.mp hkey
  exact hI.fresh p (h.inserted p hp).2

theorem stored_of_not_otherHash (hsome : (t.get? r.key).isSome) (h : ¬ OtherHash t r) :
    Stored t r := by
  obtain ⟨row, hrow⟩ := Option.isSome_iff_exists.mp hsome
  exact ⟨row, hrow, (stored_or_otherHash hrow).mp h⟩

/-- A record of a batch that is at its end, when no other hash is in the registry. -/
theorem BatchInv.stored_or_pending (h : BatchInv s all [] seen pending)
    (hnone : ∀ r ∈ all, ¬ OtherHash s.table r) (hr : r ∈ all) :
    Stored s.table r ∨ r ∈ pending := by
  rcases h.done r hr with hnil | hsome | hpending
  · nomatch hnil
  · exact .inl (stored_of_not_otherHash hsome (hnone r hr))
  · exact .inr hpending

/-- A record of a batch whose key is new to the registry at its end has been inserted. -/
theorem BatchInv.mem_pending (h : BatchInv s all [] seen pending) (hr : r ∈ all)
    (hnew : s.table.get? r.key = none) : r ∈ pending := by
  rcases h.done r hr with hnil | hsome | hpending
  · nomatch hnil
  · rw [hnew] at hsome
    nomatch hsome
  · exact hpending

theorem BatchInv.one (h : BatchInv s all [] seen pending) (hr : r ∈ all)
    {r' : PublishedSpecRecord C} (hr' : r' ∈ all) (hkey : r.key = r'.key)
    (hnew : s.table.get? r.key = none) : r = r' :=
  List.inj_on_of_nodup_map h.nodup (h.mem_pending hr hnew) (h.mem_pending hr' (hkey ▸ hnew)) hkey

theorem BatchInv.consistent (hI : RegistryInv specHash s) (h : BatchInv s all [] seen pending)
    (hnone : ∀ r ∈ all, ¬ OtherHash s.table r) : Consistent s.memory all where
  registry r hr row hrow :=
    (stored_or_otherHash ((hI.agree r.key).trans hrow)).mp (hnone r hr)
  batch r hr r' hr' hkey := by
    cases hrow : s.table.get? r.key with
    | none => rw [h.one hr hr' hkey hrow]
    | some =>
      exact ((stored_or_otherHash hrow).mp (hnone r hr)).symm.trans
        ((stored_or_otherHash (hkey ▸ hrow)).mp (hnone r' hr'))

/-- The records of a batch whose commit finds no other hash are stored after it. -/
theorem BatchInv.stored_publishAll (h : BatchInv s all [] seen pending)
    (hkept : SpecsKept s.table (publishAll s.table pending))
    (hnone : ∀ r ∈ all, ¬ OtherHash s.table r) (hr : r ∈ all) :
    Stored (publishAll s.table pending) r := by
  rcases h.stored_or_pending hnone hr with hst | hp
  · exact hst.kept hkept
  · exact ⟨_, get?_publishAll_of_mem h.nodup hp, rfl⟩

/-- The batch does to the registry in memory what it does in its transaction. -/
theorem BatchInv.memoryPublishBatch (hI : RegistryInv specHash s)
    (h : BatchInv s all [] seen pending) (hnone : ∀ r ∈ all, ¬ OtherHash s.table r) :
    (memoryPublishBatch s.memory all).2 = true ∧
      Agree (publishAll s.table pending) (memoryPublishBatch s.memory all).1 := by
  obtain ⟨hreturned, hget⟩ := memoryPublishBatch_of_consistent (h.consistent hI hnone)
    fun r hr r' hr' hkey hnew => h.one hr hr' hkey ((hI.agree r.key).trans hnew)
  refine ⟨hreturned, fun key => ?_⟩
  rw [hget key, ← hI.agree key]
  by_cases hkey : key ∈ pending.map (·.key)
  · have htable := h.fresh hI hkey
    obtain ⟨p, hp, rfl⟩ := List.mem_map.mp hkey
    rw [htable, Option.none_or, get?_publishAll_of_mem h.nodup hp]
    cases hfind : all.find? (·.key = p.key) with
    | none =>
      have hnot := List.find?_eq_none.mp hfind p (h.inserted p hp).1
      simp at hnot
    | some r =>
      have hrkey : r.key = p.key := by simpa using List.find?_some hfind
      exact congrArg some (h.one (h.inserted p hp).1 (List.mem_of_find?_eq_some hfind) hrkey.symm
        htable)
  · rw [get?_publishAll_of_notMem hkey]
    cases hrow : s.table.get? key with
    | some => rfl
    | none =>
      rw [Option.none_or]
      cases hfind : all.find? (·.key = key) with
      | none => rfl
      | some r =>
        obtain rfl : r.key = key := by simpa using List.find?_some hfind
        exact absurd (List.mem_map_of_mem
          (h.mem_pending (List.mem_of_find?_eq_some hfind) hrow)) hkey

theorem BatchInv.kept_publishAll (hI : RegistryInv specHash s)
    (h : BatchInv s all todo seen pending) : SpecsKept s.table (publishAll s.table pending) := by
  intro key row hrow
  refine ⟨row, (get?_publishAll_of_notMem fun hkey => ?_).trans hrow, rfl⟩
  nomatch (h.fresh hI hkey).symm.trans hrow

theorem BatchInv.hashed_publishAll (hI : RegistryInv specHash s)
    (h : BatchInv s all todo seen pending) : Hashed specHash (publishAll s.table pending) := by
  intro key row hrow
  rcases get?_publishAll h.nodup hrow with ⟨hold, -⟩ | ⟨hnew, hkey⟩
  · exact hI.hashed key row hold
  · exact ⟨hI.declared _ (h.inserted _ hnew).2, hkey⟩

theorem BatchInv.commit (hI : RegistryInv specHash s) (h : BatchInv s all todo seen pending)
    (hagree : Agree (publishAll s.table pending) m) :
    RegistryInv specHash
      ({ s with table := publishAll s.table pending, memory := m }.release pending) := by
  refine ⟨h.hashed_publishAll hI, hagree, fun u hu => ?_, fun u hu => ?_, fun o ho => ?_⟩
  · exact hI.declared u (mem_release.mp hu).1
  · obtain ⟨hmem, hkey⟩ := mem_release.mp hu
    exact (get?_publishAll_of_notMem hkey).trans (hI.fresh u hmem)
  · exact (hI.log o ho).kept (h.kept_publishAll hI)

end

/-! ## Steps -/

/-- A row is inserted under its own hash, which no other version has, and no other record of the
batch; and no other hash of a record is in the registry when a batch commits. -/
def Undisturbed (specHash : SpecHash C) (s : RegistryStore C) : RegistryCall C → Unit → Prop
  | .inserting r, _ =>
    (s.table.get? r.key).isSome ∨ r.Declares specHash ∧ ¬ HashTaken s.table r
  | .adding _ r _ _ pending, _ =>
    (s.table.get? r.key).isSome ∨ r ∈ pending ∨
      r.Declares specHash ∧ ¬ HashTaken s.table r ∧ ∀ p ∈ pending, ¬ SameHash p r
  | .selecting all [] _ pending, _ => pending = [] ∨ ∀ r ∈ all, ¬ OtherHash s.table r
  | _, _ => True

instance [DecidableEq C] (s : RegistryStore C) (c : RegistryCall C) (a : Unit) :
    Decidable (Undisturbed specHash s c a) := by
  unfold Undisturbed
  split <;> infer_instance

/-- What a step keeps of the registry, of the calls that hold other rows, and of its own. -/
structure Keeps (specHash : SpecHash C) (s : RegistryStore C) (c : RegistryCall C)
    (s' : RegistryStore C) (c' : Option (RegistryCall C)) : Prop where
  inv : RegistryInv specHash s'
  specs : SpecsKept s.table s'.table
  others : ∀ u ∈ s.uncommitted, ¬ c.Holds u.key → u ∈ s'.uncommitted
  own : ∀ d ∈ c', CallInv s' d
  taken : ∀ d ∈ c', ∀ key, d.Holds key → c.Holds key ∨ ∀ u ∈ s.uncommitted, u.key ≠ key

section

variable {s s' : RegistryStore C} {r : PublishedSpecRecord C} {c : RegistryCall C}
  {c' : Option (RegistryCall C)} {all todo pending inserted : List (PublishedSpecRecord C)}
  {seen : Dict SpecKey String} {inMemory : Bool} {o : PublishOutcome C}

theorem Keeps.of_logged (hI : RegistryInv specHash s) (ho : OutcomeLaw s.table o) :
    Keeps specHash s c (s.logged o) none :=
  ⟨hI.logged ho, .refl _, fun _ hu _ => hu, (fun _ h => nomatch h), fun _ h => nomatch h⟩

theorem Keeps.of_next {d : RegistryCall C} (hI : RegistryInv specHash s) (hd : CallInv s d)
    (hholds : ∀ key, d.Holds key → c.Holds key) : Keeps specHash s c s (some d) := by
  refine ⟨hI, .refl _, fun _ hu _ => hu, fun e he => ?_, fun e he key hkey => ?_⟩
  · cases he
    exact hd
  · cases he
    exact .inl (hholds key hkey)

theorem keeps_checking (hI : RegistryInv specHash s) {refs : List (String × PinnedRef)}
    (h : registryStep s (.checking refs r) () = some (s', c')) :
    Keeps specHash s (.checking refs r) s' c' := by
  cases refs with
  | cons =>
    rw [registryStep] at h
    split_ifs at h with hmissing
    · cases h
      refine .of_logged hI ⟨?_, (fun h => nomatch h), fun _ => rfl⟩
      obtain ⟨e, he⟩ := Option.isSome_iff_exists.mp hmissing
      rw [hI.agree.missingDependency, he]
      rfl
    · cases h
      exact .of_next hI trivial fun _ h => h
  | nil =>
    rw [registryStep] at h
    split_ifs at h with hsome
    · obtain ⟨row, hrow⟩ := Option.isSome_iff_exists.mp hsome
      rw [hI.agree.memoryPublish hrow] at h
      cases h
      refine .of_logged hI ⟨?_, fun hret r' hr' => ?_, fun _ => rfl⟩
      · exact decide_eq_decide.mpr (stored_or_otherHash hrow)
      · obtain rfl := List.mem_singleton.mp hr'
        exact stored_of_not_otherHash hsome (of_decide_eq_true hret)
    · cases h
      exact .of_next hI trivial fun _ h => h

theorem keeps_inserting (hI : RegistryInv specHash s)
    (hG : Undisturbed specHash s (.inserting r) ())
    (h : registryStep s (.inserting r) () = some (s', c')) :
    Keeps specHash s (.inserting r) s' c' := by
  rw [registryStep] at h
  by_cases hblocked : Blocked s r
  · rw [if_pos hblocked] at h
    nomatch h
  rw [if_neg hblocked] at h
  dsimp only at h
  by_cases hsome : (s.table.get? r.key).isSome
  · obtain ⟨row, hrow⟩ := Option.isSome_iff_exists.mp hsome
    rw [hI.agree.memoryPublish hrow, if_pos (.inl hsome)] at h
    cases h
    exact .of_next hI ⟨row, hrow, decide_eq_true_iff, fun _ => rfl⟩ fun _ h => h
  · obtain ⟨hdeclares, htaken⟩ := hG.resolve_left hsome
    have hnone : s.table.get? r.key = none := Option.not_isSome_iff_eq_none.mp hsome
    rw [memoryPublish_of_none ((hI.agree r.key).symm.trans hnone),
      if_neg (fun hor => hor.elim hsome htaken)] at h
    cases h
    have hkept := specsKept_set hnone r
    refine ⟨⟨hI.hashed.set hdeclares, hI.agree.set, hI.declared, fun u hu => ?_, fun o ho => ?_⟩,
      hkept, fun _ hu _ => hu, fun d hd => ?_, fun d hd key hkey => ?_⟩
    · rw [Dict.get?_set_of_ne _ fun hkey => hblocked ⟨u, hu, .inl hkey.symm⟩]
      exact hI.fresh u hu
    · exact (hI.log o ho).kept hkept
    · cases hd
      exact ⟨_, Dict.get?_set_self _ _ _, iff_of_true rfl rfl, fun h => nomatch h⟩
    · cases hd
      exact hkey.elim

theorem keeps_readingBack (hI : RegistryInv specHash s)
    (hJ : CallInv s (.readingBack r inserted inMemory))
    (h : registryStep s (.readingBack r inserted inMemory) () = some (s', c')) :
    Keeps specHash s (.readingBack r inserted inMemory) s' c' := by
  obtain ⟨row, hrow, hmem, hins⟩ := hJ
  cases h
  have hsame : decide (¬ OtherHash s.table r) = inMemory := by
    rw [Bool.eq_iff_iff, decide_eq_true_iff, stored_or_otherHash hrow]
    exact hmem.symm
  refine .of_logged hI ⟨hsame, fun hret r' hr' => ?_, fun hraised => hins ?_⟩
  · obtain rfl := List.mem_singleton.mp hr'
    exact ⟨row, hrow, (stored_or_otherHash hrow).mp (of_decide_eq_true hret)⟩
  · exact hsame.symm.trans hraised

theorem keeps_selecting_cons (hI : RegistryInv specHash s)
    (hJ : BatchInv s all (r :: todo) seen pending)
    (h : registryStep s (.selecting all (r :: todo) seen pending) () = some (s', c')) :
    Keeps specHash s (.selecting all (r :: todo) seen pending) s' c' := by
  rw [registryStep] at h
  dsimp only at h
  by_cases hraise : ∃ hash ∈ (seen.get? r.key).or
      ((s.table.get? r.key).map (·.definitionHash)), hash ≠ r.definitionHash
  · rw [if_pos hraise, memoryPublishBatch_of_not (hJ.not_consistent hI hraise)] at h
    cases h
    refine ⟨hI.release.logged ⟨rfl, (fun h => nomatch h), fun _ => rfl⟩, .refl _, fun u hu hnot => ?_,
      (fun _ h => nomatch h), fun _ h => nomatch h⟩
    exact mem_release.mpr ⟨hu, hnot⟩
  · rw [if_neg hraise] at h
    cases h
    refine .of_next hI ⟨⟨hJ.listed, hJ.inserted, hJ.nodup, fun p hp => ?_, fun key hash hkey => ?_,
      hJ.done⟩, Dict.get?_set_self _ _ _⟩ fun _ h => h
    · rw [Dict.get?_set]
      split_ifs with hkey
      · refine congrArg some (not_not.mp fun hne => hraise ⟨_, ?_, Ne.symm hne⟩)
        rw [hkey, hJ.marked p hp]
        rfl
      · exact hJ.marked p hp
    · rw [Dict.get?_set] at hkey
      split_ifs at hkey with hsame
      · exact ⟨r, hJ.listed r List.mem_cons_self, hsame, Option.some.inj hkey⟩
      · exact hJ.source key hash hkey

theorem keeps_selecting_nil (hI : RegistryInv specHash s) (hJ : BatchInv s all [] seen pending)
    (hG : pending = [] ∨ ∀ r ∈ all, ¬ OtherHash s.table r)
    (h : registryStep s (.selecting all [] seen pending) () = some (s', c')) :
    Keeps specHash s (.selecting all [] seen pending) s' c' := by
  rw [registryStep] at h
  dsimp only at h
  have hkept := hJ.kept_publishAll hI
  have hothers : ∀ u ∈ s.uncommitted, u.key ∉ pending.map (·.key) →
      u ∈ (s.release pending).uncommitted := fun u hu hnot => mem_release.mpr ⟨hu, hnot⟩
  by_cases hnone : ∀ r ∈ all, ¬ OtherHash s.table r
  · cases h
    obtain ⟨hreturned, hagree⟩ := hJ.memoryPublishBatch hI hnone
    refine ⟨hJ.commit hI hagree, hkept, hothers, fun d hd => ?_,
      fun d hd key hkey => ?_⟩
    · cases hd
      exact .inl ⟨hreturned, fun r hr => hJ.stored_publishAll hkept hnone hr, fun r hr => hr⟩
    · cases hd
      exact hkey.elim
  · -- the batch has inserted nothing, and the registry has another hash for one of its records
    obtain rfl := hG.resolve_right hnone
    obtain ⟨r, hr, hother⟩ : ∃ r ∈ all, OtherHash s.table r := by
      simpa only [not_forall, not_not, exists_prop] using hnone
    have hmemory := memoryPublishBatch_of_not (not_consistent_of_otherHash hI.agree hr hother)
    rw [hmemory] at h
    cases h
    refine ⟨hI.release, .refl _, hothers, fun d hd => ?_, fun d hd key hkey => ?_⟩
    · cases hd
      exact .inr ⟨rfl, rfl, r, hr, hother⟩
    · cases hd
      exact hkey.elim

/-- A record of a batch that is not inserted: it is in the registry, or in the batch before. -/
theorem BatchInv.skip (hJ : BatchInv s all (r :: todo) seen pending)
    (hskip : (s.table.get? r.key).isSome ∨ r ∈ pending) : BatchInv s all todo seen pending := by
  refine ⟨fun r' hr' => hJ.listed r' (List.mem_cons_of_mem _ hr'), hJ.inserted, hJ.nodup, hJ.marked,
    hJ.source, fun r' hr' => ?_⟩
  rcases hJ.done r' hr' with htodo | hdone
  · rcases List.mem_cons.mp htodo with rfl | htodo
    · exact .inr hskip
    · exact .inl htodo
  · exact .inr hdone

theorem BatchInv.add (hJ : BatchInv s all (r :: todo) seen pending)
    (hseen : seen.get? r.key = some r.definitionHash) (hnew : ∀ p ∈ pending, p.key ≠ r.key) :
    BatchInv { s with uncommitted := r :: s.uncommitted } all todo seen (r :: pending) where
  listed r' hr' := hJ.listed r' (List.mem_cons_of_mem _ hr')
  inserted := by
    refine List.forall_mem_cons.mpr
      ⟨⟨hJ.listed r List.mem_cons_self, List.mem_cons_self⟩, fun p hp => ?_⟩
    exact (hJ.inserted p hp).imp_right (List.mem_cons_of_mem _)
  nodup := by
    rw [List.map_cons, List.nodup_cons]
    refine ⟨fun hmem => ?_, hJ.nodup⟩
    obtain ⟨p, hp, hkey⟩ := List.mem_map.mp hmem
    exact hnew p hp hkey
  marked := List.forall_mem_cons.mpr ⟨hseen, hJ.marked⟩
  source := hJ.source
  done r' hr' := by
    rcases hJ.done r' hr' with htodo | hsome | hpending
    · rcases List.mem_cons.mp htodo with rfl | htodo
      · exact .inr (.inr List.mem_cons_self)
      · exact .inl htodo
    · exact .inr (.inl hsome)
    · exact .inr (.inr (List.mem_cons_of_mem _ hpending))

theorem keeps_adding (hI : RegistryInv specHash s)
    (hJ : CallInv s (.adding all r todo seen pending))
    (hG : Undisturbed specHash s (.adding all r todo seen pending) ())
    (h : registryStep s (.adding all r todo seen pending) () = some (s', c')) :
    Keeps specHash s (.adding all r todo seen pending) s' c' := by
  obtain ⟨hbatch, hseen⟩ := hJ
  rw [registryStep] at h
  by_cases hskip : (s.table.get? r.key).isSome ∨ r ∈ pending
  · have hnext := Keeps.of_next (c := .adding all r todo seen pending)
      (d := .selecting all todo seen pending) hI (hbatch.skip hskip) fun _ h => h
    split_ifs at h with hpending hblocked hconflict
    · cases h
      exact hnext
    · cases h
      exact hnext
    · rcases hskip with hsome | hr
      · exact absurd (.inl hsome) hconflict
      · exact absurd ⟨r, hr, .inl rfl⟩ hpending
  · obtain ⟨hsome, hnew⟩ := not_or.mp hskip
    obtain ⟨hdeclares, htaken, hother⟩ := (hG.resolve_left hsome).resolve_left hnew
    have hapart : ∀ p ∈ pending, p.key ≠ r.key := by
      intro p hp hkey
      have hmarked := hbatch.marked p hp
      rw [hkey, hseen] at hmarked
      exact hother p hp ⟨congrArg Prod.fst hkey, congrArg (·.2.1) hkey,
        (Option.some.inj hmarked).symm⟩
    have hpending : ¬ ∃ p ∈ pending, p.key = r.key ∨ SameHash p r := by
      rintro ⟨p, hp, hkey | hsame⟩
      · exact hapart p hp hkey
      · exact hother p hp hsame
    rw [if_neg hpending] at h
    by_cases hblocked : Blocked s r
    · rw [if_pos hblocked] at h
      nomatch h
    rw [if_neg hblocked, if_neg (fun hor => hor.elim hsome htaken)] at h
    cases h
    refine ⟨⟨hI.hashed, hI.agree, ?_, ?_, hI.log⟩, .refl _, fun u hu _ => List.mem_cons_of_mem _ hu,
      fun d hd => ?_, fun d hd key hkey => ?_⟩
    · exact List.forall_mem_cons.mpr ⟨hdeclares, hI.declared⟩
    · exact List.forall_mem_cons.mpr ⟨Option.not_isSome_iff_eq_none.mp hsome, hI.fresh⟩
    · cases hd
      exact hbatch.add hseen hapart
    · cases hd
      rcases List.mem_cons.mp hkey with rfl | hkey
      · exact .inr fun u hu hsame => hblocked ⟨u, hu, .inl hsame⟩
      · exact .inl hkey

theorem keeps_batchReading (hI : RegistryInv specHash s)
    (hJ : BatchEnd s.table all todo inserted inMemory)
    (h : registryStep s (.batchReading all todo inserted inMemory) () = some (s', c')) :
    Keeps specHash s (.batchReading all todo inserted inMemory) s' c' := by
  cases todo with
  | nil =>
    cases h
    rcases hJ with ⟨hmem, hall, -⟩ | ⟨-, -, r, hr, -⟩
    · exact .of_logged hI ⟨hmem.symm, fun _ => hall, fun h => nomatch h⟩
    · nomatch hr
  | cons r =>
    rw [registryStep] at h
    split_ifs at h with hother
    · cases h
      rcases hJ with ⟨-, hall, htodo⟩ | ⟨hmem, hins, -⟩
      · obtain ⟨row, hrow, hhash⟩ := hall r (htodo r List.mem_cons_self)
        exact absurd hother ((stored_or_otherHash hrow).mpr hhash)
      · exact .of_logged hI ⟨hmem.symm, (fun h => nomatch h), fun _ => hins⟩
    · cases h
      refine .of_next hI ?_ fun _ h => h
      rcases hJ with ⟨hmem, hall, htodo⟩ | ⟨hmem, hins, r', hr', hother'⟩
      · exact .inl ⟨hmem, hall, fun r hr => htodo r (List.mem_cons_of_mem _ hr)⟩
      · rcases List.mem_cons.mp hr' with rfl | hr'
        · exact absurd hother' hother
        · exact .inr ⟨hmem, hins, r', hr', hother'⟩

theorem keeps_updating (hI : RegistryInv specHash s) {key : SpecKey} {status : String} {now : ℕ}
    (h : registryStep s (.updating key status now) () = some (s', c')) :
    Keeps specHash s (.updating key status now) s' c' := by
  cases h
  have hkept := specsKept_updateStatus s.table key status now
  refine ⟨⟨hI.hashed.updateStatus key status now, hI.agree.updateStatus status now, hI.declared,
    fun u hu => ?_, fun o ho => (hI.log o ho).kept hkept⟩, hkept, fun _ hu _ => hu,
    (fun _ h => nomatch h), fun _ h => nomatch h⟩
  unfold updateStatus
  rw [Dict.get?_modify, hI.fresh u hu]
  rfl

theorem keeps_of_step (hI : RegistryInv specHash s) (hJ : CallInv s c) {a : Unit}
    (hG : Undisturbed specHash s c a) (h : registryStep s c a = some (s', c')) :
    Keeps specHash s c s' c' := by
  cases c with
  | checking => exact keeps_checking hI h
  | inserting => exact keeps_inserting hI hG h
  | readingBack => exact keeps_readingBack hI hJ h
  | selecting _ todo =>
    cases todo with
    | nil => exact keeps_selecting_nil hI hJ hG h
    | cons => exact keeps_selecting_cons hI hJ h
  | adding => exact keeps_adding hI hJ hG h
  | batchReading => exact keeps_batchReading hI hJ h
  | updating => exact keeps_updating hI h

theorem callInv_start (s : RegistryStore C) (req : RegistryRequest C) :
    CallInv s ((registry specHash).start req) ∧
      ∀ key, ¬ ((registry specHash).start req).Holds key := by
  cases req with
  | publishAgentSpec | publish | updateStatus => exact ⟨trivial, fun _ h => h⟩
  | publishBatch =>
    refine ⟨⟨fun _ h => h, (fun _ h => nomatch h), List.nodup_nil, (fun _ h => nomatch h),
      (fun _ _ h => nomatch h), fun r hr => .inl hr⟩, fun _ h => nomatch h⟩

theorem keeps_abort (hI : RegistryInv specHash s) (c : RegistryCall C) :
    RegistryInv specHash ((registry specHash).abort c s) ∧
      SpecsKept s.table ((registry specHash).abort c s).table ∧
        ∀ u ∈ s.uncommitted, ¬ c.Holds u.key → u ∈ ((registry specHash).abort c s).uncommitted := by
  cases c with
  | selecting | adding => exact ⟨hI.release, .refl _, fun u hu hnot => mem_release.mpr ⟨hu, hnot⟩⟩
  | checking | inserting | readingBack | batchReading | updating =>
    exact ⟨hI, .refl _, fun _ hu _ => hu⟩

theorem registryRule : (registry specHash).CustodyRule RegistryCall.Holds (fun _ _ => False)
    (Undisturbed specHash) (fun _ _ => True) (RegistryInv specHash) CallInv where
  start s req _ := callInv_start s req
  step s c a s' c' hI hJ hG h :=
    have hkeeps := keeps_of_step hI hJ hG h
    ⟨hkeeps.inv, fun d hd hapart => hd.kept hkeeps.specs fun u hu hdu =>
      hkeeps.others u hu fun hcu => hapart _ hcu hdu, hkeeps.own⟩
  taken s c a s' d hI hJ hG h key hkey := by
    rcases (keeps_of_step hI hJ hG h).taken d rfl key hkey with hbefore | hfree
    · exact .inl hbefore
    · refine .inr fun e he hekey => ?_
      have hpending : ∀ {all todo pending : List (PublishedSpecRecord C)}
          {seen : Dict SpecKey String}, BatchInv s all todo seen pending →
            key ∉ pending.map (·.key) := by
        intro all todo pending seen hbatch hmem
        obtain ⟨p, hp, hpkey⟩ := List.mem_map.mp hmem
        exact hfree p (hbatch.inserted p hp).2 hpkey
      cases e with
      | selecting => exact hpending he hekey
      | adding => exact hpending he.1 hekey
      | checking | inserting | readingBack | batchReading | updating => exact hekey
  debts s c a s' c' _ _ _ _ _ howed := howed.elim
  abort s c hI _ _ := by
    obtain ⟨hinv, hspecs, hothers⟩ := keeps_abort hI c
    exact ⟨hinv, fun d hd hapart => hd.kept hspecs fun u hu hdu =>
      hothers u hu fun hcu => hapart _ hcu hdu⟩
  abandoned _ _ _ _ _ _ howed := howed.elim

end

/-! ## Runs -/

/-- A reference and the content it is resolved to. -/
def Resolved (specHash : SpecHash C) (ref : Option PinnedRef) (content : Option (RegistrySpec C)) :
    Prop :=
  ∀ pinned ∈ ref, ∃ c ∈ content, c.computeHash specHash pinned.specKind = pinned.definitionHash

structure RegistryLaw (specHash : SpecHash C) (s : RegistryStore C) : Prop where
  agree : Agree s.table s.memory
  hashed : Hashed specHash s.table
  outcomes : ∀ o ∈ s.log, OutcomeLaw s.table o
  resolved : ∀ kind id version expected content,
    resolveExact s.table kind id version expected = .ok content →
      content.computeHash specHash kind = expected
  dependencies : ∀ spec resolution,
    resolveAgentSpecDependencies specHash s.table spec = .ok resolution →
      resolution.agentContent.computeHash specHash "agent" = spec.pinnedHash specHash "agent" ∧
        Resolved specHash spec.promptRef resolution.promptContent ∧
          Resolved specHash spec.modelPolicyRef resolution.modelPolicyContent

theorem Hashed.computeHash_of_resolveExact {t : SpecTable C} (h : Hashed specHash t)
    {kind id version expected : String} {content : RegistrySpec C}
    (hresolve : resolveExact t kind id version expected = .ok content) :
    content.computeHash specHash kind = expected := by
  rw [resolveExact] at hresolve
  cases hrow : t.get? (kind, id, version) with
  | none =>
    rw [hrow] at hresolve
    nomatch hresolve
  | some row =>
    rw [hrow] at hresolve
    dsimp only at hresolve
    split_ifs at hresolve with hhash
    cases hresolve
    obtain ⟨hdeclares, hkey⟩ := h _ row hrow
    have hkind : row.specKind = kind := congrArg Prod.fst hkey
    rw [← hkind, ← not_not.mp hhash]
    exact hdeclares.symm

theorem Hashed.resolved_of_resolveRef {t : SpecTable C} (h : Hashed specHash t)
    {ref : Option PinnedRef} {content : Option (RegistrySpec C)}
    (hresolve : resolveRef t ref = .ok content) : Resolved specHash ref content := by
  intro pinned hpinned
  obtain rfl : ref = some pinned := hpinned
  obtain ⟨c, hc, rfl⟩ := map_eq_ok.mp hresolve
  exact ⟨c, rfl, h.computeHash_of_resolveExact hc⟩

theorem RegistryInv.law {s : RegistryStore C} (h : RegistryInv specHash s) :
    RegistryLaw specHash s where
  agree := h.agree
  hashed := h.hashed
  outcomes := h.log
  resolved _ _ _ _ _ hresolve := h.hashed.computeHash_of_resolveExact hresolve
  dependencies spec resolution hresolve := by
    obtain ⟨agentContent, hagent, hrest⟩ := bind_eq_ok.mp hresolve
    obtain ⟨promptContent, hprompt, hrest⟩ := bind_eq_ok.mp hrest
    obtain ⟨modelPolicyContent, hpolicy, hrest⟩ := bind_eq_ok.mp hrest
    cases hrest
    exact ⟨h.hashed.computeHash_of_resolveExact hagent, h.hashed.resolved_of_resolveRef hprompt,
      h.hashed.resolved_of_resolveRef hpolicy⟩

theorem registryInv_empty : RegistryInv specHash ({} : RegistryStore C) :=
  ⟨(fun _ _ h => nomatch h), fun _ => rfl, (fun _ h => nomatch h), (fun _ h => nomatch h),
    fun _ h => nomatch h⟩

/-- While no step is disturbed the law holds, and what was published keeps its content. -/
theorem registryLaw_along (specHash : SpecHash C)
    {ls ls' : List (CallLabel (RegistryRequest C) Unit)}
    {m s' : InFlight (RegistryStore C) (RegistryCall C)}
    (hnot : (registry specHash).system.Along (Service.Meets (Undisturbed specHash)) ⟨{}, []⟩
      (ls ++ ls'))
    (hrun : (registry specHash).system.run ⟨{}, []⟩ ls = some m)
    (hrun' : (registry specHash).system.run m ls' = some s') :
    RegistryLaw specHash s'.store ∧ SpecsKept m.store.table s'.store.table := by
  let V := registry specHash
  have hmeets := hnot.mono V.system
    fun s l h => (And.intro h (Service.spares_true s l) : _ ∧ Service.Spares (fun _ _ => True) s l)
  obtain ⟨hbefore, hafter⟩ := (V.system.along_append hrun).mp hmeets
  have hempty : Service.CustodyInv RegistryCall.Holds (fun _ _ => False) (RegistryInv specHash)
      CallInv (⟨{}, []⟩ : InFlight (RegistryStore C) (RegistryCall C)) :=
    .of_empty registryInv_empty fun _ h => h
  have hmid := registryRule.inv_of_along hempty hbefore hrun
  refine ⟨(registryRule.inv_of_along hmid hafter hrun').inv.store.law, ?_⟩
  refine V.rel_of_along (R := fun a b => SpecsKept a.table b.table) (fun _ => .refl _)
    (fun _ _ _ => .trans) (fun f l f' hI hG => registryRule.inv_next hI hG.1 hG.2) ?_ ?_ hmid hafter
    hrun'
  · intro f i c a s' c' hI hG hc hstep
    exact (keeps_of_step hI.inv.store (hI.inv.calls i c hc) (hG.1 c hc) hstep).specs
  · exact fun f c hI => (keeps_abort hI.inv.store c).2.1

/-! ### Two versions of a skill -/

namespace Sample

/-- Every field of a spec is in its hash. -/
def hash : SpecHash String := fun kind spec =>
  "|".intercalate [kind, spec.id, spec.version, spec.body]

/-- A version of the skill, with this declared hash. -/
def skill (version body : String) (definitionHash : Option String := none) :
    PublishedSpecRecord String :=
  skillRecord hash { id := "s", version, body, definitionHash } { createdAt := 1, publishedAt := 2 }

/-- A publication of one record, and a batch of two after it. -/
def ls (first second : PublishedSpecRecord String) : List (CallLabel (RegistryRequest String) Unit) :=
  [.start (.publish first), .step 0 (), .step 0 (), .step 0 (),
    .start (.publishBatch [first, second]), .step 1 (), .step 1 (), .step 1 (), .step 1 (),
    .step 1 (), .step 1 (), .step 1 (), .step 1 ()]

end Sample

/-- A skill is published, and a batch of this and its next version. -/
theorem registryLaw_along_batch :
    RegistryLaw Sample.hash
      (((registry Sample.hash).system.run ⟨{}, []⟩
        (Sample.ls (Sample.skill "1" "a") (Sample.skill "2" "b"))).get (by decide +kernel)).store :=
  have hnot : (registry Sample.hash).system.Along (Service.Meets (Undisturbed Sample.hash)) ⟨{}, []⟩
      (Sample.ls (Sample.skill "1" "a") (Sample.skill "2" "b") ++ []) := by decide +kernel
  (registryLaw_along Sample.hash hnot (Option.some_get _).symm rfl).1

namespace Sample

def second : PublishedSpecRecord String := skill "2" "b" (some "h")

/-- Two versions with one declared hash are published, one after the other. -/
def reached : InFlight (RegistryStore String) (RegistryCall String) :=
  ((registry hash).system.run ⟨{}, []⟩
    [.start (.publish (skill "1" "a" (some "h"))), .step 0 (), .step 0 (), .step 0 (),
      .start (.publish second), .step 1 (), .step 1 (), .step 1 ()]).get (by decide +kernel)

end Sample

/-- Of two versions that declare one hash the second is not stored, and its publication returns. -/
theorem not_registryLaw_declared :
    ¬ ∀ (specHash : SpecHash String) (ls : List (CallLabel (RegistryRequest String) Unit))
      (s' : InFlight (RegistryStore String) (RegistryCall String)),
        (registry specHash).system.run ⟨{}, []⟩ ls = some s' → RegistryLaw specHash s'.store := by
  intro h
  have hlaw := h Sample.hash _ Sample.reached (Option.some_get _).symm
  obtain ⟨row, hrow, -⟩ := (hlaw.outcomes ⟨[Sample.second], true, true, []⟩
    (by decide +kernel)).stored rfl Sample.second List.mem_cons_self
  have hnone : Sample.reached.store.table.get? Sample.second.key = none := by decide +kernel
  nomatch hnone.symm.trans hrow

end JavisSaas.Agent.Registry
