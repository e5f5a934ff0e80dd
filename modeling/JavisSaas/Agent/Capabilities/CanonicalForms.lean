import JavisSaas.Agent.Capabilities.CanonicalTexts

/-!
# Which payloads have one hash

Keys are texts in a canonical form, a `tuple` and a `set` are lists, and floats count to 8 places.
Payloads that are read as they are have one hash exactly when they are equal up to the order of
their keys.

* `canonicalize_eq_iff`: the readings behind equal canonical forms.
* `canonicalLaw`: the forms and the hashes of any two payloads.
-/

namespace JavisSaas.Agent.Capabilities

open JavisSaas.Lib
open JavisSaas.Agent.Remote (encode encode_inj Raised)

universe u

variable {F : Type u}

@[elab_as_elim]
theorem Payload.induction {motive : Payload F → Prop} (atom : ∀ a, motive (.atom a))
    (list : ∀ items, (∀ p ∈ items, motive p) → motive (.list items))
    (tuple : ∀ items, (∀ p ∈ items, motive p) → motive (.tuple items))
    (set : ∀ members, motive (.set members))
    (dict : ∀ items, (∀ kv ∈ items, motive kv.2) → motive (.dict items)) (p : Payload F) :
    motive p :=
  @Payload.rec F motive (fun items => ∀ p ∈ items, motive p) (fun items => ∀ kv ∈ items, motive kv.2)
    (fun kv => motive kv.2) atom list tuple set dict (fun _ h => (nomatch h))
    (fun _ _ hhead htail => List.forall_mem_cons.mpr ⟨hhead, htail⟩) (fun _ h => (nomatch h))
    (fun _ _ hhead htail => List.forall_mem_cons.mpr ⟨hhead, htail⟩) (fun _ _ h => h) p

theorem map_eq_of_map_eq {A : Type*} {B : Type*} {C : Type*} {f : A → B} {g : A → C}
    {l l' : List A} (hfg : ∀ a ∈ l, ∀ b ∈ l', f a = f b → g a = g b) (h : l.map f = l'.map f) :
    l.map g = l'.map g := by
  induction l generalizing l' with
  | nil => rw [List.map_eq_nil_iff.mp h.symm]
  | cons a _ ih =>
    cases l' with
    | nil => nomatch h
    | cons b =>
      obtain ⟨hhead, htail⟩ := List.cons.inj h
      have hrest := ih (fun x hx y hy =>
        hfg x (List.mem_cons_of_mem a hx) y (List.mem_cons_of_mem b hy)) htail
      rw [List.map_cons, List.map_cons, hfg a List.mem_cons_self b List.mem_cons_self hhead, hrest]

/-- Lists whose members are told by a function are told by its values. -/
theorem eq_of_map_eq {A : Type*} {B : Type*} {f : A → B} {l l' : List A}
    (hinj : ∀ a ∈ l, ∀ b ∈ l', f a = f b → a = b) (h : l.map f = l'.map f) : l = l' := by
  have hid := map_eq_of_map_eq (g := id) hinj h
  rwa [List.map_id, List.map_id] at hid

/-! ## The items of a `dict` -/

section Items

variable {K : Type*} {V : Type*} [DecidableEq K]

theorem lookup_concat (l : List (K × V)) (k k' : K) (v : V) :
    Dict.lookup (l ++ [(k, v)]) k' = (Dict.lookup l k').or (if k = k' then some v else none) := by
  induction l with
  | nil => simp [Dict.lookup]
  | cons _ _ ih =>
    rw [List.cons_append, Dict.lookup, Dict.lookup, ih]
    split_ifs <;> rfl

theorem lookup_filter (l : List (K × V)) (k : K) :
    Dict.lookup (l.filter fun kv => kv.1 = k) k = Dict.lookup l k := by
  induction l with
  | nil => rfl
  | cons a _ ih =>
    by_cases hk : a.1 = k
    · rw [List.filter_cons_of_pos (by simpa using hk)]
      simp [Dict.lookup, hk]
    · rw [List.filter_cons_of_neg (by simpa using hk), ih]
      simp [Dict.lookup, hk]

variable [LinearOrder K]

theorem filter_insertionSort (l : List (K × V)) (k : K) :
    (l.insertionSort fun a b => a.1 ≤ b.1).filter (fun kv => kv.1 = k) =
      l.filter fun kv => kv.1 = k := by
  have hkeys : ∀ kv ∈ l.filter fun kv => kv.1 = k, kv.1 = k := fun kv hkv =>
    of_decide_eq_true (List.mem_filter.mp hkv).2
  have hordered : (l.filter fun kv => kv.1 = k).Pairwise fun a b => a.1 ≤ b.1 :=
    List.pairwise_of_forall_mem_list fun a ha b hb => by rw [hkeys a ha, hkeys b hb]
  have hsub := (List.sublist_insertionSort hordered List.filter_sublist).filter fun kv => kv.1 = k
  rw [List.filter_filter] at hsub
  simp only [Bool.and_self] at hsub
  refine (hsub.eq_of_length ?_).symm
  exact ((List.perm_insertionSort _ l).filter _).length_eq.symm

theorem lookup_reverse_insertionSort (l : List (K × V)) (k : K) :
    Dict.lookup (l.insertionSort fun a b => a.1 ≤ b.1).reverse k = Dict.lookup l.reverse k := by
  rw [← lookup_filter, List.filter_reverse, filter_insertionSort, ← List.filter_reverse,
    lookup_filter]

theorem keys_update_sorted {d : Dict K V} {pairs : List (K × V)}
    (hd : d.keys.Pairwise (· < ·)) (hbehind : ∀ k ∈ d.keys, ∀ kv ∈ pairs, k ≤ kv.1)
    (hpairs : pairs.Pairwise fun a b => a.1 ≤ b.1) : (d.update pairs).keys.Pairwise (· < ·) := by
  induction pairs generalizing d with
  | nil => exact hd
  | cons kv pairs ih =>
    obtain ⟨hhead, htail⟩ := List.pairwise_cons.mp hpairs
    have hstep : (d.update (kv :: pairs)) = (d.set kv.1 kv.2).update pairs := rfl
    rw [hstep]
    refine ih ?_ (fun k hk kv' hkv' => ?_) htail
    · by_cases hmem : kv.1 ∈ d.keys
      · rw [Dict.keys_set_of_mem hmem]
        exact hd
      · rw [Dict.keys_set_of_notMem hmem]
        refine List.pairwise_append.mpr ⟨hd, List.pairwise_singleton _ _, fun k hk k' hk' => ?_⟩
        rw [List.mem_singleton.mp hk']
        exact lt_of_le_of_ne (hbehind k hk kv List.mem_cons_self) fun h => hmem (h ▸ hk)
    · rcases Dict.mem_keys_set.mp hk with hk | rfl
      · exact hbehind k hk kv' (List.mem_cons_of_mem kv hkv')
      · exact hhead kv' hkv'

/-- Items in the order of their keys are told by what stands under each key. -/
theorem eq_of_lookup_eq {W : Type*} {f : V → W} {l l' : List (K × V)}
    (hl : l.Pairwise fun a b => a.1 < b.1) (hl' : l'.Pairwise fun a b => a.1 < b.1)
    (hinj : ∀ kv ∈ l, ∀ kv' ∈ l', f kv.2 = f kv'.2 → kv.2 = kv'.2)
    (h : ∀ k, (Dict.lookup l k).map f = (Dict.lookup l' k).map f) : l = l' := by
  have hnodup : ∀ {l : List (K × V)}, (l.Pairwise fun a b => a.1 < b.1) →
      (l.map Prod.fst).Nodup := fun hl => List.pairwise_map.mpr (hl.imp ne_of_lt)
  have hsub : ∀ kv, kv ∈ l ↔ kv ∈ l' := by
    rintro ⟨k, v⟩
    constructor
    · intro hkv
      have hk := h k
      rw [(Dict.lookup_eq_some (hnodup hl)).mpr hkv] at hk
      obtain ⟨v', hv', hf⟩ := Option.map_eq_some_iff.mp hk.symm
      have hmem := (Dict.lookup_eq_some (hnodup hl')).mp hv'
      obtain rfl : v = v' := hinj _ hkv _ hmem hf.symm
      exact hmem
    · intro hkv
      have hk := h k
      rw [(Dict.lookup_eq_some (hnodup hl')).mpr hkv] at hk
      obtain ⟨v', hv', hf⟩ := Option.map_eq_some_iff.mp hk
      have hmem := (Dict.lookup_eq_some (hnodup hl)).mp hv'
      obtain rfl : v' = v := hinj _ hmem _ hkv hf
      exact hmem
  have hperm := (List.perm_ext_iff_of_nodup (hnodup hl).of_map (hnodup hl').of_map).mpr hsub
  exact hperm.eq_of_pairwise (fun a b _ _ hab hba => absurd hba (lt_asymm hab)) hl hl'

end Items

/-! ## Normal forms -/

section Forms

variable (fmt : FloatFormat F)

theorem normalizeItems_eq_map (items : List (Payload F)) :
    normalizeItems fmt items = items.map (normalizeItem fmt) := by
  induction items with
  | nil => rfl
  | cons _ _ ih => rw [normalizeItems, ih, List.map_cons]

theorem normalizeEntries_eq_map (items : List (Atom F × Payload F)) :
    normalizeEntries fmt items = items.map fun kv => (kv.1.pyStr fmt, normalizeItem fmt kv.2) := by
  induction items with
  | nil => rfl
  | cons _ _ ih => rw [normalizeEntries, ih, List.map_cons]

theorem lookup_collect (items : List (Text × Normal F)) (k : Text) :
    Dict.lookup (collect items) k = Dict.lookup items.reverse k := by
  have hget := Dict.get?_update (∅ : Dict Text (Normal F))
    (items.insertionSort fun a b => a.1 ≤ b.1) k
  rw [lookup_reverse_insertionSort] at hget
  exact hget.trans (Option.or_none)

theorem mem_of_mem_collect {items : List (Text × Normal F)} {kv : Text × Normal F}
    (h : kv ∈ collect items) : kv ∈ items := by
  have hget : Dict.lookup (collect items) kv.1 = some kv.2 := Dict.get?_eq_some.mpr h
  rw [lookup_collect] at hget
  exact List.mem_reverse.mp (Dict.mem_of_lookup hget)

theorem collect_sorted (items : List (Text × Normal F)) :
    (collect items).Pairwise fun a b => a.1 < b.1 := by
  have hkeys := keys_update_sorted (d := (∅ : Dict Text (Normal F))) List.Pairwise.nil
    (fun _ h => (nomatch h)) (List.pairwise_insertionSort (fun a b => a.1 ≤ b.1) items)
  exact List.pairwise_map.mp hkeys

theorem normalizeItem_sorted (p : Payload F) : (normalizeItem fmt p).Sorted := by
  induction p using Payload.induction with
  | atom => exact .atom _
  | list _ ih =>
    rw [normalizeItem, normalizeItems_eq_map]
    exact .list (List.forall_mem_map.mpr ih)
  | tuple _ ih =>
    rw [normalizeItem, normalizeItems_eq_map]
    exact .list (List.forall_mem_map.mpr ih)
  | set => exact .list (List.forall_mem_map.mpr fun a _ => .atom a)
  | dict _ ih =>
    refine .dict (collect_sorted _) fun kv hkv => ?_
    have hmem := mem_of_mem_collect hkv
    rw [normalizeEntries_eq_map] at hmem
    obtain ⟨kv', hkv', rfl⟩ := List.mem_map.mp hmem
    exact ih kv' hkv'

/-! ## What a normal form says -/

mutual

def Normal.value : Normal F → Value F
  | .atom a => .atom a
  | .list items => .list (normalValues items)
  | .dict items => .dict (underText (normalUnder items))

def normalValues : List (Normal F) → List (Value F)
  | [] => []
  | item :: items => item.value :: normalValues items

def normalUnder : List (Text × Normal F) → Text → Option (Value F)
  | [], _ => none
  | (key, item) :: items, s => if key = s then some item.value else normalUnder items s

end

theorem normalValues_eq_map (items : List (Normal F)) :
    normalValues items = items.map Normal.value := by
  induction items with
  | nil => rfl
  | cons _ _ ih => rw [normalValues, ih, List.map_cons]

theorem normalUnder_eq_lookup (items : List (Text × Normal F)) (s : Text) :
    normalUnder items s = (Dict.lookup items s).map Normal.value := by
  induction items with
  | nil => rfl
  | cons _ _ ih =>
    rw [normalUnder, Dict.lookup, ih]
    split_ifs <;> rfl

theorem underText_inj {f g : Text → Option (Value F)} (h : underText f = underText g) : f = g :=
  funext fun s => congrFun h (.str s)

theorem Normal.value_inj {t u : Normal F} (ht : t.Sorted) (hu : u.Sorted)
    (h : t.value = u.value) : t = u := by
  induction t using Normal.induction generalizing u with
  | atom =>
    cases u with
    | atom =>
      injection h with h
      rw [h]
    | _ => nomatch h
  | list _ ih =>
    cases u with
    | list =>
      injection h with h
      rw [normalValues_eq_map, normalValues_eq_map] at h
      cases ht with | list ht =>
      cases hu with | list hu =>
      rw [eq_of_map_eq (fun a ha b hb => ih a ha (ht a ha) (hu b hb)) h]
    | _ => nomatch h
  | dict items ih =>
    cases u with
    | dict items' =>
      injection h with h
      cases ht with | dict hkeys ht =>
      cases hu with | dict hkeys' hu =>
      rw [eq_of_lookup_eq hkeys hkeys'
        (fun kv hkv kv' hkv' => ih kv hkv (ht kv hkv) (hu kv' hkv')) fun s => ?_]
      exact (normalUnder_eq_lookup items s).symm.trans
        ((congrFun (underText_inj h) s).trans (normalUnder_eq_lookup items' s))
    | _ => nomatch h

/-! ## Readings -/

theorem readings_eq_map (items : List (Payload F)) :
    readings fmt items = items.map (Payload.reading fmt) := by
  induction items with
  | nil => rfl
  | cons _ _ ih => rw [readings, ih, List.map_cons]

theorem readingAt_eq_lookup {items : List (Atom F × Payload F)}
    (h : ∀ kv ∈ items, (normalizeItem fmt kv.2).value = kv.2.reading fmt) (s : Text) :
    readingAt fmt items s =
      (Dict.lookup (normalizeEntries fmt items).reverse s).map Normal.value := by
  induction items with
  | nil => rfl
  | cons _ _ ih =>
    obtain ⟨hhead, htail⟩ := List.forall_mem_cons.mp h
    rw [readingAt, normalizeEntries, List.reverse_cons, lookup_concat, ih htail, Option.map_or]
    split_ifs
    · rw [Option.map_some, hhead]
    · rfl

theorem value_normalizeItem (p : Payload F) : (normalizeItem fmt p).value = p.reading fmt := by
  induction p using Payload.induction with
  | atom => rfl
  | list _ ih =>
    rw [normalizeItem, Normal.value, normalizeItems_eq_map, normalValues_eq_map, List.map_map,
      Payload.reading, readings_eq_map]
    exact congrArg Value.list (List.map_congr_left ih)
  | tuple _ ih =>
    rw [normalizeItem, Normal.value, normalizeItems_eq_map, normalValues_eq_map, List.map_map,
      Payload.reading, readings_eq_map]
    exact congrArg Value.list (List.map_congr_left ih)
  | set =>
    rw [normalizeItem, Normal.value, normalValues_eq_map, List.map_map, Payload.reading]
    rfl
  | dict _ ih =>
    rw [normalizeItem, Normal.value, Payload.reading]
    congr 2
    funext s
    rw [normalUnder_eq_lookup, lookup_collect, readingAt_eq_lookup fmt ih]

theorem normalizeItem_eq_iff {p q : Payload F} :
    normalizeItem fmt p = normalizeItem fmt q ↔ p.reading fmt = q.reading fmt := by
  rw [← value_normalizeItem, ← value_normalizeItem]
  exact ⟨congrArg _, Normal.value_inj (normalizeItem_sorted fmt p) (normalizeItem_sorted fmt q)⟩

/-- Payloads have one canonical form exactly when they are read alike. -/
theorem canonicalize_eq_iff {p q : Payload F} :
    canonicalizePayload fmt p = canonicalizePayload fmt q ↔ p.reading fmt = q.reading fmt := by
  rw [← normalizeItem_eq_iff]
  exact ⟨dumps_inj fmt (normalizeItem_sorted fmt p) (normalizeItem_sorted fmt q), congrArg _⟩

end Forms

/-! ## Readings and values -/

section Values

variable (fmt : FloatFormat F)

/-- Keys are texts, floats have at most 8 places, and there is no `tuple` and no `set`. -/
inductive Payload.Plain : Payload F → Prop
  | atom {a : Atom F} (h : a.rounded fmt = a) : Plain (.atom a)
  | list {items : List (Payload F)} (h : ∀ p ∈ items, Plain p) : Plain (.list items)
  | dict {items : List (Atom F × Payload F)} (hkeys : ∀ kv ∈ items, ∃ s, kv.1 = .str s)
      (h : ∀ kv ∈ items, Plain kv.2) : Plain (.dict items)

/-- No two members of a `set` and no two keys of a `dict` have one text. -/
inductive Payload.Unambiguous : Payload F → Prop
  | atom (a : Atom F) : Unambiguous (.atom a)
  | list {items : List (Payload F)} (h : ∀ p ∈ items, Unambiguous p) : Unambiguous (.list items)
  | tuple {items : List (Payload F)} (h : ∀ p ∈ items, Unambiguous p) : Unambiguous (.tuple items)
  | set {members : List (Atom F)}
      (h : ((members.map (Atom.rounded fmt)).map (Atom.pyStr fmt)).Nodup) :
      Unambiguous (.set members)
  | dict {items : List (Atom F × Payload F)}
      (hkeys : ∀ kv ∈ items, ∀ kv' ∈ items, kv.1.pyStr fmt = kv'.1.pyStr fmt → kv.1 = kv'.1)
      (h : ∀ kv ∈ items, Unambiguous kv.2) : Unambiguous (.dict items)

variable [DecidableEq F]

omit fmt in
theorem values_eq_map (items : List (Payload F)) : values items = items.map Payload.value := by
  induction items with
  | nil => rfl
  | cons _ _ ih => rw [values, ih, List.map_cons]

variable {items : List (Atom F × Payload F)} {p : Payload F} {v : Value F}

theorem underText_readingAt (hkeys : ∀ kv ∈ items, ∃ s, kv.1 = .str s)
    (h : ∀ kv ∈ items, kv.2.reading fmt = kv.2.value) :
    underText (readingAt fmt items) = valueAt items := by
  funext a
  induction items with
  | nil => cases a <;> rfl
  | cons kv items ih =>
    obtain ⟨⟨s, hs⟩, hkeys⟩ := List.forall_mem_cons.mp hkeys
    obtain ⟨hhead, htail⟩ := List.forall_mem_cons.mp h
    have hrest := ih hkeys htail
    obtain ⟨key, item⟩ := kv
    obtain rfl : key = .str s := hs
    rw [valueAt, ← hrest, ← hhead]
    cases a with
    | str t =>
      show readingAt fmt ((.str s, item) :: items) t = _
      rw [readingAt]
      simp only [Atom.pyStr, Atom.str.injEq]
      rfl
    | _ => rw [if_neg (by nofun)]; rfl

theorem reading_eq_value (h : p.Plain fmt) : p.reading fmt = p.value := by
  induction h with
  | atom h => rw [Payload.reading, Payload.value, h]
  | list _ ih =>
    rw [Payload.reading, Payload.value, readings_eq_map, values_eq_map, List.map_congr_left ih]
  | dict hkeys _ ih => rw [Payload.reading, Payload.value, underText_readingAt fmt hkeys ih]

/-! ## Sets and keys without a common text -/

omit [DecidableEq F] in
theorem sortedMembers_eq {members members' : List (Atom F)}
    (h : ((members.map (Atom.rounded fmt)).map (Atom.pyStr fmt)).Nodup)
    (h' : ((members'.map (Atom.rounded fmt)).map (Atom.pyStr fmt)).Nodup)
    (hset : ∀ a, a ∈ members ↔ a ∈ members') :
    sortedMembers fmt members = sortedMembers fmt members' := by
  have hperm := (List.perm_ext_iff_of_nodup h.of_map.of_map h'.of_map.of_map).mpr hset
  have hrounded := hperm.map (Atom.rounded fmt)
  have hsorted := ((List.perm_insertionSort (fun a b => a.pyStr fmt ≤ b.pyStr fmt) _).trans
    hrounded).trans (List.perm_insertionSort (fun a b => a.pyStr fmt ≤ b.pyStr fmt) _).symm
  refine hsorted.eq_of_pairwise (fun a b ha hb hab hba => ?_)
    (List.pairwise_insertionSort (fun a b : Atom F => a.pyStr fmt ≤ b.pyStr fmt) _)
    (List.pairwise_insertionSort _ _)
  have hb : b ∈ members.map (Atom.rounded fmt) :=
    hrounded.mem_iff.mpr ((List.mem_insertionSort _).mp hb)
  exact List.inj_on_of_nodup_map h ((List.mem_insertionSort _).mp ha) hb (le_antisymm hab hba)

variable {fmt} in
omit [DecidableEq F] in
theorem exists_of_readingAt {items : List (Atom F × Payload F)} {s : Text} {v : Value F}
    (h : readingAt fmt items s = some v) : ∃ kv ∈ items, kv.1.pyStr fmt = s := by
  induction items with
  | nil => nomatch h
  | cons kv _ ih =>
    rw [readingAt] at h
    by_cases hkey : kv.1.pyStr fmt = s
    · exact ⟨kv, List.mem_cons_self, hkey⟩
    · rw [if_neg hkey, Option.or_none] at h
      obtain ⟨kv', hkv', hs⟩ := ih h
      exact ⟨kv', List.mem_cons_of_mem kv hkv', hs⟩

omit fmt in
theorem exists_valueAt {items : List (Atom F × Payload F)} {kv : Atom F × Payload F}
    (h : kv ∈ items) : ∃ v, valueAt items kv.1 = some v := by
  induction items with
  | nil => nomatch h
  | cons _ items ih =>
    rw [valueAt]
    rcases List.mem_cons.mp h with rfl | h
    · rw [if_pos rfl]
      cases valueAt items kv.1 with
      | none => exact ⟨_, rfl⟩
      | some v => exact ⟨v, rfl⟩
    · obtain ⟨v, hv⟩ := ih h
      exact ⟨v, by rw [hv, Option.some_or]⟩

variable {fmt} in
/-- The item that gives a key its value gives the key's text its reading. -/
theorem valueAt_eq_some
    (hkeys : ∀ kv ∈ items, ∀ kv' ∈ items, kv.1.pyStr fmt = kv'.1.pyStr fmt → kv.1 = kv'.1)
    {a : Atom F} (h : valueAt items a = some v) :
    ∃ p, (a, p) ∈ items ∧ p.value = v ∧
      readingAt fmt items (a.pyStr fmt) = some (p.reading fmt) := by
  induction items with
  | nil => nomatch h
  | cons kv items ih =>
    have htail : ∀ kv ∈ items, ∀ kv' ∈ items, kv.1.pyStr fmt = kv'.1.pyStr fmt → kv.1 = kv'.1 :=
      fun x hx y hy => hkeys x (List.mem_cons_of_mem kv hx) y (List.mem_cons_of_mem kv hy)
    obtain ⟨key, item⟩ := kv
    rw [valueAt] at h
    rw [readingAt]
    cases hrest : valueAt items a with
    | some =>
      rw [hrest, Option.some_or] at h
      obtain ⟨p, hp, hpv, hpr⟩ := ih htail (hrest.trans h)
      exact ⟨p, List.mem_cons_of_mem _ hp, hpv, by rw [hpr, Option.some_or]⟩
    | none =>
      rw [hrest, Option.none_or] at h
      split_ifs at h with hkey
      obtain rfl := hkey
      refine ⟨item, List.mem_cons_self, Option.some.inj h, ?_⟩
      cases hread : readingAt fmt items (key.pyStr fmt) with
      | none => rw [if_pos rfl, Option.none_or]
      | some =>
        -- No other key of the items has this text.
        obtain ⟨kv', hkv', htext⟩ := exists_of_readingAt hread
        have hsame := hkeys kv' (List.mem_cons_of_mem _ hkv') (key, item) List.mem_cons_self htext
        obtain ⟨w', hw'⟩ := exists_valueAt hkv'
        rw [hsame, hrest] at hw'
        nomatch hw'

theorem readingAt_of_valueAt_eq {items' : List (Atom F × Payload F)}
    (hkeys : ∀ kv ∈ items, ∀ kv' ∈ items, kv.1.pyStr fmt = kv'.1.pyStr fmt → kv.1 = kv'.1)
    (hkeys' : ∀ kv ∈ items', ∀ kv' ∈ items', kv.1.pyStr fmt = kv'.1.pyStr fmt → kv.1 = kv'.1)
    (hread : ∀ kv ∈ items, ∀ kv' ∈ items', kv.2.value = kv'.2.value →
      kv.2.reading fmt = kv'.2.reading fmt) (hvalue : valueAt items = valueAt items') {s : Text}
    (h : readingAt fmt items s = some v) : readingAt fmt items' s = some v := by
  obtain ⟨kv, hkv, rfl⟩ := exists_of_readingAt h
  obtain ⟨w, hw⟩ := exists_valueAt hkv
  obtain ⟨p, hp, hpv, hpr⟩ := valueAt_eq_some hkeys hw
  obtain ⟨q, hq, hqv, hqr⟩ := valueAt_eq_some hkeys' (hvalue ▸ hw)
  rw [hqr, ← hread _ hp _ hq (hpv.trans hqv.symm), ← hpr, h]

/-- Without members and keys of one text, equal payloads are read alike. -/
theorem reading_eq_of_value_eq {q : Payload F} (hp : p.Unambiguous fmt) (hq : q.Unambiguous fmt)
    (h : p.value = q.value) : p.reading fmt = q.reading fmt := by
  induction p using Payload.induction generalizing q with
  | atom =>
    cases q with
    | atom =>
      injection h with h
      rw [h]
    | _ => nomatch h
  | list _ ih =>
    cases q with
    | list =>
      injection h with h
      cases hp with | list hp =>
      cases hq with | list hq =>
      rw [Payload.reading, Payload.reading, readings_eq_map, readings_eq_map]
      rw [values_eq_map, values_eq_map] at h
      exact congrArg Value.list (map_eq_of_map_eq (fun a ha b hb => ih a ha (hp a ha) (hq b hb)) h)
    | _ => nomatch h
  | tuple _ ih =>
    cases q with
    | tuple =>
      injection h with h
      cases hp with | tuple hp =>
      cases hq with | tuple hq =>
      rw [Payload.reading, Payload.reading, readings_eq_map, readings_eq_map]
      rw [values_eq_map, values_eq_map] at h
      exact congrArg Value.list (map_eq_of_map_eq (fun a ha b hb => ih a ha (hp a ha) (hq b hb)) h)
    | _ => nomatch h
  | set =>
    cases q with
    | set =>
      injection h with h
      cases hp with | set hp =>
      cases hq with | set hq =>
      rw [Payload.reading, Payload.reading, sortedMembers_eq fmt hp hq (Set.ext_iff.mp h)]
    | _ => nomatch h
  | dict items ih =>
    cases q with
    | dict items' =>
      injection h with h
      cases hp with | dict hkeys hp =>
      cases hq with | dict hkeys' hq =>
      have hread : ∀ kv ∈ items, ∀ kv' ∈ items', kv.2.value = kv'.2.value →
          kv.2.reading fmt = kv'.2.reading fmt := fun kv hkv kv' hkv' =>
        ih kv hkv (hp kv hkv) (hq kv' hkv')
      have hback : ∀ kv ∈ items', ∀ kv' ∈ items, kv.2.value = kv'.2.value →
          kv.2.reading fmt = kv'.2.reading fmt := fun kv hkv kv' hkv' hv =>
        (hread kv' hkv' kv hkv hv.symm).symm
      have heq : readingAt fmt items = readingAt fmt items' := by
        funext s
        refine Option.ext fun v => ⟨?_, ?_⟩
        · exact readingAt_of_valueAt_eq fmt hkeys hkeys' hread h
        · exact readingAt_of_valueAt_eq fmt hkeys' hkeys hback h.symm
      rw [Payload.reading, Payload.reading, heq]
    | _ => nomatch h

/-! ## Forms and hashes -/

omit [DecidableEq F] in
theorem computePayloadHash_eq_ok {H : Type} {sha256 : Remote.Bytes → H} {h : H}
    (hp : computePayloadHash fmt sha256 p = .ok h) :
    ∃ bytes, encode (canonicalizePayload fmt p) = .ok bytes ∧ sha256 bytes = h := by
  obtain ⟨bytes, hbytes, hpure⟩ := bind_eq_ok.mp hp
  exact ⟨bytes, hbytes, pure_eq_ok.mp hpure⟩

/-- The forms and the hashes of two payloads. -/
structure CanonicalLaw {H : Type} (sha256 : Remote.Bytes → H) (p q : Payload F) : Prop where
  form : canonicalizePayload fmt p = canonicalizePayload fmt q ↔ p.reading fmt = q.reading fmt
  hash : ∀ h h', computePayloadHash fmt sha256 p = .ok h → computePayloadHash fmt sha256 q = .ok h' →
    (h = h' ↔ p.reading fmt = q.reading fmt)
  plain : p.Plain fmt → q.Plain fmt →
    (canonicalizePayload fmt p = canonicalizePayload fmt q ↔ p.value = q.value)
  unambiguous : p.Unambiguous fmt → q.Unambiguous fmt → p.value = q.value →
    canonicalizePayload fmt p = canonicalizePayload fmt q

/-- Payloads have one form, and one hash, exactly when they are read alike; plain ones when equal. -/
theorem canonicalLaw {H : Type} {sha256 : Remote.Bytes → H} (hsha256 : Function.Injective sha256)
    (p q : Payload F) : CanonicalLaw fmt sha256 p q where
  form := canonicalize_eq_iff fmt
  hash := by
    intro h h' hp hq
    obtain ⟨bytes, hbytes, rfl⟩ := computePayloadHash_eq_ok fmt hp
    obtain ⟨bytes', hbytes', rfl⟩ := computePayloadHash_eq_ok fmt hq
    rw [← canonicalize_eq_iff, hsha256.eq_iff]
    constructor
    · rintro rfl
      exact encode_inj hbytes hbytes'
    · intro heq
      rw [heq] at hbytes
      exact Except.ok.inj (hbytes.symm.trans hbytes')
  plain hp hq := by
    rw [canonicalize_eq_iff, reading_eq_value fmt hp, reading_eq_value fmt hq]
  unambiguous hp hq h := (canonicalize_eq_iff fmt).mpr (reading_eq_of_value_eq fmt hp hq h)

end Values

/-! ## Payloads of natural numbers -/

namespace Sample

/-- The floats that are natural numbers: `2.0` is written for 2. -/
def naturals : FloatFormat ℕ where
  round8 := id
  repr n := text n.repr ++ text ".0"
  repr_injective h := natText_inj (List.append_cancel_right h)
  mem_repr h := by
    rcases List.mem_append.mp h with h | h
    · exact (by decide : ∀ c ∈ text "0123456789", c ∈ text "0123456789.-+e") _ (mem_natText h)
    · exact (by decide : ∀ c ∈ text ".0", c ∈ text "0123456789.-+e") _ h
  point n := ⟨46, List.mem_append_right _ (by decide), by decide⟩

/-- The arguments of a payment, and the same ones in another order. -/
def payment : Payload ℕ :=
  .dict [(.str (text "to"), .atom (.str (text "vendor"))), (.str (text "amount"), .atom (.int 15))]

def samePayment : Payload ℕ :=
  .dict [(.str (text "amount"), .atom (.int 15)), (.str (text "to"), .atom (.str (text "vendor")))]

/-- A key that is a number, and one that is its text. -/
def byNumber : Payload ℕ := .dict [(.int 1, .atom .none)]

def byText : Payload ℕ := .dict [(.str (text "1"), .atom .none)]

end Sample

open Sample in
theorem canonicalLaw_payment : CanonicalLaw naturals id payment samePayment :=
  canonicalLaw naturals Function.injective_id payment samePayment

open Sample in
/-- A number and its text are one key. -/
theorem not_canonicalize_byNumber :
    ¬ ∀ p q : Payload ℕ,
      canonicalizePayload naturals p = canonicalizePayload naturals q ↔ p.value = q.value := by
  intro h
  have hform : canonicalizePayload naturals byNumber = canonicalizePayload naturals byText := by
    decide
  have hvalue := (h byNumber byText).mp hform
  injection hvalue with hentries
  have hkey := congrFun hentries (.int 1)
  nomatch hkey

end JavisSaas.Agent.Capabilities
