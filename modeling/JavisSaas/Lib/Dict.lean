import Mathlib.Data.List.Nodup

/-!
# Insertion-ordered dictionaries

The dictionaries of Python and the objects of JavaScript: every key occurs
once, assigning to a present key keeps its position, assigning to a new key
appends it, and iteration follows the insertion order.

* `Dict.get?_set`, `Dict.get?_update`: reading after writing.
* `Dict.keys_set_of_mem`, `Dict.keys_set_of_notMem`: the order of the keys.
* `Truthy`: the truth value that Python and JavaScript give to a value.
* `PyValue`: values of every kind, with the strings among them.
-/

namespace JavisSaas.Lib

universe u v w

/-- Types whose values stand in conditions (`if x`, `x or y`, `x || y`). -/
class Truthy (V : Type v) where
  truthy : V → Bool

export Truthy (truthy)

instance : Truthy String := ⟨fun s => s ≠ ""⟩
instance : Truthy Bool := ⟨id⟩
instance [Truthy α] : Truthy (Option α) := ⟨fun o => o.any truthy⟩

/-- `ofStr` embeds the strings, `str` is `str(value)`, `pyNone` is `None`. -/
class PyValue (V : Type v) extends Truthy V where
  ofStr : String → V
  str : V → String
  pyNone : V
  truthy_ofStr (s : String) : truthy (ofStr s) = decide (s ≠ "")
  str_ofStr (s : String) : str (ofStr s) = s

instance : PyValue String := ⟨id, id, "", fun _ => rfl, fun _ => rfl⟩

/-- `a or b or …` of values that may be missing; `none` when all are falsy. -/
def firstTruthy {V : Type v} [Truthy V] (values : List (Option V)) : Option V :=
  (values.find? truthy).join

/-- Keys of three texts are compared as such. -/
instance lawfulBEqTriple : LawfulBEq (String × String × String) := inferInstance

/-- An insertion-ordered dictionary. -/
structure Dict (K : Type u) (V : Type v) where
  items : List (K × V)
  nodup : (items.map Prod.fst).Nodup

namespace Dict

variable {K : Type u} {V : Type v}

instance [DecidableEq K] [DecidableEq V] : DecidableEq (Dict K V) := fun a b =>
  decidable_of_iff (a.items = b.items) (by cases a; cases b; simp)

/-- `{}`. -/
def empty : Dict K V := ⟨[], List.nodup_nil⟩

instance : EmptyCollection (Dict K V) := ⟨empty⟩

def keys (d : Dict K V) : List K := d.items.map Prod.fst

/-- `d.values()`, in insertion order. -/
def values (d : Dict K V) : List V := d.items.map Prod.snd

/-- The entries whose values satisfy `p`. -/
def filter (p : V → Bool) (d : Dict K V) : Dict K V :=
  ⟨d.items.filter fun kv => p kv.2, (List.filter_sublist.map _).nodup d.nodup⟩

theorem values_filter (p : V → Bool) (d : Dict K V) : (d.filter p).values = d.values.filter p := by
  simp only [filter, values, List.filter_map]
  rfl

@[simp] theorem keys_empty : (∅ : Dict K V).keys = [] := rfl

theorem nodup_keys (d : Dict K V) : d.keys.Nodup := d.nodup

variable [DecidableEq K]

/-- Lookup in a list of pairs. -/
def lookup : List (K × V) → K → Option V
  | [], _ => none
  | (k', v) :: l, k => if k' = k then some v else lookup l k

/-- `d.get(k)`. -/
def get? (d : Dict K V) (k : K) : Option V := lookup d.items k

/-- Assignment in a list of pairs: in place, or at the end. -/
def assign : List (K × V) → K → V → List (K × V)
  | [], k, v => [(k, v)]
  | (k', v') :: l, k, v => if k' = k then (k', v) :: l else (k', v') :: assign l k v

theorem map_fst_assign (l : List (K × V)) (k : K) (v : V) :
    (assign l k v).map Prod.fst =
      if k ∈ l.map Prod.fst then l.map Prod.fst else l.map Prod.fst ++ [k] := by
  induction l with
  | nil => rfl
  | cons a _ ih =>
    obtain ⟨k', v'⟩ := a
    by_cases h : k' = k
    · simp [assign, h]
    · have h' : k ≠ k' := fun e => h e.symm
      simp only [assign, h, if_false, List.map_cons, ih, List.mem_cons, h', false_or]
      split_ifs <;> rfl

variable {l : List (K × V)} {k : K} {d : Dict K V} {v : V}

theorem nodup_assign (h : (l.map Prod.fst).Nodup) (k : K) (v : V) :
    ((assign l k v).map Prod.fst).Nodup := by
  rw [map_fst_assign]
  split_ifs with hk
  · exact h
  · exact List.nodup_append.mpr
      ⟨h, List.nodup_singleton k, fun a ha b hb e => hk (by simp_all)⟩

/-- `d[k] = v`. -/
def set (d : Dict K V) (k : K) (v : V) : Dict K V := ⟨assign d.items k v, nodup_assign d.nodup k v⟩

/-- `d.update(pairs)`, and the spread of an object over another. -/
def update (d : Dict K V) (pairs : List (K × V)) : Dict K V :=
  pairs.foldl (fun d kv => d.set kv.1 kv.2) d

@[simp] theorem get?_empty (k : K) : (∅ : Dict K V).get? k = none := rfl

theorem lookup_assign (l : List (K × V)) (k k' : K) (v : V) :
    lookup (assign l k v) k' = if k = k' then some v else lookup l k' := by
  induction l with
  | nil => rfl
  | cons a _ ih =>
    obtain ⟨a, w⟩ := a
    by_cases h : a = k
    · subst h; simp only [assign, if_true, lookup]
      split_ifs <;> rfl
    · simp only [assign, h, if_false, lookup, ih]
      by_cases h1 : a = k'
      · have : k ≠ k' := fun e => h (h1.trans e.symm)
        simp [h1, this]
      · simp [h1]

theorem get?_set (d : Dict K V) (k k' : K) (v : V) :
    (d.set k v).get? k' = if k = k' then some v else d.get? k' :=
  lookup_assign d.items k k' v

@[simp] theorem get?_set_self (d : Dict K V) (k : K) (v : V) : (d.set k v).get? k = some v := by
  simp [get?_set]

theorem get?_set_of_ne (d : Dict K V) {k' : K} (h : k ≠ k') (v : V) :
    (d.set k v).get? k' = d.get? k' := by
  simp [get?_set, h]

theorem get?_set_set (d : Dict K V) (k k' : K) (v w : V) :
    ((d.set k v).set k w).get? k' = if k = k' then some w else d.get? k' := by
  simp only [get?_set]
  split_ifs <;> rfl

/-- A present value is replaced. -/
def modify (d : Dict K V) (k : K) (f : V → V) : Dict K V :=
  match d.get? k with
  | some v => d.set k (f v)
  | none => d

theorem get?_modify (d : Dict K V) (k k' : K) (f : V → V) :
    (d.modify k f).get? k' = (d.get? k').map fun v => if k = k' then f v else v := by
  unfold modify
  split
  · next v hv =>
    rw [get?_set]
    split_ifs with h
    · rw [← h, hv, Option.map_some]
    · rw [Option.map_id']
  · next hnone =>
    split_ifs with h
    · rw [← h, hnone, Option.map_none]
    · rw [Option.map_id']

theorem keys_set_of_mem (h : k ∈ d.keys) (v : V) : (d.set k v).keys = d.keys := by
  unfold keys at h ⊢
  simp only [set, map_fst_assign, h, if_true]

theorem keys_set_of_notMem (h : k ∉ d.keys) (v : V) : (d.set k v).keys = d.keys ++ [k] := by
  unfold keys at h ⊢
  simp only [set, map_fst_assign, h, if_false]

theorem mem_keys_set {k' : K} : k' ∈ (d.set k v).keys ↔ k' ∈ d.keys ∨ k' = k := by
  by_cases h : k ∈ d.keys
  · rw [keys_set_of_mem h]
    exact ⟨Or.inl, fun h' => h'.elim id fun e => e ▸ h⟩
  · rw [keys_set_of_notMem h, List.mem_append, List.mem_singleton]

theorem lookup_isSome (l : List (K × V)) (k : K) :
    (lookup l k).isSome ↔ k ∈ l.map Prod.fst := by
  induction l with
  | nil => simp [lookup]
  | cons a _ ih =>
    obtain ⟨a, w⟩ := a
    by_cases h : a = k
    · simp [lookup, h]
    · have h' : k ≠ a := fun e => h e.symm
      simp only [lookup, h, if_false, ih, List.map_cons, List.mem_cons, h', false_or]

theorem get?_isSome : (d.get? k).isSome ↔ k ∈ d.keys :=
  lookup_isSome d.items k

theorem get?_eq_none : d.get? k = none ↔ k ∉ d.keys := by
  rw [← get?_isSome, Option.not_isSome_iff_eq_none]

theorem mem_keys_of_get? (h : d.get? k = some v) : k ∈ d.keys :=
  get?_isSome.mp (by rw [h]; rfl)

theorem mem_of_lookup (h : lookup l k = some v) : (k, v) ∈ l := by
  induction l with
  | nil => nomatch h
  | cons a _ ih =>
    obtain ⟨a, w⟩ := a
    rw [lookup] at h
    split_ifs at h with hak
    · rw [← hak, ← Option.some.inj h]
      exact List.mem_cons_self
    · exact List.mem_cons_of_mem _ (ih h)

theorem lookup_eq_some (hl : (l.map Prod.fst).Nodup) : lookup l k = some v ↔ (k, v) ∈ l := by
  induction l with
  | nil => simp [lookup]
  | cons a l ih =>
    obtain ⟨a, w⟩ := a
    rw [List.map_cons, List.nodup_cons] at hl
    by_cases h : a = k
    · subst h
      have hnot : (a, v) ∉ l := fun hm => hl.1 (List.mem_map.mpr ⟨(a, v), hm, rfl⟩)
      simp only [lookup, if_true, Option.some.injEq, List.mem_cons, Prod.mk.injEq, true_and, hnot,
        or_false]
      exact eq_comm
    · have h' : k ≠ a := fun e => h e.symm
      simp only [lookup, h, if_false, ih hl.2, List.mem_cons, Prod.mk.injEq, h', false_and, false_or]

/-- A key has a value exactly when the pair is one of the items. -/
theorem get?_eq_some : d.get? k = some v ↔ (k, v) ∈ d.items :=
  lookup_eq_some d.nodup

theorem mem_values : v ∈ d.values ↔ ∃ k, d.get? k = some v := by
  simp only [get?_eq_some, values, List.mem_map, Prod.exists, exists_eq_right]

theorem assign_of_notMem (h : k ∉ l.map Prod.fst) (v : V) : assign l k v = l ++ [(k, v)] := by
  induction l with
  | nil => rfl
  | cons a _ ih =>
    obtain ⟨a, w⟩ := a
    simp only [List.map_cons, List.mem_cons, not_or] at h
    have h' : a ≠ k := fun e => h.1 e.symm
    simp only [assign, h', if_false, ih h.2, List.cons_append]

/-- A new key is appended. -/
theorem items_set_of_get?_eq_none (h : d.get? k = none) (v : V) :
    (d.set k v).items = d.items ++ [(k, v)] :=
  assign_of_notMem (get?_eq_none.mp h) v

theorem assign_of_lookup (h : lookup l k = some v) : assign l k v = l := by
  induction l with
  | nil => nomatch h
  | cons a _ ih =>
    obtain ⟨a, w⟩ := a
    simp only [lookup, assign] at h ⊢
    split_ifs at h ⊢ with hak
    · rw [Option.some.inj h]
    · rw [ih h]

/-- Assigning the value that is there changes nothing. -/
theorem set_eq_self (h : d.get? k = some v) : d.set k v = d := by
  obtain ⟨items, nodup⟩ := d
  simp only [set, assign_of_lookup h]

/-- `delete d[k]`. -/
def erase (d : Dict K V) (k : K) : Dict K V :=
  ⟨d.items.filter (·.1 ≠ k), (List.filter_sublist.map _).nodup d.nodup⟩

theorem get?_erase (d : Dict K V) (k k' : K) :
    (d.erase k).get? k' = if k = k' then none else d.get? k' := by
  apply Option.ext
  intro v
  split_ifs with h
  · simp [get?_eq_some, erase, h]
  · rw [get?_eq_some, get?_eq_some, erase, List.mem_filter, decide_eq_true_eq]
    exact and_iff_left (Ne.symm h)

theorem get?_filter (p : V → Bool) (d : Dict K V) (k : K) :
    (d.filter p).get? k = (d.get? k).filter p := by
  apply Option.ext
  intro v
  rw [get?_eq_some, filter, List.mem_filter, Option.filter_eq_some_iff, get?_eq_some]

/-- The entries whose keys satisfy `p`. -/
def filterKeys (p : K → Bool) (d : Dict K V) : Dict K V :=
  ⟨d.items.filter fun kv => p kv.1, (List.filter_sublist.map _).nodup d.nodup⟩

theorem get?_filterKeys (p : K → Bool) (d : Dict K V) (k : K) :
    (d.filterKeys p).get? k = if p k then d.get? k else none := by
  apply Option.ext
  intro v
  rw [get?_eq_some, filterKeys, List.mem_filter]
  split_ifs with h
  · rw [get?_eq_some]
    exact and_iff_left h
  · exact iff_of_false (fun hv => h hv.2) (fun hv => nomatch hv)

/-! ### Searching the values -/

section Find

variable {p : V → Bool} {l : List (K × V)} {k : K} {v w : V}

theorem find?_assign_of_none (h : (l.map Prod.snd).find? p = none) (hw : p w = true) :
    ((assign l k w).map Prod.snd).find? p = some w := by
  induction l with
  | nil => simp [assign, hw]
  | cons a l ih =>
    obtain ⟨k', v'⟩ := a
    rw [List.map_cons, List.find?_eq_none] at h
    have hv' : ¬p v' = true := h v' List.mem_cons_self
    have hrest : (l.map Prod.snd).find? p = none :=
      List.find?_eq_none.mpr fun x hx => h x (List.mem_cons_of_mem _ hx)
    simp only [assign]
    split_ifs
    · simp [hw]
    · simpa [hv'] using ih hrest

theorem find?_assign_of_found (hfind : (l.map Prod.snd).find? p = some v)
    (honly : ∀ k', (k', v) ∈ l → k' = k) (hin : ∀ v', (k, v') ∈ l → v' = v) (hw : p w = true) :
    ((assign l k w).map Prod.snd).find? p = some w := by
  induction l with
  | nil => nomatch hfind
  | cons a l ih =>
    obtain ⟨k', v'⟩ := a
    by_cases hp : p v' = true
    · obtain rfl : v' = v := by simpa [hp] using hfind
      obtain rfl : k' = k := honly k' List.mem_cons_self
      simp [assign, hw]
    · have hrest : (l.map Prod.snd).find? p = some v := by simpa [hp] using hfind
      have hne : k' ≠ k := by
        rintro rfl
        rw [hin v' List.mem_cons_self] at hp
        exact hp (List.find?_some hrest)
      have htail := ih hrest (fun k'' hk => honly k'' (List.mem_cons_of_mem _ hk))
        fun v'' hv => hin v'' (List.mem_cons_of_mem _ hv)
      simpa [assign, hne, hp] using htail

/-- A value that is the first of its kind is found first where none was. -/
theorem find?_set_of_none {d : Dict K V} (h : d.values.find? p = none) (hw : p w = true) :
    (d.set k w).values.find? p = some w :=
  find?_assign_of_none h hw

/-- The value found first is found first after it was replaced. -/
theorem find?_set_of_found {d : Dict K V} (hfind : d.values.find? p = some v)
    (hk : d.get? k = some v) (honly : ∀ k', d.get? k' = some v → k' = k) (hw : p w = true) :
    (d.set k w).values.find? p = some w := by
  refine find?_assign_of_found hfind (fun k' h => honly k' (get?_eq_some.mpr h)) ?_ hw
  intro v' h
  exact Option.some.inj ((get?_eq_some.mpr h).symm.trans hk)

end Find

theorem get?_update (d : Dict K V) (pairs : List (K × V)) (k : K) :
    (d.update pairs).get? k = ((lookup pairs.reverse k).or (d.get? k)) := by
  induction pairs generalizing d with
  | nil => simp [update, lookup]
  | cons a _ ih =>
    have lookup_append : ∀ (l l' : List (K × V)),
        lookup (l ++ l') k = (lookup l k).or (lookup l' k) := by
      intro l l'
      induction l with
      | nil => simp [lookup]
      | cons _ _ ihl => simp only [List.cons_append, lookup]; split_ifs <;> simp [ihl]
    have h := ih (d.set a.1 a.2)
    simp only [update, List.foldl_cons] at h ⊢
    rw [h, List.reverse_cons, lookup_append, get?_set, Option.or_assoc]
    congr 1
    simp only [lookup]
    split_ifs <;> simp

/-- The spread of an object over another: what the second holds takes the place. -/
theorem get?_update_items (d d' : Dict K V) (k : K) :
    (d.update d'.items).get? k = (d'.get? k).or (d.get? k) := by
  have hnodup : (d'.items.reverse.map Prod.fst).Nodup := by
    rw [List.map_reverse, List.nodup_reverse]
    exact d'.nodup
  have hlookup : lookup d'.items.reverse k = d'.get? k := by
    apply Option.ext
    intro v
    rw [lookup_eq_some hnodup, List.mem_reverse, get?_eq_some]
  rw [get?_update, hlookup]

theorem get?_update_of_notMem (d : Dict K V) {pairs : List (K × V)} {k : K}
    (h : k ∉ pairs.map Prod.fst) : (d.update pairs).get? k = d.get? k := by
  rw [get?_update]
  have : lookup pairs.reverse k = none := by
    rw [← Option.not_isSome_iff_eq_none, lookup_isSome]
    simpa using h
  simp [this]

/-- The rows of a table under their keys. -/
def ofRows (key : V → K) (rows : List V) : Dict K V :=
  rows.foldl (fun d row => d.set (key row) row) ∅

/-- Every row of a table is stored under its key. -/
theorem key_of_get?_ofRows {key : V → K} {rows : List V} {k : K} {v : V}
    (h : (ofRows key rows).get? k = some v) : key v = k := by
  have hfold : ∀ (rows : List V) (d : Dict K V), (∀ k v, d.get? k = some v → key v = k) →
      ∀ k v, (rows.foldl (fun d row => d.set (key row) row) d).get? k = some v → key v = k := by
    intro rows
    induction rows with
    | nil => exact fun d hd => hd
    | cons _ _ ih =>
      intro d hd
      refine ih _ fun k v hkv => ?_
      rw [get?_set] at hkv
      split_ifs at hkv with hk
      · rw [← Option.some.inj hkv, hk]
      · exact hd k v hkv
  exact hfold rows ∅ (fun k v hkv => nomatch hkv) k v h

/-- Every value replaced in place. -/
def mapValues {W : Type w} (f : K → V → W) (d : Dict K V) : Dict K W :=
  ⟨d.items.map fun kv => (kv.1, f kv.1 kv.2), by rw [List.map_map]; exact d.nodup⟩

theorem get?_mapValues {W : Type w} (f : K → V → W) (d : Dict K V) (k : K) :
    (d.mapValues f).get? k = (d.get? k).map (f k) := by
  show lookup (d.items.map fun kv => (kv.1, f kv.1 kv.2)) k = (lookup d.items k).map (f k)
  induction d.items with
  | nil => rfl
  | cons a _ ih =>
    obtain ⟨a, w⟩ := a
    by_cases h : a = k
    · simp [lookup, h]
    · simp [lookup, h, ih]

/-! ## The values that satisfy a predicate -/

section

variable {p : V → Bool} {d : Dict K V}

theorem values_filter_eq_nil (h : ∀ k v, d.get? k = some v → p v = false) :
    d.values.filter p = [] := by
  rw [List.filter_eq_nil_iff]
  intro v hv
  obtain ⟨k, hk⟩ := mem_values.mp hv
  simp [h k v hk]

/-- Only one key has a value that satisfies the predicate. -/
theorem values_filter_eq_singleton {k : K} {v : V} (hk : d.get? k = some v) (hv : p v = true)
    (honly : ∀ k' v', d.get? k' = some v' → p v' = true → k' = k) : d.values.filter p = [v] := by
  have hmem : ∀ item, item ∈ d.items.filter (fun item => p item.2) ↔ item ∈ [(k, v)] := by
    rintro ⟨k', v'⟩
    rw [List.mem_filter, List.mem_singleton, ← get?_eq_some]
    constructor
    · rintro ⟨hget, hp⟩
      obtain rfl := honly k' v' hget hp
      rw [Option.some.inj (hk.symm.trans hget)]
    · rintro heq
      cases heq
      exact ⟨hk, hv⟩
  have hperm := (List.perm_ext_iff_of_nodup (d.nodup.of_map.filter _)
    (List.nodup_singleton (k, v))).mpr hmem
  rw [values, List.filter_map]
  exact congrArg (List.map Prod.snd) (List.perm_singleton.mp hperm)

omit [DecidableEq K] in
/-- A map that keeps the predicate maps the values that satisfy it. -/
theorem values_filter_mapValues {f : V → V} (hp : ∀ v, p (f v) = p v) :
    (d.mapValues fun _ v => f v).values.filter p = (d.values.filter p).map f := by
  have hvalues : (d.mapValues fun _ v => f v).values = d.values.map f := by
    simp [mapValues, values]
  rw [hvalues, List.filter_map]
  congr 2
  exact funext hp

end

end Dict

end JavisSaas.Lib
