import Mathlib.Tactic.Abel
import Mathlib.Algebra.Order.BigOperators.Group.List
import JavisSaas.Lib.Dict

/-!
# Sums over a dictionary

* `Dict.sum_set_of_some`, `Dict.sum_set_of_none`: the sum after an assignment.
* `Dict.sum_le_sum_of_get?`: sums over two dictionaries, compared term by term.
* `sum_map_filter`: the sum over some of the values.
-/

namespace JavisSaas.Lib

universe u v w

/-- A sum over the elements that satisfy `p`, as a sum over all. -/
theorem sum_map_filter {A : Type u} {M : Type v} [AddMonoid M] (p : A → Bool) (f : A → M)
    (l : List A) : ((l.filter p).map f).sum = (l.map fun a => if p a then f a else 0).sum := by
  induction l with
  | nil => rfl
  | cons a _ ih =>
    by_cases h : p a = true <;> simp [h, ih]

namespace Dict

variable {K : Type u} {V : Type v} {M : Type w}

/-- The sum of `f` over the values. -/
def sum [AddMonoid M] (f : V → M) (d : Dict K V) : M := (d.values.map f).sum

@[simp] theorem sum_empty [AddMonoid M] (f : V → M) : (∅ : Dict K V).sum f = 0 := rfl

theorem sum_congr [AddMonoid M] {f g : V → M} {d : Dict K V} (h : ∀ v ∈ d.values, f v = g v) :
    d.sum f = d.sum g := by
  unfold sum
  rw [List.map_congr_left h]

variable {d : Dict K V} {v : V}

section Order

variable [AddCommGroup M] [PartialOrder M] [IsOrderedAddMonoid M] {f : V → M}

theorem sum_nonneg (h : ∀ v ∈ d.values, 0 ≤ f v) : 0 ≤ d.sum f := by
  apply List.sum_nonneg
  intro x hx
  obtain ⟨v, hv, rfl⟩ := List.mem_map.mp hx
  exact h v hv

theorem le_sum (h : ∀ v ∈ d.values, 0 ≤ f v) (hv : v ∈ d.values) : f v ≤ d.sum f := by
  apply List.single_le_sum
  · intro x hx
    obtain ⟨v, hv, rfl⟩ := List.mem_map.mp hx
    exact h v hv
  · exact List.mem_map.mpr ⟨v, hv, rfl⟩

end Order

variable [DecidableEq K] {k : K} {w : V}

theorem sum_assign [AddCommGroup M] (f : V → M) {l : List (K × V)} (h : lookup l k = some w) :
    ((assign l k v).map fun kv => f kv.2).sum = (l.map fun kv => f kv.2).sum - f w + f v := by
  induction l with
  | nil => nomatch h
  | cons a _ ih =>
    obtain ⟨k', v'⟩ := a
    simp only [lookup] at h
    simp only [assign]
    split_ifs at h ⊢ with hk
    · cases h
      simp only [List.map_cons, List.sum_cons]
      abel
    · simp only [List.map_cons, List.sum_cons, ih h]
      abel

/-- Replacing a value replaces its term. -/
theorem sum_set_of_some [AddCommGroup M] (f : V → M) (h : d.get? k = some w) :
    (d.set k v).sum f = d.sum f - f w + f v := by
  have hassign := sum_assign (v := v) f h
  unfold sum values
  rw [List.map_map, List.map_map]
  exact hassign

/-- A new value adds its term. -/
theorem sum_set_of_none [AddMonoid M] (f : V → M) (h : d.get? k = none) :
    (d.set k v).sum f = d.sum f + f v := by
  unfold sum values
  rw [items_set_of_get?_eq_none h, List.map_append, List.map_append, List.sum_append]
  simp

theorem sum_erase [AddCommGroup M] (f : V → M) (h : d.get? k = some w) :
    d.sum f = f w + (d.erase k).sum f := by
  have hsum : ∀ l : List (K × V), (l.map Prod.fst).Nodup → lookup l k = some w →
      ((l.map Prod.snd).map f).sum =
        f w + (((l.filter (·.1 ≠ k)).map Prod.snd).map f).sum := by
    intro l
    induction l with
    | nil => exact fun _ h => nomatch h
    | cons a l ih =>
      obtain ⟨k', v'⟩ := a
      intro hnodup hlookup
      rw [List.map_cons, List.nodup_cons] at hnodup
      simp only [lookup] at hlookup
      split_ifs at hlookup with hk
      · subst hk
        cases hlookup
        have hrest : l.filter (·.1 ≠ k') = l := by
          rw [List.filter_eq_self]
          intro a ha
          exact decide_eq_true fun e => hnodup.1 (List.mem_map.mpr ⟨a, ha, e⟩)
        simp only [ne_eq, decide_not] at hrest
        simp [hrest]
      · simp only [List.map_cons, List.sum_cons, ih hnodup.2 hlookup, ne_eq, hk, not_false_eq_true,
          decide_true, List.filter_cons_of_pos]
        abel
  exact hsum d.items d.nodup h

/-- The smaller sum has a term for every key that counts in the other. -/
theorem sum_le_sum_of_get? [AddCommGroup M] [PartialOrder M] [IsOrderedAddMonoid M]
    {V' : Type*} {d' : Dict K V'} {f : V → M} {g : V' → M} (hf : ∀ v ∈ d.values, 0 ≤ f v)
    (h : ∀ k v', d'.get? k = some v' → g v' ≤ 0 ∨ ∃ v, d.get? k = some v ∧ g v' ≤ f v) :
    d'.sum g ≤ d.sum f := by
  obtain ⟨l, hl⟩ := d'
  show ((l.map Prod.snd).map g).sum ≤ d.sum f
  have hmem : ∀ kv ∈ l, g kv.2 ≤ 0 ∨ ∃ v, d.get? kv.1 = some v ∧ g kv.2 ≤ f v :=
    fun kv hkv => h kv.1 kv.2 ((lookup_eq_some hl).mpr hkv)
  clear h
  -- the keys of `l` that count are taken out of `d` one by one
  induction l generalizing d with
  | nil => exact sum_nonneg hf
  | cons kv l ih =>
    rw [List.map_cons, List.nodup_cons] at hl
    have hrest : ∀ kv' ∈ l, kv.1 ≠ kv'.1 :=
      fun kv' hkv' e => hl.1 (List.mem_map.mpr ⟨kv', hkv', e.symm⟩)
    rw [List.map_cons, List.map_cons, List.sum_cons]
    rcases hmem kv List.mem_cons_self with hle | ⟨v, hv, hle⟩
    · have hih := ih hf hl.2 fun kv' hkv' => hmem kv' (List.mem_cons_of_mem _ hkv')
      calc g kv.2 + ((l.map Prod.snd).map g).sum ≤ 0 + d.sum f := add_le_add hle hih
        _ = d.sum f := zero_add _
    · rw [sum_erase f hv]
      refine add_le_add hle (ih ?_ hl.2 ?_)
      · intro v' hv'
        obtain ⟨k', hk'⟩ := mem_values.mp hv'
        rw [get?_erase] at hk'
        split_ifs at hk'
        exact hf v' (mem_values.mpr ⟨k', hk'⟩)
      · intro kv' hkv'
        rw [get?_erase, if_neg (hrest kv' hkv')]
        exact hmem kv' (List.mem_cons_of_mem _ hkv')

end Dict

end JavisSaas.Lib
