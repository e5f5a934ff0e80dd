import Mathlib.Order.Bounds.Basic

/-!
# Folding an operation that joins

An operation `op` on some data need not be associative or commutative itself. When what the data
amount to (`f`) is joined by it, a fold amounts to the least upper bound of the folded data, so
neither their order nor how often each of them comes matters.

* `Joins.isLUB_foldl`: a fold amounts to the least upper bound.
* `Joins.foldl_eq`: folds over the same members amount to the same.
-/

namespace JavisSaas.Lib

variable {D L : Type*} [SemilatticeSup L]

/-- `op` amounts to a join. -/
def Joins (f : D → L) (op : D → D → D) : Prop := ∀ a b, f (op a b) = f a ⊔ f b

namespace Joins

variable {f : D → L} {op : D → D → D}

theorem isLUB_foldl (h : Joins f op) (first : D) (rest : List D) :
    IsLUB (Set.image f {d | d ∈ first :: rest}) (f (rest.foldl op first)) := by
  induction rest generalizing first with
  | nil =>
    have hsingle : {d | d ∈ [first]} = ({first} : Set D) := Set.ext fun d => List.mem_singleton
    rw [hsingle, Set.image_singleton]
    exact isLUB_singleton
  | cons next rest ih =>
    -- the first two data amount to their join
    obtain ⟨hupper, hleast⟩ := ih (op first next)
    have hfirst : f (op first next) ≤ f ((next :: rest).foldl op first) :=
      hupper ⟨op first next, List.mem_cons_self, rfl⟩
    rw [h first next] at hfirst
    constructor
    · rintro _ ⟨d, hd, rfl⟩
      rcases List.mem_cons.mp hd with rfl | hd
      · exact le_sup_left.trans hfirst
      rcases List.mem_cons.mp hd with rfl | hd
      · exact le_sup_right.trans hfirst
      · exact hupper ⟨d, List.mem_cons_of_mem _ hd, rfl⟩
    · intro bound hbound
      refine hleast ?_
      rintro _ ⟨d, hd, rfl⟩
      rcases List.mem_cons.mp hd with rfl | hd
      · rw [h first next]
        exact sup_le (hbound ⟨first, List.mem_cons_self, rfl⟩)
          (hbound ⟨next, List.mem_cons_of_mem _ List.mem_cons_self, rfl⟩)
      · exact hbound ⟨d, List.mem_cons_of_mem _ (List.mem_cons_of_mem _ hd), rfl⟩

theorem foldl_eq (h : Joins f op) {first first' : D} {rest rest' : List D}
    (hmem : ∀ d, d ∈ first :: rest ↔ d ∈ first' :: rest') :
    f (rest.foldl op first) = f (rest'.foldl op first') := by
  have hsame : {d | d ∈ first :: rest} = {d | d ∈ first' :: rest'} := Set.ext hmem
  have hlub := h.isLUB_foldl first rest
  rw [hsame] at hlub
  exact hlub.unique (h.isLUB_foldl first' rest')

end Joins

end JavisSaas.Lib
