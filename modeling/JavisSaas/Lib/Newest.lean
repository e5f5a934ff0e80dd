import Mathlib.Data.List.MinMax

/-!
# The newest row

`ORDER BY key DESC LIMIT 1`, on keys that have a decidable order.

* `mem_of_newest`, `le_of_newest`: it is a row, and no row has a greater key.
-/

namespace JavisSaas.Lib

universe u v

variable {α : Type u} {β : Type v} {f : α → β} {l : List α} {a b : α}

/-- The first of the rows with the greatest key. -/
def newest [LT β] [DecidableLT β] (f : α → β) (l : List α) : Option α :=
  l.foldl (List.argAux fun b c => f c < f b) none

theorem newest_eq_none [Preorder β] [DecidableLT β] : newest f l = none ↔ l = [] :=
  List.argmax_eq_none

theorem mem_of_newest [Preorder β] [DecidableLT β] (h : newest f l = some a) : a ∈ l :=
  List.argmax_mem h

theorem newest_concat [Preorder β] [DecidableLT β] (f : α → β) (a : α) (l : List α) :
    newest f (l ++ [a]) =
      Option.casesOn (newest f l) (some a) fun c => if f c < f a then some a else some c :=
  List.argmax_concat ..

theorem le_of_newest [LinearOrder β] (ha : a ∈ l) (h : newest f l = some b) : f a ≤ f b :=
  List.le_of_mem_argmax ha h

end JavisSaas.Lib
