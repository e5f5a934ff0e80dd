import Mathlib.Tactic.Common

/-!
# Markers around untrusted text

A text holds untrusted parts that were cleaned of the symbol that the markers begin with. Then no
marker begins in such a part, whatever stands before or after it.
-/

namespace JavisSaas.Lib

variable {α : Type} [DecidableEq α]

/-- The places of a text at which the marker stands. -/
def occurrences (marker : List α) : List α → ℕ
  | [] => 0
  | c :: s =>
    if marker.isPrefixOf (c :: s) then occurrences marker s + 1 else occurrences marker s

/-- No marker begins in a text without its first symbol. -/
theorem occurrences_append {first : α} {marker s : List α} (hm : marker.head? = some first)
    (h : first ∉ s) (rest : List α) :
    occurrences marker (s ++ rest) = occurrences marker rest := by
  obtain ⟨marker, rfl⟩ := List.head?_eq_some_iff.mp hm
  induction s with
  | nil => rfl
  | cons c _ ih =>
    have hne : (first == c) = false := beq_eq_false_iff_ne.mpr (List.ne_of_not_mem_cons h)
    rw [List.cons_append, occurrences, List.isPrefixOf, hne, Bool.false_and, if_neg (by decide)]
    exact ih (List.not_mem_of_not_mem_cons h)

/-- Two markers and what follows them: neither begins inside of the other. -/
structure MarkerPair (first : α) (beginMarker endMarker after : List α) : Prop where
  head : beginMarker.head? = some first ∧ endMarker.head? = some first
  beginSelf : ∀ s, occurrences beginMarker (beginMarker ++ s) = occurrences beginMarker s + 1
  endBegin : ∀ s, occurrences endMarker (beginMarker ++ s) = occurrences endMarker s
  rest : occurrences beginMarker (endMarker ++ after) = 0 ∧
    occurrences endMarker (endMarker ++ after) = 1

/-- Around a text in which no marker begins, both markers stand once. -/
theorem MarkerPair.once {first : α} {beginMarker endMarker before inner after : List α}
    (h : MarkerPair first beginMarker endMarker after) (hbefore : first ∉ before)
    (hinner : first ∉ inner) :
    occurrences beginMarker (before ++ (beginMarker ++ (inner ++ (endMarker ++ after)))) = 1 ∧
      occurrences endMarker (before ++ (beginMarker ++ (inner ++ (endMarker ++ after)))) = 1 := by
  constructor
  · rw [occurrences_append h.head.1 hbefore, h.beginSelf, occurrences_append h.head.1 hinner,
      h.rest.1]
  · rw [occurrences_append h.head.2 hbefore, h.endBegin, occurrences_append h.head.2 hinner,
      h.rest.2]

end JavisSaas.Lib
