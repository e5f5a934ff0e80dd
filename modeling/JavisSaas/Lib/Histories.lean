import Mathlib.Data.List.Infix
import Mathlib.Order.Lattice

/-!
# Numbered histories

A history lists the versions of something, newest first, and each version carries a number that is
greater than those before it. A history continues another when that one is its end.

* `Numbered.eq_of_top_eq`: within one history the number tells the version.
-/

namespace JavisSaas.Lib

universe u v

variable {α : Type u} {β : Type v}

/-- Neither history continues the other. -/
def Diverged (h h' : List α) : Prop := ¬ h <:+ h' ∧ ¬ h' <:+ h

instance [DecidableEq α] (h h' : List α) : Decidable (Diverged h h') :=
  inferInstanceAs (Decidable (_ ∧ _))

/-- The number of the newest version, or the one before all versions. -/
def top (number : α → β) (start : β) (h : List α) : β := (h.head?.map number).getD start

section Numbers

variable [LinearOrder β] {number : α → β} {start : β} {h h' b b' : List α} {v : α}

/-- The numbers grow from version to version. -/
def Numbered (number : α → β) (start : β) : List α → Prop
  | [] => True
  | v :: h => top number start h < number v ∧ Numbered number start h

namespace Numbered

theorem of_suffix (hh : Numbered number start h) (hb : b <:+ h) : Numbered number start b := by
  induction h with
  | nil =>
    rw [List.suffix_nil.mp hb]
    trivial
  | cons _ _ ih =>
    rcases List.suffix_cons_iff.mp hb with rfl | hb
    · exact hh
    · exact ih hh.2 hb

/-- What a history continues has a smaller number, unless it is the history itself. -/
theorem eq_or_top_lt (hh : Numbered number start h) (hb : b <:+ h) :
    b = h ∨ top number start b < top number start h := by
  induction h with
  | nil => exact .inl (List.suffix_nil.mp hb)
  | cons v h ih =>
    rcases List.suffix_cons_iff.mp hb with rfl | hb
    · exact .inl rfl
    · have hv : top number start h < top number start (v :: h) := hh.1
      rcases ih hh.2 hb with rfl | hlt
      · exact .inr hv
      · exact .inr (lt_trans hlt hv)

theorem top_le (hh : Numbered number start h) (hb : b <:+ h) :
    top number start b ≤ top number start h := by
  rcases hh.eq_or_top_lt hb with rfl | hlt
  · exact le_refl _
  · exact le_of_lt hlt

/-- Within one history the number tells the version. -/
theorem eq_of_top_eq (hh : Numbered number start h) (hb : b <:+ h) (hb' : b' <:+ h)
    (htop : top number start b = top number start b') : b = b' := by
  rcases List.suffix_or_suffix_of_suffix hb hb' with hsub | hsub
  · rcases (hh.of_suffix hb').eq_or_top_lt hsub with heq | hlt
    · exact heq
    · exact absurd htop (ne_of_lt hlt)
  · rcases (hh.of_suffix hb).eq_or_top_lt hsub with heq | hlt
    · exact heq.symm
    · exact absurd htop.symm (ne_of_lt hlt)

theorem suffix_of_lt_top (hh : Numbered number start h) (hdiv : ¬ Diverged h' h)
    (htop : top number start h < top number start h') : h <:+ h' := by
  by_contra hnot
  have hsub : h' <:+ h := by
    by_contra hnot'
    exact hdiv ⟨hnot', hnot⟩
  exact absurd (hh.top_le hsub) (not_le_of_gt htop)

end Numbered

end Numbers

end JavisSaas.Lib
