import Mathlib.Data.List.Forall2

/-!
# Conjunctions of three truth values

What is false decides a conjunction, and what is not known leaves it open. To learn more never takes
a decided value back.

* `all_eq_no`, `all_eq_yes`: when a conjunction is decided.
* `all_append`: which further conditions change nothing.
* `all_refines`: a decided conjunction stays as it is.
-/

namespace JavisSaas.Lib

inductive Kleene
  | no
  | unknown
  | yes
  deriving DecidableEq

namespace Kleene

variable {a b : Kleene} {l l' : List Kleene}

def ofBool (b : Bool) : Kleene := if b then yes else no

def all (l : List Kleene) : Kleene :=
  if no ∈ l then no else if unknown ∈ l then unknown else yes

theorem all_eq_no : all l = no ↔ no ∈ l := by
  unfold all
  split_ifs with hno hunknown
  · exact iff_of_true rfl hno
  · exact iff_of_false nofun hno
  · exact iff_of_false nofun hno

theorem all_eq_yes : all l = yes ↔ ∀ a ∈ l, a = yes := by
  unfold all
  split_ifs with hno hunknown
  · exact iff_of_false nofun fun h => nomatch h _ hno
  · exact iff_of_false nofun fun h => nomatch h _ hunknown
  · refine iff_of_true rfl fun a ha => ?_
    cases a with
    | no => exact absurd ha hno
    | unknown => exact absurd ha hunknown
    | yes => rfl

/-- Only which conditions are false and which are not known counts. -/
theorem all_congr (hno : no ∈ l ↔ no ∈ l') (hunknown : unknown ∈ l ↔ unknown ∈ l') :
    all l = all l' := by
  simp only [all, hno, hunknown]

/-- Further conditions that change nothing. -/
theorem all_append :
    all (l ++ l') = all l ↔ (∀ a ∈ l', a = yes) ∨ no ∈ l ∨ unknown ∈ l ∧ no ∉ l' := by
  unfold all
  simp only [List.mem_append]
  by_cases hno : no ∈ l
  · simp [hno]
  by_cases hno' : no ∈ l'
  · have hnot : ¬∀ a ∈ l', a = yes := fun h => nomatch h _ hno'
    by_cases hunknown : unknown ∈ l <;> simp [hno, hno', hunknown, hnot]
  by_cases hunknown : unknown ∈ l
  · simp [hno, hno', hunknown]
  by_cases hunknown' : unknown ∈ l'
  · have hnot : ¬∀ a ∈ l', a = yes := fun h => nomatch h _ hunknown'
    simp [hno, hno', hunknown, hunknown', hnot]
  · have hyes : ∀ a ∈ l', a = yes := by
      intro a ha
      cases a with
      | no => exact absurd ha hno'
      | unknown => exact absurd ha hunknown'
      | yes => rfl
    simpa [hno, hno', hunknown, hunknown'] using hyes

/-- `b` is `a`, or `a` was not known. -/
def Refines (a b : Kleene) : Prop := a = unknown ∨ a = b

theorem refines_refl (a : Kleene) : Refines a a := .inr rfl

theorem mem_of_refines (h : List.Forall₂ Refines l l') (hne : a ≠ unknown) (ha : a ∈ l) :
    a ∈ l' := by
  induction h with
  | nil => exact absurd ha List.not_mem_nil
  | cons hab _ ih =>
    rcases List.mem_cons.mp ha with rfl | ha
    · exact List.mem_cons.mpr (.inl (hab.resolve_left hne))
    · exact List.mem_cons_of_mem _ (ih ha)

theorem all_refines (h : List.Forall₂ Refines l l') : Refines (all l) (all l') := by
  cases hall : all l with
  | no => exact .inr (all_eq_no.mpr (mem_of_refines h nofun (all_eq_no.mp hall))).symm
  | unknown => exact .inl rfl
  | yes =>
    refine .inr (all_eq_yes.mpr ?_).symm
    replace hall := all_eq_yes.mp hall
    induction h with
    | nil => exact fun a ha => absurd ha List.not_mem_nil
    | cons hab _ ih =>
      obtain ⟨rfl, hrest⟩ := List.forall_mem_cons.mp hall
      exact List.forall_mem_cons.mpr ⟨(hab.resolve_left nofun).symm, ih hrest⟩

end Kleene

end JavisSaas.Lib
