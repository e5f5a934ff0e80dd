import Mathlib.Data.List.Forall2

/-!
# Recorded paths of a state machine

A record holds one entry for every change of state: the state before, which the first entry
does not have, and the state after.

* `Trail`: the entries, in their order, are one path that begins at the start.
* `Trail.single_start`: only the first entry begins.
* `Fills`: a record that leaves some of the states before out.
-/

namespace JavisSaas.Lib

universe u

variable {S : Type u} {start : S} {allowed : S → S → Prop}

/-- The entries form a path of the allowed changes from the start to the state. -/
inductive Trail (start : S) (allowed : S → S → Prop) : List (Option S × S) → S → Prop
  | start : Trail start allowed [(none, start)] start
  | next {es : List (Option S × S)} {s s' : S} (h : Trail start allowed es s) (ha : allowed s s') :
    Trail start allowed (es ++ [(some s, s')]) s'

namespace Trail

variable {es : List (Option S × S)} {s s' : S}

theorem ne_nil (h : Trail start allowed es s) : es ≠ [] := by
  cases h with
  | start => exact List.cons_ne_nil _ _
  | next => exact List.concat_ne_nil _ _

/-- A path begins once. -/
theorem single_start (h : Trail start allowed es s) :
    ∃ rest, es = (none, start) :: rest ∧ ∀ e ∈ rest, e.1 ≠ none := by
  induction h with
  | start => exact ⟨[], rfl, fun e he => nomatch he⟩
  | @next es s s' h ha ih =>
    obtain ⟨rest, rfl, hrest⟩ := ih
    refine ⟨rest ++ [(some s, s')], rfl, fun e he => ?_⟩
    rcases List.mem_append.mp he with he | he
    · exact hrest e he
    · obtain rfl := List.mem_singleton.mp he
      exact Option.some_ne_none s

theorem not_of_gap {e : Option S × S} (he : e ∈ es.tail) (hnone : e.1 = none) :
    ¬Trail start allowed es s := by
  intro h
  obtain ⟨rest, rfl, hrest⟩ := h.single_start
  exact hrest e he hnone

end Trail

/-- The record has the entries of the path, some of them without the state before. -/
def Fills (path record : List (Option S × S)) : Prop :=
  List.Forall₂ (fun e r => r.2 = e.2 ∧ (r.1 = none ∨ r.1 = e.1)) path record

namespace Fills

variable {path record : List (Option S × S)}

theorem refl (path : List (Option S × S)) : Fills path path :=
  List.forall₂_same.mpr fun _ _ => ⟨rfl, .inr rfl⟩

theorem concat (h : Fills path record) {s s' : S} {o : Option S} (ho : o = none ∨ o = some s) :
    Fills (path ++ [(some s, s')]) (record ++ [(o, s')]) :=
  List.rel_append h (.cons ⟨rfl, ho⟩ .nil)

theorem ne_nil (h : Fills path record) (hpath : path ≠ []) : record ≠ [] := by
  rintro rfl
  exact hpath (List.forall₂_nil_right_iff.mp h)

end Fills

end JavisSaas.Lib
