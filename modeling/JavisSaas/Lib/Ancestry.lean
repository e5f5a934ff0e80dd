import Mathlib.Tactic.Common
import Mathlib.Logic.Relation

/-!
# Parents and lines of ancestors

A forest given by the parent of every node, if it has one. The line of a node is its parent,
the parent of that one, and so on to a node without parent.

* `Line.acyclic`: where every node has a line, none is its own ancestor.
* `Line.rerouted_moved`: the lines after a node was put under another one, which is not below it.
* `climb_of_line`: a line is computed by climbing far enough.
-/

namespace JavisSaas.Lib

universe u

variable {α : Type u} {parent parent' : α → Option α}

/-- The ancestors of `x`, nearest first. -/
inductive Line (parent : α → Option α) : α → List α → Prop
  | root {x : α} (h : parent x = none) : Line parent x []
  | link {x y : α} {l : List α} (h : parent x = some y) (hl : Line parent y l) :
    Line parent x (y :: l)

namespace Line

variable {x y z : α} {l l' before after : List α}

theorem unique (h : Line parent x l) (h' : Line parent x l') : l = l' := by
  induction h generalizing l' with
  | root hx =>
    cases h' with
    | root => rfl
    | link hx' => nomatch hx.symm.trans hx'
  | link hx _ ih =>
    cases h' with
    | root hx' => nomatch hx.symm.trans hx'
    | link hx' hl' =>
      cases hx.symm.trans hx'
      rw [ih hl']

/-- What follows an ancestor is its own line. -/
theorem suffix (h : Line parent x (before ++ y :: after)) : Line parent y after := by
  induction before generalizing x with
  | nil =>
    cases h with
    | link _ hl => exact hl
  | cons _ _ ih =>
    cases h with
    | link _ hl => exact ih hl

/-- A node is no ancestor of itself: its line would be a proper part of itself. -/
theorem notMem (h : Line parent x l) : x ∉ l := by
  intro hx
  obtain ⟨before, after, rfl⟩ := List.append_of_mem hx
  have hlength := congrArg List.length (h.unique h.suffix)
  rw [List.length_append, List.length_cons] at hlength
  omega

/-- The ancestors are what one reaches over parents. -/
theorem mem_iff (h : Line parent x l) :
    y ∈ l ↔ Relation.TransGen (fun a b => parent a = some b) x y := by
  induction h with
  | root hx =>
    refine iff_of_false List.not_mem_nil fun hxy => ?_
    obtain ⟨b, hb, -⟩ := Relation.TransGen.head'_iff.mp hxy
    nomatch hx.symm.trans hb
  | @link x b l hx hl ih =>
    rw [List.mem_cons, ih]
    constructor
    · rintro (rfl | hby)
      · exact .single hx
      · exact .head hx hby
    · intro hxy
      obtain ⟨c, hc, hcy⟩ := Relation.TransGen.head'_iff.mp hxy
      cases hx.symm.trans hc
      exact (Relation.reflTransGen_iff_eq_or_transGen.mp hcy).imp_left fun h => h

theorem acyclic (h : Line parent x l) :
    ¬ Relation.TransGen (fun a b => parent a = some b) x x := fun hx => h.notMem (h.mem_iff.mpr hx)

/-! ## Moving a node -/

/-- Of all nodes at most `x` gets another parent. -/
def Moved (parent parent' : α → Option α) (x : α) : Prop := ∀ z, z ≠ x → parent' z = parent z

/-- A line that does not meet the moved node stays. -/
theorem of_moved (hmoved : Moved parent parent' x) (h : Line parent z l) (hz : z ≠ x)
    (hx : x ∉ l) : Line parent' z l := by
  induction h with
  | root hz' => exact .root ((hmoved _ hz).trans hz')
  | link hz' _ ih =>
    rw [List.mem_cons, not_or] at hx
    exact .link ((hmoved _ hz).trans hz') (ih (Ne.symm hx.1) hx.2)

/-- A line that meets the moved node goes on from there by its new line. -/
theorem append_moved (hmoved : Moved parent parent' x) (hline : Line parent' x l)
    (h : Line parent z (before ++ x :: after)) (hz : z ≠ x) (hx : x ∉ before) :
    Line parent' z (before ++ x :: l) := by
  induction before generalizing z with
  | nil =>
    cases h with
    | link hz' _ => exact .link ((hmoved _ hz).trans hz') hline
  | cons _ _ ih =>
    rw [List.mem_cons, not_or] at hx
    cases h with
    | link hz' hl => exact .link ((hmoved _ hz).trans hz') (ih hl (Ne.symm hx.1) hx.2)

variable [DecidableEq α]

/-- The line `l'` of `z` once the line of `x` is `l`. -/
def rerouted (x : α) (l : List α) (z : α) (l' : List α) : List α :=
  if z = x then l else if x ∈ l' then l'.takeWhile (· ≠ x) ++ x :: l else l'

/-- Every node has a line again once a node has a new one. -/
theorem rerouted_moved (hmoved : Moved parent parent' x) (hline : Line parent' x l)
    (h : Line parent z l') : Line parent' z (rerouted x l z l') := by
  unfold rerouted
  split_ifs with hz hx
  · subst hz
    exact hline
  · obtain ⟨before, after, rfl, hbefore⟩ := List.eq_append_cons_of_mem hx
    have htake : (before ++ x :: after).takeWhile (· ≠ x) = before := by
      rw [List.takeWhile_append_of_pos, List.takeWhile_cons_of_neg, List.append_nil]
      · simp
      · intro a ha
        exact decide_eq_true (ne_of_mem_of_not_mem ha hbefore)
    rw [htake]
    exact append_moved hmoved hline h hz hbefore
  · exact h.of_moved hmoved hz hx

end Line

/-! ## Climbing -/

/-- The ancestors of `x`, at most as many as the fuel. -/
def climb (parent : α → Option α) : ℕ → α → List α
  | 0, _ => []
  | n + 1, x =>
    match parent x with
    | none => []
    | some y => y :: climb parent n y

theorem climb_of_line {n : ℕ} {x : α} {l : List α} (h : Line parent x l) (hn : l.length ≤ n) :
    climb parent n x = l := by
  induction n generalizing x l with
  | zero => rw [climb, List.length_eq_zero_iff.mp (Nat.le_zero.mp hn)]
  | succ _ ih =>
    cases h with
    | root hx => rw [climb, hx]
    | link hx hl =>
      rw [climb, hx]
      dsimp only
      rw [ih hl (Nat.le_of_succ_le_succ hn)]

end JavisSaas.Lib
