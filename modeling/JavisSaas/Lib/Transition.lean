import Mathlib.Tactic.Common
import Mathlib.Order.Basic

/-!
# Labelled transition systems and their runs

Every choice the environment makes is part of the label of a step, so a run is a list of labels and
can be computed.

* `System.run`: the state a list of labels leads to.
* `System.Along G`: every step of a run meets `G`, a predicate on the state before and the label.
* `System.inv_of_along`, `System.rel_of_along`: what one step keeps, a whole run keeps.
* `System.along_of_inv`, `System.along_iff_of_inv`: conditions compared under an invariant.
-/

namespace JavisSaas.Lib

universe u v

/-- What stands in a log after one more entry. -/
theorem mem_concat {α : Type u} {a b : α} {log : List α} (h : a ∈ log ++ [b]) : a ∈ log ∨ a = b :=
  (List.mem_append.mp h).imp_right List.mem_singleton.mp

/-- A labelled transition system; `next s l = none` when `l` is not enabled. -/
structure System (S : Type u) (L : Type v) where
  next : S → L → Option S

namespace System

variable {S : Type u} {L : Type v} (M : System S L)

/-- The state reached from `s` by the steps `ls`, if all of them are enabled. -/
def run : S → List L → Option S
  | s, [] => some s
  | s, l :: ls => (M.next s l).bind fun s' => run s' ls

@[simp] theorem run_nil (s : S) : M.run s [] = some s := rfl

theorem run_cons (s : S) (l : L) (ls : List L) :
    M.run s (l :: ls) = (M.next s l).bind fun s' => M.run s' ls := rfl

variable {s s' : S} {ls ls' : List L} {G : S → L → Prop} {I : S → Prop}

theorem run_cons_eq_some {l : L} :
    M.run s (l :: ls) = some s' ↔ ∃ m, M.next s l = some m ∧ M.run m ls = some s' := by
  rw [run_cons, Option.bind_eq_some_iff]

theorem run_append_eq_some :
    M.run s (ls ++ ls') = some s' ↔ ∃ m, M.run s ls = some m ∧ M.run m ls' = some s' := by
  induction ls generalizing s with
  | nil => simp
  | cons _ _ ih =>
    simp only [List.cons_append, run_cons_eq_some, ih]
    constructor
    · rintro ⟨a, ha, m, hm, h⟩; exact ⟨m, ⟨a, ha, hm⟩, h⟩
    · rintro ⟨m, ⟨a, ha, hm⟩, h⟩; exact ⟨a, ha, m, hm, h⟩

theorem run_append {s m s' : S} {ls ls' : List L} (h : M.run s ls = some m)
    (h' : M.run m ls' = some s') : M.run s (ls ++ ls') = some s' :=
  M.run_append_eq_some.mpr ⟨m, h, h'⟩

/-! ## Conditions on every step -/

/-- Every step of the run `ls` from `s` meets `G`. -/
def Along (G : S → L → Prop) : S → List L → Prop
  | _, [] => True
  | s, l :: ls => G s l ∧ ∀ s' ∈ M.next s l, Along G s' ls

instance decidableAlong (G : S → L → Prop) [∀ s l, Decidable (G s l)] :
    ∀ s ls, Decidable (M.Along G s ls)
  | _, [] => instDecidableTrue
  | s, l :: ls =>
    match h : M.next s l with
    | none => decidable_of_iff (G s l) (by simp [Along, h])
    | some s' =>
      have := decidableAlong G s' ls
      decidable_of_iff (G s l ∧ M.Along G s' ls) (by simp [Along, h])

theorem along_append {m : S} (h : M.run s ls = some m) :
    M.Along G s (ls ++ ls') ↔ M.Along G s ls ∧ M.Along G m ls' := by
  induction ls generalizing s with
  | nil => simp at h; subst h; simp [Along]
  | cons _ _ ih =>
    obtain ⟨a, ha, h⟩ := M.run_cons_eq_some.mp h
    simp [Along, ha, ih h, and_assoc]

theorem Along.mono {G' : S → L → Prop} (hG : ∀ s l, G s l → G' s l) :
    ∀ {s ls}, M.Along G s ls → M.Along G' s ls
  | _, [], _ => trivial
  | _, _ :: _, ⟨h, h'⟩ => ⟨hG _ _ h, fun s' hs' => Along.mono hG (h' s' hs')⟩

theorem along_true : ∀ {s ls}, M.Along (fun _ _ => True) s ls
  | _, [] => trivial
  | _, _ :: _ => ⟨trivial, fun _ _ => along_true⟩

theorem along_and {G' : S → L → Prop} : ∀ {s ls}, M.Along G s ls → M.Along G' s ls →
    M.Along (fun s l => G s l ∧ G' s l) s ls
  | _, [], _, _ => trivial
  | _, _ :: _, h, h' => ⟨⟨h.1, h'.1⟩, fun s' hs' => along_and (h.2 s' hs') (h'.2 s' hs')⟩

/-! ## What a step keeps, a run keeps -/

/-- An invariant of the steps that meet `G` holds after every run whose steps meet `G`. -/
theorem inv_of_along (hstep : ∀ s l s', I s → G s l → M.next s l = some s' → I s') (h0 : I s)
    (hG : M.Along G s ls) (h : M.run s ls = some s') : I s' := by
  induction ls generalizing s with
  | nil => simp at h; exact h ▸ h0
  | cons l _ ih =>
    obtain ⟨m, hm, h⟩ := M.run_cons_eq_some.mp h
    exact ih (hstep s l m h0 hG.1 hm) (hG.2 m hm) h

/-- An invariant of every step holds after every run. -/
theorem inv_of_run (hstep : ∀ s l s', I s → M.next s l = some s' → I s') (h0 : I s)
    (h : M.run s ls = some s') : I s' :=
  M.inv_of_along (G := fun _ _ => True) (fun s l s' hI _ => hstep s l s' hI) h0 M.along_true h

/-- A step condition that follows from another under an invariant holds along its runs. -/
theorem along_of_inv {P : S → L → Prop}
    (hstep : ∀ s l s', I s → G s l → M.next s l = some s' → I s') (hGP : ∀ s l, I s → G s l → P s l)
    (h0 : I s) (hG : M.Along G s ls) :
    M.Along P s ls := by
  induction ls generalizing s with
  | nil => trivial
  | cons l _ ih =>
    refine ⟨hGP s l h0 hG.1, fun s' hs' => ?_⟩
    exact ih (hstep s l s' h0 hG.1 hs') (hG.2 s' hs')

/-- Two step conditions that agree under an invariant hold along the same runs. -/
theorem along_iff_of_inv {P : S → L → Prop}
    (hstep : ∀ s l s', I s → G s l → M.next s l = some s' → I s')
    (hGP : ∀ s l, I s → (G s l ↔ P s l)) (h0 : I s) :
    M.Along G s ls ↔ M.Along P s ls := by
  induction ls generalizing s with
  | nil => exact Iff.rfl
  | cons l _ ih =>
    constructor
    · rintro ⟨hG, hrest⟩
      refine ⟨(hGP s l h0).mp hG, fun s' hs' => ?_⟩
      exact (ih (hstep s l s' h0 hG hs')).mp (hrest s' hs')
    · rintro ⟨hP, hrest⟩
      have hG := (hGP s l h0).mpr hP
      refine ⟨hG, fun s' hs' => ?_⟩
      exact (ih (hstep s l s' h0 hG hs')).mpr (hrest s' hs')

/-- What holds after a step exactly if it held before and the step meets `G`. -/
theorem iff_along {P : S → Prop} (hstep : ∀ s l s', M.next s l = some s' → (P s' ↔ P s ∧ G s l))
    (h : M.run s ls = some s') : P s' ↔ P s ∧ M.Along G s ls := by
  induction ls generalizing s with
  | nil =>
    cases h
    exact (and_iff_left trivial).symm
  | cons l _ ih =>
    obtain ⟨m, hm, h⟩ := M.run_cons_eq_some.mp h
    rw [ih h, hstep s l m hm, and_assoc, Along, hm]
    simp

/-- What every step relates, under an invariant, a whole run relates. -/
theorem rel_of_along {R : S → S → Prop} (hrefl : ∀ s, R s s)
    (htrans : ∀ a b c, R a b → R b c → R a c)
    (hstep : ∀ s l s', I s → G s l → M.next s l = some s' → I s' ∧ R s s') (h0 : I s)
    (hG : M.Along G s ls) (h : M.run s ls = some s') : R s s' := by
  induction ls generalizing s with
  | nil => simp at h; exact h ▸ hrefl s
  | cons l _ ih =>
    obtain ⟨m, hm, h⟩ := M.run_cons_eq_some.mp h
    obtain ⟨hI, hR⟩ := hstep s l m h0 hG.1 hm
    exact htrans s m s' hR (ih hI (hG.2 m hm) h)

end System

end JavisSaas.Lib
