import Mathlib.Tactic.Common

/-!
# Codes that can be read back

A value is written as a list of symbols. It reads back when its text tells it, and where the text
ends, whatever follows, as long as what follows starts with a delimiter.

* `terminated_inj`: a row of codes up to a terminator.
* `separated_inj`: a row of codes with a separator between them, up to a closing symbol.
-/

namespace JavisSaas.Lib

universe u v

variable {α : Type u} {β : Type v}

/-- A text that is empty or starts with a delimiter. -/
def Delimited (D : β → Prop) (r : List β) : Prop := ∀ c ∈ r.head?, D c

theorem delimited_cons {D : β → Prop} {c : β} (hc : D c) (r : List β) : Delimited D (c :: r) := by
  rintro _ ⟨⟩
  exact hc

/-- No other text is one of `a` with something delimited behind it. -/
def ReadsBack (D : β → Prop) (f : α → List β) (a : α) : Prop :=
  ∀ ⦃b r s⦄, Delimited D r → Delimited D s → f a ++ r = f b ++ s → a = b ∧ r = s

/-- The code reads back whatever follows. -/
def PrefixFree (f : α → List β) : Prop := ∀ ⦃a b r s⦄, f a ++ r = f b ++ s → a = b ∧ r = s

/-- Texts without a delimiter end where the first delimiter stands. -/
theorem append_inj_of_delimited {D : β → Prop} {l l' r s : List β} (hl : ∀ c ∈ l, ¬ D c)
    (hl' : ∀ c ∈ l', ¬ D c) (hr : Delimited D r) (hs : Delimited D s) (h : l ++ r = l' ++ s) :
    l = l' ∧ r = s := by
  induction l generalizing l' with
  | nil =>
    cases l' with
    | nil => exact ⟨rfl, h⟩
    | cons c l' =>
      obtain rfl : r = c :: (l' ++ s) := h
      exact absurd (hr c rfl) (hl' c List.mem_cons_self)
  | cons c l ih =>
    cases l' with
    | nil =>
      obtain rfl : c :: (l ++ r) = s := h
      exact absurd (hs c rfl) (hl c List.mem_cons_self)
    | cons =>
      obtain ⟨rfl, hrest⟩ := List.cons.inj h
      obtain ⟨rfl, hrs⟩ := ih (fun x hx => hl x (List.mem_cons_of_mem c hx))
        (fun x hx => hl' x (List.mem_cons_of_mem c hx)) hrest
      exact ⟨rfl, hrs⟩

/-! ## Rows of codes -/

section Rows

variable {D : β → Prop} {f : α → List β} {sep close : β}

/-- A row of codes up to a terminator that no code starts with. -/
theorem terminated_inj (hf : PrefixFree f) (hstart : ∀ a, ∃ c l, f a = c :: l ∧ c ≠ close)
    {l l' : List α} {r s : List β} (h : l.flatMap f ++ close :: r = l'.flatMap f ++ close :: s) :
    l = l' ∧ r = s := by
  induction l generalizing l' with
  | nil =>
    cases l' with
    | nil => exact ⟨rfl, (List.cons.inj h).2⟩
    | cons b =>
      obtain ⟨c, t, hb, hc⟩ := hstart b
      rw [List.flatMap_cons, hb] at h
      exact absurd (List.cons.inj h).1.symm hc
  | cons a _ ih =>
    cases l' with
    | nil =>
      obtain ⟨c, t, ha, hc⟩ := hstart a
      rw [List.flatMap_cons, ha] at h
      exact absurd (List.cons.inj h).1 hc
    | cons =>
      rw [List.flatMap_cons, List.flatMap_cons, List.append_assoc, List.append_assoc] at h
      obtain ⟨rfl, hrest⟩ := hf h
      obtain ⟨rfl, hrs⟩ := ih hrest
      exact ⟨rfl, hrs⟩

/-- A whole row of codes. -/
theorem flatMap_inj (hf : PrefixFree f) (hne : ∀ a, f a ≠ []) {l l' : List α}
    (h : l.flatMap f = l'.flatMap f) : l = l' := by
  induction l generalizing l' with
  | nil =>
    cases l' with
    | nil => rfl
    | cons b => exact absurd (List.append_eq_nil_iff.mp h.symm).1 (hne b)
  | cons a _ ih =>
    cases l' with
    | nil => exact absurd (List.append_eq_nil_iff.mp h).1 (hne a)
    | cons =>
      obtain ⟨rfl, hrest⟩ := hf h
      rw [ih hrest]

theorem intercalate_cons (a : List β) (l : List (List β)) :
    [sep].intercalate (a :: l) = a ++ l.flatMap (sep :: ·) := by
  induction l generalizing a with
  | nil => simp
  | cons _ _ ih => rw [List.intercalate_cons_cons, ih]; simp

theorem separators_inj (hsep : D sep) (hclose : D close) (hne : sep ≠ close) {l l' : List α}
    (hl : ∀ a ∈ l, ReadsBack D f a) {r s : List β}
    (h : (l.map f).flatMap (sep :: ·) ++ close :: r = (l'.map f).flatMap (sep :: ·) ++ close :: s) :
    l = l' ∧ r = s := by
  -- Whatever stands behind a member starts with the separator or with the closing symbol.
  have hbehind : ∀ (l : List α) (r : List β),
      Delimited D ((l.map f).flatMap (sep :: ·) ++ close :: r) := by
    intro l r
    cases l with
    | nil => exact delimited_cons hclose r
    | cons => exact delimited_cons hsep _
  induction l generalizing l' with
  | nil =>
    cases l' with
    | nil => exact ⟨rfl, (List.cons.inj h).2⟩
    | cons => exact absurd (List.cons.inj h).1.symm hne
  | cons a l ih =>
    cases l' with
    | nil => exact absurd (List.cons.inj h).1 hne
    | cons _ l' =>
      rw [List.map_cons, List.map_cons, List.flatMap_cons, List.flatMap_cons, List.append_assoc,
        List.append_assoc] at h
      obtain ⟨rfl, hrest⟩ :=
        hl a List.mem_cons_self (hbehind l r) (hbehind l' s) (List.cons.inj h).2
      obtain ⟨rfl, hrs⟩ := ih (fun x hx => hl x (List.mem_cons_of_mem a hx)) hrest
      exact ⟨rfl, hrs⟩

/-- A row of codes with separators, up to a closing symbol that no code starts with. -/
theorem separated_inj (hsep : D sep) (hclose : D close) (hne : sep ≠ close)
    (hstart : ∀ a, ∃ c l, f a = c :: l ∧ c ≠ close) {l l' : List α}
    (hl : ∀ a ∈ l, ReadsBack D f a) {r s : List β}
    (h : [sep].intercalate (l.map f) ++ close :: r = [sep].intercalate (l'.map f) ++ close :: s) :
    l = l' ∧ r = s := by
  cases l with
  | nil =>
    cases l' with
    | nil => exact ⟨rfl, (List.cons.inj h).2⟩
    | cons b =>
      obtain ⟨c, t, hb, hc⟩ := hstart b
      rw [List.map_cons, intercalate_cons, hb] at h
      exact absurd (List.cons.inj h).1.symm hc
  | cons a l =>
    cases l' with
    | nil =>
      obtain ⟨c, t, ha, hc⟩ := hstart a
      rw [List.map_cons, intercalate_cons, ha] at h
      exact absurd (List.cons.inj h).1 hc
    | cons b l' =>
      -- With a separator in front, the first member is one as the others are.
      have hall : ((a :: l).map f).flatMap (sep :: ·) ++ close :: r =
          ((b :: l').map f).flatMap (sep :: ·) ++ close :: s := by
        rw [List.map_cons, List.map_cons, intercalate_cons, intercalate_cons] at h
        rw [List.map_cons, List.map_cons, List.flatMap_cons, List.flatMap_cons, List.cons_append,
          List.cons_append, List.cons_append, List.cons_append, h]
      exact separators_inj hsep hclose hne hl hall

end Rows

end JavisSaas.Lib
