import Mathlib.Tactic.Common
import Mathlib.Algebra.Ring.Nat

/-!
# Decimal numerals of a fixed width

A numeral is a list of digits, the most significant one first; `Nat.ofDigitChars` reads it and
`Nat.toDigits` writes one without leading zeros.

* `ofDigitChars_inj`: two numerals of one length that denote the same number are the same.
* `padZeros_toDigits`: a numeral is what its number is written as, filled up with zeros.
* `head_ne_zero_iff`: no zero leads a numeral of a number that is large enough for its length.
-/

namespace JavisSaas.Lib

open Nat (ofDigitChars toDigits)

/-- `padStart(width, "0")`. -/
def padZeros (width : ℕ) (cs : List Char) : List Char :=
  List.replicate (width - cs.length) '0' ++ cs

variable {width : ℕ} {cs : List Char} {c : Char}

theorem padZeros_of_le (h : width ≤ cs.length) : padZeros width cs = cs := by
  rw [padZeros, Nat.sub_eq_zero_of_le h]
  rfl

theorem length_padZeros (h : cs.length ≤ width) : (padZeros width cs).length = width := by
  rw [padZeros, List.length_append, List.length_replicate]
  omega

theorem isDigit_of_mem_padZeros {n : ℕ} (h : c ∈ padZeros width (toDigits 10 n)) : c.isDigit := by
  rcases List.mem_append.mp h with h | h
  · obtain ⟨-, rfl⟩ := List.mem_replicate.mp h
    rfl
  · exact Nat.isDigit_of_mem_toDigits (by decide) (by decide) h

@[simp] theorem ofDigitChars_padZeros (width : ℕ) (cs : List Char) :
    ofDigitChars 10 (padZeros width cs) 0 = ofDigitChars 10 cs 0 := by
  rw [padZeros, Nat.ofDigitChars_append, Nat.ofDigitChars_replicate_zero, Nat.mul_zero]

theorem digit_bounds (h : c.isDigit) : 48 ≤ c.toNat ∧ c.toNat ≤ 57 := by
  simp only [Char.isDigit, Bool.and_eq_true, decide_eq_true_eq, ge_iff_le, UInt32.le_iff_toNat_le]
    at h
  exact h

/-- The first digit stands for its value times a power of ten. -/
theorem ofDigitChars_cons_eq (c : Char) (cs : List Char) :
    ofDigitChars 10 (c :: cs) 0 = 10 ^ cs.length * (c.toNat - 48) + ofDigitChars 10 cs 0 := by
  rw [Nat.ofDigitChars_cons, Nat.ofDigitChars_eq_ofDigitChars_zero, Nat.mul_zero, Nat.zero_add]
  rfl

theorem ofDigitChars_lt (h : ∀ c ∈ cs, c.isDigit) : ofDigitChars 10 cs 0 < 10 ^ cs.length := by
  induction cs with
  | nil => exact Nat.one_pos
  | cons c cs ih =>
    have hrest := ih fun d hd => h d (List.mem_cons_of_mem _ hd)
    have hc := digit_bounds (h c List.mem_cons_self)
    have hmul : 10 ^ cs.length * (c.toNat - 48) ≤ 10 ^ cs.length * 9 :=
      Nat.mul_le_mul_left _ (by omega)
    rw [ofDigitChars_cons_eq, List.length_cons, Nat.pow_succ]
    omega

theorem ofDigitChars_inj {cs ds : List Char} (hcs : ∀ c ∈ cs, c.isDigit)
    (hds : ∀ d ∈ ds, d.isDigit) (hlength : cs.length = ds.length)
    (h : ofDigitChars 10 cs 0 = ofDigitChars 10 ds 0) : cs = ds := by
  induction cs generalizing ds with
  | nil => exact (List.eq_nil_of_length_eq_zero hlength.symm).symm
  | cons c cs ih =>
    cases ds with
    | nil => cases hlength
    | cons d ds =>
      have hlength' : cs.length = ds.length := Nat.succ.inj hlength
      have hcs' : ∀ c ∈ cs, c.isDigit := fun x hx => hcs x (List.mem_cons_of_mem _ hx)
      have hds' : ∀ d ∈ ds, d.isDigit := fun x hx => hds x (List.mem_cons_of_mem _ hx)
      rw [ofDigitChars_cons_eq, ofDigitChars_cons_eq, hlength'] at h
      -- The two first digits are the quotients by the same power of ten.
      have hpos : 0 < 10 ^ ds.length := Nat.pow_pos (by decide)
      have hquot := congrArg (· / 10 ^ ds.length) h
      simp only [Nat.mul_add_div hpos, Nat.div_eq_of_lt (hlength' ▸ ofDigitChars_lt hcs'),
        Nat.div_eq_of_lt (ofDigitChars_lt hds'), Nat.add_zero] at hquot
      have hc := digit_bounds (hcs c List.mem_cons_self)
      have hd := digit_bounds (hds d List.mem_cons_self)
      have hchar : c = d := Char.toNat_inj.mp (by omega)
      subst hchar
      rw [ih hcs' hds' hlength' (Nat.add_left_cancel h)]

theorem length_toDigits_ofDigitChars {cs : List Char} (hne : cs ≠ [])
    (h : ∀ c ∈ cs, c.isDigit) : (toDigits 10 (ofDigitChars 10 cs 0)).length ≤ cs.length :=
  (Nat.length_toDigits_le_iff (by decide) (List.length_pos_iff.mpr hne)).mpr (ofDigitChars_lt h)

theorem padZeros_toDigits (hne : cs ≠ []) (h : ∀ c ∈ cs, c.isDigit) :
    padZeros cs.length (toDigits 10 (ofDigitChars 10 cs 0)) = cs := by
  refine ofDigitChars_inj (fun c hc => isDigit_of_mem_padZeros hc) h
    (length_padZeros (length_toDigits_ofDigitChars hne h)) ?_
  rw [ofDigitChars_padZeros, Nat.ofDigitChars_ten_toDigits]

theorem head_ne_zero_iff (hc : c.isDigit) (h : ∀ d ∈ cs, d.isDigit) :
    c ≠ '0' ↔ 10 ^ cs.length ≤ ofDigitChars 10 (c :: cs) 0 := by
  have hbounds := digit_bounds hc
  have hlt := ofDigitChars_lt h
  rw [ofDigitChars_cons_eq]
  constructor
  · intro hne
    have hone : 1 ≤ c.toNat - 48 := by
      have hzero : c.toNat ≠ 48 := fun h48 => hne (Char.toNat_inj.mp h48)
      omega
    have hmul := Nat.mul_le_mul_left (10 ^ cs.length) hone
    omega
  · rintro hle rfl
    have hzero : '0'.toNat - 48 = 0 := rfl
    rw [hzero, Nat.mul_zero, Nat.zero_add] at hle
    omega

end JavisSaas.Lib
