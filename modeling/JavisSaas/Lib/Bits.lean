import Mathlib.Data.Int.Bitwise
import Mathlib.Tactic.Ring
import Mathlib.Tactic.Linarith

/-!
# Bit fields of unbounded integers

JavaScript's `BigInt` operators on two's complement integers of any size, as arithmetic.

* `lor_eq_add`: packing a field is addition.
* `land_two_pow_sub_one`: masking is the remainder.
* `shiftRight_eq_ediv`: dropping the low bits is the quotient.
-/

namespace JavisSaas.Lib

theorem lor_zero (m : ℤ) : Int.lor m 0 = m := by
  cases m with
  | ofNat => simp [Int.lor]
  | negSucc m =>
    have : Nat.ldiff m 0 = m := Nat.eq_of_testBit_eq fun i => by simp [Nat.testBit_ldiff]
    simp [Int.lor, this]

theorem land_zero (m : ℤ) : Int.land m 0 = 0 := by
  cases m with
  | ofNat => simp [Int.land]
  | negSucc m =>
    have : Nat.ldiff 0 m = 0 := Nat.eq_of_testBit_eq fun i => by simp [Nat.testBit_ldiff]
    simp [Int.land, this]

theorem exists_bit (x : ℤ) : ∃ b d, x = Int.bit b d :=
  ⟨Int.bodd x, Int.div2 x, (Int.bit_decomp x).symm⟩

/-- A multiple of `2 ^ n` and a value below `2 ^ n` have no bit in common. -/
theorem lor_eq_add (n : ℕ) (x y : ℤ) (h0 : 0 ≤ y) (hn : y < 2 ^ n) :
    Int.lor (x * 2 ^ n) y = x * 2 ^ n + y := by
  induction n generalizing x y with
  | zero =>
    have : y = 0 := by omega
    subst this
    simp [lor_zero]
  | succ n ih =>
    -- split off the lowest bit of both
    obtain ⟨b, d, rfl⟩ := exists_bit y
    have hx : x * 2 ^ (n + 1) = Int.bit false (x * 2 ^ n) := by
      rw [Int.bit_val, cond_false]; ring
    have hpow : (2 : ℤ) ^ (n + 1) = 2 * 2 ^ n := by ring
    rw [Int.bit_val] at h0 hn
    have hbit : 0 ≤ cond b (1 : ℤ) 0 ∧ cond b (1 : ℤ) 0 ≤ 1 := by cases b <;> simp
    rw [hx, Int.lor_bit, ih x d (by omega) (by omega), Bool.false_or]
    simp only [Int.bit_val, cond_false]
    ring

/-- The mask of the `n` lowest bits. -/
theorem land_two_pow_sub_one (n : ℕ) (x : ℤ) : Int.land x (2 ^ n - 1) = x % 2 ^ n := by
  induction n generalizing x with
  | zero => simp [land_zero]
  | succ n ih =>
    obtain ⟨b, d, rfl⟩ := exists_bit x
    have hm : (2 : ℤ) ^ (n + 1) - 1 = Int.bit true (2 ^ n - 1) := by
      rw [Int.bit_val, cond_true]; ring
    have hpow : (2 : ℤ) ^ (n + 1) = 2 * 2 ^ n := by ring
    have hpos : (0 : ℤ) < 2 ^ n := by positivity
    have hlo : 0 ≤ d % 2 ^ n := Int.emod_nonneg _ hpos.ne'
    have hhi : d % 2 ^ n < 2 ^ n := Int.emod_lt_of_pos _ hpos
    have hq : 2 ^ n * (d / 2 ^ n) + d % 2 ^ n = d := Int.mul_ediv_add_emod _ _
    have hbit : 0 ≤ cond b (1 : ℤ) 0 ∧ cond b (1 : ℤ) 0 ≤ 1 := by cases b <;> simp
    have hsum : 2 * d + cond b 1 0 =
        2 * (d % 2 ^ n) + cond b 1 0 + 2 ^ (n + 1) * (d / 2 ^ n) := by
      conv_lhs => rw [← hq]
      ring
    rw [hm, Int.land_bit, ih, Bool.and_true, Int.bit_val, Int.bit_val, hsum,
      Int.add_mul_emod_self_left]
    exact (Int.emod_eq_of_lt (by omega) (by omega)).symm

theorem shiftRight_eq_ediv (x : ℤ) (n : ℕ) : x >>> (n : ℤ) = x / 2 ^ n := by
  rw [Int.shiftRight_natCast_right, Int.shiftRight_eq_div_pow]
  norm_cast

end JavisSaas.Lib
