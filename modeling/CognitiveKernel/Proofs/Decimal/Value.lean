/-
Module: CognitiveKernel.Proofs.Decimal.Value
Purpose: The rational number that a decimal number stands for, and the size of rows of digits.
Main exports: Decimal.value, Decimal.cross_of_value_eq, Decimal.lt_pow_length_digits
-/
import CognitiveKernel.Decimal.Numeral
import Mathlib.Data.Rat.Cast.Order
import Mathlib.Tactic.Ring

namespace CognitiveKernel.Decimal

def value (decimal : Decimal) : ℚ :=
  decimal.coefficient * (10 : ℚ) ^ decimal.exponent

/-- The exponent is split into its positive and its negative part. -/
theorem value_mul_pow (decimal : Decimal) :
    decimal.value * (10 : ℚ) ^ (-decimal.exponent).toNat =
      decimal.coefficient * (10 : ℚ) ^ decimal.exponent.toNat := by
  rw [value, mul_assoc, ← zpow_natCast, ← zpow_natCast, ← zpow_add₀ (by norm_num)]
  congr 2
  omega

theorem cross_of_value_eq {left right : Decimal} (h : left.value = right.value) :
    left.coefficient * 10 ^ left.exponent.toNat * 10 ^ (-right.exponent).toNat =
      right.coefficient * 10 ^ right.exponent.toNat * 10 ^ (-left.exponent).toNat := by
  have rational :
      (left.coefficient * (10 : ℚ) ^ left.exponent.toNat) * 10 ^ (-right.exponent).toNat =
        (right.coefficient * 10 ^ right.exponent.toNat) * 10 ^ (-left.exponent).toNat := by
    rw [← value_mul_pow, ← value_mul_pow, h]
    ring
  exact_mod_cast rational

/-- Powers of ten may move from the coefficient to the exponent. -/
theorem value_shift (coefficient zeros : Nat) (exponent : Int) :
    value ⟨coefficient * 10 ^ zeros, exponent⟩ = value ⟨coefficient, exponent + zeros⟩ := by
  simp only [value, Nat.cast_mul, Nat.cast_pow, Nat.cast_ofNat]
  rw [zpow_add₀ (by norm_num), zpow_natCast]
  ring

/-- Dropping trailing zeros does not change the number. -/
theorem value_dropTrailingZeros (decimal : Decimal) :
    value ⟨(dropTrailingZeros decimal.coefficient).1,
        decimal.exponent + (dropTrailingZeros decimal.coefficient).2⟩ = decimal.value := by
  have product := dropTrailingZeros_eq decimal.coefficient
  rw [Nat.pow_eq] at product
  rw [← value_shift, product]

/-! ### Rows of digits -/

theorem lt_pow_length_digits (number : Nat) : number < 10 ^ (digits number).length := by
  induction number using digits.induct with
  | case1 number small =>
      rw [digits, if_pos small]
      simpa using small
  | case2 number large ih =>
      rw [digits, if_neg large, List.length_append, List.length_singleton, Nat.pow_succ]
      omega

theorem pow_length_digits_le {number : Nat} (nonzero : number ≠ 0) :
    10 ^ (digits number).length ≤ 10 * number := by
  induction number using digits.induct with
  | case1 number small =>
      rw [digits, if_pos small]
      simp only [List.length_singleton, Nat.pow_one]
      omega
  | case2 number large ih =>
      have shorter := ih (by omega)
      rw [digits, if_neg large, List.length_append, List.length_singleton, Nat.pow_succ]
      omega

end CognitiveKernel.Decimal
