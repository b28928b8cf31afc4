/-
Module: CognitiveKernel.Proofs.Binary64.Ranks
Purpose: Ranks and units of magnitudes determine each other.
Main exports: unitsOfRank_strictMono, unitsOfRank_rankOfUnits_le, lt_unitsOfRank_rankOfUnits_succ
-/
import CognitiveKernel.Binary64.Basic
import Mathlib.Algebra.Order.Ring.Nat
import Mathlib.Order.Monotone.Basic

namespace CognitiveKernel

/-!
A rank is split into `shift` whole binades and a significand `digits`. From the second binade on,
the significand fills its binade; before that there is no shift. In this form the units are a
significand times a power of two, and the last significand of a binade may also be written as the
end of it, so going to the next rank adds one to the significand.
-/

theorem ranksPerBinade_eq : ranksPerBinade = 4503599627370496 := by decide

theorem ranksPerBinade_eq_pow : ranksPerBinade = 2 ^ 52 := rfl

theorem unitsOfRank_eq {shift digits : Nat} (top : digits ≤ 2 * ranksPerBinade)
    (normal : shift = 0 ∨ ranksPerBinade ≤ digits) :
    unitsOfRank (shift * ranksPerBinade + digits) = digits * 2 ^ shift := by
  rw [ranksPerBinade_eq] at top normal
  by_cases full : digits = 2 * 4503599627370496
  · have binade :
        (shift * ranksPerBinade + digits) / ranksPerBinade - 1 = shift + 1 := by
      rw [ranksPerBinade_eq]
      omega
    have rest : shift * ranksPerBinade + digits - (shift + 1) * ranksPerBinade =
        4503599627370496 := by
      rw [ranksPerBinade_eq]
      omega
    rw [unitsOfRank, binade, rest, full, Nat.pow_eq, Nat.pow_succ]
    omega
  · have binade : (shift * ranksPerBinade + digits) / ranksPerBinade - 1 = shift := by
      rw [ranksPerBinade_eq]
      omega
    rw [unitsOfRank, binade, Nat.add_sub_cancel_left, Nat.pow_eq]

theorem exists_shift_digits (rank : Nat) :
    ∃ shift digits, rank = shift * ranksPerBinade + digits ∧ digits < 2 * ranksPerBinade ∧
      (shift = 0 ∨ ranksPerBinade ≤ digits) := by
  refine ⟨rank / ranksPerBinade - 1, rank - (rank / ranksPerBinade - 1) * ranksPerBinade, ?_⟩
  rw [ranksPerBinade_eq]
  omega

theorem unitsOfRank_lt_succ (rank : Nat) : unitsOfRank rank < unitsOfRank (rank + 1) := by
  obtain ⟨shift, digits, rfl, top, normal⟩ := exists_shift_digits rank
  have normalSucc : shift = 0 ∨ ranksPerBinade ≤ digits + 1 := by omega
  rw [Nat.add_assoc, unitsOfRank_eq (Nat.le_of_lt top) normal, unitsOfRank_eq top normalSucc]
  exact Nat.mul_lt_mul_of_pos_right (Nat.lt_succ_self digits) (Nat.two_pow_pos shift)

/-- Magnitudes are numbered in increasing order. -/
theorem unitsOfRank_strictMono : StrictMono unitsOfRank :=
  strictMono_nat_of_lt_succ unitsOfRank_lt_succ

theorem unitsOfRank_zero : unitsOfRank 0 = 0 := by decide

/-- The significand that `rankOfUnits` finds: it fills its binade and no more. -/
theorem div_pow_log2_bounds (units : Nat) :
    units / 2 ^ (Nat.log2 units - 52) < 2 * ranksPerBinade ∧
      (Nat.log2 units - 52 = 0 ∨ ranksPerBinade ≤ units / 2 ^ (Nat.log2 units - 52)) := by
  have below : units < 2 ^ (Nat.log2 units + 1) := Nat.lt_log2_self
  constructor
  · rw [Nat.div_lt_iff_lt_mul (Nat.two_pow_pos _), ranksPerBinade_eq_pow, ← Nat.pow_succ',
      ← Nat.pow_add]
    exact Nat.lt_of_lt_of_le below (Nat.pow_le_pow_right (by decide) (by omega))
  · by_cases small : Nat.log2 units ≤ 52
    · left
      omega
    · right
      have nonzero : units ≠ 0 := by
        rintro rfl
        exact small (by decide)
      rw [Nat.le_div_iff_mul_le (Nat.two_pow_pos _), ranksPerBinade_eq_pow, ← Nat.pow_add,
        Nat.add_sub_cancel' (by omega)]
      exact Nat.log2_self_le nonzero

theorem unitsOfRank_rankOfUnits_le (units : Nat) : unitsOfRank (rankOfUnits units) ≤ units := by
  obtain ⟨top, normal⟩ := div_pow_log2_bounds units
  rw [rankOfUnits, Nat.pow_eq, unitsOfRank_eq (Nat.le_of_lt top) normal]
  exact Nat.div_mul_le_self units _

theorem lt_unitsOfRank_rankOfUnits_succ (units : Nat) :
    units < unitsOfRank (rankOfUnits units + 1) := by
  obtain ⟨top, normal⟩ := div_pow_log2_bounds units
  have normalSucc : Nat.log2 units - 52 = 0 ∨
      ranksPerBinade ≤ units / 2 ^ (Nat.log2 units - 52) + 1 := by omega
  rw [rankOfUnits, Nat.pow_eq, Nat.add_assoc, unitsOfRank_eq top normalSucc]
  exact (Nat.div_lt_iff_lt_mul (Nat.two_pow_pos _)).mp (Nat.lt_succ_self _)

end CognitiveKernel
