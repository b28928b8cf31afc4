/-
Module: CognitiveKernel.Proofs.Binary64.Value
Purpose: The rational numbers that double-precision numbers stand for, and the order of both.
Main exports: signed, Magnitude.value, Magnitude.value_of_fields, Binary64.value?,
  Binary64.le_iff_of_finite_left, Binary64.le_iff_of_finite_right, Binary64.inUnitInterval_iff
-/
import CognitiveKernel.Proofs.Binary64.Writing
import Mathlib.Algebra.Order.Field.Power
import Mathlib.Tactic.FieldSimp
import Mathlib.Tactic.Linarith
import Mathlib.Tactic.Ring

namespace CognitiveKernel

/-!
Comparing, clamping and printing never leave the ranks and the units of magnitudes. What they mean
is said here in terms of rational numbers: the magnitude with the fields `exponent` and `fraction`
of the interchange format is `(1 + fraction / 2 ^ 52) * 2 ^ (exponent - 1023)`, or
`fraction / 2 ^ 52 * 2 ^ (-1022)` if the exponent field is zero.
-/

/-- A size with a sign. -/
def signed (negative : Bool) (size : ℚ) : ℚ :=
  if negative then -size else size

theorem abs_signed_sub_signed (negative : Bool) (x y : ℚ) :
    |signed negative x - signed negative y| = |x - y| := by
  cases negative with
  | false => rfl
  | true =>
      rw [signed, signed, if_pos rfl, if_pos rfl, ← abs_neg]
      congr 1
      ring

theorem abs_signed_sub_signed_of_ne {negative negative' : Bool} (different : negative ≠ negative')
    {x y : ℚ} (nonneg : 0 ≤ x) (nonneg' : 0 ≤ y) :
    |signed negative x - signed negative' y| = x + y := by
  cases negative <;> cases negative'
  · exact absurd rfl different
  · rw [signed, signed, if_neg Bool.false_ne_true, if_pos rfl, abs_of_nonneg (by linarith)]
    ring
  · rw [signed, signed, if_neg Bool.false_ne_true, if_pos rfl, abs_of_nonpos (by linarith)]
    ring
  · exact absurd rfl different

theorem signed_mul_signed (negative negative' : Bool) (x y : ℚ) :
    signed negative x * signed negative' y = signed (negative != negative') (x * y) := by
  cases negative <;> cases negative' <;> simp [signed]

theorem unitsPerOne_pos : 0 < unitsPerOne := by decide +kernel

theorem cast_unitsPerOne_pos : (0 : ℚ) < unitsPerOne := Nat.cast_pos.mpr unitsPerOne_pos

namespace Magnitude

/-- The exact size of a magnitude. Infinity counts as the next power of two. -/
def value (magnitude : Magnitude) : ℚ :=
  (magnitude.units : ℚ) / unitsPerOne

/-- The size of a magnitude with the fields of the interchange format. -/
theorem value_of_fields {magnitude : Magnitude} {exponent fraction : Nat}
    (fields : magnitude.rank = exponent * ranksPerBinade + fraction)
    (short : fraction < ranksPerBinade) :
    magnitude.value =
      if exponent = 0 then (fraction : ℚ) / 2 ^ 52 * 2 ^ (-1022 : ℤ)
      else (1 + (fraction : ℚ) / 2 ^ 52) * 2 ^ ((exponent : ℤ) - 1023) := by
  have unit : (unitsPerOne : ℚ) = 2 ^ 52 * 2 ^ (1022 : ℤ) := by
    simp only [unitsPerOne, Nat.pow_eq, Nat.cast_pow, Nat.cast_ofNat, -Nat.reducePow]
    rw [← zpow_natCast, ← zpow_natCast, ← zpow_add₀ two_ne_zero]
    rfl
  rw [value, units, fields, unit]
  cases exponent with
  | zero =>
      have size := @unitsOfRank_eq 0 fraction (by omega) (Or.inl rfl)
      rw [size, if_pos rfl, zpow_neg]
      field_simp
      simp
  | succ shift =>
      have binade : (shift + 1) * ranksPerBinade + fraction =
          shift * ranksPerBinade + (ranksPerBinade + fraction) := by ring
      have size := @unitsOfRank_eq shift (ranksPerBinade + fraction) (by omega)
        (Or.inr (Nat.le_add_right _ _))
      have scale : (2 : ℚ) ^ (((shift + 1 : ℕ) : ℤ) - 1023) = 2 ^ shift / 2 ^ (1022 : ℤ) := by
        rw [← zpow_natCast, ← zpow_sub₀ two_ne_zero]
        congr 1
        push_cast
        ring
      have nonzero : (2 : ℚ) ^ (1022 : ℤ) ≠ 0 := zpow_ne_zero _ two_ne_zero
      rw [binade, size, if_neg (Nat.succ_ne_zero shift), scale, ranksPerBinade_eq_pow]
      generalize (2 : ℚ) ^ (1022 : ℤ) = top at nonzero ⊢
      push_cast
      field_simp
      norm_num

theorem value_le_value {left right : Magnitude} :
    left.value ≤ right.value ↔ left.rank ≤ right.rank := by
  rw [value, value, div_le_div_iff_of_pos_right cast_unitsPerOne_pos, Nat.cast_le]
  exact unitsOfRank_strictMono.le_iff_le

theorem value_lt_value {left right : Magnitude} :
    left.value < right.value ↔ left.rank < right.rank :=
  lt_iff_lt_of_le_iff_le value_le_value

theorem value_zero : zero.value = 0 := by
  rw [value, units, zero, unitsOfRank_zero, Nat.cast_zero, zero_div]

theorem value_nonneg (magnitude : Magnitude) : 0 ≤ magnitude.value := by
  rw [← value_zero, value_le_value]
  exact Nat.zero_le _

theorem value_pos_iff {magnitude : Magnitude} : 0 < magnitude.value ↔ 0 < magnitude.rank := by
  rw [← value_zero, value_lt_value]
  rfl

end Magnitude

namespace Binary64

/-- The rational number that a number stands for. NaN and both infinities stand for none. -/
def value? : Binary64 → Option ℚ
  | nan _ => none
  | number negative magnitude =>
      if magnitude.isFinite then some (signed negative magnitude.value) else none

theorem value?_eq_some_iff {value : Binary64} {x : ℚ} :
    value.value? = some x ↔
      ∃ negative magnitude, value = number negative magnitude ∧ magnitude.isFinite = true ∧
        signed negative magnitude.value = x := by
  cases value with
  | nan => simp [value?]
  | number negative magnitude => simp [value?]

/-- The signed ranks of numbers are ordered like their values. -/
theorem position_le_position {negative negative' : Bool} {magnitude magnitude' : Magnitude} :
    position negative magnitude ≤ position negative' magnitude' ↔
      signed negative magnitude.value ≤ signed negative' magnitude'.value := by
  have same := @Magnitude.value_le_value magnitude magnitude'
  have flipped := @Magnitude.value_le_value magnitude' magnitude
  have left := magnitude.value_nonneg
  have right := magnitude'.value_nonneg
  have leftPos := @Magnitude.value_pos_iff magnitude
  have rightPos := @Magnitude.value_pos_iff magnitude'
  cases negative <;> cases negative' <;>
    simp only [position, signed, if_true, if_false, Bool.false_eq_true]
  · rw [same]
    exact Int.ofNat_le
  · constructor
    · intro ranks
      have noLeft : ¬0 < magnitude.value := by
        rw [leftPos]
        omega
      have noRight : ¬0 < magnitude'.value := by
        rw [rightPos]
        omega
      linarith
    · intro values
      have noLeft : ¬0 < magnitude.rank := by
        rw [← leftPos]
        linarith
      have noRight : ¬0 < magnitude'.rank := by
        rw [← rightPos]
        linarith
      omega
  · exact iff_of_true (by omega) (by linarith)
  · rw [neg_le_neg_iff, neg_le_neg_iff, flipped]
    exact Int.ofNat_le

theorem le_iff_value_le {left right : Binary64} {x y : ℚ} (leftValue : left.value? = some x)
    (rightValue : right.value? = some y) : left.le right = true ↔ x ≤ y := by
  obtain ⟨negative, magnitude, rfl, -, rfl⟩ := value?_eq_some_iff.mp leftValue
  obtain ⟨negative', magnitude', rfl, -, rfl⟩ := value?_eq_some_iff.mp rightValue
  rw [le, decide_eq_true_iff]
  exact position_le_position

/-- Numbers that are equal as numbers are below the same numbers. -/
theorem lt_of_same {left right : Binary64} (same : left.same right = true)
    (bound : Binary64) : left.lt bound = right.lt bound := by
  cases left with
  | nan => cases same
  | number negative magnitude =>
      cases right with
      | nan => cases same
      | number negative' magnitude' =>
          have place := of_decide_eq_true same
          cases bound with
          | nan => rfl
          | number _ _ => rw [lt, lt, place]

/-! ### Numbers beyond all bounds -/

/-- What does not lie below is not comparable or lies at or above. -/
theorem lt_eq_false_iff {left right : Binary64} :
    left.lt right = false ↔
      left.isNaN = true ∨ right.isNaN = true ∨ right.le left = true := by
  cases left with
  | nan => simp [lt, isNaN]
  | number negative magnitude =>
      cases right with
      | nan => simp [lt, isNaN]
      | number negative' magnitude' => simp [lt, le, isNaN]

/-- Every number is NaN, one of the infinities, or stands for a rational number. -/
theorem value_cases (value : Binary64) :
    (∃ bits, value = nan bits) ∨ value = infinity ∨ value = negativeInfinity ∨
      ∃ x, value.value? = some x := by
  cases value with
  | nan bits => exact Or.inl ⟨bits, rfl⟩
  | number negative magnitude =>
      cases finite : magnitude.isFinite with
      | true => exact Or.inr (Or.inr (Or.inr ⟨_, by rw [value?, if_pos finite]⟩))
      | false =>
          rw [magnitude.eq_infinity finite]
          cases negative with
          | false => exact Or.inr (Or.inl rfl)
          | true => exact Or.inr (Or.inr (Or.inl rfl))

theorem le_infinity {value : Binary64} {x : ℚ} (finite : value.value? = some x) :
    value.le infinity = true ∧ infinity.le value = false ∧ negativeInfinity.le value = true ∧
      value.le negativeInfinity = false := by
  obtain ⟨negative, magnitude, rfl, finite, -⟩ := value?_eq_some_iff.mp finite
  have below : magnitude.rank < infinityRank := of_decide_eq_true finite
  have top : Magnitude.infinity.rank = infinityRank := rfl
  simp only [le, infinity, negativeInfinity, position, top, decide_eq_true_eq,
    decide_eq_false_iff_not]
  cases negative <;>
    simp only [if_true, if_false, Bool.false_eq_true] <;> omega

/-- What lies at or above a rational number is infinite or a rational number itself. -/
theorem le_iff_of_finite_left {bound value : Binary64} {x : ℚ} (finite : bound.value? = some x) :
    bound.le value = true ↔ value = infinity ∨ ∃ y, value.value? = some y ∧ x ≤ y := by
  obtain ⟨above, -, -, below⟩ := le_infinity finite
  rcases value.value_cases with ⟨bits, rfl⟩ | rfl | rfl | ⟨y, valueEq⟩
  · obtain ⟨negative, magnitude, rfl, -, -⟩ := value?_eq_some_iff.mp finite
    simp [le, infinity, value?]
  · exact iff_of_true above (Or.inl rfl)
  · refine iff_of_false (by simp [below]) ?_
    rintro (same | ⟨y, valueEq, -⟩)
    · cases same
    · cases valueEq
  · rw [le_iff_value_le finite valueEq, valueEq]
    constructor
    · exact fun le => Or.inr ⟨y, rfl, le⟩
    · rintro (rfl | ⟨z, same, le⟩)
      · cases valueEq
      · cases same
        exact le

/-- What lies at or below a rational number is infinite or a rational number itself. -/
theorem le_iff_of_finite_right {value bound : Binary64} {x : ℚ} (finite : bound.value? = some x) :
    value.le bound = true ↔ value = negativeInfinity ∨ ∃ y, value.value? = some y ∧ y ≤ x := by
  obtain ⟨-, above, below, -⟩ := le_infinity finite
  rcases value.value_cases with ⟨bits, rfl⟩ | rfl | rfl | ⟨y, valueEq⟩
  · simp [le, negativeInfinity, value?]
  · refine iff_of_false (by simp [above]) ?_
    rintro (same | ⟨y, valueEq, -⟩)
    · cases same
    · cases valueEq
  · exact iff_of_true below (Or.inl rfl)
  · rw [le_iff_value_le valueEq finite, valueEq]
    constructor
    · exact fun le => Or.inr ⟨y, rfl, le⟩
    · rintro (rfl | ⟨z, same, le⟩)
      · cases valueEq
      · cases same
        exact le

/-- What lies between two rational numbers is a rational number. -/
theorem between_iff {lower value upper : Binary64} {x y : ℚ} (lowerValue : lower.value? = some x)
    (upperValue : upper.value? = some y) :
    lower.le value = true ∧ value.le upper = true ↔ ∃ z, value.value? = some z ∧ x ≤ z ∧ z ≤ y := by
  rw [le_iff_of_finite_left lowerValue, le_iff_of_finite_right upperValue]
  constructor
  · rintro ⟨infinite | ⟨z, valueEq, above⟩, infinite' | ⟨z', same, below⟩⟩
    · cases infinite.symm.trans infinite'
    · rw [infinite] at same
      cases same
    · rw [infinite'] at valueEq
      cases valueEq
    · rw [valueEq] at same
      cases same
      exact ⟨z, valueEq, above, below⟩
  · rintro ⟨z, valueEq, above, below⟩
    exact ⟨Or.inr ⟨z, valueEq, above⟩, Or.inr ⟨z, valueEq, below⟩⟩

/-! ### The unit interval -/

theorem value?_zero : zero.value? = some 0 := by
  rw [zero, value?, if_pos (by decide), Magnitude.value_zero]
  rfl

theorem value?_one : one.value? = some 1 := by
  have units : Magnitude.one.units = unitsPerOne := by decide +kernel
  have size : Magnitude.one.value = 1 := by
    rw [Magnitude.value, units]
    exact div_self cast_unitsPerOne_pos.ne'
  rw [one, value?, if_pos (by decide), size]
  rfl

/-- The numbers of the unit interval stand for rational numbers of the unit interval. -/
theorem inUnitInterval_iff {value : Binary64} :
    value.inUnitInterval = true ↔ ∃ x, value.value? = some x ∧ 0 ≤ x ∧ x ≤ 1 := by
  rw [inUnitInterval, Bool.and_eq_true]
  exact between_iff value?_zero value?_one

theorem position_zero_le_position_one :
    position false Magnitude.zero ≤ position false Magnitude.one := by
  decide

/-- What clamping does with a number: it lies below, above or inside of the interval. -/
theorem clampToUnit_number (negative : Bool) (magnitude : Magnitude) :
    (position negative magnitude < position false Magnitude.zero ∧
        (number negative magnitude).clampToUnit = number false Magnitude.zero) ∨
      (position false Magnitude.one < position negative magnitude ∧
        (number negative magnitude).clampToUnit = number false Magnitude.one) ∨
      (position false Magnitude.zero ≤ position negative magnitude ∧
        position negative magnitude ≤ position false Magnitude.one ∧
        (number negative magnitude).clampToUnit = number negative magnitude) := by
  have ends := Int.not_lt.mpr position_zero_le_position_one
  simp only [clampToUnit, lt, zero, one, decide_eq_true_eq]
  by_cases below : position negative magnitude < position false Magnitude.zero
  · left
    rw [if_pos below, if_neg (by simpa only [decide_eq_true_eq] using ends)]
    exact ⟨below, rfl⟩
  · rw [if_neg below]
    by_cases above : position false Magnitude.one < position negative magnitude
    · right; left
      rw [if_pos (by simpa only [decide_eq_true_eq] using above)]
      exact ⟨above, rfl⟩
    · right; right
      rw [if_neg (by simpa only [decide_eq_true_eq] using above)]
      exact ⟨Int.not_lt.mp below, Int.not_lt.mp above, rfl⟩

/-- Clamping keeps the order. -/
theorem clampToUnit_mono {left right : Binary64} (le : left.le right = true) :
    left.clampToUnit.le right.clampToUnit = true := by
  cases left with
  | nan => cases le
  | number negative magnitude =>
      cases right with
      | nan => cases le
      | number negative' magnitude' =>
          have order : position negative magnitude ≤ position negative' magnitude' :=
            of_decide_eq_true le
          have ends := position_zero_le_position_one
          rcases clampToUnit_number negative magnitude with
              ⟨_, clamped⟩ | ⟨_, clamped⟩ | ⟨_, _, clamped⟩ <;>
            rcases clampToUnit_number negative' magnitude' with
              ⟨_, clamped'⟩ | ⟨_, clamped'⟩ | ⟨_, _, clamped'⟩ <;>
            rw [clamped, clamped'] <;> simp only [Binary64.le, decide_eq_true_eq] <;> omega

end Binary64

end CognitiveKernel
