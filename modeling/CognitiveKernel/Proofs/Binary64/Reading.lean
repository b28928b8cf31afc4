/-
Module: CognitiveKernel.Proofs.Binary64.Reading
Purpose: Reading decimal numbers is rounding their exact value, and the shortest decimal number of a
  magnitude reads back.
Main exports: Magnitude.ofDecimal_eq_nearest, Magnitude.ofDecimal_congr,
  Magnitude.ofDecimal_shortest
-/
import CognitiveKernel.Binary64.Reading
import CognitiveKernel.Binary64.Shortest
import CognitiveKernel.Proofs.Binary64.Nearest
import CognitiveKernel.Proofs.Decimal.Value

namespace CognitiveKernel.Magnitude

open Decimal (digits lt_pow_length_digits pow_length_digits_le)

theorem nearest_of_roundsTo {magnitude : Magnitude} {numerator denominator : Nat}
    (positive : 0 < denominator) (rounds : RoundsTo magnitude.rank numerator denominator) :
    nearest numerator denominator = magnitude := by
  have rank := nearestRank_eq_of_roundsTo positive rounds
  cases magnitude with
  | mk rank' bound =>
      simp only [nearest, ofRank, rank, Nat.min_eq_left bound]

/-! ### Numbers that are decided by their size -/

theorem two_mul_unitsPerOne_le : 2 * unitsPerOne ≤ 10 ^ 330 := by decide +kernel

theorem unitsOfRank_infinityRank_le : unitsOfRank infinityRank ≤ unitsPerOne * 10 ^ 309 := by
  decide +kernel

theorem lt_pow_of_size_lt {coefficient : Nat} {exponent : Int}
    (tiny : coefficient = 0 ∨ ((digits coefficient).length : Int) + exponent < -330) :
    2 * (coefficient * unitsPerOne * 10 ^ exponent.toNat) < 10 ^ (-exponent).toNat := by
  rcases tiny with rfl | tiny
  · rw [Nat.zero_mul, Nat.zero_mul, Nat.mul_zero]
    exact Nat.pow_pos (by decide)
  · have noPositivePart : exponent.toNat = 0 := by omega
    have room : (digits coefficient).length + 330 ≤ (-exponent).toNat := by omega
    have unitSize := two_mul_unitsPerOne_le
    generalize unitsPerOne = unit, 330 = bound at room unitSize ⊢
    calc
      2 * (coefficient * unit * 10 ^ exponent.toNat) = coefficient * (2 * unit) := by
          rw [noPositivePart]
          ring
      _ ≤ coefficient * 10 ^ bound := Nat.mul_le_mul_left _ unitSize
      _ < 10 ^ (digits coefficient).length * 10 ^ bound :=
          Nat.mul_lt_mul_of_pos_right (lt_pow_length_digits coefficient)
            (Nat.pow_pos (by decide))
      _ = 10 ^ ((digits coefficient).length + bound) := (Nat.pow_add _ _ _).symm
      _ ≤ 10 ^ (-exponent).toNat := Nat.pow_le_pow_right (by decide) room

theorem le_of_lt_size {coefficient : Nat} {exponent : Int} (nonzero : coefficient ≠ 0)
    (huge : 310 < ((digits coefficient).length : Int) + exponent) :
    unitsOfRank infinityRank * 10 ^ (-exponent).toNat ≤
      coefficient * unitsPerOne * 10 ^ exponent.toNat := by
  have room : 309 + 1 + (-exponent).toNat ≤ (digits coefficient).length + exponent.toNat := by
    omega
  have tenfold :
      unitsPerOne * 10 ^ 309 * 10 ^ (-exponent).toNat * 10 ≤
        coefficient * unitsPerOne * 10 ^ exponent.toNat * 10 := by
    generalize unitsPerOne = unit, 309 = bound at room ⊢
    calc
      unit * 10 ^ bound * 10 ^ (-exponent).toNat * 10 =
          unit * 10 ^ (bound + 1 + (-exponent).toNat) := by ring
      _ ≤ unit * 10 ^ ((digits coefficient).length + exponent.toNat) :=
          Nat.mul_le_mul_left _ (Nat.pow_le_pow_right (by decide) room)
      _ = unit * 10 ^ exponent.toNat * 10 ^ (digits coefficient).length := by ring
      _ ≤ unit * 10 ^ exponent.toNat * (10 * coefficient) :=
          Nat.mul_le_mul_left _ (pow_length_digits_le nonzero)
      _ = coefficient * unit * 10 ^ exponent.toNat * 10 := by ring
  have infinite := Nat.mul_le_mul_right (10 ^ (-exponent).toNat) unitsOfRank_infinityRank_le
  exact Nat.le_trans infinite (Nat.le_of_mul_le_mul_right tenfold (by decide))

/-- The cases that are decided by the number of digits agree with rounding the exact value. -/
theorem ofDecimal_eq_nearest (decimal : Decimal) :
    ofDecimal decimal =
      nearest (decimal.coefficient * unitsPerOne * 10 ^ decimal.exponent.toNat)
        (10 ^ (-decimal.exponent).toNat) := by
  obtain ⟨coefficient, exponent⟩ := decimal
  have positive : 0 < 10 ^ (-exponent).toNat := Nat.pow_pos (by decide)
  simp only [ofDecimal]
  by_cases tiny : coefficient = 0 ∨ ((digits coefficient).length : Int) + exponent < -330
  · rw [if_pos tiny, nearest, nearestRank_eq_zero (lt_pow_of_size_lt tiny)]
    rfl
  · rw [if_neg tiny]
    by_cases huge : 310 < ((digits coefficient).length : Int) + exponent
    · have nonzero : coefficient ≠ 0 := fun zero => tiny (Or.inl zero)
      have rank := le_nearestRank positive (le_of_lt_size nonzero huge)
      rw [if_pos huge, nearest, ofRank]
      simp only [Nat.min_eq_right rank]
      rfl
    · rw [if_neg huge]
      rfl

theorem nearest_congr {numerator denominator numerator' denominator' : Nat}
    (positive : 0 < denominator) (positive' : 0 < denominator')
    (cross : numerator * denominator' = numerator' * denominator) :
    nearest numerator denominator = nearest numerator' denominator' := by
  rw [nearest, nearest, nearestRank_congr positive positive' cross]

/-- Reading depends on the number alone. -/
theorem ofDecimal_congr {left right : Decimal} (h : left.value = right.value) :
    ofDecimal left = ofDecimal right := by
  have cross := Decimal.cross_of_value_eq h
  rw [ofDecimal_eq_nearest, ofDecimal_eq_nearest]
  generalize unitsPerOne = unit
  refine nearest_congr (Nat.pow_pos (by decide)) (Nat.pow_pos (by decide)) ?_
  calc
    left.coefficient * unit * 10 ^ left.exponent.toNat * 10 ^ (-right.exponent).toNat =
        unit * (left.coefficient * 10 ^ left.exponent.toNat * 10 ^ (-right.exponent).toNat) := by
      ring
    _ = unit * (right.coefficient * 10 ^ right.exponent.toNat *
          10 ^ (-left.exponent).toNat) := by rw [cross]
    _ = right.coefficient * unit * 10 ^ right.exponent.toNat * 10 ^ (-left.exponent).toNat := by
      ring

/-! ### The shortest decimal number -/

/-- The middles that `contains` compares with are those of rounding. -/
theorem roundsTo_of_contains {magnitude : Magnitude} {coefficient numerator denominator : Nat}
    (h : magnitude.contains coefficient numerator denominator = true) :
    RoundsTo magnitude.rank (coefficient * numerator) denominator := by
  simp only [contains, units, Nat.mul_assoc 2] at h
  split at h
  · simp only [Bool.and_eq_true, decide_eq_true_eq] at h
    exact ⟨h.1, h.2, by omega, by omega⟩
  · simp only [Bool.and_eq_true, decide_eq_true_eq] at h
    exact ⟨Nat.le_of_lt h.1, Nat.le_of_lt h.2, fun _ => Nat.ne_of_lt h.1,
      fun _ => Nat.ne_of_lt h.2⟩

theorem contains_either {magnitude : Magnitude} {below above numerator denominator : Nat}
    (both : (magnitude.contains below numerator denominator &&
      magnitude.contains above numerator denominator) = true) (takeAbove : Bool) :
    magnitude.contains (if takeAbove then above else below) numerator denominator = true := by
  rw [Bool.and_eq_true] at both
  cases takeAbove with
  | false => exact both.1
  | true => exact both.2

theorem contains_of_candidate? {tie : Decimal.Tie} {magnitude : Magnitude} {exponent : Int}
    {decimal : Decimal} (h : magnitude.candidate? tie exponent = some decimal) :
    decimal.exponent = exponent ∧
      magnitude.contains decimal.coefficient (Nat.pow 10 exponent.toNat * unitsPerOne)
        (Nat.pow 10 (-exponent).toNat) = true := by
  simp only [candidate?] at h
  generalize unitsPerOne = unit at h ⊢
  split at h
  · rename_i both
    cases h
    exact ⟨rfl, contains_either both _⟩
  · split at h
    · cases h
      exact ⟨rfl, by assumption⟩
    · split at h
      · cases h
        exact ⟨rfl, by assumption⟩
      · cases h

theorem ofDecimal_candidate? {tie : Decimal.Tie} {magnitude : Magnitude} {exponent : Int}
    {decimal : Decimal} (h : magnitude.candidate? tie exponent = some decimal) :
    ofDecimal decimal = magnitude := by
  obtain ⟨rfl, contained⟩ := contains_of_candidate? h
  have rounds := roundsTo_of_contains contained
  simp only [Nat.pow_eq] at rounds
  rw [ofDecimal_eq_nearest, Nat.mul_assoc, Nat.mul_comm unitsPerOne]
  exact nearest_of_roundsTo (Nat.pow_pos (by decide)) rounds

theorem roundsTo_self (rank : Nat) : RoundsTo rank (unitsOfRank rank) 1 := by
  have below := unitsOfRank_strictMono.monotone (Nat.sub_le rank 1)
  have above := unitsOfRank_lt_succ rank
  refine ⟨by omega, by omega, fun odd => ?_, fun _ => by omega⟩
  have strictlyBelow : unitsOfRank (rank - 1) < unitsOfRank rank :=
    unitsOfRank_strictMono (by omega)
  omega

theorem ofDecimal_exactDecimal (magnitude : Magnitude) :
    ofDecimal magnitude.exactDecimal = magnitude := by
  have ten (exponent : Nat) : 10 ^ exponent = 5 ^ exponent * 2 ^ exponent :=
    Nat.mul_pow 5 2 exponent
  have exact := nearest_of_roundsTo Nat.one_pos (roundsTo_self magnitude.rank)
  rw [ofDecimal_eq_nearest]
  refine (nearest_congr (Nat.pow_pos (by decide)) Nat.one_pos ?_).trans exact
  have noPositivePart : (-1074 : Int).toNat = 0 := rfl
  have negativePart : (-(-1074 : Int)).toNat = 1074 := rfl
  simp only [exactDecimal, units, unitsPerOne, noPositivePart, negativePart, ten, Nat.pow_eq,
    Nat.pow_zero, Nat.mul_one, Nat.mul_assoc, -Nat.reducePow]

/-- The shortest decimal number of a magnitude reads back as the magnitude. -/
theorem ofDecimal_shortest (tie : Decimal.Tie) (magnitude : Magnitude) :
    ofDecimal (magnitude.shortest tie) = magnitude := by
  simp only [shortest]
  rw [ofDecimal_congr (Decimal.value_dropTrailingZeros _)]
  cases found : (List.range 17).findSome? fun (more : Nat) =>
      magnitude.candidate? tie (magnitude.decimalPoint - (more : Int) - 1) with
  | none => exact magnitude.ofDecimal_exactDecimal
  | some decimal =>
      obtain ⟨more, _, candidate⟩ := List.exists_of_findSome?_eq_some found
      exact ofDecimal_candidate? candidate

end CognitiveKernel.Magnitude
