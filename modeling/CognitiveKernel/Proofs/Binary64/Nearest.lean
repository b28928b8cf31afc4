/-
Module: CognitiveKernel.Proofs.Binary64.Nearest
Purpose: Rounding a quotient to the nearest rank: what it depends on, and which quotients round to a
  given rank.
Main exports: RoundsTo, nearestRank_eq_of_roundsTo, roundsTo_nearestRank, nearestRank_congr,
  nearestRank_mono, le_nearestRank
-/
import CognitiveKernel.Binary64.Rounding
import CognitiveKernel.Proofs.Binary64.Ranks

namespace CognitiveKernel

/-- The quotient lies between the middles of the steps below and above a rank. The middles belong
to the even rank. -/
structure RoundsTo (rank numerator denominator : Nat) : Prop where
  lower : (unitsOfRank (rank - 1) + unitsOfRank rank) * denominator ≤ 2 * numerator
  upper : 2 * numerator ≤ (unitsOfRank rank + unitsOfRank (rank + 1)) * denominator
  lower_ne : rank % 2 = 1 →
    (unitsOfRank (rank - 1) + unitsOfRank rank) * denominator ≠ 2 * numerator
  upper_ne : rank % 2 = 1 →
    2 * numerator ≠ (unitsOfRank rank + unitsOfRank (rank + 1)) * denominator

section

variable {numerator denominator : Nat}

theorem rankOfUnits_div_le : unitsOfRank (rankOfUnits (numerator / denominator)) * denominator ≤
    numerator :=
  Nat.le_trans (Nat.mul_le_mul_right denominator (unitsOfRank_rankOfUnits_le _))
    (Nat.div_mul_le_self numerator denominator)

theorem lt_rankOfUnits_div_succ (positive : 0 < denominator) :
    numerator < unitsOfRank (rankOfUnits (numerator / denominator) + 1) * denominator := by
  rw [← Nat.div_lt_iff_lt_mul positive]
  exact lt_unitsOfRank_rankOfUnits_succ _

/-- The last magnitude that does not exceed a quotient, compared with an arbitrary one. -/
theorem le_rankOfUnits_div_iff (positive : 0 < denominator) {rank : Nat} :
    rank ≤ rankOfUnits (numerator / denominator) ↔ unitsOfRank rank * denominator ≤ numerator := by
  constructor
  · intro le
    have units : unitsOfRank rank ≤ unitsOfRank (rankOfUnits (numerator / denominator)) :=
      unitsOfRank_strictMono.monotone le
    exact Nat.le_trans (Nat.mul_le_mul_right denominator units) rankOfUnits_div_le
  · intro le
    have below := Nat.lt_of_le_of_lt le (lt_rankOfUnits_div_succ positive)
    have units := Nat.lt_of_mul_lt_mul_right below
    exact Nat.lt_succ_iff.mp (unitsOfRank_strictMono.lt_iff_lt.mp units)

theorem nearestRank_eq_of_roundsTo {rank : Nat} (positive : 0 < denominator)
    (rounds : RoundsTo rank numerator denominator) :
    nearestRank numerator denominator = rank := by
  obtain ⟨lower, upper, lowerNe, upperNe⟩ := rounds
  have notAbove : rankOfUnits (numerator / denominator) ≤ rank := by
    have step := Nat.mul_lt_mul_of_pos_right (unitsOfRank_lt_succ rank) positive
    rw [Nat.add_mul] at upper
    by_contra above
    have reached := (le_rankOfUnits_div_iff positive).mp (Nat.lt_of_not_le above)
    rw [Nat.succ_eq_add_one] at reached
    omega
  have notBelow : rank - 1 ≤ rankOfUnits (numerator / denominator) := by
    rw [le_rankOfUnits_div_iff positive]
    have step := Nat.mul_le_mul_right denominator
      (unitsOfRank_strictMono.monotone (Nat.sub_le rank 1))
    rw [Nat.add_mul] at lower
    omega
  rcases Nat.eq_or_lt_of_le notAbove with same | less
  · -- The quotient does not lie below the magnitude: it is rounded down.
    simp only [nearestRank, same]
    split
    · rfl
    · split <;> omega
  · -- It lies below, so in the step that ends with the magnitude: it is rounded up.
    have before : rankOfUnits (numerator / denominator) = rank - 1 := by omega
    have next : rank - 1 + 1 = rank := by omega
    simp only [nearestRank, before, next]
    split
    · omega
    · split <;> omega

/-- Above a rank, up to the middle of the step that begins there, a quotient rounds down to it. -/
theorem roundsTo_of_le_middle {rank : Nat} (positive : 0 < denominator)
    (reached : unitsOfRank rank * denominator ≤ numerator)
    (notAbove : 2 * numerator ≤ (unitsOfRank rank + unitsOfRank (rank + 1)) * denominator)
    (exact : rank % 2 = 1 →
      2 * numerator ≠ (unitsOfRank rank + unitsOfRank (rank + 1)) * denominator) :
    RoundsTo rank numerator denominator := by
  have before := Nat.mul_le_mul_right denominator
    (unitsOfRank_strictMono.monotone (Nat.sub_le rank 1))
  refine ⟨?_, notAbove, fun odd => ?_, exact⟩
  · rw [Nat.add_mul]
    omega
  · have strictlyBefore : unitsOfRank (rank - 1) * denominator < unitsOfRank rank * denominator :=
      Nat.mul_lt_mul_of_pos_right (unitsOfRank_strictMono (by omega)) positive
    rw [Nat.add_mul]
    omega

/-- Below a rank, down to the middle of the step that ends there, a quotient rounds up to it. -/
theorem roundsTo_of_middle_le {rank : Nat} (positive : 0 < denominator)
    (below : numerator < unitsOfRank (rank + 1) * denominator)
    (notBelow : (unitsOfRank rank + unitsOfRank (rank + 1)) * denominator ≤ 2 * numerator)
    (exact : rank % 2 = 0 →
      (unitsOfRank rank + unitsOfRank (rank + 1)) * denominator ≠ 2 * numerator) :
    RoundsTo (rank + 1) numerator denominator := by
  have beyond := Nat.mul_lt_mul_of_pos_right (unitsOfRank_lt_succ (rank + 1)) positive
  constructor
  · rwa [Nat.add_sub_cancel]
  · rw [Nat.add_mul]
    omega
  · intro odd
    rw [Nat.add_sub_cancel]
    exact exact (by omega)
  · intro _
    rw [Nat.add_mul]
    omega

theorem roundsTo_nearestRank (positive : 0 < denominator) :
    RoundsTo (nearestRank numerator denominator) numerator denominator := by
  have reached : unitsOfRank (rankOfUnits (numerator / denominator)) * denominator ≤ numerator :=
    rankOfUnits_div_le
  have below := @lt_rankOfUnits_div_succ numerator denominator positive
  simp only [nearestRank]
  generalize rankOfUnits (numerator / denominator) = rank at reached below ⊢
  split
  · exact roundsTo_of_le_middle positive reached (by omega) (by omega)
  · split
    · exact roundsTo_of_middle_le positive below (by omega) (by omega)
    · -- The quotient is the middle of a step, so the even end of the step is taken.
      rcases Nat.mod_two_eq_zero_or_one rank with even | odd
      · rw [even, Nat.add_zero]
        exact roundsTo_of_le_middle positive reached (by omega) (by omega)
      · rw [odd]
        exact roundsTo_of_middle_le positive below (by omega) (by omega)

/-- Rounding depends on the quotient alone. -/
theorem nearestRank_congr {numerator' denominator' : Nat} (positive : 0 < denominator)
    (positive' : 0 < denominator')
    (cross : numerator * denominator' = numerator' * denominator) :
    nearestRank numerator denominator = nearestRank numerator' denominator' := by
  have floors : numerator / denominator = numerator' / denominator' := by
    rw [← Nat.mul_div_mul_right numerator denominator positive', cross,
      Nat.mul_comm denominator denominator', Nat.mul_div_mul_right _ _ positive]
  have compare (middle : Nat) :
      (2 * numerator < middle * denominator ↔ 2 * numerator' < middle * denominator') ∧
        (middle * denominator < 2 * numerator ↔ middle * denominator' < 2 * numerator') := by
    have doubled : 2 * numerator * denominator' = 2 * numerator' * denominator := by
      rw [Nat.mul_assoc, cross, Nat.mul_assoc]
    have middles : middle * denominator * denominator' = middle * denominator' * denominator :=
      Nat.mul_right_comm middle denominator denominator'
    constructor
    · rw [← Nat.mul_lt_mul_right positive', doubled, middles, Nat.mul_lt_mul_right positive]
    · rw [← Nat.mul_lt_mul_right positive', doubled, middles, Nat.mul_lt_mul_right positive]
  simp only [nearestRank, floors, compare]

/-- Rounding keeps the order. -/
theorem nearestRank_mono {numerator' : Nat} (positive : 0 < denominator)
    (le : numerator ≤ numerator') :
    nearestRank numerator denominator ≤ nearestRank numerator' denominator := by
  by_contra above
  have rounds := @roundsTo_nearestRank numerator denominator positive
  have rounds' := @roundsTo_nearestRank numerator' denominator positive
  generalize left : nearestRank numerator denominator = rank at above rounds
  generalize right : nearestRank numerator' denominator = rank' at above rounds'
  -- Both quotients would lie in the middle of the same step, and so be equal.
  have middles : (unitsOfRank rank' + unitsOfRank (rank' + 1)) * denominator ≤
      (unitsOfRank (rank - 1) + unitsOfRank rank) * denominator := by
    apply Nat.mul_le_mul_right
    apply Nat.add_le_add
    · exact unitsOfRank_strictMono.monotone (by omega)
    · exact unitsOfRank_strictMono.monotone (by omega)
  have lower := rounds.lower
  have upper := rounds'.upper
  have same : numerator = numerator' := by omega
  subst same
  omega

/-- A quotient that reaches a magnitude is not rounded below it. -/
theorem le_nearestRank (positive : 0 < denominator) {rank : Nat}
    (reached : unitsOfRank rank * denominator ≤ numerator) :
    rank ≤ nearestRank numerator denominator := by
  have below := (le_rankOfUnits_div_iff positive).mpr reached
  simp only [nearestRank]
  split
  · exact below
  · split <;> omega

/-- A quotient below half a unit is rounded to zero. -/
theorem nearestRank_eq_zero (small : 2 * numerator < denominator) :
    nearestRank numerator denominator = 0 := by
  have positive : 0 < denominator := by omega
  refine nearestRank_eq_of_roundsTo positive ⟨?_, ?_, nofun, nofun⟩
  · rw [Nat.zero_sub, unitsOfRank_zero]
    omega
  · have firstUnits : unitsOfRank 0 + unitsOfRank (0 + 1) = 1 := by decide
    rw [firstUnits]
    omega

end

end CognitiveKernel
