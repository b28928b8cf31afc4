/-
Module: CognitiveKernel.Binary64.Rounding
Purpose: Rounding a quotient of natural numbers to the nearest double-precision number.
Main exports: nearestRank, Magnitude.nearest, Binary64.product
-/
import CognitiveKernel.Binary64.Basic

namespace CognitiveKernel

/-!
Since the magnitudes are numbered in increasing order, rounding to nearest is done on ranks: find
the last magnitude that does not exceed the quotient and compare with the middle of the step above
it. The last bit of the significand is the parity of the rank, so a tie goes to the even rank.
-/

/-- The rank nearest to `numerator / denominator` units, ties to the even rank. -/
def nearestRank (numerator denominator : Nat) : Nat :=
  let below := rankOfUnits (numerator / denominator)
  let middle := (unitsOfRank below + unitsOfRank (below + 1)) * denominator
  if 2 * numerator < middle then below
  else if middle < 2 * numerator then below + 1
  else below + below % 2

/-- The magnitude nearest to `numerator / denominator` units of `2 ^ (-1074)`. Everything from the
middle between the greatest finite magnitude and `2 ^ 1024` upwards is infinite. -/
def Magnitude.nearest (numerator denominator : Nat) : Magnitude :=
  Magnitude.ofRank (nearestRank numerator denominator)

/-- The number of units in one. -/
def unitsPerOne : Nat := Nat.pow 2 1074

/-- The product of two finite magnitudes, rounded once. -/
def Magnitude.product (left right : Magnitude) : Magnitude :=
  Magnitude.nearest (left.units * right.units) unitsPerOne

/-- The rounded product of two numbers; zero times infinity is NaN. The format leaves open which
NaN stands for a product that is none; here it is the quiet one. -/
def Binary64.product : Binary64 → Binary64 → Binary64
  | .number negative left, .number negative' right =>
      let sign := negative != negative'
      if left.isFinite && right.isFinite then .number sign (left.product right)
      else if left = Magnitude.zero || right = Magnitude.zero then .nan .quiet
      else .number sign Magnitude.infinity
  | _, _ => .nan .quiet

end CognitiveKernel
