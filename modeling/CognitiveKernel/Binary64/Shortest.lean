/-
Module: CognitiveKernel.Binary64.Shortest
Purpose: The shortest decimal number that reads back as a given finite magnitude.
Main exports: Magnitude.contains, Magnitude.shortest
-/
import CognitiveKernel.Binary64.Rounding
import CognitiveKernel.Decimal.Layout

namespace CognitiveKernel.Magnitude

/-!
The real numbers that round to a magnitude form an interval around it, whose ends belong to it
exactly when the rank is even. A grid of decimal numbers with a given number of digits has two
neighbours of the magnitude itself; if any point of the grid lies in the interval, so does one of
the two. The grids are tried from one digit upwards, and of two hits the nearer one is taken.
-/

/-- Whether `coefficient * numerator / denominator` units round to the magnitude. -/
def contains (magnitude : Magnitude) (coefficient numerator denominator : Nat) : Bool :=
  let point := 2 * coefficient * numerator
  let least := (unitsOfRank (magnitude.rank - 1) + magnitude.units) * denominator
  let greatest := (magnitude.units + unitsOfRank (magnitude.rank + 1)) * denominator
  if magnitude.rank % 2 = 0 then least ≤ point && point ≤ greatest
  else least < point && point < greatest

/-- The position of the decimal point counted from the first digit of a positive magnitude: the
magnitude lies from `10 ^ (point - 1)` up to but not including `10 ^ point`. -/
def decimalPoint (magnitude : Magnitude) : Int :=
  (Decimal.digits (magnitude.units * Nat.pow 10 324 / unitsPerOne)).length - 324

/-- Of the two neighbours of a magnitude on the grid of multiples of `10 ^ exponent`, the one that
rounds to the magnitude, or the nearer if both do. -/
def candidate? (tie : Decimal.Tie) (magnitude : Magnitude) (exponent : Int) : Option Decimal :=
  let numerator := Nat.pow 10 exponent.toNat * unitsPerOne
  let denominator := Nat.pow 10 (-exponent).toNat
  let scaled := magnitude.units * denominator
  let below := scaled / numerator
  let above := below + 1
  let lower := magnitude.contains below numerator denominator
  let upper := magnitude.contains above numerator denominator
  let takeUpper :=
    if 2 * scaled < (below + above) * numerator then false
    else if (below + above) * numerator < 2 * scaled then true
    else match tie with
      | .toEven => above % 2 = 0
      | .upward => true
  if lower && upper then some ⟨if takeUpper then above else below, exponent⟩
  else if lower then some ⟨below, exponent⟩
  else if upper then some ⟨above, exponent⟩
  else none

/-- The decimal number of exactly the size of a magnitude. -/
def exactDecimal (magnitude : Magnitude) : Decimal :=
  ⟨magnitude.units * Nat.pow 5 1074, -1074⟩

/-- The decimal number with the fewest digits that rounds to a positive finite magnitude, and of
those the nearest to it. Its coefficient does not end in zero. -/
def shortest (tie : Decimal.Tie) (magnitude : Magnitude) : Decimal :=
  let point := magnitude.decimalPoint
  let found := (List.range 17).findSome? fun (more : Nat) =>
    magnitude.candidate? tie (point - (more : Int) - 1)
  let decimal := found.getD magnitude.exactDecimal
  let (coefficient, zeros) := Decimal.dropTrailingZeros decimal.coefficient
  ⟨coefficient, decimal.exponent + zeros⟩

end CognitiveKernel.Magnitude
