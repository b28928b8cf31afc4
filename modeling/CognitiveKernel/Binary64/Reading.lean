/-
Module: CognitiveKernel.Binary64.Reading
Purpose: Correctly rounded conversion of decimal numbers and of the texts that denote them.
Main exports: Magnitude.ofDecimal, Binary64.ofDecimal, Binary64.parse?
-/
import CognitiveKernel.Binary64.Rounding
import CognitiveKernel.Decimal.Numeral

namespace CognitiveKernel

/-!
A decimal number is rounded once, from its exact value. Exponents far outside the range of double
precision are decided by the number of digits, before any power of ten is formed.
-/

/-- The magnitude nearest to a decimal number. With `size` the position of the first digit, the
number lies below `10 ^ size` and, unless it is zero, not below `10 ^ (size - 1)`. -/
def Magnitude.ofDecimal (decimal : Decimal) : Magnitude :=
  let size := (Decimal.digits decimal.coefficient).length + decimal.exponent
  if decimal.coefficient = 0 ∨ size < -330 then Magnitude.zero
  else if 310 < size then Magnitude.infinity
  else
    Magnitude.nearest (decimal.coefficient * unitsPerOne * Nat.pow 10 decimal.exponent.toNat)
      (Nat.pow 10 (-decimal.exponent).toNat)

/-- The number nearest to a decimal number with a sign. -/
def Binary64.ofDecimal (negative : Bool) (decimal : Decimal) : Binary64 :=
  .number negative (Magnitude.ofDecimal decimal)

/-- Reads a numeral with an optional sign. -/
def Binary64.ofNumeral? (text : List Char) : Option Binary64 :=
  match text with
  | '-' :: rest => (Decimal.parse? rest).map (Binary64.ofDecimal true)
  | '+' :: rest => (Decimal.parse? rest).map (Binary64.ofDecimal false)
  | _ => (Decimal.parse? text).map (Binary64.ofDecimal false)

/-- Reads a number written as a numeral or as one of `NaN`, `inf` and `-inf`. -/
def Binary64.parse? (text : String) : Option Binary64 :=
  if text = "NaN" then some (.nan .quiet)
  else if text = "inf" then some .infinity
  else if text = "-inf" then some .negativeInfinity
  else Binary64.ofNumeral? text.toList

end CognitiveKernel
