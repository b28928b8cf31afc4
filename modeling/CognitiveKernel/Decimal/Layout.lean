/-
Module: CognitiveKernel.Decimal.Layout
Purpose: The choices a text format makes when it writes a row of digits with a decimal point.
Main exports: Tie, Layout, Layout.write
-/
import CognitiveKernel.Decimal.Numeral

namespace CognitiveKernel.Decimal

/-- Which of two equally near candidates is taken. -/
inductive Tie where
  /-- The candidate with the even last digit. -/
  | toEven
  /-- The greater candidate. -/
  | upward
deriving DecidableEq

/-- How a text format writes a positive decimal number. -/
structure Layout where
  /-- Which digits are chosen when two candidates are equally near. -/
  tie : Tie
  /-- The least and the greatest position of the point, counted from the first digit, at which no
  exponent is written; without bounds none is ever written. -/
  positional : Option (Int × Int)
  /-- What stands behind a whole number. -/
  wholeSuffix : List Char
  /-- What stands between the exponent mark and an exponent that is not negative. -/
  exponentSign : List Char
deriving DecidableEq

namespace Layout

/-- Whether the point stands near enough to the digits for positional notation. -/
def isPositional (layout : Layout) (point : Int) : Bool :=
  match layout.positional with
  | none => true
  | some (least, greatest) => least ≤ point && point ≤ greatest

/-- Positional notation of a row of digits with the point `point` places behind its start. -/
def writePositional (layout : Layout) (ds : List Char) (point : Int) : List Char :=
  if point ≤ 0 then
    '0' :: '.' :: (List.replicate (-point).toNat '0' ++ ds)
  else if ds.length ≤ point.toNat then
    ds ++ List.replicate (point.toNat - ds.length) '0' ++ layout.wholeSuffix
  else
    ds.take point.toNat ++ '.' :: ds.drop point.toNat

/-- One digit, a point if more follow, the other digits, and the exponent of the first digit. -/
def writeExponential (layout : Layout) (ds : List Char) (exponent : Int) : List Char :=
  let tail := ds.drop 1
  ds.take 1 ++ (if tail.isEmpty then [] else '.' :: tail) ++ 'e' ::
    (if exponent < 0 then '-' :: digits exponent.natAbs
     else layout.exponentSign ++ digits exponent.natAbs)

/-- The text of a positive decimal number whose coefficient does not end in zero. -/
def write (layout : Layout) (decimal : Decimal) : List Char :=
  let ds := digits decimal.coefficient
  let point := ds.length + decimal.exponent
  if layout.isPositional point then layout.writePositional ds point
  else layout.writeExponential ds (point - 1)

end Layout

end CognitiveKernel.Decimal
