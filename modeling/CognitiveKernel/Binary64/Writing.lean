/-
Module: CognitiveKernel.Binary64.Writing
Purpose: The texts of double-precision numbers: shortest digits in several layouts, and a fixed
  number of two decimals.
Main exports: Binary64.display, Binary64.inspect, Binary64.twoDecimals
-/
import CognitiveKernel.Binary64.Shortest

namespace CognitiveKernel

namespace Decimal.Layout

/-- Shortest digits without an exponent; a whole number has no point. -/
def plain : Layout := ⟨.upward, none, [], []⟩

/-- Shortest digits with a point, and an exponent below `10 ^ (-4)` and from `10 ^ 16` on. -/
def inspection : Layout := ⟨.upward, some (-3, 16), ['.', '0'], []⟩

end Decimal.Layout

/-- The digits of a finite magnitude in a layout; zero is a whole number. -/
def Magnitude.write (layout : Decimal.Layout) (magnitude : Magnitude) : List Char :=
  if magnitude.rank = 0 then '0' :: layout.wholeSuffix
  else layout.write (magnitude.shortest layout.tie)

/-- Two decimals: the exact size of the magnitude rounded to hundredths, ties to even. -/
def Magnitude.hundredths (magnitude : Magnitude) : Nat :=
  let scaled := magnitude.units * 100
  let below := scaled / unitsPerOne
  if 2 * scaled < (2 * below + 1) * unitsPerOne then below
  else if (2 * below + 1) * unitsPerOne < 2 * scaled then below + 1
  else below + below % 2

/-- A number of hundredths with a point before the last two digits. -/
def Decimal.writeHundredths (hundredths : Nat) : List Char :=
  Decimal.digits (hundredths / 100) ++
    ['.', Decimal.digitChar (hundredths / 10 % 10), Decimal.digitChar (hundredths % 10)]

namespace Binary64

/-- How the values that have no digits are spelled. -/
structure Spelling where
  nan : List Char
  infinity : List Char
deriving DecidableEq

/-- The spelling outside of documents. -/
def Spelling.words : Spelling := ⟨['N', 'a', 'N'], ['i', 'n', 'f']⟩

/-- Writes a number: a minus sign for every negative number, zero included, and the digits of the
magnitude as the writer of finite magnitudes gives them. -/
def writeWith (spelling : Spelling) (finite : Magnitude → List Char) : Binary64 → List Char
  | nan _ => spelling.nan
  | number negative magnitude =>
      (if negative then ['-'] else []) ++
        (if magnitude.isFinite then finite magnitude else spelling.infinity)

/-- The shortest text that reads back, without an exponent. -/
def display (value : Binary64) : String :=
  String.ofList (value.writeWith .words (Magnitude.write .plain))

/-- The shortest text that reads back and shows that it is not an integer. -/
def inspect (value : Binary64) : String :=
  String.ofList (value.writeWith .words (Magnitude.write .inspection))

def twoDecimals (value : Binary64) : String :=
  String.ofList (value.writeWith .words fun magnitude =>
    Decimal.writeHundredths magnitude.hundredths)

end Binary64

end CognitiveKernel
