/-
Module: CognitiveKernel.Decimal.Numeral
Purpose: Decimal numbers with a power of ten, and the texts that denote them.
Main exports: Decimal, Decimal.parse?
-/
import CognitiveKernel.Decimal.Digits

namespace CognitiveKernel

/-- The number `coefficient * 10 ^ exponent`. -/
structure Decimal where
  coefficient : Nat
  exponent : Int
deriving DecidableEq

namespace Decimal

/-!
A numeral is a row of digits with at most one point in it, at least one digit on either side, and
an optional exponent: `.5`, `5.`, `007` and `1E-1` are numerals, `.`, `e5` and `1e` are not.
-/

/-- Splits a text behind its leading digits. -/
def spanDigits (text : List Char) : List Char × List Char :=
  (text.takeWhile isDigit, text.dropWhile isDigit)

/-- Reads an exponent after its mark: an optional sign and one digit or more, to the end. -/
def exponent? (text : List Char) : Option Int :=
  let (negative, unsigned) := match text with
    | '-' :: rest => (true, rest)
    | '+' :: rest => (false, rest)
    | _ => (false, text)
  if unsigned ≠ [] ∧ unsigned.all isDigit then
    some (if negative then -(ofDigits unsigned : Int) else ofDigits unsigned)
  else
    none

def parse? (text : List Char) : Option Decimal :=
  let (whole, afterWhole) := spanDigits text
  let (fraction, afterFraction) := match afterWhole with
    | '.' :: rest => spanDigits rest
    | _ => ([], afterWhole)
  if whole = [] ∧ fraction = [] then none
  else
    let coefficient := ofDigits (whole ++ fraction)
    match afterFraction with
    | [] => some ⟨coefficient, -(fraction.length : Int)⟩
    | mark :: rest =>
        if mark = 'e' ∨ mark = 'E' then
          (exponent? rest).map fun exponent => ⟨coefficient, exponent - fraction.length⟩
        else none

end Decimal

end CognitiveKernel
