/-
Module: CognitiveKernel.Yaml.Resolution
Purpose: What a plain scalar denotes: nothing, a truth value, a number or a text.
Main exports: isNullWord, boolean?, integer?, number?, resolve
-/
import CognitiveKernel.Binary64.Reading
import CognitiveKernel.Document.Fault
import CognitiveKernel.Hexadecimal

namespace CognitiveKernel.Yaml

/-! ### Words -/

/-- The words for the absence of a value. -/
def isNullWord (text : String) : Bool :=
  text = "null" || text = "Null" || text = "NULL" || text = "~"

/-- Whether a plain scalar stands for the absence of a value. -/
def denotesNothing (text : String) : Bool := text = "" || isNullWord text

def boolean? (text : String) : Option Bool :=
  if text = "true" || text = "True" || text = "TRUE" then some true
  else if text = "false" || text = "False" || text = "FALSE" then some false
  else none

/-! ### Numbers -/

/-- Whether digits are padded with a zero, with or without a sign; such digits are a text. -/
def isPadded (text : List Char) : Bool :=
  let unsigned := match text with
    | '-' :: rest | '+' :: rest => rest
    | _ => text
  match unsigned with
  | '0' :: c :: rest => (c :: rest).all Decimal.isDigit
  | _ => false

/-- The value of digits to a base, of which there has to be at least one. -/
def ofDigitsIn? (base : Nat) (digits : List Char) : Option Nat :=
  if digits.isEmpty then none
  else
    digits.foldlM (fun value c =>
      (Hexadecimal.value? c).bind fun digit =>
        if digit < base then some (base * value + digit) else none) 0

/-- The value of digits behind a mark for their base. -/
def ofMarkedDigits? : List Char → Option Nat
  | '0' :: 'x' :: digits => ofDigitsIn? 16 digits
  | '0' :: 'o' :: digits => ofDigitsIn? 8 digits
  | '0' :: 'b' :: digits => ofDigitsIn? 2 digits
  | _ => none

/-- The value of digits with or without a mark for their base. -/
def ofBareDigits? (isPlain : Bool) (digits : List Char) : Option Nat :=
  (ofMarkedDigits? digits).or (if isPlain then ofDigitsIn? 10 digits else none)

/-- The integer that a text spells, of any size. -/
def integer? (text : List Char) : Option Int :=
  match text with
  | '-' :: digits => (ofBareDigits? (!isPadded text) digits).map fun size => -(size : Int)
  | '+' :: digits => (ofBareDigits? (!isPadded text) digits).map fun size => (size : Int)
  | digits => (ofBareDigits? (!isPadded text) digits).map fun size => (size : Int)

/-- The finite double that a text spells, or one of the words for the others. -/
def number? (text : String) : Option Binary64 :=
  let unsigned := match text.toList with
    | '+' :: rest => rest
    | rest => rest
  let word := String.ofList unsigned
  if word = ".inf" || word = ".Inf" || word = ".INF" then some .infinity
  else if text = "-.inf" || text = "-.Inf" || text = "-.INF" then some .negativeInfinity
  else if text = ".nan" || text = ".NaN" || text = ".NAN" then some (.nan .quiet)
  else if text.toList.head? = some '+' && unsigned.head?.any fun c => c = '+' || c = '-' then none
  else (Binary64.ofNumeral? unsigned).filter Binary64.isFinite

/-! ### What a scalar denotes -/

open CognitiveKernel.Document (Found)

/-- What an integer is, by its size. Integers beyond 128 bits are no integers. -/
def foundInteger? (value : Int) : Option Found :=
  match value with
  | .ofNat size =>
      if size < Nat.pow 2 64 then some (.integer value)
      else if size < Nat.pow 2 128 then some (.wideInteger value "u128")
      else none
  | .negSucc below =>
      if below < Nat.pow 2 63 then some (.integer value)
      else if below < Nat.pow 2 127 then some (.wideInteger value "i128")
      else none

/-- The integer that a text denotes, for a report. -/
def resolveInteger? (text : String) : Option Found :=
  (integer? text.toList).bind foundInteger?

def resolve (text : String) : Found :=
  if denotesNothing text then .nothing
  else
    match boolean? text with
    | some value => .boolean value
    | none =>
        match resolveInteger? text with
        | some found => found
        | none =>
            if isPadded text.toList then .text text
            else
              match number? text with
              | some value => .floating value
              | none => .text text

end CognitiveKernel.Yaml
