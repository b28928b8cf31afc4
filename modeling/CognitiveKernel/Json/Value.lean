/-
Module: CognitiveKernel.Json.Value
Purpose: JSON values, and the literals of their texts and numbers.
Main exports: Json.Value, Json.readText, Json.writeText, Json.readNumber
-/
import CognitiveKernel.Decimal.Numeral
import CognitiveKernel.Hexadecimal

namespace CognitiveKernel.Json

/-- A JSON value. Objects keep the order and the repetition of their keys. A text whose escapes
leave half of a surrogate pair alone denotes nothing; it is a value all the same. -/
inductive Value where
  | null
  | boolean (value : Bool)
  /-- A number as it is spelled. -/
  | number (literal : List Char)
  | text (content : Option String)
  | array (items : List Value)
  | object (entries : List (Option String × Value))

/-! ### Texts -/

/-- What one character or escape of a text literal denotes. -/
inductive Piece where
  | char (c : Char)
  /-- Half of a surrogate pair. -/
  | surrogate (unit : Nat)

def Piece.ofUnit (unit : Nat) : Piece :=
  if 0xD800 ≤ unit ∧ unit ≤ 0xDFFF then surrogate unit else char (Char.ofNat unit)

/-- The character behind a backslash that stands for a character. -/
def escape? : Char → Option Char
  | '"' => some '"'
  | '\\' => some '\\'
  | '/' => some '/'
  | 'b' => some '\x08'
  | 'f' => some '\x0c'
  | 'n' => some '\n'
  | 'r' => some '\r'
  | 't' => some '\t'
  | _ => none

/-- Reads the inside of a text literal up to its closing quote. -/
def readPieces : List Char → Option (List Piece × List Char)
  | [] => none
  | '"' :: rest => some ([], rest)
  | '\\' :: 'u' :: a :: b :: c :: d :: rest =>
      match Hexadecimal.value? a, Hexadecimal.value? b, Hexadecimal.value? c,
          Hexadecimal.value? d with
      | some a, some b, some c, some d =>
          (readPieces rest).map fun read =>
            (Piece.ofUnit (4096 * a + 256 * b + 16 * c + d) :: read.1, read.2)
      | _, _, _, _ => none
  | '\\' :: letter :: rest =>
      match escape? letter with
      | some c => (readPieces rest).map fun read => (.char c :: read.1, read.2)
      | none => none
  | c :: rest =>
      if c = '\\' ∨ c.toNat < 0x20 then none
      else (readPieces rest).map fun read => (.char c :: read.1, read.2)

/-- The characters that pieces denote together: surrogates count only in pairs. -/
def joinPieces : List Piece → Option (List Char)
  | [] => some []
  | .char c :: rest => (joinPieces rest).map (c :: ·)
  | .surrogate high :: .surrogate low :: rest =>
      if high < 0xDC00 ∧ 0xDC00 ≤ low then
        (joinPieces rest).map
          (Char.ofNat (0x10000 + 1024 * (high - 0xD800) + (low - 0xDC00)) :: ·)
      else none
  | .surrogate _ :: _ => none

/-- Reads a text literal behind its opening quote. -/
def readText (text : List Char) : Option (Option String × List Char) :=
  (readPieces text).map fun read => ((joinPieces read.1).map String.ofList, read.2)

/-- The spelling of a character inside a text literal. -/
def writeChar (c : Char) : List Char :=
  if c = '"' then ['\\', '"']
  else if c = '\\' then ['\\', '\\']
  else if c = '\x08' then ['\\', 'b']
  else if c = '\x0c' then ['\\', 'f']
  else if c = '\n' then ['\\', 'n']
  else if c = '\r' then ['\\', 'r']
  else if c = '\t' then ['\\', 't']
  else if c.toNat < 0x20 then '\\' :: 'u' :: Hexadecimal.digits .lower 4 c.toNat
  else [c]

/-- A text literal. A text that denotes nothing is spelled as half of a surrogate pair. -/
def writeText : Option String → List Char
  | some content => '"' :: (content.toList.flatMap writeChar ++ ['"'])
  | none => ['"', '\\', 'u', 'd', '8', '0', '0', '"']

/-! ### Numbers -/

/-- Reads a fraction: a point and one digit or more, or nothing. -/
def readFraction : List Char → Option (List Char × List Char)
  | '.' :: rest =>
      let (ds, after) := Decimal.spanDigits rest
      if ds = [] then none else some ('.' :: ds, after)
  | text => some ([], text)

/-- Reads an exponent: a mark, an optional sign and one digit or more, or nothing. -/
def readExponent : List Char → Option (List Char × List Char)
  | mark :: rest =>
      if mark = 'e' ∨ mark = 'E' then
        let (sign, unsigned) := match rest with
          | '+' :: unsigned => (['+'], unsigned)
          | '-' :: unsigned => (['-'], unsigned)
          | _ => ([], rest)
        let (ds, after) := Decimal.spanDigits unsigned
        if ds = [] then none else some (mark :: sign ++ ds, after)
      else some ([], mark :: rest)
  | [] => some ([], [])

/-- Reads a number literal. A whole part of several digits does not start with zero. -/
def readNumber (text : List Char) : Option (List Char × List Char) :=
  let (sign, unsigned) := match text with
    | '-' :: rest => (['-'], rest)
    | _ => ([], text)
  let (whole, afterWhole) := Decimal.spanDigits unsigned
  if whole = [] ∨ (whole.head? = some '0' ∧ whole.length ≠ 1) then none
  else
    match readFraction afterWhole with
    | none => none
    | some (fraction, afterFraction) =>
        match readExponent afterFraction with
        | none => none
        | some (exponent, rest) => some (sign ++ whole ++ fraction ++ exponent, rest)

end CognitiveKernel.Json
