/-
Module: CognitiveKernel.Yaml.Scalar.Quoted
Purpose: Scanning scalars in single and in double quotes.
Main exports: scanSingleQuoted, scanDoubleQuoted
-/
import CognitiveKernel.Hexadecimal
import CognitiveKernel.Yaml.Scalar.Gap

namespace CognitiveKernel.Yaml

/-! ### Single quotes -/

/-- Scans a scalar behind its opening single quote. A quote is written twice. -/
def scanSingleQuoted : Mark → Gap → List Char → Option (List Char × Cursor)
  | _, _, [] => none
  | mark, gap, '\r' :: '\n' :: rest => scanSingleQuoted (mark.newLine crlf) (gap.addBreak '\n') rest
  | mark, gap, '\'' :: '\'' :: rest =>
      (scanSingleQuoted (mark.advance ['\'', '\'']) Gap.none rest).map fun scanned =>
        (gap.fold ++ '\'' :: scanned.1, scanned.2)
  | mark, gap, c :: rest =>
      if c = '\'' then some (gap.fold, ⟨mark.next c, rest⟩)
      else if isBreak c then scanSingleQuoted (mark.newLine [c]) (gap.addBreak c) rest
      else if isBlank c then scanSingleQuoted (mark.next c) (gap.addBlank c) rest
      else if mark.column = 0 && isDocumentMarker (c :: rest) then none
      else
        (scanSingleQuoted (mark.next c) Gap.none rest).map fun scanned =>
          (gap.fold ++ c :: scanned.1, scanned.2)

/-! ### Double quotes -/

/-- Where the scan of a double-quoted scalar stands. -/
inductive QuoteState where
  /-- Between words or inside of one. -/
  | text (gap : Gap)
  /-- Behind a backslash. -/
  | escaped
  /-- Inside an escape with some hexadecimal digits left, and the value of those before. -/
  | digits (left value : Nat)

/-- The characters that a backslash and one character stand for. -/
def simpleEscape? : Char → Option Char
  | '0' => some '\x00'
  | 'a' => some '\x07'
  | 'b' => some '\x08'
  | 't' => some '\t'
  | '\t' => some '\t'
  | 'n' => some '\n'
  | 'v' => some '\x0b'
  | 'f' => some '\x0c'
  | 'r' => some '\r'
  | 'e' => some '\x1b'
  | ' ' => some ' '
  | '"' => some '"'
  | '/' => some '/'
  | '\\' => some '\\'
  | 'N' => some '\x85'
  | '_' => some '\xa0'
  | 'L' => some '\u2028'
  | 'P' => some '\u2029'
  | _ => none

/-- The number of hexadecimal digits that follow an escape. -/
def escapeDigits? : Char → Option Nat
  | 'x' => some 2
  | 'u' => some 4
  | 'U' => some 8
  | _ => none

def charOfCode? (code : Nat) : Option Char :=
  if code.isValidChar then some (Char.ofNat code) else none

/-- Scans a scalar behind its opening double quote. -/
def scanDoubleQuoted : Mark → QuoteState → List Char → Option (List Char × Cursor)
  | _, _, [] => none
  | mark, .text gap, '\r' :: '\n' :: rest =>
      scanDoubleQuoted (mark.newLine crlf) (.text (gap.addBreak '\n')) rest
  | mark, .text gap, c :: rest =>
      if c = '"' then some (gap.fold, ⟨mark.next c, rest⟩)
      else if isBreak c then scanDoubleQuoted (mark.newLine [c]) (.text (gap.addBreak c)) rest
      else if isBlank c then scanDoubleQuoted (mark.next c) (.text (gap.addBlank c)) rest
      else if mark.column = 0 && isDocumentMarker (c :: rest) then none
      else if c = '\\' then
        (scanDoubleQuoted (mark.next c) .escaped rest).map fun scanned =>
          (gap.fold ++ scanned.1, scanned.2)
      else
        (scanDoubleQuoted (mark.next c) (.text Gap.none) rest).map fun scanned =>
          (gap.fold ++ c :: scanned.1, scanned.2)
  | mark, .escaped, '\r' :: '\n' :: rest =>
      scanDoubleQuoted (mark.newLine crlf) (.text (.broken none [])) rest
  | mark, .escaped, c :: rest =>
      if isBreak c then scanDoubleQuoted (mark.newLine [c]) (.text (.broken none [])) rest
      else
        match simpleEscape? c, escapeDigits? c with
        | some denoted, _ =>
            (scanDoubleQuoted (mark.next c) (.text Gap.none) rest).map fun scanned =>
              (denoted :: scanned.1, scanned.2)
        | none, some count => scanDoubleQuoted (mark.next c) (.digits count 0) rest
        | none, none => none
  | mark, .digits left value, c :: rest =>
      match Hexadecimal.value? c with
      | none => none
      | some digit =>
          let value := 16 * value + digit
          if 1 < left then scanDoubleQuoted (mark.next c) (.digits (left - 1) value) rest
          else
            match charOfCode? value with
            | none => none
            | some denoted =>
                (scanDoubleQuoted (mark.next c) (.text Gap.none) rest).map fun scanned =>
                  (denoted :: scanned.1, scanned.2)

end CognitiveKernel.Yaml
