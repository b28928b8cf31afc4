/-
Module: CognitiveKernel.Json.Reading
Purpose: Reading JSON texts.
Main exports: Json.readValue, Json.parse?
-/
import CognitiveKernel.Json.Value

namespace CognitiveKernel.Json

/-- Whether a character may stand between the parts of a value. -/
def isSpace (c : Char) : Bool :=
  c = ' ' || c = '\n' || c = '\t' || c = '\r'

/-- A text without the space at its start. -/
def skipSpace (text : List Char) : List Char :=
  text.dropWhile isSpace

mutual

/-- Reads a value from the start of a text. The first argument bounds the number of calls. -/
def readValue : Nat → List Char → Option (Value × List Char)
  | 0, _ => none
  | calls + 1, text =>
      match skipSpace text with
      | '"' :: rest => (readText rest).map fun read => (.text read.1, read.2)
      | '[' :: rest =>
          match skipSpace rest with
          | ']' :: after => some (.array [], after)
          | items => (readItems calls items).map fun read => (.array read.1, read.2)
      | '\x7b' :: rest =>
          match skipSpace rest with
          | '\x7d' :: after => some (.object [], after)
          | entries => (readEntries calls entries).map fun read => (.object read.1, read.2)
      | 'n' :: 'u' :: 'l' :: 'l' :: rest => some (.null, rest)
      | 't' :: 'r' :: 'u' :: 'e' :: rest => some (.boolean true, rest)
      | 'f' :: 'a' :: 'l' :: 's' :: 'e' :: rest => some (.boolean false, rest)
      | number => (readNumber number).map fun read => (.number read.1, read.2)

/-- Reads the items of an array and its closing bracket. -/
def readItems : Nat → List Char → Option (List Value × List Char)
  | 0, _ => none
  | calls + 1, text =>
      match readValue calls text with
      | none => none
      | some (item, rest) =>
          match skipSpace rest with
          | ',' :: more => (readItems calls more).map fun read => (item :: read.1, read.2)
          | ']' :: after => some ([item], after)
          | _ => none

/-- Reads the entries of an object and its closing brace. -/
def readEntries : Nat → List Char → Option (List (Option String × Value) × List Char)
  | 0, _ => none
  | calls + 1, text =>
      match skipSpace text with
      | '"' :: afterQuote =>
          match readText afterQuote with
          | none => none
          | some (key, afterKey) =>
              match skipSpace afterKey with
              | ':' :: afterColon =>
                  match readValue calls afterColon with
                  | none => none
                  | some (value, rest) =>
                      match skipSpace rest with
                      | ',' :: more =>
                          (readEntries calls more).map fun read => ((key, value) :: read.1, read.2)
                      | '\x7d' :: after => some ([(key, value)], after)
                      | _ => none
              | _ => none
      | _ => none

end

/-- Reads a text that consists of one value. Every call takes a character off the text or enters
an array or object that an earlier call has opened, so twice the length bounds them. -/
def parse? (text : String) : Option Value :=
  match readValue (2 * text.toList.length + 2) text.toList with
  | some (value, rest) => if skipSpace rest = [] then some value else none
  | none => none

end CognitiveKernel.Json
