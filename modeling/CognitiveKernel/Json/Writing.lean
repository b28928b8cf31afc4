/-
Module: CognitiveKernel.Json.Writing
Purpose: Writing JSON texts over several lines.
Main exports: Json.ofNumber, Json.write, Json.print
-/
import CognitiveKernel.Error
import CognitiveKernel.Json.Value

namespace CognitiveKernel.Json

/-- A number as a value. What is not a real number has no literal and becomes null. -/
def ofNumber (value : Binary64) : Value :=
  if value.isFinite then .number (value.writeWith .words (Magnitude.write .json)) else .null

def ofText (content : String) : Value := .text (some content)

/-- An object with distinct keys. -/
def ofFields (fields : List (String × Value)) : Value :=
  .object (fields.map fun field => (some field.1, field.2))

def newLine (indent : Nat) : List Char :=
  '\n' :: List.replicate indent ' '

mutual

/-- Writes a value; its lines after the first are indented. -/
def write (indent : Nat) : Value → List Char
  | .null => "null".toList
  | .boolean true => "true".toList
  | .boolean false => "false".toList
  | .number literal => literal
  | .text content => writeText content
  | .array [] => ['[', ']']
  | .array (item :: more) =>
      '[' :: (newLine (indent + 2) ++ write (indent + 2) item ++ writeItems (indent + 2) more ++
        newLine indent ++ [']'])
  | .object [] => ['\x7b', '\x7d']
  | .object ((key, value) :: more) =>
      '\x7b' :: (newLine (indent + 2) ++ writeText key ++ [':', ' '] ++ write (indent + 2) value ++
        writeEntries (indent + 2) more ++ newLine indent ++ ['\x7d'])

/-- Writes the items after the first one of an array. -/
def writeItems (indent : Nat) : List Value → List Char
  | [] => []
  | item :: more => ',' :: (newLine indent ++ write indent item ++ writeItems indent more)

/-- Writes the entries after the first one of an object. -/
def writeEntries (indent : Nat) : List (Option String × Value) → List Char
  | [] => []
  | (key, value) :: more =>
      ',' :: (newLine indent ++ writeText key ++ [':', ' '] ++ write indent value ++
        writeEntries indent more)

end

def print (value : Value) : String :=
  String.ofList (write 0 value)

end CognitiveKernel.Json
