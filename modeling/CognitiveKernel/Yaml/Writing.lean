/-
Module: CognitiveKernel.Yaml.Writing
Purpose: Writing trees as YAML texts, one entry a line.
Main exports: Scalar.write, Tree.write, Tree.print
-/
import CognitiveKernel.Yaml.Presentation

namespace CognitiveKernel.Yaml

/-! ### Scalars -/

def spaces (count : Nat) : List Char := List.replicate count ' '

/-- The lines of a text with an indentation before each that is not empty. The flag tells whether
a line begins. -/
def indentLines (indent : Nat) : Bool → List Char → List Char
  | _, [] => []
  | atStart, c :: rest =>
      if isBreak c then c :: indentLines indent true rest
      else (if atStart then spaces indent else []) ++ c :: indentLines indent false rest

/-- A text with every single quote doubled. -/
def doubleQuotes (text : List Char) : List Char :=
  text.flatMap fun c => if c = '\'' then ['\'', '\''] else [c]

def writeSingleQuoted (indent : Nat) (text : List Char) : List Char :=
  let closing := if text.getLast?.any isBreak then spaces indent else []
  '\'' :: (indentLines indent false (doubleQuotes text) ++ closing ++ ['\''])

/-- The letter behind the backslash for characters that have one. -/
def escapeLetter? : Char → Option Char
  | '\x00' => some '0'
  | '\x07' => some 'a'
  | '\x08' => some 'b'
  | '\t' => some 't'
  | '\n' => some 'n'
  | '\x0b' => some 'v'
  | '\x0c' => some 'f'
  | '\r' => some 'r'
  | '\x1b' => some 'e'
  | '"' => some '"'
  | '\\' => some '\\'
  | '\x85' => some 'N'
  | '\u2028' => some 'L'
  | '\u2029' => some 'P'
  | _ => none

def escape (c : Char) : List Char :=
  match escapeLetter? c with
  | some letter => ['\\', letter]
  | none =>
      if isPrintable c then [c]
      else if c.toNat ≤ 0xFF then '\\' :: 'x' :: Hexadecimal.digits .upper 2 c.toNat
      else if c.toNat ≤ 0xFFFF then '\\' :: 'u' :: Hexadecimal.digits .upper 4 c.toNat
      else '\\' :: 'U' :: Hexadecimal.digits .upper 8 c.toNat

/-- Writes a text in double quotes, on one line. -/
def writeDoubleQuoted (text : List Char) : List Char :=
  '"' :: (text.flatMap escape ++ ['"'])

/-- The indicator for the line breaks at the end of a text: none is written for a single one. -/
def chompingIndicator (text : List Char) : List Char :=
  match text.reverse with
  | [] => ['-']
  | last :: before =>
      if !isBreak last then ['-'] else if before.head?.all isBreak then ['+'] else []

/-- The indicator for the indentation of a text, where it could not be found out. -/
def indentIndicator (text : List Char) : List Char :=
  if text.head?.any fun c => c = ' ' || isBreak c then ['2'] else []

/-- Writes a text as a literal block. -/
def writeLiteral (indent : Nat) (text : List Char) : List Char :=
  '|' :: (indentIndicator text ++ chompingIndicator text ++ '\n' :: indentLines indent true text)

namespace Scalar

/-- Whether a scalar is written as a block. There is one way to do so: folded text is written as a
literal block too. -/
def isBlock (scalar : Scalar) : Bool := scalar.style = .literal || scalar.style = .folded

/-- Writes a scalar. Its lines after the first are indented. -/
def write (indent : Nat) (scalar : Scalar) : List Char :=
  let text := scalar.text.toList
  match scalar.style with
  | .plain => text
  | .singleQuoted => writeSingleQuoted indent text
  | .doubleQuoted => writeDoubleQuoted text
  | .literal | .folded => writeLiteral indent text

/-- Writes a scalar and ends its line, unless the text of a block has done that. -/
def writeLine (indent : Nat) (scalar : Scalar) : List Char :=
  let ended := scalar.isBlock && scalar.text.toList.getLast?.any isBreak
  scalar.write indent ++ if ended then [] else ['\n']

/-- The greatest size of a key that is not marked as one. -/
def longestBareKey : Nat := 128

/-- Whether a key is not marked as one: it is short and has no line breaks. -/
def isBareKey (scalar : Scalar) : Bool :=
  scalar.text.utf8ByteSize ≤ longestBareKey && !scalar.text.toList.any isBreak

end Scalar

/-! ### Trees -/

/-- The indentation of a value inside of a mapping with some indentation. A sequence is not
indented. -/
def Tree.valueIndent (indent : Nat) : Tree → Nat
  | .sequence (_ :: _) => indent
  | _ => indent + 2

/-- What stands between the colon and a value: collections that are not empty begin on a line of
their own. -/
def Tree.valueLead (indent : Nat) (value : Tree) : List Char :=
  match value with
  | .sequence (_ :: _) | .mapping (_ :: _) => '\n' :: spaces (value.valueIndent indent)
  | _ => [' ']

/-- Writes a key with what follows it up to its value, given the value. -/
def Scalar.writeKey (indent : Nat) (key : Scalar) (value : Tree) : List Char :=
  if key.isBareKey then key.write (indent + 2) ++ ':' :: value.valueLead indent
  else '?' :: ' ' :: (key.writeLine (indent + 2) ++ spaces indent ++ [':', ' '])

/-- The indentation of the value of a key. -/
def Scalar.valueIndent (indent : Nat) (key : Scalar) (value : Tree) : Nat :=
  if key.isBareKey then value.valueIndent indent else indent + 2

mutual

/-- Writes a tree to the end of its last line, at a position that is indented already. -/
def Tree.write (indent : Nat) : Tree → List Char
  | .scalar content => content.writeLine indent
  | .sequence [] => ['[', ']', '\n']
  | .sequence (item :: more) => '-' :: ' ' :: (item.write (indent + 2) ++ writeItems indent more)
  | .mapping [] => ['\x7b', '\x7d', '\n']
  | .mapping ((key, value) :: more) =>
      key.writeKey indent value ++ value.write (key.valueIndent indent value) ++
        writeEntries indent more

/-- Writes the items of a sequence after the first. -/
def writeItems (indent : Nat) : List Tree → List Char
  | [] => []
  | item :: more =>
      spaces indent ++ '-' :: ' ' :: (item.write (indent + 2) ++ writeItems indent more)

/-- Writes the entries of a mapping after the first. -/
def writeEntries (indent : Nat) : List (Scalar × Tree) → List Char
  | [] => []
  | (key, value) :: more =>
      spaces indent ++ key.writeKey indent value ++ value.write (key.valueIndent indent value) ++
        writeEntries indent more

end

def Tree.print (tree : Tree) : String :=
  String.ofList (match tree with
    | .scalar content => content.writeLine 2
    | tree => tree.write 0)

end CognitiveKernel.Yaml
