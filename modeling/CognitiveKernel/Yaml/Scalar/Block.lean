/-
Module: CognitiveKernel.Yaml.Scalar.Block
Purpose: Scanning literal and folded block scalars.
Main exports: Chomping, scanBlock
-/
import CognitiveKernel.Yaml.Cursor

namespace CognitiveKernel.Yaml

/-- What becomes of the line breaks at the end of a block scalar. -/
inductive Chomping where
  /-- None is kept. -/
  | strip
  /-- The first one is kept. -/
  | clip
  /-- All are kept. -/
  | keep
deriving Repr, DecidableEq

/-- The chomping that an indicator asks for. -/
def Chomping.ofChar? : Char → Option Chomping
  | '-' => some strip
  | '+' => some keep
  | _ => none

/-- What is said behind the indicator of a block scalar. -/
structure BlockHeader where
  chomping : Chomping
  /-- The indentation relative to the parent, if it is given. -/
  increment : Option Nat
deriving Repr, DecidableEq

/-- Reads a digit from 1 to 9 if there is a digit; zero is not allowed. -/
def readIncrement : List Char → Option (Option Nat × List Char)
  | c :: rest =>
      if c = '0' then none
      else if '1' ≤ c ∧ c ≤ '9' then some (some (c.toNat - '0'.toNat), rest)
      else some (none, c :: rest)
  | [] => some (none, [])

/-- Reads the chomping and the indentation in either order, each at most once. -/
def readHeader (text : List Char) : Option (BlockHeader × List Char) :=
  match text.head?.bind Chomping.ofChar? with
  | some chomping =>
      (readIncrement text.tail).map fun read => (⟨chomping, read.1⟩, read.2)
  | none =>
      match readIncrement text with
      | none => none
      | some (none, rest) => some (⟨.clip, none⟩, rest)
      | some (some increment, rest) =>
          match rest.head?.bind Chomping.ofChar? with
          | some chomping => some (⟨chomping, some increment⟩, rest.tail)
          | none => some (⟨.clip, some increment⟩, rest)

/-- The greatest indentation among the empty lines at the start of a block scalar and its first
other line. Tabs among the indentation are refused. -/
def leadingIndent (column greatest : Nat) : List Char → Option Nat
  | [] => some greatest
  | c :: rest =>
      if c = ' ' then leadingIndent (column + 1) (max greatest (column + 1)) rest
      else if c = '\t' then none
      else if isBreak c then leadingIndent 0 greatest rest
      else some greatest

/-- Where the scan of a block scalar stands. -/
inductive BlockState where
  /-- In the indentation of a line: the break that ended the last line with content, those that
  followed it, and whether that line began with a blank. -/
  | margin (first : Option Char) (more : List Char) (blank : Bool)
  /-- Inside a line, which began with a blank or not. -/
  | line (blank : Bool)

/-- What stands between two lines of a block scalar. Folding turns a single line feed between
lines that do not begin with a blank into a space. -/
def joinLines (literal : Bool) (first : Option Char) (more : List Char) (before after : Bool) :
    List Char :=
  if !literal && first = some '\n' && !before && !after then
    if more.isEmpty then [' '] else more
  else first.toList ++ more

/-- Scans the lines of a block scalar with a known indentation. The answer is the text up to the
end of the last line with content, the line breaks behind it, and where the scan stopped. -/
def scanLines (literal : Bool) (indent : Nat) :
    BlockState → Mark → List Char → Option (List Char × (Option Char × List Char) × Cursor)
  | .margin first more _, mark, [] => some ([], (first, more), ⟨mark, []⟩)
  | .line _, mark, [] => some ([], (none, []), ⟨mark, []⟩)
  | .margin first more blank, mark, '\r' :: '\n' :: rest =>
      scanLines literal indent (.margin first (more ++ ['\n']) blank) (mark.newLine crlf) rest
  | .line blank, mark, '\r' :: '\n' :: rest =>
      scanLines literal indent (.margin (some '\n') [] blank) (mark.newLine crlf) rest
  | .margin first more blank, mark, c :: rest =>
      if mark.column < indent && c = ' ' then
        scanLines literal indent (.margin first more blank) (mark.next c) rest
      else if mark.column < indent && c = '\t' then none
      else if isBreak c then
        scanLines literal indent (.margin first (more ++ [foldBreak c]) blank) (mark.newLine [c])
          rest
      else if mark.column = indent then
        (scanLines literal indent (.line (isBlank c)) (mark.next c) rest).map fun scanned =>
          (joinLines literal first more blank (isBlank c) ++ c :: scanned.1, scanned.2)
      else some ([], (first, more), ⟨mark, c :: rest⟩)
  | .line blank, mark, c :: rest =>
      if isBreak c then
        scanLines literal indent (.margin (some (foldBreak c)) [] blank) (mark.newLine [c]) rest
      else
        (scanLines literal indent (.line blank) (mark.next c) rest).map fun scanned =>
          (c :: scanned.1, scanned.2)

/-- The text of a block scalar with the line breaks at its end that are kept. -/
def chomp (chomping : Chomping) (text : List Char) (first : Option Char) (more : List Char) :
    List Char :=
  match chomping with
  | .strip => text
  | .clip => text ++ first.toList
  | .keep => text ++ first.toList ++ more

/-- The indentation of the lines of a block scalar: relative to the block around it if that is
given, and otherwise found in the text. The least indentation is one more than that of the block
around it and never zero. -/
def blockIndent? (leastIndent : Nat) (increment : Option Nat) (start : Cursor) : Option Nat :=
  match increment with
  | some increment => some (leastIndent - 1 + increment)
  | none =>
      (leadingIndent start.mark.column 0 start.rest).map fun found => max found (max leastIndent 1)

/-- Scans a block scalar behind its indicator. -/
def scanBlock (literal : Bool) (leastIndent : Nat) (cursor : Cursor) :
    Option (List Char × Cursor) := do
  let (header, afterHeader) ← readHeader cursor.rest
  let start ← (cursor.moveTo afterHeader).finishLine
  let indent ← blockIndent? leastIndent header.increment start
  let (text, (first, more), stop) ←
    scanLines literal indent (.margin none [] false) start.mark start.rest
  return (chomp header.chomping text first more, stop)

end CognitiveKernel.Yaml
