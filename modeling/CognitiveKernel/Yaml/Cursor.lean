/-
Module: CognitiveKernel.Yaml.Cursor
Purpose: Positions in a YAML text, and what stands at a position.
Main exports: Mark, Cursor, Cursor.finishLine, isDocumentMarker
-/
import CognitiveKernel.Yaml.Character

namespace CognitiveKernel.Yaml

structure Mark where
  /-- Octets before the position, in UTF-8. -/
  offset : Nat
  /-- Line breaks before the position. -/
  line : Nat
  /-- Characters before the position in its line. -/
  column : Nat
deriving Repr, DecidableEq

namespace Mark

def start : Mark := ⟨0, 0, 0⟩

/-- The position behind one character of the same line. -/
def next (mark : Mark) (c : Char) : Mark :=
  ⟨mark.offset + c.utf8Size, mark.line, mark.column + 1⟩

/-- The position behind some characters of the same line. -/
def advance (mark : Mark) (text : List Char) : Mark :=
  text.foldl next mark

/-- The position behind the characters of a line break. -/
def newLine (mark : Mark) (text : List Char) : Mark :=
  ⟨(mark.advance text).offset, mark.line + 1, 0⟩

end Mark

/-- A position together with the text behind it. -/
structure Cursor where
  mark : Mark
  rest : List Char
deriving Repr, DecidableEq

/-- The cursor behind some characters of the same line, given what is left of its text. -/
def Cursor.moveTo (cursor : Cursor) (rest : List Char) : Cursor :=
  ⟨cursor.mark.advance (cursor.rest.take (cursor.rest.length - rest.length)), rest⟩

/-- Whether three characters of one kind stand alone: `---` and `...` delimit documents. -/
def isMarkerOf (c : Char) : List Char → Bool
  | first :: second :: third :: rest => first = c && second = c && third = c && endsWord rest
  | _ => false

/-- Whether a text starts with a document marker. -/
def isDocumentMarker (text : List Char) : Bool :=
  isMarkerOf '-' text || isMarkerOf '.' text

/-- The end of a line that holds only blanks and a comment: its line break, which has no characters
at the end of the text, and what follows it. Anything else is refused. -/
def finishLine (text : List Char) : Option (List Char × List Char) :=
  let afterBlanks := text.dropWhile isBlank
  let atEnd :=
    if afterBlanks.head? = some '#' then afterBlanks.dropWhile (!isBreak ·) else afterBlanks
  match atEnd with
  | [] => some ([], [])
  | '\r' :: '\n' :: rest => some (crlf, rest)
  | c :: rest => if isBreak c then some ([c], rest) else none

/-- Moves a cursor over the rest of a line that holds only blanks and a comment. -/
def Cursor.finishLine (cursor : Cursor) : Option Cursor :=
  (Yaml.finishLine cursor.rest).map fun (lineBreak, rest) =>
    let atBreak := cursor.moveTo (lineBreak ++ rest)
    if lineBreak.isEmpty then atBreak else ⟨atBreak.mark.newLine lineBreak, rest⟩

end CognitiveKernel.Yaml
