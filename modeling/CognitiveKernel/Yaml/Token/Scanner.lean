/-
Module: CognitiveKernel.Yaml.Token.Scanner
Purpose: The state of a scan of a YAML text: levels of indentation and keys that are not marked.
Main exports: Candidate, Scanner, Scanner.toNextToken
-/
import CognitiveKernel.Yaml.Cursor
import CognitiveKernel.Yaml.Token

namespace CognitiveKernel.Yaml

/-!
A key need not be marked as one: that something was a key turns out at the colon behind it. So the
scanner remembers where the latest thing that can be a key began, for each flow collection that is
open and for the block around them, and puts the token for a key in its place afterwards. What was
remembered lapses at the end of the line.
-/

/-- Something that is a key if a colon follows. -/
structure Candidate where
  /-- Whether the block collection that is open admits nothing else here. -/
  required : Bool
  /-- How many tokens precede it. -/
  position : Nat
  /-- Where it begins. -/
  mark : Mark
deriving Repr, DecidableEq

/-- The longest extent of a key that is not marked, in octets. -/
def longestKey : Nat := 1024

/-- Whether a candidate is still one at a position: on the same line and not too far away. -/
def Candidate.reaches (candidate : Candidate) (mark : Mark) : Bool :=
  candidate.mark.line = mark.line && mark.offset ≤ candidate.mark.offset + longestKey

/-- Forgets a candidate, unless it has to be a key. -/
def dropCandidate (candidate : Option Candidate) : Option (Option Candidate) :=
  if candidate.any Candidate.required then none else some none

/-- Forgets a candidate that does not reach a position. -/
def expireCandidate (mark : Mark) (candidate : Option Candidate) : Option (Option Candidate) :=
  if candidate.all (·.reaches mark) then some candidate else dropCandidate candidate

structure Scanner where
  cursor : Cursor
  /-- The columns of the block collections that are open, innermost first. -/
  levels : List Nat
  /-- The candidate of the innermost flow collection, or of the block if none is open. -/
  candidate : Option Candidate
  /-- The candidates of the collections around it, one for each flow collection that is open. -/
  outer : List (Option Candidate)
  /-- Whether a key that is not marked may begin here. -/
  keyAllowed : Bool
  /-- The tokens so far, latest first. -/
  tokens : List Token
deriving Repr, DecidableEq

namespace Scanner

def start (text : List Char) : Scanner :=
  { cursor := ⟨Mark.start, text⟩
    levels := []
    candidate := none
    outer := []
    keyAllowed := true
    tokens := [] }

def inFlow (scanner : Scanner) : Bool := !scanner.outer.isEmpty

def column (scanner : Scanner) : Nat := scanner.cursor.mark.column

/-- The least column of what belongs to the innermost block collection. -/
def floor (scanner : Scanner) : Nat :=
  match scanner.levels with
  | [] => 0
  | level :: _ => level + 1

def emit (scanner : Scanner) (token : Token) : Scanner :=
  { scanner with tokens := token :: scanner.tokens }

def moveTo (scanner : Scanner) (rest : List Char) : Scanner :=
  { scanner with cursor := scanner.cursor.moveTo rest }

/-! ### Indentation -/

/-- Whether a block collection at a column is deeper than those that are open. -/
def isDeeper (scanner : Scanner) (column : Nat) : Bool :=
  !scanner.inFlow && scanner.floor ≤ column

/-- Opens a block collection at the current column if that is deeper. -/
def openBlock (scanner : Scanner) (opening : Token) : Scanner :=
  if scanner.isDeeper scanner.column then
    { scanner with
      levels := scanner.column :: scanner.levels
      tokens := opening :: scanner.tokens }
  else scanner

/-- Closes the block collections at the given columns that are deeper than a column. -/
def closeLevels (column : Nat) : List Nat → List Token → List Nat × List Token
  | [], tokens => ([], tokens)
  | level :: levels, tokens =>
      if column < level then closeLevels column levels (.blockEnd :: tokens)
      else (level :: levels, tokens)

/-- Closes the block collections that are deeper than the current column. -/
def closeDeeper (scanner : Scanner) : Scanner :=
  if scanner.inFlow then scanner
  else
    let (levels, tokens) := closeLevels scanner.column scanner.levels scanner.tokens
    { scanner with levels := levels, tokens := tokens }

def closeAll (scanner : Scanner) : Scanner :=
  if scanner.inFlow then scanner
  else
    { scanner with
      levels := []
      tokens := scanner.levels.map (fun _ => Token.blockEnd) ++ scanner.tokens }

/-! ### Candidates -/

/-- Forgets the candidate of the innermost collection. -/
def withoutCandidate (scanner : Scanner) : Option Scanner :=
  (dropCandidate scanner.candidate).map fun candidate => { scanner with candidate := candidate }

/-- Forgets all candidates that do not reach the current position. -/
def expireCandidates (scanner : Scanner) : Option Scanner := do
  let candidate ← expireCandidate scanner.cursor.mark scanner.candidate
  let outer ← scanner.outer.mapM (expireCandidate scanner.cursor.mark)
  return { scanner with candidate := candidate, outer := outer }

/-- Remembers that what begins here may be a key. -/
def withCandidate (scanner : Scanner) : Option Scanner :=
  if scanner.keyAllowed then
    let required := !scanner.inFlow && scanner.levels.head? = some scanner.column
    let candidate : Candidate := ⟨required, scanner.tokens.length, scanner.cursor.mark⟩
    (dropCandidate scanner.candidate).map fun _ => { scanner with candidate := some candidate }
  else some scanner

/-- The tokens with the given ones put in behind the first of them. -/
def insertTokens (position : Nat) (inserted tokens : List Token) : List Token :=
  let later := tokens.length - position
  tokens.take later ++ inserted ++ tokens.drop later

/-- Makes a candidate a key, and the beginning of a block mapping if it stands deeper. -/
def resolveCandidate (scanner : Scanner) (candidate : Candidate) : Scanner :=
  let column := candidate.mark.column
  let deeper := scanner.isDeeper column
  { scanner with
    levels := if deeper then column :: scanner.levels else scanner.levels
    tokens :=
      insertTokens candidate.position
        (if deeper then [.key, .blockMappingStart] else [.key]) scanner.tokens
    candidate := none
    keyAllowed := false }

/-! ### Between tokens -/

/-- Moves over blanks, comments and line breaks. Tabs count as blanks where no key may begin. A
line break outside of flow collections allows a key. A byte order mark counts as a blank at the
beginning of a line. -/
def skipToToken (flow : Bool) : Bool → Bool → Mark → List Char → Bool × Cursor
  | keyAllowed, _, mark, [] => (keyAllowed, ⟨mark, []⟩)
  | keyAllowed, _, mark, '\r' :: '\n' :: rest =>
      skipToToken flow (keyAllowed || !flow) false (mark.newLine crlf) rest
  | keyAllowed, comment, mark, c :: rest =>
      if isBreak c then skipToToken flow (keyAllowed || !flow) false (mark.newLine [c]) rest
      else if comment || c = ' ' || (c = '\t' && (flow || !keyAllowed)) ||
          (c = byteOrderMark && mark.column = 0) then
        skipToToken flow keyAllowed comment (mark.next c) rest
      else if c = '#' then skipToToken flow keyAllowed true (mark.next c) rest
      else (keyAllowed, ⟨mark, c :: rest⟩)

/-- Moves to the next token: what lies between is passed over, candidates that do not reach that
far are forgotten, and deeper block collections are closed. -/
def toNextToken (scanner : Scanner) : Option Scanner :=
  let (keyAllowed, cursor) :=
    skipToToken scanner.inFlow scanner.keyAllowed false scanner.cursor.mark scanner.cursor.rest
  ({ scanner with cursor := cursor, keyAllowed := keyAllowed }).expireCandidates.map closeDeeper

end Scanner

end CognitiveKernel.Yaml
