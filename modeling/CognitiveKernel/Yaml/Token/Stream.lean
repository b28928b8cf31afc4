/-
Module: CognitiveKernel.Yaml.Token.Stream
Purpose: Scanning the tokens of a YAML text one after the other.
Main exports: Scanner.step, Token.scan?
-/
import CognitiveKernel.Yaml.Directive
import CognitiveKernel.Yaml.Scalar.Block
import CognitiveKernel.Yaml.Scalar.Plain
import CognitiveKernel.Yaml.Token.Scanner

namespace CognitiveKernel.Yaml

namespace Scanner

/-! ### Documents -/

/-- Scans a directive behind its percent sign. -/
def stepDirective (scanner : Scanner) (rest : List Char) : Option Scanner := do
  let scanner ← scanner.closeAll.withoutCandidate
  let (token, rest) ← scanDirective rest
  let cursor ← (scanner.cursor.moveTo rest).finishLine
  return { scanner with
    cursor := cursor, keyAllowed := false, tokens := token :: scanner.tokens }

/-- Scans the marker before or behind a document. -/
def stepMarker (scanner : Scanner) (token : Token) : Option Scanner :=
  scanner.closeAll.withoutCandidate.map fun scanner =>
    ({ scanner with keyAllowed := false }.emit token).moveTo (scanner.cursor.rest.drop 3)

/-! ### Flow collections -/

/-- Scans the opening bracket of a flow collection. -/
def stepOpening (scanner : Scanner) (token : Token) (rest : List Char) : Option Scanner :=
  scanner.withCandidate.map fun scanner =>
    ({ scanner with
        candidate := none
        outer := scanner.candidate :: scanner.outer
        keyAllowed := true }.emit token).moveTo rest

/-- Scans the closing bracket of a flow collection. -/
def stepClosing (scanner : Scanner) (token : Token) (rest : List Char) : Option Scanner :=
  scanner.withoutCandidate.map fun scanner =>
    ({ scanner with
        candidate := scanner.outer.head?.join
        outer := scanner.outer.tail
        keyAllowed := false }.emit token).moveTo rest

/-- Scans the comma between entries of a flow collection. -/
def stepComma (scanner : Scanner) (rest : List Char) : Option Scanner :=
  scanner.withoutCandidate.map fun scanner =>
    ({ scanner with keyAllowed := true }.emit .flowEntry).moveTo rest

/-! ### Items, keys and values -/

def stepItem (scanner : Scanner) (rest : List Char) : Option Scanner :=
  if scanner.inFlow || scanner.keyAllowed then
    (scanner.openBlock .blockSequenceStart).withoutCandidate.map fun scanner =>
      ({ scanner with keyAllowed := true }.emit .blockEntry).moveTo rest
  else none

def stepKey (scanner : Scanner) (rest : List Char) : Option Scanner :=
  if scanner.inFlow || scanner.keyAllowed then
    (scanner.openBlock .blockMappingStart).withoutCandidate.map fun scanner =>
      ({ scanner with keyAllowed := !scanner.inFlow }.emit .key).moveTo rest
  else none

/-- Scans the colon before a value. A candidate before it becomes its key. -/
def stepValue (scanner : Scanner) (rest : List Char) : Option Scanner :=
  match scanner.candidate with
  | some candidate => some (((scanner.resolveCandidate candidate).emit .value).moveTo rest)
  | none =>
      if scanner.inFlow || scanner.keyAllowed then
        let scanner := scanner.openBlock .blockMappingStart
        some (({ scanner with keyAllowed := !scanner.inFlow }.emit .value).moveTo rest)
      else none

/-! ### Properties and scalars -/

/-- Adds a token that may begin a key, given the token and what is left of the text. -/
def stepProperty (scanner : Scanner) (scanned : Option (Token × List Char)) : Option Scanner := do
  let scanner ← scanner.withCandidate
  let (token, rest) ← scanned
  return ({ scanner with keyAllowed := false }.emit token).moveTo rest

/-- Adds a scalar that may be a key. A line break behind it allows a key after it. -/
def stepScalar (scanner : Scanner) (style : ScalarStyle)
    (scanned : Option (List Char × Bool × Cursor)) : Option Scanner := do
  let scanner ← scanner.withCandidate
  let (text, passedBreak, cursor) ← scanned
  return { scanner with
    cursor := cursor
    keyAllowed := passedBreak
    tokens := .scalar (String.ofList text) style :: scanner.tokens }

/-- Scans a block scalar behind its indicator. -/
def stepBlockScalar (scanner : Scanner) (style : ScalarStyle) (rest : List Char) :
    Option Scanner := do
  let scanner ← scanner.withoutCandidate
  let (text, cursor) ←
    scanBlock (style = .literal) scanner.floor (scanner.cursor.moveTo rest)
  return { scanner with
    cursor := cursor
    keyAllowed := true
    tokens := .scalar (String.ofList text) style :: scanner.tokens }

/-- Adds what a scan of a quoted scalar found. -/
def stepQuoted (scanner : Scanner) (style : ScalarStyle) (scanned : Option (List Char × Cursor)) :
    Option Scanner :=
  scanner.stepScalar style (scanned.map fun (text, cursor) => (text, false, cursor))

/-! ### One token after the other -/

/-- Scans the token that begins with a character. -/
def step (scanner : Scanner) (c : Char) (rest : List Char) : Option Scanner :=
  let text := c :: rest
  let mark := scanner.cursor.mark
  let flow := scanner.inFlow
  if mark.column = 0 && c = '%' then scanner.stepDirective rest
  else if mark.column = 0 && isMarkerOf '-' text then scanner.stepMarker .documentStart
  else if mark.column = 0 && isMarkerOf '.' text then scanner.stepMarker .documentEnd
  else if c = '[' then scanner.stepOpening .flowSequenceStart rest
  else if c = '\x7b' then scanner.stepOpening .flowMappingStart rest
  else if c = ']' then scanner.stepClosing .flowSequenceEnd rest
  else if c = '\x7d' then scanner.stepClosing .flowMappingEnd rest
  else if c = ',' then scanner.stepComma rest
  else if c = '-' && endsWord rest then scanner.stepItem rest
  else if c = '?' && (flow || endsWord rest) then scanner.stepKey rest
  else if c = ':' && (flow || endsWord rest) then scanner.stepValue rest
  else if c = '*' then
    scanner.stepProperty ((scanName rest).map fun (name, rest) => (.alias name, rest))
  else if c = '&' then
    scanner.stepProperty ((scanName rest).map fun (name, rest) => (.anchor name, rest))
  else if c = '!' then scanner.stepProperty (scanTag flow text)
  else if c = '|' && !flow then scanner.stepBlockScalar .literal rest
  else if c = '>' && !flow then scanner.stepBlockScalar .folded rest
  else if c = '\'' then
    scanner.stepQuoted .singleQuoted (scanSingleQuoted (mark.next c) .none rest)
  else if c = '"' then
    scanner.stepQuoted .doubleQuoted (scanDoubleQuoted (mark.next c) (.text .none) rest)
  else if startsPlain flow text then
    scanner.stepScalar .plain (scanPlain flow scanner.floor mark .none text)
  else none

/-- Ends a scan: all block collections are closed. -/
def finish (scanner : Scanner) : Option (List Token) :=
  scanner.closeAll.withoutCandidate.map fun scanner => scanner.tokens.reverse

/-- Scans the rest of a text, at most a number of tokens. -/
def run : Nat → Scanner → Option (List Token)
  | 0, _ => none
  | fuel + 1, scanner =>
      match scanner.toNextToken with
      | none => none
      | some scanner =>
          match scanner.cursor.rest with
          | [] => scanner.finish
          | c :: rest => (scanner.step c rest).bind (run fuel)

end Scanner

/-- The tokens of a text. Every token has at least one character, so a text has no more tokens than
characters. -/
def Token.scan? (text : String) : Option (List Token) :=
  if text.toList.all isAllowed then
    Scanner.run (text.toList.length + 1) (Scanner.start text.toList)
  else none

end CognitiveKernel.Yaml
