/-
Module: CognitiveKernel.Yaml.Scalar.Plain
Purpose: Scanning scalars without quotes.
Main exports: startsPlain, scanPlain
-/
import CognitiveKernel.Yaml.Scalar.Gap

namespace CognitiveKernel.Yaml

/-- The characters that cannot start a plain scalar. -/
def isIndicator (c : Char) : Bool :=
  c = '-' || c = '?' || c = ':' || isFlowIndicator c || c = '#' || c = '&' || c = '*' || c = '!' ||
    c = '|' || c = '>' || c = '\'' || c = '"' || c = '%' || c = '@' || c = '\x60'

/-- Whether a plain scalar starts here: with no indicator, or with a hyphen, and in a block also a
question mark or a colon, that does not stand alone. -/
def startsPlain (flow : Bool) : List Char → Bool
  | [] => false
  | c :: rest =>
      !(isBlank c || isBreak c || isIndicator c) ||
        (c = '-' && !(rest.head?.any isBlank)) ||
        (!flow && (c = '?' || c = ':') && !endsWord rest)

/-- Whether a colon in a flow collection stands before one of its delimiters. -/
def isStrayColon (flow : Bool) (c : Char) (rest : List Char) : Bool :=
  flow && c = ':' && rest.head?.any fun following => isFlowIndicator following || following = '?'

/-- Whether a plain scalar ends before a character, whatever precedes it. -/
def endsPlain (flow : Bool) (c : Char) (rest : List Char) : Bool :=
  (c = ':' && endsWord rest) || (flow && isFlowIndicator c)

/-- Whether a plain scalar ends between a gap and the next word. -/
def endsAfterGap (flow : Bool) (indent : Nat) (mark : Mark) (gap : Gap) (text : List Char) : Bool :=
  gap ≠ Gap.none &&
    ((!flow && mark.column < indent) || (mark.column = 0 && isDocumentMarker text) ||
      text.head? = some '#')

/-- Scans a plain scalar to its end. The answer is its text, whether a line break was passed behind
it, and where the scan stopped: behind the blanks and line breaks that follow the scalar. Lines
that go on with the scalar are indented, and not with tabs. -/
def scanPlain (flow : Bool) (indent : Nat) :
    Mark → Gap → List Char → Option (List Char × Bool × Cursor)
  | mark, gap, [] => some ([], gap.hasBreak, ⟨mark, []⟩)
  | mark, gap, '\r' :: '\n' :: rest =>
      scanPlain flow indent (mark.newLine crlf) (gap.addBreak '\n') rest
  | mark, gap, c :: rest =>
      if isBreak c then scanPlain flow indent (mark.newLine [c]) (gap.addBreak c) rest
      else if isBlank c then
        if gap.hasBreak && mark.column < indent && c = '\t' then none
        else scanPlain flow indent (mark.next c) (gap.addBlank c) rest
      else if endsAfterGap flow indent mark gap (c :: rest) then
        some ([], gap.hasBreak, ⟨mark, c :: rest⟩)
      else if isStrayColon flow c rest then none
      else if endsPlain flow c rest then some ([], gap.hasBreak, ⟨mark, c :: rest⟩)
      else
        (scanPlain flow indent (mark.next c) Gap.none rest).map fun scanned =>
          (gap.fold ++ c :: scanned.1, scanned.2)

end CognitiveKernel.Yaml
