/-
Module: CognitiveKernel.Yaml.Presentation
Purpose: The way in which a text, a number or a truth value is written as a scalar.
Main exports: Scalar.ofText, Scalar.ofNumber, Tree.ofText, Tree.ofFields
-/
import CognitiveKernel.Binary64.Writing
import CognitiveKernel.Yaml.Cursor
import CognitiveKernel.Yaml.Resolution
import CognitiveKernel.Yaml.Tree

/-- YAML numbers: a point in every number, and an exponent below `10 ^ (-5)` and from `10 ^ 16`
on, without a plus sign. -/
def CognitiveKernel.Decimal.Layout.yaml : CognitiveKernel.Decimal.Layout :=
  ⟨.toEven, some (-4, 16), ['.', '0'], []⟩

namespace CognitiveKernel.Yaml

/-!
A text with line feeds is written as a literal block, a text that would be read as something else
in single quotes, and any other text as it is. Where that way would not give the text back, single
quotes are taken instead of none, and double quotes instead of all else.
-/

/-! ### What a text consists of -/

/-- The characters that are written as they are. -/
def isPrintable (c : Char) : Bool :=
  isAllowed c && c ≠ '\t' && c ≠ '\r' && c ≠ '\x85' && c ≠ byteOrderMark

/-- Whether a text has characters that are only written with a backslash. -/
def hasSpecial (text : List Char) : Bool := text.any (!isPrintable ·)

/-- Whether a character of one class is followed by one of another class. -/
def hasPair (first second : Char → Bool) : List Char → Bool
  | c :: d :: rest => (first c && second d) || hasPair first second (d :: rest)
  | _ => false

def isSpace (c : Char) : Bool := c = ' '

/-- Whether a line of a text ends with a space. -/
def hasSpaceBreak (text : List Char) : Bool := hasPair isSpace isBreak text

/-- Whether a line of a text after the first begins with a space. -/
def hasBreakSpace (text : List Char) : Bool := hasPair isBreak isSpace text

/-- Whether a text ends with a space. -/
def endsWithSpace (text : List Char) : Bool := text.getLast?.any isSpace

/-- The characters that mean something at the beginning of a scalar. -/
def isLeadingIndicator (c : Char) : Bool :=
  c = '#' || isFlowIndicator c || c = '&' || c = '*' || c = '!' || c = '|' || c = '>' ||
    c = '\'' || c = '"' || c = '%' || c = '@' || c = '\x60'

/-- Whether the beginning of a text would be read as something else than a plain scalar. -/
def startsWithIndicator : List Char → Bool
  | [] => false
  | c :: rest =>
      isLeadingIndicator c || ((c = '-' || c = '?' || c = ':') && endsWord rest) ||
        ['-', '-', '-'].isPrefixOf (c :: rest) || ['.', '.', '.'].isPrefixOf (c :: rest)

/-- Whether a text holds the beginning of a comment or the end of a key. -/
def holdsIndicator : List Char → Bool
  | [] => false
  | c :: rest =>
      (c = ':' && endsWord rest) || ((isBlank c || isBreak c) && rest.head? = some '#') ||
        holdsIndicator rest

/-- Whether a text begins or ends with a space or a line break. -/
def isLoose (text : List Char) : Bool :=
  let isMargin (c : Char) := isSpace c || isBreak c
  text.head?.any isMargin || text.getLast?.any isMargin

/-! ### Ways of writing -/

/-- Whether a text can be written without quotes. -/
def allowsPlain (text : List Char) : Bool :=
  !isLoose text && !hasSpecial text && !text.any isBreak && !startsWithIndicator text &&
    !holdsIndicator text

/-- Whether a text can be written in single quotes. -/
def allowsSingleQuotes (text : List Char) : Bool :=
  !hasSpecial text && !hasSpaceBreak text && !hasBreakSpace text

/-- Whether a text can be written as a literal block. -/
def allowsLiteral (text : List Char) : Bool :=
  !hasSpecial text && !hasSpaceBreak text && !endsWithSpace text

/-- Whether a plain scalar is not read as a text, or looks like a number without being one. -/
def isMisread (text : String) : Bool :=
  resolve text ≠ .text text || isPadded text.toList

/-- The way in which a text is written. -/
def styleOf (text : String) : ScalarStyle :=
  let content := text.toList
  if content.contains '\n' then (if allowsLiteral content then .literal else .doubleQuoted)
  else if !isMisread text && allowsPlain content then .plain
  else if allowsSingleQuotes content then .singleQuoted
  else .doubleQuoted

def Scalar.ofText (text : String) : Scalar := ⟨styleOf text, text⟩

/-! ### Numbers and truth values -/

/-- The YAML words for what has no digits. -/
def spelling : Binary64.Spelling := ⟨['.', 'n', 'a', 'n'], ['.', 'i', 'n', 'f']⟩

def Scalar.ofNumber (value : Binary64) : Scalar :=
  ⟨.plain, String.ofList (value.writeWith spelling (Magnitude.write .yaml))⟩

def Scalar.ofBoolean (value : Bool) : Scalar := ⟨.plain, if value then "true" else "false"⟩

/-! ### Trees -/

namespace Tree

def ofText (text : String) : Tree := .scalar (.ofText text)

def ofNumber (value : Binary64) : Tree := .scalar (.ofNumber value)

def ofBoolean (value : Bool) : Tree := .scalar (.ofBoolean value)

/-- A record, or a map, as a tree. -/
def ofFields (fields : List (String × Tree)) : Tree :=
  .mapping (fields.map fun field => (.ofText field.1, field.2))

def ofTexts (texts : List String) : Tree := .sequence (texts.map ofText)

end Tree

end CognitiveKernel.Yaml
