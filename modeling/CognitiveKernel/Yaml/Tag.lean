/-
Module: CognitiveKernel.Yaml.Tag
Purpose: Scanning tags, and the handles and replacements that tags are made of.
Main exports: scanUri, scanHandle, scanTag, scanName
-/
import CognitiveKernel.Yaml.Cursor
import CognitiveKernel.Yaml.Scalar.Quoted
import CognitiveKernel.Yaml.Token

namespace CognitiveKernel.Yaml

/-! ### Characters of tags -/

/-- The characters of a tag. A tag in angle brackets and a replacement for a handle may also hold
commas and square brackets. -/
def isTagChar (wide : Bool) (c : Char) : Bool :=
  isWordChar c || c = ';' || c = '/' || c = '?' || c = ':' || c = '@' || c = '&' || c = '=' ||
    c = '+' || c = '$' || c = '.' || c = '%' || c = '!' || c = '~' || c = '*' || c = '\'' ||
    c = '(' || c = ')' || (wide && (c = ',' || c = '[' || c = ']'))

/-- How many octets follow the first octet of an encoded character, and what the first one
contributes to its code. -/
def leadingOctet? (octet : Nat) : Option (Nat × Nat) :=
  if octet < 0x80 then some (0, octet)
  else if octet < 0xC0 then none
  else if octet < 0xE0 then some (1, octet - 0xC0)
  else if octet < 0xF0 then some (2, octet - 0xE0)
  else if octet < 0xF8 then some (3, octet - 0xF0)
  else none

/-- The least code that needs a number of octets after the first one. -/
def leastCode : Nat → Nat
  | 0 => 0
  | 1 => 0x80
  | 2 => 0x800
  | _ => 0x10000

/-- Where the scan of a tag stands. -/
inductive UriState where
  /-- Between characters. -/
  | text
  /-- Inside an escaped character of some octets after the first, of which a positive number is
  left, with the code so far. -/
  | octets (following left code : Nat)

/-- What an escaped octet leads to: the rest of its character, or the character itself. One that
is encoded wrongly has no value. -/
def UriState.push? (octet : Nat) : UriState → Option (UriState ⊕ Option Char)
  | .text =>
      match leadingOctet? octet with
      | none => none
      | some (0, code) => some (.inr (charOfCode? code))
      | some (following, code) => some (.inl (.octets following following code))
  | .octets following left code =>
      if octet < 0x80 ∨ 0xC0 ≤ octet then none
      else
        let code := 64 * code + (octet - 0x80)
        if 1 < left then some (.inl (.octets following (left - 1) code))
        else if code < leastCode following then some (.inr none)
        else some (.inr (charOfCode? code))

/-- Scans the characters of a tag as far as they go. -/
def scanUri (wide : Bool) : UriState → List Char → Option (TagText × List Char)
  | state, '%' :: high :: low :: rest =>
      match Hexadecimal.value? high, Hexadecimal.value? low with
      | some high, some low =>
          match state.push? (16 * high + low) with
          | none => none
          | some (.inl state) => scanUri wide state rest
          | some (.inr c) =>
              (scanUri wide .text rest).map fun scanned => (c :: scanned.1, scanned.2)
      | _, _ => none
  | .octets _ _ _, _ => none
  | .text, [] => some ([], [])
  | .text, c :: rest =>
      if c = '%' then none
      else if isTagChar wide c then
        (scanUri wide .text rest).map fun scanned => (some c :: scanned.1, scanned.2)
      else some ([], c :: rest)

/-- A tag ends at the first NUL that is escaped in it. -/
def endAtNul (text : TagText) : TagText :=
  text.takeWhile (· ≠ some '\x00')

/-! ### Tags -/

/-- Scans a handle: an exclamation mark, a name, and another mark if there is one. The answer tells
whether there is. -/
def scanHandle : List Char → Option (String × Bool × List Char)
  | '!' :: rest =>
      let name := rest.takeWhile isWordChar
      match rest.dropWhile isWordChar with
      | '!' :: rest => some (String.ofList ('!' :: name ++ ['!']), true, rest)
      | rest => some (String.ofList ('!' :: name), false, rest)
  | _ => none

/-- Whether a text may follow a tag. -/
def endsTag (flow : Bool) (text : List Char) : Bool :=
  endsWord text || (flow && text.head? = some ',')

/-- Scans a tag in angle brackets behind the opening one. -/
def scanVerbatimTag (text : List Char) : Option (Token × List Char) :=
  match scanUri true .text text with
  | some (uri, '>' :: rest) => if uri.isEmpty then none else some (.tag "" (endAtNul uri), rest)
  | _ => none

/-- Scans a tag that begins with a handle. Without a second exclamation mark the name belongs to the
suffix, and an exclamation mark alone is a tag of its own. -/
def scanShortTag (text : List Char) : Option (Token × List Char) :=
  match scanHandle text with
  | none => none
  | some (handle, true, rest) =>
      match scanUri false .text rest with
      | some (uri, rest) => if uri.isEmpty then none else some (.tag handle (endAtNul uri), rest)
      | none => none
  | some (handle, false, rest) =>
      match scanUri false .text rest with
      | some (uri, rest) =>
          let suffix := endAtNul (handle.toList.tail.map some ++ uri)
          some (if suffix.isEmpty then .tag "" [some '!'] else .tag "!" suffix, rest)
      | none => none

def scanTag (flow : Bool) (text : List Char) : Option (Token × List Char) :=
  let scanned := match text with
    | '!' :: '<' :: rest => scanVerbatimTag rest
    | _ => scanShortTag text
  scanned.filter fun (_, rest) => endsTag flow rest

/-! ### Names of anchors and aliases -/

/-- Whether a text may follow the name of an anchor or an alias. -/
def endsName (text : List Char) : Bool :=
  endsWord text || text.head?.any fun c =>
    c = '?' || c = ':' || c = ',' || c = ']' || c = '\x7d' || c = '%' || c = '@' || c = '\x60'

/-- Scans the name of an anchor or an alias. -/
def scanName (text : List Char) : Option (String × List Char) :=
  let name := text.takeWhile isWordChar
  let rest := text.dropWhile isWordChar
  if name.isEmpty || !endsName rest then none else some (String.ofList name, rest)

end CognitiveKernel.Yaml
