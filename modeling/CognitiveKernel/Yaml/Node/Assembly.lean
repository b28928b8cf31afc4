/-
Module: CognitiveKernel.Yaml.Node.Assembly
Purpose: Putting the tokens of a YAML text together to the tree of its document.
Main exports: Node.read, Node.ofTokens?
-/
import CognitiveKernel.Yaml.Node

namespace CognitiveKernel.Yaml

/-! ### Properties -/

/-- What the handles of tags stand for; the first entry for a handle counts. -/
abbrev TagHandles := List (String × TagText)

/-- The handles that need no declaration. -/
def standardHandles : TagHandles :=
  [("!", [some '!']), ("!!", "tag:yaml.org,2002:".toList.map some)]

/-- The tag that a handle and a suffix stand for. Without a handle it is the suffix. -/
def resolveTag (handles : TagHandles) (handle : String) (suffix : TagText) : Option TagText :=
  if handle = "" then some suffix else (handles.lookup handle).map (· ++ suffix)

/-- Reads the properties of a node, in either order. -/
def readProperties (handles : TagHandles) : List Token → Option (Properties String × List Token)
  | .anchor name :: .tag handle suffix :: rest
  | .tag handle suffix :: .anchor name :: rest =>
      (resolveTag handles handle suffix).map fun tag => (⟨some name, some tag⟩, rest)
  | .anchor name :: rest => some (⟨some name, none⟩, rest)
  | .tag handle suffix :: rest =>
      (resolveTag handles handle suffix).map fun tag => (⟨none, some tag⟩, rest)
  | tokens => some (Properties.none, tokens)

def Properties.isGiven {ρ : Type} (properties : Properties ρ) : Bool :=
  properties.anchor.isSome || properties.tag.isSome

/-! ### Collections -/

/-- Reads a node from the beginning of some tokens. The answer is the node and the tokens behind
it. -/
abbrev NodeReader := List Token → Option (Node String × List Token)

/-- Reads a node, which is empty when the next token is one of the given ones. -/
def readUnless (stops : List Token) (read : NodeReader) : NodeReader := fun tokens =>
  if tokens.head?.any stops.contains then some (.empty, tokens) else read tokens

/-- Reads the value of an entry, which is empty when it is not marked. -/
def readValue (stops : List Token) (read : NodeReader) : NodeReader
  | .value :: rest => readUnless stops read rest
  | tokens => some (.empty, tokens)

/-- Reads a key and its value behind the mark of the key. -/
def readEntry (stops : List Token) (read : NodeReader) (tokens : List Token) :
    Option ((Node String × Node String) × List Token) := do
  let (key, rest) ← readUnless (.value :: stops) read tokens
  let (value, rest) ← readValue stops read rest
  return ((key, value), rest)

/-- Reads the items of a block sequence and its end. -/
def readBlockItems (read : NodeReader) : Nat → List Token → Option (List (Node String) × List Token)
  | fuel + 1, .blockEntry :: rest => do
      let (item, rest) ← readUnless [.blockEntry, .blockEnd] read rest
      let (items, rest) ← readBlockItems read fuel rest
      return (item :: items, rest)
  | _, .blockEnd :: rest => some ([], rest)
  | _, _ => none

/-- Reads the items of a sequence that is not indented. Its end is not marked. -/
def readBareItems (read : NodeReader) : Nat → List Token → Option (List (Node String) × List Token)
  | fuel + 1, .blockEntry :: rest => do
      let (item, rest) ← readUnless [.blockEntry, .key, .value, .blockEnd] read rest
      let (items, rest) ← readBareItems read fuel rest
      return (item :: items, rest)
  | _, rest => some ([], rest)

/-- Reads the entries of a block mapping and its end. -/
def readBlockEntries (read : NodeReader) :
    Nat → List Token → Option (List (Node String × Node String) × List Token)
  | fuel + 1, .key :: rest => do
      let (entry, rest) ← readEntry [.key, .value, .blockEnd] read rest
      let (entries, rest) ← readBlockEntries read fuel rest
      return (entry :: entries, rest)
  | _, .blockEnd :: rest => some ([], rest)
  | _, _ => none

/-- Reads the comma before all entries of a flow collection but the first. -/
def readComma (first : Bool) (tokens : List Token) : Option (List Token) :=
  if first then some tokens
  else
    match tokens with
    | .flowEntry :: rest => some rest
    | _ => none

/-- Reads the key of a pair that is an item of a flow sequence. Where the key is not written, the
token in its place is passed over. -/
def readPairKey (read : NodeReader) : NodeReader
  | .value :: rest => some (.empty, rest)
  | .flowEntry :: rest => some (.empty, rest)
  | .flowSequenceEnd :: rest => some (.empty, rest)
  | tokens => read tokens

/-- Reads a pair that is an item of a flow sequence, behind the mark of its key. -/
def readPair (read : NodeReader) (tokens : List Token) : Option (Node String × List Token) := do
  let (key, rest) ← readPairKey read tokens
  let (value, rest) ← readValue [.flowEntry, .flowSequenceEnd] read rest
  return (.mapping .none [(key, value)], rest)

/-- Reads an item of a flow sequence. -/
def readFlowItem (read : NodeReader) : NodeReader
  | .key :: rest => readPair read rest
  | tokens => read tokens

/-- Reads the items of a flow sequence and its end. A comma may stand behind the last item. -/
def readFlowItems (read : NodeReader) :
    Bool → Nat → List Token → Option (List (Node String) × List Token)
  | _, _, .flowSequenceEnd :: rest => some ([], rest)
  | first, fuel + 1, tokens => do
      match ← readComma first tokens with
      | .flowSequenceEnd :: rest => return ([], rest)
      | tokens =>
          let (item, rest) ← readFlowItem read tokens
          let (items, rest) ← readFlowItems read false fuel rest
          return (item :: items, rest)
  | _, 0, _ => none

/-- Reads an entry of a flow mapping. A key that is not marked has no value. -/
def readFlowEntry (read : NodeReader) :
    List Token → Option ((Node String × Node String) × List Token)
  | .key :: rest => readEntry [.flowEntry, .flowMappingEnd] read rest
  | tokens => (read tokens).map fun (key, rest) => ((key, .empty), rest)

/-- Reads the entries of a flow mapping and its end. A comma may stand behind the last entry. -/
def readFlowEntries (read : NodeReader) :
    Bool → Nat → List Token → Option (List (Node String × Node String) × List Token)
  | _, _, .flowMappingEnd :: rest => some ([], rest)
  | first, fuel + 1, tokens => do
      match ← readComma first tokens with
      | .flowMappingEnd :: rest => return ([], rest)
      | tokens =>
          let (entry, rest) ← readFlowEntry read tokens
          let (entries, rest) ← readFlowEntries read false fuel rest
          return (entry :: entries, rest)
  | _, 0, _ => none

/-! ### Nodes -/

inductive Surroundings where
  /-- An item of a block sequence, or the root. -/
  | block
  /-- A part of a block mapping, which may be a sequence that is not indented. -/
  | blockEntry
  | flow
deriving DecidableEq

def Node.read (handles : TagHandles) : Nat → Surroundings → NodeReader
  | 0, _, _ => none
  | _ + 1, _, .alias name :: rest => some (.alias name, rest)
  | fuel + 1, surroundings, tokens =>
      (readProperties handles tokens).bind fun (properties, tokens) =>
        match surroundings, tokens with
        | _, .scalar text style :: rest => some (.scalar properties style text, rest)
        | _, .flowSequenceStart :: rest =>
            (readFlowItems (read handles fuel .flow) true fuel rest).map fun (items, rest) =>
              (.sequence properties items, rest)
        | _, .flowMappingStart :: rest =>
            (readFlowEntries (read handles fuel .flow) true fuel rest).map fun (entries, rest) =>
              (.mapping properties entries, rest)
        | .blockEntry, .blockEntry :: _ =>
            (readBareItems (read handles fuel .block) fuel tokens).map fun (items, rest) =>
              (.sequence properties items, rest)
        | .block, .blockSequenceStart :: rest
        | .blockEntry, .blockSequenceStart :: rest =>
            (readBlockItems (read handles fuel .block) fuel rest).map fun (items, rest) =>
              (.sequence properties items, rest)
        | .block, .blockMappingStart :: rest
        | .blockEntry, .blockMappingStart :: rest =>
            (readBlockEntries (read handles fuel .blockEntry) fuel rest).map fun (entries, rest) =>
              (.mapping properties entries, rest)
        | _, _ =>
            if properties.isGiven then some (.scalar properties .plain "", tokens) else none

/-! ### Documents -/

/-- Reads the directives before a document, given what was declared so far. The version is
declared at most once, as is each handle; only two versions are known. -/
def readDirectives : Option (Nat × Nat) → TagHandles → List Token → Option (TagHandles × List Token)
  | version, handles, .versionDirective major minor :: rest =>
      if version.isNone && major = 1 && (minor = 1 || minor = 2) then
        readDirectives (some (major, minor)) handles rest
      else none
  | version, handles, .tagDirective handle replacement :: rest =>
      if (handles.lookup handle).isNone then
        readDirectives version (handles ++ [(handle, replacement)]) rest
      else none
  | _, handles, tokens => some (handles, tokens)

/-- Whether a document begins with its content, not with directives or a marker. -/
def beginsBare : List Token → Bool
  | .versionDirective _ _ :: _ | .tagDirective _ _ :: _ | .documentStart :: _ => false
  | _ => true

/-- Reads the content of a document behind its marker. -/
def readContent (read : NodeReader) : NodeReader
  | [] => some (.empty, [])
  | .versionDirective major minor :: rest => some (.empty, .versionDirective major minor :: rest)
  | .tagDirective handle text :: rest => some (.empty, .tagDirective handle text :: rest)
  | .documentStart :: rest => some (.empty, .documentStart :: rest)
  | .documentEnd :: rest => some (.empty, .documentEnd :: rest)
  | tokens => read tokens

/-- Reads a document with its directives and its marker, if it has them. -/
def readDocument (fuel : Nat) (tokens : List Token) : Option (Node String × List Token) :=
  if beginsBare tokens then Node.read standardHandles fuel .block tokens
  else
    (readDirectives none [] tokens).bind fun
      | (handles, .documentStart :: rest) =>
          readContent (Node.read (handles ++ standardHandles) fuel .block) rest
      | _ => none

/-- The root of the only document that some tokens spell; there is none if there are no tokens.
Every token takes part in at most three steps of a reader. -/
def Node.ofTokens? (tokens : List Token) : Option (Option (Node String)) :=
  if tokens.isEmpty then some none
  else
    match readDocument (3 * tokens.length + 3) tokens with
    | some (root, rest) => if rest.all (· = .documentEnd) then some (some root) else none
    | none => none

end CognitiveKernel.Yaml
