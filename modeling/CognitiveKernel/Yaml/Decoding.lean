/-
Module: CognitiveKernel.Yaml.Decoding
Purpose: Reading numbers, texts, tags, sequences, maps and records out of YAML documents.
Main exports: Yaml.Decoder, Yaml.number, Yaml.text, Yaml.variant, Yaml.record, Yaml.decodeText
-/
import CognitiveKernel.Document.Reading
import CognitiveKernel.Error
import CognitiveKernel.Yaml.Document
import CognitiveKernel.Yaml.Resolution

namespace CognitiveKernel.Yaml

open CognitiveKernel.Document (Fault Found Step Entry Record Reading)

abbrev Decoder (α : Type) := Document → Node Nat → Except Fault α

/-! ### Tags -/

/-- A tag of the standard repertoire. -/
def standardTag (name : String) : TagText :=
  ("tag:yaml.org,2002:" ++ name).toList.map some

/-- The name in a tag of the document's own: what follows the exclamation mark, or the mark itself
where nothing does. A name that is not encoded correctly is no name. -/
def localName? {ρ : Type} (properties : Properties ρ) : Option String :=
  match properties.tag with
  | some [some '!'] => some "!"
  | some (some '!' :: name) => (name.mapM id).map String.ofList
  | _ => none

/-- Whether a tag is one of the document's own. -/
def isLocal (tag : TagText) : Bool := tag.head? = some (some '!')

/-! ### Faults -/

/-- Why a scalar with a standard tag is refused, given what it denotes under that tag and in which
words the tag asks for that. -/
def taggedCause (found : Option Found) (text asked expected : String) : Document.Cause :=
  match found with
  | some found => .wrongType found expected
  | none => .wrongValue text asked

/-- Why a scalar is refused. A standard tag for words and numbers has the last word and may be at
odds with the text; a tag of the document's own leaves the meaning of a plain scalar as it is. -/
def scalarCause (properties : Properties Nat) (style : ScalarStyle) (text expected : String) :
    Document.Cause :=
  let untagged : Found := if style = .plain then resolve text else .text text
  match properties.tag with
  | none => .wrongType untagged expected
  | some tag =>
      if tag = standardTag "bool" then
        taggedCause ((boolean? text).map .boolean) text "a boolean" expected
      else if tag = standardTag "int" then
        taggedCause (resolveInteger? text) text "an integer" expected
      else if tag = standardTag "float" then
        taggedCause ((number? text).map .floating) text "a float" expected
      else if tag = standardTag "null" then
        taggedCause (if isNullWord text then some .nothing else none) text "null" expected
      else .wrongType (if isLocal tag then untagged else .text text) expected

/-- The fault of a node of the wrong kind. -/
def mismatch (document : Document) (node : Node Nat) (expected : String) : Fault :=
  match document.follow node with
  | .alias _ => .malformed
  | .sequence _ _ => .here (.wrongType .sequence expected)
  | .mapping _ _ => .here (.wrongType .mapping expected)
  | .scalar properties style text => .here (scalarCause properties style text expected)

/-! ### Scalars -/

/-- Whether a scalar is read by its spelling: it is plain, or literal with the given tag. -/
def isSpelled (tag : TagText) (properties : Properties Nat) (style : ScalarStyle) : Bool :=
  style = .plain || (style = .literal && properties.tag = some tag)

/-- Reads a scalar by its spelling. -/
def spelled {α : Type} (tag : TagText) (read : String → Option α) (expected : String) :
    Decoder α := fun document node =>
  let fault := mismatch document node expected
  match document.follow node with
  | .scalar properties style text =>
      if isSpelled tag properties style then (read text).elim (.error fault) .ok else .error fault
  | _ => .error fault

def number : Decoder Binary64 := spelled (standardTag "float") number? "f64"

def boolean : Decoder Bool := spelled (standardTag "bool") boolean? "a boolean"

/-- Reads the text of a scalar, whatever it denotes. -/
def textAs (expected : String) : Decoder String := fun document node =>
  match document.follow node with
  | .scalar _ _ text => .ok text
  | _ => .error (mismatch document node expected)

def text : Decoder String := textAs "a string"

/-- Reads a path that may be absent. A fault in a tag is reported at the record around it. -/
def optionalPath : Decoder (Option String) := fun document node =>
  let present := (textAs "path string" document node).map some
  match document.follow node with
  | .scalar properties .plain text =>
      match properties.tag with
      | none => if denotesNothing text then .ok none else present
      | some tag =>
          if tag ≠ standardTag "null" then present
          else if isNullWord text then .ok none
          else .error (.refused .around (.wrongValue text "null"))
  | _ => present

/-! ### Tagged values -/

/-- Finds what a tag names among the possible tags. -/
def tagged {α : Type} (tags : List String) (ofTag? : String → Option α)
    (place : Document.Place) (tag : String) : Except Fault α :=
  match ofTag? tag with
  | some result => .ok result
  | none => .error (.refused place (.unknownVariant tag tags))

/-- Reads a node without content, whose tag does not count. -/
def nothing : Decoder Unit := fun document node =>
  match document.follow node with
  | .scalar _ style text =>
      if style = .plain && denotesNothing text then .ok ()
      else .error (.here (.wrongValue text "null"))
  | _ => .error (mismatch document node "unit")

/-- Where an unknown tag of a node is reported: at the value if it is an alias, and otherwise at the
record around it. -/
def tagPlace : Node Nat → Document.Place
  | .alias _ => .below []
  | _ => .around

/-- Reads one of several named values: its tag as a text, or a node without content that has it
as a tag of its own. -/
def variant {α : Type} (tags : List String) (ofTag? : String → Option α) : Decoder α :=
  fun document node =>
    let byTag (name : String) : Except Fault α := do
      let result ← tagged tags ofTag? (tagPlace node) name
      nothing document node
      return result
    let untagged := .error (mismatch document node "a YAML tag starting with '!'")
    match document.follow node with
    | .scalar properties _ text =>
        match localName? properties with
        | some name => byTag name
        | none => tagged tags ofTag? (.below []) text
    | .sequence properties _ => (localName? properties).elim untagged byTag
    | .mapping properties _ => (localName? properties).elim untagged byTag
    | .alias _ => untagged

/-! ### Collections -/

/-- Whether a node is a plain scalar without text, which stands for any empty collection. -/
def isBare : Node Nat → Bool
  | .scalar _ style text => style = .plain && text = ""
  | _ => false

/-- The items of a sequence. A plain scalar without text has none. -/
def items? (document : Document) (node : Node Nat) : Option (List (Node Nat)) :=
  match document.follow node with
  | .sequence _ items => some items
  | other => if isBare other then some [] else none

def readItems {α : Type} (item : Decoder α) (document : Document) (nodes : List (Node Nat)) :
    Except Fault (List α) :=
  nodes.zipIdx.mapM fun (node, position) =>
    (item document node).mapError (·.within (.index position))

def sequence {α : Type} (item : Decoder α) : Decoder (List α) := fun document node =>
  match items? document node with
  | some nodes => readItems item document nodes
  | none => .error (mismatch document node "a sequence")

/-- Reads a sequence of a fixed length. Items beyond that length are only counted. -/
def row {α : Type} (length : Nat) (item : Decoder α) : Decoder (Vector α length) :=
  fun document node =>
    let size := Decimal.natText length
    match items? document node with
    | none => .error (mismatch document node ("an array of length " ++ size))
    | some nodes => do
        let values ← readItems item document (nodes.take length)
        if h : values.toArray.size = length then
          if nodes.length ≤ length then return ⟨values.toArray, h⟩
          else throw (.here (.wrongLength nodes.length ("sequence of " ++ size ++ " elements")))
        else throw (.here (.wrongLength values.length ("an array of length " ++ size)))

/-- The entries of a mapping. A plain scalar without text has none. -/
def entries? (document : Document) (node : Node Nat) : Option (List (Node Nat × Node Nat)) :=
  match document.follow node with
  | .mapping _ entries => some entries
  | other => if isBare other then some [] else none

/-- The step from a mapping to the value of a key, which has a name only where it is written as a
scalar. -/
def stepOf : Node Nat → Step
  | .scalar _ _ name => .field name
  | _ => .unnamed

def entryValue {α : Type} (value : Decoder α) (document : Document) (key node : Node Nat) :
    Except Fault α :=
  (value document node).mapError (·.within (stepOf key))

def mapEntry {α : Type} (value : Decoder α) (document : Document) (entry : Node Nat × Node Nat) :
    Except Fault (String × α) := do
  let name ← text document entry.1
  let held ← entryValue value document entry.1 entry.2
  return (name, held)

/-- Reads a map from texts to values. Of several entries with one key the last counts. -/
def nameMap {α : Type} (value : Decoder α) : Decoder (NameMap α) := fun document node =>
  match entries? document node with
  | some entries => (entries.mapM (mapEntry value document)).map NameMap.ofList
  | none => .error (mismatch document node "a map")

/-! ### Records -/

/-- Checks that all keys of a record are texts. -/
def readableKeys (document : Document) (entries : List (Node Nat × Node Nat)) : Reading Unit :=
  let faults := entries.zipIdx.filterMap fun (entry, position) =>
    match textAs "field identifier" document entry.1 with
    | .ok _ => none
    | .error fault => some (position, fault)
  match faults with
  | [] => .value ()
  | (position, fault) :: _ => .fault position fault

/-- The entries of a record whose keys are texts. -/
def namedEntries (document : Document) (entries : List (Node Nat × Node Nat)) :
    List (Entry (Node Nat × Node Nat)) :=
  entries.zipIdx.filterMap fun (entry, position) =>
    match text document entry.1 with
    | .ok name => some ⟨position, name, entry⟩
    | .error _ => none

/-- A record of a document, whose fields can be read. -/
structure Fields where
  document : Document
  record : Record (Node Nat × Node Nat)

/-- Reads a field; a value for its absence is used when it has no entry. -/
def Fields.read {α : Type} (fields : Fields) (name : String) (absent : Option α)
    (value : Decoder α) : Reading α :=
  fields.record.field name absent fun entry =>
    entryValue value fields.document entry.1 entry.2

/-- Reads a record: a mapping with its fields in any order. -/
def record {α : Type} (name : String) (read : Fields → Reading α) : Decoder α :=
  fun document node =>
    match entries? document node with
    | none => .error (mismatch document node ("struct " ++ name))
    | some entries =>
        let fields : Fields :=
          { document := document
            record :=
              { size := entries.length
                entries := namedEntries document entries
                missing := fun field => .here (.missingField field) } }
        ((fun _ result => result) <$> readableKeys document entries <*> read fields).result

/-! ### Texts -/

/-- Reads a text as one document and decodes its root. A document without content is read as an
empty scalar, or as nothing where a value is needed. -/
def decodeText {α : Type} (needed : Bool) (decode : Decoder α) (text : String) :
    Except KernelError α :=
  match Document.ofText? text with
  | none => .error (.yaml .malformed)
  | some document =>
      match document.root with
      | some root => (decode document root).mapError .yaml
      | none =>
          if needed then .error (.yaml (.here .noValue))
          else (decode document .empty).mapError .yaml

end CognitiveKernel.Yaml
