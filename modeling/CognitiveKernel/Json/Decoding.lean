/-
Module: CognitiveKernel.Json.Decoding
Purpose: Reading numbers, texts, tags and records out of JSON values.
Main exports: Json.number, Json.text, Json.sequence, Json.variant, Json.record
-/
import CognitiveKernel.Binary64.Reading
import CognitiveKernel.Document.Reading
import CognitiveKernel.Json.Value

namespace CognitiveKernel.Json

open Document

/-!
A value that is looked at has to denote something: a number beyond double precision and a text
with half of a surrogate pair make the document malformed where they are read, and do no harm
where they are passed over.
-/

/-- Whether a number is spelled without a point and without an exponent. -/
def isIntegerLiteral (literal : List Char) : Bool :=
  literal.all fun c => c ≠ '.' && c ≠ 'e' && c ≠ 'E'

/-- The integer of a literal, when it is spelled as one and fits into 64 bits. A negative zero is
no integer. -/
def integer? (literal : List Char) : Option Int :=
  if isIntegerLiteral literal then
    match literal with
    | '-' :: ds =>
        let size := Decimal.ofDigits ds
        if 0 < size ∧ size ≤ Nat.pow 2 63 then some (-(size : Int)) else none
    | ds =>
        let size := Decimal.ofDigits ds
        if size < Nat.pow 2 64 then some size else none
  else none

/-- The finite double nearest to a literal. -/
def finite? (literal : List Char) : Option Binary64 :=
  (Binary64.ofNumeral? literal).filter Binary64.isFinite

/-- What a value is, for a report. -/
def found? : Value → Option Found
  | .null => some .nothing
  | .boolean value => some (.boolean value)
  | .number literal =>
      match integer? literal with
      | some value => some (.integer value)
      | none => (finite? literal).map .floating
  | .text content => content.map .text
  | .array _ => some .sequence
  | .object _ => some .mapping

/-- The fault of a value of the wrong kind. -/
def mismatch (value : Value) (expected : String) : Fault :=
  match found? value with
  | some found => .here (.wrongType found expected)
  | none => .malformed

def number : Value → Except Fault Binary64
  | .number literal =>
      match finite? literal with
      | some value => .ok value
      | none => .error .malformed
  | value => .error (mismatch value "f64")

def text : Value → Except Fault String
  | .text (some content) => .ok content
  | value => .error (mismatch value "a string")

def sequence {α : Type} (item : Value → Except Fault α) : Value → Except Fault (List α)
  | .array items => items.mapM item
  | value => .error (mismatch value "a sequence")

/-- Finds what a tag names among the possible tags. -/
def tagged {α : Type} (tags : List String) (ofTag? : String → Option α) (tag : String) :
    Except Fault α :=
  match ofTag? tag with
  | some result => .ok result
  | none => .error (.here (.unknownVariant tag tags))

def nothing : Value → Except Fault Unit
  | .null => .ok ()
  | value => .error (mismatch value "unit")

/-- Reads one of several named values: its tag as a text, or an object whose only entry has the
tag as its key and holds nothing. -/
def variant {α : Type} (tags : List String) (ofTag? : String → Option α) : Value → Except Fault α
  | .text (some tag) => tagged tags ofTag? tag
  | .object ((some tag, content) :: more) => do
      let result ← tagged tags ofTag? tag
      nothing content
      if more.isEmpty then .ok result else .error .malformed
  | _ => .error .malformed

/-- The entries of an object whose keys denote something, with their positions. -/
def namedEntries (entries : List (Option String × Value)) : List (Entry Value) :=
  (entries.zipIdx.filterMap fun entry =>
    entry.1.1.map fun name => ⟨entry.2, name, entry.1.2⟩)

/-- Checks that all keys of an object denote something. -/
def readableKeys (entries : List (Option String × Value)) : Reading Unit :=
  match entries.findIdx? (·.1.isNone) with
  | some position => .fault position .malformed
  | none => .value ()

/-- Reads a record: an object with its fields in any order, or an array of exactly the fields in
their order. -/
def record {α : Type} (name : String) (fields : List String) (read : Record Value → Reading α) :
    Value → Except Fault α
  | .object entries =>
      ((fun _ result => result) <$> readableKeys entries <*>
        read
          { size := entries.length
            entries := namedEntries entries
            missing := fun field => .here (.missingField field) }).result
  | .array items =>
      ((fun result _ => result) <$>
        read
          { size := items.length
            entries := (fields.zip items).zipIdx.map fun entry =>
              ⟨entry.2, entry.1.1, entry.1.2⟩
            missing := fun _ =>
              .here (.wrongLength items.length ("struct " ++ name ++ " with " ++
                Decimal.natText fields.length ++ " elements")) } <*>
        (if items.length ≤ fields.length then Reading.value ()
          else .fault items.length .malformed)).result
  | value => .error (mismatch value ("struct " ++ name))

end CognitiveKernel.Json
