/-
Module: CognitiveKernel.Document.Fault
Purpose: Why a document was not accepted, where, and in which words this is reported.
Main exports: Found, Cause, Step, Place, Fault, Dialect, Fault.message?
-/
import CognitiveKernel.Binary64.Writing
import CognitiveKernel.Text.Quoted

namespace CognitiveKernel.Document

/-- What a document holds at a place where something else was expected. -/
inductive Found where
  | text (content : String)
  | integer (value : Int)
  /-- An integer that does not fit into 64 bits, with the name of the type that holds it. -/
  | wideInteger (value : Int) (type : String)
  | floating (value : Binary64)
  | boolean (value : Bool)
  | nothing
  | sequence
  | mapping
deriving DecidableEq

/-- Why a value was refused. -/
inductive Cause where
  /-- A value of another kind than expected. -/
  | wrongType (found : Found) (expected : String)
  /-- A text that does not denote what its tag or its place asks for. -/
  | wrongValue (text : String) (expected : String)
  /-- A sequence with the wrong number of items. -/
  | wrongLength (length : Nat) (expected : String)
  /-- A tag that names none of the possible values. -/
  | unknownVariant (tag : String) (variants : List String)
  | missingField (name : String)
  | duplicateField (name : String)
  /-- The document is empty where a value is needed. -/
  | noValue
deriving DecidableEq

/-- One step on the way from the root of a document to a value. -/
inductive Step where
  | field (name : String)
  | index (position : Nat)
  /-- The value of a key that is not written as a text. -/
  | unnamed
deriving DecidableEq

/-- The place that a fault is reported at. -/
inductive Place where
  /-- A place below the value that is being read. -/
  | below (path : List Step)
  /-- The record around the value that is being read. -/
  | around
deriving DecidableEq

/-- The same place, seen from one step further up. -/
def Place.within (step : Step) : Place → Place
  | .below path => .below (step :: path)
  | .around => .below []

/-- Why a document was not accepted. -/
inductive Fault where
  /-- The text is not a document of the format. -/
  | malformed
  /-- The document does not hold the expected value. -/
  | refused (place : Place) (cause : Cause)
deriving DecidableEq

namespace Fault

/-- A fault of the value that is being read. -/
def here (cause : Cause) : Fault := refused (.below []) cause

/-- The same fault, seen from one step further up. -/
def within (step : Step) : Fault → Fault
  | malformed => malformed
  | refused place cause => refused (place.within step) cause

end Fault

/-- The words for values that depend on the format of the document. -/
structure Dialect where
  /-- The word for the absence of a value. -/
  nothing : String
  /-- The text of a floating point number. -/
  number : Binary64 → String

/-- The words for what a document holds. -/
def Found.describe (dialect : Dialect) : Found → String
  | .text content => "string " ++ Text.quote content
  | .integer value => "integer `" ++ Decimal.intText value ++ "`"
  | .wideInteger value type => "integer `" ++ Decimal.intText value ++ "` as " ++ type
  | .floating value => "floating point `" ++ dialect.number value ++ "`"
  | .boolean value => "boolean `" ++ (if value then "true" else "false") ++ "`"
  | .nothing => dialect.nothing
  | .sequence => "sequence"
  | .mapping => "map"

/-- The possible tags in words: two are joined by `or`, more are listed. -/
def describeVariants (variants : List String) : String :=
  let quoted := variants.map fun tag => "`" ++ tag ++ "`"
  match quoted with
  | [] => "there are no variants"
  | [only] => "expected " ++ only
  | [first, second] => "expected " ++ first ++ " or " ++ second
  | _ => "expected one of " ++ ", ".intercalate quoted

def Cause.describe (dialect : Dialect) : Cause → String
  | .wrongType found expected =>
      "invalid type: " ++ found.describe dialect ++ ", expected " ++ expected
  | .wrongValue text expected =>
      "invalid value: string " ++ Text.quote text ++ ", expected " ++ expected
  | .wrongLength length expected =>
      "invalid length " ++ Decimal.natText length ++ ", expected " ++ expected
  | .unknownVariant tag variants =>
      "unknown variant `" ++ tag ++ "`, " ++ describeVariants variants
  | .missingField name => "missing field `" ++ name ++ "`"
  | .duplicateField name => "duplicate field `" ++ name ++ "`"
  | .noValue => "EOF while parsing a value"

/-- Adds a step to the text of a path, which is empty at the root. -/
def Step.extend (path : String) : Step → String
  | .field name => if path = "" then name else path ++ "." ++ name
  | .index position => (if path = "" then "." else path) ++ "[" ++ Decimal.natText position ++ "]"
  | .unnamed => if path = "" then "?" else path ++ ".?"

/-- The path to a place in words; the root has none. -/
def Place.describe : Place → String
  | .below path => path.foldl Step.extend ""
  | .around => ""

/-- A fault in words: the path, unless it is the root, and the reason. A text that is not a
document of the format has no further description. -/
def Fault.message? (dialect : Dialect) : Fault → Option String
  | .malformed => none
  | .refused place cause =>
      let path := place.describe
      some ((if path = "" then "" else path ++ ": ") ++ cause.describe dialect)

end CognitiveKernel.Document
