/-
Module: CognitiveKernel.Document.Reading
Purpose: Reading a record field by field, reporting the fault that stands first in the document.
Main exports: Reading, Record, Record.field, Reading.result
-/
import CognitiveKernel.Document.Fault

namespace CognitiveKernel.Document

/-!
The fields of a record are read independently of each other, so a reader says what each field is
and not in which order the document names them. Every fault carries the position of the entry it
was found at. When parts are put together the earliest fault wins; a missing field is found after
all entries, and of several missing fields the one that is read first is reported.
-/

/-- The outcome of reading a part of a record. -/
inductive Reading (α : Type) where
  | value (result : α)
  | fault (position : Nat) (reason : Fault)

namespace Reading

variable {α β : Type}

def map (f : α → β) : Reading α → Reading β
  | value result => value (f result)
  | fault position reason => fault position reason

/-- Puts two parts together. Of two faults the earlier one is kept. -/
def apply : Reading (α → β) → Reading α → Reading β
  | value f, value result => value (f result)
  | fault position reason, value _ => fault position reason
  | value _, fault position reason => fault position reason
  | fault position reason, fault position' reason' =>
      if position' < position then fault position' reason' else fault position reason

instance : Functor Reading where
  map := map

instance : Applicative Reading where
  pure := value
  seq f x := apply f (x ())

@[simp]
theorem map_value (f : α → β) (result : α) : f <$> value result = value (f result) := rfl

@[simp]
theorem value_seq (f : α → β) (result : α) : value f <*> value result = value (f result) := rfl

/-- The outcome without the position of the fault. -/
def result : Reading α → Except Fault α
  | value result => .ok result
  | fault _ reason => .error reason

end Reading

/-- An entry of a record: its place among all entries, its name and what it holds. -/
structure Entry (ν : Type) where
  position : Nat
  name : String
  content : ν

structure Record (ν : Type) where
  /-- How many entries the document has, named or not. -/
  size : Nat
  entries : List (Entry ν)
  /-- How the absence of a field is reported. -/
  missing : String → Fault

namespace Record

variable {ν α : Type}

/-- Reads the field of a given name. It may stand in the record once; a value for its absence is
used when it has no entry. -/
def field (record : Record ν) (name : String) (absent : Option α)
    (read : ν → Except Fault α) : Reading α :=
  match record.entries.filter (·.name = name) with
  | [] =>
      match absent with
      | some default => .value default
      | none => .fault record.size (record.missing name)
  | first :: more =>
      match read first.content with
      | .error reason => .fault first.position reason
      | .ok result =>
          match more with
          | [] => .value result
          | second :: _ => .fault second.position (.here (.duplicateField name))

end Record

end CognitiveKernel.Document
