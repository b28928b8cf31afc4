/-
Module: CognitiveKernel.Log
Purpose: The records that operations leave behind, and values that carry such records.
Main exports: LogRecord, LogRecord.line, Traced
-/
import CognitiveKernel.Mode
import CognitiveKernel.Template.Source
import CognitiveKernel.Binary64.Writing

namespace CognitiveKernel

/-- Something that an operation reports while it runs. -/
inductive LogRecord where
  /-- A kernel is rendered from its template. -/
  | compiling (mode : Mode) (rigor : Binary64) (weights : List Binary64)
  /-- A configuration is read from a file. -/
  | loadingConfig (path : String)
  /-- A source does not have a template and another one is asked. -/
  | templateNotFound (name : String) (asked next : TemplateSource)
  /-- A structured kernel has errors. -/
  | validationFailed (count : Nat)
deriving DecidableEq

namespace LogRecord

/-- Whether a record is a warning; all others are for debugging. -/
def isWarning : LogRecord → Bool
  | templateNotFound _ _ _ => true
  | _ => false

def text : LogRecord → String
  | compiling mode rigor weights =>
      "Compiling CTN kernel: mode=" ++ mode.tag ++ ", rigor=" ++ rigor.display ++ ", weights=[" ++
        ", ".intercalate (weights.map Binary64.inspect) ++ "]"
  | loadingConfig path => "Loading kernel config from " ++ path
  | templateNotFound name asked next =>
      "Template " ++ name ++ " not found in " ++ asked.describe ++ ", trying " ++ next.describe
  | validationFailed count =>
      "Kernel validation failed with " ++ Decimal.natText count ++ " error(s)"

/-- A record with its level in front. -/
def line (record : LogRecord) : String :=
  (if record.isWarning then "WARN " else "DEBUG ") ++ record.text

end LogRecord

/-- A value together with the records that were left on the way to it, oldest first. -/
structure Traced (α : Type) where
  records : List LogRecord
  value : α

namespace Traced

variable {α β : Type}

def silent (value : α) : Traced α := ⟨[], value⟩

/-- Changes the value and keeps the records. -/
def map (f : α → β) (traced : Traced α) : Traced β := ⟨traced.records, f traced.value⟩

/-- Runs a second operation on the value of the first. -/
def bind (traced : Traced α) (next : α → Traced β) : Traced β :=
  ⟨traced.records ++ (next traced.value).records, (next traced.value).value⟩

end Traced

end CognitiveKernel
