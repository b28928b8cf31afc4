/-
Module: CognitiveKernel.Error
Purpose: The ways in which configuring, loading or compiling a kernel can fail.
Main exports: KernelError, KernelError.message
-/
import CognitiveKernel.Document.Fault
import CognitiveKernel.FileTree

namespace CognitiveKernel

inductive KernelError where
  /-- A text that is not the tag of a mode. -/
  | invalidMode (text : String)
  /-- A name that no vector of the basis has. -/
  | vectorNotFound (name : String)
  /-- No source has the template. -/
  | templateMissing (name : String)
  /-- A text that is not the name of a block. -/
  | unknownBlock (text : String)
  /-- A structured kernel with the given findings. -/
  | invalidDefinition (findings : List String)
  | file (error : FileError)
  | yaml (fault : Document.Fault)
  | json (fault : Document.Fault)
deriving DecidableEq

def yamlDialect : Document.Dialect :=
  { nothing := "unit value"
    number := fun value =>
      let text := value.display
      if value.isFinite && !text.toList.contains '.' then text ++ ".0" else text }

/-- JSON numbers: a point in every number, and an exponent below `10 ^ (-5)` and from `10 ^ 16`
on, with its sign. -/
def Decimal.Layout.json : Decimal.Layout := ⟨.toEven, some (-4, 16), ['.', '0'], ['+']⟩

def jsonDialect : Document.Dialect :=
  { nothing := "null"
    number := fun value =>
      String.ofList (value.writeWith .words (Magnitude.write .json)) }

def KernelError.message : KernelError → String
  | .invalidMode text =>
      "Invalid mode: '" ++ text ++ "' (expected Analysis, Counter or Dominance)"
  | .vectorNotFound name => "Vector '" ++ name ++ "' not found in basis definition."
  | .templateMissing name => "CTN template missing: " ++ name
  | .unknownBlock text => "Unknown block type: " ++ text
  | .invalidDefinition findings => "Invalid kernel definition: " ++ "; ".intercalate findings
  | .file error => "IO error: " ++ error.message
  | .yaml fault => "YAML error: " ++ (fault.message? yamlDialect).getD "malformed document"
  | .json fault => "JSON error: " ++ (fault.message? jsonDialect).getD "malformed document"

end CognitiveKernel
