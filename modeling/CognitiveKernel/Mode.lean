/-
Module: CognitiveKernel.Mode
Purpose: The three operational modes of the strategic solver.
Main exports: Mode, Mode.all, Mode.tag, Mode.ofTag?, Mode.parse, Mode.documentName,
  Mode.solverLogic
-/
import CognitiveKernel.Error

namespace CognitiveKernel

inductive Mode where
  /-- Passive optimization: deconstruct the problem frame. -/
  | analysis
  /-- Active probing: inject an orthogonal perturbation before solving. -/
  | counter
  /-- Maximum structural control: verify, then dictate. -/
  | dominance
deriving Repr, DecidableEq

namespace Mode

def all : List Mode := [analysis, counter, dominance]

/-- The tag that names a mode in texts. -/
def tag : Mode → String
  | analysis => "Analysis"
  | counter => "Counter"
  | dominance => "Dominance"

/-- The mode with exactly the given tag. -/
def ofTag? (text : String) : Option Mode :=
  all.find? fun mode => mode.tag = text

/-- Reads a mode from its tag. -/
def parse (text : String) : Except KernelError Mode :=
  match ofTag? text with
  | some mode => .ok mode
  | none => .error (.invalidMode text)

/-- The name under which documents hold a mode. -/
def documentName : Mode → String
  | analysis => "Analysis"
  | counter => "Counter"
  | dominance => "Dominance"

/-- The mode that documents hold under exactly the given name. -/
def ofDocumentName? (text : String) : Option Mode :=
  all.find? fun mode => mode.documentName = text

/-- The mode of a kernel that names none. -/
def standard : Mode := analysis

/-- The formula that a mode contributes to the strategic solver. -/
def solverLogic : Mode → String
  | analysis =>
      "\\text\x7bMode: \x7d \\mathsf\x7bAnalysis\x7d \\implies \\mathsf\x7bDeconstruct\x7d(\\Phi)"
  | counter =>
      "\\text\x7bMode: \x7d \\mathsf\x7bCounter\x7d \\implies " ++
        "\\mathsf\x7bInject\x7d(\\eta_\x7b\\perp\x7d)"
  | dominance =>
      "\\text\x7bMode: \x7d \\mathsf\x7bDominance\x7d \\implies " ++
        "\\mathsf\x7bVerify\x7d \\circ \\mathsf\x7bDictate\x7d"

/-- Every mode is found under its own tag. -/
theorem ofTag?_tag (mode : Mode) : ofTag? mode.tag = some mode := by
  cases mode <;> decide

/-- A tag names at most one mode. -/
theorem tag_of_ofTag?_eq_some {text : String} {mode : Mode} (h : ofTag? text = some mode) :
    mode.tag = text := by
  simpa using List.find?_some h

theorem ofDocumentName?_documentName (mode : Mode) :
    ofDocumentName? mode.documentName = some mode := by
  cases mode <;> decide

end Mode

end CognitiveKernel
