/-
Module: CognitiveKernel.Kernel
Purpose: Kernels: a solver mode, a rigor and a weighted basis, rendered into a template.
Main exports: version, Kernel, Kernel.new, Kernel.setWeight, Kernel.compile
-/
import CognitiveKernel.Basis
import CognitiveKernel.Template
import CognitiveKernel.Text.Blank
import CognitiveKernel.Text.Substitution

namespace CognitiveKernel

/-- The version of the library. -/
def version : String := "0.3.0"

/-- A kernel: mode and rigor are fixed when it is made, the weights can be changed. -/
structure Kernel where
  mode : Mode
  /-- Rigor after clamping. -/
  rigor : Binary64
  /-- The weighted vectors in basis order. -/
  vectors : List BasisVector
  /-- Where the template is found. -/
  loader : TemplateLoader

namespace Kernel

/-! ### Construction -/

/-- A kernel with the standard weights for a rigor, which is clamped and not rejected. -/
def new (mode : Mode) (rigor : Binary64) : Kernel :=
  { mode := mode
    rigor := rigor.clampToUnit
    vectors := standardBasis rigor.clampToUnit
    loader := .standard }

/-- A kernel whose mode is given by its tag. -/
def ofTag (tag : String) (rigor : Binary64) : Except KernelError Kernel :=
  (Mode.parse tag).map fun mode => new mode rigor

/-- The kernel in Analysis mode with full rigor. -/
def standard : Kernel := new .standard .one

/-- The same kernel with another template loader. -/
def withLoader (kernel : Kernel) (loader : TemplateLoader) : Kernel :=
  { kernel with loader := loader }

/-! ### The basis -/

def weightList (kernel : Kernel) : List Binary64 :=
  kernel.vectors.map (·.weight)

def vector? (kernel : Kernel) (name : String) : Option BasisVector :=
  kernel.vectors.find? (·.name = name)

/-- Sets the weight of the vector of a name in place. Every weight is accepted. The result has the
kernel that the call leaves behind, also where it fails. -/
def setWeight (kernel : Kernel) (name : String) (weight : Binary64) :
    EStateM.Result KernelError Kernel Unit :=
  let (found, vectors) := BasisVector.reweigh name weight kernel.vectors
  let next := { kernel with vectors := vectors }
  if found then .ok () next else .error (.vectorNotFound name) next

/-- Same mode, rigor and vectors as numbers; the loaders are not compared. -/
def same (left right : Kernel) : Bool :=
  left.mode = right.mode && left.rigor.same right.rigor &&
    left.vectors.length = right.vectors.length &&
    (left.vectors.zip right.vectors).all fun pair => pair.1.same pair.2

/-! ### Rendering -/

/-- The token that stands for the weights. -/
def weightsToken : String := "__WEIGHTS__"

/-- The token that stands for the vector definitions. -/
def vectorsToken : String := "__VECTORS__"

/-- The token that stands for the solver logic. -/
def solverToken : String := "__SOLVER_LOGIC__"

/-- The weights with two decimals, in basis order. -/
def weightText (kernel : Kernel) : String :=
  ", ".intercalate (kernel.weightList.map Binary64.twoDecimals)

/-- The definition lines of some vectors, numbered from one. -/
def definitionLines (vectors : List BasisVector) : List String :=
  vectors.mapIdx fun index vector => vector.definitionLine (index + 1)

def vectorText (kernel : Kernel) : String :=
  "\n".intercalate (definitionLines kernel.vectors)

/-- A template text with the state of the kernel put in: weights first, then vectors, then the
solver logic. -/
def fill (kernel : Kernel) (template : String) : String :=
  Text.replaceAll solverToken kernel.mode.solverLogic
    (Text.replaceAll vectorsToken kernel.vectorText
      (Text.replaceAll weightsToken kernel.weightText template))

/-- A template text rendered for the kernel, without blanks at its ends. -/
def render (kernel : Kernel) (template : String) : String :=
  Text.trim (kernel.fill template)

def loadTemplate (kernel : Kernel) (files : FileTree) : Traced (Except KernelError String) :=
  kernel.loader.loadKernel files

def compile (kernel : Kernel) (files : FileTree) : Traced (Except KernelError String) :=
  (kernel.loadTemplate files).bind fun
    | .error error => .silent (.error error)
    | .ok template =>
        { records := [.compiling kernel.mode kernel.rigor kernel.weightList]
          value := .ok (kernel.render template) }

end Kernel

end CognitiveKernel
