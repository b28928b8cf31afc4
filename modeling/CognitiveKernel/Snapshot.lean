/-
Module: CognitiveKernel.Snapshot
Purpose: The storable state of a kernel.
Main exports: Snapshot, Kernel.snapshot, Kernel.ofSnapshot
-/
import CognitiveKernel.Kernel

namespace CognitiveKernel

/-- The state of a kernel as it is stored. Nothing ties its vectors to the basis until a kernel is
restored from it. -/
structure Snapshot where
  mode : Mode
  rigor : Binary64
  vectors : List BasisVector
deriving DecidableEq

/-- Same mode and numerically equal rigor and vectors. -/
def Snapshot.same (left right : Snapshot) : Bool :=
  left.mode = right.mode && left.rigor.same right.rigor &&
    left.vectors.length = right.vectors.length &&
    (left.vectors.zip right.vectors).all fun pair => pair.1.same pair.2

namespace Kernel

/-- Sets weights by name, one after the other; the first unknown name ends this. -/
def setWeights (kernel : Kernel) :
    List (String × Binary64) → EStateM.Result KernelError Kernel Unit
  | [] => .ok () kernel
  | entry :: rest =>
      match kernel.setWeight entry.1 entry.2 with
      | .ok () next => next.setWeights rest
      | .error error next => .error error next

/-- A kernel with weights put in, which is given up when one of them cannot be set. -/
def withWeights (kernel : Kernel) (weights : List (String × Binary64)) :
    Except KernelError Kernel :=
  match kernel.setWeights weights with
  | .ok () next => .ok next
  | .error error _ => .error error

def snapshot (kernel : Kernel) : Snapshot :=
  ⟨kernel.mode, kernel.rigor, kernel.vectors⟩

/-- The kernel of a stored state: a new kernel with every stored weight put in. -/
def ofSnapshot (snapshot : Snapshot) : Except KernelError Kernel :=
  (new snapshot.mode snapshot.rigor).withWeights
    (snapshot.vectors.map fun vector => (vector.name, vector.weight))

end Kernel

end CognitiveKernel
