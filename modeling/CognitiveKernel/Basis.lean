/-
Module: CognitiveKernel.Basis
Purpose: The closed six-vector cognitive basis and its standard weights.
Main exports: Axis, BasisVector, BasisVector.reweigh, standardBasis
-/
import CognitiveKernel.Binary64.Reading

namespace CognitiveKernel

/-- A dimension of the cognitive basis. The basis is closed: names, formulas and order never
change, only the weights do. -/
inductive Axis where
  | epistemic
  | integrity
  | interface
  | architecture
  | nonDual
  | innovation
deriving Repr, DecidableEq

namespace Axis

def all : List Axis := [epistemic, integrity, interface, architecture, nonDual, innovation]

theorem mem_all (axis : Axis) : axis ∈ all := by
  cases axis <;> decide

/-- The name of the vector along an axis. -/
def name : Axis → String
  | epistemic => "Epistemic"
  | integrity => "Integrity"
  | interface => "Interface"
  | architecture => "Architecture"
  | nonDual => "NonDual"
  | innovation => "Innovation"

/-- The limit expression that defines the vector along an axis. -/
def definition : Axis → String
  | epistemic => "\\epsilon_\x7bhid\x7d \\to 0^\x7b+\x7d"
  | integrity => "\\kappa(f) \\to \\min"
  | interface => "\\Phi:\\mathcal\x7bW\x7d\\to\\mathcal\x7bI\x7d"
  | architecture => "\\pi_\x7bgl\x7d \\gg \\pi_\x7bloc\x7d"
  | nonDual => "\\partial A \\equiv A"
  | innovation => "\\mathbb\x7bU\x7d \\setminus \\mathcal\x7bS\x7d"

/-- The constraint that the vector along an axis stands for. -/
def constraint : Axis → String
  | epistemic => "Atomic derivation"
  | integrity => "Error intolerance"
  | interface => "Context separation"
  | architecture => "Global invariance"
  | nonDual => "Orthogonal detachment"
  | innovation => "Unbound search"

end Axis

/-- A weighted vector with its texts, as it is shown and stored. -/
structure BasisVector where
  name : String
  /-- Limit expression. -/
  definition : String
  /-- Plain-text constraint label. -/
  constraint : String
  weight : Binary64
deriving DecidableEq

namespace BasisVector

/-- The definition line of a vector at a position counted from one. -/
def definitionLine (vector : BasisVector) (index : Nat) : String :=
  "\\vec\x7bv\x7d_\x7b" ++ Decimal.natText index ++ "\x7d = \\\x7b " ++ vector.definition ++
    ", \\text\x7b" ++ vector.constraint ++ "\x7d \\\x7d"

/-- Puts a weight into the first vector of a name. The flag tells whether there is one. -/
def reweigh (name : String) (weight : Binary64) : List BasisVector → Bool × List BasisVector
  | [] => (false, [])
  | vector :: rest =>
      if vector.name = name then (true, { vector with weight := weight } :: rest)
      else
        let later := reweigh name weight rest
        (later.1, vector :: later.2)

/-- Same texts and numerically equal weights. -/
def same (left right : BasisVector) : Bool :=
  left.name = right.name && left.definition = right.definition &&
    left.constraint = right.constraint && left.weight.same right.weight

end BasisVector

/-- The vector along an axis with a given weight. -/
def Axis.vector (axis : Axis) (weight : Binary64) : BasisVector :=
  ⟨axis.name, axis.definition, axis.constraint, weight⟩

/-- Base weight of the Integrity vector before rigor scales it: the double nearest to `0.3`. -/
def baseIntegrity : Binary64 := Binary64.ofDecimal false ⟨3, -1⟩

/-- The weight along an axis before any override. Rigor scales Integrity alone. -/
def standardWeight (rigor : Binary64) : Axis → Binary64
  | .integrity => baseIntegrity.product rigor
  | .nonDual => Binary64.ofDecimal false ⟨3, -1⟩
  | _ => Binary64.ofDecimal false ⟨1, -1⟩

/-- The standard basis for a rigor, which is used as it is. -/
def standardBasis (rigor : Binary64) : List BasisVector :=
  Axis.all.map fun axis => axis.vector (standardWeight rigor axis)

end CognitiveKernel
