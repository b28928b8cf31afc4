/-
Module: CognitiveKernel.Blueprint.Invariant
Purpose: The three invariants of a well-formed structured kernel.
Main exports: Invariant, InvariantResult, Invariant.check, Blueprint.isWellFormed
-/
import CognitiveKernel.Blueprint.Basic
import CognitiveKernel.Text.Blank
import CognitiveKernel.Text.Substitution

namespace CognitiveKernel

inductive Invariant where
  /-- Truth is the primary precedence. -/
  | epistemicAnchor
  /-- The boundary enforces that nothing leaks. -/
  | syntaxFirewall
  /-- The solver says what happens in states that cannot be satisfied. -/
  | nullAssumption
deriving Repr, DecidableEq

namespace Invariant

/-- All invariants in the order in which they are checked. -/
def all : List Invariant := [epistemicAnchor, syntaxFirewall, nullAssumption]

def name : Invariant → String
  | epistemicAnchor => "ϑ-Invariant"
  | syntaxFirewall => "ζ-Invariant"
  | nullAssumption => "σ-Invariant"

/-- Whether a structured kernel satisfies an invariant. -/
def holds (blueprint : Blueprint) : Invariant → Bool
  | epistemicAnchor => blueprint.init.precedence.primary = "ϑ"
  | syntaxFirewall =>
      Text.occursIn "Leak" blueprint.boundary.enforcement &&
        blueprint.boundary.enforcement.toList.contains '0'
  | nullAssumption => Text.trim blueprint.solver.nullCheck ≠ ""

/-- What is wrong when an invariant does not hold. -/
def complaint (blueprint : Blueprint) : Invariant → String
  | epistemicAnchor =>
      "Truth (ϑ) must be primary in precedence, found: " ++ blueprint.init.precedence.primary
  | syntaxFirewall => "Boundary must enforce Leak(ℓ, Σ_CTN) = 0"
  | nullAssumption => "Solver must define null-assumption handling"

end Invariant

/-- The outcome of one check. Only `pass` and `fail` make one. -/
structure InvariantResult where
  isValid : Bool
  invariant : Invariant
  /-- What is wrong, if the invariant does not hold. -/
  complaint : Option String
deriving Repr, DecidableEq

namespace InvariantResult

def pass (invariant : Invariant) : InvariantResult := ⟨true, invariant, none⟩

def fail (invariant : Invariant) (complaint : String) : InvariantResult :=
  ⟨false, invariant, some complaint⟩

end InvariantResult

def Invariant.check (invariant : Invariant) (blueprint : Blueprint) : InvariantResult :=
  if invariant.holds blueprint then .pass invariant
  else .fail invariant (invariant.complaint blueprint)

namespace Blueprint

/-- The outcomes for all invariants in order. -/
def invariantResults (blueprint : Blueprint) : List InvariantResult :=
  Invariant.all.map fun invariant => invariant.check blueprint

def isWellFormed (blueprint : Blueprint) : Bool :=
  blueprint.invariantResults.all InvariantResult.isValid

end Blueprint

end CognitiveKernel
