/-
Module: CognitiveKernel.Blueprint.Trait
Purpose: The nine-axis trait basis of structured kernels and the profiles that weight it.
Main exports: Trait, traits, TraitProfile, TraitProfile.isValid
-/
import CognitiveKernel.Binary64.Reading

namespace CognitiveKernel

structure Trait where
  /-- Number of the axis, counted from one. -/
  id : Nat
  symbol : String
  name : String
  limitExpression : String
  description : String
deriving Repr, DecidableEq

def traits : List Trait :=
  [ ⟨1, "ε", "Atomic_Derivation", "ε_hid → 0⁺", "Prefer primitive, local derivations"⟩,
    ⟨2, "κ", "Assertion_Rigor", "κ(f) → min", "Minimize curvature, maximize rigor"⟩,
    ⟨3, "Φ", "Frame_Isolation", "Φ: W → I", "Separate world-model from instructions"⟩,
    ⟨4, "π", "Global_Invariance", "π_gl ≫ π_loc", "Respect global constraints over local"⟩,
    ⟨5, "∂", "Orthogonal_Detachment", "∂A ≡ A", "Non-personal stance, no self-narrative"⟩,
    ⟨6, "U", "Unbound_Search", "U \\ S", "Allow exploration within constraints"⟩,
    ⟨7, "ζ", "Syntactic_Minimalism", "Allowed/Forbidden", "Restrict output syntax"⟩,
    ⟨8, "ρ", "Anti_Sycophancy", "Sycophancy → 0", "No flattery, maximum density"⟩,
    ⟨9, "σ", "Satisfiability_Guard", "P(z|q) < γ ⇒ Reject", "Reject unsatisfiable premises"⟩ ]

/-- Weights for the nine axes. -/
abbrev TraitProfile := Vector Binary64 9

/-- Whether every weight is a number of the closed unit interval. -/
def TraitProfile.isValid (profile : TraitProfile) : Bool :=
  profile.toList.all Binary64.inUnitInterval

end CognitiveKernel
