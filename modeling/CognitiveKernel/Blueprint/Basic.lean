/-
Module: CognitiveKernel.Blueprint.Basic
Purpose: Structured kernels: the parameters of every block.
Main exports: Blueprint, Blueprint.reference
-/
import CognitiveKernel.Blueprint.Trait
import CognitiveKernel.Mode
import CognitiveKernel.NameMap

namespace CognitiveKernel

structure Precedence where
  primary : String
  secondary : String
  tertiary : String
deriving Repr, DecidableEq

structure InitBlock where
  auth : String
  filter : String
  precedence : Precedence
  objectives : NameMap String

structure TensorBlock where
  profile : TraitProfile
  vectors : List String

structure SolverBlock where
  mode : Mode
  target : String
  /-- Behaviour in states that cannot be satisfied. -/
  nullCheck : String
deriving Repr, DecidableEq

structure BoundaryBlock where
  internalSet : List String
  externalSet : List String
  invariant : String
  enforcement : String
  violation : String
deriving Repr, DecidableEq

structure DecoderBlock where
  objective : String
  /-- Projection penalty. -/
  lambda1 : Binary64
  /-- Brevity weight. -/
  lambda2 : Binary64
  /-- Syntax penalty. -/
  lambda3 : Binary64
  /-- Leak penalty, expected to be very large or infinite. -/
  lambda4 : Binary64
deriving DecidableEq

structure Blueprint where
  schema : String
  init : InitBlock
  tensors : TensorBlock
  solver : SolverBlock
  boundary : BoundaryBlock
  decoder : DecoderBlock
  selfErase : Bool

namespace Blueprint

/-- The number with the given digits divided by a hundred. -/
private def hundredths (value : Nat) : Binary64 := Binary64.ofDecimal false ⟨value, -2⟩

/-- A well-formed structured kernel in Analysis mode. -/
def reference : Blueprint :=
  { schema := "Σ_CTN"
    init :=
      { auth := "P_spec"
        filter := "Π_safe"
        precedence := ⟨"ϑ", "β", "ζ"⟩
        objectives := .ofList
          [("β(Brevity)", "minimize tokens"), ("ϑ(Truth)", "maximize accuracy")] }
    tensors :=
      { profile := #v[hundredths 80, hundredths 90, hundredths 70, hundredths 80, hundredths 60,
          hundredths 50, hundredths 90, hundredths 95, hundredths 85]
        vectors := [] }
    solver :=
      { mode := .analysis
        target := "argmax_\x7bz ∈ U\x7d [ϑ(z) - λ₁·Proj(z, W)]"
        nullCheck := "If σ=0 ⇒ First_Principles_Audit(q)" }
    boundary :=
      { internalSet := ["Σ_CTN", "Ψ", "Ω", "U", "D"]
        externalSet := ["ℒ_natural", "Query", "Response"]
        invariant := "ℬ_int ∩ Output = ∅"
        enforcement := "Leak(ℓ, Σ_CTN) = 0"
        violation := "If ℬ_int ∈ Output ⇒ REPAIR → Transcode(ℓ, ℒ_natural)" }
    decoder :=
      { objective := "argmax_ℓ [D(ℓ|z*) - λ₄·Leak(ℓ, Σ_CTN)]"
        lambda1 := hundredths 10
        lambda2 := hundredths 5
        lambda3 := hundredths 2
        lambda4 := .infinity }
    selfErase := true }

/-- Whether two rows of numbers agree number by number. -/
def sameNumbers (left right : List Binary64) : Bool :=
  (left.zip right).all fun pair => pair.1.same pair.2

/-- Same texts and numerically equal numbers. -/
def same (left right : Blueprint) : Bool :=
  left.schema = right.schema && left.init.auth = right.init.auth &&
    left.init.filter = right.init.filter && left.init.precedence = right.init.precedence &&
    left.init.objectives.entries = right.init.objectives.entries &&
    sameNumbers left.tensors.profile.toList right.tensors.profile.toList &&
    left.tensors.vectors = right.tensors.vectors && left.solver = right.solver &&
    left.boundary = right.boundary && left.decoder.objective = right.decoder.objective &&
    sameNumbers
      [left.decoder.lambda1, left.decoder.lambda2, left.decoder.lambda3, left.decoder.lambda4]
      [right.decoder.lambda1, right.decoder.lambda2, right.decoder.lambda3,
        right.decoder.lambda4] &&
    left.selfErase = right.selfErase

end Blueprint

end CognitiveKernel
