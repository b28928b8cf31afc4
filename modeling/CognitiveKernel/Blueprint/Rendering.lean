/-
Module: CognitiveKernel.Blueprint.Rendering
Purpose: The text of a structured kernel, section by section.
Main exports: CompileOptions, Blueprint.sectionLines, Blueprint.render, Blueprint.compile
-/
import CognitiveKernel.Blueprint.Block
import CognitiveKernel.Blueprint.Validation
import CognitiveKernel.Error

namespace CognitiveKernel

structure CompileOptions where
  /-- Whether an invalid kernel is refused before it is rendered. -/
  validate : Bool
deriving Repr, DecidableEq

def CompileOptions.standard : CompileOptions := ⟨true⟩

namespace Blueprint

/-- The opening section: it always names the canonical container, whatever the schema is called,
and lists the headers of the other blocks. -/
def schemaLines : List String :=
  let headers := (Block.inOrder.filter (· ≠ .kernelSchema)).map fun block => "  " ++ block.header
  [Block.kernelSchema.header ++ " ← \x7b", ",\n".intercalate headers, "\x7d"]

/-- An objective as a line of the initial block. -/
def objectiveLine (entry : String × String) : String :=
  "  " ++ entry.1 ++ ": \x7b " ++ entry.2 ++ " \x7d"

/-- The initial block. There is a line for the objectives even if there are none. -/
def initLines (init : InitBlock) : List String :=
  [ Block.kernelInit.header ++ " ← \x7b",
    "  Auth: " ++ init.auth ++ ",",
    "  Filter: " ++ init.filter ++ ",",
    "  Precedence: " ++ init.precedence.primary ++ " ≫ " ++ init.precedence.secondary ++ " ≫ " ++
      init.precedence.tertiary ++ ",",
    "\n".intercalate (init.objectives.entries.map objectiveLine),
    "\x7d" ]

/-- An axis of the trait basis as a line of the cognitive tensors. -/
def traitLine (trait : Trait) : String :=
  "  v" ++ Decimal.natText trait.id ++ " = \x7b " ++ trait.limitExpression ++ ", " ++ trait.name ++
    " \x7d"

def tensorLines (profile : TraitProfile) : List String :=
  [ Block.cognitiveTensors.header ++ ":",
    "  τ = [" ++ ", ".intercalate (profile.toList.map Binary64.display) ++ "]",
    "  C_net = Σ(τᵢ * vᵢ)" ] ++ traits.map traitLine

def solverLines (solver : SolverBlock) : List String :=
  [ Block.strategicSolver.header ++ ":",
    "  Mode: " ++ solver.mode.tag,
    "  z* = " ++ solver.target,
    "  " ++ solver.nullCheck ]

def boundaryLines (boundary : BoundaryBlock) : List String :=
  [ Block.boundaryControl.header ++ ":",
    "  ℬ_int = \x7b " ++ ", ".intercalate boundary.internalSet ++ " \x7d",
    "  ℬ_ext = \x7b " ++ ", ".intercalate boundary.externalSet ++ " \x7d",
    "  Invariant: " ++ boundary.invariant,
    "  Enforcement: " ++ boundary.enforcement,
    "  Violation: " ++ boundary.violation ]

/-- The decoder manifold. The leak penalty is shown as its limit. -/
def decoderLines (decoder : DecoderBlock) : List String :=
  [ Block.decoderManifold.header ++ ":",
    "  ℓ* = " ++ decoder.objective,
    "  λ₁ = " ++ decoder.lambda1.display ++ ", λ₂ = " ++ decoder.lambda2.display ++ ", λ₃ = " ++
      decoder.lambda3.display ++ ", λ₄ → ∞" ]

/-- The hygiene directive, which stands in every kernel. -/
def selfEraseLines : List String :=
  [ Block.selfErase.name ++ ":",
    "  Discard(" ++ Block.kernelSchema.definition.symbol ++ ", Internal_Spec)" ]

/-- The lines of all sections in block order. -/
def sectionLines (blueprint : Blueprint) : List (List String) :=
  [ schemaLines, initLines blueprint.init, tensorLines blueprint.tensors.profile,
    solverLines blueprint.solver, boundaryLines blueprint.boundary, decoderLines blueprint.decoder,
    selfEraseLines ]

/-- The text of a structured kernel, whatever its validity: sections with blank lines between. -/
def render (blueprint : Blueprint) : String :=
  "\n\n".intercalate (blueprint.sectionLines.map fun lines => "\n".intercalate lines)

/-- The reasons for which a structured kernel is not compiled. -/
def findings (blueprint : Blueprint) : List String :=
  (if blueprint.tensors.profile.isValid then []
    else ["Invalid trait profile: all values must be in [0, 1]"]) ++
    (if blueprint.schema = "" then ["Missing schema declaration"] else []) ++
    (if isWeakLeakPenalty blueprint.decoder.lambda4 then
      ["λ₄ (leak penalty) should be very large or Infinity"] else [])

/-- Renders a structured kernel, which is refused first if it has to be valid and is not. -/
def compile (blueprint : Blueprint) (options : CompileOptions) : Except KernelError String :=
  if options.validate && !blueprint.findings.isEmpty then
    .error (.invalidDefinition blueprint.findings)
  else .ok blueprint.render

end Blueprint

end CognitiveKernel
