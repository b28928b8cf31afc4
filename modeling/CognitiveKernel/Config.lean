/-
Module: CognitiveKernel.Config
Purpose: Declarative kernel configurations and the kernels they describe.
Main exports: Config, Config.build
-/
import CognitiveKernel.NameMap
import CognitiveKernel.Snapshot

namespace CognitiveKernel

structure Config where
  mode : Mode
  rigor : Binary64
  /-- Weight overrides by vector name. -/
  weights : NameMap Binary64
  /-- Directory that is searched for templates before the bundled ones. -/
  templateDir : Option String

namespace Config

/-- The configuration that changes nothing. -/
def standard : Config :=
  { mode := .standard, rigor := .one, weights := .empty, templateDir := none }

/-- Same mode, texts and numerically equal numbers. -/
def same (left right : Config) : Bool :=
  left.mode = right.mode && left.rigor.same right.rigor &&
    left.weights.entries.length = right.weights.entries.length &&
    ((left.weights.entries.zip right.weights.entries).all fun pair =>
      pair.1.1 = pair.2.1 && pair.1.2.same pair.2.2) &&
    left.templateDir = right.templateDir

/-- Builds the configured kernel. Overrides are put in after the basis is made, in the order of
their names, so one for Integrity replaces the weight that rigor has scaled. -/
def build (config : Config) : Except KernelError Kernel :=
  ((Kernel.new config.mode config.rigor).withWeights config.weights.entries).map fun kernel =>
    match config.templateDir with
    | none => kernel
    | some root => kernel.withLoader ⟨.directory root, some .bundled⟩

end Config

end CognitiveKernel
