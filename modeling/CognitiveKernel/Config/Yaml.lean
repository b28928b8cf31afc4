/-
Module: CognitiveKernel.Config.Yaml
Purpose: Kernel configurations as YAML texts and in files.
Main exports: Config.toYaml, Config.ofYaml, Config.ofFile
-/
import CognitiveKernel.Config
import CognitiveKernel.Log
import CognitiveKernel.Snapshot.Yaml

namespace CognitiveKernel.Config

open Yaml (Decoder Tree)

/-- A map from names to numbers as a YAML tree. -/
def encodeWeights (weights : NameMap Binary64) : Tree :=
  .ofFields (weights.entries.map fun entry => (entry.1, .ofNumber entry.2))

/-- A configuration as a YAML tree. Weights and the directory are left out where there are none. -/
def encodeYaml (config : Config) : Tree :=
  .ofFields
    ([("mode", .ofText config.mode.documentName), ("rigor", .ofNumber config.rigor)] ++
      (if config.weights.isEmpty then [] else [("weights", encodeWeights config.weights)]) ++
      (config.templateDir.map fun path => ("template_dir", Tree.ofText path)).toList)

/-- Reads a configuration, in which every field has a value for its absence. -/
def decodeYaml : Decoder Config :=
  Yaml.record "KernelConfig" fun fields =>
    Config.mk <$> fields.read "mode" (some standard.mode) Mode.decodeYaml
      <*> fields.read "rigor" (some standard.rigor) Yaml.number
      <*> fields.read "weights" (some standard.weights) (Yaml.nameMap Yaml.number)
      <*> fields.read "template_dir" (some standard.templateDir) Yaml.optionalPath

def toYaml (config : Config) : String := config.encodeYaml.print

/-- Reads a configuration from a YAML text. -/
def ofYaml (text : String) : Except KernelError Config :=
  Yaml.decodeText false decodeYaml text

def ofFile (files : FileTree) (path : String) : Traced (Except KernelError Config) :=
  { records := [.loadingConfig path]
    value := (files.readText path).mapError KernelError.file >>= ofYaml }

end CognitiveKernel.Config
