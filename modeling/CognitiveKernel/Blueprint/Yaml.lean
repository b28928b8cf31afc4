/-
Module: CognitiveKernel.Blueprint.Yaml
Purpose: Structured kernels as YAML texts and in files.
Main exports: Blueprint.toYaml, Blueprint.ofYaml, Blueprint.ofFile
-/
import CognitiveKernel.Blueprint.Basic
import CognitiveKernel.FileTree
import CognitiveKernel.Snapshot.Yaml

namespace CognitiveKernel

open Yaml (Decoder Tree)

namespace Precedence

/-- A precedence hierarchy as a YAML tree. -/
def encodeYaml (precedence : Precedence) : Tree :=
  .ofFields
    [ ("primary", .ofText precedence.primary),
      ("secondary", .ofText precedence.secondary),
      ("tertiary", .ofText precedence.tertiary) ]

def decodeYaml : Decoder Precedence :=
  Yaml.record "Precedence" fun fields =>
    Precedence.mk <$> fields.read "primary" none Yaml.text
      <*> fields.read "secondary" none Yaml.text
      <*> fields.read "tertiary" none Yaml.text

end Precedence

namespace InitBlock

def encodeObjectives (objectives : NameMap String) : Tree :=
  .ofFields (objectives.entries.map fun entry => (entry.1, .ofText entry.2))

/-- The initial block as a YAML tree. -/
def encodeYaml (block : InitBlock) : Tree :=
  .ofFields
    [ ("auth", .ofText block.auth),
      ("filter", .ofText block.filter),
      ("precedence", block.precedence.encodeYaml),
      ("objectives", encodeObjectives block.objectives) ]

def decodeYaml : Decoder InitBlock :=
  Yaml.record "InitParams" fun fields =>
    InitBlock.mk <$> fields.read "auth" none Yaml.text
      <*> fields.read "filter" none Yaml.text
      <*> fields.read "precedence" none Precedence.decodeYaml
      <*> fields.read "objectives" (some .empty) (Yaml.nameMap Yaml.text)

end InitBlock

namespace TensorBlock

/-- The cognitive tensors as a YAML tree. -/
def encodeYaml (block : TensorBlock) : Tree :=
  .ofFields
    [ ("profile", .sequence (block.profile.toList.map Tree.ofNumber)),
      ("vectors", .ofTexts block.vectors) ]

def decodeYaml : Decoder TensorBlock :=
  Yaml.record "TensorParams" fun fields =>
    TensorBlock.mk <$> fields.read "profile" none (Yaml.row 9 Yaml.number)
      <*> fields.read "vectors" (some []) (Yaml.sequence Yaml.text)

end TensorBlock

namespace SolverBlock

/-- The strategic solver as a YAML tree. -/
def encodeYaml (block : SolverBlock) : Tree :=
  .ofFields
    [ ("mode", .ofText block.mode.documentName),
      ("target", .ofText block.target),
      ("null_check", .ofText block.nullCheck) ]

def decodeYaml : Decoder SolverBlock :=
  Yaml.record "SolverParams" fun fields =>
    SolverBlock.mk <$> fields.read "mode" none Mode.decodeYaml
      <*> fields.read "target" none Yaml.text
      <*> fields.read "null_check" (some "") Yaml.text

end SolverBlock

namespace BoundaryBlock

/-- The boundary control as a YAML tree. -/
def encodeYaml (block : BoundaryBlock) : Tree :=
  .ofFields
    [ ("internal_set", .ofTexts block.internalSet),
      ("external_set", .ofTexts block.externalSet),
      ("invariant", .ofText block.invariant),
      ("enforcement", .ofText block.enforcement),
      ("violation", .ofText block.violation) ]

def decodeYaml : Decoder BoundaryBlock :=
  Yaml.record "BoundaryParams" fun fields =>
    BoundaryBlock.mk <$> fields.read "internal_set" none (Yaml.sequence Yaml.text)
      <*> fields.read "external_set" none (Yaml.sequence Yaml.text)
      <*> fields.read "invariant" none Yaml.text
      <*> fields.read "enforcement" none Yaml.text
      <*> fields.read "violation" none Yaml.text

end BoundaryBlock

namespace DecoderBlock

/-- The decoder manifold as a YAML tree. -/
def encodeYaml (block : DecoderBlock) : Tree :=
  .ofFields
    [ ("objective", .ofText block.objective),
      ("lambda1", .ofNumber block.lambda1),
      ("lambda2", .ofNumber block.lambda2),
      ("lambda3", .ofNumber block.lambda3),
      ("lambda4", .ofNumber block.lambda4) ]

def decodeYaml : Decoder DecoderBlock :=
  Yaml.record "DecoderParams" fun fields =>
    DecoderBlock.mk <$> fields.read "objective" none Yaml.text
      <*> fields.read "lambda1" none Yaml.number
      <*> fields.read "lambda2" none Yaml.number
      <*> fields.read "lambda3" none Yaml.number
      <*> fields.read "lambda4" (some .infinity) Yaml.number

end DecoderBlock

namespace Blueprint

/-- A structured kernel as a YAML tree. -/
def encodeYaml (blueprint : Blueprint) : Tree :=
  .ofFields
    [ ("schema", .ofText blueprint.schema),
      ("init", blueprint.init.encodeYaml),
      ("tensors", blueprint.tensors.encodeYaml),
      ("solver", blueprint.solver.encodeYaml),
      ("boundary", blueprint.boundary.encodeYaml),
      ("decoder", blueprint.decoder.encodeYaml),
      ("self_erase", .ofBoolean blueprint.selfErase) ]

def decodeYaml : Decoder Blueprint :=
  Yaml.record "KernelSpec" fun fields =>
    Blueprint.mk <$> fields.read "schema" none Yaml.text
      <*> fields.read "init" none InitBlock.decodeYaml
      <*> fields.read "tensors" none TensorBlock.decodeYaml
      <*> fields.read "solver" none SolverBlock.decodeYaml
      <*> fields.read "boundary" none BoundaryBlock.decodeYaml
      <*> fields.read "decoder" none DecoderBlock.decodeYaml
      <*> fields.read "self_erase" (some true) Yaml.boolean

/-- A structured kernel as a YAML text. -/
def toYaml (blueprint : Blueprint) : String := blueprint.encodeYaml.print

/-- Reads a structured kernel from a YAML text. -/
def ofYaml (text : String) : Except KernelError Blueprint :=
  Yaml.decodeText false decodeYaml text

/-- Reads a structured kernel from a file. -/
def ofFile (files : FileTree) (path : String) : Except KernelError Blueprint :=
  (files.readText path).mapError KernelError.file >>= ofYaml

end Blueprint

end CognitiveKernel
