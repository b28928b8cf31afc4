/-
Module: CognitiveKernel.Snapshot.Yaml
Purpose: Modes, blocks and snapshots as YAML texts.
Main exports: Mode.ofYaml, Mode.toYaml, Block.ofYaml, Snapshot.toYaml, Snapshot.ofYaml
-/
import CognitiveKernel.Blueprint.Block
import CognitiveKernel.Snapshot
import CognitiveKernel.Yaml.Decoding
import CognitiveKernel.Yaml.Writing

namespace CognitiveKernel

open Yaml (Decoder Tree)

namespace Mode

/-- A mode is read from its name. -/
def decodeYaml : Decoder Mode := Yaml.variant (all.map documentName) ofDocumentName?

/-- Reads a mode from a YAML text. -/
def ofYaml (text : String) : Except KernelError Mode :=
  Yaml.decodeText true decodeYaml text

def toYaml (mode : Mode) : String := (Tree.ofText mode.documentName).print

end Mode

namespace Block

/-- A block is read from its name. -/
def decodeYaml : Decoder Block := Yaml.variant (all.map documentName) ofDocumentName?

/-- Reads a block from a YAML text. -/
def ofYaml (text : String) : Except KernelError Block :=
  Yaml.decodeText true decodeYaml text

end Block

namespace BasisVector

def encodeYaml (vector : BasisVector) : Tree :=
  .ofFields
    [ ("name", .ofText vector.name),
      ("definition", .ofText vector.definition),
      ("constraint", .ofText vector.constraint),
      ("weight", .ofNumber vector.weight) ]

def decodeYaml : Decoder BasisVector :=
  Yaml.record "CognitiveVector" fun fields =>
    BasisVector.mk <$> fields.read "name" none Yaml.text
      <*> fields.read "definition" none Yaml.text
      <*> fields.read "constraint" none Yaml.text
      <*> fields.read "weight" none Yaml.number

end BasisVector

namespace Snapshot

def encodeYaml (snapshot : Snapshot) : Tree :=
  .ofFields
    [ ("mode", .ofText snapshot.mode.documentName),
      ("rigor", .ofNumber snapshot.rigor),
      ("vectors", .sequence (snapshot.vectors.map BasisVector.encodeYaml)) ]

def decodeYaml : Decoder Snapshot :=
  Yaml.record "KernelSnapshot" fun fields =>
    Snapshot.mk <$> fields.read "mode" none Mode.decodeYaml
      <*> fields.read "rigor" none Yaml.number
      <*> fields.read "vectors" none (Yaml.sequence BasisVector.decodeYaml)

def toYaml (snapshot : Snapshot) : String := snapshot.encodeYaml.print

/-- Reads a snapshot from a YAML text. -/
def ofYaml (text : String) : Except KernelError Snapshot :=
  Yaml.decodeText false decodeYaml text

end Snapshot

end CognitiveKernel
