/-
Module: CognitiveKernel.Snapshot.Json
Purpose: Modes, blocks and snapshots as JSON texts.
Main exports: Mode.ofJson, Block.ofJson, Snapshot.toJson, Snapshot.ofJson
-/
import CognitiveKernel.Blueprint.Block
import CognitiveKernel.Json.Decoding
import CognitiveKernel.Json.Reading
import CognitiveKernel.Json.Writing
import CognitiveKernel.Snapshot

namespace CognitiveKernel

open Document (Fault Reading)

/-- Reads a JSON text as one value and decodes it. -/
def Json.decodeText {α : Type} (decode : Json.Value → Except Fault α) (text : String) :
    Except KernelError α :=
  match Json.parse? text with
  | none => .error (.json .malformed)
  | some value => (decode value).mapError .json

namespace Mode

/-- A mode is read from its name. -/
def decodeJson : Json.Value → Except Fault Mode :=
  Json.variant (all.map documentName) ofDocumentName?

/-- Reads a mode from a JSON text. -/
def ofJson (text : String) : Except KernelError Mode :=
  Json.decodeText decodeJson text

def toJson (mode : Mode) : String :=
  Json.print (Json.ofText mode.documentName)

end Mode

namespace Block

/-- A block is read from its name. -/
def decodeJson : Json.Value → Except Fault Block :=
  Json.variant (all.map documentName) ofDocumentName?

/-- Reads a block from a JSON text. -/
def ofJson (text : String) : Except KernelError Block :=
  Json.decodeText decodeJson text

def toJson (block : Block) : String :=
  Json.print (Json.ofText block.documentName)

end Block

namespace BasisVector

def encodeJson (vector : BasisVector) : Json.Value :=
  Json.ofFields
    [ ("name", Json.ofText vector.name),
      ("definition", Json.ofText vector.definition),
      ("constraint", Json.ofText vector.constraint),
      ("weight", Json.ofNumber vector.weight) ]

/-- Reads a vector from a JSON value. -/
def decodeJson : Json.Value → Except Fault BasisVector :=
  Json.record "CognitiveVector" ["name", "definition", "constraint", "weight"] fun record =>
    BasisVector.mk <$> record.field "name" none Json.text
      <*> record.field "definition" none Json.text
      <*> record.field "constraint" none Json.text
      <*> record.field "weight" none Json.number

end BasisVector

namespace Snapshot

def encodeJson (snapshot : Snapshot) : Json.Value :=
  Json.ofFields
    [ ("mode", Json.ofText snapshot.mode.documentName),
      ("rigor", Json.ofNumber snapshot.rigor),
      ("vectors", .array (snapshot.vectors.map BasisVector.encodeJson)) ]

/-- Reads a snapshot from a JSON value. -/
def decodeJson : Json.Value → Except Fault Snapshot :=
  Json.record "KernelSnapshot" ["mode", "rigor", "vectors"] fun record =>
    Snapshot.mk <$> record.field "mode" none Mode.decodeJson
      <*> record.field "rigor" none Json.number
      <*> record.field "vectors" none (Json.sequence BasisVector.decodeJson)

def toJson (snapshot : Snapshot) : String :=
  Json.print snapshot.encodeJson

/-- Reads a snapshot from a JSON text. -/
def ofJson (text : String) : Except KernelError Snapshot :=
  Json.decodeText decodeJson text

end Snapshot

end CognitiveKernel
