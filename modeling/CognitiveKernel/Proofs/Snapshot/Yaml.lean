/-
Module: CognitiveKernel.Proofs.Snapshot.Yaml
Purpose: A snapshot is restored from its YAML text, up to the bits of NaN.
Main exports: Mode.faithful_documentName, Snapshot.upToNaN, Snapshot.faithful_encodeYaml,
  Snapshot.ofYaml_toYaml
-/
import CognitiveKernel.Proofs.Yaml.Decoding
import CognitiveKernel.Snapshot.Yaml

namespace CognitiveKernel

open Yaml (Faithful Fields Tree)

theorem Mode.faithful_documentName :
    Faithful (fun mode : Mode => Tree.ofText mode.documentName) decodeYaml id where
  presentable := fun mode => Yaml.faithful_ofText.presentable mode.documentName
  decode_encode := fun _ mode => Yaml.variant_ofText mode.ofDocumentName?_documentName

def BasisVector.upToNaN (vector : BasisVector) : BasisVector :=
  { vector with weight := vector.weight.upToNaN }

/-- A snapshot with the quiet NaN in place of any other one. -/
def Snapshot.upToNaN (snapshot : Snapshot) : Snapshot :=
  { snapshot with
    rigor := snapshot.rigor.upToNaN
    vectors := snapshot.vectors.map BasisVector.upToNaN }

theorem BasisVector.faithful_encodeYaml : Faithful encodeYaml decodeYaml upToNaN := by
  apply Faithful.of_fields (fun _ => rfl)
  · simp [Yaml.faithful_ofText.presentable, Yaml.faithful_ofNumber.presentable]
  · intro document vector
    simp [Fields.read_here Yaml.faithful_ofText, Fields.read_here Yaml.faithful_ofNumber,
      Fields.read_later]
    rfl

theorem Snapshot.faithful_encodeYaml : Faithful encodeYaml decodeYaml upToNaN := by
  have vectors := Yaml.faithful_sequence BasisVector.faithful_encodeYaml
  apply Faithful.of_fields (fun _ => rfl)
  · simp [Yaml.faithful_ofText.presentable, Yaml.faithful_ofNumber.presentable,
      vectors.presentable]
  · intro document snapshot
    simp [Fields.read_here Mode.faithful_documentName, Fields.read_here Yaml.faithful_ofNumber,
      Fields.read_here vectors, Fields.read_later]
    rfl

/-- A snapshot survives its YAML text unchanged but for the bits of NaN. -/
theorem Snapshot.ofYaml_toYaml (snapshot : Snapshot) :
    ofYaml snapshot.toYaml = .ok snapshot.upToNaN :=
  faithful_encodeYaml.decodeText_print rfl

end CognitiveKernel
