/-
Module: CognitiveKernel.Proofs.Blueprint.Yaml
Purpose: A structured kernel is restored from its YAML text.
Main exports: Blueprint.upToNaN, Blueprint.faithful_encodeYaml, Blueprint.ofYaml_toYaml_eq_blueprint
-/
import CognitiveKernel.Blueprint.Yaml
import CognitiveKernel.Proofs.Snapshot.Yaml

namespace CognitiveKernel

open Yaml (Faithful Fields Tree)

theorem Precedence.faithful_encodeYaml : Faithful encodeYaml decodeYaml id := by
  apply Faithful.of_fields (fun _ => rfl)
  · simp [Yaml.faithful_ofText.presentable]
  · simp [Fields.read_here Yaml.faithful_ofText, Fields.read_later]

theorem InitBlock.faithful_encodeObjectives :
    Faithful encodeObjectives (Yaml.nameMap Yaml.text) id := by
  have objectives := Yaml.faithful_nameMap Yaml.faithful_ofText
  rwa [funext NameMap.mapValues_id] at objectives

theorem InitBlock.faithful_encodeYaml : Faithful encodeYaml decodeYaml id := by
  apply Faithful.of_fields (fun _ => rfl)
  · simp [Yaml.faithful_ofText.presentable, Precedence.faithful_encodeYaml.presentable,
      faithful_encodeObjectives.presentable]
  · simp [Fields.read_here Yaml.faithful_ofText, Fields.read_here Precedence.faithful_encodeYaml,
      Fields.read_here faithful_encodeObjectives, Fields.read_later]

theorem Yaml.faithful_ofTexts : Faithful Tree.ofTexts (sequence text) id := by
  have texts := faithful_sequence faithful_ofText
  rwa [List.map_id_fun] at texts

def TensorBlock.upToNaN (tensors : TensorBlock) : TensorBlock :=
  { tensors with profile := tensors.profile.map Binary64.upToNaN }

def DecoderBlock.upToNaN (decoder : DecoderBlock) : DecoderBlock :=
  { decoder with
    lambda1 := decoder.lambda1.upToNaN
    lambda2 := decoder.lambda2.upToNaN
    lambda3 := decoder.lambda3.upToNaN
    lambda4 := decoder.lambda4.upToNaN }

/-- A structured kernel with the quiet NaN in place of any other one. -/
def Blueprint.upToNaN (blueprint : Blueprint) : Blueprint :=
  { blueprint with
    tensors := blueprint.tensors.upToNaN
    decoder := blueprint.decoder.upToNaN }

theorem TensorBlock.faithful_encodeYaml : Faithful encodeYaml decodeYaml upToNaN := by
  have weights := @Yaml.faithful_row _ _ _ _ 9 Yaml.faithful_ofNumber
  apply Faithful.of_fields (fun _ => rfl)
  · simp [weights.presentable, Yaml.faithful_ofTexts.presentable]
  · simp [upToNaN, Fields.read_here weights, Fields.read_here Yaml.faithful_ofTexts,
      Fields.read_later]

theorem SolverBlock.faithful_encodeYaml : Faithful encodeYaml decodeYaml id := by
  apply Faithful.of_fields (fun _ => rfl)
  · simp [Yaml.faithful_ofText.presentable]
  · simp [Fields.read_here Mode.faithful_documentName, Fields.read_here Yaml.faithful_ofText,
      Fields.read_later]

theorem BoundaryBlock.faithful_encodeYaml : Faithful encodeYaml decodeYaml id := by
  apply Faithful.of_fields (fun _ => rfl)
  · simp [Yaml.faithful_ofText.presentable, Yaml.faithful_ofTexts.presentable]
  · simp [Fields.read_here Yaml.faithful_ofText, Fields.read_here Yaml.faithful_ofTexts,
      Fields.read_later]

theorem DecoderBlock.faithful_encodeYaml : Faithful encodeYaml decodeYaml upToNaN := by
  apply Faithful.of_fields (fun _ => rfl)
  · simp [Yaml.faithful_ofText.presentable, Yaml.faithful_ofNumber.presentable]
  · simp [upToNaN, Fields.read_here Yaml.faithful_ofText,
      Fields.read_here Yaml.faithful_ofNumber, Fields.read_later]

theorem Blueprint.faithful_encodeYaml : Faithful encodeYaml decodeYaml upToNaN := by
  apply Faithful.of_fields (fun _ => rfl)
  · simp [Yaml.faithful_ofText.presentable, Yaml.faithful_ofBoolean.presentable,
      InitBlock.faithful_encodeYaml.presentable, TensorBlock.faithful_encodeYaml.presentable,
      SolverBlock.faithful_encodeYaml.presentable, BoundaryBlock.faithful_encodeYaml.presentable,
      DecoderBlock.faithful_encodeYaml.presentable]
  · simp [upToNaN, Fields.read_here Yaml.faithful_ofText, Fields.read_here Yaml.faithful_ofBoolean,
      Fields.read_here InitBlock.faithful_encodeYaml,
      Fields.read_here TensorBlock.faithful_encodeYaml,
      Fields.read_here SolverBlock.faithful_encodeYaml,
      Fields.read_here BoundaryBlock.faithful_encodeYaml,
      Fields.read_here DecoderBlock.faithful_encodeYaml, Fields.read_later]

/-- A structured kernel survives its YAML text: texts of any characters, sets and maps of any size,
infinite numbers and all bits of real ones. Of a NaN it is kept that it is one. -/
theorem Blueprint.ofYaml_toYaml_eq_blueprint (blueprint : Blueprint) :
    ofYaml blueprint.toYaml = .ok blueprint.upToNaN :=
  faithful_encodeYaml.decodeText_print rfl

end CognitiveKernel
