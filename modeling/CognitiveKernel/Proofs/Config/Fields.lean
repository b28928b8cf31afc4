/-
Module: CognitiveKernel.Proofs.Config.Fields
Purpose: A configuration is read field by field, and every field has a default.
Main exports: Config.layout, Config.DescribedBy, Config.readByFields_ofYaml
-/
import CognitiveKernel.Config.Yaml
import CognitiveKernel.Proofs.Yaml.Records

namespace CognitiveKernel

open Yaml (Content Decodes FieldIs Follows Layout ReadByFields Spells)

theorem Mode.follows_leaf : Follows .leaf (Decodes Mode.decodeYaml) Mode.decodeYaml :=
  .leaf Yaml.readsScalars_variant.transparent

theorem Yaml.follows_text : Follows .leaf (Decodes text) text := .leaf transparent_text

theorem Yaml.follows_number : Follows .leaf (Decodes number) number := .leaf transparent_number

namespace Config

/-- The fields of a configuration. None of them has to be there. -/
def layout : Layout :=
  .record
    [ ⟨"mode", false, .leaf⟩,
      ⟨"rigor", false, .leaf⟩,
      ⟨"weights", false, .leaf⟩,
      ⟨"template_dir", false, .leaf⟩ ]

/-- What a tree says about a configuration: each field by its own entry, or by default. -/
structure DescribedBy (tree : Content) (config : Config) : Prop where
  isRecord : tree.isRecord = true
  mode : FieldIs tree "mode" (some .analysis) (Decodes Mode.decodeYaml) config.mode
  rigor : FieldIs tree "rigor" (some .one) (Decodes Yaml.number) config.rigor
  weights : FieldIs tree "weights" (some .empty) (Decodes (Yaml.nameMap Yaml.number)) config.weights
  templateDir : FieldIs tree "template_dir" (some none) (Decodes Yaml.optionalPath)
    config.templateDir

theorem follows_layout : Follows layout DescribedBy decodeYaml := by
  have weights := Follows.leaf Yaml.transparent_number.nameMap
  have templateDir := Follows.leaf Yaml.readsScalars_optionalPath.transparent
  apply Follows.record
  · exact (Mode.follows_leaf.covers "mode" _).map mk
      |>.seq (Yaml.follows_number.covers "rigor" _)
      |>.seq (weights.covers "weights" _)
      |>.seq (templateDir.covers "template_dir" _)
  · decide
  · exact DescribedBy.isRecord
  · intro fields tree config accepted hold
    -- Both sides say what each field is; the reading names the function applied so far as well.
    simp only [Yaml.seq_eq_some_iff, Yaml.map_eq_some_iff, Mode.follows_leaf.read_iff hold,
      Yaml.follows_number.read_iff hold, weights.read_iff hold, templateDir.read_iff hold]
    constructor
    · rintro ⟨_, ⟨_, ⟨_, ⟨_, mode, rfl⟩, _, rigor, rfl⟩, _, weights, rfl⟩, _, templateDir, rfl⟩
      exact ⟨accepted, mode, rigor, weights, templateDir⟩
    · rintro ⟨-, mode, rigor, weights, templateDir⟩
      exact ⟨_, ⟨_, ⟨_, ⟨_, mode, rfl⟩, _, rigor, rfl⟩, _, weights, rfl⟩, _, templateDir, rfl⟩

/-- A configuration is read by its fields from any text with a tree. -/
theorem readByFields_ofYaml {text : String} {tree : Content} (spells : Spells text tree) :
    ReadByFields layout DescribedBy ofYaml text tree :=
  follows_layout.readByFields spells

end Config

end CognitiveKernel
