/-
Module: CognitiveKernel.Proofs.Config.Yaml
Purpose: A configuration is restored from its YAML text.
Main exports: Config.upToNaN, Config.faithful_encodeYaml, Config.ofYaml_toYaml_eq_config
-/
import CognitiveKernel.Config.Yaml
import CognitiveKernel.Proofs.Snapshot.Yaml

namespace CognitiveKernel

open Yaml (Faithful Fields Tree)

namespace Yaml

/-- A text that is written without quotes does not stand for the absence of a value. -/
theorem denotesNothing_of_plain {text : String} (plain : styleOf text = .plain) :
    denotesNothing text = false := by
  have understood (kept : (!isMisread text && allowsPlain text.toList) = true) :
      denotesNothing text = false := by
    simp only [Bool.and_eq_true, Bool.not_eq_true', isMisread, Bool.or_eq_false_iff,
      decide_eq_false_iff_not, ne_eq, Decidable.not_not] at kept
    cases nothing : denotesNothing text with
    | false => rfl
    | true =>
        have resolved := kept.1.1
        rw [resolve, if_pos nothing] at resolved
        cases resolved
  rw [styleOf] at plain
  split at plain
  · split at plain <;> cases plain
  · split at plain
    · rename_i kept
      exact understood kept
    · split at plain <;> cases plain

/-- A path that is present is read as one, even where it looks like nothing. -/
theorem optionalPath_ofText (document : Document) (path : String) :
    optionalPath document (Tree.ofText path).toNode = .ok (some path) := by
  have text : (textAs "path string" document (Tree.ofText path).toNode).map some =
      .ok (some path) := rfl
  have node : document.follow (Tree.ofText path).toNode = .scalar .none (styleOf path) path := rfl
  rw [optionalPath, text]
  simp only [node]
  cases style : styleOf path with
  | plain => simp [Properties.none, denotesNothing_of_plain style]
  | singleQuoted => rfl
  | doubleQuoted => rfl
  | literal => rfl
  | folded => rfl

end Yaml

namespace Config

/-- A configuration with the quiet NaN in place of any other one. -/
def upToNaN (config : Config) : Config :=
  { config with
    rigor := config.rigor.upToNaN
    weights := config.weights.mapValues Binary64.upToNaN }

theorem faithful_encodeWeights :
    Faithful encodeWeights (Yaml.nameMap Yaml.number) (NameMap.mapValues Binary64.upToNaN) :=
  Yaml.faithful_nameMap Yaml.faithful_ofNumber

theorem faithful_encodeYaml : Faithful encodeYaml decodeYaml upToNaN := by
  apply Faithful.of_fields (fun _ => rfl)
  · intro config field member
    simp only [List.mem_append, Option.mem_toList, Option.map_eq_some_iff] at member
    rcases member with (fixed | weights) | ⟨path, _, rfl⟩
    · simp only [List.mem_cons, List.not_mem_nil, or_false] at fixed
      rcases fixed with rfl | rfl
      · exact Yaml.faithful_ofText.presentable _
      · exact Yaml.faithful_ofNumber.presentable _
    · split at weights
      · cases weights
      · rw [List.mem_singleton.mp weights]
        exact faithful_encodeWeights.presentable _
    · exact Yaml.faithful_ofText.presentable path
  · intro document config
    obtain ⟨mode, rigor, weights, templateDir⟩ := config
    have path := Yaml.optionalPath_ofText document
    have noPath : standard.templateDir = none := rfl
    cases unweighted : weights.isEmpty with
    | true =>
        -- No weights are not written, and are read as the standard ones, of which there are none.
        have empty : weights = standard.weights := NameMap.ext (List.isEmpty_iff.mp unweighted)
        subst empty
        have unchanged : standard.weights.mapValues Binary64.upToNaN = standard.weights := rfl
        cases templateDir <;>
          simp [upToNaN, unchanged, Fields.read_here Mode.faithful_documentName,
            Fields.read_here Yaml.faithful_ofNumber, Fields.read_decoded (path _),
            Fields.read_later, Fields.read_nowhere, noPath]
    | false =>
        cases templateDir <;>
          simp [upToNaN, Fields.read_here Mode.faithful_documentName,
            Fields.read_here Yaml.faithful_ofNumber, Fields.read_here faithful_encodeWeights,
            Fields.read_decoded (path _), Fields.read_later, Fields.read_nowhere, noPath]

/-- A configuration survives its YAML text: infinite numbers and all bits of real ones, names and
paths of any characters, and the absence of weights and of a path. Of a NaN it is kept that it is
one. -/
theorem ofYaml_toYaml_eq_config (config : Config) : ofYaml config.toYaml = .ok config.upToNaN :=
  faithful_encodeYaml.decodeText_print rfl

end Config

end CognitiveKernel
