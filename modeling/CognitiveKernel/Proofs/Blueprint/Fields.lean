/-
Module: CognitiveKernel.Proofs.Blueprint.Fields
Purpose: A structured kernel is read block by block and field by field.
Main exports: Blueprint.layout, Blueprint.DescribedBy, ofYaml_readByFields
-/
import CognitiveKernel.Blueprint.Yaml
import CognitiveKernel.Proofs.Config.Fields

namespace CognitiveKernel

open Yaml (Content Decodes FieldIs Follows Layout ReadByFields Spells)

theorem Yaml.follows_boolean : Follows .leaf (Decodes boolean) boolean := .leaf transparent_boolean

theorem Yaml.follows_texts : Follows .leaf (Decodes (sequence text)) (sequence text) :=
  .leaf transparent_text.sequence

namespace Precedence

/-- The fields of a precedence hierarchy, all of which have to be there. -/
def layout : Layout :=
  .record [⟨"primary", true, .leaf⟩, ⟨"secondary", true, .leaf⟩, ⟨"tertiary", true, .leaf⟩]

structure DescribedBy (tree : Content) (precedence : Precedence) : Prop where
  isRecord : tree.isRecord = true
  primary : FieldIs tree "primary" none (Decodes Yaml.text) precedence.primary
  secondary : FieldIs tree "secondary" none (Decodes Yaml.text) precedence.secondary
  tertiary : FieldIs tree "tertiary" none (Decodes Yaml.text) precedence.tertiary

theorem follows_layout : Follows layout DescribedBy decodeYaml := by
  apply Follows.record
  · exact (Yaml.follows_text.covers "primary" _).map mk
      |>.seq (Yaml.follows_text.covers "secondary" _)
      |>.seq (Yaml.follows_text.covers "tertiary" _)
  · decide
  · exact DescribedBy.isRecord
  · intro fields tree precedence accepted hold
    simp only [Yaml.seq_eq_some_iff, Yaml.map_eq_some_iff, Yaml.follows_text.read_iff hold]
    constructor
    · rintro ⟨_, ⟨_, ⟨_, primary, rfl⟩, _, secondary, rfl⟩, _, tertiary, rfl⟩
      exact ⟨accepted, primary, secondary, tertiary⟩
    · rintro ⟨-, primary, secondary, tertiary⟩
      exact ⟨_, ⟨_, ⟨_, primary, rfl⟩, _, secondary, rfl⟩, _, tertiary, rfl⟩

end Precedence

namespace InitBlock

/-- The fields of the initial block, which may do without objectives. -/
def layout : Layout :=
  .record
    [ ⟨"auth", true, .leaf⟩,
      ⟨"filter", true, .leaf⟩,
      ⟨"precedence", true, Precedence.layout⟩,
      ⟨"objectives", false, .leaf⟩ ]

structure DescribedBy (tree : Content) (block : InitBlock) : Prop where
  isRecord : tree.isRecord = true
  auth : FieldIs tree "auth" none (Decodes Yaml.text) block.auth
  filter : FieldIs tree "filter" none (Decodes Yaml.text) block.filter
  precedence : FieldIs tree "precedence" none Precedence.DescribedBy block.precedence
  objectives : FieldIs tree "objectives" (some .empty) (Decodes (Yaml.nameMap Yaml.text))
    block.objectives

theorem follows_layout : Follows layout DescribedBy decodeYaml := by
  have objectives := Follows.leaf Yaml.transparent_text.nameMap
  apply Follows.record
  · exact (Yaml.follows_text.covers "auth" _).map mk
      |>.seq (Yaml.follows_text.covers "filter" _)
      |>.seq (Precedence.follows_layout.covers "precedence" _)
      |>.seq (objectives.covers "objectives" _)
  · decide
  · exact DescribedBy.isRecord
  · intro fields tree block accepted hold
    simp only [Yaml.seq_eq_some_iff, Yaml.map_eq_some_iff, Yaml.follows_text.read_iff hold,
      Precedence.follows_layout.read_iff hold, objectives.read_iff hold]
    constructor
    · rintro ⟨_, ⟨_, ⟨_, ⟨_, auth, rfl⟩, _, filter, rfl⟩, _, precedence, rfl⟩, _, objectives, rfl⟩
      exact ⟨accepted, auth, filter, precedence, objectives⟩
    · rintro ⟨-, auth, filter, precedence, objectives⟩
      exact ⟨_, ⟨_, ⟨_, ⟨_, auth, rfl⟩, _, filter, rfl⟩, _, precedence, rfl⟩, _, objectives, rfl⟩

end InitBlock

namespace TensorBlock

/-- The fields of the cognitive tensors, which may do without vectors. -/
def layout : Layout :=
  .record [⟨"profile", true, .leaf⟩, ⟨"vectors", false, .leaf⟩]

structure DescribedBy (tree : Content) (block : TensorBlock) : Prop where
  isRecord : tree.isRecord = true
  profile : FieldIs tree "profile" none (Decodes (Yaml.row 9 Yaml.number)) block.profile
  vectors : FieldIs tree "vectors" (some []) (Decodes (Yaml.sequence Yaml.text)) block.vectors

theorem follows_layout : Follows layout DescribedBy decodeYaml := by
  have profile := Follows.leaf (Yaml.transparent_number.row 9)
  apply Follows.record
  · exact (profile.covers "profile" _).map mk |>.seq (Yaml.follows_texts.covers "vectors" _)
  · decide
  · exact DescribedBy.isRecord
  · intro fields tree block accepted hold
    simp only [Yaml.seq_eq_some_iff, Yaml.map_eq_some_iff, profile.read_iff hold,
      Yaml.follows_texts.read_iff hold]
    constructor
    · rintro ⟨_, ⟨_, profile, rfl⟩, _, vectors, rfl⟩
      exact ⟨accepted, profile, vectors⟩
    · rintro ⟨-, profile, vectors⟩
      exact ⟨_, ⟨_, profile, rfl⟩, _, vectors, rfl⟩

end TensorBlock

namespace SolverBlock

/-- The fields of the strategic solver, which may do without a check for states that cannot be
satisfied. -/
def layout : Layout :=
  .record [⟨"mode", true, .leaf⟩, ⟨"target", true, .leaf⟩, ⟨"null_check", false, .leaf⟩]

structure DescribedBy (tree : Content) (block : SolverBlock) : Prop where
  isRecord : tree.isRecord = true
  mode : FieldIs tree "mode" none (Decodes Mode.decodeYaml) block.mode
  target : FieldIs tree "target" none (Decodes Yaml.text) block.target
  nullCheck : FieldIs tree "null_check" (some "") (Decodes Yaml.text) block.nullCheck

theorem follows_layout : Follows layout DescribedBy decodeYaml := by
  apply Follows.record
  · exact (Mode.follows_leaf.covers "mode" _).map mk
      |>.seq (Yaml.follows_text.covers "target" _)
      |>.seq (Yaml.follows_text.covers "null_check" _)
  · decide
  · exact DescribedBy.isRecord
  · intro fields tree block accepted hold
    simp only [Yaml.seq_eq_some_iff, Yaml.map_eq_some_iff, Mode.follows_leaf.read_iff hold,
      Yaml.follows_text.read_iff hold]
    constructor
    · rintro ⟨_, ⟨_, ⟨_, mode, rfl⟩, _, target, rfl⟩, _, nullCheck, rfl⟩
      exact ⟨accepted, mode, target, nullCheck⟩
    · rintro ⟨-, mode, target, nullCheck⟩
      exact ⟨_, ⟨_, ⟨_, mode, rfl⟩, _, target, rfl⟩, _, nullCheck, rfl⟩

end SolverBlock

namespace BoundaryBlock

/-- The fields of the boundary control, all of which have to be there. -/
def layout : Layout :=
  .record
    [ ⟨"internal_set", true, .leaf⟩,
      ⟨"external_set", true, .leaf⟩,
      ⟨"invariant", true, .leaf⟩,
      ⟨"enforcement", true, .leaf⟩,
      ⟨"violation", true, .leaf⟩ ]

structure DescribedBy (tree : Content) (block : BoundaryBlock) : Prop where
  isRecord : tree.isRecord = true
  internalSet : FieldIs tree "internal_set" none (Decodes (Yaml.sequence Yaml.text))
    block.internalSet
  externalSet : FieldIs tree "external_set" none (Decodes (Yaml.sequence Yaml.text))
    block.externalSet
  invariant : FieldIs tree "invariant" none (Decodes Yaml.text) block.invariant
  enforcement : FieldIs tree "enforcement" none (Decodes Yaml.text) block.enforcement
  violation : FieldIs tree "violation" none (Decodes Yaml.text) block.violation

theorem follows_layout : Follows layout DescribedBy decodeYaml := by
  apply Follows.record
  · exact (Yaml.follows_texts.covers "internal_set" _).map mk
      |>.seq (Yaml.follows_texts.covers "external_set" _)
      |>.seq (Yaml.follows_text.covers "invariant" _)
      |>.seq (Yaml.follows_text.covers "enforcement" _)
      |>.seq (Yaml.follows_text.covers "violation" _)
  · decide
  · exact DescribedBy.isRecord
  · intro fields tree block accepted hold
    simp only [Yaml.seq_eq_some_iff, Yaml.map_eq_some_iff, Yaml.follows_texts.read_iff hold,
      Yaml.follows_text.read_iff hold]
    constructor
    · rintro ⟨_, ⟨_, ⟨_, ⟨_, ⟨_, internalSet, rfl⟩, _, externalSet, rfl⟩, _, invariant, rfl⟩, _,
      enforcement, rfl⟩, _, violation, rfl⟩
      exact ⟨accepted, internalSet, externalSet, invariant, enforcement, violation⟩
    · rintro ⟨-, internalSet, externalSet, invariant, enforcement, violation⟩
      exact ⟨_, ⟨_, ⟨_, ⟨_, ⟨_, internalSet, rfl⟩, _, externalSet, rfl⟩, _, invariant, rfl⟩, _,
        enforcement, rfl⟩, _, violation, rfl⟩

end BoundaryBlock

namespace DecoderBlock

/-- The fields of the decoder manifold, which may do without a leak penalty. -/
def layout : Layout :=
  .record
    [ ⟨"objective", true, .leaf⟩,
      ⟨"lambda1", true, .leaf⟩,
      ⟨"lambda2", true, .leaf⟩,
      ⟨"lambda3", true, .leaf⟩,
      ⟨"lambda4", false, .leaf⟩ ]

structure DescribedBy (tree : Content) (block : DecoderBlock) : Prop where
  isRecord : tree.isRecord = true
  objective : FieldIs tree "objective" none (Decodes Yaml.text) block.objective
  lambda1 : FieldIs tree "lambda1" none (Decodes Yaml.number) block.lambda1
  lambda2 : FieldIs tree "lambda2" none (Decodes Yaml.number) block.lambda2
  lambda3 : FieldIs tree "lambda3" none (Decodes Yaml.number) block.lambda3
  lambda4 : FieldIs tree "lambda4" (some .infinity) (Decodes Yaml.number) block.lambda4

theorem follows_layout : Follows layout DescribedBy decodeYaml := by
  apply Follows.record
  · exact (Yaml.follows_text.covers "objective" _).map mk
      |>.seq (Yaml.follows_number.covers "lambda1" _)
      |>.seq (Yaml.follows_number.covers "lambda2" _)
      |>.seq (Yaml.follows_number.covers "lambda3" _)
      |>.seq (Yaml.follows_number.covers "lambda4" _)
  · decide
  · exact DescribedBy.isRecord
  · intro fields tree block accepted hold
    simp only [Yaml.seq_eq_some_iff, Yaml.map_eq_some_iff, Yaml.follows_text.read_iff hold,
      Yaml.follows_number.read_iff hold]
    constructor
    · rintro ⟨_, ⟨_, ⟨_, ⟨_, ⟨_, objective, rfl⟩, _, lambda1, rfl⟩, _, lambda2, rfl⟩, _, lambda3,
      rfl⟩, _, lambda4, rfl⟩
      exact ⟨accepted, objective, lambda1, lambda2, lambda3, lambda4⟩
    · rintro ⟨-, objective, lambda1, lambda2, lambda3, lambda4⟩
      exact ⟨_, ⟨_, ⟨_, ⟨_, ⟨_, objective, rfl⟩, _, lambda1, rfl⟩, _, lambda2, rfl⟩, _, lambda3,
        rfl⟩, _, lambda4, rfl⟩

end DecoderBlock

namespace Blueprint

/-- The fields of a structured kernel: its blocks, and whether it erases itself, which it does if
nothing is said. -/
def layout : Layout :=
  .record
    [ ⟨"schema", true, .leaf⟩,
      ⟨"init", true, InitBlock.layout⟩,
      ⟨"tensors", true, TensorBlock.layout⟩,
      ⟨"solver", true, SolverBlock.layout⟩,
      ⟨"boundary", true, BoundaryBlock.layout⟩,
      ⟨"decoder", true, DecoderBlock.layout⟩,
      ⟨"self_erase", false, .leaf⟩ ]

/-- What a tree says about a structured kernel: each field by its own entry, or by default. -/
structure DescribedBy (tree : Content) (blueprint : Blueprint) : Prop where
  isRecord : tree.isRecord = true
  schema : FieldIs tree "schema" none (Decodes Yaml.text) blueprint.schema
  init : FieldIs tree "init" none InitBlock.DescribedBy blueprint.init
  tensors : FieldIs tree "tensors" none TensorBlock.DescribedBy blueprint.tensors
  solver : FieldIs tree "solver" none SolverBlock.DescribedBy blueprint.solver
  boundary : FieldIs tree "boundary" none BoundaryBlock.DescribedBy blueprint.boundary
  decoder : FieldIs tree "decoder" none DecoderBlock.DescribedBy blueprint.decoder
  selfErase : FieldIs tree "self_erase" (some true) (Decodes Yaml.boolean) blueprint.selfErase

theorem follows_layout : Follows layout DescribedBy decodeYaml := by
  apply Follows.record
  · exact (Yaml.follows_text.covers "schema" _).map mk
      |>.seq (InitBlock.follows_layout.covers "init" _)
      |>.seq (TensorBlock.follows_layout.covers "tensors" _)
      |>.seq (SolverBlock.follows_layout.covers "solver" _)
      |>.seq (BoundaryBlock.follows_layout.covers "boundary" _)
      |>.seq (DecoderBlock.follows_layout.covers "decoder" _)
      |>.seq (Yaml.follows_boolean.covers "self_erase" _)
  · decide
  · exact DescribedBy.isRecord
  · intro fields tree blueprint accepted hold
    simp only [Yaml.seq_eq_some_iff, Yaml.map_eq_some_iff, Yaml.follows_text.read_iff hold,
      InitBlock.follows_layout.read_iff hold, TensorBlock.follows_layout.read_iff hold,
      SolverBlock.follows_layout.read_iff hold, BoundaryBlock.follows_layout.read_iff hold,
      DecoderBlock.follows_layout.read_iff hold, Yaml.follows_boolean.read_iff hold]
    constructor
    · rintro ⟨_, ⟨_, ⟨_, ⟨_, ⟨_, ⟨_, ⟨_, schema, rfl⟩, _, init, rfl⟩, _, tensors, rfl⟩,
        _, solver, rfl⟩, _, boundary, rfl⟩, _, decoder, rfl⟩, _, selfErase, rfl⟩
      exact ⟨accepted, schema, init, tensors, solver, boundary, decoder, selfErase⟩
    · rintro ⟨-, schema, init, tensors, solver, boundary, decoder, selfErase⟩
      exact ⟨_, ⟨_, ⟨_, ⟨_, ⟨_, ⟨_, ⟨_, schema, rfl⟩, _, init, rfl⟩, _, tensors, rfl⟩,
        _, solver, rfl⟩, _, boundary, rfl⟩, _, decoder, rfl⟩, _, selfErase, rfl⟩

/-- A structured kernel is read by its fields from any text with a tree. -/
theorem readByFields_ofYaml {text : String} {tree : Content} (spells : Spells text tree) :
    ReadByFields layout DescribedBy ofYaml text tree :=
  follows_layout.readByFields spells

end Blueprint

/-- Configurations and structured kernels are read from the entries that they know, at every level.
Other entries, the order of entries and aliases make no difference; a value is read exactly if
every field of it is what its own entry says, or its default; and without a field that has no
default there is none. -/
theorem ofYaml_readByFields {text : String} {tree : Content} (spells : Spells text tree) :
    ReadByFields Config.layout Config.DescribedBy Config.ofYaml text tree ∧
      ReadByFields Blueprint.layout Blueprint.DescribedBy Blueprint.ofYaml text tree :=
  ⟨Config.readByFields_ofYaml spells, Blueprint.readByFields_ofYaml spells⟩

/-- An alias under a known name stands for what an unknown entry holds. -/
theorem ofYaml_aliased :
    (Config.ofYaml "rigor: 2").toOption = (Config.ofYaml "a: &x 2\nrigor: *x").toOption ∧
      Config.ofYaml "a: &x 2\nrigor: *x" =
        .ok ⟨.analysis, .ofDecimal false ⟨2, 0⟩, .empty, none⟩ ∧
      ∃ fault, Blueprint.ofYaml "a: &x 2\nrigor: *x" = .error (.yaml fault) := by
  have plainTokens : Yaml.Token.scan? "rigor: 2" =
      some [.blockMappingStart, .key, .scalar "rigor" .plain, .value, .scalar "2" .plain,
        .blockEnd] := by decide +kernel
  have aliasedTokens : Yaml.Token.scan? "a: &x 2\nrigor: *x" =
      some [.blockMappingStart, .key, .scalar "a" .plain, .value, .anchor "x", .scalar "2" .plain,
        .key, .scalar "rigor" .plain, .value, .alias "x", .blockEnd] := by decide +kernel
  have plain : Spells "rigor: 2"
      (.mapping none [(.scalar none .plain "rigor", .scalar none .plain "2")]) := by
    refine ⟨⟨some (.mapping .none [(.scalar .none .plain "rigor", .scalar .none .plain "2")]), []⟩,
      _, ?_, rfl, ?_⟩
    · rw [Yaml.Document.ofText?, plainTokens]
      rfl
    · exact Yaml.Document.expands_toNode _
        (.mapping none [(.scalar none .plain "rigor", .scalar none .plain "2")])
  have aliased : Spells "a: &x 2\nrigor: *x"
      (.mapping none [(.scalar none .plain "a", .scalar none .plain "2"),
        (.scalar none .plain "rigor", .scalar none .plain "2")]) := by
    refine ⟨⟨some (.mapping .none [(.scalar .none .plain "a", .scalar ⟨some 0, none⟩ .plain "2"),
      (.scalar .none .plain "rigor", .alias 0)]), [(0, .scalar ⟨some 0, none⟩ .plain "2")]⟩,
      _, ?_, rfl, ?_⟩
    · rw [Yaml.Document.ofText?, aliasedTokens]
      rfl
    · apply @Yaml.Document.Expands.mapping _ _ .none _ _ rfl
      apply Yaml.Document.EntriesExpand.cons
      · exact @Yaml.Document.Expands.scalar _ _ .none _ _ rfl
      · exact @Yaml.Document.Expands.scalar _ _ ⟨some 0, none⟩ _ _ rfl
      apply Yaml.Document.EntriesExpand.cons
      · exact @Yaml.Document.Expands.scalar _ _ .none _ _ rfl
      · exact @Yaml.Document.Expands.scalar _ _ ⟨some 0, none⟩ _ _ rfl
      exact .nil
  have two : Decodes Yaml.number (.scalar none .plain "2") (.ofDecimal false ⟨2, 0⟩) := by
    rw [Decodes, Yaml.decoded_number]
    decide +kernel
  obtain ⟨config, blueprint⟩ := ofYaml_readByFields aliased
  refine ⟨?_, ?_, ?_⟩
  · apply config.stable plain
    apply Relation.EqvGen.symm
    apply Relation.EqvGen.rel
    exact @Yaml.Rearranges.insert _ _ [] _ _ _ "a" rfl (by simp [Yaml.Unknown])
  · apply config.ok_iff.mpr
    exact ⟨rfl, .absent rfl rfl, .present rfl two, .absent rfl rfl, .absent rfl rfl⟩
  · apply blueprint.strict
    exact Yaml.Misses.here List.mem_cons_self rfl (by decide)

end CognitiveKernel
