/-
Module: CognitiveKernel.Proofs.Blueprint.Rendering
Purpose: What the text of a structured kernel tells about the kernel, and what it does not.
Main exports: Blueprint.shownTexts, Blueprint.Delimited, Blueprint.AgreeOnShown,
  Blueprint.lacks_blocks, Blueprint.render_eq_intercalate, Blueprint.blocks_inj,
  Blueprint.render_eq_render_iff
-/
import CognitiveKernel.Blueprint.Rendering
import CognitiveKernel.Proofs.Binary64.Display

namespace CognitiveKernel

open Text (Lacks lacks_append lacks_intercalate forall_mem_intercalate append_mark_inj
  intercalate_inj intercalate_inj_of_ne_empty intercalate_splice intercalate_blocks
  intercalate_ne_nil eq_of_intercalate_eq)

/-!
The text is compared line by line, so no shown text may hold a line feed. Within a line the texts
are told apart by the marks between them: a comma between the elements of a set, `≫` between the
ranks of the precedence, a colon behind the name of an objective. Numbers need no such condition.
-/

structure InitBlock.Delimited (init : InitBlock) : Prop where
  auth : Lacks '\n' init.auth
  filter : Lacks '\n' init.filter
  precedence : ∀ rank ∈ [init.precedence.primary, init.precedence.secondary,
    init.precedence.tertiary], Lacks '\n' rank ∧ Lacks '≫' rank
  keys : ∀ entry ∈ init.objectives.entries, Lacks '\n' entry.1 ∧ Lacks ':' entry.1
  values : ∀ entry ∈ init.objectives.entries, Lacks '\n' entry.2

structure SolverBlock.Delimited (solver : SolverBlock) : Prop where
  target : Lacks '\n' solver.target
  nullCheck : Lacks '\n' solver.nullCheck

structure BoundaryBlock.Delimited (boundary : BoundaryBlock) : Prop where
  internalSet : ∀ element ∈ boundary.internalSet,
    Lacks '\n' element ∧ element ≠ "" ∧ Lacks ',' element
  externalSet : ∀ element ∈ boundary.externalSet,
    Lacks '\n' element ∧ element ≠ "" ∧ Lacks ',' element
  invariant : Lacks '\n' boundary.invariant
  enforcement : Lacks '\n' boundary.enforcement
  violation : Lacks '\n' boundary.violation

/-- The texts of the initial block. -/
def InitBlock.texts (init : InitBlock) : List String :=
  [init.auth, init.filter, init.precedence.primary, init.precedence.secondary,
    init.precedence.tertiary] ++ init.objectives.entries.flatMap fun entry => [entry.1, entry.2]

def SolverBlock.texts (solver : SolverBlock) : List String := [solver.target, solver.nullCheck]

/-- The texts of the boundary control. -/
def BoundaryBlock.texts (boundary : BoundaryBlock) : List String :=
  boundary.internalSet ++ boundary.externalSet ++
    [boundary.invariant, boundary.enforcement, boundary.violation]

namespace Blueprint

/-- All texts that are shown as they are. -/
def shownTexts (blueprint : Blueprint) : List String :=
  blueprint.init.texts ++ blueprint.solver.texts ++ blueprint.boundary.texts ++
    [blueprint.decoder.objective]

/-- No shown text holds a line feed or the mark that stands behind it, and no element of a set is
empty. -/
structure Delimited (blueprint : Blueprint) : Prop where
  init : blueprint.init.Delimited
  solver : blueprint.solver.Delimited
  boundary : blueprint.boundary.Delimited
  objective : Lacks '\n' blueprint.decoder.objective

/-- Agreement in everything but the name of the schema, the names of the trait vectors, the leak
penalty and the hygiene flag. Numbers agree in all bits, or both are NaN. -/
structure AgreeOnShown (left right : Blueprint) : Prop where
  init : left.init = right.init
  profile : left.tensors.profile.map Binary64.upToNaN =
    right.tensors.profile.map Binary64.upToNaN
  solver : left.solver = right.solver
  boundary : left.boundary = right.boundary
  objective : left.decoder.objective = right.decoder.objective
  lambda1 : left.decoder.lambda1.upToNaN = right.decoder.lambda1.upToNaN
  lambda2 : left.decoder.lambda2.upToNaN = right.decoder.lambda2.upToNaN
  lambda3 : left.decoder.lambda3.upToNaN = right.decoder.lambda3.upToNaN

/-! ### The text as a row of lines -/

/-- A line for each objective, and a blank one if there are none. -/
def objectiveLines : List (String × String) → List String
  | [] => [""]
  | entry :: entries => (entry :: entries).map objectiveLine

/-- The lines of the initial block before those of the objectives. -/
def settingLines (init : InitBlock) : List String := (initLines init).take 4

/-- The lines of the initial block, with those of the objectives one by one. -/
def openedLines (init : InitBlock) : List String :=
  settingLines init ++ objectiveLines init.objectives.entries ++ ["\x7d"]

/-- The lines behind the opening section, block by block. -/
def blocks (blueprint : Blueprint) : List (List String) :=
  [ openedLines blueprint.init, tensorLines blueprint.tensors.profile,
    solverLines blueprint.solver, boundaryLines blueprint.boundary,
    decoderLines blueprint.decoder, selfEraseLines ]

theorem objectiveLines_ne_nil (entries : List (String × String)) :
    objectiveLines entries ≠ [] := by
  cases entries <;> exact List.cons_ne_nil _ _

theorem intercalate_objectiveLines (entries : List (String × String)) :
    "\n".intercalate (entries.map objectiveLine) = "\n".intercalate (objectiveLines entries) := by
  cases entries <;> rfl

theorem intercalate_initLines (init : InitBlock) :
    "\n".intercalate (initLines init) = "\n".intercalate (openedLines init) := by
  rw [openedLines, ← intercalate_splice (objectiveLines_ne_nil _), ← intercalate_objectiveLines]
  rfl

theorem blocks_ne_nil (blueprint : Blueprint) : ∀ block ∈ blueprint.blocks, block ≠ [] := by
  simp [blocks, openedLines, tensorLines, solverLines, boundaryLines, decoderLines,
    selfEraseLines]

theorem render_eq_intercalate (blueprint : Blueprint) :
    blueprint.render = "\n".intercalate schemaLines ++ ("\n\n" ++
      "\n".intercalate ([""].intercalate blueprint.blocks)) := by
  rw [← intercalate_blocks blueprint.blocks_ne_nil, blocks, List.map_cons,
    ← intercalate_initLines, ← List.map_cons, render, sectionLines, List.map_cons, List.map_cons,
    String.intercalate_cons_cons, String.append_assoc]
  rfl

/-! ### Lines hold no line feed -/

theorem lacks_natText {c : Char} (notDigit : Decimal.isDigit c = false) (number : Nat) :
    Lacks c (Decimal.natText number) := by
  rw [Lacks, Decimal.natText, String.toList_ofList]
  intro member
  exact Decimal.isDigit_ne (Decimal.isDigit_of_mem_digits member) notDigit rfl

theorem lacks_settingLines {init : InitBlock} (lacks : ∀ text ∈ init.texts, Lacks '\n' text) :
    ∀ line ∈ settingLines init, Lacks '\n' line := by
  have settings := (List.forall_mem_append.mp lacks).1
  simp only [List.forall_mem_cons] at settings
  obtain ⟨auth, filter, primary, secondary, tertiary, -⟩ := settings
  simp only [settingLines, initLines, List.take_succ_cons, List.take_zero, List.forall_mem_cons,
    lacks_append]
  exact ⟨by decide, ⟨⟨by decide, auth⟩, by decide⟩, ⟨⟨by decide, filter⟩, by decide⟩,
    ⟨⟨⟨⟨⟨⟨by decide, primary⟩, by decide⟩, secondary⟩, by decide⟩, tertiary⟩, by decide⟩, nofun⟩

theorem lacks_objectiveLines {init : InitBlock} (lacks : ∀ text ∈ init.texts, Lacks '\n' text) :
    ∀ line ∈ objectiveLines init.objectives.entries, Lacks '\n' line := by
  have parts := (List.forall_mem_append.mp lacks).2
  have shown : ∀ entry ∈ init.objectives.entries, Lacks '\n' (objectiveLine entry) := by
    intro entry member
    have part (text : String) (inEntry : text ∈ [entry.1, entry.2]) : Lacks '\n' text :=
      parts text (List.mem_flatMap.mpr ⟨entry, member, inEntry⟩)
    simp only [objectiveLine, lacks_append]
    exact ⟨⟨⟨⟨by decide, part entry.1 (by simp)⟩, by decide⟩, part entry.2 (by simp)⟩, by decide⟩
  cases shape : init.objectives.entries with
  | nil =>
      rw [objectiveLines, List.forall_mem_singleton]
      decide
  | cons entry entries =>
      rw [shape] at shown
      exact List.forall_mem_map.mpr shown

theorem lacks_openedLines {init : InitBlock} (lacks : ∀ text ∈ init.texts, Lacks '\n' text) :
    ∀ line ∈ openedLines init, Lacks '\n' line :=
  List.forall_mem_append.mpr ⟨List.forall_mem_append.mpr
    ⟨lacks_settingLines lacks, lacks_objectiveLines lacks⟩, by decide⟩

theorem lacks_tensorLines (profile : TraitProfile) :
    ∀ line ∈ tensorLines profile, Lacks '\n' line := by
  have weights : Lacks '\n' (", ".intercalate (profile.toList.map Binary64.display)) := by
    refine lacks_intercalate (by decide) ?_
    exact List.forall_mem_map.mpr fun value _ =>
      Binary64.lacks_display (by decide) (by decide) value
  have axes : ∀ trait ∈ traits, Lacks '\n' trait.limitExpression ∧ Lacks '\n' trait.name := by
    decide
  refine List.forall_mem_append.mpr ⟨?_, List.forall_mem_map.mpr fun trait member => ?_⟩
  · simp only [List.forall_mem_cons, lacks_append]
    exact ⟨by decide, ⟨⟨by decide, weights⟩, by decide⟩, by decide, nofun⟩
  · obtain ⟨limit, name⟩ := axes trait member
    simp only [traitLine, lacks_append]
    exact ⟨⟨⟨⟨⟨⟨by decide, lacks_natText (by decide) _⟩, by decide⟩, limit⟩, by decide⟩, name⟩,
      by decide⟩

theorem lacks_solverLines {solver : SolverBlock} (lacks : ∀ text ∈ solver.texts, Lacks '\n' text) :
    ∀ line ∈ solverLines solver, Lacks '\n' line := by
  have mode : Lacks '\n' solver.mode.tag := by cases solver.mode <;> decide
  simp only [SolverBlock.texts, List.forall_mem_cons] at lacks
  obtain ⟨target, nullCheck, -⟩ := lacks
  simp only [solverLines, List.forall_mem_cons, lacks_append]
  exact ⟨by decide, ⟨by decide, mode⟩, ⟨by decide, target⟩, ⟨by decide, nullCheck⟩, nofun⟩

theorem lacks_boundaryLines {boundary : BoundaryBlock}
    (lacks : ∀ text ∈ boundary.texts, Lacks '\n' text) :
    ∀ line ∈ boundaryLines boundary, Lacks '\n' line := by
  simp only [BoundaryBlock.texts, List.forall_mem_append, List.forall_mem_cons] at lacks
  obtain ⟨⟨internal, external⟩, invariant, enforcement, violation, -⟩ := lacks
  have internalSet : Lacks '\n' (", ".intercalate boundary.internalSet) :=
    lacks_intercalate (by decide) internal
  have externalSet : Lacks '\n' (", ".intercalate boundary.externalSet) :=
    lacks_intercalate (by decide) external
  simp only [boundaryLines, List.forall_mem_cons, lacks_append]
  exact ⟨by decide, ⟨⟨by decide, internalSet⟩, by decide⟩, ⟨⟨by decide, externalSet⟩, by decide⟩,
    ⟨by decide, invariant⟩, ⟨by decide, enforcement⟩, ⟨by decide, violation⟩, nofun⟩

theorem lacks_decoderLines {decoder : DecoderBlock} (objective : Lacks '\n' decoder.objective) :
    ∀ line ∈ decoderLines decoder, Lacks '\n' line := by
  have number (value : Binary64) : Lacks '\n' value.display :=
    value.lacks_display (by decide) (by decide)
  simp only [decoderLines, List.forall_mem_cons, lacks_append]
  exact ⟨by decide, ⟨by decide, objective⟩,
    ⟨⟨⟨⟨⟨⟨by decide, number _⟩, by decide⟩, number _⟩, by decide⟩, number _⟩, by decide⟩, nofun⟩

theorem lacks_blocks {blueprint : Blueprint}
    (lacks : ∀ text ∈ blueprint.shownTexts, Lacks '\n' text) :
    ∀ block ∈ blueprint.blocks, ∀ line ∈ block, Lacks '\n' line := by
  simp only [shownTexts, List.forall_mem_append, List.forall_mem_singleton] at lacks
  obtain ⟨⟨⟨init, solver⟩, boundary⟩, objective⟩ := lacks
  simp only [blocks, List.forall_mem_cons]
  exact ⟨lacks_openedLines init, lacks_tensorLines _, lacks_solverLines solver,
    lacks_boundaryLines boundary, lacks_decoderLines objective, by decide, nofun⟩

theorem Delimited.lacks_shownTexts {blueprint : Blueprint} (delimited : blueprint.Delimited) :
    ∀ text ∈ blueprint.shownTexts, Lacks '\n' text := by
  obtain ⟨⟨auth, filter, ranks, keys, values⟩, ⟨target, nullCheck⟩,
    ⟨internalSet, externalSet, invariant, enforcement, violation⟩, objective⟩ := delimited
  simp only [List.forall_mem_cons] at ranks
  simp only [shownTexts, InitBlock.texts, SolverBlock.texts, BoundaryBlock.texts,
    List.forall_mem_append, List.forall_mem_cons, List.forall_mem_flatMap]
  refine ⟨⟨⟨⟨⟨auth, filter, ranks.1.1, ranks.2.1.1, ranks.2.2.1.1, nofun⟩, ?_⟩,
    target, nullCheck, nofun⟩, ⟨?_, ?_⟩, invariant, enforcement, violation, nofun⟩,
    objective, nofun⟩
  · exact fun entry member => ⟨(keys entry member).1, values entry member, nofun⟩
  · exact fun element member => (internalSet element member).1
  · exact fun element member => (externalSet element member).1

theorem Delimited.lacks_blocks {blueprint : Blueprint} (delimited : blueprint.Delimited) :
    ∀ block ∈ blueprint.blocks, ∀ line ∈ block, Lacks '\n' line :=
  Blueprint.lacks_blocks delimited.lacks_shownTexts

/-! ### Blocks tell what they show -/

theorem settingLines_inj {left right : InitBlock} (left_delimited : left.Delimited)
    (right_delimited : right.Delimited) :
    settingLines left = settingLines right ↔
      left.auth = right.auth ∧ left.filter = right.filter ∧ left.precedence = right.precedence := by
  have left_ranks := left_delimited.precedence
  have right_ranks := right_delimited.precedence
  simp only [List.forall_mem_cons] at left_ranks right_ranks
  obtain ⟨⟨-, left_primary⟩, ⟨-, left_secondary⟩, -⟩ := left_ranks
  obtain ⟨⟨-, right_primary⟩, ⟨-, right_secondary⟩, -⟩ := right_ranks
  -- The last rank stands before a comma that it may hold itself: the end of the line tells it.
  have marked : '≫' ∈ " ≫ ".toList := by decide
  obtain ⟨leftAuth, leftFilter, ⟨leftPrimary, leftSecondary, leftTertiary⟩, leftObjectives⟩ := left
  obtain ⟨rightAuth, rightFilter, ⟨rightPrimary, rightSecondary, rightTertiary⟩,
    rightObjectives⟩ := right
  simp only [settingLines, initLines, List.take_succ_cons, List.take_zero, List.cons.injEq,
    String.append_assoc, String.append_right_inj, String.append_left_inj,
    append_mark_inj marked left_primary right_primary,
    append_mark_inj marked left_secondary right_secondary, Precedence.mk.injEq, true_and, and_true]

theorem objectiveLine_inj {left right : String × String} (left_key : Lacks ':' left.1)
    (right_key : Lacks ':' right.1) :
    objectiveLine left = objectiveLine right ↔ left = right := by
  have marked : ':' ∈ ": \x7b ".toList := by decide
  simp only [objectiveLine, String.append_assoc, String.append_right_inj, String.append_left_inj,
    append_mark_inj marked left_key right_key, Prod.ext_iff]

theorem map_objectiveLine_inj {left right : List (String × String)}
    (left_keys : ∀ entry ∈ left, Lacks ':' entry.1)
    (right_keys : ∀ entry ∈ right, Lacks ':' entry.1)
    (same : left.map objectiveLine = right.map objectiveLine) : left = right := by
  induction left generalizing right with
  | nil => exact (List.map_eq_nil_iff.mp same.symm).symm
  | cons entry left ih =>
      cases right with
      | nil => cases same
      | cons entry' right =>
          obtain ⟨left_key, left_keys⟩ := List.forall_mem_cons.mp left_keys
          obtain ⟨right_key, right_keys⟩ := List.forall_mem_cons.mp right_keys
          obtain ⟨first, others⟩ := List.cons.inj same
          rw [(objectiveLine_inj left_key right_key).mp first, ih left_keys right_keys others]

/-- The blank line for no objectives is not the line of an objective. -/
theorem objectiveLine_ne_empty (entry : String × String) : objectiveLine entry ≠ "" := by
  simp [objectiveLine, String.append_eq_empty_iff]

theorem objectiveLines_inj {left right : List (String × String)}
    (left_keys : ∀ entry ∈ left, Lacks ':' entry.1)
    (right_keys : ∀ entry ∈ right, Lacks ':' entry.1) :
    objectiveLines left = objectiveLines right ↔ left = right := by
  refine ⟨fun same => ?_, congrArg objectiveLines⟩
  cases left with
  | nil =>
      cases right with
      | nil => rfl
      | cons entry right =>
          exact absurd (List.cons.inj same).1.symm (objectiveLine_ne_empty entry)
  | cons entry left =>
      cases right with
      | nil => exact absurd (List.cons.inj same).1 (objectiveLine_ne_empty entry)
      | cons entry' right => exact map_objectiveLine_inj left_keys right_keys same

theorem openedLines_inj {left right : InitBlock} (left_delimited : left.Delimited)
    (right_delimited : right.Delimited) :
    openedLines left = openedLines right ↔ left = right := by
  refine ⟨fun same => ?_, congrArg openedLines⟩
  obtain ⟨settings, objectives⟩ := List.append_inj (List.append_cancel_right same) rfl
  rw [settingLines_inj left_delimited right_delimited] at settings
  rw [objectiveLines_inj (fun entry member => (left_delimited.keys entry member).2)
    fun entry member => (right_delimited.keys entry member).2] at objectives
  cases left
  cases right
  rw [InitBlock.mk.injEq]
  exact ⟨settings.1, settings.2.1, settings.2.2, NameMap.ext objectives⟩

theorem tensorLines_upToNaN (profile : TraitProfile) :
    tensorLines (profile.map Binary64.upToNaN) = tensorLines profile := by
  have displayed : (profile.map Binary64.upToNaN).toList.map Binary64.display =
      profile.toList.map Binary64.display := by
    rw [Vector.toList_map, List.map_map]
    exact List.map_congr_left fun value _ => value.display_upToNaN
  rw [tensorLines, tensorLines, displayed]

theorem tensorLines_inj {left right : TraitProfile} :
    tensorLines left = tensorLines right ↔
      left.map Binary64.upToNaN = right.map Binary64.upToNaN := by
  constructor
  · intro same
    have row (profile : TraitProfile) : profile.toList.map Binary64.display ≠ [] := by
      intro empty
      have size := congrArg List.length empty
      simp at size
    have lacks (profile : TraitProfile) :
        ∀ weight ∈ profile.toList.map Binary64.display, Lacks ',' weight :=
      List.forall_mem_map.mpr fun value _ => value.lacks_display (by decide) (by decide)
    simp only [tensorLines, List.cons_append, List.cons.injEq, String.append_right_inj,
      String.append_left_inj] at same
    have weights := (intercalate_inj (by decide : ',' ∈ ", ".toList) (row left) (row right)
      (lacks left) (lacks right)).mp same.2.1
    have read (profile : TraitProfile) :
        (profile.toList.map Binary64.display).map Binary64.parse? =
          (profile.map Binary64.upToNaN).toList.map some := by
      rw [Vector.toList_map, List.map_map, List.map_map]
      exact List.map_congr_left fun value _ => value.parse?_display
    have numbers := congrArg (List.map Binary64.parse?) weights
    rw [read, read] at numbers
    exact Vector.toList_inj.mp ((List.map_inj_right fun _ _ => Option.some.inj).mp numbers)
  · intro same
    rw [← tensorLines_upToNaN left, same, tensorLines_upToNaN]

theorem solverLines_inj {left right : SolverBlock} :
    solverLines left = solverLines right ↔ left = right := by
  have tag_inj {mode mode' : Mode} : mode.tag = mode'.tag ↔ mode = mode' := by
    refine ⟨fun same => ?_, congrArg Mode.tag⟩
    have found := congrArg Mode.ofTag? same
    rw [Mode.ofTag?_tag, Mode.ofTag?_tag] at found
    exact Option.some.inj found
  obtain ⟨leftMode, leftTarget, leftCheck⟩ := left
  obtain ⟨rightMode, rightTarget, rightCheck⟩ := right
  simp only [solverLines, List.cons.injEq, String.append_right_inj, tag_inj,
    SolverBlock.mk.injEq, true_and, and_true]

theorem boundaryLines_inj {left right : BoundaryBlock} (left_delimited : left.Delimited)
    (right_delimited : right.Delimited) :
    boundaryLines left = boundaryLines right ↔ left = right := by
  have marked : ',' ∈ ", ".toList := by decide
  have internalSets := intercalate_inj_of_ne_empty marked
    (fun element member => (left_delimited.internalSet element member).2)
    (fun element member => (right_delimited.internalSet element member).2)
  have externalSets := intercalate_inj_of_ne_empty marked
    (fun element member => (left_delimited.externalSet element member).2)
    (fun element member => (right_delimited.externalSet element member).2)
  cases left
  cases right
  simp only [boundaryLines, List.cons.injEq, String.append_right_inj, String.append_left_inj,
    internalSets, externalSets, BoundaryBlock.mk.injEq, true_and, and_true]

theorem decoderLines_inj {left right : DecoderBlock} :
    decoderLines left = decoderLines right ↔
      left.objective = right.objective ∧ left.lambda1.upToNaN = right.lambda1.upToNaN ∧
        left.lambda2.upToNaN = right.lambda2.upToNaN ∧
        left.lambda3.upToNaN = right.lambda3.upToNaN := by
  have lacks (value : Binary64) : Lacks ',' value.display :=
    value.lacks_display (by decide) (by decide)
  have second : ',' ∈ ", λ₂ = ".toList := by decide
  have third : ',' ∈ ", λ₃ = ".toList := by decide
  simp only [decoderLines, List.cons.injEq, String.append_assoc, String.append_right_inj,
    String.append_left_inj, append_mark_inj second (lacks _) (lacks _),
    append_mark_inj third (lacks _) (lacks _), Binary64.display_inj, true_and, and_true]

theorem blocks_inj {left right : Blueprint} (left_delimited : left.Delimited)
    (right_delimited : right.Delimited) :
    left.blocks = right.blocks ↔ AgreeOnShown left right := by
  have init := openedLines_inj left_delimited.init right_delimited.init
  have boundary := boundaryLines_inj left_delimited.boundary right_delimited.boundary
  simp only [blocks, List.cons.injEq, init, tensorLines_inj, solverLines_inj, boundary,
    decoderLines_inj, and_true]
  constructor
  · rintro ⟨init, profile, solver, boundary, objective, lambda1, lambda2, lambda3⟩
    exact ⟨init, profile, solver, boundary, objective, lambda1, lambda2, lambda3⟩
  · rintro ⟨init, profile, solver, boundary, objective, lambda1, lambda2, lambda3⟩
    exact ⟨init, profile, solver, boundary, objective, lambda1, lambda2, lambda3⟩

/-- Only the number of lines of the initial block is unknown, so the blocks can be told apart. -/
theorem intercalate_blocks_inj {left right : Blueprint} :
    [""].intercalate left.blocks = [""].intercalate right.blocks ↔ left.blocks = right.blocks := by
  refine ⟨fun same => ?_, congrArg _⟩
  -- Parameters fill the lines of the other blocks but never add one.
  have lengths : left.blocks.tail.map List.length = right.blocks.tail.map List.length := rfl
  obtain ⟨opened, others⟩ := eq_of_intercalate_eq lengths same
  exact List.cons_eq_cons.mpr ⟨opened, others⟩

/-! ### The whole text -/

/-- The text of a structured kernel tells every parameter that it shows, and nothing else: two
kernels whose texts can be delimited are rendered alike exactly if they agree in everything but the
name of the schema, the names of the trait vectors, the leak penalty, the hygiene flag and the bits
of NaN. -/
theorem render_eq_render_iff {left right : Blueprint} (left_delimited : left.Delimited)
    (right_delimited : right.Delimited) :
    left.render = right.render ↔ AgreeOnShown left right := by
  have nonempty (blueprint : Blueprint) : [""].intercalate blueprint.blocks ≠ [] :=
    intercalate_ne_nil (List.append_ne_nil_of_right_ne_nil _ (List.cons_ne_nil _ _))
  have lacks {blueprint : Blueprint} (delimited : blueprint.Delimited) :
      ∀ line ∈ [""].intercalate blueprint.blocks, Lacks '\n' line :=
    forall_mem_intercalate (by decide) delimited.lacks_blocks
  rw [render_eq_intercalate, render_eq_intercalate, String.append_right_inj,
    String.append_right_inj, intercalate_inj (by decide) (nonempty left) (nonempty right)
      (lacks left_delimited) (lacks right_delimited), intercalate_blocks_inj,
    blocks_inj left_delimited right_delimited]

theorem delimited_reference : reference.Delimited where
  init := ⟨by decide, by decide, by decide, by decide, by decide⟩
  solver := ⟨by decide, by decide⟩
  boundary := ⟨by decide, by decide, by decide, by decide, by decide⟩
  objective := by decide

/-- The reference kernel with other penalties for projection and leaks. -/
def penalized (lambda1 lambda4 : Binary64) : Blueprint :=
  { reference with decoder := { reference.decoder with lambda1, lambda4 } }

theorem delimited_penalized (lambda1 lambda4 : Binary64) :
    (penalized lambda1 lambda4).Delimited :=
  ⟨delimited_reference.init, delimited_reference.solver, delimited_reference.boundary,
    delimited_reference.objective⟩

/-- The leak penalty is not shown, all NaNs are shown alike, and the two zeros are shown
differently. -/
theorem render_penalized :
    (penalized .zero .zero).render = (penalized .zero .infinity).render ∧
      (penalized (.nan .quiet) .zero).render =
        (penalized (.nan ⟨true, 1, by decide, by decide⟩) .zero).render ∧
      (penalized .zero .zero).render ≠ (penalized (.number true .zero) .zero).render := by
  refine ⟨?_, ?_, ?_⟩
  · apply (render_eq_render_iff (delimited_penalized _ _) (delimited_penalized _ _)).mpr
    exact ⟨rfl, rfl, rfl, rfl, rfl, rfl, rfl, rfl⟩
  · apply (render_eq_render_iff (delimited_penalized _ _) (delimited_penalized _ _)).mpr
    exact ⟨rfl, rfl, rfl, rfl, rfl, rfl, rfl, rfl⟩
  · intro same
    have agree := (render_eq_render_iff (delimited_penalized _ _) (delimited_penalized _ _)).mp same
    exact absurd agree.lambda1 (by decide)

end Blueprint

end CognitiveKernel
