/-
Module: CognitiveKernel.Proofs.Blueprint.Sections
Purpose: The text of a structured kernel falls into its seven sections at the blank lines.
Main exports: Blueprint.openingLines, Blueprint.rows_ne_empty, Blueprint.splitOn_render,
  Blueprint.splitOn_render_hollow
-/
import CognitiveKernel.Proofs.Blueprint.Rendering
import CognitiveKernel.Proofs.Text.Splitting

namespace CognitiveKernel

open Text (Lacks splitOn)

namespace Blueprint

/-!
A blank line would be an accidental boundary. Every line shows something of its own besides the
parameters, so none is blank, however empty these are; the one exception is the line for objectives
where there are none.
-/

/-- The lines of the opening section: the headers of all blocks behind the first are listed between
braces, one on each line. -/
def openingLines : List String :=
  (Block.kernelSchema.header ++ " ← \x7b") ::
    (Block.inOrder.tail.dropLast.map fun block => "  " ++ block.header ++ ",") ++
    ["  " ++ Block.selfErase.header, "\x7d"]

/-- The lines of all sections. -/
def rows (blueprint : Blueprint) : List (List String) := openingLines :: blueprint.blocks

theorem intercalate_schemaLines :
    "\n".intercalate schemaLines = "\n".intercalate openingLines := by
  decide +kernel

theorem render_eq_rows (blueprint : Blueprint) :
    blueprint.render = "\n\n".intercalate (blueprint.rows.map "\n".intercalate) := by
  rw [rows, blocks, List.map_cons, List.map_cons, ← intercalate_schemaLines,
    ← intercalate_initLines]
  rfl

/-! ### No line is blank -/

theorem objectiveLines_ne_empty {entries : List (String × String)} (nonempty : entries ≠ []) :
    ∀ line ∈ objectiveLines entries, line ≠ "" := by
  obtain ⟨entry, entries, rfl⟩ := List.exists_cons_of_ne_nil nonempty
  exact List.forall_mem_map.mpr fun entry _ => objectiveLine_ne_empty entry

theorem tensorLines_ne_empty (profile : TraitProfile) :
    ∀ line ∈ tensorLines profile, line ≠ "" := by
  refine List.forall_mem_append.mpr ⟨?_, List.forall_mem_map.mpr fun trait _ => ?_⟩
  · simp [String.append_eq_empty_iff]
  · simp [traitLine, String.append_eq_empty_iff]

theorem rows_ne_empty {blueprint : Blueprint}
    (some_objective : blueprint.init.objectives.entries ≠ []) :
    ∀ row ∈ blueprint.rows, ∀ line ∈ row, line ≠ "" := by
  simp only [rows, blocks, List.forall_mem_cons]
  refine ⟨by decide, ?_, tensorLines_ne_empty _, ?_, ?_, ?_, by decide, List.forall_mem_nil _⟩
  · refine List.forall_mem_append.mpr ⟨List.forall_mem_append.mpr ⟨?_, ?_⟩, by decide⟩
    · simp [settingLines, initLines, String.append_eq_empty_iff]
    · exact objectiveLines_ne_empty some_objective
  · simp [solverLines, String.append_eq_empty_iff]
  · simp [boundaryLines, String.append_eq_empty_iff]
  · simp [decoderLines, String.append_eq_empty_iff]

theorem lacks_rows {blueprint : Blueprint}
    (lacks : ∀ text ∈ blueprint.shownTexts, Lacks '\n' text) :
    ∀ row ∈ blueprint.rows, ∀ line ∈ row, Lacks '\n' line :=
  List.forall_mem_cons.mpr ⟨by decide, lacks_blocks lacks⟩

/-! ### Sections open with the headers of their blocks -/

/-- A text opens with the header of a block. -/
def OpensWith (block : Block) (text : String) : Prop := block.header.toList <+: text.toList

theorem opensWith_intercalate {block : Block} {line rest : String} (lines : List String)
    (shape : line = block.header ++ rest) : OpensWith block ("\n".intercalate (line :: lines)) := by
  subst shape
  rw [OpensWith, String.intercalate_cons_append, String.toList_append]
  exact List.prefix_append _ _

theorem opensWith_rows (blueprint : Blueprint) :
    List.Forall₂ OpensWith Block.inOrder (blueprint.rows.map "\n".intercalate) := by
  refine .cons ?_ (.cons ?_ (.cons ?_ (.cons ?_ (.cons ?_ (.cons ?_ (.cons ?_ .nil))))))
  all_goals exact opensWith_intercalate _ rfl

/-- At its blank lines the text of a structured kernel falls into seven sections, whatever its texts
are besides free of line feeds, if it has an objective. Each section opens with the header of its
block, in the order of the blocks, and the first one lists the headers of the others. -/
theorem splitOn_render {blueprint : Blueprint}
    (lacks : ∀ text ∈ blueprint.shownTexts, Lacks '\n' text)
    (some_objective : blueprint.init.objectives.entries ≠ []) :
    (splitOn "\n\n" blueprint.render).length = 7 ∧
      List.Forall₂ OpensWith Block.inOrder (splitOn "\n\n" blueprint.render) ∧
      ∃ opening others, splitOn "\n\n" blueprint.render = opening :: others ∧
        splitOn "\n" opening =
          (Block.kernelSchema.header ++ " ← \x7b") ::
            (Block.inOrder.tail.dropLast.map fun block => "  " ++ block.header ++ ",") ++
            ["  " ++ Block.selfErase.header, "\x7d"] := by
  have lacking := lacks_rows lacks
  have sections : splitOn "\n\n" blueprint.render = blueprint.rows.map "\n".intercalate := by
    rw [render_eq_rows]
    apply Text.splitOn_blankLines (List.cons_ne_nil _ _)
    exact fun row inRows line inRow =>
      ⟨rows_ne_empty some_objective row inRows line inRow, lacking row inRows line inRow⟩
  rw [sections]
  refine ⟨rfl, opensWith_rows blueprint, _, _, rfl, ?_⟩
  exact Text.splitOn_lines (List.cons_ne_nil _ _) (lacking openingLines List.mem_cons_self)

/-- A structured kernel with nothing in its texts but the header of a block and a carriage
return. -/
def hollow : Blueprint :=
  { reference with
    schema := ""
    init := ⟨"", "COGNITIVE_TENSORS(U):", ⟨"", "\r", ""⟩, .ofList [("", "")]⟩
    solver := ⟨.counter, "", ""⟩
    boundary := ⟨[], [], "SELF_ERASE:", "", ""⟩ }

/-- Nothing to show makes no blank line. -/
theorem splitOn_render_hollow :
    (∀ text ∈ hollow.shownTexts, Lacks '\n' text) ∧
      hollow.init.objectives.entries ≠ [] ∧
      (splitOn "\n\n" hollow.render).length = 7 ∧
      List.Forall₂ OpensWith Block.inOrder (splitOn "\n\n" hollow.render) := by
  have lacks : ∀ text ∈ hollow.shownTexts, Lacks '\n' text := by decide
  have some_objective : hollow.init.objectives.entries ≠ [] := by decide
  obtain ⟨seven, opened, -⟩ := splitOn_render lacks some_objective
  exact ⟨lacks, some_objective, seven, opened⟩

end Blueprint

end CognitiveKernel
