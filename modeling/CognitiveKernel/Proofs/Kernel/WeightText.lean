/-
Module: CognitiveKernel.Proofs.Kernel.WeightText
Purpose: The text that is put in for the weights of a kernel, field by field.
Main exports: Kernel.vector?_of_mem, Kernel.WellFormed.splitOn_weightText, Kernel.weightText_fields
-/
import CognitiveKernel.Proofs.Binary64.TwoDecimals
import CognitiveKernel.Proofs.Kernel.Filling
import CognitiveKernel.Proofs.Kernel.Weighting
import CognitiveKernel.Proofs.Text.Splitting
import Mathlib.Data.List.Forall2
import Mathlib.Data.List.Nodup

namespace CognitiveKernel.Kernel

variable {kernel : Kernel}

/-- Among vectors with distinct names each is the one that is looked up. -/
theorem vector?_of_mem (distinct : kernel.names.Nodup) {vector : BasisVector}
    (member : vector ∈ kernel.vectors) : kernel.vector? vector.name = some vector := by
  obtain ⟨found, lookup⟩ := exists_vector?_of_mem (List.mem_map_of_mem (f := (·.name)) member)
  have named : found.name = vector.name := by simpa using List.find?_some lookup
  have same := List.inj_on_of_nodup_map distinct (List.mem_of_find?_eq_some lookup) member named
  rw [lookup, same]

namespace WellFormed

/-- The vectors of a well-formed kernel stand along the axes, in their order. -/
theorem forall₂_vector? (wellFormed : kernel.WellFormed) :
    List.Forall₂ (fun (axis : Axis) vector => kernel.vector? axis.name = some vector) Axis.all
      kernel.vectors := by
  have names : Axis.all.map Axis.name = kernel.vectors.map (·.name) := wellFormed.names_eq.symm
  have lookups : (Axis.all.map Axis.name).map kernel.vector? = kernel.vectors.map some := by
    rw [names, List.map_map]
    exact List.map_congr_left fun vector member => vector?_of_mem wellFormed.nodup_names member
  rw [List.map_map, ← List.forall₂_eq_eq_eq, List.forall₂_map_left_iff,
    List.forall₂_map_right_iff] at lookups
  exact lookups

theorem vectors_ne_nil (wellFormed : kernel.WellFormed) : kernel.vectors ≠ [] := by
  intro empty
  have along := wellFormed.forall₂_vector?
  rw [empty] at along
  cases along

/-- The text of the weights is cut at its separators into the weights. -/
theorem splitOn_weightText (wellFormed : kernel.WellFormed) :
    Text.splitOn ", " kernel.weightText =
      kernel.vectors.map fun vector => vector.weight.twoDecimals := by
  have fields : kernel.weightList.map Binary64.twoDecimals =
      kernel.vectors.map fun vector => vector.weight.twoDecimals := by
    rw [weightList, List.map_map]
    rfl
  rw [weightText, fields]
  apply Text.splitOn_intercalate (by decide) (mt List.map_eq_nil_iff.mp wellFormed.vectors_ne_nil)
  intro field member occurs
  obtain ⟨vector, -, rfl⟩ := List.mem_map.mp member
  -- The separator has a space, and there is none in a weight or at the start of the separator.
  have space : ' ' ∈ vector.weight.twoDecimals.toList ++ ", ".toList.dropLast :=
    occurs.subset (by decide)
  rcases List.mem_append.mp space with inWeight | inSeparator
  · exact Binary64.lacks_twoDecimals (by decide) (by decide) vector.weight inWeight
  · revert inSeparator
    decide

/-- In a template that is the token of the weights alone, nothing but their text is put in. -/
theorem fill_weightsToken (wellFormed : kernel.WellFormed) :
    kernel.fill weightsToken = kernel.weightText := by
  have apart : TokensApart weightsToken := by decide +kernel
  have nonempty : weightsToken.toList ≠ [] := by decide
  have begins : weightsToken.toList.isPrefixOf weightsToken.toList = true := by decide
  have applies : Text.firstRule? kernel.rules weightsToken.toList =
      some ⟨weightsToken.toList, kernel.weightText.toList⟩ := by
    rw [Text.firstRule?, rules]
    exact List.find?_cons_of_pos begins
  have filled := wellFormed.toList_fill_eq_singlePass apart
  rw [Text.singlePass_of_some nonempty applies, List.drop_length, Text.singlePass_nil,
    List.append_nil] at filled
  exact String.toList_injective filled

end WellFormed

/-- What is put in for the weights of any kernel that can come about: it is cut at its separators
into one field for each axis, in their order, and each field shows the weight along its axis with
two decimals. -/
theorem weightText_fields (reachable : kernel.Reachable) :
    kernel.fill weightsToken = kernel.weightText ∧
      (Text.splitOn ", " kernel.weightText).length = 6 ∧
      List.Forall₂
        (fun (axis : Axis) field => ∃ vector, kernel.vector? axis.name = some vector ∧
          Binary64.TwoDecimals vector.weight field)
        Axis.all (Text.splitOn ", " kernel.weightText) := by
  have wellFormed := reachable.wellFormed
  have along := wellFormed.forall₂_vector?
  refine ⟨wellFormed.fill_weightsToken, ?_, ?_⟩
  · rw [wellFormed.splitOn_weightText, List.length_map, ← along.length_eq]
    rfl
  · rw [wellFormed.splitOn_weightText, List.forall₂_map_right_iff]
    apply along.imp
    intro axis vector found
    exact ⟨vector, found, vector.weight.twoDecimals_shows⟩

/-- Two weights in the middle between hundredths, one that is rounded to a negative zero, one with
many digits, and two that are not real. -/
theorem weightText_fields_rounded :
    let changes : List Change :=
      [.weight "Epistemic" (.ofDecimal false ⟨125, -3⟩),
        .weight "Integrity" (.ofDecimal true ⟨1, -3⟩), .weight "Interface" (.nan .quiet),
        .weight "Architecture" .negativeInfinity,
        .weight "NonDual" (.ofDecimal false ⟨375, -3⟩),
        .weight "Innovation" (.ofDecimal false ⟨1, 22⟩)]
    let kernel := standard.replay changes
    kernel.Reachable ∧
      Text.splitOn ", " (kernel.fill weightsToken) =
        ["0.12", "-0.00", "NaN", "-inf", "0.38", "10000000000000000000000.00"] ∧
      ∃ vector, kernel.vector? "Epistemic" = some vector ∧
        Binary64.TwoDecimals vector.weight "0.12" := by
  intro changes kernel
  have reachable : kernel.Reachable := ⟨.standard, standard, changes, rfl, rfl⟩
  obtain ⟨filled, -, fields⟩ := weightText_fields reachable
  have parts : Text.splitOn ", " kernel.weightText =
      ["0.12", "-0.00", "NaN", "-inf", "0.38", "10000000000000000000000.00"] := by
    rw [reachable.wellFormed.splitOn_weightText]
    decide +kernel
  refine ⟨reachable, filled ▸ parts, ?_⟩
  rw [parts] at fields
  exact (List.forall₂_cons.mp fields).1

end CognitiveKernel.Kernel
