/-
Module: CognitiveKernel.Proofs.Text.Splitting
Purpose: Cutting a text at every occurrence of a separator, and when the parts of a row come back.
Main exports: splitOn, splitOn_intercalate, splitOn_lines, splitOn_blankLines
-/
import CognitiveKernel.Proofs.Text.Delimiter

namespace CognitiveKernel.Text

/-!
A text that is put together with separators is cut at these again if no separator is found earlier:
it may not occur in a part, nor begin in a part and end in the separator behind it. Where a part
begins does not matter, since the search goes from left to right.
-/

/-- The parts of a text between the occurrences of a non-empty separator, which are found from left
to right and without overlap. -/
def splitChars (separator : List Char) : List Char → List (List Char)
  | [] => [[]]
  | c :: rest =>
      if separator.isPrefixOf (c :: rest) then
        [] :: splitChars separator (rest.drop (separator.length - 1))
      else (splitChars separator rest).modifyHead (c :: ·)
termination_by text => text.length
decreasing_by
  all_goals simp only [List.length_drop, List.length_cons]; omega

/-- The parts of a text between the occurrences of a non-empty separator. -/
def splitOn (separator text : String) : List String :=
  (splitChars separator.toList text.toList).map String.ofList

section

variable {separator part : List Char}

theorem splitChars_cons_of_missing {c : Char} {rest : List Char}
    (missing : ¬separator <+: c :: rest) :
    splitChars separator (c :: rest) = (splitChars separator rest).modifyHead (c :: ·) := by
  rw [splitChars, if_neg (mt List.isPrefixOf_iff_prefix.mp missing)]

theorem splitChars_separator_append (nonempty : separator ≠ []) (rest : List Char) :
    splitChars separator (separator ++ rest) = [] :: splitChars separator rest := by
  obtain ⟨c, tail, rfl⟩ := List.exists_cons_of_ne_nil nonempty
  have found : (c :: tail).isPrefixOf (c :: (tail ++ rest)) = true :=
    List.isPrefixOf_iff_prefix.mpr ⟨rest, rfl⟩
  rw [List.cons_append, splitChars, if_pos found, List.length_cons, Nat.add_sub_cancel,
    List.drop_left]

/-- A text without the separator is one part. -/
theorem splitChars_of_missing (missing : ¬separator <:+: part) :
    splitChars separator part = [part] := by
  induction part with
  | nil => rw [splitChars]
  | cons c part ih =>
      rw [List.infix_cons_iff, not_or] at missing
      rw [splitChars_cons_of_missing missing.1, ih missing.2]
      rfl

/-- The first part ends at the first separator, provided that none begins before. -/
theorem splitChars_part_append (nonempty : separator ≠ [])
    (missing : ¬separator <:+: part ++ separator.dropLast) (rest : List Char) :
    splitChars separator (part ++ (separator ++ rest)) = part :: splitChars separator rest := by
  induction part with
  | nil => rw [List.nil_append, splitChars_separator_append nonempty]
  | cons c part ih =>
      rw [List.cons_append, List.infix_cons_iff, not_or] at missing
      have notHere : ¬separator <+: c :: (part ++ (separator ++ rest)) := by
        intro here
        -- An occurrence as early as this ends before the last character of the separator.
        have tail : separator.dropLast <+: separator ++ rest :=
          (List.dropLast_prefix separator).trans (List.prefix_append separator rest)
        have early : c :: (part ++ separator.dropLast) <+: c :: (part ++ (separator ++ rest)) :=
          (List.prefix_append_right_inj (c :: part)).mpr tail
        have short : separator.length ≤ (c :: (part ++ separator.dropLast)).length := by
          simp only [List.length_cons, List.length_append, List.length_dropLast]
          omega
        exact missing.1 (List.prefix_of_prefix_length_le here early short)
      rw [List.cons_append, splitChars_cons_of_missing notHere, ih missing.2]
      rfl

theorem splitChars_intercalate (nonempty : separator ≠ []) {parts : List (List Char)}
    (some_part : parts ≠ [])
    (missing : ∀ part ∈ parts, ¬separator <:+: part ++ separator.dropLast) :
    splitChars separator (separator.intercalate parts) = parts := by
  induction parts with
  | nil => exact absurd rfl some_part
  | cons part parts ih =>
      obtain ⟨first, others⟩ := List.forall_mem_cons.mp missing
      cases parts with
      | nil =>
          have alone : ¬separator <:+: part := fun occurs =>
            first (occurs.trans (List.prefix_append part _).isInfix)
          rw [List.intercalate_singleton, splitChars_of_missing alone]
      | cons next parts =>
          rw [List.intercalate_cons_cons, List.append_assoc,
            splitChars_part_append nonempty first, ih (List.cons_ne_nil _ _) others]

end

/-- A row of parts is cut into these parts again. -/
theorem splitOn_intercalate {separator : String} (nonempty : separator ≠ "")
    {parts : List String} (some_part : parts ≠ [])
    (missing : ∀ part ∈ parts, ¬separator.toList <:+: part.toList ++ separator.toList.dropLast) :
    splitOn separator (separator.intercalate parts) = parts := by
  have chars : splitChars separator.toList
      (separator.toList.intercalate (parts.map String.toList)) = parts.map String.toList := by
    apply splitChars_intercalate (mt String.toList_eq_nil_iff.mp nonempty)
    · exact mt List.map_eq_nil_iff.mp some_part
    · exact List.forall_mem_map.mpr missing
  rw [splitOn, String.toList_intercalate, chars, List.map_map]
  exact List.map_id'' (fun part => String.ofList_toList) parts

/-! ### Lines -/

/-- Lines come back from a text of lines. -/
theorem splitOn_lines {lines : List String} (some_line : lines ≠ [])
    (lack : ∀ line ∈ lines, Lacks '\n' line) : splitOn "\n" ("\n".intercalate lines) = lines := by
  apply splitOn_intercalate (by decide) some_line
  intro line member occurs
  have single : "\n".toList = ['\n'] := rfl
  rw [single, List.dropLast_singleton, List.append_nil] at occurs
  exact lack line member (occurs.subset List.mem_cons_self)

section

variable {x : Char}

/-- A character stands alone between a text that lacks it and one that begins with another. -/
theorem not_pair_infix_append {left right : List Char} (left_lacks : x ∉ left)
    (right_start : right.head? ≠ some x) (right_missing : ¬[x, x] <:+: right) :
    ¬[x, x] <:+: left ++ x :: right := by
  induction left with
  | nil =>
      rw [List.nil_append, List.infix_cons_iff]
      rintro (⟨rest, here⟩ | later)
      · have start : x :: rest = right := (List.cons.inj here).2
        rw [← start] at right_start
        exact right_start rfl
      · exact right_missing later
  | cons c left ih =>
      rw [List.cons_append, List.infix_cons_iff]
      rintro (⟨rest, here⟩ | later)
      · exact left_lacks ((List.cons.inj here).1 ▸ List.mem_cons_self)
      · exact ih (List.not_mem_of_not_mem_cons left_lacks) later

/-- Lines that are not empty leave no blank line between them, nor at the end. -/
theorem not_pair_infix_lines {lines : List (List Char)}
    (solid : ∀ line ∈ lines, line ≠ [] ∧ x ∉ line) :
    ¬[x, x] <:+: [x].intercalate lines ++ [x] := by
  have end_missing : ¬[x, x] <:+: [] := by simp
  induction lines with
  | nil => exact not_pair_infix_append List.not_mem_nil nofun end_missing
  | cons line lines ih =>
      obtain ⟨⟨-, lacks⟩, others⟩ := List.forall_mem_cons.mp solid
      cases lines with
      | nil =>
          rw [List.intercalate_singleton]
          exact not_pair_infix_append lacks nofun end_missing
      | cons next lines =>
          obtain ⟨next_nonempty, next_lacks⟩ := others next List.mem_cons_self
          have following : ([x].intercalate (next :: lines) ++ [x]).head? ≠ some x := by
            obtain ⟨c, rest, rfl⟩ := List.exists_cons_of_ne_nil next_nonempty
            have other : c ≠ x := fun same => next_lacks (same ▸ List.mem_cons_self)
            cases lines <;> simpa [List.intercalate_cons_cons] using other
          rw [List.intercalate_cons_cons, List.append_assoc, List.append_assoc,
            List.singleton_append]
          exact not_pair_infix_append lacks following (ih others)

end

/-- Blocks of lines come back from a text with blank lines between the blocks, if no line is blank
itself. -/
theorem splitOn_blankLines {blocks : List (List String)} (some_block : blocks ≠ [])
    (solid : ∀ block ∈ blocks, ∀ line ∈ block, line ≠ "" ∧ Lacks '\n' line) :
    splitOn "\n\n" ("\n\n".intercalate (blocks.map "\n".intercalate)) =
      blocks.map "\n".intercalate := by
  apply splitOn_intercalate (by decide) (mt List.map_eq_nil_iff.mp some_block)
  intro text member
  obtain ⟨block, inRow, rfl⟩ := List.mem_map.mp member
  rw [String.toList_intercalate]
  apply not_pair_infix_lines
  intro chars inBlock
  obtain ⟨line, inLines, rfl⟩ := List.mem_map.mp inBlock
  obtain ⟨nonempty, lacks⟩ := solid block inRow line inLines
  exact ⟨mt String.toList_eq_nil_iff.mp nonempty, lacks⟩

end CognitiveKernel.Text
