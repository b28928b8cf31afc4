/-
Module: CognitiveKernel.Proofs.Text.Delimiter
Purpose: Texts that are put together with marks between them, and when the parts can be told apart
  again.
Main exports: Lacks, append_mark_inj, intercalate_inj, intercalate_append, intercalate_blocks
-/

namespace CognitiveKernel.Text

/-!
A mark separates two texts when it holds a character that is foreign to the first one: the first
occurrence of that character shows where the mark stands. The mark may be longer than the character,
and the character may occur in the second text.
-/

/-- A text in which a certain character does not occur. -/
def Lacks (c : Char) (text : String) : Prop := c ∉ text.toList

instance (c : Char) (text : String) : Decidable (Lacks c text) :=
  inferInstanceAs (Decidable (c ∉ text.toList))

variable {c : Char} {mark : String}

theorem lacks_append {left right : String} :
    Lacks c (left ++ right) ↔ Lacks c left ∧ Lacks c right := by
  simp only [Lacks, String.toList_append, List.mem_append, not_or]

theorem forall_mem_intercalate {α : Type} {P : α → Prop} {separator : List α}
    {parts : List (List α)} (between : ∀ item ∈ separator, P item)
    (inside : ∀ part ∈ parts, ∀ item ∈ part, P item) :
    ∀ item ∈ separator.intercalate parts, P item := by
  induction parts with
  | nil => exact fun item member => absurd member List.not_mem_nil
  | cons part parts ih =>
      obtain ⟨first, others⟩ := List.forall_mem_cons.mp inside
      cases parts with
      | nil =>
          rw [List.intercalate_singleton]
          exact first
      | cons next parts =>
          rw [List.intercalate_cons_cons]
          exact List.forall_mem_append.mpr ⟨List.forall_mem_append.mpr ⟨first, between⟩, ih others⟩

theorem lacks_intercalate {parts : List String} (mark_lacks : Lacks c mark)
    (parts_lack : ∀ part ∈ parts, Lacks c part) : Lacks c (mark.intercalate parts) := by
  rw [Lacks, String.toList_intercalate]
  intro member
  refine forall_mem_intercalate (P := (· ≠ c)) ?_ ?_ c member rfl
  · exact fun d inMark same => mark_lacks (same ▸ inMark)
  · intro chars inParts d inChars same
    obtain ⟨part, inRow, rfl⟩ := List.mem_map.mp inParts
    exact parts_lack part inRow (same ▸ inChars)

/-! ### Two parts -/

/-- A text is cut in one way before the first occurrence of a character. -/
theorem append_cons_inj {left right leftRest rightRest : List Char} (left_lacks : c ∉ left)
    (right_lacks : c ∉ right) (same : left ++ c :: leftRest = right ++ c :: rightRest) :
    left = right ∧ leftRest = rightRest := by
  induction left generalizing right with
  | nil =>
      cases right with
      | nil => exact ⟨rfl, (List.cons.inj same).2⟩
      | cons d right => exact absurd (List.cons.inj same).1 (List.ne_of_not_mem_cons right_lacks)
  | cons d left ih =>
      cases right with
      | nil => exact absurd (List.cons.inj same).1.symm (List.ne_of_not_mem_cons left_lacks)
      | cons e right =>
          obtain ⟨rfl, tails⟩ := List.cons.inj same
          obtain ⟨rfl, rests⟩ := ih (List.not_mem_of_not_mem_cons left_lacks)
            (List.not_mem_of_not_mem_cons right_lacks) tails
          exact ⟨rfl, rests⟩

theorem append_mark_inj (marked : c ∈ mark.toList) {left right leftRest rightRest : String}
    (left_lacks : Lacks c left) (right_lacks : Lacks c right) :
    left ++ (mark ++ leftRest) = right ++ (mark ++ rightRest) ↔
      left = right ∧ leftRest = rightRest := by
  constructor
  · intro same
    -- Up to the first such character of the mark both texts lack it.
    obtain ⟨front, back, shape, front_lacks⟩ := List.eq_append_cons_of_mem marked
    have cut : (left.toList ++ front) ++ c :: (back ++ leftRest.toList) =
        (right.toList ++ front) ++ c :: (back ++ rightRest.toList) := by
      have chars := congrArg String.toList same
      simpa [String.toList_append, shape] using chars
    have foreign {text : String} (lacks : Lacks c text) : c ∉ text.toList ++ front :=
      fun member => (List.mem_append.mp member).elim lacks front_lacks
    obtain ⟨fronts, backs⟩ := append_cons_inj (foreign left_lacks) (foreign right_lacks) cut
    exact ⟨String.toList_inj.mp (List.append_cancel_right fronts),
      String.toList_inj.mp (List.append_cancel_left backs)⟩
  · rintro ⟨rfl, rfl⟩
    rfl

/-! ### Rows of parts -/

/-- A text without the marked character is no row of two parts or more. -/
theorem ne_intercalate_cons_cons (marked : c ∈ mark.toList) {text part next : String}
    {parts : List String} (lacks : Lacks c text) :
    text ≠ mark.intercalate (part :: next :: parts) := by
  rintro rfl
  rw [String.intercalate_cons_cons] at lacks
  exact (lacks_append.mp (lacks_append.mp lacks).1).2 marked

/-- A row of parts is that of no other parts. A row of none reads like a row of an empty one. -/
theorem intercalate_inj (marked : c ∈ mark.toList) {left right : List String}
    (left_nonempty : left ≠ []) (right_nonempty : right ≠ [])
    (left_lacks : ∀ part ∈ left, Lacks c part) (right_lacks : ∀ part ∈ right, Lacks c part) :
    mark.intercalate left = mark.intercalate right ↔ left = right := by
  refine ⟨fun same => ?_, congrArg _⟩
  induction left generalizing right with
  | nil => exact absurd rfl left_nonempty
  | cons part left ih =>
      obtain ⟨part', right, rfl⟩ := List.exists_cons_of_ne_nil right_nonempty
      obtain ⟨part_lacks, left_lacks⟩ := List.forall_mem_cons.mp left_lacks
      obtain ⟨part'_lacks, right_lacks⟩ := List.forall_mem_cons.mp right_lacks
      cases left with
      | nil =>
          cases right with
          | nil => simpa using same
          | cons next right =>
              rw [String.intercalate_singleton] at same
              exact absurd same (ne_intercalate_cons_cons marked part_lacks)
      | cons next left =>
          cases right with
          | nil =>
              rw [String.intercalate_singleton] at same
              exact absurd same.symm (ne_intercalate_cons_cons marked part'_lacks)
          | cons next' right =>
              rw [String.intercalate_cons_cons, String.intercalate_cons_cons, String.append_assoc,
                String.append_assoc, append_mark_inj marked part_lacks part'_lacks] at same
              rw [same.1, ih (List.cons_ne_nil _ _) (List.cons_ne_nil _ _) left_lacks right_lacks
                same.2]

theorem intercalate_ne_empty {part : String} {parts : List String} (nonempty : part ≠ "") :
    mark.intercalate (part :: parts) ≠ "" := by
  cases parts with
  | nil =>
      rw [String.intercalate_singleton]
      exact nonempty
  | cons next parts =>
      rw [String.intercalate_cons_cons, String.append_assoc]
      exact fun empty => nonempty (String.append_eq_empty_iff.mp empty).1

/-- Rows of parts that are not empty may also have no parts at all. -/
theorem intercalate_inj_of_ne_empty (marked : c ∈ mark.toList) {left right : List String}
    (left_parts : ∀ part ∈ left, part ≠ "" ∧ Lacks c part)
    (right_parts : ∀ part ∈ right, part ≠ "" ∧ Lacks c part) :
    mark.intercalate left = mark.intercalate right ↔ left = right := by
  refine ⟨fun same => ?_, congrArg _⟩
  cases left with
  | nil =>
      cases right with
      | nil => rfl
      | cons part right =>
          have nonempty := (right_parts part List.mem_cons_self).1
          exact absurd same.symm (intercalate_ne_empty nonempty)
  | cons part left =>
      cases right with
      | nil =>
          have nonempty := (left_parts part List.mem_cons_self).1
          exact absurd same (intercalate_ne_empty nonempty)
      | cons part' right =>
          exact (intercalate_inj marked (List.cons_ne_nil _ _) (List.cons_ne_nil _ _)
            (fun part member => (left_parts part member).2)
            (fun part member => (right_parts part member).2)).mp same

/-! ### Rows of rows -/

theorem intercalate_append {left right : List String} (left_nonempty : left ≠ [])
    (right_nonempty : right ≠ []) :
    mark.intercalate (left ++ right) =
      mark.intercalate left ++ (mark ++ mark.intercalate right) := by
  induction left with
  | nil => exact absurd rfl left_nonempty
  | cons part left ih =>
      cases left with
      | nil =>
          obtain ⟨next, right, rfl⟩ := List.exists_cons_of_ne_nil right_nonempty
          rw [List.singleton_append, String.intercalate_cons_cons, String.intercalate_singleton,
            String.append_assoc]
      | cons next left =>
          rw [List.cons_append, List.cons_append, String.intercalate_cons_cons,
            ← List.cons_append, ih (List.cons_ne_nil _ _), String.intercalate_cons_cons]
          simp only [String.append_assoc]

/-- A part that is a row itself may be taken for its own parts. -/
theorem intercalate_splice {left middle right : List String} (middle_nonempty : middle ≠ []) :
    mark.intercalate (left ++ mark.intercalate middle :: right) =
      mark.intercalate (left ++ middle ++ right) := by
  have spliced : mark.intercalate (mark.intercalate middle :: right) =
      mark.intercalate (middle ++ right) := by
    cases right with
    | nil => rw [String.intercalate_singleton, List.append_nil]
    | cons next right =>
        rw [String.intercalate_cons_cons, String.append_assoc,
          intercalate_append middle_nonempty (List.cons_ne_nil _ _)]
  rw [List.append_assoc]
  cases left with
  | nil => exact spliced
  | cons part left =>
      rw [intercalate_append (List.cons_ne_nil _ _) (List.cons_ne_nil _ _), spliced,
        intercalate_append (List.cons_ne_nil _ _) (List.append_ne_nil_of_left_ne_nil
          middle_nonempty right)]

theorem intercalate_ne_nil {α : Type} {separator block : List α} {blocks : List (List α)}
    (nonempty : block ≠ []) : separator.intercalate (block :: blocks) ≠ [] := by
  cases blocks with
  | nil =>
      rw [List.intercalate_singleton]
      exact nonempty
  | cons next blocks =>
      rw [List.intercalate_cons_cons, List.append_assoc]
      exact List.append_ne_nil_of_left_ne_nil nonempty _

/-- Blocks of lines with a blank line between are a row of lines. -/
theorem intercalate_blocks {blocks : List (List String)}
    (nonempty : ∀ block ∈ blocks, block ≠ []) :
    (mark ++ mark).intercalate (blocks.map mark.intercalate) =
      mark.intercalate ([""].intercalate blocks) := by
  induction blocks with
  | nil => rfl
  | cons block blocks ih =>
      obtain ⟨first, others⟩ := List.forall_mem_cons.mp nonempty
      cases blocks with
      | nil =>
          rw [List.map_singleton, String.intercalate_singleton, List.intercalate_singleton]
      | cons next blocks =>
          have below : [""].intercalate (next :: blocks) ≠ [] :=
            intercalate_ne_nil (others next List.mem_cons_self)
          obtain ⟨line, lines, shape⟩ := List.exists_cons_of_ne_nil below
          rw [List.map_cons, List.map_cons, String.intercalate_cons_cons, ← List.map_cons,
            ih others, List.intercalate_cons_cons, List.append_assoc, List.singleton_append,
            intercalate_append first (List.cons_ne_nil _ _), shape, String.intercalate_cons_cons]
          simp only [String.append_assoc, String.empty_append]

theorem length_intercalate {α : Type} {separator : List α} {left right : List (List α)}
    (lengths : left.map List.length = right.map List.length) :
    (separator.intercalate left).length = (separator.intercalate right).length := by
  induction left generalizing right with
  | nil => rw [List.map_eq_nil_iff.mp lengths.symm]
  | cons block left ih =>
      cases right with
      | nil => cases lengths
      | cons block' right =>
          obtain ⟨first, others⟩ := List.cons.inj lengths
          cases left with
          | nil =>
              rw [List.map_eq_nil_iff.mp others.symm, List.intercalate_singleton,
                List.intercalate_singleton]
              exact first
          | cons next left =>
              cases right with
              | nil => cases others
              | cons next' right =>
                  rw [List.intercalate_cons_cons, List.intercalate_cons_cons]
                  simp only [List.length_append, first, ih others]

/-- Blocks in a row can be told apart if the lengths of all but the first are known. -/
theorem eq_of_intercalate_eq {α : Type} {separator block block' : List α}
    {left right : List (List α)} (lengths : left.map List.length = right.map List.length)
    (same : separator.intercalate (block :: left) = separator.intercalate (block' :: right)) :
    block = block' ∧ left = right := by
  induction left generalizing block block' right with
  | nil =>
      rw [List.map_eq_nil_iff.mp lengths.symm] at same ⊢
      rw [List.intercalate_singleton, List.intercalate_singleton] at same
      exact ⟨same, rfl⟩
  | cons next left ih =>
      cases right with
      | nil => cases lengths
      | cons next' right =>
          rw [List.intercalate_cons_cons, List.intercalate_cons_cons] at same
          obtain ⟨upper, lower⟩ := List.append_inj' same (length_intercalate lengths)
          obtain ⟨rfl, rfl⟩ := ih (List.cons.inj lengths).2 lower
          exact ⟨List.append_cancel_right upper, rfl⟩

end CognitiveKernel.Text
