/-
Module: CognitiveKernel.Proofs.Yaml.Cursor
Purpose: Positions behind texts that run over several lines.
Main exports: octets, Mark.past, Mark.line_le_past, Mark.column_past, Cursor.moveTo_append
-/
import CognitiveKernel.Yaml.Writing

namespace CognitiveKernel.Yaml

/-- The size of a text in UTF-8. -/
def octets : List Char → Nat
  | [] => 0
  | c :: text => c.utf8Size + octets text

@[simp]
theorem octets_nil : octets [] = 0 := rfl

@[simp]
theorem octets_cons (c : Char) (text : List Char) :
    octets (c :: text) = c.utf8Size + octets text := rfl

@[simp]
theorem octets_append (text more : List Char) :
    octets (text ++ more) = octets text + octets more := by
  induction text with
  | nil => exact (Nat.zero_add _).symm
  | cons c text ih => rw [List.cons_append, octets_cons, ih, octets_cons, Nat.add_assoc]

theorem octets_toList (text : String) : octets text.toList = text.utf8ByteSize := by
  have sizes (chars : List Char) : octets chars = (String.ofList chars).utf8ByteSize := by
    induction chars with
    | nil => rfl
    | cons c chars ih =>
        have split : String.ofList (c :: chars) = String.singleton c ++ String.ofList chars := by
          rw [String.singleton_eq_ofList, ← String.ofList_append, List.singleton_append]
        rw [octets_cons, ih, split, String.utf8ByteSize_append, String.utf8ByteSize_singleton]
  rw [sizes, String.ofList_toList]

namespace Mark

variable {mark : Mark} {text : List Char} {c : Char}

/-- The position behind a text in which every line break is a single character. -/
def past (mark : Mark) (text : List Char) : Mark :=
  text.foldl (fun mark c => if isBreak c then mark.newLine [c] else mark.next c) mark

@[simp]
theorem past_nil : mark.past [] = mark := rfl

theorem past_cons_of_break (kind : isBreak c = true) :
    mark.past (c :: text) = (mark.newLine [c]).past text := by
  simp [past, kind]

theorem past_cons_of_not_break (inside : isBreak c = false) :
    mark.past (c :: text) = (mark.next c).past text := by
  simp [past, inside]

@[simp]
theorem past_append (more : List Char) : mark.past (text ++ more) = (mark.past text).past more :=
  List.foldl_append

/-- Inside a line there is no difference to moving over the characters one by one. -/
theorem past_eq_advance (inside : ∀ c ∈ text, isBreak c = false) :
    mark.past text = mark.advance text := by
  induction text generalizing mark with
  | nil => rfl
  | cons c text ih =>
      rw [past_cons_of_not_break (inside c List.mem_cons_self),
        ih fun d member => inside d (List.mem_cons_of_mem c member)]
      rfl

/-- What holds of a position and survives one character holds behind a whole text. -/
theorem past_induction {P : Mark → Prop} (start : P mark)
    (next : ∀ mark c, c ∈ text → isBreak c = false → P mark → P (mark.next c))
    (newLine : ∀ mark c, c ∈ text → isBreak c = true → P mark → P (mark.newLine [c])) :
    P (mark.past text) := by
  induction text generalizing mark with
  | nil => exact start
  | cons c text ih =>
      cases kind : isBreak c with
      | true =>
          rw [past_cons_of_break kind]
          apply ih (newLine mark c List.mem_cons_self kind start)
          · exact fun mark d member => next mark d (List.mem_cons_of_mem c member)
          · exact fun mark d member => newLine mark d (List.mem_cons_of_mem c member)
      | false =>
          rw [past_cons_of_not_break kind]
          apply ih (next mark c List.mem_cons_self kind start)
          · exact fun mark d member => next mark d (List.mem_cons_of_mem c member)
          · exact fun mark d member => newLine mark d (List.mem_cons_of_mem c member)

theorem line_le_past (mark : Mark) (text : List Char) : mark.line ≤ (mark.past text).line := by
  apply past_induction (P := fun behind => mark.line ≤ behind.line)
  · exact Nat.le_refl _
  · exact fun _ _ _ _ before => before
  · exact fun _ _ _ _ before => Nat.le_succ_of_le before

theorem line_past (inside : ∀ c ∈ text, isBreak c = false) : (mark.past text).line = mark.line := by
  apply past_induction (P := fun behind => behind.line = mark.line)
  · rfl
  · exact fun _ _ _ _ before => before
  · intro _ c member kind
    rw [inside c member] at kind
    cases kind

/-- A text with a line break leads to a later line. -/
theorem line_lt_past (member : c ∈ text) (kind : isBreak c = true) :
    mark.line < (mark.past text).line := by
  obtain ⟨before, behind, rfl⟩ := List.append_of_mem member
  rw [past_append, past_cons_of_break kind]
  calc mark.line ≤ (mark.past before).line := line_le_past mark before
    _ < ((mark.past before).newLine [c]).line := Nat.lt_succ_self _
    _ ≤ _ := line_le_past _ behind

theorem column_past (inside : ∀ c ∈ text, isBreak c = false) :
    (mark.past text).column = mark.column + text.length := by
  induction text generalizing mark with
  | nil => rfl
  | cons c text ih =>
      rw [past_cons_of_not_break (inside c List.mem_cons_self),
        ih fun d member => inside d (List.mem_cons_of_mem c member)]
      simp only [next, List.length_cons]
      omega

theorem column_past_pos (inside : ∀ c ∈ text, isBreak c = false) (started : 0 < mark.column) :
    0 < (mark.past text).column := by
  rw [column_past inside]
  omega

theorem column_past_append_break (kind : isBreak c = true) :
    (mark.past (text ++ [c])).column = 0 := by
  rw [past_append, past_cons_of_break kind]
  rfl

theorem offset_past : (mark.past text).offset = mark.offset + octets text := by
  induction text generalizing mark with
  | nil => rfl
  | cons c text ih =>
      cases kind : isBreak c with
      | true =>
          rw [past_cons_of_break kind, ih, octets_cons]
          simp only [newLine, advance, next, List.foldl]
          omega
      | false =>
          rw [past_cons_of_not_break kind, ih, octets_cons]
          simp only [next]
          omega

end Mark

/-! ### Spaces and what follows a line -/

theorem spaces_succ (count : Nat) : spaces (count + 1) = ' ' :: spaces count := rfl

theorem not_break_of_mem_spaces {count : Nat} {c : Char} (member : c ∈ spaces count) :
    isBreak c = false := by
  rw [List.eq_of_mem_replicate member]
  decide

theorem Mark.column_past_spaces (mark : Mark) (count : Nat) :
    (mark.past (spaces count)).column = mark.column + count := by
  rw [column_past fun c => not_break_of_mem_spaces, spaces, List.length_replicate]

/-- A text that begins with a token, or is at its end: nothing at its start is passed over. -/
def Solid (text : List Char) : Prop :=
  ∀ c ∈ text.head?, isBlank c = false ∧ isBreak c = false ∧ c ≠ '#' ∧ c ≠ byteOrderMark

theorem solid_nil : Solid [] := nofun

theorem solid_cons {c : Char}
    (visible : isBlank c = false ∧ isBreak c = false ∧ c ≠ '#' ∧ c ≠ byteOrderMark)
    (rest : List Char) : Solid (c :: rest) := by
  rintro _ ⟨⟩
  exact visible

/-! ### What is written as it is -/

theorem isPrintable_of_mem {text : List Char} (special : hasSpecial text = false) {c : Char}
    (member : c ∈ text) : isPrintable c = true := by
  simpa using List.any_eq_false.mp special c member

/-- Of the line breaks only line feeds and the two separators are written as they are. -/
theorem foldBreak_of_isPrintable {c : Char} (printable : isPrintable c = true)
    (kind : isBreak c = true) : foldBreak c = c := by
  simp only [isPrintable, Bool.and_eq_true, decide_eq_true_eq] at printable
  obtain ⟨⟨⟨_, notReturn⟩, notNextLine⟩, _⟩ := printable
  by_cases feed : c = '\n'
  · subst feed
    rfl
  · simp only [isBreak, feed, notReturn, notNextLine, decide_false, Bool.false_or] at kind
    simp [foldBreak, kind]

theorem endsWord_append {text : List Char} (nonempty : text ≠ []) (rest : List Char) :
    endsWord (text ++ rest) = endsWord text := by
  cases text with
  | nil => exact absurd rfl nonempty
  | cons c text => rfl

theorem Cursor.moveTo_tail {mark : Mark} {c : Char} {rest : List Char} :
    (Cursor.mk mark (c :: rest)).moveTo rest = ⟨mark.next c, rest⟩ := by
  simp [moveTo, Mark.advance]

/-- Moving on to what stands behind a part of a line. -/
theorem Cursor.moveTo_append {mark : Mark} {text rest : List Char}
    (inside : ∀ c ∈ text, isBreak c = false) :
    (Cursor.mk mark (text ++ rest)).moveTo rest = ⟨mark.past text, rest⟩ := by
  rw [moveTo, Mark.past_eq_advance inside]
  simp

end CognitiveKernel.Yaml
