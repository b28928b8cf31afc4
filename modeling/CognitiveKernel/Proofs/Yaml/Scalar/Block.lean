/-
Module: CognitiveKernel.Proofs.Yaml.Scalar.Block
Purpose: A text with line feeds is scanned from its literal block.
Main exports: LiteralText, scanLines_indentLines, scanBlock_write
-/
import CognitiveKernel.Proofs.Yaml.Cursor
import CognitiveKernel.Yaml.Scalar.Block

namespace CognitiveKernel.Yaml

variable {indent : Nat} {mark : Mark} {text rest : List Char} {c : Char}

/-! ### Lines -/

section

variable {first : Option Char} {more : List Char} {blank : Bool}

theorem scanLines_margin_cons (notReturn : c ≠ '\r') :
    scanLines true indent (.margin first more blank) mark (c :: rest) =
      if mark.column < indent && c = ' ' then
        scanLines true indent (.margin first more blank) (mark.next c) rest
      else if mark.column < indent && c = '\t' then none
      else if isBreak c then
        scanLines true indent (.margin first (more ++ [foldBreak c]) blank) (mark.newLine [c]) rest
      else if mark.column = indent then
        (scanLines true indent (.line (isBlank c)) (mark.next c) rest).map fun scanned =>
          (joinLines true first more blank (isBlank c) ++ c :: scanned.1, scanned.2)
      else some ([], (first, more), ⟨mark, c :: rest⟩) := by
  rw [scanLines]
  simp [notReturn]

theorem scanLines_line_cons (notReturn : c ≠ '\r') :
    scanLines true indent (.line blank) mark (c :: rest) =
      if isBreak c then
        scanLines true indent (.margin (some (foldBreak c)) [] blank) (mark.newLine [c]) rest
      else
        (scanLines true indent (.line blank) (mark.next c) rest).map fun scanned =>
          (c :: scanned.1, scanned.2) := by
  rw [scanLines]
  simp [notReturn]

theorem scanLines_margin_break (printable : isPrintable c = true) (kind : isBreak c = true) :
    scanLines true indent (.margin first more blank) mark (c :: rest) =
      scanLines true indent (.margin first (more ++ [c]) blank) (mark.newLine [c]) rest := by
  have notReturn : c ≠ '\r' := by
    rintro rfl
    cases printable
  have notSpace : c ≠ ' ' := by
    rintro rfl
    cases kind
  have notTab : c ≠ '\t' := by
    rintro rfl
    cases kind
  rw [scanLines_margin_cons notReturn, foldBreak_of_isPrintable printable kind]
  simp [notSpace, notTab, kind]

theorem scanLines_line_break (printable : isPrintable c = true) (kind : isBreak c = true) :
    scanLines true indent (.line blank) mark (c :: rest) =
      scanLines true indent (.margin (some c) [] blank) (mark.newLine [c]) rest := by
  have notReturn : c ≠ '\r' := by
    rintro rfl
    cases printable
  rw [scanLines_line_cons notReturn, if_pos kind, foldBreak_of_isPrintable printable kind]

theorem scanLines_line_visible (kind : isBreak c = false) :
    scanLines true indent (.line blank) mark (c :: rest) =
      (scanLines true indent (.line blank) (mark.next c) rest).map fun scanned =>
        (c :: scanned.1, scanned.2) := by
  have notReturn : c ≠ '\r' := by
    rintro rfl
    cases kind
  rw [scanLines_line_cons notReturn, kind, if_neg Bool.false_ne_true]

/-- Spaces count as indentation up to that of the block. -/
theorem scanLines_spaces {count : Nat} (short : mark.column + count ≤ indent) :
    scanLines true indent (.margin first more blank) mark (spaces count ++ rest) =
      scanLines true indent (.margin first more blank) (mark.past (spaces count)) rest := by
  induction count generalizing mark with
  | zero => rfl
  | succ count ih =>
      have below : mark.column < indent := by omega
      have shorter : (mark.next ' ').column + count ≤ indent := by
        simp only [Mark.next]
        omega
      rw [spaces_succ, List.cons_append, scanLines_margin_cons (by decide),
        Mark.past_cons_of_not_break (by decide), if_pos (by simp [below]), ih shorter]

/-- A line begins behind the indentation of the block. -/
theorem scanLines_lineStart (start : mark.column = 0) (kind : isBreak c = false) :
    scanLines true indent (.margin first more blank) mark (spaces indent ++ c :: rest) =
      (scanLines true indent (.line (isBlank c)) ((mark.past (spaces indent)).next c) rest).map
        fun scanned => (first.toList ++ more ++ c :: scanned.1, scanned.2) := by
  have column : (mark.past (spaces indent)).column = indent := by
    rw [Mark.column_past_spaces, start, Nat.zero_add]
  have notReturn : c ≠ '\r' := by
    rintro rfl
    cases kind
  rw [scanLines_spaces (by omega), scanLines_margin_cons notReturn]
  simp [column, kind, joinLines]

/-- A block ends before a line that is indented less. -/
theorem scanLines_stop {count : Nat} (start : mark.column = 0) (less : count < indent)
    (solid : Solid rest) :
    scanLines true indent (.margin first more blank) mark (spaces count ++ rest) =
      some ([], (first, more), ⟨mark.past (spaces count), rest⟩) := by
  have column : (mark.past (spaces count)).column = count := by
    rw [Mark.column_past_spaces, start, Nat.zero_add]
  rw [scanLines_spaces (by omega)]
  cases rest with
  | nil => rfl
  | cons c rest =>
      obtain ⟨notBlank, notBreak, _⟩ := solid c rfl
      have notReturn : c ≠ '\r' := by
        rintro rfl
        cases notBreak
      have notSpace : c ≠ ' ' ∧ c ≠ '\t' := by simpa [isBlank] using notBlank
      have other : count ≠ indent := by omega
      rw [scanLines_margin_cons notReturn]
      simp [notSpace, notBreak, column, other]

theorem indentLines_break (atStart : Bool) (kind : isBreak c = true) :
    indentLines indent atStart (c :: text) = c :: indentLines indent true text := by
  rw [indentLines, if_pos kind]

theorem indentLines_visible (atStart : Bool) (kind : isBreak c = false) :
    indentLines indent atStart (c :: text) =
      (if atStart then spaces indent else []) ++ c :: indentLines indent false text := by
  rw [indentLines, kind, if_neg Bool.false_ne_true]

/-- Line breaks at the end of a block are put behind those that were passed. -/
theorem scanLines_breaks {breaks : List Char} {count : Nat} (start : mark.column = 0)
    (less : count < indent) (solid : Solid rest)
    (printable : ∀ c ∈ breaks, isPrintable c = true) (kinds : ∀ c ∈ breaks, isBreak c = true) :
    scanLines true indent (.margin first more blank) mark
        (indentLines indent true breaks ++ (spaces count ++ rest)) =
      some ([], (first, more ++ breaks),
        ⟨mark.past (indentLines indent true breaks ++ spaces count), rest⟩) := by
  induction breaks generalizing mark more with
  | nil => simpa [indentLines] using scanLines_stop start less solid
  | cons c breaks ih =>
      have kind := kinds c List.mem_cons_self
      have behind := @ih (mark.newLine [c]) (more ++ [c]) rfl
        (fun d member => printable d (List.mem_cons_of_mem c member))
        (fun d member => kinds d (List.mem_cons_of_mem c member))
      rw [indentLines_break true kind, List.cons_append, List.cons_append,
        scanLines_margin_break (printable c List.mem_cons_self) kind, behind,
        Mark.past_cons_of_break kind, List.append_assoc, List.singleton_append]

/-- The text of a block up to the end of its last line that is not empty, and the line breaks
behind it. The induction is on that text, for a line that goes on and for one that begins. -/
theorem scanLines_indentLines {body breaks : List Char} {count : Nat} (less : count < indent)
    (solid : Solid rest) (nonempty : breaks ≠ [])
    (printable : ∀ c ∈ body ++ breaks, isPrintable c = true)
    (kinds : ∀ c ∈ breaks, isBreak c = true) (ending : ∀ c ∈ body.getLast?, isBreak c = false) :
    (∀ mark blank,
      scanLines true indent (.line blank) mark
          (indentLines indent false (body ++ breaks) ++ (spaces count ++ rest)) =
        some (body, (breaks.head?, breaks.tail),
          ⟨mark.past (indentLines indent false (body ++ breaks) ++ spaces count), rest⟩)) ∧
    (body ≠ [] → ∀ mark first more blank, mark.column = 0 →
      scanLines true indent (.margin first more blank) mark
          (indentLines indent true (body ++ breaks) ++ (spaces count ++ rest)) =
        some (first.toList ++ more ++ body, (breaks.head?, breaks.tail),
          ⟨mark.past (indentLines indent true (body ++ breaks) ++ spaces count), rest⟩)) := by
  induction body with
  | nil =>
      refine ⟨?_, fun none => absurd rfl none⟩
      intro mark blank
      obtain ⟨c, breaks, rfl⟩ := List.exists_cons_of_ne_nil nonempty
      have kind := kinds c List.mem_cons_self
      have behind := @scanLines_breaks indent (mark.newLine [c]) rest (some c) [] blank breaks count
        rfl less solid (fun d member => printable d (List.mem_cons_of_mem c member))
        (fun d member => kinds d (List.mem_cons_of_mem c member))
      rw [List.nil_append, indentLines_break false kind, List.cons_append, List.cons_append,
        scanLines_line_break (printable c List.mem_cons_self) kind, behind,
        Mark.past_cons_of_break kind]
      rfl
  | cons c body ih =>
      have shown := printable c List.mem_cons_self
      have endingRest : ∀ d ∈ body.getLast?, isBreak d = false := by
        intro d last
        apply ending
        rw [List.getLast?_cons, Option.mem_def.mp last]
        rfl
      obtain ⟨line, margin⟩ := ih (fun d member => printable d (List.mem_cons_of_mem c member))
        endingRest
      rw [List.cons_append]
      cases kind : isBreak c with
      | true =>
          have goesOn : body ≠ [] := by
            rintro rfl
            rw [ending c rfl] at kind
            cases kind
          constructor
          · intro mark blank
            rw [indentLines_break false kind, List.cons_append, List.cons_append,
              scanLines_line_break shown kind, margin goesOn (mark.newLine [c]) _ _ _ rfl,
              Mark.past_cons_of_break kind]
            rfl
          · intro _ mark first more blank start
            rw [indentLines_break true kind, List.cons_append, List.cons_append,
              scanLines_margin_break shown kind, margin goesOn (mark.newLine [c]) _ _ _ rfl,
              Mark.past_cons_of_break kind]
            simp
      | false =>
          constructor
          · intro mark blank
            rw [indentLines_visible false kind, if_neg Bool.false_ne_true, List.nil_append,
              List.cons_append, List.cons_append, scanLines_line_visible kind, line,
              Mark.past_cons_of_not_break kind]
            rfl
          · intro _ mark first more blank start
            rw [indentLines_visible true kind, if_pos rfl, List.append_assoc, List.append_assoc,
              List.cons_append, scanLines_lineStart start kind, line]
            simp [Mark.past_cons_of_not_break kind]

end

/-! ### Headers -/

/-- The indicator for what becomes of the line breaks at the end of a block. -/
inductive Signed : List Char → Chomping → Prop
  | strip : Signed ['-'] .strip
  | clip : Signed [] .clip
  | keep : Signed ['+'] .keep

theorem Signed.isAllowed_of_mem {signs : List Char} {chomping : Chomping}
    (signed : Signed signs chomping) (member : c ∈ signs) : isAllowed c = true := by
  cases signed with
  | strip => rw [List.mem_singleton.mp member]; rfl
  | clip => cases member
  | keep => rw [List.mem_singleton.mp member]; rfl

/-- The indentation that is given for a text, relative to what is around it. -/
def increment? (text : List Char) : Option Nat :=
  if text.head?.any fun c => c = ' ' || isBreak c then some 2 else none

theorem readHeader_indentIndicator {sign : List Char} {chomping : Chomping}
    (signed : Signed sign chomping) (text rest : List Char) :
    readHeader (indentIndicator text ++ (sign ++ '\n' :: rest)) =
      some (⟨chomping, increment? text⟩, '\n' :: rest) := by
  rw [indentIndicator, increment?]
  split <;> cases signed <;> rfl

theorem finishLine_newLine : (Cursor.mk mark ('\n' :: rest)).finishLine =
    some ⟨mark.newLine ['\n'], rest⟩ := by
  have line : Yaml.finishLine ('\n' :: rest) = some (['\n'], rest) := rfl
  have stay : (Cursor.mk mark ('\n' :: rest)).moveTo ('\n' :: rest) = ⟨mark, '\n' :: rest⟩ :=
    @Cursor.moveTo_append mark [] ('\n' :: rest) nofun
  simp [Cursor.finishLine, line, stay]

/-- The indentation of a block is found at its first line, if that begins with neither a space nor
a line break. -/
theorem leadingIndent_spaces {column : Nat} (count : Nat) (visible : isBlank c = false)
    (kind : isBreak c = false) :
    leadingIndent column column (spaces count ++ c :: rest) = some (column + count) := by
  induction count generalizing column with
  | zero =>
      have notSpace : c ≠ ' ' ∧ c ≠ '\t' := by simpa [isBlank] using visible
      simp [spaces, leadingIndent, notSpace, kind]
  | succ count ih =>
      have larger : max column (column + 1) = column + 1 := by omega
      rw [spaces_succ, List.cons_append, leadingIndent, if_pos rfl, larger, ih]
      congr 1
      omega

theorem blockIndent?_indentLines {level : Nat} (start : mark.column = 0) (nonempty : text ≠ [])
    (printable : ∀ c ∈ text, isPrintable c = true) :
    blockIndent? (level + 1) (increment? text) ⟨mark, indentLines (level + 2) true text ++ rest⟩ =
      some (level + 2) := by
  obtain ⟨c, text, rfl⟩ := List.exists_cons_of_ne_nil nonempty
  rw [increment?, List.head?_cons, Option.any_some]
  by_cases hidden : (decide (c = ' ') || isBreak c) = true
  · rw [if_pos hidden]
    rfl
  · simp only [Bool.or_eq_true, decide_eq_true_eq, not_or, Bool.not_eq_true] at hidden
    obtain ⟨notSpace, kind⟩ := hidden
    have notTab : c ≠ '\t' := by
      rintro rfl
      cases printable _ List.mem_cons_self
    have found := @leadingIndent_spaces (indentLines (level + 2) false text ++ rest) c 0 (level + 2)
      (by simp [isBlank, notSpace, notTab]) kind
    rw [if_neg (by simp [notSpace, kind]), indentLines_visible true kind, if_pos rfl,
      List.append_assoc, List.cons_append, blockIndent?, start, found, Option.map_some]
    congr 1
    omega

/-! ### Texts of blocks -/

/-- A text with line feeds that can be written as a literal block. -/
structure LiteralText (text : List Char) : Prop where
  special : hasSpecial text = false
  feed : '\n' ∈ text

/-- A text is what it has up to the end of its last line that is not empty, and line breaks. -/
theorem exists_body_breaks (text : List Char) :
    ∃ body breaks, text = body ++ breaks ∧ (∀ c ∈ breaks, isBreak c = true) ∧
      ∀ c ∈ body.getLast?, isBreak c = false := by
  induction text with
  | nil => exact ⟨[], [], rfl, nofun, nofun⟩
  | cons c text ih =>
      obtain ⟨body, breaks, rfl, kinds, ending⟩ := ih
      by_cases empty : body = []
      · subst empty
        cases kind : isBreak c with
        | true =>
            refine ⟨[], c :: breaks, rfl, ?_, nofun⟩
            intro d member
            rcases List.mem_cons.mp member with rfl | member
            · exact kind
            · exact kinds d member
        | false =>
            refine ⟨[c], breaks, rfl, kinds, ?_⟩
            rintro d ⟨⟩
            exact kind
      · refine ⟨c :: body, breaks, rfl, kinds, ?_⟩
        obtain ⟨d, more, rfl⟩ := List.exists_cons_of_ne_nil empty
        rwa [List.getLast?_cons_cons]

/-- The line break that ends a block whose text does not end with one. -/
def lineEnd (text : List Char) : List Char :=
  if text.getLast?.any isBreak then [] else ['\n']

theorem indentLines_of_breaks {breaks : List Char} (atStart : Bool)
    (kinds : ∀ c ∈ breaks, isBreak c = true) : indentLines indent atStart breaks = breaks := by
  induction breaks generalizing atStart with
  | nil => rfl
  | cons c breaks ih =>
      rw [indentLines_break atStart (kinds c List.mem_cons_self),
        ih true fun d member => kinds d (List.mem_cons_of_mem c member)]

theorem indentLines_append {breaks : List Char} (atStart : Bool)
    (kinds : ∀ c ∈ breaks, isBreak c = true) :
    indentLines indent atStart (text ++ breaks) = indentLines indent atStart text ++ breaks := by
  induction text generalizing atStart with
  | nil => exact indentLines_of_breaks atStart kinds
  | cons c text ih =>
      cases kind : isBreak c with
      | true =>
          rw [List.cons_append, indentLines_break atStart kind, indentLines_break atStart kind, ih,
            List.cons_append]
      | false =>
          rw [List.cons_append, indentLines_visible atStart kind, indentLines_visible atStart kind,
            ih, List.append_assoc, List.cons_append]

/-- A block is scanned to the text and the line breaks that its header asks for. -/
theorem scanBlock_lines {level count : Nat} {sign body breaks : List Char} {chomping : Chomping}
    (signed : Signed sign chomping) (less : count ≤ level) (solid : Solid rest)
    (nonempty : breaks ≠ []) (printable : ∀ c ∈ body ++ breaks, isPrintable c = true)
    (kinds : ∀ c ∈ breaks, isBreak c = true) (ending : ∀ c ∈ body.getLast?, isBreak c = false)
    (head : (body ++ breaks).head? = text.head?) :
    let header := indentIndicator text ++ sign
    let lines := indentLines (level + 2) true (body ++ breaks) ++ spaces count
    scanBlock true (level + 1) ⟨mark, header ++ '\n' :: (lines ++ rest)⟩ =
      some
        (if body = [] then chomp chomping [] none breaks
          else chomp chomping body breaks.head? breaks.tail,
        ⟨mark.past (header ++ '\n' :: lines), rest⟩) := by
  intro header lines
  have inside : ∀ c ∈ header, isBreak c = false := by
    simp only [header, indentIndicator]
    split <;> cases signed <;> simp [isBreak]
  have read : readHeader (header ++ '\n' :: (lines ++ rest)) =
      some (⟨chomping, increment? text⟩, '\n' :: (lines ++ rest)) := by
    rw [List.append_assoc]
    exact readHeader_indentIndicator signed text (lines ++ rest)
  have several : body ++ breaks ≠ [] := by simp [nonempty]
  have given : increment? text = increment? (body ++ breaks) := by
    rw [increment?, increment?, head]
  have found := @blockIndent?_indentLines ((mark.past header).newLine ['\n']) (body ++ breaks)
    (spaces count ++ rest) level rfl several printable
  have short : count < level + 2 := by omega
  simp only [lines, List.append_assoc] at read ⊢
  simp only [scanBlock, read, Cursor.moveTo_append inside, finishLine_newLine, given, found,
    bind, Option.bind]
  by_cases empty : body = []
  · subst empty
    have scanned := @scanLines_breaks (level + 2) ((mark.past header).newLine ['\n']) rest none []
      false breaks count rfl short solid printable kinds
    rw [List.nil_append, scanned, if_pos rfl]
    simp [Mark.past_cons_of_break (c := '\n') (by decide)]
  · have scanned := (scanLines_indentLines short solid nonempty printable kinds ending).2 empty
      ((mark.past header).newLine ['\n']) none [] false rfl
    rw [scanned, if_neg empty]
    simp [Mark.past_cons_of_break (c := '\n') (by decide)]

theorem exists_eq_append_singleton (nonempty : text ≠ []) :
    ∃ before last, text = before ++ [last] ∧ text.getLast? = some last := by
  have last := List.getLast?_eq_some_getLast nonempty
  obtain ⟨before, split⟩ := List.getLast?_eq_some_iff.mp last
  exact ⟨before, _, split, last⟩

theorem chompingIndicator_eq_strip (nonempty : text ≠ [])
    (ending : ∀ c ∈ text.getLast?, isBreak c = false) : chompingIndicator text = ['-'] := by
  obtain ⟨before, last, rfl, lastEq⟩ := exists_eq_append_singleton nonempty
  simp [chompingIndicator, ending last lastEq]

theorem chompingIndicator_eq_clip (nonempty : text ≠ [])
    (ending : ∀ c ∈ text.getLast?, isBreak c = false) (kind : isBreak c = true) :
    chompingIndicator (text ++ [c]) = [] := by
  obtain ⟨before, last, rfl, lastEq⟩ := exists_eq_append_singleton nonempty
  simp [chompingIndicator, ending last lastEq, kind]

theorem chompingIndicator_eq_keep {body breaks : List Char} (nonempty : breaks ≠ [])
    (several : body = [] ∨ 2 ≤ breaks.length) (kinds : ∀ c ∈ breaks, isBreak c = true) :
    chompingIndicator (body ++ breaks) = ['+'] := by
  obtain ⟨before, last, rfl, _⟩ := exists_eq_append_singleton nonempty
  have kind := kinds last (by simp)
  have behind : (before.getLast?.or body.getLast?).all isBreak = true := by
    by_cases alone : before = []
    · subst alone
      have empty : body = [] := several.resolve_right (by simp)
      simp [empty]
    · obtain ⟨front, c, rfl, lastEq⟩ := exists_eq_append_singleton alone
      simpa [lastEq] using kinds c (by simp)
  simp [chompingIndicator, kind, behind]

theorem lineEnd_eq_newLine (ending : ∀ c ∈ text.getLast?, isBreak c = false) :
    lineEnd text = ['\n'] := by
  rw [lineEnd]
  cases last : text.getLast? with
  | none => rfl
  | some c => simp [ending c last]

theorem lineEnd_eq_nil {body breaks : List Char} (nonempty : breaks ≠ [])
    (kinds : ∀ c ∈ breaks, isBreak c = true) : lineEnd (body ++ breaks) = [] := by
  obtain ⟨before, last, rfl, _⟩ := exists_eq_append_singleton nonempty
  simp [lineEnd, kinds last (by simp)]

theorem isBreak_of_mem_lineEnd (member : c ∈ lineEnd text) :
    isBreak c = true ∧ isPrintable c = true := by
  rw [lineEnd] at member
  split at member
  · cases member
  · rw [List.mem_singleton.mp member]
    decide

/-- The indicator for the line breaks at the end of a text asks for the text. The cases are those of
its choice. -/
theorem exists_chomping (nonempty : text ≠ []) :
    ∃ chomping body breaks, Signed (chompingIndicator text) chomping ∧
      text ++ lineEnd text = body ++ breaks ∧ breaks ≠ [] ∧ (∀ c ∈ breaks, isBreak c = true) ∧
      (∀ c ∈ body.getLast?, isBreak c = false) ∧
      (if body = [] then chomp chomping [] none breaks
        else chomp chomping body breaks.head? breaks.tail) = text := by
  obtain ⟨body, breaks, rfl, kinds, ending⟩ := exists_body_breaks text
  by_cases unbroken : breaks = []
  · subst unbroken
    rw [List.append_nil] at nonempty ⊢
    refine ⟨.strip, body, ['\n'], ?_, ?_, by simp, List.forall_mem_singleton.mpr rfl, ending, ?_⟩
    · rw [chompingIndicator_eq_strip nonempty ending]
      exact .strip
    · rw [lineEnd_eq_newLine ending]
    · rw [if_neg nonempty, chomp]
  · rw [lineEnd_eq_nil unbroken kinds, List.append_nil]
    by_cases several : body = [] ∨ 2 ≤ breaks.length
    · refine ⟨.keep, body, breaks, ?_, rfl, unbroken, kinds, ending, ?_⟩
      · rw [chompingIndicator_eq_keep unbroken several kinds]
        exact .keep
      · obtain ⟨c, breaks, rfl⟩ := List.exists_cons_of_ne_nil unbroken
        split
        · rename_i empty
          simp [empty, chomp]
        · simp [chomp]
    · obtain ⟨c, breaks, rfl⟩ := List.exists_cons_of_ne_nil unbroken
      rw [not_or, List.length_cons] at several
      have alone : breaks = [] := List.length_eq_zero_iff.mp (by omega)
      subst alone
      refine ⟨.clip, body, [c], ?_, rfl, unbroken, kinds, ending, ?_⟩
      · rw [chompingIndicator_eq_clip several.1 ending (kinds c List.mem_cons_self)]
        exact .clip
      · rw [if_neg several.1]
        rfl

/-- A literal block ends its last line. -/
theorem exists_writeLiteral_end (indent : Nat) (nonempty : text ≠ []) :
    ∃ before last, isBreak last = true ∧
      writeLiteral indent text ++ lineEnd text = before ++ [last] := by
  obtain ⟨_, body, breaks, _, split, unbroken, kinds, _⟩ := exists_chomping nonempty
  have lines : indentLines indent true text ++ lineEnd text =
      indentLines indent true body ++ breaks := by
    rw [← indentLines_append true fun c member => (isBreak_of_mem_lineEnd member).1, split,
      indentLines_append true kinds]
  obtain ⟨more, last, rfl, _⟩ := exists_eq_append_singleton unbroken
  refine ⟨'|' :: (indentIndicator text ++ chompingIndicator text ++
    '\n' :: (indentLines indent true body ++ more)), last, kinds last (by simp), ?_⟩
  rw [writeLiteral, List.cons_append, List.append_assoc, List.cons_append, lines]
  simp

/-- A text is scanned from its literal block, up to the next line, which is indented less. -/
theorem scanBlock_write {level count : Nat} (literal : LiteralText text) (less : count ≤ level)
    (solid : Solid rest) :
    let written := (writeLiteral (level + 2) text).tail ++ (lineEnd text ++ spaces count)
    scanBlock true (level + 1) ⟨mark, written ++ rest⟩ =
      some (text, ⟨mark.past written, rest⟩) := by
  have nonempty : text ≠ [] := List.ne_nil_of_mem literal.feed
  obtain ⟨chomping, body, breaks, signed, split, unbroken, kinds, ending, chomped⟩ :=
    exists_chomping nonempty
  have printable : ∀ c ∈ body ++ breaks, isPrintable c = true := by
    intro c member
    rw [← split, List.mem_append] at member
    rcases member with inText | inEnd
    · exact isPrintable_of_mem literal.special inText
    · exact (isBreak_of_mem_lineEnd inEnd).2
  have head : (body ++ breaks).head? = text.head? := by
    obtain ⟨c, more, rfl⟩ := List.exists_cons_of_ne_nil nonempty
    rw [← split, List.cons_append, List.head?_cons, List.head?_cons]
  have lines : indentLines (level + 2) true (body ++ breaks) =
      indentLines (level + 2) true text ++ lineEnd text := by
    rw [← split, indentLines_append true fun c member => (isBreak_of_mem_lineEnd member).1]
  have scanned := @scanBlock_lines mark text rest level count _ body breaks chomping signed less
    solid unbroken printable kinds ending head
  rw [chomped] at scanned
  simpa [writeLiteral, lines] using scanned

end CognitiveKernel.Yaml
