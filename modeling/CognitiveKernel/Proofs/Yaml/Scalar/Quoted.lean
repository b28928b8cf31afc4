/-
Module: CognitiveKernel.Proofs.Yaml.Scalar.Quoted
Purpose: Every text is scanned from between its double quotes, and one without line feeds and
  hidden characters also from between its single quotes.
Main exports: SingleText, scanSingleQuoted_write, scanDoubleQuoted_write
-/
import CognitiveKernel.Proofs.Yaml.Cursor
import CognitiveKernel.Yaml.Scalar.Quoted

namespace CognitiveKernel.Yaml

variable {mark : Mark} {gap : Gap} {text rest : List Char} {c : Char}

/-! ### Double quotes -/

section

/-- A character is written as a letter, with hexadecimal digits, or as it is. -/
inductive Escaped (c : Char) : List Char → Prop
  | letter {letter : Char} (simple : simpleEscape? letter = some c)
      (visible : isBreak letter = false) : Escaped c ['\\', letter]
  | digits {kind : Char} {count : Nat} (counted : escapeDigits? kind = some (count + 1))
      (simple : simpleEscape? kind = none) (visible : isBreak kind = false)
      (fits : c.toNat < Nat.pow 16 (count + 1)) :
      Escaped c ('\\' :: kind :: Hexadecimal.digits .upper (count + 1) c.toNat)
  | itself (visible : isBreak c = false) (notQuote : c ≠ '"') (notBackslash : c ≠ '\\')
      (notTab : c ≠ '\t') : Escaped c [c]

theorem simpleEscape?_of_escapeLetter? {letter : Char} (named : escapeLetter? c = some letter) :
    simpleEscape? letter = some c ∧ isBreak letter = false := by
  unfold escapeLetter? at named
  split at named <;> cases named <;> exact ⟨rfl, rfl⟩

theorem ne_of_escapeLetter?_eq_none {other letter : Char} (unnamed : escapeLetter? c = none)
    (named : escapeLetter? other = some letter) : c ≠ other := by
  rintro rfl
  rw [unnamed] at named
  cases named

theorem escaped_escape (c : Char) : Escaped c (escape c) := by
  unfold escape
  cases named : escapeLetter? c with
  | some letter =>
      obtain ⟨simple, visible⟩ := simpleEscape?_of_escapeLetter? named
      exact .letter simple visible
  | none =>
      have ne {other letter : Char} : escapeLetter? other = some letter → c ≠ other :=
        ne_of_escapeLetter?_eq_none named
      have valid : c.toNat < 4294967296 := c.val.toNat_lt
      dsimp only
      split
      · have visible : isBreak c = false := by
          simp [isBreak, @ne '\n' 'n' rfl, @ne '\r' 'r' rfl, @ne '\x85' 'N' rfl,
            @ne '\u2028' 'L' rfl, @ne '\u2029' 'P' rfl]
        exact .itself visible (@ne '"' '"' rfl) (@ne '\\' '\\' rfl) (@ne '\t' 't' rfl)
      · split
        · exact @Escaped.digits c _ 1 rfl rfl rfl (by simp; omega)
        · split
          · exact @Escaped.digits c _ 3 rfl rfl rfl (by simp; omega)
          · exact @Escaped.digits c _ 7 rfl rfl rfl (by simp; omega)

/-- No line break is written between double quotes. -/
theorem not_break_of_mem_digits {count value : Nat} {d : Char}
    (member : d ∈ Hexadecimal.digits .upper count value) : isBreak d = false := by
  induction count generalizing value with
  | zero => cases member
  | succ count ih =>
      have digit : ∀ value < 16, isBreak (Hexadecimal.digit .upper value) = false := by decide
      rw [Hexadecimal.digits, List.mem_append, List.mem_singleton] at member
      rcases member with before | rfl
      · exact ih before
      · exact digit _ (Nat.mod_lt _ (by decide))

theorem Escaped.inside {written : List Char} (escaped : Escaped c written) :
    ∀ d ∈ written, isBreak d = false := by
  intro d member
  cases escaped with
  | letter simple visible =>
      rcases List.mem_cons.mp member with rfl | member
      · rfl
      · rw [List.mem_singleton.mp member]
        exact visible
  | digits counted simple visible fits =>
      rcases List.mem_cons.mp member with rfl | member
      · rfl
      · rcases List.mem_cons.mp member with rfl | member
        · exact visible
        · exact not_break_of_mem_digits member
  | itself visible _ _ _ =>
      rw [List.mem_singleton.mp member]
      exact visible

theorem scanDoubleQuoted_text_cons (notReturn : c ≠ '\r') :
    scanDoubleQuoted mark (.text gap) (c :: rest) =
      if c = '"' then some (gap.fold, ⟨mark.next c, rest⟩)
      else if isBreak c then scanDoubleQuoted (mark.newLine [c]) (.text (gap.addBreak c)) rest
      else if isBlank c then scanDoubleQuoted (mark.next c) (.text (gap.addBlank c)) rest
      else if mark.column = 0 && isDocumentMarker (c :: rest) then none
      else if c = '\\' then
        (scanDoubleQuoted (mark.next c) .escaped rest).map fun scanned =>
          (gap.fold ++ scanned.1, scanned.2)
      else
        (scanDoubleQuoted (mark.next c) (.text Gap.none) rest).map fun scanned =>
          (gap.fold ++ c :: scanned.1, scanned.2) := by
  rw [scanDoubleQuoted]
  simp [notReturn]

theorem scanDoubleQuoted_letter {letter : Char} (simple : simpleEscape? letter = some c)
    (visible : isBreak letter = false) :
    scanDoubleQuoted mark .escaped (letter :: rest) =
      (scanDoubleQuoted (mark.next letter) (.text .none) rest).map fun scanned =>
        (c :: scanned.1, scanned.2) := by
  have notReturn : letter ≠ '\r' := by
    rintro rfl
    cases visible
  rw [scanDoubleQuoted]
  · simp [visible, simple]
  · simp [notReturn]

theorem scanDoubleQuoted_kind {kind : Char} {count : Nat}
    (counted : escapeDigits? kind = some count) (simple : simpleEscape? kind = none)
    (visible : isBreak kind = false) :
    scanDoubleQuoted mark .escaped (kind :: rest) =
      scanDoubleQuoted (mark.next kind) (.digits count 0) rest := by
  have notReturn : kind ≠ '\r' := by
    rintro rfl
    cases visible
  rw [scanDoubleQuoted]
  · simp [visible, simple, counted]
  · simp [notReturn]

/-- Hexadecimal digits are added to the value of those before, as long as others follow. The
induction is on their count. -/
theorem scanDoubleQuoted_digits {left : Nat} (more : 0 < left) (count value before : Nat) :
    scanDoubleQuoted mark (.digits (count + left) before)
        (Hexadecimal.digits .upper count value ++ rest) =
      scanDoubleQuoted (mark.past (Hexadecimal.digits .upper count value))
        (.digits left (Nat.pow 16 count * before + value % Nat.pow 16 count)) rest := by
  induction count generalizing value left rest with
  | zero => simp [Hexadecimal.digits, Nat.mod_one]
  | succ count ih =>
      have digit := Hexadecimal.value?_digit .upper (Nat.mod_lt value (by decide : 0 < 16))
      have kind : isBreak (Hexadecimal.digit .upper (value % 16)) = false :=
        @not_break_of_mem_digits 1 value _ (by simp [Hexadecimal.digits])
      have size : 16 * (Nat.pow 16 count * before + value / 16 % Nat.pow 16 count) + value % 16 =
          Nat.pow 16 (count + 1) * before + value % Nat.pow 16 (count + 1) := by
        have split : value % (16 * Nat.pow 16 count) =
            value % 16 + 16 * (value / 16 % Nat.pow 16 count) := Nat.mod_mul
        have power : Nat.pow 16 (count + 1) = 16 * Nat.pow 16 count := Nat.pow_succ'
        rw [power, split, Nat.mul_add, Nat.mul_assoc]
        omega
      have calls : count + 1 + left = count + (left + 1) := by omega
      rw [Hexadecimal.digits, List.append_assoc, calls, ih (Nat.succ_pos left),
        List.singleton_append, scanDoubleQuoted, digit, Mark.past_append,
        Mark.past_cons_of_not_break kind]
      simp only [Nat.succ_eq_add_one, Nat.lt_add_left_iff_pos, more, if_true, Nat.add_sub_cancel,
        size, Mark.past_nil]

/-- All hexadecimal digits of a character denote it. -/
theorem scanDoubleQuoted_code {count : Nat} (fits : c.toNat < Nat.pow 16 (count + 1)) :
    scanDoubleQuoted mark (.digits (count + 1) 0)
        (Hexadecimal.digits .upper (count + 1) c.toNat ++ rest) =
      (scanDoubleQuoted (mark.past (Hexadecimal.digits .upper (count + 1) c.toNat))
        (.text .none) rest).map fun scanned => (c :: scanned.1, scanned.2) := by
  have digit := Hexadecimal.value?_digit .upper (Nat.mod_lt c.toNat (by decide : 0 < 16))
  have kind : isBreak (Hexadecimal.digit .upper (c.toNat % 16)) = false :=
    @not_break_of_mem_digits 1 c.toNat _ (by simp [Hexadecimal.digits])
  have power : Nat.pow 16 (count + 1) = Nat.pow 16 count * 16 := rfl
  have small : c.toNat / 16 < Nat.pow 16 count := by
    rw [Nat.div_lt_iff_lt_mul (by decide)]
    omega
  have size : 16 * (c.toNat / 16) + c.toNat % 16 = c.toNat := Nat.div_add_mod _ _
  have denoted : charOfCode? c.toNat = some c := by
    have valid : c.toNat.isValidChar := c.valid
    simp [charOfCode?, valid]
  rw [Hexadecimal.digits, List.append_assoc, scanDoubleQuoted_digits Nat.one_pos,
    List.singleton_append, scanDoubleQuoted, digit, Mark.past_append,
    Mark.past_cons_of_not_break kind, Nat.mod_eq_of_lt small]
  simp only [Nat.mul_zero, Nat.zero_add, size, Nat.lt_irrefl, if_false, denoted, Mark.past_nil]

/-- A character behind a backslash is scanned whatever blanks precede it. -/
theorem scanDoubleQuoted_backslash {kind : Char} (started : 0 < mark.column) :
    scanDoubleQuoted mark (.text gap) ('\\' :: kind :: rest) =
      (scanDoubleQuoted (mark.next '\\') .escaped (kind :: rest)).map fun scanned =>
        (gap.fold ++ scanned.1, scanned.2) := by
  have notFirst : mark.column ≠ 0 := Nat.pos_iff_ne_zero.mp started
  rw [scanDoubleQuoted_text_cons (by decide)]
  simp [isBreak, isBlank, notFirst]

/-- A character is scanned from its written form, if what follows is scanned behind any blanks. -/
theorem scanDoubleQuoted_escaped {written blanks : List Char} {behind : Cursor}
    (escaped : Escaped c written) (started : 0 < mark.column)
    (next : ∀ blanks, scanDoubleQuoted (mark.past written) (.text (.blanks blanks)) rest =
      some (blanks ++ text, behind)) :
    scanDoubleQuoted mark (.text (.blanks blanks)) (written ++ rest) =
      some (blanks ++ c :: text, behind) := by
  have plain : scanDoubleQuoted (mark.past written) (.text .none) rest = some (text, behind) :=
    next []
  cases escaped with
  | letter simple visible =>
      rw [Mark.past_cons_of_not_break (by decide), Mark.past_cons_of_not_break visible,
        Mark.past_nil] at plain
      rw [List.cons_append, List.singleton_append, scanDoubleQuoted_backslash started,
        scanDoubleQuoted_letter simple visible, plain]
      rfl
  | digits counted simple visible fits =>
      rw [Mark.past_cons_of_not_break (by decide), Mark.past_cons_of_not_break visible] at plain
      rw [List.cons_append, List.cons_append, scanDoubleQuoted_backslash started,
        scanDoubleQuoted_kind counted simple visible, scanDoubleQuoted_code fits, plain]
      rfl
  | itself visible notQuote notBackslash notTab =>
      have notReturn : c ≠ '\r' := by
        rintro rfl
        cases visible
      have notFirst : mark.column ≠ 0 := Nat.pos_iff_ne_zero.mp started
      rw [Mark.past_cons_of_not_break visible, Mark.past_nil] at plain next
      rw [List.singleton_append, scanDoubleQuoted_text_cons notReturn, if_neg notQuote, visible,
        if_neg Bool.false_ne_true]
      cases blank : isBlank c with
      | true =>
          rw [if_pos rfl, Gap.addBlank, next]
          simp
      | false => simp [notFirst, notBackslash, plain, Gap.fold]

/-- A text is scanned from behind its opening double quote. -/
theorem scanDoubleQuoted_write (started : 0 < mark.column) (text rest : List Char) :
    scanDoubleQuoted mark (.text .none) (text.flatMap escape ++ '"' :: rest) =
      some (text, ⟨mark.past (text.flatMap escape ++ ['"']), rest⟩) := by
  have scanned (mark : Mark) (started : 0 < mark.column) (blanks : List Char) :
      scanDoubleQuoted mark (.text (.blanks blanks)) (text.flatMap escape ++ '"' :: rest) =
        some (blanks ++ text, ⟨mark.past (text.flatMap escape ++ ['"']), rest⟩) := by
    induction text generalizing mark blanks with
    | nil =>
        rw [List.flatMap_nil, List.nil_append, scanDoubleQuoted_text_cons (by decide), if_pos rfl,
          List.nil_append, Mark.past_cons_of_not_break (by decide)]
        simp [Gap.fold]
    | cons c text ih =>
        have escaped := escaped_escape c
        rw [List.flatMap_cons, List.append_assoc, List.append_assoc, Mark.past_append]
        exact scanDoubleQuoted_escaped escaped started
          (ih _ (Mark.column_past_pos escaped.inside started))
  exact scanned mark started []

end

/-! ### Single quotes -/

section

/-- A text that can be written in single quotes and does not have to be a block. -/
structure SingleText (text : List Char) : Prop where
  special : hasSpecial text = false
  spaceBreak : hasSpaceBreak text = false
  breakSpace : hasBreakSpace text = false
  notFeed : '\n' ∉ text

theorem hasPair_cons {first second : Char → Bool} :
    hasPair first second (c :: text) =
      (text.head?.any (first c && second ·) || hasPair first second text) := by
  cases text <;> simp [hasPair]

theorem SingleText.of_cons (single : SingleText (c :: text)) :
    SingleText text ∧ isPrintable c = true ∧ c ≠ '\n' ∧
      (isSpace c = true → ∀ d ∈ text.head?, isBreak d = false) ∧
      (isBreak c = true → text.head? ≠ some ' ') := by
  obtain ⟨special, spaceBreak, breakSpace, notFeed⟩ := single
  rw [hasSpecial, List.any_cons, Bool.or_eq_false_iff] at special
  rw [hasSpaceBreak, hasPair_cons, Bool.or_eq_false_iff] at spaceBreak
  rw [hasBreakSpace, hasPair_cons, Bool.or_eq_false_iff] at breakSpace
  rw [List.mem_cons, not_or] at notFeed
  refine ⟨⟨special.2, spaceBreak.2, breakSpace.2, notFeed.2⟩, by simpa using special.1,
    Ne.symm notFeed.1, ?_, ?_⟩
  · intro space d first
    have pair := spaceBreak.1
    rw [Option.mem_def.mp first] at pair
    simpa [space] using pair
  · intro kind first
    have pair := breakSpace.1
    rw [first] at pair
    simp [kind, isSpace] at pair

/-- What was passed when a line begins, or when it goes on. -/
inductive GapBefore (text : List Char) : Bool → Mark → Gap → Prop
  | word {mark : Mark} {blanks : List Char} (started : 0 < mark.column)
      (tight : blanks ≠ [] → ∀ c ∈ text.head?, isBreak c = false) :
      GapBefore text false mark (.blanks blanks)
  | line {mark : Mark} {first : Char} {more : List Char} (kept : first ≠ '\n')
      (margin : text.head? ≠ some ' ') : GapBefore text true mark (.broken (some first) more)

/-- The indentation of a closing quote that stands on a line of its own. -/
def closingIndent (indent : Nat) (atStart : Bool) (text : List Char) : List Char :=
  if text.getLast?.elim atStart isBreak then spaces indent else []

theorem closingIndent_nil (indent : Nat) (atStart : Bool) :
    closingIndent indent atStart [] = if atStart then spaces indent else [] := rfl

theorem closingIndent_cons (indent : Nat) (atStart : Bool) :
    closingIndent indent atStart (c :: text) = closingIndent indent (isBreak c) text := by
  cases text with
  | nil => rfl
  | cons d text =>
      obtain ⟨last, lastEq⟩ :=
        Option.isSome_iff_exists.mp (List.getLast?_isSome.mpr (List.cons_ne_nil d text))
      simp [closingIndent, List.getLast?_cons_cons, lastEq]

theorem scanSingleQuoted_cons (notReturn : c ≠ '\r') (notQuote : c ≠ '\'') :
    scanSingleQuoted mark gap (c :: rest) =
      if isBreak c then scanSingleQuoted (mark.newLine [c]) (gap.addBreak c) rest
      else if isBlank c then scanSingleQuoted (mark.next c) (gap.addBlank c) rest
      else if mark.column = 0 && isDocumentMarker (c :: rest) then none
      else
        (scanSingleQuoted (mark.next c) Gap.none rest).map fun scanned =>
          (gap.fold ++ c :: scanned.1, scanned.2) := by
  rw [scanSingleQuoted]
  · simp [notQuote]
  · simp [notReturn]
  · simp [notQuote]

theorem scanSingleQuoted_close (other : rest.head? ≠ some '\'') :
    scanSingleQuoted mark gap ('\'' :: rest) = some (gap.fold, ⟨mark.next '\'', rest⟩) := by
  rw [scanSingleQuoted]
  · simp
  · simp
  · rintro more - rfl
    exact other rfl

/-- Spaces at the beginning of a line do not count. -/
theorem scanSingleQuoted_spaces {first : Option Char} {more : List Char} (count : Nat) :
    scanSingleQuoted mark (.broken first more) (spaces count ++ rest) =
      scanSingleQuoted (mark.past (spaces count)) (.broken first more) rest := by
  induction count generalizing mark with
  | zero => rfl
  | succ count ih =>
      rw [spaces_succ, List.cons_append, scanSingleQuoted_cons (by decide) (by decide),
        Mark.past_cons_of_not_break (by decide)]
      simpa [isBreak, isBlank, Gap.addBlank] using ih

/-- The characters that stand for one character between single quotes. -/
def doubled (c : Char) : List Char := if c = '\'' then ['\'', '\''] else [c]

theorem doubleQuotes_cons : doubleQuotes (c :: text) = doubled c ++ doubleQuotes text := rfl

theorem doubled_inside (kind : isBreak c = false) : ∀ d ∈ doubled c, isBreak d = false := by
  intro d member
  rw [doubled] at member
  split at member
  · rcases List.mem_cons.mp member with rfl | member
    · rfl
    · rw [List.mem_singleton.mp member]
      rfl
  · rw [List.mem_singleton.mp member]
    exact kind

theorem scanSingleQuoted_doubled (kind : isBreak c = false) (blank : isBlank c = false)
    (started : 0 < mark.column) :
    scanSingleQuoted mark gap (doubled c ++ rest) =
      (scanSingleQuoted (mark.past (doubled c)) .none rest).map fun scanned =>
        (gap.fold ++ c :: scanned.1, scanned.2) := by
  have notFirst : mark.column ≠ 0 := Nat.pos_iff_ne_zero.mp started
  rw [doubled]
  split
  · rename_i isQuote
    subst isQuote
    rw [List.cons_append, List.singleton_append, scanSingleQuoted,
      Mark.past_eq_advance (by simp [isBreak])]
  · rename_i notQuote
    have notReturn : c ≠ '\r' := by
      rintro rfl
      cases kind
    rw [List.singleton_append, scanSingleQuoted_cons notReturn notQuote,
      Mark.past_cons_of_not_break kind]
    simp [kind, blank, notFirst]

/-- The first part of a line is its indentation. -/
theorem indentLines_doubled (indent : Nat) (atStart : Bool) (kind : isBreak c = false) :
    indentLines indent atStart (doubled c ++ text) =
      (if atStart then spaces indent else []) ++ (doubled c ++ indentLines indent false text) := by
  rw [doubled]
  split
  · rename_i isQuote
    subst isQuote
    simp [indentLines, isBreak]
  · simp [indentLines, kind]

namespace GapBefore

variable {atStart : Bool}

/-- A line break is added to what was passed. -/
theorem addBreak (before : GapBefore (c :: text) atStart mark gap) (kind : isBreak c = true)
    (kept : foldBreak c = c) (notFeed : c ≠ '\n') (margin : text.head? ≠ some ' ') :
    GapBefore text true (mark.newLine [c]) (gap.addBreak c) ∧
      (gap.addBreak c).fold = gap.fold ++ [c] := by
  cases before with
  | @word _ blanks started tight =>
      cases blanks with
      | nil =>
          simp only [Gap.addBreak, kept]
          exact ⟨.line notFeed margin, by simp [Gap.fold, notFeed]⟩
      | cons blank blanks =>
          rw [tight (List.cons_ne_nil blank blanks) c rfl] at kind
          cases kind
  | line first _ =>
      simp only [Gap.addBreak, kept]
      exact ⟨.line first margin, by simp [Gap.fold, first]⟩

/-- A space is added to the blanks behind a word. None stands at the beginning of a line. -/
theorem addBlank (before : GapBefore (' ' :: text) atStart mark gap)
    (tight : ∀ c ∈ text.head?, isBreak c = false) :
    atStart = false ∧ GapBefore text false (mark.next ' ') (gap.addBlank ' ') ∧
      (gap.addBlank ' ').fold = gap.fold ++ [' '] := by
  cases before with
  | word started _ => exact ⟨rfl, .word (Nat.succ_pos _) fun _ => tight, rfl⟩
  | line _ margin => exact absurd rfl margin

/-- The indentation of a line does not change what was passed. -/
theorem scan_indent (before : GapBefore text atStart mark gap) {indent : Nat}
    (indented : 0 < indent) (rest : List Char) :
    let margin := if atStart then spaces indent else []
    0 < (mark.past margin).column ∧
      scanSingleQuoted mark gap (margin ++ rest) =
        scanSingleQuoted (mark.past margin) gap rest := by
  cases before with
  | word started tight => exact ⟨started, rfl⟩
  | line kept margin =>
      refine ⟨?_, scanSingleQuoted_spaces indent⟩
      rw [if_pos rfl, Mark.column_past_spaces]
      omega

end GapBefore

/-- Lines and words are scanned up to the closing quote. The induction is on the text, with what
was passed since the last word. -/
theorem scanSingleQuoted_append {indent : Nat} (indented : 0 < indent) (single : SingleText text)
    {atStart : Bool} (before : GapBefore text atStart mark gap) (other : rest.head? ≠ some '\'') :
    let written := indentLines indent atStart (doubleQuotes text) ++
      (closingIndent indent atStart text ++ ['\''])
    scanSingleQuoted mark gap (written ++ rest) =
      some (gap.fold ++ text, ⟨mark.past written, rest⟩) := by
  induction text generalizing mark gap atStart with
  | nil =>
      have entered := (before.scan_indent indented ('\'' :: rest)).2
      simp only [doubleQuotes, List.flatMap_nil, indentLines, List.nil_append, closingIndent_nil,
        List.append_assoc, List.singleton_append]
      rw [entered, scanSingleQuoted_close other, Mark.past_append,
        Mark.past_cons_of_not_break (by decide)]
      simp
  | cons c text ih =>
      obtain ⟨singleRest, printable, notFeed, spaceBreak, breakSpace⟩ := single.of_cons
      rw [closingIndent_cons, doubleQuotes_cons]
      have notTab : c ≠ '\t' := by
        rintro rfl
        cases printable
      have notReturn : c ≠ '\r' := by
        rintro rfl
        cases printable
      cases kind : isBreak c with
      | true =>
          have notQuote : c ≠ '\'' := by
            rintro rfl
            cases kind
          have kept := foldBreak_of_isPrintable printable kind
          obtain ⟨behind, fold⟩ := before.addBreak kind kept notFeed (breakSpace kind)
          simp only [doubled, if_neg notQuote, indentLines, kind, if_true, List.cons_append,
            List.nil_append]
          rw [scanSingleQuoted_cons notReturn notQuote, if_pos kind,
            Mark.past_cons_of_break kind, ih singleRest behind, fold]
          simp
      | false =>
          rw [indentLines_doubled indent atStart kind]
          cases blank : isBlank c with
          | true =>
              have space : c = ' ' := by simpa [isBlank, notTab] using blank
              subst space
              obtain ⟨rfl, behind, fold⟩ := before.addBlank (spaceBreak rfl)
              simp only [doubled, Bool.false_eq_true, if_false, List.nil_append, List.cons_append,
                Char.reduceEq]
              rw [scanSingleQuoted_cons (by decide) (by decide), if_neg (by decide),
                if_pos (by decide), Mark.past_cons_of_not_break (by decide), ih singleRest behind,
                fold]
              simp
          | false =>
              obtain ⟨started, entered⟩ := before.scan_indent indented
                (doubled c ++ (indentLines indent false (doubleQuotes text) ++
                  (closingIndent indent false text ++ '\'' :: rest)))
              have next : GapBefore text false
                  ((mark.past (if atStart then spaces indent else [])).past (doubled c)) .none :=
                .word (Mark.column_past_pos (doubled_inside kind) started)
                  fun adjacent => absurd rfl adjacent
              have words := ih singleRest next
              simp only [List.append_assoc, List.singleton_append] at entered words ⊢
              rw [entered, scanSingleQuoted_doubled kind blank started, words]
              simp [Gap.none, Gap.fold]

/-- A text is scanned from behind its opening single quote. -/
theorem scanSingleQuoted_write {indent : Nat} (indented : 0 < indent) (single : SingleText text)
    (other : rest.head? ≠ some '\'') :
    scanSingleQuoted (mark.next '\'') .none ((writeSingleQuoted indent text).tail ++ rest) =
      some (text, ⟨mark.past (writeSingleQuoted indent text), rest⟩) := by
  have started : GapBefore text false (mark.next '\'') .none :=
    .word (Nat.succ_pos _) fun adjacent => absurd rfl adjacent
  have closing : (if text.getLast?.any isBreak then spaces indent else []) =
      closingIndent indent false text := by
    rw [closingIndent]
    cases text.getLast? <;> rfl
  have scanned := scanSingleQuoted_append indented single started other
  rw [writeSingleQuoted, closing, Mark.past_cons_of_not_break (by decide), List.tail_cons,
    List.append_assoc (indentLines _ _ _)]
  exact scanned

end

end CognitiveKernel.Yaml
