/-
Module: CognitiveKernel.Proofs.Yaml.Scalar.Plain
Purpose: A text that may be written without quotes is scanned to its end.
Main exports: PlainText, scanPlain_colon, scanPlain_newLine
-/
import CognitiveKernel.Proofs.Yaml.Cursor
import CognitiveKernel.Yaml.Scalar.Plain

namespace CognitiveKernel.Yaml

variable {indent : Nat} {mark : Mark} {text rest : List Char}

/-! ### Texts without quotes -/

/-- A text that is not empty and can be written without quotes. -/
structure PlainText (text : List Char) : Prop where
  nonempty : text ≠ []
  loose : isLoose text = false
  special : hasSpecial text = false
  inside : ∀ c ∈ text, isBreak c = false
  start : startsWithIndicator text = false
  words : holdsIndicator text = false

theorem plainText_of_allowsPlain (nonempty : text ≠ []) (allowed : allowsPlain text = true) :
    PlainText text := by
  simp only [allowsPlain, Bool.and_eq_true, Bool.not_eq_true', List.any_eq_false,
    Bool.not_eq_true] at allowed
  obtain ⟨⟨⟨⟨loose, special⟩, inside⟩, start⟩, words⟩ := allowed
  exact ⟨nonempty, loose, special, inside, start, words⟩

/-- Tabs are not written as they are, so the blanks of such a text are spaces. -/
theorem PlainText.not_tab (plain : PlainText text) {c : Char} (member : c ∈ text) : c ≠ '\t' := by
  rintro rfl
  cases isPrintable_of_mem plain.special member

theorem PlainText.solid (plain : PlainText text) (rest : List Char) : Solid (text ++ rest) := by
  obtain ⟨c, more, rfl⟩ := List.exists_cons_of_ne_nil plain.nonempty
  rintro _ ⟨⟩
  have notTab := plain.not_tab List.mem_cons_self
  have loose := plain.loose
  have start := plain.start
  have printable := isPrintable_of_mem plain.special List.mem_cons_self
  simp only [isLoose, List.head?_cons, Option.any_some, Bool.or_eq_false_iff, isSpace] at loose
  simp only [startsWithIndicator, isLeadingIndicator, Bool.or_eq_false_iff,
    decide_eq_false_iff_not] at start
  simp only [isPrintable, Bool.and_eq_true, decide_eq_true_eq] at printable
  refine ⟨?_, plain.inside c List.mem_cons_self, ?_, printable.2⟩
  · simp [isBlank, notTab, of_decide_eq_false loose.1.1]
  · simp [start]

theorem PlainText.not_blank_of_getLast? (plain : PlainText text) :
    ∀ c ∈ text.getLast?, isBlank c = false := by
  intro c last
  have notTab := plain.not_tab (List.mem_of_getLast? last)
  have loose := plain.loose
  rw [Option.mem_def] at last
  simp only [isLoose, last, Option.any_some, Bool.or_eq_false_iff, isSpace] at loose
  simp [isBlank, notTab, of_decide_eq_false loose.2.1]

/-! ### Scanning -/

theorem scanPlain_cons {flow : Bool} {gap : Gap} {c : Char} (notReturn : c ≠ '\r') :
    scanPlain flow indent mark gap (c :: rest) =
      if isBreak c then scanPlain flow indent (mark.newLine [c]) (gap.addBreak c) rest
      else if isBlank c then
        if gap.hasBreak && mark.column < indent && c = '\t' then none
        else scanPlain flow indent (mark.next c) (gap.addBlank c) rest
      else if endsAfterGap flow indent mark gap (c :: rest) then
        some ([], gap.hasBreak, ⟨mark, c :: rest⟩)
      else if isStrayColon flow c rest then none
      else if endsPlain flow c rest then some ([], gap.hasBreak, ⟨mark, c :: rest⟩)
      else
        (scanPlain flow indent (mark.next c) Gap.none rest).map fun scanned =>
          (gap.fold ++ c :: scanned.1, scanned.2) := by
  rw [scanPlain]
  simp [notReturn]

/-- Behind blanks, on a line that is indented deep enough, only a comment ends a scalar. -/
theorem endsAfterGap_blanks {blanks : List Char}
    (behind : blanks ≠ [] → 0 < mark.column ∧ indent ≤ mark.column ∧ text.head? ≠ some '#') :
    endsAfterGap false indent mark (.blanks blanks) text = false := by
  by_cases adjacent : blanks = []
  · simp [endsAfterGap, adjacent, Gap.none]
  · obtain ⟨started, deep, comment⟩ := behind adjacent
    have notFirst : mark.column ≠ 0 := Nat.pos_iff_ne_zero.mp started
    have notHigher : ¬mark.column < indent := Nat.not_lt.mpr deep
    simp [endsAfterGap, notHigher, notFirst, comment]

/-- A colon inside a word does not end a scalar, whatever follows the text. -/
theorem endsPlain_append {c : Char} (colon : (decide (c = ':') && endsWord text) = false)
    (rest : List Char) : endsPlain false c (text ++ rest) = false := by
  by_cases isColon : c = ':'
  · have nonempty : text ≠ [] := by
      rintro rfl
      simp [isColon, endsWord] at colon
    simp only [isColon, decide_true, Bool.true_and] at colon
    simp [endsPlain, endsWord_append nonempty, colon]
  · simp [endsPlain, isColon]

/-- Words with single blanks or several between them are scanned as they are. The induction is on
the text, with the blanks since the last word. A key may stand one column further left than what
else belongs to its mapping. -/
theorem scanPlain_append {blanks : List Char} (inside : ∀ c ∈ text, isBreak c = false)
    (words : holdsIndicator text = false) (ending : ∀ c ∈ text.getLast?, isBlank c = false)
    (deep : indent ≤ mark.column + 1) (gap : text = [] → blanks = [])
    (behind : blanks ≠ [] → 0 < mark.column ∧ indent ≤ mark.column ∧ text.head? ≠ some '#') :
    scanPlain false indent mark (.blanks blanks) (text ++ rest) =
      (scanPlain false indent (mark.past text) .none rest).map fun scanned =>
        (blanks ++ text ++ scanned.1, scanned.2) := by
  induction text generalizing mark blanks with
  | nil =>
      rw [gap rfl]
      simp [Gap.none]
  | cons c text ih =>
      have kind : isBreak c = false := inside c List.mem_cons_self
      have notReturn : c ≠ '\r' := by
        rintro rfl
        cases kind
      simp only [holdsIndicator, Bool.or_eq_false_iff] at words
      obtain ⟨⟨colon, sign⟩, words⟩ := words
      have insideRest : ∀ d ∈ text, isBreak d = false :=
        fun d member => inside d (List.mem_cons_of_mem c member)
      have endingRest : ∀ d ∈ text.getLast?, isBlank d = false := by
        intro d last
        apply ending
        rw [List.getLast?_cons, Option.mem_def.mp last]
        rfl
      have deepNext : indent ≤ (mark.next c).column + 1 := Nat.le_succ_of_le deep
      rw [List.cons_append, scanPlain_cons notReturn, kind, if_neg Bool.false_ne_true,
        Mark.past_cons_of_not_break kind]
      cases blank : isBlank c with
      | true =>
          have more : text ≠ [] := by
            rintro rfl
            rw [ending c rfl] at blank
            cases blank
          have noComment : text.head? ≠ some '#' := by
            simpa [blank] using sign
          rw [if_pos rfl, if_neg (by simp [Gap.hasBreak]), Gap.addBlank,
            ih insideRest words endingRest deepNext (fun empty => absurd empty more)
              (fun _ => ⟨Nat.succ_pos _, deep, noComment⟩)]
          simp
      | false =>
          have goesOn := @endsAfterGap_blanks indent mark (c :: (text ++ rest)) blanks behind
          have inWord := endsPlain_append colon rest
          have next := @ih (mark.next c) [] insideRest words endingRest deepNext (fun _ => rfl)
            (fun none => absurd rfl none)
          simp only [goesOn, isStrayColon, Bool.false_and, inWord, if_neg Bool.false_ne_true,
            Gap.none] at next ⊢
          rw [next, Option.map_map]
          congr 1
          funext scanned
          simp [Gap.fold]

/-- A scalar that is a key ends before the colon behind it. -/
theorem scanPlain_colon (plain : PlainText text) (deep : indent ≤ mark.column + 1)
    (word : endsWord rest = true) :
    scanPlain false indent mark .none (text ++ ':' :: rest) =
      some (text, false, ⟨mark.past text, ':' :: rest⟩) := by
  have stop (mark : Mark) : scanPlain false indent mark .none (':' :: rest) =
      some ([], false, ⟨mark, ':' :: rest⟩) := by
    rw [scanPlain_cons (by decide)]
    simp [isBreak, isBlank, endsAfterGap, isStrayColon, endsPlain, word, Gap.hasBreak, Gap.none]
  have words := @scanPlain_append indent mark text (':' :: rest) [] plain.inside plain.words
    plain.not_blank_of_getLast? deep (fun _ => rfl) (fun none => absurd rfl none)
  rw [Gap.none, words, stop]
  simp

theorem scanPlain_spaces {first : Option Char} {more : List Char} (count : Nat) :
    scanPlain false indent mark (.broken first more) (spaces count ++ rest) =
      scanPlain false indent (mark.past (spaces count)) (.broken first more) rest := by
  induction count generalizing mark with
  | zero => rfl
  | succ count ih =>
      rw [spaces_succ, List.cons_append, scanPlain_cons (by decide),
        Mark.past_cons_of_not_break (by decide)]
      simpa [isBreak, isBlank, Gap.addBlank] using ih

/-- A scalar that ends its line ends before the next line, which is indented less. -/
theorem scanPlain_newLine (plain : PlainText text) (deep : indent ≤ mark.column + 1) {count : Nat}
    (less : count < indent) (solid : Solid rest) :
    scanPlain false indent mark .none (text ++ '\n' :: (spaces count ++ rest)) =
      some (text, true, ⟨mark.past (text ++ '\n' :: spaces count), rest⟩) := by
  have stop (mark : Mark) (column : mark.column = count) :
      scanPlain false indent mark (.broken (some '\n') []) rest =
        some ([], true, ⟨mark, rest⟩) := by
    cases rest with
    | nil => rfl
    | cons c rest =>
        obtain ⟨notBlank, notBreak, _⟩ := solid c rfl
        have notReturn : c ≠ '\r' := by
          rintro rfl
          cases notBreak
        rw [scanPlain_cons notReturn]
        simp [notBreak, notBlank, endsAfterGap, Gap.none, column, less, Gap.hasBreak]
  have words := @scanPlain_append indent mark text ('\n' :: (spaces count ++ rest)) []
    plain.inside plain.words plain.not_blank_of_getLast? deep (fun _ => rfl)
    (fun none => absurd rfl none)
  have column := Mark.column_past_spaces ((mark.past text).newLine ['\n']) count
  have noGap : Gap.none.addBreak '\n' = .broken (some '\n') [] := rfl
  rw [Gap.none, words, scanPlain_cons (by decide), if_pos (by decide), noGap, scanPlain_spaces,
    stop _ (by simpa [Mark.newLine] using column)]
  simp [Mark.past_cons_of_break (c := '\n') (by decide)]

end CognitiveKernel.Yaml
