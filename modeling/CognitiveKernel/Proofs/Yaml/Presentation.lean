/-
Module: CognitiveKernel.Proofs.Yaml.Presentation
Purpose: Texts, numbers and truth values are written in ways that give them back, with characters
  that a document may hold, and short keys stay short.
Main exports: Scalar.Presentable, Scalar.presentable_ofText, Scalar.presentable_ofNumber,
  Scalar.Presentable.write_of_isBareKey, Scalar.Presentable.isAllowed_of_mem_write
-/
import CognitiveKernel.Proofs.Binary64.Writing
import CognitiveKernel.Proofs.Yaml.Scalar.Block
import CognitiveKernel.Proofs.Yaml.Scalar.Plain
import CognitiveKernel.Proofs.Yaml.Scalar.Quoted

namespace CognitiveKernel.Yaml

open Decimal (exists_digitChar isNumeralChar)

/-- A scalar is written in a way that gives its text back. -/
inductive Scalar.Presentable : Scalar → Prop
  | plain {text : String} (plain : PlainText text.toList) : Presentable ⟨.plain, text⟩
  | singleQuoted {text : String} (single : SingleText text.toList) :
      Presentable ⟨.singleQuoted, text⟩
  | doubleQuoted {text : String} : Presentable ⟨.doubleQuoted, text⟩
  | literal {text : String} (literal : LiteralText text.toList) : Presentable ⟨.literal, text⟩

/-! ### Texts -/

theorem isMisread_empty : isMisread "" = true := by decide

/-- Every text is written in a way that gives it back. -/
theorem Scalar.presentable_ofText (text : String) : (Scalar.ofText text).Presentable := by
  rw [ofText, styleOf]
  split
  · rename_i feed
    split
    · rename_i allowed
      simp only [allowsLiteral, Bool.and_eq_true, Bool.not_eq_true'] at allowed
      exact .literal ⟨allowed.1.1, by simpa using feed⟩
    · exact .doubleQuoted
  · rename_i noFeed
    split
    · rename_i allowed
      simp only [Bool.and_eq_true, Bool.not_eq_true'] at allowed
      refine .plain (plainText_of_allowsPlain ?_ allowed.2)
      intro empty
      rw [String.toList_eq_nil_iff.mp empty, isMisread_empty] at allowed
      cases allowed.1
    · split
      · rename_i allowed
        simp only [allowsSingleQuotes, Bool.and_eq_true, Bool.not_eq_true'] at allowed
        exact .singleQuoted ⟨allowed.1.1, allowed.1.2, allowed.2, by simpa using noFeed⟩
      · exact .doubleQuoted

/-! ### Numbers and truth values -/

theorem isNumeralChar_plain {c : Char} (numeral : isNumeralChar c = true) :
    isPrintable c = true ∧ isBreak c = false ∧ isSpace c = false ∧ c ≠ ':' ∧ c ≠ '#' := by
  simp only [isNumeralChar, Bool.or_eq_true, decide_eq_true_eq] at numeral
  rcases numeral with ((digit | rfl) | rfl) | rfl
  · obtain ⟨value, small, rfl⟩ := exists_digitChar digit
    revert value
    decide
  · decide
  · decide
  · decide

theorem holdsIndicator_eq_false {text : List Char} (plain : ∀ c ∈ text, c ≠ ':' ∧ c ≠ '#') :
    holdsIndicator text = false := by
  induction text with
  | nil => rfl
  | cons c text ih =>
      have notSign : text.head? ≠ some '#' := by
        intro first
        exact (plain '#' (List.mem_cons_of_mem c (List.mem_of_head? first))).2 rfl
      simp [holdsIndicator, plain c List.mem_cons_self, notSign,
        ih fun d member => plain d (List.mem_cons_of_mem c member)]

theorem plainText_of_numeralChars {text : List Char} (nonempty : text ≠ [])
    (chars : ∀ c ∈ text, isNumeralChar c = true) (start : startsWithIndicator text = false) :
    PlainText text where
  nonempty := nonempty
  loose := by
    have inside {c : Char} (member : c ∈ text) : (isSpace c || isBreak c) = false := by
      obtain ⟨_, notBreak, notSpace, _⟩ := isNumeralChar_plain (chars c member)
      rw [notBreak, notSpace, Bool.or_false]
    rw [isLoose, Bool.or_eq_false_iff]
    constructor
    · cases first : text.head? with
      | none => rfl
      | some c => exact inside (List.mem_of_head? first)
    · cases last : text.getLast? with
      | none => rfl
      | some c => exact inside (List.mem_of_getLast? last)
  special := by
    rw [hasSpecial, List.any_eq_false]
    intro c member
    simp [(isNumeralChar_plain (chars c member)).1]
  inside := fun c member => (isNumeralChar_plain (chars c member)).2.1
  start := start
  words := holdsIndicator_eq_false fun c member => (isNumeralChar_plain (chars c member)).2.2.2

theorem startsWithIndicator_of_isDigit {c : Char} (digit : Decimal.isDigit c = true)
    (text : List Char) :
    startsWithIndicator (c :: text) = false ∧ startsWithIndicator ('-' :: c :: text) = false := by
  have first : isLeadingIndicator c = false ∧ c ≠ '-' ∧ c ≠ '?' ∧ c ≠ ':' ∧ c ≠ '.' ∧
      isBlank c = false ∧ isBreak c = false := by
    obtain ⟨value, small, rfl⟩ := exists_digitChar digit
    revert value
    decide
  obtain ⟨notIndicator, notHyphen, notQuestion, notColon, notPoint, notBlank, notBreak⟩ := first
  constructor
  · simp [startsWithIndicator, notIndicator, notHyphen, notQuestion, notColon, List.isPrefixOf,
      Ne.symm notHyphen, Ne.symm notPoint]
  · have hyphen : isLeadingIndicator '-' = false := by decide
    simp [startsWithIndicator, hyphen, endsWord, notBlank, notBreak, List.isPrefixOf,
      Ne.symm notHyphen]

theorem regular_yaml : Decimal.Layout.yaml.Regular := ⟨Or.inr rfl, Or.inl rfl⟩

/-- Every number is written in a way that gives its text back. -/
theorem Scalar.presentable_ofNumber (value : Binary64) : (Scalar.ofNumber value).Presentable := by
  rw [ofNumber]
  apply Presentable.plain
  rw [String.toList_ofList]
  cases value with
  | nan bits =>
      rw [Binary64.writeWith]
      exact plainText_of_allowsPlain (by decide) (by decide)
  | number negative magnitude =>
      rw [Binary64.writeWith]
      cases finite : magnitude.isFinite with
      | true =>
          obtain ⟨c, text, first, digit⟩ := magnitude.exists_write_eq_cons regular_yaml
          obtain ⟨unsigned, signed⟩ := startsWithIndicator_of_isDigit digit text
          have chars : ∀ d ∈ c :: text, isNumeralChar d = true := by
            intro d member
            rw [← first, magnitude.write_eq_text regular_yaml] at member
            have wellFormed := magnitude.wellFormed_numeral regular_yaml
            exact Numeral.isNumeralChar_of_mem_text wellFormed member
          rw [if_pos rfl, first]
          cases negative with
          | false => exact plainText_of_numeralChars (List.cons_ne_nil _ _) chars unsigned
          | true =>
              refine plainText_of_numeralChars (List.cons_ne_nil _ _) ?_ signed
              intro d member
              rcases List.mem_cons.mp member with rfl | member
              · rfl
              · exact chars d member
      | false =>
          rw [if_neg Bool.false_ne_true]
          cases negative <;> exact plainText_of_allowsPlain (by decide) (by decide)

theorem Scalar.presentable_ofBoolean (value : Bool) : (Scalar.ofBoolean value).Presentable := by
  cases value <;> exact .plain (plainText_of_allowsPlain (by decide) (by decide))

/-! ### Beginnings -/

/-- Nothing at the beginning of a scalar is passed over. -/
theorem Scalar.Presentable.solid_write {scalar : Scalar} (presentable : scalar.Presentable)
    (indent : Nat) (rest : List Char) : Solid (scalar.write indent ++ rest) := by
  have first {c : Char} (sign : c = '\'' ∨ c = '"' ∨ c = '|') (more : List Char) :
      Solid (c :: more) := by
    rcases sign with rfl | rfl | rfl <;> exact solid_cons (by decide) more
  cases presentable with
  | plain plain => exact plain.solid rest
  | singleQuoted => exact first (.inl rfl) _
  | doubleQuoted => exact first (.inr (.inl rfl)) _
  | literal => exact first (.inr (.inr rfl)) _

theorem Scalar.Presentable.exists_write_eq_cons {scalar : Scalar}
    (presentable : scalar.Presentable) (indent : Nat) :
    ∃ c more, scalar.write indent = c :: more := by
  cases presentable with
  | plain plain => exact List.exists_cons_of_ne_nil plain.nonempty
  | singleQuoted => exact ⟨_, _, rfl⟩
  | doubleQuoted => exact ⟨_, _, rfl⟩
  | literal => exact ⟨_, _, rfl⟩

/-! ### Short keys -/

theorem octets_digits (count value : Nat) :
    octets (Hexadecimal.digits .upper count value) = count := by
  induction count generalizing value with
  | zero => rfl
  | succ count ih =>
      have digit : ∀ value < 16, (Hexadecimal.digit .upper value).utf8Size = 1 := by decide
      rw [Hexadecimal.digits, octets_append, ih, octets_cons, octets_nil,
        digit _ (Nat.mod_lt _ (by decide))]

/-- A character takes at most four octets for each of its own where it is escaped. -/
theorem octets_escape_le (c : Char) : octets (escape c) ≤ 4 * c.utf8Size := by
  have narrow (size : c.utf8Size = 1) : c.toNat ≤ 0x7F := Char.utf8Size_eq_one_iff.mp size
  have medium (size : c.utf8Size = 2) : c.toNat ≤ 0x7FF := (Char.utf8Size_eq_two_iff.mp size).2
  have sizes := c.utf8Size_eq
  unfold escape
  cases named : escapeLetter? c with
  | some letter =>
      unfold escapeLetter? at named
      split at named <;> cases named <;> decide
  | none =>
      have lead {kind : Char} (ascii : kind.utf8Size = 1) (count value : Nat) :
          octets ('\\' :: kind :: Hexadecimal.digits .upper count value) = count + 2 := by
        have backslash : '\\'.utf8Size = 1 := rfl
        rw [octets_cons, octets_cons, octets_digits, ascii, backslash]
        omega
      dsimp only
      split
      · rw [octets_cons, octets_nil]
        omega
      · split
        · rw [lead rfl]
          omega
        · split
          · rw [lead rfl]
            omega
          · rw [lead rfl]
            omega

theorem octets_flatMap_escape_le (text : List Char) :
    octets (text.flatMap escape) ≤ 4 * octets text := by
  induction text with
  | nil => exact Nat.le_refl _
  | cons c text ih =>
      have first := octets_escape_le c
      rw [List.flatMap_cons, octets_append, octets_cons]
      omega

theorem octets_doubleQuotes_le (text : List Char) :
    octets (doubleQuotes text) ≤ 4 * octets text := by
  induction text with
  | nil => exact Nat.le_refl _
  | cons c text ih =>
      have first : octets (doubled c) ≤ 4 * c.utf8Size := by
        have own := c.utf8Size_pos
        rw [doubled]
        split
        · rename_i isQuote
          subst isQuote
          decide
        · simp only [octets_cons, octets_nil]
          omega
      rw [doubleQuotes_cons, octets_append, octets_cons]
      omega

theorem indentLines_of_inside {indent : Nat} {text : List Char}
    (inside : ∀ c ∈ text, isBreak c = false) : indentLines indent false text = text := by
  induction text with
  | nil => rfl
  | cons c text ih =>
      rw [indentLines_visible false (inside c List.mem_cons_self), if_neg Bool.false_ne_true,
        List.nil_append, ih fun d member => inside d (List.mem_cons_of_mem c member)]

theorem doubleQuotes_inside {text : List Char} (inside : ∀ c ∈ text, isBreak c = false) :
    ∀ c ∈ doubleQuotes text, isBreak c = false := by
  intro c member
  obtain ⟨d, inText, written⟩ := List.mem_flatMap.mp member
  exact doubled_inside (inside d inText) c written

theorem writeSingleQuoted_of_inside {indent : Nat} {text : List Char}
    (inside : ∀ c ∈ text, isBreak c = false) :
    writeSingleQuoted indent text = '\'' :: (doubleQuotes text ++ ['\'']) := by
  have noClosing : text.getLast?.any isBreak = false := by
    cases last : text.getLast? with
    | none => rfl
    | some c => exact inside c (List.mem_of_getLast? last)
  rw [writeSingleQuoted, indentLines_of_inside (doubleQuotes_inside inside), noClosing]
  simp

/-- A key that is not marked is written on one line, and is not too long to be found as a key. -/
theorem Scalar.Presentable.write_of_isBareKey {scalar : Scalar} (presentable : scalar.Presentable)
    (bare : scalar.isBareKey = true) (indent : Nat) :
    (∀ c ∈ scalar.write indent, isBreak c = false) ∧
      octets (scalar.write indent) ≤ 4 * longestBareKey + 2 := by
  simp only [isBareKey, Bool.and_eq_true, decide_eq_true_eq, Bool.not_eq_true',
    List.any_eq_false, Bool.not_eq_true] at bare
  obtain ⟨short, inside⟩ := bare
  cases presentable with
  | @plain text plain =>
      refine ⟨inside, ?_⟩
      rw [write, octets_toList]
      omega
  | @singleQuoted text single =>
      have size := octets_doubleQuotes_le text.toList
      have quote : '\''.utf8Size = 1 := rfl
      have short : text.utf8ByteSize ≤ longestBareKey := short
      rw [octets_toList] at size
      rw [write, writeSingleQuoted_of_inside inside]
      constructor
      · simp only [List.mem_cons, List.mem_append, List.not_mem_nil, or_false]
        rintro c (rfl | member | rfl)
        · rfl
        · exact doubleQuotes_inside inside c member
        · rfl
      · simp only [octets_cons, octets_append, octets_nil, quote]
        omega
  | @doubleQuoted text =>
      have size := octets_flatMap_escape_le text.toList
      have quote : '"'.utf8Size = 1 := rfl
      have short : text.utf8ByteSize ≤ longestBareKey := short
      rw [octets_toList] at size
      rw [write, writeDoubleQuoted]
      constructor
      · simp only [List.mem_cons, List.mem_append, List.mem_flatMap, List.not_mem_nil, or_false]
        rintro c (rfl | ⟨d, _, member⟩ | rfl)
        · rfl
        · exact (escaped_escape d).inside c member
        · rfl
      · simp only [octets_cons, octets_append, octets_nil, quote]
        omega
  | @literal text literal =>
      cases inside '\n' literal.feed

/-! ### Characters of a document -/

theorem isAllowed_of_isPrintable {c : Char} (printable : isPrintable c = true) :
    isAllowed c = true := by
  simp only [isPrintable, Bool.and_eq_true] at printable
  exact printable.1.1.1.1

theorem isAllowed_of_mem_digits {count value : Nat} {d : Char}
    (member : d ∈ Hexadecimal.digits .upper count value) : isAllowed d = true := by
  induction count generalizing value with
  | zero => cases member
  | succ count ih =>
      have digit : ∀ value < 16, isAllowed (Hexadecimal.digit .upper value) = true := by decide
      rw [Hexadecimal.digits, List.mem_append, List.mem_singleton] at member
      rcases member with before | rfl
      · exact ih before
      · exact digit _ (Nat.mod_lt _ (by decide))

theorem isAllowed_of_mem_escape {c d : Char} (member : d ∈ escape c) : isAllowed d = true := by
  have lead {kind : Char} {count value : Nat} (allowed : isAllowed kind = true)
      (member : d ∈ '\\' :: kind :: Hexadecimal.digits .upper count value) :
      isAllowed d = true := by
    rw [List.mem_cons, List.mem_cons] at member
    rcases member with rfl | rfl | digit
    · rfl
    · exact allowed
    · exact isAllowed_of_mem_digits digit
  unfold escape at member
  cases named : escapeLetter? c with
  | some letter =>
      have allowed : isAllowed letter = true := by
        unfold escapeLetter? at named
        split at named <;> cases named <;> rfl
      rw [named] at member
      exact @lead letter 0 0 allowed member
  | none =>
      rw [named] at member
      dsimp only at member
      split at member
      · rename_i printable
        rw [List.mem_singleton.mp member]
        exact isAllowed_of_isPrintable printable
      · split at member
        · exact lead rfl member
        · split at member
          · exact lead rfl member
          · exact lead rfl member

theorem mem_indentLines {indent : Nat} {atStart : Bool} {text : List Char} {c : Char}
    (member : c ∈ indentLines indent atStart text) : c = ' ' ∨ c ∈ text := by
  induction text generalizing atStart with
  | nil => cases member
  | cons d text ih =>
      rw [indentLines] at member
      split at member
      · rcases List.mem_cons.mp member with rfl | member
        · exact .inr List.mem_cons_self
        · exact (ih member).imp_right (List.mem_cons_of_mem d)
      · rcases List.mem_append.mp member with space | member
        · split at space
          · exact .inl (List.eq_of_mem_replicate space)
          · cases space
        · rcases List.mem_cons.mp member with rfl | member
          · exact .inr List.mem_cons_self
          · exact (ih member).imp_right (List.mem_cons_of_mem d)

theorem isAllowed_of_mem_indentLines {indent : Nat} {atStart : Bool} {text : List Char}
    (allowed : ∀ c ∈ text, isAllowed c = true) :
    ∀ c ∈ indentLines indent atStart text, isAllowed c = true := by
  intro c member
  rcases mem_indentLines member with rfl | member
  · rfl
  · exact allowed c member

theorem isAllowed_of_mem_spaces {count : Nat} {c : Char} (member : c ∈ spaces count) :
    isAllowed c = true := by
  rw [List.eq_of_mem_replicate member]
  rfl

theorem isAllowed_of_mem_writeSingleQuoted {text : List Char} {indent : Nat}
    (single : SingleText text) : ∀ c ∈ writeSingleQuoted indent text, isAllowed c = true := by
  have doubledAllowed : ∀ c ∈ doubleQuotes text, isAllowed c = true := by
    intro c member
    obtain ⟨d, inText, written⟩ := List.mem_flatMap.mp member
    split at written
    · rw [List.eq_of_mem_replicate (n := 2) written]
      rfl
    · rw [List.mem_singleton.mp written]
      exact isAllowed_of_isPrintable (isPrintable_of_mem single.special inText)
  simp only [writeSingleQuoted, List.mem_cons, List.mem_append, List.not_mem_nil, or_false]
  rintro c (rfl | ((line | closing) | rfl))
  · rfl
  · exact isAllowed_of_mem_indentLines doubledAllowed c line
  · split at closing
    · exact isAllowed_of_mem_spaces closing
    · cases closing
  · rfl

theorem isAllowed_of_mem_writeDoubleQuoted {text : List Char} :
    ∀ c ∈ writeDoubleQuoted text, isAllowed c = true := by
  simp only [writeDoubleQuoted, List.mem_cons, List.mem_append, List.mem_flatMap,
    List.not_mem_nil, or_false]
  rintro c (rfl | ⟨d, _, member⟩ | rfl)
  · rfl
  · exact isAllowed_of_mem_escape member
  · rfl

theorem isAllowed_of_mem_writeLiteral {text : List Char} {indent : Nat}
    (literal : LiteralText text) : ∀ c ∈ writeLiteral indent text, isAllowed c = true := by
  have textAllowed : ∀ c ∈ text, isAllowed c = true :=
    fun c member => isAllowed_of_isPrintable (isPrintable_of_mem literal.special member)
  have header : ∀ c ∈ indentIndicator text ++ chompingIndicator text, isAllowed c = true := by
    intro c member
    rcases List.mem_append.mp member with increment | chomping
    · rw [indentIndicator] at increment
      split at increment
      · rw [List.mem_singleton.mp increment]
        rfl
      · cases increment
    · obtain ⟨_, _, _, signed, _⟩ := exists_chomping (List.ne_nil_of_mem literal.feed)
      exact signed.isAllowed_of_mem chomping
  simp only [writeLiteral, List.mem_cons, List.mem_append (s := _ ++ _)]
  rintro c (rfl | (first | (rfl | line)))
  · rfl
  · exact header c first
  · rfl
  · exact isAllowed_of_mem_indentLines textAllowed c line

/-- A scalar is written with the characters that a document may hold. -/
theorem Scalar.Presentable.isAllowed_of_mem_write {scalar : Scalar}
    (presentable : scalar.Presentable) (indent : Nat) :
    ∀ c ∈ scalar.write indent, isAllowed c = true := by
  cases presentable with
  | plain plain =>
      exact fun c member => isAllowed_of_isPrintable (isPrintable_of_mem plain.special member)
  | singleQuoted single => exact isAllowed_of_mem_writeSingleQuoted single
  | doubleQuoted => exact isAllowed_of_mem_writeDoubleQuoted
  | literal literal => exact isAllowed_of_mem_writeLiteral literal

end CognitiveKernel.Yaml
