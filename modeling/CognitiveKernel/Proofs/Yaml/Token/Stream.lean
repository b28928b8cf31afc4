/-
Module: CognitiveKernel.Proofs.Yaml.Token.Stream
Purpose: The signs of a block, written scalars and empty collections are scanned as their tokens.
Main exports: Opens, Passes.item, Passes.key, Passes.value, Passes.bareKey, reachesLine_scalar,
  reachesLine_brackets
-/
import CognitiveKernel.Proofs.Yaml.Presentation
import CognitiveKernel.Proofs.Yaml.Token.Scanner

namespace CognitiveKernel.Yaml.Scanner

variable {mark : Mark} {rest : List Char} {levels outer : List Nat} {keyAllowed : Bool}
  {tokens opened : List Token}

/-! ### Characters that begin a token -/

theorem isMarkerOf_of_ne {c first : Char} (other : first ≠ c) (rest : List Char) :
    isMarkerOf c (first :: rest) = false := by
  unfold isMarkerOf
  split
  · rename_i same
    simp_all
  · rfl

theorem step_item (scanner : Scanner) (rest : List Char) :
    scanner.step '-' (' ' :: rest) = scanner.stepItem (' ' :: rest) := by
  have notMarker : isMarkerOf '-' ('-' :: ' ' :: rest) = false := by
    cases rest <;> simp [isMarkerOf]
  have notEnd : isMarkerOf '.' ('-' :: ' ' :: rest) = false := isMarkerOf_of_ne (by decide) _
  simp [step, notMarker, notEnd, endsWord, isBlank]

theorem step_key (scanner : Scanner) (rest : List Char) :
    scanner.step '?' (' ' :: rest) = scanner.stepKey (' ' :: rest) := by
  have notMarker (c : Char) (other : '?' ≠ c) : isMarkerOf c ('?' :: ' ' :: rest) = false :=
    isMarkerOf_of_ne other _
  simp [step, notMarker, endsWord, isBlank]

theorem step_value (scanner : Scanner) (word : endsWord rest = true) :
    scanner.step ':' rest = scanner.stepValue rest := by
  have notMarker (c : Char) (other : ':' ≠ c) : isMarkerOf c (':' :: rest) = false :=
    isMarkerOf_of_ne other _
  simp [step, notMarker, word]

theorem step_opening (scanner : Scanner) (rest : List Char) :
    scanner.step '[' rest = scanner.stepOpening .flowSequenceStart rest ∧
      scanner.step '\x7b' rest = scanner.stepOpening .flowMappingStart rest := by
  have notMarker {first : Char} (c : Char) (other : first ≠ c) :
      isMarkerOf c (first :: rest) = false := isMarkerOf_of_ne other _
  constructor
  · simp [step, notMarker]
  · simp [step, notMarker]

theorem step_closing (scanner : Scanner) (rest : List Char) :
    scanner.step ']' rest = scanner.stepClosing .flowSequenceEnd rest ∧
      scanner.step '\x7d' rest = scanner.stepClosing .flowMappingEnd rest := by
  have notMarker {first : Char} (c : Char) (other : first ≠ c) :
      isMarkerOf c (first :: rest) = false := isMarkerOf_of_ne other _
  constructor
  · simp [step, notMarker]
  · simp [step, notMarker]

theorem step_literal {scanner : Scanner} (block : scanner.outer = []) (rest : List Char) :
    scanner.step '|' rest = scanner.stepBlockScalar .literal rest := by
  have notMarker (c : Char) (other : '|' ≠ c) : isMarkerOf c ('|' :: rest) = false :=
    isMarkerOf_of_ne other _
  simp [step, notMarker, inFlow, block]

theorem step_singleQuoted (scanner : Scanner) (rest : List Char) :
    scanner.step '\'' rest = scanner.stepQuoted .singleQuoted
      (scanSingleQuoted (scanner.cursor.mark.next '\'') .none rest) := by
  have notMarker (c : Char) (other : '\'' ≠ c) : isMarkerOf c ('\'' :: rest) = false :=
    isMarkerOf_of_ne other _
  simp [step, notMarker]

theorem step_doubleQuoted (scanner : Scanner) (rest : List Char) :
    scanner.step '"' rest = scanner.stepQuoted .doubleQuoted
      (scanDoubleQuoted (scanner.cursor.mark.next '"') (.text .none) rest) := by
  have notMarker (c : Char) (other : '"' ≠ c) : isMarkerOf c ('"' :: rest) = false :=
    isMarkerOf_of_ne other _
  simp [step, notMarker]

/-- What follows a scalar that may be a key: the colon behind it, or the end of its line. -/
def EndsScalar (rest : List Char) : Prop := rest.head? = some ':' ∨ rest.head? = some '\n'

theorem EndsScalar.exists_cons (ends : EndsScalar rest) :
    ∃ c more, rest = c :: more ∧ (c = ':' ∨ c = '\n') := by
  cases rest with
  | nil => rcases ends with none | none <;> cases none
  | cons c more =>
      refine ⟨c, more, rfl, ?_⟩
      rcases ends with colon | feed
      · exact .inl (Option.some.inj colon)
      · exact .inr (Option.some.inj feed)

/-- A plain scalar does not begin with three signs of a marker, whatever follows it. -/
theorem isMarkerOf_append {c : Char} {text : List Char} (sign : c = '-' ∨ c = '.')
    (nonempty : text ≠ []) (start : [c, c, c].isPrefixOf text = false) (ends : EndsScalar rest) :
    isMarkerOf c (text ++ rest) = false := by
  obtain ⟨d, more, rfl, colonOrFeed⟩ := ends.exists_cons
  have other : d ≠ c := by
    rcases sign with rfl | rfl <;> rcases colonOrFeed with rfl | rfl <;> decide
  match text with
  | [] => exact absurd rfl nonempty
  | [first] => cases more <;> simp [isMarkerOf, other]
  | [first, second] => simp [isMarkerOf, other]
  | first :: second :: third :: text =>
      have differs : ¬(first = c ∧ second = c ∧ third = c) := by
        rintro ⟨rfl, rfl, rfl⟩
        simp [List.isPrefixOf] at start
      simp only [List.cons_append, isMarkerOf, Bool.and_eq_false_iff, decide_eq_false_iff_not]
      by_cases one : first = c
      · by_cases two : second = c
        · exact .inl (.inr fun three => differs ⟨one, two, three⟩)
        · exact .inl (.inl (.inr two))
      · exact .inl (.inl (.inl one))

/-- A hyphen, a question mark or a colon at the beginning of a plain scalar is part of a word. -/
theorem endsWord_of_plain {c : Char} {text : List Char} (plain : PlainText (c :: text))
    (sign : c = '-' ∨ c = '?' ∨ c = ':') (rest : List Char) : endsWord (text ++ rest) = false := by
  have start := plain.start
  simp only [startsWithIndicator, Bool.or_eq_false_iff] at start
  have adjacent : endsWord text = false := by
    rcases sign with rfl | rfl | rfl <;> simpa using start.1.1.2
  have nonempty : text ≠ [] := by
    rintro rfl
    cases adjacent
  rw [endsWord_append nonempty, adjacent]

/-- A plain scalar begins with no sign that means something else. -/
theorem startsPlain_of_plain {c : Char} {text : List Char} (plain : PlainText (c :: text))
    (rest : List Char) : startsPlain false (c :: (text ++ rest)) = true := by
  obtain ⟨notBlank, inside, _⟩ := plain.solid rest c rfl
  by_cases sign : c = '-' ∨ c = '?' ∨ c = ':'
  · have word := endsWord_of_plain plain sign rest
    have notBlankNext : (text ++ rest).head?.any isBlank = false := by
      cases following : text ++ rest with
      | nil => rfl
      | cons d more =>
          rw [following, endsWord, Bool.or_eq_false_iff] at word
          exact word.1
    rcases sign with rfl | rfl | rfl
    · rw [startsPlain, notBlankNext]
      simp
    · simp [startsPlain, word]
    · simp [startsPlain, word]
  · have start := plain.start
    simp only [startsWithIndicator, isLeadingIndicator, Bool.or_eq_false_iff] at start
    simp only [not_or] at sign
    simp only [startsPlain, isIndicator, inside, notBlank, sign, start, decide_false, Bool.or_self,
      Bool.not_false, Bool.true_or]

theorem step_plain {scanner : Scanner} {c : Char} {text : List Char} (plain : PlainText (c :: text))
    (block : scanner.outer = []) (ends : EndsScalar rest) :
    scanner.step c (text ++ rest) = scanner.stepScalar .plain
      (scanPlain false scanner.floor scanner.cursor.mark .none (c :: (text ++ rest))) := by
  have starts := startsPlain_of_plain plain rest
  have signs (sign : c = '-' ∨ c = '?' ∨ c = ':') := endsWord_of_plain plain sign rest
  have start := plain.start
  simp only [startsWithIndicator, Bool.or_eq_false_iff] at start
  obtain ⟨⟨⟨leading, _⟩, hyphens⟩, points⟩ := start
  have notBegin : isMarkerOf '-' (c :: (text ++ rest)) = false :=
    isMarkerOf_append (.inl rfl) (List.cons_ne_nil c text) hyphens ends
  have notEnd : isMarkerOf '.' (c :: (text ++ rest)) = false :=
    isMarkerOf_append (.inr rfl) (List.cons_ne_nil c text) points ends
  have notItem : ¬(c = '-' ∧ endsWord (text ++ rest) = true) := by
    rintro ⟨hyphen, word⟩
    rw [signs (.inl hyphen)] at word
    cases word
  have notKey : ¬(c = '?' ∧ endsWord (text ++ rest) = true) := by
    rintro ⟨question, word⟩
    rw [signs (.inr (.inl question))] at word
    cases word
  have notValue : ¬(c = ':' ∧ endsWord (text ++ rest) = true) := by
    rintro ⟨colon, word⟩
    rw [signs (.inr (.inr colon))] at word
    cases word
  simp only [isLeadingIndicator, isFlowIndicator, Bool.or_eq_false_iff,
    decide_eq_false_iff_not] at leading
  simp [step, notBegin, notEnd, leading, inFlow, block, notItem, notKey, notValue, starts]

/-! ### Signs of a block -/

/-- What becomes of the levels and the tokens where an item or an entry stands at a column: a
collection goes on, or a deeper one begins there. -/
inductive Opens (opening : Token) (column : Nat) :
    List Nat → List Token → List Nat → List Token → Prop
  | goesOn {outer : List Nat} {tokens : List Token} :
      Opens opening column (column :: outer) tokens outer tokens
  | begins {outer : List Nat} {tokens : List Token}
      (deeper : ∀ level ∈ outer.head?, level < column) :
      Opens opening column outer tokens outer (opening :: tokens)

namespace Opens

variable {opening : Token} {column : Nat}

theorem le_column (opens : Opens opening column levels tokens outer opened) :
    ∀ level ∈ levels.head?, level ≤ column := by
  cases opens with
  | goesOn =>
      rintro level ⟨⟩
      exact Nat.le_refl column
  | begins deeper => exact fun level innermost => Nat.le_of_lt (deeper level innermost)

theorem isDeeper_eq_true {cursor : Cursor} {candidate : Option Candidate}
    (deeper : ∀ level ∈ levels.head?, level < column) :
    isDeeper ⟨cursor, levels, candidate, [], keyAllowed, tokens⟩ column = true := by
  cases levels with
  | nil => simp [isDeeper, inFlow, floor]
  | cons level levels =>
      have innermost : level + 1 ≤ column := deeper level rfl
      simp [isDeeper, inFlow, floor, innermost]

theorem isDeeper_eq_false {cursor : Cursor} {candidate : Option Candidate} :
    isDeeper ⟨cursor, column :: levels, candidate, [], keyAllowed, tokens⟩ column = false := by
  simp [isDeeper, inFlow, floor]

theorem openBlock (opens : Opens opening mark.column levels tokens outer opened) :
    (inBlock ⟨mark, rest⟩ levels keyAllowed tokens).openBlock opening =
      inBlock ⟨mark, rest⟩ (mark.column :: outer) keyAllowed opened := by
  cases opens with
  | goesOn => exact if_neg (by rw [inBlock, Scanner.column, isDeeper_eq_false]; decide)
  | begins deeper => exact if_pos (isDeeper_eq_true deeper)

end Opens

theorem stepItem_inBlock {c : Char}
    (opens : Opens .blockSequenceStart mark.column levels tokens outer opened) :
    (inBlock ⟨mark, c :: rest⟩ levels true tokens).stepItem rest =
      some (inBlock ⟨mark.next c, rest⟩ (mark.column :: outer) true (.blockEntry :: opened)) := by
  rw [stepItem, opens.openBlock]
  simp [inBlock, withoutCandidate, dropCandidate, emit, Scanner.moveTo, Cursor.moveTo_tail]

theorem stepKey_inBlock {c : Char}
    (opens : Opens .blockMappingStart mark.column levels tokens outer opened) :
    (inBlock ⟨mark, c :: rest⟩ levels true tokens).stepKey rest =
      some (inBlock ⟨mark.next c, rest⟩ (mark.column :: outer) true (.key :: opened)) := by
  rw [stepKey, opens.openBlock]
  simp [inBlock, inFlow, withoutCandidate, dropCandidate, emit, Scanner.moveTo, Cursor.moveTo_tail]

theorem stepValue_inBlock {c : Char} :
    (inBlock ⟨mark, c :: rest⟩ (mark.column :: outer) true tokens).stepValue rest =
      some (inBlock ⟨mark.next c, rest⟩ (mark.column :: outer) true (.value :: tokens)) := by
  have goesOn : Opens .blockMappingStart mark.column (mark.column :: outer) tokens outer tokens :=
    .goesOn
  have noCandidate :
      (inBlock ⟨mark, c :: rest⟩ (mark.column :: outer) true tokens).candidate = none := rfl
  rw [stepValue, noCandidate]
  simp only [goesOn.openBlock]
  simp [inBlock, inFlow, emit, Scanner.moveTo, Cursor.moveTo_tail]

/-- A sign that stands alone is passed together with the space behind it. -/
theorem Passes.of_sign {c : Char} {token : Token}
    (visible : isBlank c = false ∧ isBreak c = false ∧ c ≠ '#' ∧ c ≠ byteOrderMark)
    (deep : ∀ level ∈ levels.head?, level ≤ mark.column)
    (step : (inBlock ⟨mark, c :: ' ' :: rest⟩ levels true tokens).step c (' ' :: rest) =
      some (inBlock ⟨mark.next c, ' ' :: rest⟩ (mark.column :: outer) true (token :: opened))) :
    Passes (inBlock ⟨mark, c :: ' ' :: rest⟩ levels true tokens)
      (inBlock ⟨(mark.next c).next ' ', rest⟩ (mark.column :: outer) true (token :: opened)) := by
  refine .of_step (toNextToken_solid (solid_cons visible _) deep) step (toNextToken_spaces 1) ?_
  simp only [inBlock, List.length_cons]
  omega

/-- The hyphen before an item. -/
theorem Passes.item (opens : Opens .blockSequenceStart mark.column levels tokens outer opened) :
    Passes (inBlock ⟨mark, '-' :: ' ' :: rest⟩ levels true tokens)
      (inBlock ⟨(mark.next '-').next ' ', rest⟩ (mark.column :: outer) true
        (.blockEntry :: opened)) := by
  refine .of_sign (by decide) opens.le_column ?_
  rw [step_item, stepItem_inBlock opens]

/-- The question mark before a key. -/
theorem Passes.key (opens : Opens .blockMappingStart mark.column levels tokens outer opened) :
    Passes (inBlock ⟨mark, '?' :: ' ' :: rest⟩ levels true tokens)
      (inBlock ⟨(mark.next '?').next ' ', rest⟩ (mark.column :: outer) true (.key :: opened)) := by
  refine .of_sign (by decide) opens.le_column ?_
  rw [step_key, stepKey_inBlock opens]

/-- The colon before the value of such a key. -/
theorem Passes.value {column : Nat} (aligned : mark.column = column) :
    Passes (inBlock ⟨mark, ':' :: ' ' :: rest⟩ (column :: outer) true tokens)
      (inBlock ⟨(mark.next ':').next ' ', rest⟩ (column :: outer) true (.value :: tokens)) := by
  subst aligned
  refine .of_sign (by decide) ?_ ?_
  · rintro level ⟨⟩
    exact Nat.le_refl _
  · rw [step_value _ (by rfl), stepValue_inBlock]

/-! ### Candidates -/

/-- What may turn out to be a key at a position, if one is allowed there. -/
def candidateAt (mark : Mark) (levels : List Nat) (keyAllowed : Bool) (tokens : List Token) :
    Option Candidate :=
  if keyAllowed then some ⟨levels.head? = some mark.column, tokens.length, mark⟩ else none

theorem withCandidate_inBlock :
    (inBlock ⟨mark, rest⟩ levels keyAllowed tokens).withCandidate =
      some ⟨⟨mark, rest⟩, levels, candidateAt mark levels keyAllowed tokens, [], keyAllowed,
        tokens⟩ := by
  cases keyAllowed <;> rfl

/-- A candidate lapses at the end of its line, unless nothing else may stand at its column. -/
theorem expireCandidate_later {behind : Mark} (optional : levels.head? ≠ some mark.column)
    (later : mark.line < behind.line) :
    expireCandidate behind (candidateAt mark levels keyAllowed tokens) = some none := by
  have otherLine : mark.line ≠ behind.line := Nat.ne_of_lt later
  cases keyAllowed with
  | true =>
      simp [expireCandidate, candidateAt, Candidate.reaches, otherLine, dropCandidate, optional]
  | false => simp [expireCandidate, candidateAt]

/-- A candidate is kept as far as a key may extend. -/
theorem expireCandidate_near {behind : Mark} (sameLine : behind.line = mark.line)
    (near : behind.offset ≤ mark.offset + longestKey) :
    expireCandidate behind (candidateAt mark levels keyAllowed tokens) =
      some (candidateAt mark levels keyAllowed tokens) := by
  cases keyAllowed with
  | true => simp [expireCandidate, candidateAt, Candidate.reaches, sameLine, near]
  | false => simp [expireCandidate, candidateAt]

theorem insertTokens_length (inserted : List Token) (token : Token) :
    insertTokens tokens.length inserted (token :: tokens) = token :: (inserted ++ tokens) := by
  simp [insertTokens]

/-- A candidate becomes the key of an entry. -/
theorem Opens.resolveCandidate {cursor : Cursor} {candidate : Option Candidate} {required : Bool}
    {token : Token} (opens : Opens .blockMappingStart mark.column levels tokens outer opened) :
    Scanner.resolveCandidate ⟨cursor, levels, candidate, [], keyAllowed, token :: tokens⟩
        ⟨required, tokens.length, mark⟩ =
      inBlock cursor (mark.column :: outer) false (token :: .key :: opened) := by
  cases opens with
  | goesOn => simp [Scanner.resolveCandidate, isDeeper_eq_false, insertTokens_length, inBlock]
  | begins deeper =>
      simp [Scanner.resolveCandidate, isDeeper_eq_true deeper, insertTokens_length, inBlock]

/-! ### Scalars -/

theorem stepScalar_inBlock {style : ScalarStyle} {text : List Char} {passedBreak : Bool}
    {behind : Cursor} :
    (inBlock ⟨mark, rest⟩ levels keyAllowed tokens).stepScalar style
        (some (text, passedBreak, behind)) =
      some ⟨behind, levels, candidateAt mark levels keyAllowed tokens, [], passedBreak,
        .scalar (String.ofList text) style :: tokens⟩ := by
  simp [stepScalar, withCandidate_inBlock]

theorem stepQuoted_inBlock {style : ScalarStyle} {text : String} {behind : Cursor} :
    (inBlock ⟨mark, rest⟩ levels keyAllowed tokens).stepQuoted style (some (text.toList, behind)) =
      some ⟨behind, levels, candidateAt mark levels keyAllowed tokens, [], false,
        .scalar text style :: tokens⟩ := by
  rw [stepQuoted, Option.map_some, stepScalar_inBlock, String.ofList_toList]

theorem stepBlockScalar_inBlock {c : Char} {text : String} {behind : Cursor}
    (scanned : scanBlock true (inBlock ⟨mark, c :: rest⟩ levels keyAllowed tokens).floor
      ⟨mark.next c, rest⟩ = some (text.toList, behind)) :
    (inBlock ⟨mark, c :: rest⟩ levels keyAllowed tokens).stepBlockScalar .literal rest =
      some (inBlock behind levels true (.scalar text .literal :: tokens)) := by
  have moved : (inBlock ⟨mark, c :: rest⟩ levels keyAllowed tokens).cursor.moveTo rest =
      ⟨mark.next c, rest⟩ := Cursor.moveTo_tail
  have kept : (inBlock ⟨mark, c :: rest⟩ levels keyAllowed tokens).withoutCandidate =
      some (inBlock ⟨mark, c :: rest⟩ levels keyAllowed tokens) := rfl
  simp only [stepBlockScalar, kept, bind, Option.bind_some, decide_true, moved, scanned]
  rw [String.ofList_toList]
  rfl

theorem stepNext_plain {text : List Char} (plain : PlainText text) (ends : EndsScalar rest) :
    (inBlock ⟨mark, text ++ rest⟩ levels keyAllowed tokens).stepNext =
      (inBlock ⟨mark, text ++ rest⟩ levels keyAllowed tokens).stepScalar .plain
        (scanPlain false (inBlock ⟨mark, text ++ rest⟩ levels keyAllowed tokens).floor mark .none
          (text ++ rest)) := by
  obtain ⟨c, more, rfl⟩ := List.exists_cons_of_ne_nil plain.nonempty
  exact step_plain plain rfl ends

/-- A scalar in quotes is scanned to its closing quote. -/
theorem stepNext_quoted {scalar : Scalar} (presentable : scalar.Presentable)
    (quoted : scalar.style = .singleQuoted ∨ scalar.style = .doubleQuoted) {indent : Nat}
    (indented : 0 < indent) (ends : EndsScalar rest) :
    (inBlock ⟨mark, scalar.write indent ++ rest⟩ levels keyAllowed tokens).stepNext =
      some ⟨⟨mark.past (scalar.write indent), rest⟩, levels,
        candidateAt mark levels keyAllowed tokens, [], false,
        .scalar scalar.text scalar.style :: tokens⟩ := by
  cases presentable with
  | plain => rcases quoted with none | none <;> cases none
  | @singleQuoted text single =>
      have other : rest.head? ≠ some '\'' := by
        rcases ends with colon | feed
        · rw [colon]
          decide
        · rw [feed]
          decide
      have scanned := @scanSingleQuoted_write mark text.toList rest indent indented single other
      exact ((step_singleQuoted _ _).trans (congrArg (stepQuoted _ _) scanned)).trans
        stepQuoted_inBlock
  | @doubleQuoted text =>
      have started : 0 < (mark.next '"').column := Nat.succ_pos _
      have written : Scalar.write indent ⟨.doubleQuoted, text⟩ ++ rest =
          '"' :: (text.toList.flatMap escape ++ '"' :: rest) := by
        simp [Scalar.write, writeDoubleQuoted]
      rw [written]
      exact ((step_doubleQuoted _ _).trans (congrArg (stepQuoted _ _)
        (scanDoubleQuoted_write started text.toList rest))).trans stepQuoted_inBlock
  | literal => rcases quoted with none | none <;> cases none

/-- A key that is not marked is scanned up to the colon behind it. -/
theorem stepNext_bareKey {key : Scalar} (presentable : key.Presentable)
    (bare : key.isBareKey = true) {indent : Nat} (indented : 0 < indent)
    (deep : ∀ level ∈ levels.head?, level ≤ mark.column) (word : endsWord rest = true) :
    (inBlock ⟨mark, key.write indent ++ ':' :: rest⟩ levels keyAllowed tokens).stepNext =
      some ⟨⟨mark.past (key.write indent), ':' :: rest⟩, levels,
        candidateAt mark levels keyAllowed tokens, [], false,
        .scalar key.text key.style :: tokens⟩ := by
  cases presentable with
  | @plain text plain =>
      have floor : (inBlock ⟨mark, text.toList ++ ':' :: rest⟩ levels keyAllowed tokens).floor ≤
          mark.column + 1 := by
        cases levels with
        | nil => exact Nat.zero_le _
        | cons level levels => exact Nat.succ_le_succ (deep level rfl)
      have scanned := scanPlain_colon plain floor word
      have step := (stepNext_plain plain (.inl rfl)).trans (congrArg (stepScalar _ _) scanned)
      rw [stepScalar_inBlock, String.ofList_toList] at step
      exact step
  | singleQuoted single =>
      exact stepNext_quoted (.singleQuoted single) (.inl rfl) indented (.inl rfl)
  | doubleQuoted => exact stepNext_quoted .doubleQuoted (.inr rfl) indented (.inl rfl)
  | @literal text literal =>
      have broken : text.toList.any isBreak = true :=
        List.any_eq_true.mpr ⟨'\n', literal.feed, rfl⟩
      simp [Scalar.isBareKey, broken] at bare

/-- A key that is not marked, with the colon behind it. -/
theorem Passes.bareKey {key : Scalar} (presentable : key.Presentable)
    (bare : key.isBareKey = true) {indent : Nat} (indented : 0 < indent)
    (opens : Opens .blockMappingStart mark.column levels tokens outer opened)
    (word : endsWord rest = true) :
    Passes (inBlock ⟨mark, key.write indent ++ ':' :: rest⟩ levels true tokens)
      (inBlock ⟨(mark.past (key.write indent)).next ':', rest⟩ (mark.column :: outer) false
        (.value :: .scalar key.text key.style :: .key :: opened)) := by
  obtain ⟨inside, short⟩ := presentable.write_of_isBareKey bare indent
  have behind : mark.column ≤ (mark.past (key.write indent)).column := by
    rw [Mark.column_past inside]
    exact Nat.le_add_right _ _
  have near : (mark.past (key.write indent)).offset ≤ mark.offset + longestKey := by
    rw [Mark.offset_past]
    exact Nat.add_le_add_left (Nat.le_trans short (by decide)) _
  have solid : Solid (':' :: rest) := solid_cons (by decide) rest
  have written : 0 < (key.write indent).length := by
    obtain ⟨c, more, first⟩ := presentable.exists_write_eq_cons indent
    rw [first]
    exact Nat.succ_pos _
  -- Behind the key it is not known yet that it is one.
  have scanned := @stepNext_bareKey mark rest levels true tokens key presentable bare indent
    indented opens.le_column word
  refine (Passes.of_step (toNextToken_solid (presentable.solid_write indent _) opens.le_column)
    scanned rfl ?_).trans (.of_step ?_ ?_ rfl ?_)
  · simp only [inBlock, List.length_append, List.length_cons]
    omega
  · rw [toNextToken_of_skip (skipToToken_solid false solid)
      (expireCandidate_near (Mark.line_past inside) near),
      closeDeeper_of_le fun level innermost =>
        Nat.le_trans (opens.le_column level innermost) behind]
  · refine (step_value _ word).trans ?_
    refine (congrArg (fun resolved => some ((emit resolved .value).moveTo rest))
      opens.resolveCandidate).trans ?_
    simp [inBlock, emit, Scanner.moveTo, Cursor.moveTo_tail]
  · simp [inBlock]

/-! ### Ends of lines -/

/-- A token is passed up to the next line, where what may have been a key is forgotten. -/
theorem ReachesLine.of_step {before : Scanner} {behind : Cursor} {line : Mark}
    {candidate : Option Candidate} {passedBreak : Bool} {count : Nat} {token : Token}
    (next : before.toNextToken = some before)
    (step : before.stepNext =
      some ⟨behind, levels, candidate, [], passedBreak, token :: tokens⟩)
    (first : line.column = 0)
    (skip : skipToToken false passedBreak false behind.mark behind.rest =
      (true, ⟨line.past (spaces count), rest⟩))
    (solid : Solid rest)
    (expire : expireCandidate (line.past (spaces count)) candidate = some none)
    (shorter : (spaces count ++ rest).length < before.cursor.rest.length) :
    ReachesLine before (spaces count ++ rest) levels (token :: tokens) := by
  refine ⟨line, first, .of_step next step ?_ shorter⟩
  rw [toNextToken_of_skip skip expire, toNextToken_spaces,
    toNextToken_inBlock (skipToToken_solid false solid)]
  rfl

/-- What a scalar on one line or several leads to, given its scan. -/
theorem ReachesLine.of_scalar {written : List Char} {scalar : Scalar} {behind : Cursor}
    {passedBreak : Bool} {level count : Nat} (inside : level < mark.column)
    (begins : Solid (written ++ '\n' :: (spaces count ++ rest)))
    (step : (inBlock ⟨mark, written ++ '\n' :: (spaces count ++ rest)⟩ (level :: outer) keyAllowed
        tokens).stepNext =
      some ⟨behind, level :: outer, candidateAt mark (level :: outer) keyAllowed tokens, [],
        passedBreak, .scalar scalar.text scalar.style :: tokens⟩)
    (skip : skipToToken false passedBreak false behind.mark behind.rest =
      (true, ⟨mark.past (written ++ '\n' :: spaces count), rest⟩))
    (solid : Solid rest) :
    ReachesLine
      (inBlock ⟨mark, written ++ '\n' :: (spaces count ++ rest)⟩ (level :: outer) keyAllowed tokens)
      (spaces count ++ rest) (level :: outer) (.scalar scalar.text scalar.style :: tokens) := by
  have optional : (level :: outer).head? ≠ some mark.column := by
    rintro ⟨⟩
    exact Nat.lt_irrefl _ inside
  have deep : ∀ innermost ∈ (level :: outer).head?, innermost ≤ mark.column := by
    rintro innermost ⟨⟩
    exact Nat.le_of_lt inside
  have split : mark.past (written ++ '\n' :: spaces count) =
      (mark.past (written ++ ['\n'])).past (spaces count) := by
    rw [← Mark.past_append, List.append_assoc, List.singleton_append]
  have later : mark.line < (mark.past (written ++ '\n' :: spaces count)).line :=
    Mark.line_lt_past (c := '\n') (by simp) (by decide)
  rw [split] at skip later
  refine .of_step (toNextToken_solid begins deep) step
    (Mark.column_past_append_break (by decide)) skip solid
    (expireCandidate_later optional later) ?_
  simp only [inBlock, List.length_append, List.length_cons]
  omega

/-- A literal block ends at the beginning of the first line that is indented less. -/
theorem reachesLine_literal {text : String} (literal : LiteralText text.toList) {level count : Nat}
    (inside : level < mark.column) (less : count ≤ level) (solid : Solid rest) :
    ReachesLine
      (inBlock ⟨mark, Scalar.writeLine (level + 2) ⟨.literal, text⟩ ++ (spaces count ++ rest)⟩
        (level :: outer) keyAllowed tokens)
      (spaces count ++ rest) (level :: outer) (.scalar text .literal :: tokens) := by
  have nonempty : text.toList ≠ [] := List.ne_nil_of_mem literal.feed
  have scanned :=
    @scanBlock_write (mark.next '|') text.toList rest level count literal less solid
  have deep : ∀ innermost ∈ (level :: outer).head?, innermost ≤ mark.column := by
    rintro innermost ⟨⟩
    exact Nat.le_of_lt inside
  have lines : Scalar.writeLine (level + 2) ⟨.literal, text⟩ ++ (spaces count ++ rest) =
      '|' :: ((writeLiteral (level + 2) text.toList).tail ++
        (lineEnd text.toList ++ spaces count) ++ rest) := by
    simp [Scalar.writeLine, Scalar.isBlock, Scalar.write, lineEnd, writeLiteral]
  have line : (mark.next '|').past ((writeLiteral (level + 2) text.toList).tail ++
        (lineEnd text.toList ++ spaces count)) =
      (mark.past (writeLiteral (level + 2) text.toList ++ lineEnd text.toList)).past
        (spaces count) := by
    rw [← Mark.past_cons_of_not_break (by decide), ← Mark.past_append, List.append_assoc]
    rfl
  obtain ⟨before, last, kind, ends⟩ := exists_writeLiteral_end (level + 2) nonempty
  dsimp only at scanned
  rw [line] at scanned
  rw [lines]
  refine .of_step (toNextToken_solid (solid_cons (by decide) _) deep)
    ((step_literal rfl _).trans (stepBlockScalar_inBlock scanned)) ?_
    (skipToToken_solid false solid) solid rfl ?_
  · rw [ends]
    exact Mark.column_past_append_break kind
  · simp [inBlock]
    omega

/-- A scalar is scanned up to the beginning of the next line, which is indented less. -/
theorem reachesLine_scalar {scalar : Scalar} (presentable : scalar.Presentable) {level count : Nat}
    (inside : level < mark.column) (less : count ≤ level) (solid : Solid rest) :
    ReachesLine
      (inBlock ⟨mark, scalar.writeLine (level + 2) ++ (spaces count ++ rest)⟩ (level :: outer)
        keyAllowed tokens)
      (spaces count ++ rest) (level :: outer) (.scalar scalar.text scalar.style :: tokens) := by
  have begins := presentable.solid_write (level + 2)
  -- Scalars that are not blocks end at a line feed of their own.
  have inline (notBlock : scalar.isBlock = false) :
      scalar.writeLine (level + 2) ++ (spaces count ++ rest) =
        scalar.write (level + 2) ++ '\n' :: (spaces count ++ rest) := by
    simp [Scalar.writeLine, notBlock]
  have quoted (style : scalar.style = .singleQuoted ∨ scalar.style = .doubleQuoted)
      (notBlock : scalar.isBlock = false) :
      ReachesLine
        (inBlock ⟨mark, scalar.writeLine (level + 2) ++ (spaces count ++ rest)⟩ (level :: outer)
          keyAllowed tokens)
        (spaces count ++ rest) (level :: outer) (.scalar scalar.text scalar.style :: tokens) := by
    rw [inline notBlock]
    refine .of_scalar inside (begins _)
      (stepNext_quoted presentable style (Nat.succ_pos _) (.inr rfl)) ?_ solid
    rw [skipToToken_newLine, skipToToken_spaces, skipToToken_solid false solid]
    simp [Mark.past_cons_of_break (c := '\n') (by decide)]
  cases presentable with
  | @plain text plain =>
      have deep : level + 1 ≤ mark.column + 1 := by omega
      have scanned := scanPlain_newLine plain deep (Nat.lt_succ_of_le less) solid
      have next := @stepNext_plain mark ('\n' :: (spaces count ++ rest)) (level :: outer) keyAllowed
        tokens text.toList plain (.inr rfl)
      have step := next.trans (congrArg (stepScalar _ _) scanned)
      rw [stepScalar_inBlock, String.ofList_toList] at step
      rw [inline rfl]
      exact .of_scalar inside (begins _) step (skipToToken_solid false solid) solid
  | singleQuoted => exact quoted (.inl rfl) rfl
  | doubleQuoted => exact quoted (.inr rfl) rfl
  | literal literal => exact reachesLine_literal literal inside less solid

/-! ### Empty collections -/

/-- A scan between the brackets of a flow collection that stands in a block. -/
def inBrackets (cursor : Cursor) (levels : List Nat) (candidate : Option Candidate)
    (tokens : List Token) : Scanner :=
  { cursor := cursor
    levels := levels
    candidate := none
    outer := [candidate]
    keyAllowed := true
    tokens := tokens }

theorem stepOpening_inBlock {c : Char} {opening : Token} :
    (inBlock ⟨mark, c :: rest⟩ levels keyAllowed tokens).stepOpening opening rest =
      some (inBrackets ⟨mark.next c, rest⟩ levels (candidateAt mark levels keyAllowed tokens)
        (opening :: tokens)) := by
  simp [stepOpening, withCandidate_inBlock, emit, Scanner.moveTo, Cursor.moveTo_tail, inBrackets]

theorem stepClosing_inBrackets {c : Char} {closing : Token} {candidate : Option Candidate} :
    (inBrackets ⟨mark, c :: rest⟩ levels candidate tokens).stepClosing closing rest =
      some ⟨⟨mark.next c, rest⟩, levels, candidate, [], false, closing :: tokens⟩ := by
  simp [stepClosing, withoutCandidate, dropCandidate, inBrackets, emit, Scanner.moveTo,
    Cursor.moveTo_tail]

theorem toNextToken_inBrackets {candidate : Option Candidate} (solid : Solid rest)
    (expire : expireCandidate mark candidate = some candidate) :
    (inBrackets ⟨mark, rest⟩ levels candidate tokens).toNextToken =
      some (inBrackets ⟨mark, rest⟩ levels candidate tokens) := by
  have skip := @skipToToken_solid mark rest true true solid
  have none : expireCandidate mark none = some none := rfl
  simp [toNextToken, inBrackets, inFlow, skip, expireCandidates, expire, none, closeDeeper]

/-- The brackets of an empty collection are two tokens. -/
theorem reachesLine_brackets {first last : Char} {opening closing : Token} {level count : Nat}
    (visible : ∀ c ∈ [first, last],
      isBlank c = false ∧ isBreak c = false ∧ c ≠ '#' ∧ c ≠ byteOrderMark)
    (opens : ∀ scanner rest, step scanner first rest = scanner.stepOpening opening rest)
    (closes : ∀ scanner rest, step scanner last rest = scanner.stepClosing closing rest)
    (inside : level < mark.column) (solid : Solid rest) :
    ReachesLine
      (inBlock ⟨mark, first :: last :: '\n' :: (spaces count ++ rest)⟩ (level :: outer) keyAllowed
        tokens)
      (spaces count ++ rest) (level :: outer) (closing :: opening :: tokens) := by
  have deep : ∀ innermost ∈ (level :: outer).head?, innermost ≤ mark.column := by
    rintro innermost ⟨⟩
    exact Nat.le_of_lt inside
  have optional : (level :: outer).head? ≠ some mark.column := by
    rintro ⟨⟩
    exact Nat.lt_irrefl _ inside
  have near : (mark.next first).offset ≤ mark.offset + longestKey :=
    Nat.add_le_add_left (Nat.le_trans first.utf8Size_le_four (by decide)) _
  have solidFirst := solid_cons (visible first List.mem_cons_self)
  have solidLast := solid_cons (visible last (List.mem_cons_of_mem first List.mem_cons_self))
  have skip : skipToToken false false false ((mark.next first).next last)
      ('\n' :: (spaces count ++ rest)) =
      (true, ⟨(((mark.next first).next last).newLine ['\n']).past (spaces count), rest⟩) := by
    rw [skipToToken_newLine, skipToToken_spaces, skipToToken_solid false solid]
  have opened : Passes
      (inBlock ⟨mark, first :: last :: '\n' :: (spaces count ++ rest)⟩ (level :: outer) keyAllowed
        tokens)
      (inBrackets ⟨mark.next first, last :: '\n' :: (spaces count ++ rest)⟩ (level :: outer)
        (candidateAt mark (level :: outer) keyAllowed tokens) (opening :: tokens)) :=
    .of_step (toNextToken_solid (solidFirst _) deep) ((opens _ _).trans stepOpening_inBlock) rfl
      (by simp [inBlock, inBrackets])
  have closed := (closes (inBrackets ⟨mark.next first, last :: '\n' :: (spaces count ++ rest)⟩
    (level :: outer) (candidateAt mark (level :: outer) keyAllowed tokens) (opening :: tokens))
    ('\n' :: (spaces count ++ rest))).trans stepClosing_inBrackets
  apply ReachesLine.of_passes opened
  refine .of_step (toNextToken_inBrackets (solidLast _) (expireCandidate_near rfl near)) closed rfl
    skip solid (expireCandidate_later optional ?_) ?_
  · exact Mark.line_le_past (((mark.next first).next last).newLine ['\n']) (spaces count)
  · simp only [inBrackets, List.length_cons, List.length_append]
    omega

end CognitiveKernel.Yaml.Scanner
