/-
Module: CognitiveKernel.Proofs.Json.Literal
Purpose: Which text a literal denotes, whichever way its characters are spelled.
Main exports: Json.CharSpelling, Json.RowSpelling, Json.readText_eq_some_iff, Json.TextDocument,
  Json.parse?_eq_text_iff
-/
import CognitiveKernel.Json.Reading
import Mathlib.Data.List.TakeWhile

namespace CognitiveKernel.Json

open Hexadecimal (LetterCase)

/-!
A character of a text can stand in its literal as it is, behind a backslash, by its number, or, far
enough up, by the two halves of a surrogate pair. The spellings are said here without the reader,
which is then shown to accept these and no others.
-/

/-! ### Spellings -/

/-- Four hexadecimal digits, each in either case, spell a number. -/
inductive UnitSpelling : Nat → List Char → Prop where
  | digits {a b c d : Nat} (bounds : a < 16 ∧ b < 16 ∧ c < 16 ∧ d < 16)
      (first second third fourth : LetterCase) :
      UnitSpelling (4096 * a + 256 * b + 16 * c + d)
        [Hexadecimal.digit first a, Hexadecimal.digit second b, Hexadecimal.digit third c,
          Hexadecimal.digit fourth d]

/-- The ways in which a character can be spelled. -/
inductive CharSpelling : Char → List Char → Prop where
  | plain {c : Char} (notQuote : c ≠ '"') (notBackslash : c ≠ '\\') (visible : 0x20 ≤ c.toNat) :
      CharSpelling c [c]
  | escape {letter c : Char} (stands : escape? letter = some c) : CharSpelling c ['\\', letter]
  | unit {c : Char} {digits : List Char} (spelled : UnitSpelling c.toNat digits) :
      CharSpelling c ('\\' :: 'u' :: digits)
  | pair {c : Char} {high low : Nat} {highDigits lowDigits : List Char}
      (highSpelled : UnitSpelling high highDigits) (lowSpelled : UnitSpelling low lowDigits)
      (highRange : 0xD800 ≤ high ∧ high < 0xDC00) (lowRange : 0xDC00 ≤ low ∧ low < 0xE000)
      (code : c.toNat = 0x10000 + 1024 * (high - 0xD800) + (low - 0xDC00)) :
      CharSpelling c ('\\' :: 'u' :: highDigits ++ '\\' :: 'u' :: lowDigits)

/-- The ways in which what the reader takes for one piece can be spelled. -/
inductive PieceSpelling : Piece → List Char → Prop where
  | plain {c : Char} (notQuote : c ≠ '"') (notBackslash : c ≠ '\\') (visible : 0x20 ≤ c.toNat) :
      PieceSpelling (.char c) [c]
  | escape {letter c : Char} (stands : escape? letter = some c) :
      PieceSpelling (.char c) ['\\', letter]
  | unit {number : Nat} {digits : List Char} (spelled : UnitSpelling number digits) :
      PieceSpelling (.ofUnit number) ('\\' :: 'u' :: digits)

/-- A row is spelled by the spellings of its items, one behind another. -/
inductive RowSpelling {α : Type} (spelling : α → List Char → Prop) :
    List α → List Char → Prop where
  | nil : RowSpelling spelling [] []
  | cons {item : α} {items : List α} {spelled more : List Char} (first : spelling item spelled)
      (rest : RowSpelling spelling items more) :
      RowSpelling spelling (item :: items) (spelled ++ more)

theorem RowSpelling.append {α : Type} {spelling : α → List Char → Prop} {left right : List α}
    {spelled spelled' : List Char} (first : RowSpelling spelling left spelled)
    (second : RowSpelling spelling right spelled') :
    RowSpelling spelling (left ++ right) (spelled ++ spelled') := by
  induction first with
  | nil => exact second
  | cons head _ ih =>
      rw [List.cons_append, List.append_assoc]
      exact .cons head ih

theorem RowSpelling.singleton {α : Type} {spelling : α → List Char → Prop} {item : α}
    {spelled : List Char} (only : spelling item spelled) : RowSpelling spelling [item] spelled := by
  rw [← List.append_nil spelled]
  exact .cons only .nil

/-! ### Pieces -/

theorem readPieces_pieceSpelling {piece : Piece} {spelled : List Char}
    (spelling : PieceSpelling piece spelled) (rest : List Char) :
    readPieces (spelled ++ rest) =
      (readPieces rest).map fun read => (piece :: read.1, read.2) := by
  cases spelling with
  | plain notQuote notBackslash visible =>
      simp [readPieces, notBackslash, Nat.not_lt.mpr visible]
  | @escape letter c stands =>
      have notUnit : letter ≠ 'u' := by
        rintro rfl
        cases stands
      simp [readPieces, notUnit, stands]
  | unit spelled =>
      cases spelled with
      | digits bounds first second third fourth =>
          obtain ⟨a, b, c, d⟩ := bounds
          simp only [List.cons_append, List.nil_append, readPieces,
            Hexadecimal.value?_digit _ a, Hexadecimal.value?_digit _ b,
            Hexadecimal.value?_digit _ c, Hexadecimal.value?_digit _ d]

/-- One piece in front of what is read already. -/
theorem exists_inside_of_map {piece : Piece} {spelled text rest : List Char} {pieces : List Piece}
    (first : PieceSpelling piece spelled)
    (inner : ∀ {pieces}, readPieces text = some (pieces, rest) →
      ∃ inside, text = inside ++ '"' :: rest ∧ RowSpelling PieceSpelling pieces inside)
    (read : ((readPieces text).map fun read => (piece :: read.1, read.2)) = some (pieces, rest)) :
    ∃ inside, spelled ++ text = inside ++ '"' :: rest ∧
      RowSpelling PieceSpelling pieces inside := by
  obtain ⟨⟨more, after⟩, readMore, same⟩ := Option.map_eq_some_iff.mp read
  cases same
  obtain ⟨inside, rfl, spelling⟩ := inner readMore
  exact ⟨spelled ++ inside, (List.append_assoc _ _ _).symm, .cons first spelling⟩

theorem unitSpelling_of_value? {first second third fourth : Char} {a b c d : Nat}
    (firstDigit : Hexadecimal.value? first = some a)
    (secondDigit : Hexadecimal.value? second = some b)
    (thirdDigit : Hexadecimal.value? third = some c)
    (fourthDigit : Hexadecimal.value? fourth = some d) :
    UnitSpelling (4096 * a + 256 * b + 16 * c + d) [first, second, third, fourth] := by
  obtain ⟨a, firstCase, rfl⟩ := Hexadecimal.exists_digit_of_value?_eq_some firstDigit
  obtain ⟨b, secondCase, rfl⟩ := Hexadecimal.exists_digit_of_value?_eq_some secondDigit
  obtain ⟨c, thirdCase, rfl⟩ := Hexadecimal.exists_digit_of_value?_eq_some thirdDigit
  obtain ⟨d, fourthCase, rfl⟩ := Hexadecimal.exists_digit_of_value?_eq_some fourthDigit
  exact .digits ⟨a, b, c, d⟩ firstCase secondCase thirdCase fourthCase

/-- The reader takes apart what is spelled up to the closing quote, and nothing else. -/
theorem readPieces_eq_some_iff {text rest : List Char} {pieces : List Piece} :
    readPieces text = some (pieces, rest) ↔
      ∃ inside, text = inside ++ '"' :: rest ∧ RowSpelling PieceSpelling pieces inside := by
  constructor
  · intro read
    -- The reader goes on behind a number, behind an escape and behind a plain character.
    fun_induction readPieces text generalizing pieces with
    | case1 => cases read
    | case2 after =>
        cases read
        exact ⟨[], rfl, .nil⟩
    | case3 _ _ _ _ _ _ _ _ _ fourth third second first inner =>
        have spelled := unitSpelling_of_value? first second third fourth
        exact exists_inside_of_map (.unit spelled) inner read
    | case4 => cases read
    | case5 _ _ _ _ stands inner => exact exists_inside_of_map (.escape stands) inner read
    | case6 => cases read
    | case7 => cases read
    | case8 _ _ notQuote _ _ shown inner =>
        obtain ⟨notBackslash, visible⟩ := not_or.mp shown
        have first := PieceSpelling.plain notQuote notBackslash (Nat.not_lt.mp visible)
        exact exists_inside_of_map first inner read
  · rintro ⟨inside, rfl, spelled⟩
    induction spelled with
    | nil => rfl
    | cons first _ ih =>
        rw [List.append_assoc, readPieces_pieceSpelling first, ih]
        rfl

/-! ### Characters -/

theorem toNat_ofNat_of_isValidChar {code : Nat} (valid : code.isValidChar) :
    (Char.ofNat code).toNat = code := by
  rw [Char.ofNat, dif_pos valid]
  rfl

theorem UnitSpelling.lt {number : Nat} {digits : List Char} (spelled : UnitSpelling number digits) :
    number < 0x10000 := by
  cases spelled with
  | digits bounds =>
      obtain ⟨a, b, c, d⟩ := bounds
      omega

/-- No character has a number among the surrogates. -/
theorem ofUnit_toNat (c : Char) : Piece.ofUnit c.toNat = .char c := by
  have valid : c.toNat < 0xD800 ∨ 0xDFFF < c.toNat ∧ c.toNat < 0x110000 := c.valid
  have notSurrogate : ¬(0xD800 ≤ c.toNat ∧ c.toNat ≤ 0xDFFF) := by omega
  rw [Piece.ofUnit, if_neg notSurrogate, Char.ofNat_toNat]

theorem toNat_of_ofUnit_eq_char {number : Nat} {c : Char} (small : number < 0x10000)
    (same : Piece.ofUnit number = .char c) : c.toNat = number := by
  rw [Piece.ofUnit] at same
  split at same
  · cases same
  · cases same
    have valid : number < 0xD800 ∨ 0xDFFF < number ∧ number < 0x110000 := by omega
    exact toNat_ofNat_of_isValidChar valid

theorem eq_of_ofUnit_eq_surrogate {number unit : Nat}
    (same : Piece.ofUnit number = .surrogate unit) :
    number = unit ∧ 0xD800 ≤ unit ∧ unit ≤ 0xDFFF := by
  rw [Piece.ofUnit] at same
  split at same
  · cases same
    exact ⟨rfl, ‹_›⟩
  · cases same

/-- A piece that is a character is spelled as one. -/
theorem charSpelling_of_pieceSpelling {c : Char} {spelled : List Char}
    (spelling : PieceSpelling (.char c) spelled) : CharSpelling c spelled := by
  generalize same : Piece.char c = piece at spelling
  cases spelling with
  | plain notQuote notBackslash visible =>
      cases same
      exact .plain notQuote notBackslash visible
  | escape stands =>
      cases same
      exact .escape stands
  | unit spelled =>
      have code := toNat_of_ofUnit_eq_char spelled.lt same.symm
      exact .unit (code ▸ spelled)

theorem pieceSpelling_surrogate {unit : Nat} {digits : List Char}
    (spelled : UnitSpelling unit digits) (range : 0xD800 ≤ unit ∧ unit ≤ 0xDFFF) :
    PieceSpelling (.surrogate unit) ('\\' :: 'u' :: digits) := by
  have half : Piece.ofUnit unit = .surrogate unit := by rw [Piece.ofUnit, if_pos range]
  exact half ▸ .unit spelled

theorem exists_digits_of_surrogate {unit : Nat} {spelled : List Char}
    (spelling : PieceSpelling (.surrogate unit) spelled) :
    ∃ digits, spelled = '\\' :: 'u' :: digits ∧ UnitSpelling unit digits ∧
      0xD800 ≤ unit ∧ unit ≤ 0xDFFF := by
  generalize same : Piece.surrogate unit = piece at spelling
  cases spelling with
  | plain => cases same
  | escape => cases same
  | unit spelled =>
      obtain ⟨rfl, range⟩ := eq_of_ofUnit_eq_surrogate same.symm
      exact ⟨_, rfl, spelled, range⟩

/-- Two surrogates in the right order spell a character together. -/
theorem charSpelling_of_surrogates {high low : Nat} {highSpelled lowSpelled : List Char}
    (first : PieceSpelling (.surrogate high) highSpelled)
    (second : PieceSpelling (.surrogate low) lowSpelled)
    (halves : high < 0xDC00 ∧ 0xDC00 ≤ low) :
    CharSpelling (Char.ofNat (0x10000 + 1024 * (high - 0xD800) + (low - 0xDC00)))
      (highSpelled ++ lowSpelled) := by
  obtain ⟨highDigits, rfl, highUnit, highLeast, -⟩ := exists_digits_of_surrogate first
  obtain ⟨lowDigits, rfl, lowUnit, -, lowGreatest⟩ := exists_digits_of_surrogate second
  obtain ⟨highBound, lowBound⟩ := halves
  have valid : (0x10000 + 1024 * (high - 0xD800) + (low - 0xDC00)).isValidChar :=
    Or.inr (by omega)
  exact .pair highUnit lowUnit ⟨highLeast, highBound⟩ ⟨lowBound, by omega⟩
    (toNat_ofNat_of_isValidChar valid)

/-- Each spelling of a character consists of pieces that are joined to it. -/
theorem exists_pieces_of_charSpelling {c : Char} {spelled : List Char}
    (spelling : CharSpelling c spelled) :
    ∃ pieces, RowSpelling PieceSpelling pieces spelled ∧
      ∀ more, joinPieces (pieces ++ more) = (joinPieces more).map (c :: ·) := by
  have single (first : PieceSpelling (.char c) spelled) :
      ∃ pieces, RowSpelling PieceSpelling pieces spelled ∧
        ∀ more, joinPieces (pieces ++ more) = (joinPieces more).map (c :: ·) := by
    refine ⟨[.char c], .singleton first, fun more => ?_⟩
    rw [List.singleton_append, joinPieces]
  cases spelling with
  | plain notQuote notBackslash visible => exact single (.plain notQuote notBackslash visible)
  | escape stands => exact single (.escape stands)
  | unit spelled => exact single (ofUnit_toNat c ▸ .unit spelled)
  | @pair _ high low _ _ highSpelled lowSpelled highRange lowRange code =>
      have first := pieceSpelling_surrogate highSpelled (by omega)
      have second := pieceSpelling_surrogate lowSpelled (by omega)
      refine ⟨[.surrogate high] ++ [.surrogate low], .append (.singleton first) (.singleton second),
        fun more => ?_⟩
      have halves : high < 0xDC00 ∧ 0xDC00 ≤ low := ⟨highRange.2, lowRange.1⟩
      rw [List.singleton_append, List.cons_append, List.singleton_append, joinPieces,
        if_pos halves, ← code, Char.ofNat_toNat]

/-! ### Texts -/

/-- What spells a row of characters are pieces that are joined to the row. -/
theorem rowSpelling_char_iff {content inside : List Char} :
    RowSpelling CharSpelling content inside ↔
      ∃ pieces, RowSpelling PieceSpelling pieces inside ∧ joinPieces pieces = some content := by
  constructor
  · intro spelled
    induction spelled with
    | nil => exact ⟨[], .nil, rfl⟩
    | cons first _ ih =>
        obtain ⟨pieces, rest, joined⟩ := ih
        obtain ⟨begin, spelled, joins⟩ := exists_pieces_of_charSpelling first
        refine ⟨begin ++ pieces, spelled.append rest, ?_⟩
        rw [joins, joined]
        rfl
  · rintro ⟨pieces, spelled, joined⟩
    fun_induction joinPieces pieces generalizing content inside with
    | case1 =>
        cases spelled
        cases joined
        exact .nil
    | case2 c rest ih =>
        obtain ⟨more, joinedRest, rfl⟩ := Option.map_eq_some_iff.mp joined
        cases spelled with
        | cons first spelledRest =>
            exact .cons (charSpelling_of_pieceSpelling first) (ih spelledRest joinedRest)
    | case3 high low rest range ih =>
        obtain ⟨more, joinedRest, rfl⟩ := Option.map_eq_some_iff.mp joined
        cases spelled with
        | cons first spelledMore =>
            cases spelledMore with
            | cons second spelledRest =>
                rw [← List.append_assoc]
                exact .cons (charSpelling_of_surrogates first second range)
                  (ih spelledRest joinedRest)
    | case4 => cases joined
    | case5 => cases joined

/-- Behind an opening quote the reader accepts what spells a text and reads that text from it. -/
theorem readText_eq_some_iff {text rest : List Char} {content : String} :
    readText text = some (some content, rest) ↔
      ∃ inside, text = inside ++ '"' :: rest ∧ RowSpelling CharSpelling content.toList inside := by
  constructor
  · intro read
    obtain ⟨⟨pieces, after⟩, readPieces, same⟩ := Option.map_eq_some_iff.mp read
    obtain ⟨joinedTo, rfl⟩ := Prod.mk.inj same
    obtain ⟨chars, joined, rfl⟩ := Option.map_eq_some_iff.mp joinedTo
    obtain ⟨inside, split, spelled⟩ := readPieces_eq_some_iff.mp readPieces
    rw [String.toList_ofList]
    exact ⟨inside, split, rowSpelling_char_iff.mpr ⟨pieces, spelled, joined⟩⟩
  · rintro ⟨inside, rfl, spelled⟩
    obtain ⟨pieces, pieceSpelled, joined⟩ := rowSpelling_char_iff.mp spelled
    rw [readText, readPieces_eq_some_iff.mpr ⟨inside, rfl, pieceSpelled⟩, Option.map_some, joined,
      Option.map_some, String.ofList_toList]

/-- A surrogate pair with digits in both cases. -/
example : readText "\\uD834\\udd1E\"".toList = some (some "𝄞", []) := by decide +kernel

/-! ### Documents -/

/-- A document that is a text literal, with or without space around it. -/
def TextDocument (content document : String) : Prop :=
  ∃ before inside after, document.toList = before ++ '"' :: (inside ++ '"' :: after) ∧
    (∀ c ∈ before ++ after, isSpace c = true) ∧ RowSpelling CharSpelling content.toList inside

/-- A value that is a text was read from a literal. -/
theorem skipSpace_of_readValue_eq_text {calls : Nat} {text rest : List Char} {content : String}
    (read : readValue calls text = some (.text (some content), rest)) :
    ∃ behind, skipSpace text = '"' :: behind ∧ readText behind = some (some content, rest) := by
  cases calls with
  | zero => cases read
  | succ calls =>
      rw [readValue] at read
      split at read
      next behind start =>
        obtain ⟨⟨text, after⟩, readBehind, same⟩ := Option.map_eq_some_iff.mp read
        cases same
        exact ⟨behind, start, readBehind⟩
      -- The other values are no texts, whatever they are read from.
      next => split at read <;> simp at read
      next => split at read <;> simp at read
      all_goals simp at read

theorem readValue_of_skipSpace {calls : Nat} {text behind rest : List Char} {content : String}
    (start : skipSpace text = '"' :: behind) (read : readText behind = some (some content, rest)) :
    readValue (calls + 1) text = some (.text (some content), rest) := by
  rw [readValue, start]
  simp only [read, Option.map_some]

theorem skipSpace_cons {text : List Char} {c : Char} (visible : isSpace c = false) :
    skipSpace (c :: text) = c :: text := by
  simp [skipSpace, visible]

theorem skipSpace_append {before text : List Char} {c : Char}
    (space : ∀ d ∈ before, isSpace d = true) (visible : isSpace c = false) :
    skipSpace (before ++ c :: text) = c :: text := by
  rw [skipSpace, List.dropWhile_append_of_pos space]
  exact skipSpace_cons visible

theorem skipSpace_eq_nil_iff {text : List Char} :
    skipSpace text = [] ↔ ∀ c ∈ text, isSpace c = true :=
  List.dropWhile_eq_nil_iff

/-- The documents that are read as a text are the literals of this text. -/
theorem parse?_eq_text_iff {document content : String} :
    parse? document = some (.text (some content)) ↔ TextDocument content document := by
  constructor
  · intro parsed
    rw [parse?] at parsed
    split at parsed
    next value rest read =>
      split at parsed
      next empty =>
        cases parsed
        obtain ⟨behind, start, readBehind⟩ := skipSpace_of_readValue_eq_text read
        obtain ⟨inside, rfl, spelled⟩ := readText_eq_some_iff.mp readBehind
        refine ⟨document.toList.takeWhile isSpace, inside, rest, ?_, ?_, spelled⟩
        · rw [← start, skipSpace, List.takeWhile_append_dropWhile]
        · exact List.forall_mem_append.mpr
            ⟨fun c member => List.mem_takeWhile_imp member, skipSpace_eq_nil_iff.mp empty⟩
      next => cases parsed
    next => cases parsed
  · rintro ⟨before, inside, after, split, space, spelled⟩
    obtain ⟨spaceBefore, spaceAfter⟩ := List.forall_mem_append.mp space
    have visible : isSpace '"' = false := by decide
    have start : skipSpace document.toList = '"' :: (inside ++ '"' :: after) := by
      rw [split]
      exact skipSpace_append spaceBefore visible
    have read : readText (inside ++ '"' :: after) = some (some content, after) :=
      readText_eq_some_iff.mpr ⟨inside, rfl, spelled⟩
    rw [parse?, readValue_of_skipSpace start read]
    exact if_pos (skipSpace_eq_nil_iff.mpr spaceAfter)

end CognitiveKernel.Json
