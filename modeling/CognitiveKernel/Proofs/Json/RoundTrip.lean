/-
Module: CognitiveKernel.Proofs.Json.RoundTrip
Purpose: Every value whose numbers are literals is read from its text.
Main exports: Json.Value.Readable, Json.readValue_write, Json.parse?_print
-/
import CognitiveKernel.Json.Reading
import CognitiveKernel.Proofs.Json.Number
import CognitiveKernel.Proofs.Json.Text

namespace CognitiveKernel.Json

mutual

/-- All numbers of a value are literals. -/
def Value.Readable : Value → Prop
  | .null | .boolean _ | .text _ => True
  | .number literal => IsLiteral literal
  | .array items => ItemsReadable items
  | .object entries => EntriesReadable entries

/-- All numbers of some values are literals. -/
def ItemsReadable : List Value → Prop
  | [] => True
  | item :: more => item.Readable ∧ ItemsReadable more

/-- All numbers of the values of some entries are literals. -/
def EntriesReadable : List (Option String × Value) → Prop
  | [] => True
  | (_, value) :: more => value.Readable ∧ EntriesReadable more

end

/-- The lines of an array between its brackets, from the first item on. -/
def itemsText (indent : Nat) : List Value → List Char
  | [] => []
  | item :: more => write indent item ++ writeItems indent more

/-- The lines of an object between its braces, from the first entry on. -/
def entriesText (indent : Nat) : List (Option String × Value) → List Char
  | [] => []
  | (key, value) :: more =>
      writeText key ++ ':' :: ' ' :: (write indent value ++ writeEntries indent more)

/-! ### Space between the parts -/

section

variable {indent calls : Nat} {text text' : List Char}

theorem skipSpace_space : skipSpace (' ' :: text) = skipSpace text := rfl

theorem skipSpace_newLine : skipSpace (newLine indent ++ text) = skipSpace text := by
  have spaces : ∀ c ∈ newLine indent, isSpace c = true := by
    intro c member
    rcases List.mem_cons.mp member with rfl | member
    · rfl
    · rw [List.eq_of_mem_replicate member]
      rfl
  exact List.dropWhile_append_of_pos spaces

theorem readValue_congr (same : skipSpace text = skipSpace text') :
    readValue calls text = readValue calls text' := by
  cases calls with
  | zero => rfl
  | succ calls => rw [readValue, readValue, same]

theorem readItems_congr (same : skipSpace text = skipSpace text') :
    readItems calls text = readItems calls text' := by
  cases calls with
  | zero => rfl
  | succ calls => rw [readItems, readItems, readValue_congr same]

theorem readEntries_congr (same : skipSpace text = skipSpace text') :
    readEntries calls text = readEntries calls text' := by
  cases calls with
  | zero => rfl
  | succ calls => rw [readEntries, readEntries, same]

end

/-! ### First characters -/

theorem numberEnd_comma (text : List Char) : NumberEnd (',' :: text) := by
  rintro c ⟨⟩
  decide

theorem numberEnd_newLine (indent : Nat) (text : List Char) :
    NumberEnd (newLine indent ++ text) := by
  rintro c ⟨⟩
  decide

/-- A number literal starts with a digit or a minus sign. -/
theorem IsLiteral.exists_cons {literal : List Char} (h : IsLiteral literal) :
    ∃ c text, literal = c :: text ∧
      ∀ other, Decimal.isDigit other = false → other ≠ '-' → c ≠ other := by
  have read := h [] nofun
  rw [List.append_nil] at read
  cases literal with
  | nil => cases read
  | cons c text =>
      refine ⟨c, text, rfl, ?_⟩
      rintro other notDigit notMinus rfl
      have span : Decimal.spanDigits (c :: text) = ([], c :: text) := by
        simp [Decimal.spanDigits, notDigit]
      simp [readNumber, notMinus, span] at read

/-- The first character of a value tells it from space and from a closing bracket. -/
theorem exists_write_eq_cons {value : Value} (readable : value.Readable) (indent : Nat) :
    ∃ c text, write indent value = c :: text ∧ isSpace c = false ∧ c ≠ ']' := by
  cases value with
  | null => exact ⟨_, _, rfl, by decide, by decide⟩
  | boolean value => cases value <;> exact ⟨_, _, rfl, by decide, by decide⟩
  | number literal =>
      obtain ⟨c, text, rfl, ne⟩ := IsLiteral.exists_cons readable
      refine ⟨c, text, rfl, ?_, ne _ (by decide) (by decide)⟩
      have notBlank : c ≠ ' ' ∧ c ≠ '\n' ∧ c ≠ '\t' ∧ c ≠ '\r' :=
        ⟨ne _ (by decide) (by decide), ne _ (by decide) (by decide),
          ne _ (by decide) (by decide), ne _ (by decide) (by decide)⟩
      simpa [isSpace, and_assoc] using notBlank
  | text content =>
      rw [write, writeText_eq_cons]
      exact ⟨_, _, rfl, by decide, by decide⟩
  | array items => cases items <;> exact ⟨_, _, rfl, by decide, by decide⟩
  | object entries => cases entries <;> exact ⟨_, _, rfl, by decide, by decide⟩

/-! ### Reading one part -/

section

variable {indent calls : Nat} {text rest : List Char}

theorem readValue_literal {literal : List Char} (h : IsLiteral literal) (stop : NumberEnd rest) :
    readValue (calls + 1) (literal ++ rest) = some (.number literal, rest) := by
  have read := h rest stop
  obtain ⟨c, text, rfl, ne⟩ := h.exists_cons
  obtain ⟨first, _, equation, visible, _⟩ := @exists_write_eq_cons (.number (c :: text)) h 0
  cases equation
  have notQuote := ne '"' (by decide) (by decide)
  have notBracket := ne '[' (by decide) (by decide)
  have notBrace := ne '\x7b' (by decide) (by decide)
  have notNull := ne 'n' (by decide) (by decide)
  have notTrue := ne 't' (by decide) (by decide)
  have notFalse := ne 'f' (by decide) (by decide)
  rw [List.cons_append] at read ⊢
  rw [readValue, skipSpace_cons visible]
  simp [notQuote, notBracket, notBrace, notNull, notTrue, notFalse, read]

theorem readValue_text (content : Option String) :
    readValue (calls + 1) (writeText content ++ rest) = some (.text content, rest) := by
  rw [writeText_eq_cons, List.cons_append, readValue, skipSpace_cons (by decide)]
  simp only [readText_tail_writeText, Option.map_some]

theorem readValue_array {c : Char} (visible : isSpace c = false) (more : c ≠ ']') :
    readValue (calls + 1) ('[' :: (newLine indent ++ c :: text)) =
      (readItems calls (c :: text)).map fun read => (.array read.1, read.2) := by
  rw [readValue, skipSpace_cons (by decide)]
  simp only [skipSpace_newLine, skipSpace_cons visible]
  simp [more]

theorem readValue_object (content : Option String) :
    readValue (calls + 1) ('\x7b' :: (newLine indent ++ (writeText content ++ text))) =
      (readEntries calls (writeText content ++ text)).map fun read =>
        (.object read.1, read.2) := by
  rw [readValue, skipSpace_cons (by decide), writeText_eq_cons, List.cons_append]
  simp only [skipSpace_newLine, skipSpace_cons (c := '"') (by decide)]
  rfl

theorem readItems_last {item : Value}
    (read : readValue calls text = some (item, newLine indent ++ ']' :: rest)) :
    readItems (calls + 1) text = some ([item], rest) := by
  simp only [readItems, read, skipSpace_newLine, skipSpace_cons (c := ']') (by decide)]

theorem readItems_next {item : Value} (read : readValue calls text = some (item, ',' :: rest)) :
    readItems (calls + 1) text =
      (readItems calls rest).map fun read => (item :: read.1, read.2) := by
  simp only [readItems, read, skipSpace_cons (c := ',') (by decide)]

theorem readEntries_last {key : Option String} {value : Value}
    (read : readValue calls text = some (value, newLine indent ++ '\x7d' :: rest)) :
    readEntries (calls + 1) (writeText key ++ ':' :: ' ' :: text) =
      some ([(key, value)], rest) := by
  have content : readValue calls (' ' :: text) = readValue calls text :=
    readValue_congr skipSpace_space
  rw [writeText_eq_cons, List.cons_append, readEntries, skipSpace_cons (by decide)]
  simp only [readText_tail_writeText, skipSpace_cons (c := ':') (by decide), content, read,
    skipSpace_newLine, skipSpace_cons (c := '\x7d') (by decide)]

theorem readEntries_next {key : Option String} {value : Value}
    (read : readValue calls text = some (value, ',' :: rest)) :
    readEntries (calls + 1) (writeText key ++ ':' :: ' ' :: text) =
      (readEntries calls rest).map fun read => ((key, value) :: read.1, read.2) := by
  have content : readValue calls (' ' :: text) = readValue calls text :=
    readValue_congr skipSpace_space
  rw [writeText_eq_cons, List.cons_append, readEntries, skipSpace_cons (by decide)]
  simp only [readText_tail_writeText, skipSpace_cons (c := ':') (by decide), content, read,
    skipSpace_cons (c := ',') (by decide)]

end

/-! ### Reading whole values -/

theorem writeItems_cons (indent : Nat) (item : Value) (more : List Value) :
    writeItems indent (item :: more) =
      ',' :: (newLine indent ++ itemsText indent (item :: more)) := by
  rw [writeItems, itemsText, List.append_assoc]

theorem writeEntries_cons (indent : Nat) (entry : Option String × Value)
    (more : List (Option String × Value)) :
    writeEntries indent (entry :: more) =
      ',' :: (newLine indent ++ entriesText indent (entry :: more)) := by
  simp [writeEntries, entriesText]

mutual

/-- A value is read from its text. A call of the reader is paid for by a character of the text. -/
theorem readValue_write :
    ∀ (value : Value) (indent calls : Nat) (rest : List Char), value.Readable →
      (write indent value).length < calls → NumberEnd rest →
        readValue calls (write indent value ++ rest) = some (value, rest)
  | _, _, 0, _, _, enough, _ => absurd enough (Nat.not_lt_zero _)
  | .null, _, _ + 1, _, _, _, _ => rfl
  | .boolean true, _, _ + 1, _, _, _, _ => rfl
  | .boolean false, _, _ + 1, _, _, _, _ => rfl
  | .number _, _, _ + 1, _, readable, _, stop => readValue_literal readable stop
  | .text content, _, _ + 1, _, _, _, _ => readValue_text content
  | .array [], _, _ + 1, _, _, _, _ => rfl
  | .array (item :: more), indent, calls + 1, rest, readable, enough, _ => by
      have paid : (itemsText (indent + 2) (item :: more)).length + 1 < calls := by
        simp [write, newLine, itemsText] at enough ⊢
        omega
      have items := readItems_itemsText (item :: more) (indent + 2) indent calls rest readable
        (List.cons_ne_nil item more) paid
      obtain ⟨c, text, first, visible, notEnd⟩ := exists_write_eq_cons readable.1 (indent + 2)
      simp only [itemsText, write, first, List.cons_append, List.nil_append, List.append_assoc]
        at items ⊢
      rw [readValue_array visible notEnd, items]
      rfl
  | .object [], _, _ + 1, _, _, _, _ => rfl
  | .object ((key, value) :: more), indent, calls + 1, rest, readable, enough, _ => by
      have paid : (entriesText (indent + 2) ((key, value) :: more)).length + 1 < calls := by
        simp [write, newLine, entriesText] at enough ⊢
        omega
      have entries := readEntries_entriesText ((key, value) :: more) (indent + 2) indent calls rest
        readable (List.cons_ne_nil (key, value) more) paid
      simp only [entriesText, write, List.cons_append, List.nil_append, List.append_assoc]
        at entries ⊢
      rw [readValue_object key, entries]
      rfl

/-- The items of an array are read from their lines. -/
theorem readItems_itemsText :
    ∀ (items : List Value) (indent close calls : Nat) (rest : List Char), ItemsReadable items →
      items ≠ [] → (itemsText indent items).length + 1 < calls →
        readItems calls (itemsText indent items ++ (newLine close ++ ']' :: rest)) =
          some (items, rest)
  | [], _, _, _, _, _, nonempty, _ => absurd rfl nonempty
  | _, _, _, 0, _, _, _, enough => absurd enough (Nat.not_lt_zero _)
  | [item], indent, close, calls + 1, rest, readable, _, enough => by
      have paid : (write indent item).length < calls := by
        simp [itemsText, writeItems] at enough
        omega
      have read := readValue_write item indent calls (newLine close ++ ']' :: rest) readable.1 paid
        (numberEnd_newLine _ _)
      rw [itemsText, writeItems, List.append_nil]
      exact readItems_last read
  | item :: next :: more, indent, close, calls + 1, rest, readable, _, enough => by
      have paidItem : (write indent item).length < calls := by
        simp [itemsText, writeItems_cons] at enough
        omega
      have paidMore : (itemsText indent (next :: more)).length + 1 < calls := by
        simp [itemsText, writeItems_cons, newLine] at enough ⊢
        omega
      have readMore := readItems_itemsText (next :: more) indent close calls rest readable.2
        (List.cons_ne_nil next more) paidMore
      have read := readValue_write item indent calls
        (',' :: (newLine indent ++ (itemsText indent (next :: more) ++
          (newLine close ++ ']' :: rest)))) readable.1 paidItem (numberEnd_comma _)
      rw [itemsText, writeItems_cons, List.append_assoc, List.cons_append, List.append_assoc,
        readItems_next read, readItems_congr skipSpace_newLine, readMore]
      rfl

/-- The entries of an object are read from their lines. -/
theorem readEntries_entriesText :
    ∀ (entries : List (Option String × Value)) (indent close calls : Nat) (rest : List Char),
      EntriesReadable entries → entries ≠ [] → (entriesText indent entries).length + 1 < calls →
        readEntries calls (entriesText indent entries ++ (newLine close ++ '\x7d' :: rest)) =
          some (entries, rest)
  | [], _, _, _, _, _, nonempty, _ => absurd rfl nonempty
  | _, _, _, 0, _, _, _, enough => absurd enough (Nat.not_lt_zero _)
  | [(key, value)], indent, close, calls + 1, rest, readable, _, enough => by
      have paid : (write indent value).length < calls := by
        simp [entriesText, writeEntries] at enough
        omega
      have read := readValue_write value indent calls (newLine close ++ '\x7d' :: rest) readable.1
        paid (numberEnd_newLine _ _)
      simp only [entriesText, writeEntries, List.append_nil, List.append_assoc, List.cons_append]
      exact readEntries_last read
  | (key, value) :: next :: more, indent, close, calls + 1, rest, readable, _, enough => by
      have paidValue : (write indent value).length < calls := by
        simp [entriesText, writeEntries_cons] at enough
        omega
      have paidMore : (entriesText indent (next :: more)).length + 1 < calls := by
        simp [entriesText, writeEntries_cons, newLine] at enough ⊢
        omega
      have readMore := readEntries_entriesText (next :: more) indent close calls rest readable.2
        (List.cons_ne_nil next more) paidMore
      have read := readValue_write value indent calls
        (',' :: (newLine indent ++ (entriesText indent (next :: more) ++
          (newLine close ++ '\x7d' :: rest)))) readable.1 paidValue (numberEnd_comma _)
      rw [entriesText, writeEntries_cons]
      simp only [List.append_assoc, List.cons_append]
      rw [readEntries_next read, readEntries_congr skipSpace_newLine, readMore]
      rfl

end

/-- The text of a value is a text of exactly this value. -/
theorem parse?_print {value : Value} (readable : value.Readable) :
    parse? (print value) = some value := by
  have read := readValue_write value 0 (2 * (write 0 value).length + 2) [] readable (by omega) nofun
  rw [List.append_nil] at read
  rw [parse?, print, String.toList_ofList, read]
  rfl

end CognitiveKernel.Json
