/-
Module: CognitiveKernel.Proofs.Snapshot.Tags
Purpose: Modes and blocks have the same tags in plain texts and in JSON documents.
Main exports: Mode.documentName_eq_tag, Block.documentName_eq_name, TagsAgree, TagsAgree.of_table,
  mode_and_block_tags_agree
-/
import CognitiveKernel.Proofs.Json.Text
import CognitiveKernel.Snapshot.Json

namespace CognitiveKernel

/-!
A mode or a block has a tag that is shown and read as a plain text, and a name under which documents
hold it. The names of the modes stand in a table of their own, and those of the blocks are made from
their identifiers by a change of casing, so it takes a look at all of them to see that they are the
tags. What is left is a table without repetitions, read by looking a text up.
-/

/-! ### The tables -/

theorem Mode.documentName_eq_tag : Mode.documentName = Mode.tag := by
  funext mode
  cases mode <;> rfl

theorem Block.documentName_eq_name : Block.documentName = Block.name := by
  funext block
  cases block <;> decide

theorem Mode.ofJson_eq : Mode.ofJson = Json.decodeText (Json.variant (all.map tag) ofTag?) := by
  have lookup : ofDocumentName? = ofTag? := by
    funext text
    rw [ofDocumentName?, documentName_eq_tag, ofTag?]
  funext document
  rw [ofJson, decodeJson, documentName_eq_tag, lookup]

theorem Block.ofJson_eq : Block.ofJson = Json.decodeText (Json.variant (all.map name) ofName?) := by
  have lookup : ofDocumentName? = ofName? := by
    funext text
    rw [ofDocumentName?, documentName_eq_name, ofName?, map_block_definitions]
  funext document
  rw [ofJson, decodeJson, documentName_eq_name, lookup]

/-! ### Looking a text up -/

section

variable {ε α : Type} {tag : α → String} {ofTag? : String → Option α}
  (found : ∀ value, ofTag? (tag value) = some value)
  (named : ∀ {text value}, ofTag? text = some value → tag value = text)

include found named in
theorem lookup_eq_ok_iff (refused : ε) {text : String} {value : α} :
    (ofTag? text).elim (.error refused) .ok = Except.ok value ↔ text = tag value := by
  constructor
  · intro accepted
    cases lookup : ofTag? text with
    | none =>
        rw [lookup] at accepted
        cases accepted
    | some other =>
        rw [lookup] at accepted
        cases accepted
        exact (named lookup).symm
  · rintro rfl
    rw [found, Option.elim]

include named in
theorem lookup_eq_error (refused : ε) {text : String} (foreign : ∀ value, text ≠ tag value) :
    (ofTag? text).elim (Except.error refused) .ok = .error refused := by
  cases lookup : ofTag? text with
  | none => rfl
  | some value => exact absurd (named lookup).symm (foreign value)

end

/-- A document that is a text literal is decoded by looking the text up. -/
theorem Json.decodeText_variant {α : Type} {tags : List String} {ofTag? : String → Option α}
    {text document : String} (literal : Json.TextDocument text document) :
    Json.decodeText (Json.variant tags ofTag?) document =
      (ofTag? text).elim (.error (.json (.here (.unknownVariant text tags)))) .ok := by
  rw [Json.decodeText, Json.parse?_eq_text_iff.mpr literal]
  simp only [Json.variant, Json.tagged]
  cases ofTag? text <;> rfl

/-- A text is written as one of its literals. -/
theorem Json.textDocument_print (content : String) :
    Json.TextDocument content (Json.print (Json.ofText content)) := by
  refine ⟨[], content.toList.flatMap Json.writeChar, [], ?_, List.forall_mem_nil _,
    Json.rowSpelling_flatMap_writeChar content.toList⟩
  rw [Json.print, String.toList_ofList, Json.ofText, Json.write, Json.writeText, List.nil_append]

/-- A text that needs no escapes is written between quotes. -/
theorem Json.print_ofText_of_plain {content : String}
    (plain : content.toList.flatMap Json.writeChar = content.toList) :
    Json.print (Json.ofText content) = "\"" ++ content ++ "\"" := by
  apply String.toList_injective
  rw [Json.print, String.toList_ofList, Json.ofText, Json.write, Json.writeText, plain,
    String.toList_append, String.toList_append]
  rfl

/-! ### Agreement -/

/-- The ways to read and write the values of a type by their tags agree: `parse` reads a plain text
and refuses a foreign one with `refusal`, `decode` and `encode` read and write JSON documents. -/
structure TagsAgree {α : Type} (all : List α) (tag : α → String)
    (parse : String → Except KernelError α) (refusal : String → KernelError)
    (decode : String → Except KernelError α) (encode : α → String) : Prop where
  parse_iff : ∀ text value, parse text = .ok value ↔ text = tag value
  decode_iff : ∀ text document value, Json.TextDocument text document →
    (decode document = .ok value ↔ text = tag value)
  parse_refuses : ∀ text, (∀ value, text ≠ tag value) → parse text = .error (refusal text)
  decode_refuses : ∀ text document, Json.TextDocument text document →
    (∀ value, text ≠ tag value) →
      decode document = .error (.json (.here (.unknownVariant text (all.map tag))))
  encode_eq : ∀ value, encode value = "\"" ++ tag value ++ "\""
  encode_document : ∀ value, Json.TextDocument (tag value) (encode value)

/-- Readers and writers that use one table agree. -/
theorem TagsAgree.of_table {α : Type} {all : List α} {tag : α → String}
    {ofTag? : String → Option α} {parse : String → Except KernelError α}
    {refusal : String → KernelError} {decode : String → Except KernelError α}
    {encode : α → String} (found : ∀ value, ofTag? (tag value) = some value)
    (named : ∀ {text value}, ofTag? text = some value → tag value = text)
    (plain : ∀ value, (tag value).toList.flatMap Json.writeChar = (tag value).toList)
    (parse_eq : ∀ text, parse text = (ofTag? text).elim (.error (refusal text)) .ok)
    (decode_eq : decode = Json.decodeText (Json.variant (all.map tag) ofTag?))
    (encode_eq : ∀ value, encode value = Json.print (Json.ofText (tag value))) :
    TagsAgree all tag parse refusal decode encode where
  parse_iff := by
    intro text value
    rw [parse_eq]
    exact lookup_eq_ok_iff found named (refusal text)
  decode_iff := by
    intro text document value literal
    rw [decode_eq, Json.decodeText_variant literal]
    exact lookup_eq_ok_iff found named _
  parse_refuses := by
    intro text foreign
    rw [parse_eq]
    exact lookup_eq_error named (refusal text) foreign
  decode_refuses := by
    intro text document literal foreign
    rw [decode_eq, Json.decodeText_variant literal]
    exact lookup_eq_error named _ foreign
  encode_eq := by
    intro value
    rw [encode_eq]
    exact Json.print_ofText_of_plain (plain value)
  encode_document := by
    intro value
    rw [encode_eq]
    exact Json.textDocument_print (tag value)

/-- For modes and for blocks the tag that is shown is the one text that is read as the value, as a
plain text and from each of its literals in JSON, and it is written between quotes. Every other text
is refused: with an error that holds the text where it is plain, and with a fault of the document
where it stands in a literal. -/
theorem mode_and_block_tags_agree :
    TagsAgree Mode.all Mode.tag Mode.parse .invalidMode Mode.ofJson Mode.toJson ∧
      TagsAgree Block.all Block.name Block.parse .unknownBlock Block.ofJson Block.toJson := by
  constructor
  · apply TagsAgree.of_table Mode.ofTag?_tag Mode.tag_of_ofTag?_eq_some
    · intro mode
      cases mode <;> rfl
    · intro text
      rw [Mode.parse]
      cases Mode.ofTag? text <;> rfl
    · exact Mode.ofJson_eq
    · intro mode
      rw [Mode.toJson, Mode.documentName_eq_tag]
  · apply TagsAgree.of_table Block.ofName?_name Block.name_of_ofName?_eq_some
    · intro block
      cases block <;> rfl
    · intro text
      rw [Block.parse]
      cases Block.ofName? text <;> rfl
    · exact Block.ofJson_eq
    · intro block
      rw [Block.toJson, Block.documentName_eq_name]

end CognitiveKernel
