/-
Module: CognitiveKernel.Proofs.Yaml.Fields
Purpose: The outcome of a record by what the entries of its mapping hold under each name.
Main exports: Fields.Hold, Fields.Hold.read, toOption_record
-/
import CognitiveKernel.Proofs.Yaml.Transparency

namespace CognitiveKernel.Yaml

open CognitiveKernel.Document (Reading)

variable {α β : Type} {document : Document} {node : Node Nat} {content : Content}

/-! ### The outcome of a reading -/

theorem toOption_result_map (f : α → β) (reading : Reading α) :
    (f <$> reading).result.toOption = reading.result.toOption.map f := by
  cases reading <;> rfl

theorem toOption_result_seq (function : Reading (α → β)) (argument : Reading α) :
    (function <*> argument).result.toOption =
      function.result.toOption.bind fun f => argument.result.toOption.map f := by
  cases function with
  | value f => cases argument <;> rfl
  | fault position reason =>
      cases argument with
      | value result => rfl
      | fault other reason' =>
          change (if other < position then Reading.fault other reason'
            else Reading.fault position reason).result.toOption = none
          split_ifs <;> rfl

theorem map_eq_some_iff {f : α → β} {reading : Reading α} {value : β} :
    (f <$> reading).result.toOption = some value ↔
      ∃ argument, reading.result.toOption = some argument ∧ f argument = value := by
  rw [toOption_result_map]
  exact Option.map_eq_some_iff

theorem seq_eq_some_iff {function : Reading (α → β)} {argument : Reading α} {value : β} :
    (function <*> argument).result.toOption = some value ↔
      ∃ f, function.result.toOption = some f ∧
        ∃ given, argument.result.toOption = some given ∧ f given = value := by
  simp only [toOption_result_seq, Option.bind_eq_some_iff, Option.map_eq_some_iff]

/-! ### One field -/

/-- What a field is, given what its entries hold: the value for its absence if there is none, and
nothing if there are several. -/
def fieldOutcome (decode : Decoder α) (absent : Option α) : List Content → Option α
  | [] => absent
  | [value] => decoded decode value
  | _ => none

/-- What the entries of one name hold in a record. -/
def Fields.valuesAt (fields : Fields) (name : String) : List (Node Nat) :=
  (fields.record.entries.filter (·.name = name)).map (·.content.2)

/-- The entries of a record have the given contents, by name. -/
def Fields.Hold (fields : Fields) (values : String → List Content) : Prop :=
  ∀ name, List.Forall₂ fields.document.Expands (fields.valuesAt name) (values name)

/-- A field is read from its own entries. -/
theorem Fields.Hold.read {fields : Fields} {values : String → List Content}
    (hold : fields.Hold values) {decode : Decoder α} (transparent : Transparent decode)
    (name : String) (absent : Option α) :
    (fields.read name absent decode).result.toOption =
      fieldOutcome decode absent (values name) := by
  have expanded := List.forall₂_map_left_iff.mp (hold name)
  unfold Fields.read Document.Record.field
  generalize fields.record.entries.filter (·.name = name) = entries, values name = contents
    at expanded
  cases expanded with
  | nil => cases absent <;> rfl
  | @cons first value more others head rest =>
      have outcome := transparent head
      simp only [entryValue]
      cases read : decode fields.document first.content.2 with
      | error reason =>
          rw [read] at outcome
          cases rest with
          | nil => exact outcome
          | cons _ _ => rfl
      | ok result =>
          rw [read] at outcome
          cases rest with
          | nil => exact outcome
          | cons _ _ => rfl

/-! ### All fields of a mapping -/

/-- The text of a key, if it has one. -/
def keyText (document : Document) (key : Node Nat) : Option String :=
  (text document key).toOption

theorem valuesAt_namedEntries (document : Document) (nodes : List (Node Nat × Node Nat))
    (name : String) :
    ((namedEntries document nodes).filter (·.name = name)).map (·.content.2) =
      (nodes.filter fun node => keyText document node.1 = some name).map (·.2) := by
  unfold namedEntries
  generalize 0 = start
  induction nodes generalizing start with
  | nil => rfl
  | cons node nodes ih =>
      have rest := ih (start + 1)
      cases read : text document node.1 with
      | error reason =>
          simpa [List.zipIdx_cons, read, keyText, Except.toOption] using rest
      | ok found =>
          by_cases same : found = name
          · simpa [List.zipIdx_cons, read, keyText, Except.toOption, same] using rest
          · simpa [List.zipIdx_cons, read, keyText, Except.toOption, same] using rest

theorem toOption_textAs (document : Document) (expected : String) (key : Node Nat) :
    (textAs expected document key).toOption = keyText document key := by
  unfold keyText text textAs
  split <;> rfl

theorem toOption_readableKeys (nodes : List (Node Nat × Node Nat)) :
    (readableKeys document nodes).result.toOption =
      if nodes.all fun node => (keyText document node.1).isSome then some () else none := by
  unfold readableKeys
  generalize 0 = start
  induction nodes generalizing start with
  | nil => rfl
  | cons node nodes ih =>
      have rest := ih (start + 1)
      have outcome := toOption_textAs document "field identifier" node.1
      rw [List.zipIdx_cons, List.all_cons, ← outcome]
      cases read : textAs "field identifier" document node.1 with
      | error reason =>
          rw [List.filterMap_cons_some (b := (start, reason)) (by simp only [read])]
          rfl
      | ok found =>
          rw [List.filterMap_cons_none (by simp only [read])]
          exact rest

/-- Keys have the names in a document that they have in its content. -/
theorem keyText_eq {key : Node Nat} (expanded : document.Expands key content) :
    keyText document key = content.name? := by
  rw [keyText, transparent_text expanded]
  cases content <;> rfl

/-- The fields that the entries of a mapping make up. -/
def Fields.ofEntries (document : Document) (nodes : List (Node Nat × Node Nat)) : Fields :=
  { document := document
    record :=
      { size := nodes.length
        entries := namedEntries document nodes
        missing := fun field => .here (.missingField field) } }

theorem Fields.hold_ofEntries {nodes : List (Node Nat × Node Nat)}
    {entries : List (Content × Content)}
    (related : List.Forall₂ document.EntryExpands nodes entries) :
    (ofEntries document nodes).Hold fun name =>
      (entries.filter (·.1.name? = some name)).map (·.2) := by
  intro name
  have sameNames : Relator.LiftFun document.EntryExpands (· ↔ ·)
      (fun node => decide (keyText document node.1 = some name) = true)
      (fun entry => decide (entry.1.name? = some name) = true) := by
    intro node entry head
    simp only [keyText_eq head.1]
  have values := valuesAt_namedEntries document nodes name
  change List.Forall₂ document.Expands (valuesAt _ name) _
  rw [valuesAt, ofEntries, values, List.forall₂_map_left_iff, List.forall₂_map_right_iff]
  exact (List.rel_filter sameNames related).imp fun _ _ head => head.2

/-- The outcome of a record: nothing if its content is none, and else what is read from its
fields. -/
theorem toOption_record {name : String} {read : Fields → Reading α}
    (expanded : document.Expands node content) :
    (content.isRecord = false ∧ (record name read document node).toOption = none) ∨
      (content.isRecord = true ∧ ∃ fields : Fields, fields.Hold content.held ∧
        (record name read document node).toOption = (read fields).result.toOption) := by
  have listed := expanded.entries?
  unfold Content.isRecord Content.held record
  generalize entries? document node = nodes, content.entries? = entries at listed
  cases listed with
  | none => exact .inl ⟨rfl, rfl⟩
  | @some nodes entries related =>
      have keys : (nodes.all fun node => (keyText document node.1).isSome) =
          entries.all (·.1.name?.isSome) := by
        induction related with
        | nil => rfl
        | cons head _ ih => rw [List.all_cons, List.all_cons, keyText_eq head.1, ih]
      simp only [Option.any_some, Option.getD_some, toOption_result_seq, toOption_result_map,
        toOption_readableKeys, keys]
      cases entries.all (·.1.name?.isSome) with
      | false => exact .inl ⟨rfl, rfl⟩
      | true =>
          exact .inr ⟨rfl, .ofEntries document nodes, Fields.hold_ofEntries related, Option.map_id'⟩

end CognitiveKernel.Yaml
