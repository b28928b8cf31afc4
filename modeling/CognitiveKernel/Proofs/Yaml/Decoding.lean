/-
Module: CognitiveKernel.Proofs.Yaml.Decoding
Purpose: Numbers, texts, sequences, maps and records are read from the trees they are written as.
Main exports: Faithful, faithful_ofNumber, faithful_sequence, faithful_row, faithful_nameMap,
  Faithful.of_fields, Fields.read_here, Faithful.decodeText_print
-/
import CognitiveKernel.Proofs.Binary64.Bits
import CognitiveKernel.Proofs.NameMap
import CognitiveKernel.Proofs.Yaml.Document

namespace CognitiveKernel.Yaml

open CognitiveKernel.Document (Entry Fault Record Reading)

variable {α : Type} {document : Document}

/-- A decoder reads from the tree that a value is written as what such trees keep of it: all but the
bits of NaN. -/
structure Faithful (encode : α → Tree) (decode : Decoder α) (kept : α → α) : Prop where
  presentable (value : α) : (encode value).Presentable
  decode_encode (document : Document) (value : α) :
    decode document (encode value).toNode = .ok (kept value)

/-! ### Scalars -/

/-- A text that begins with a digit, with or without a minus sign, is no word for a number. -/
theorem number?_ofList {content more : List Char} {c : Char} (digit : Decimal.isDigit c = true)
    (start : content = c :: more ∨ content = '-' :: c :: more) :
    number? (String.ofList content) = (Binary64.ofNumeral? content).filter Binary64.isFinite := by
  have letters : ∀ word ∈ [".inf", ".Inf", ".INF", "-.inf", "-.Inf", "-.INF", ".nan", ".NaN",
      ".NAN"], Binary64.isWord word = true := by decide
  have notWord := fun word member =>
    Binary64.ofList_ne_word digit start (letters word member)
  simp only [List.forall_mem_cons] at notWord
  have noPlus : ∃ d tail, content = d :: tail ∧ d ≠ '+' := by
    rcases start with rfl | rfl
    · exact ⟨c, more, rfl, Decimal.isDigit_ne digit (by decide)⟩
    · exact ⟨'-', c :: more, rfl, by decide⟩
  obtain ⟨d, tail, rfl, notPlus⟩ := noPlus
  simp [number?, -String.ofList_cons, notPlus, notWord]

theorem number?_writeWith (value : Binary64) :
    number? (String.ofList (value.writeWith spelling (Magnitude.write .yaml))) =
      some value.upToNaN := by
  cases value with
  | nan bits =>
      have word : number? (String.ofList spelling.nan) = some (.nan .quiet) := by decide
      exact word
  | number negative magnitude =>
      cases finite : magnitude.isFinite with
      | true =>
          have finiteNumber : (Binary64.number negative magnitude).isFinite = true := finite
          have read := Binary64.ofNumeral?_writeWith regular_yaml spelling finiteNumber
          obtain ⟨c, more, digit, start⟩ :=
            Binary64.exists_writeWith_eq_cons regular_yaml spelling finiteNumber
          rw [number?_ofList digit start, read]
          exact Option.filter_some_pos finite
      | false =>
          rw [magnitude.eq_infinity finite]
          cases negative <;> rfl

theorem faithful_ofNumber : Faithful Tree.ofNumber number Binary64.upToNaN where
  presentable := Scalar.presentable_ofNumber
  decode_encode := by
    intro document value
    simp only [Tree.ofNumber, Tree.toNode, Scalar.toNode, Scalar.ofNumber, number, spelled,
      Document.follow, isSpelled, decide_true, Bool.true_or, if_true, number?_writeWith]
    rfl

theorem faithful_ofText : Faithful Tree.ofText text id where
  presentable := Scalar.presentable_ofText
  decode_encode := fun _ _ => rfl

theorem faithful_ofBoolean : Faithful Tree.ofBoolean boolean id where
  presentable := Scalar.presentable_ofBoolean
  decode_encode := by
    intro document value
    cases value <;> rfl

/-- A tag is read as what it names. -/
theorem variant_ofText {tags : List String} {ofTag? : String → Option α} {tag : String} {value : α}
    (named : ofTag? tag = some value) :
    variant tags ofTag? document (Tree.ofText tag).toNode = .ok value := by
  simp only [variant, Tree.ofText, Tree.toNode, Scalar.toNode, Document.follow, localName?,
    Properties.none, Scalar.ofText, tagged, named]

/-! ### Collections -/

theorem nodesOfItems_eq_map {ρ : Type} (items : List Tree) :
    nodesOfItems (ρ := ρ) items = items.map Tree.toNode := by
  induction items with
  | nil => rfl
  | cons item items ih => rw [nodesOfItems, ih, List.map_cons]

theorem nodesOfEntries_eq_map {ρ : Type} (entries : List (Scalar × Tree)) :
    nodesOfEntries (ρ := ρ) entries =
      entries.map fun entry => (entry.1.toNode, entry.2.toNode) := by
  induction entries with
  | nil => rfl
  | cons entry entries ih =>
      obtain ⟨key, value⟩ := entry
      rw [nodesOfEntries, ih, List.map_cons]

theorem itemsPresentable_of_forall {items : List Tree}
    (presentable : ∀ item ∈ items, item.Presentable) : ItemsPresentable items := by
  induction items with
  | nil => trivial
  | cons item items ih =>
      exact ⟨presentable item List.mem_cons_self,
        ih fun other member => presentable other (List.mem_cons_of_mem item member)⟩

theorem readItems_map {encode : α → Tree} {decode : Decoder α} {kept : α → α}
    (faithful : Faithful encode decode kept) (values : List α) :
    readItems decode document ((values.map encode).map Tree.toNode) =
      .ok (values.map kept) := by
  have from_ (start : Nat) :
      (((values.map encode).map Tree.toNode).zipIdx start).mapM (fun item =>
        (decode document item.1).mapError (·.within (.index item.2))) =
          Except.ok (values.map kept) := by
    induction values generalizing start with
    | nil => rfl
    | cons value values ih =>
        rw [List.map_cons, List.map_cons, List.zipIdx_cons, List.mapM_cons, ih]
        simp only [faithful.decode_encode]
        rfl
  exact from_ 0

/-- A sequence is read item by item. -/
theorem faithful_sequence {encode : α → Tree} {decode : Decoder α} {kept : α → α}
    (faithful : Faithful encode decode kept) :
    Faithful (fun values => .sequence (values.map encode)) (sequence decode) (List.map kept) where
  presentable := by
    intro values
    apply itemsPresentable_of_forall
    intro item member
    obtain ⟨value, _, rfl⟩ := List.mem_map.mp member
    exact faithful.presentable value
  decode_encode := by
    intro document values
    have items : items? document (Tree.sequence (values.map encode)).toNode =
        some ((values.map encode).map Tree.toNode) := by
      rw [Tree.toNode, nodesOfItems_eq_map]
      rfl
    rw [sequence, items]
    exact readItems_map faithful values

/-- A row is read item by item, and has as many as are asked for. -/
theorem faithful_row {encode : α → Tree} {decode : Decoder α} {kept : α → α} {length : Nat}
    (faithful : Faithful encode decode kept) :
    Faithful (fun values : Vector α length => .sequence (values.toList.map encode))
      (row length decode) (Vector.map kept) where
  presentable := fun values => (faithful_sequence faithful).presentable values.toList
  decode_encode := by
    intro document values
    have items : items? document (Tree.sequence (values.toList.map encode)).toNode =
        some ((values.toList.map encode).map Tree.toNode) := by
      rw [Tree.toNode, nodesOfItems_eq_map]
      rfl
    have size : ((values.toList.map encode).map (Tree.toNode (ρ := Nat))).length = length := by
      simp
    have all : ((values.toList.map encode).map (Tree.toNode (ρ := Nat))).take length =
        (values.toList.map encode).map Tree.toNode := List.take_of_length_le (Nat.le_of_eq size)
    have read : readItems decode document
        (((values.toList.map encode).map Tree.toNode).take length) =
          .ok (values.toList.map kept) := by
      rw [all, readItems_map faithful]
    have whole : (values.toList.map kept).toArray.size = length := by simp
    have fits : ((values.toList.map encode).map (Tree.toNode (ρ := Nat))).length ≤ length :=
      Nat.le_of_eq size
    have same : Vector.mk (values.toList.map kept).toArray whole = values.map kept := by
      obtain ⟨array, rfl⟩ := values
      apply Vector.toList_inj.mp
      rw [Vector.toList_map]
      rfl
    simp only [row, items, read]
    refine (dif_pos whole).trans ((if_pos fits).trans ?_)
    rw [same]
    rfl

theorem presentable_ofFields {fields : List (String × Tree)}
    (presentable : ∀ field ∈ fields, field.2.Presentable) : (Tree.ofFields fields).Presentable := by
  induction fields with
  | nil => trivial
  | cons field fields ih =>
      exact ⟨Scalar.presentable_ofText field.1, presentable field List.mem_cons_self,
        ih fun other member => presentable other (List.mem_cons_of_mem field member)⟩

/-- The entries of a record or a map, as nodes. -/
def fieldNodes (fields : List (String × Tree)) : List (Node Nat × Node Nat) :=
  fields.map fun field => ((Scalar.ofText field.1).toNode, field.2.toNode)

theorem entries?_ofFields (fields : List (String × Tree)) :
    entries? document (Tree.ofFields fields).toNode = some (fieldNodes fields) := by
  have entries := nodesOfEntries_eq_map (ρ := Nat)
    (fields.map fun field => (Scalar.ofText field.1, field.2))
  rw [List.map_map] at entries
  rw [Tree.ofFields, Tree.toNode, entries]
  rfl

/-- A map is read entry by entry. -/
theorem faithful_nameMap {encode : α → Tree} {decode : Decoder α} {kept : α → α}
    (faithful : Faithful encode decode kept) :
    Faithful (fun map : NameMap α => .ofFields (map.entries.map fun entry =>
      (entry.1, encode entry.2))) (nameMap decode) (NameMap.mapValues kept) where
  presentable := by
    intro map
    apply presentable_ofFields
    intro field member
    obtain ⟨entry, _, rfl⟩ := List.mem_map.mp member
    exact faithful.presentable entry.2
  decode_encode := by
    intro document map
    have read (entries : List (String × α)) :
        (fieldNodes (entries.map fun entry => (entry.1, encode entry.2))).mapM
          (mapEntry decode document) =
            Except.ok (entries.map fun entry => (entry.1, kept entry.2)) := by
      induction entries with
      | nil => rfl
      | cons entry entries ih =>
          rw [fieldNodes] at ih ⊢
          rw [List.map_cons, List.map_cons, List.mapM_cons, ih]
          simp only [mapEntry, entryValue, faithful.decode_encode]
          rfl
    simp only [nameMap, entries?_ofFields, read]
    exact congrArg Except.ok (map.mapValues kept).ofList_entries

/-! ### Records -/

section

variable (fields : List (String × Tree))

theorem readableKeys_fieldNodes : readableKeys document (fieldNodes fields) = .value () := by
  simp only [readableKeys]
  split
  · rfl
  · rename_i position fault more faults
    have listed := List.mem_filterMap.mp (faults ▸ List.mem_cons_self)
    obtain ⟨entry, member, faulty⟩ := listed
    rw [fieldNodes, List.zipIdx_map] at member
    obtain ⟨field, _, rfl⟩ := List.mem_map.mp member
    cases faulty

theorem namedEntries_fieldNodes :
    namedEntries document (fieldNodes fields) =
      fields.zipIdx.map fun field =>
        ⟨field.2, field.1.1, (Scalar.ofText field.1.1).toNode, field.1.2.toNode⟩ := by
  rw [namedEntries, fieldNodes, List.zipIdx_map, List.filterMap_map, ← List.filterMap_eq_map]
  rfl

/-- The fields of a written record of some size, the first of them at a given position. -/
def writtenFields (document : Document) (size start : Nat) (fields : List (String × Tree)) :
    Fields :=
  { document := document
    record :=
      { size := size
        entries := (fields.zipIdx start).map fun field =>
          ⟨field.2, field.1.1, (Scalar.ofText field.1.1).toNode, field.1.2.toNode⟩
        missing := fun field => .here (.missingField field) } }

theorem record_ofFields (name : String) (read : Fields → Reading α) :
    record name read document (Tree.ofFields fields).toNode =
      (read (writtenFields document fields.length 0 fields)).result := by
  have entries : entries? document (Tree.ofFields fields).toNode = some (fieldNodes fields) :=
    entries?_ofFields fields
  have size : (fieldNodes fields).length = fields.length := List.length_map _
  simp only [record, entries, readableKeys_fieldNodes, namedEntries_fieldNodes, size,
    writtenFields]
  cases read _ <;> rfl

/-- A record is read from its fields if they are. -/
theorem Faithful.of_fields {encode : α → Tree} {fields : α → List (String × Tree)} {name : String}
    {read : Fields → Reading α} {kept : α → α}
    (written : ∀ value, encode value = .ofFields (fields value))
    (presentable : ∀ value, ∀ field ∈ fields value, field.2.Presentable)
    (reads : ∀ document value,
      read (writtenFields document (fields value).length 0 (fields value)) =
        .value (kept value)) :
    Faithful encode (record name read) kept where
  presentable := by
    intro value
    rw [written]
    exact presentable_ofFields (presentable value)
  decode_encode := by
    intro document value
    rw [written, record_ofFields, reads]
    rfl

end

section

variable {encode : α → Tree} {decode : Decoder α} {kept : α → α} {size start : Nat}
  {name : String} {absent : Option α} {fields : List (String × Tree)}

/-- A field is read where it stands, if there is no other of its name. -/
theorem Fields.read_decoded {tree : Tree} {value : α}
    (decoded : decode document tree.toNode = .ok value) (once : ∀ field ∈ fields, field.1 ≠ name) :
    (writtenFields document size start ((name, tree) :: fields)).read name absent decode =
      .value value := by
  have others : ((fields.zipIdx (start + 1)).map fun field =>
      (⟨field.2, field.1.1, (Scalar.ofText field.1.1).toNode, field.1.2.toNode⟩ :
        Entry (Node Nat × Node Nat))).filter (·.name = name) = [] := by
    rw [List.filter_eq_nil_iff]
    intro entry member
    obtain ⟨⟨field, position⟩, stands, rfl⟩ := List.mem_map.mp member
    simpa using once field (List.fst_mem_of_mem_zipIdx stands)
  simp only [Fields.read, Record.field, writtenFields, List.zipIdx_cons, List.map_cons,
    List.filter_cons, decide_true, if_true, others, entryValue, decoded]
  rfl

theorem Fields.read_here (faithful : Faithful encode decode kept) {value : α}
    (once : ∀ field ∈ fields, field.1 ≠ name) :
    (writtenFields document size start ((name, encode value) :: fields)).read name absent decode =
      .value (kept value) :=
  read_decoded (faithful.decode_encode document value) once

/-- A field is not read where another one stands. -/
theorem Fields.read_later {other : String} {tree : Tree} (differs : other ≠ name) :
    (writtenFields document size start ((other, tree) :: fields)).read name absent decode =
      (writtenFields document size (start + 1) fields).read name absent decode := by
  simp only [Fields.read, Record.field, writtenFields, List.zipIdx_cons, List.map_cons,
    List.filter_cons, differs, decide_false, Bool.false_eq_true, if_false]

/-- A field that is not written has the value for its absence. -/
theorem Fields.read_nowhere {value : α} :
    (writtenFields document size start []).read name (some value) decode = .value value := rfl

end

/-! ### Texts -/

/-- What is written as a record is read back from its text. -/
theorem Faithful.decodeText_print {encode : α → Tree} {decode : Decoder α} {kept : α → α}
    (faithful : Faithful encode decode kept) {value : α} {field : String × Tree}
    {more : List (String × Tree)} (record : encode value = .ofFields (field :: more)) :
    decodeText false decode (encode value).print = .ok (kept value) := by
  have presentable := faithful.presentable value
  have decoded := faithful.decode_encode (.ofNode (encode value).toNode) value
  rw [record, Tree.ofFields, List.map_cons] at presentable decoded ⊢
  rw [Yaml.decodeText_print decode presentable, decoded]
  rfl

end CognitiveKernel.Yaml
