/-
Module: CognitiveKernel.Proofs.Yaml.Records
Purpose: A record is read from the entries that it knows and from nothing else in its mapping.
Main exports: FieldIs, Follows, Follows.leaf, Follows.covers, Covers.map, Covers.seq,
  Follows.record, ReadByFields, Follows.readByFields
-/
import CognitiveKernel.Proofs.Yaml.Fields
import CognitiveKernel.Proofs.Yaml.Layout

namespace CognitiveKernel.Yaml

open CognitiveKernel.Document (Reading)

variable {α β : Type}

/-! ### Values of fields -/

/-- A field of a record is what its only entry describes, or its default where it has none. -/
inductive FieldIs (content : Content) (name : String) (default : Option α)
    (describes : Content → α → Prop) : α → Prop where
  | present {entry : Content} {value : α} (held : content.held name = [entry])
      (described : describes entry value) : FieldIs content name default describes value
  | absent {value : α} (held : content.held name = []) (declared : default = some value) :
      FieldIs content name default describes value

/-- A content is decoded as a value. -/
def Decodes (decode : Decoder α) (content : Content) (value : α) : Prop :=
  decoded decode content = some value

/-! ### Records that follow a layout -/

/-- A decoder sees in a tree only what its layout knows: nothing of aliases, of the order of
entries and of unknown ones. It fails where a required field is missing, and gives exactly the value
that the tree describes. -/
structure Follows (layout : Layout) (describes : Content → α → Prop) (decode : Decoder α) :
    Prop where
  transparent : Transparent decode
  stable {content other : Content} (change : Rearranges layout content other) :
    decoded decode content = decoded decode other
  strict {content : Content} (misses : Misses layout content) : decoded decode content = none
  decodes_iff {content : Content} {value : α} :
    Decodes decode content value ↔ describes content value

/-- The part of a record that is read goes by its known fields, and needs the required ones. -/
structure Covers (read : Fields → Reading α) (known : List (KnownField Layout)) : Prop where
  stable {fields others : Fields} {values others' : String → List Content}
    (hold : fields.Hold values) (hold' : others.Hold others')
    (keeps : ∀ field ∈ known, Keeps field.layout (values field.name) (others' field.name)) :
    (read fields).result.toOption = (read others).result.toOption
  strict {fields : Fields} {values : String → List Content} (hold : fields.Hold values)
    {field : KnownField Layout} (member : field ∈ known)
    (lacks : (field.isRequired = true ∧ values field.name = []) ∨
      ∃ value ∈ values field.name, Misses field.layout value) :
    (read fields).result.toOption = none

/-- A value that is no record has nothing to rearrange and nothing to miss. -/
theorem Follows.leaf {decode : Decoder α} (transparent : Transparent decode) :
    Follows .leaf (Decodes decode) decode where
  transparent := transparent
  stable := nofun
  strict := nofun
  decodes_iff := Iff.rfl

section

variable {decode : Decoder α} {layout : Layout} {describes : Content → α → Prop}
  {absent : Option α}

theorem Follows.fieldOutcome_eq (follows : Follows layout describes decode)
    {values others : List Content} (keeps : Keeps layout values others) :
    fieldOutcome decode absent values = fieldOutcome decode absent others := by
  cases keeps with
  | reorder same =>
      match values, others, same with
      | [], _, same => rw [same.nil_eq]
      | [value], _, same => rw [List.singleton_perm.mp same]
      | first :: second :: more, others, same =>
          have length := same.length_eq
          match others, length with
          | _ :: _ :: _, _ => rfl
  | @within front back value other change =>
      have same := follows.stable change
      cases front with
      | nil =>
          cases back with
          | nil => exact same
          | cons _ _ => rfl
      | cons _ front =>
          cases front <;> rfl

theorem Follows.fieldOutcome_eq_none (follows : Follows layout describes decode)
    {values : List Content} {value : Content} (member : value ∈ values)
    (misses : Misses layout value) :
    fieldOutcome decode absent values = none := by
  match values, member with
  | [only], member =>
      rw [List.mem_singleton.mp member] at misses
      exact follows.strict misses
  | _ :: _ :: _, _ => rfl

/-- What is read as a field is its value. -/
theorem Follows.read_iff (follows : Follows layout describes decode) {fields : Fields}
    {content : Content} (hold : fields.Hold content.held) {name : String} {value : α} :
    (fields.read name absent decode).result.toOption = some value ↔
      FieldIs content name absent describes value := by
  rw [hold.read follows.transparent]
  constructor
  · intro read
    cases held : content.held name with
    | nil =>
        rw [held] at read
        exact .absent held read
    | cons entry more =>
        rw [held] at read
        cases more with
        | nil => exact .present held (follows.decodes_iff.mp read)
        | cons _ _ => cases read
  · intro field
    cases field with
    | present held described =>
        rw [held]
        exact follows.decodes_iff.mpr described
    | absent held declared =>
        rw [held]
        exact declared

/-- A single field. -/
theorem Follows.covers (follows : Follows layout describes decode) (name : String)
    (absent : Option α) : Covers (·.read name absent decode) [⟨name, absent.isNone, layout⟩] where
  stable := by
    intro fields others values others' hold hold' keeps
    rw [hold.read follows.transparent, hold'.read follows.transparent]
    exact follows.fieldOutcome_eq (keeps _ List.mem_cons_self)
  strict := by
    intro fields values hold field member lacks
    rw [hold.read follows.transparent]
    rw [List.mem_singleton] at member
    subst member
    rcases lacks with ⟨required, none⟩ | ⟨value, member, misses⟩
    · rw [none]
      exact Option.isNone_iff_eq_none.mp required
    · exact follows.fieldOutcome_eq_none member misses

end

section

variable {known more : List (KnownField Layout)} {name : String}

theorem Covers.map {read : Fields → Reading α} (covers : Covers read known) (f : α → β) :
    Covers (fun fields => f <$> read fields) known where
  stable := by
    intro fields others values others' hold hold' keeps
    rw [toOption_result_map, toOption_result_map, covers.stable hold hold' keeps]
  strict := by
    intro fields values hold field member lacks
    rw [toOption_result_map, covers.strict hold member lacks]
    rfl

theorem Covers.seq {function : Fields → Reading (α → β)} {argument : Fields → Reading α}
    (left : Covers function known) (right : Covers argument more) :
    Covers (fun fields => function fields <*> argument fields) (known ++ more) where
  stable := by
    intro fields others values others' hold hold' keeps
    rw [toOption_result_seq, toOption_result_seq,
      left.stable hold hold' fun field member => keeps field (List.mem_append_left more member),
      right.stable hold hold' fun field member => keeps field (List.mem_append_right known member)]
  strict := by
    intro fields values hold field member lacks
    rw [toOption_result_seq]
    rcases List.mem_append.mp member with member | member
    · rw [left.strict hold member lacks]
      rfl
    · rw [right.strict hold member lacks]
      cases (function fields).result.toOption <;> rfl

/-- Two mappings are read alike if they keep the values of all fields. -/
theorem Covers.toOption_record_eq {read : Fields → Reading α} (covers : Covers read known)
    {document other : Document} {node node' : Node Nat} {content content' : Content}
    (expanded : document.Expands node content) (expanded' : other.Expands node' content')
    (same : content.isRecord = content'.isRecord)
    (keeps : ∀ field ∈ known, Keeps field.layout (content.held field.name)
      (content'.held field.name)) :
    (record name read document node).toOption = (record name read other node').toOption := by
  rcases toOption_record expanded with ⟨refused, outcome⟩ | ⟨accepted, fields, hold, outcome⟩
  · rcases toOption_record expanded' with ⟨_, outcome'⟩ | ⟨accepted', _⟩
    · rw [outcome, outcome']
    · rw [refused, accepted'] at same
      cases same
  · rcases toOption_record expanded' with ⟨refused', _⟩ | ⟨_, fields', hold', outcome'⟩
    · rw [accepted, refused'] at same
      cases same
    · rw [outcome, outcome']
      exact covers.stable hold hold' keeps

/-- A record whose fields have different names follows the layout with these fields. -/
theorem Follows.record {read : Fields → Reading α} (covers : Covers read known)
    (distinct : (known.map (·.name)).Nodup) {describes : Content → α → Prop}
    (isRecord : ∀ {content : Content} {value : α}, describes content value →
      content.isRecord = true)
    (read_iff : ∀ {fields : Fields} {content : Content} {value : α}, content.isRecord = true →
      fields.Hold content.held →
      ((read fields).result.toOption = some value ↔ describes content value)) :
    Follows (.record known) describes (record name read) where
  transparent := by
    intro document node content expanded
    apply covers.toOption_record_eq expanded (Document.empty.expands_toNode content) rfl
    intro field _
    exact .refl field.layout _
  stable := by
    intro content other change
    apply covers.toOption_record_eq (Document.empty.expands_toNode content)
      (Document.empty.expands_toNode other) change.isRecord_eq
    intro field member
    exact change.keeps distinct member
  strict := by
    intro content misses
    unfold decoded
    rcases toOption_record (Document.empty.expands_toNode content) with
      ⟨_, outcome⟩ | ⟨_, fields, hold, outcome⟩
    · exact outcome
    · rw [outcome]
      cases misses with
      | here member required absent => exact covers.strict hold member (.inl ⟨required, absent⟩)
      | within member held misses => exact covers.strict hold member (.inr ⟨_, held, misses⟩)
  decodes_iff := by
    intro content value
    unfold Decodes decoded
    rcases toOption_record (Document.empty.expands_toNode content) with
      ⟨refused, outcome⟩ | ⟨accepted, fields, hold, outcome⟩
    · rw [outcome]
      constructor
      · nofun
      · intro described
        rw [isRecord described] at refused
        cases refused
    · rw [outcome]
      exact read_iff accepted hold

end

/-! ### Texts -/

/-- A text with a given tree is read by the fields that a layout names, into a value that the tree
describes. -/
structure ReadByFields (layout : Layout) (describes : Content → α → Prop)
    (read : String → Except KernelError α) (text : String) (tree : Content) : Prop where
  /-- Texts are read alike if they differ in the order of entries and in unknown ones only. -/
  stable {other : String} {tree' : Content} (spells : Spells other tree')
    (rearranged : Rearranged layout tree tree') : (read other).toOption = (read text).toOption
  /-- A value is read exactly if it is the one described. -/
  ok_iff {value : α} : read text = .ok value ↔ describes tree value
  /-- A text without a required field is refused. -/
  strict (misses : Misses layout tree) : ∃ fault, read text = .error (.yaml fault)

section

variable {layout : Layout} {describes : Content → α → Prop} {decode : Decoder α}

/-- Any number of changes that a layout ignores leave the outcome as it is. -/
theorem Follows.decoded_eq (follows : Follows layout describes decode) {content other : Content}
    (rearranged : Rearranged layout content other) :
    decoded decode content = decoded decode other := by
  induction rearranged with
  | rel _ _ change => exact follows.stable change
  | refl _ => rfl
  | symm _ _ _ ih => exact ih.symm
  | trans _ _ _ _ _ first second => exact first.trans second

theorem Follows.readByFields (follows : Follows layout describes decode) {needed : Bool}
    {text : String} {tree : Content} (spells : Spells text tree) :
    ReadByFields layout describes (decodeText needed decode) text tree where
  stable := by
    intro other tree' spells' rearranged
    rw [follows.transparent.decodeText spells, follows.transparent.decodeText spells']
    exact (follows.decoded_eq rearranged).symm
  ok_iff := by
    intro value
    rw [← toOption_eq_some_iff, follows.transparent.decodeText spells]
    exact follows.decodes_iff
  strict := by
    intro misses
    apply decodeText_eq_error
    rw [follows.transparent.decodeText spells]
    exact follows.strict misses

end

end CognitiveKernel.Yaml
