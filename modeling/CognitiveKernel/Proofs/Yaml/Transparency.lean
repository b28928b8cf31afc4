/-
Module: CognitiveKernel.Proofs.Yaml.Transparency
Purpose: Decoders cannot tell an alias from what it stands for.
Main exports: decoded, Transparent, Transparent.sequence, Transparent.row, Transparent.nameMap,
  Transparent.decodeText
-/
import CognitiveKernel.Proofs.Yaml.Content
import Mathlib.Tactic.SplitIfs

namespace CognitiveKernel.Yaml

open CognitiveKernel.Document (Fault)

variable {α β : Type} {document : Document} {node : Node Nat} {content : Content}

/-! ### Outcomes -/

section

variable {ε ε' : Type}

theorem toOption_eq_some_iff {outcome : Except ε α} {value : α} :
    outcome.toOption = some value ↔ outcome = .ok value := by
  cases outcome with
  | ok other => exact ⟨fun same => congrArg _ (Option.some.inj same), fun same => same ▸ rfl⟩
  | error reason => exact ⟨nofun, nofun⟩

theorem toOption_map (f : α → β) (outcome : Except ε α) :
    (outcome.map f).toOption = outcome.toOption.map f := by
  cases outcome <;> rfl

theorem toOption_mapError (f : ε → ε') (outcome : Except ε α) :
    (outcome.mapError f).toOption = outcome.toOption := by
  cases outcome <;> rfl

theorem toOption_bind (outcome : Except ε α) (next : α → Except ε β) :
    (outcome >>= next).toOption = outcome.toOption.bind fun value => (next value).toOption := by
  cases outcome <;> rfl

theorem toOption_mapM (f : α → Except ε β) (values : List α) :
    (values.mapM f).toOption = values.mapM fun value => (f value).toOption := by
  induction values with
  | nil => rfl
  | cons value values ih =>
      simp only [List.mapM_cons, toOption_bind, ih]
      rfl

theorem mapM_eq_of_forall₂ {γ : Type} {f : α → Option γ} {g : β → Option γ} {left : List α}
    {right : List β} (same : List.Forall₂ (fun a b => f a = g b) left right) :
    left.mapM f = right.mapM g := by
  induction same with
  | nil => rfl
  | cons head _ ih => rw [List.mapM_cons, List.mapM_cons, head, ih]

end

/-! ### Decoders that see nothing but the content -/

/-- What a decoder makes of a content, if it does not fail. -/
def decoded (decode : Decoder α) (content : Content) : Option α :=
  (decode .empty content.toNode).toOption

/-- A decoder cannot tell an alias from what it stands for, except in the faults it reports. -/
def Transparent (decode : Decoder α) : Prop :=
  ∀ ⦃document : Document⦄ ⦃node : Node Nat⦄ ⦃content : Content⦄, document.Expands node content →
    (decode document node).toOption = decoded decode content

/-- A decoder is transparent if its outcome is a function of the content. -/
theorem Transparent.of_outcome {decode : Decoder α} (outcome : Content → Option α)
    (tells : ∀ {document : Document} {node : Node Nat} {content : Content},
      document.Expands node content → (decode document node).toOption = outcome content) :
    Transparent decode := by
  intro document node content expanded
  rw [tells expanded, decoded, tells (Document.empty.expands_toNode content)]

/-- A decoder that accepts scalars only, going by their tag, style and text. -/
structure ReadsScalars (decode : Decoder α)
    (outcome : Option TagText → ScalarStyle → String → Option α) : Prop where
  scalar {document : Document} {node : Node Nat} {properties : Properties Nat}
    {style : ScalarStyle} {text : String}
    (followed : document.follow node = .scalar properties style text) :
    (decode document node).toOption = outcome properties.tag style text
  other {document : Document} {node : Node Nat}
    (followed : ∀ properties style text, document.follow node ≠ .scalar properties style text) :
    (decode document node).toOption = none

/-- What becomes of a content if only scalars are accepted. -/
def Content.ifScalar (outcome : Option TagText → ScalarStyle → String → Option α) :
    Content → Option α
  | .scalar tag style text => outcome tag style text
  | _ => none

theorem ReadsScalars.transparent {decode : Decoder α}
    {outcome : Option TagText → ScalarStyle → String → Option α}
    (reads : ReadsScalars decode outcome) : Transparent decode := by
  apply Transparent.of_outcome (Content.ifScalar outcome)
  intro document node content expanded
  cases expanded with
  | scalar followed => exact reads.scalar followed
  | sequence followed => exact reads.other (by simp [followed])
  | mapping followed => exact reads.other (by simp [followed])

/-- A decoder that matches on scalars is one of them. -/
theorem ReadsScalars.of_match {fault : Document → Node Nat → Fault}
    {accept : Document → Node Nat → Properties Nat → ScalarStyle → String → Except Fault α}
    {outcome : Option TagText → ScalarStyle → String → Option α}
    (accepts : ∀ document node properties style text,
      (accept document node properties style text).toOption = outcome properties.tag style text) :
    ReadsScalars (fun document node =>
      match document.follow node with
      | .scalar properties style text => accept document node properties style text
      | _ => .error (fault document node)) outcome where
  scalar := by
    intro document node properties style text followed
    simp only [followed, accepts]
  other := by
    intro document node followed
    split
    · exact absurd ‹_› (followed _ _ _)
    · rfl

theorem readsScalars_spelled {tag : TagText} {read : String → Option α} {expected : String} :
    ReadsScalars (spelled tag read expected) fun given style text =>
      if isSpelled tag ⟨none, given⟩ style then read text else none := by
  apply ReadsScalars.of_match
  intro document node properties style text
  -- The anchor of a scalar has no part in how it is read.
  change (if isSpelled tag properties style then _ else _ : Except _ _).toOption =
    if isSpelled tag properties style then _ else _
  split_ifs
  · cases read text <;> rfl
  · rfl

theorem readsScalars_textAs {expected : String} :
    ReadsScalars (textAs expected) fun _ _ text => some text := by
  apply ReadsScalars.of_match
  intro _ _ _ _ text
  rfl

theorem readsScalars_nothing :
    ReadsScalars nothing fun _ style text =>
      if style = .plain && denotesNothing text then some () else none := by
  apply ReadsScalars.of_match
  intro _ _ _ style text
  split_ifs <;> rfl

theorem readsScalars_optionalPath :
    ReadsScalars optionalPath fun tag style text =>
      if style ≠ .plain then some (some text)
      else match tag with
        | none => some (if denotesNothing text then none else some text)
        | some tag =>
            if tag ≠ standardTag "null" then some (some text)
            else if isNullWord text then some none else none where
  scalar := by
    intro document node properties style text followed
    have present : textAs "path string" document node = .ok text := by
      simp only [textAs, followed]
    unfold optionalPath
    rw [followed, present]
    cases style with
    | plain =>
        obtain ⟨anchor, tag⟩ := properties
        cases tag with
        | none =>
            simp only [ne_eq, not_true, if_false]
            split_ifs <;> rfl
        | some tag =>
            simp only [ne_eq, not_true, if_false]
            split_ifs <;> rfl
    | _ => rfl
  other := by
    intro document node followed
    unfold optionalPath
    split
    · exact absurd ‹_› (followed _ _ _)
    · rw [toOption_map, readsScalars_textAs.other followed]
      rfl

/-- A tag of its own names a value, if what it stands on has no content. -/
theorem toOption_byTag {tags : List String} {ofTag? : String → Option α} {place : Document.Place}
    {name : String} :
    (tagged tags ofTag? place name >>= fun result =>
      nothing document node >>= fun _ => pure result).toOption =
      (ofTag? name).bind fun result => (nothing document node).toOption.map fun _ => result := by
  rw [toOption_bind, tagged]
  cases ofTag? name with
  | none => rfl
  | some result =>
      cases nothing document node <;> rfl

theorem readsScalars_variant {tags : List String} {ofTag? : String → Option α} :
    ReadsScalars (variant tags ofTag?) fun tag style text =>
      (localName? (ρ := Nat) ⟨none, tag⟩).elim (ofTag? text) fun name =>
        if style = .plain && denotesNothing text then ofTag? name else none where
  scalar := by
    intro document node properties style text followed
    have named : localName? properties = localName? (ρ := Nat) ⟨none, properties.tag⟩ := rfl
    rw [← named]
    cases called : localName? properties with
    | none =>
        simp only [variant, followed, called, tagged]
        cases ofTag? text <;> rfl
    | some name =>
        simp only [variant, followed, called, Option.elim_some]
        refine toOption_byTag.trans ?_
        rw [readsScalars_nothing.scalar followed]
        cases ofTag? name <;> split_ifs <;> rfl
  other := by
    intro document node followed
    have refused (name : String) :
        ((ofTag? name).bind fun result => (nothing document node).toOption.map fun _ => result) =
          none := by
      rw [readsScalars_nothing.other followed]
      cases ofTag? name <;> rfl
    unfold variant
    split
    · exact absurd ‹_› (followed _ _ _)
    · cases localName? _ with
      | none => rfl
      | some name => exact toOption_byTag.trans (refused name)
    · cases localName? _ with
      | none => rfl
      | some name => exact toOption_byTag.trans (refused name)
    · rfl

theorem transparent_number : Transparent number := readsScalars_spelled.transparent

/-- A plain scalar is read as a number by its spelling. -/
theorem decoded_number (tag : Option TagText) (text : String) :
    decoded number (.scalar tag .plain text) = number? text :=
  @ReadsScalars.scalar _ _ _ readsScalars_spelled .empty _ ⟨none, tag⟩ .plain text rfl

theorem transparent_boolean : Transparent boolean := readsScalars_spelled.transparent

theorem transparent_text : Transparent text := readsScalars_textAs.transparent

/-! ### Collections of transparent parts -/

theorem toOption_readItems (item : Decoder α) (document : Document) (nodes : List (Node Nat)) :
    (readItems item document nodes).toOption =
      nodes.mapM fun node => (item document node).toOption := by
  have from_ (start : Nat) :
      ((nodes.zipIdx start).mapM fun node =>
        (item document node.1).mapError (·.within (.index node.2))).toOption =
        nodes.mapM fun node => (item document node).toOption := by
    induction nodes generalizing start with
    | nil => rfl
    | cons node nodes ih =>
        have rest := ih (start + 1)
        rw [List.zipIdx_cons, List.mapM_cons, List.mapM_cons, toOption_bind, toOption_mapError]
        cases (item document node).toOption with
        | none => rfl
        | some value =>
            simp only [Option.bind_some, toOption_bind, rest]
            rfl
  exact from_ 0

theorem Transparent.readItems {item : Decoder α} (transparent : Transparent item)
    {nodes : List (Node Nat)} {items : List Content}
    (expanded : List.Forall₂ document.Expands nodes items) :
    (readItems item document nodes).toOption = items.mapM (decoded item) := by
  rw [toOption_readItems]
  apply mapM_eq_of_forall₂
  exact expanded.imp fun _ _ head => transparent head

theorem Transparent.sequence {item : Decoder α} (transparent : Transparent item) :
    Transparent (sequence item) := by
  apply Transparent.of_outcome fun content => content.items?.bind (·.mapM (decoded item))
  intro document node content expanded
  have listed := expanded.items?
  unfold Yaml.sequence
  generalize items? document node = nodes, content.items? = items at listed
  cases listed with
  | none => rfl
  | some items => exact transparent.readItems items

theorem forall₂_take {R : α → β → Prop} {left : List α} {right : List β}
    (related : List.Forall₂ R left right) (length : Nat) :
    List.Forall₂ R (left.take length) (right.take length) := by
  induction related generalizing length with
  | nil => simp
  | cons head _ ih =>
      cases length with
      | zero => exact .nil
      | succ length => exact .cons head (ih length)

theorem Transparent.row {item : Decoder α} (transparent : Transparent item) (length : Nat) :
    Transparent (row length item) := by
  apply Transparent.of_outcome fun content => content.items?.bind fun items =>
    ((items.take length).mapM (decoded item)).bind fun values =>
      if h : values.toArray.size = length then
        if items.length ≤ length then some ⟨values.toArray, h⟩ else none
      else none
  intro document node content expanded
  have listed := expanded.items?
  unfold Yaml.row
  generalize items? document node = nodes, content.items? = items at listed
  cases listed with
  | none => rfl
  | @some nodes items related =>
      simp only [toOption_bind, transparent.readItems (forall₂_take related length),
        related.length_eq, Option.bind_some]
      congr 1
      funext values
      split_ifs <;> rfl

theorem Transparent.nameMap {value : Decoder α} (transparent : Transparent value) :
    Transparent (nameMap value) := by
  apply Transparent.of_outcome fun content => content.entries?.bind fun entries =>
    (entries.mapM fun entry => (decoded text entry.1).bind fun name =>
      (decoded value entry.2).map fun held => (name, held)).map NameMap.ofList
  intro document node content expanded
  have listed := expanded.entries?
  unfold Yaml.nameMap
  generalize entries? document node = nodes, content.entries? = entries at listed
  cases listed with
  | none => rfl
  | @some nodes entries related =>
      simp only [toOption_map, toOption_mapM, Option.bind_some]
      congr 1
      apply mapM_eq_of_forall₂
      apply related.imp
      rintro ⟨key, node⟩ entry ⟨named, held⟩
      simp only [mapEntry, toOption_bind, entryValue, toOption_mapError, transparent_text named,
        transparent held]
      congr 1
      funext name
      cases decoded value entry.2 <;> rfl

/-! ### Texts -/

/-- What is read from a text is what its content is decoded as. -/
theorem Transparent.decodeText {decode : Decoder α} (transparent : Transparent decode)
    {needed : Bool} {text : String} (spells : Spells text content) :
    (decodeText needed decode text).toOption = decoded decode content := by
  obtain ⟨document, root, spelled, rooted, expanded⟩ := spells
  simp only [Yaml.decodeText, spelled, rooted, toOption_mapError]
  exact transparent expanded

theorem exists_decodeText (needed : Bool) (decode : Decoder α) (text : String) :
    ∃ outcome : Except Fault α, decodeText needed decode text = outcome.mapError .yaml := by
  unfold decodeText
  split
  · exact ⟨.error .malformed, rfl⟩
  · split
    · exact ⟨_, rfl⟩
    · split
      · exact ⟨.error (.here .noValue), rfl⟩
      · exact ⟨_, rfl⟩

/-- A text that does not describe a value is refused with a fault of the document. -/
theorem decodeText_eq_error {needed : Bool} {decode : Decoder α} {text : String}
    (refused : (decodeText needed decode text).toOption = none) :
    ∃ fault, decodeText needed decode text = .error (.yaml fault) := by
  obtain ⟨outcome, mapped⟩ := exists_decodeText needed decode text
  rw [mapped] at refused ⊢
  cases outcome with
  | ok value => cases refused
  | error fault => exact ⟨fault, rfl⟩

end CognitiveKernel.Yaml
