/-
Module: CognitiveKernel.Proofs.Yaml.Content
Purpose: What a document says once its aliases are followed.
Main exports: Content, Document.Expands, Spells, Spells.unique, Content.isRecord, Content.held
-/
import CognitiveKernel.Yaml.Decoding
import Mathlib.Data.List.Forall2
import Mathlib.Data.Option.Basic

namespace CognitiveKernel.Yaml

/-! ### Trees without aliases -/

/-- A node with all aliases in it replaced by what they stand for, so that anchors are of no use. -/
inductive Content where
  | scalar (tag : Option TagText) (style : ScalarStyle) (text : String)
  | sequence (tag : Option TagText) (items : List Content)
  | mapping (tag : Option TagText) (entries : List (Content × Content))

mutual

/-- The node that has the given content and no anchors. -/
def Content.toNode : Content → Node Nat
  | .scalar tag style text => .scalar ⟨none, tag⟩ style text
  | .sequence tag items => .sequence ⟨none, tag⟩ (nodesOfContents items)
  | .mapping tag entries => .mapping ⟨none, tag⟩ (nodesOfContentEntries entries)

def nodesOfContents : List Content → List (Node Nat)
  | [] => []
  | item :: more => item.toNode :: nodesOfContents more

def nodesOfContentEntries : List (Content × Content) → List (Node Nat × Node Nat)
  | [] => []
  | (key, value) :: more => (key.toNode, value.toNode) :: nodesOfContentEntries more

end

mutual

/-- A node of a document has the given content. A node that holds an alias to itself has none. -/
inductive Document.Expands (document : Document) : Node Nat → Content → Prop where
  | scalar {node : Node Nat} {properties : Properties Nat} {style : ScalarStyle} {text : String}
      (followed : document.follow node = .scalar properties style text) :
      Expands document node (.scalar properties.tag style text)
  | sequence {node : Node Nat} {properties : Properties Nat} {nodes : List (Node Nat)}
      {items : List Content} (followed : document.follow node = .sequence properties nodes)
      (expanded : ItemsExpand document nodes items) :
      Expands document node (.sequence properties.tag items)
  | mapping {node : Node Nat} {properties : Properties Nat} {nodes : List (Node Nat × Node Nat)}
      {entries : List (Content × Content)}
      (followed : document.follow node = .mapping properties nodes)
      (expanded : EntriesExpand document nodes entries) :
      Expands document node (.mapping properties.tag entries)

/-- The items of a sequence have the given contents. -/
inductive Document.ItemsExpand (document : Document) : List (Node Nat) → List Content → Prop where
  | nil : ItemsExpand document [] []
  | cons {node : Node Nat} {content : Content} {nodes : List (Node Nat)} {items : List Content}
      (head : Expands document node content) (rest : ItemsExpand document nodes items) :
      ItemsExpand document (node :: nodes) (content :: items)

/-- The keys and values of a mapping have the given contents. -/
inductive Document.EntriesExpand (document : Document) :
    List (Node Nat × Node Nat) → List (Content × Content) → Prop where
  | nil : EntriesExpand document [] []
  | cons {key value : Node Nat} {keyContent valueContent : Content}
      {nodes : List (Node Nat × Node Nat)} {entries : List (Content × Content)}
      (head : Expands document key keyContent) (held : Expands document value valueContent)
      (rest : EntriesExpand document nodes entries) :
      EntriesExpand document ((key, value) :: nodes) ((keyContent, valueContent) :: entries)

end

mutual

/-- A content is that of its own node, in any document. -/
theorem Document.expands_toNode (document : Document) (content : Content) :
    document.Expands content.toNode content := by
  cases content with
  | scalar tag style text => exact @Document.Expands.scalar document _ ⟨none, tag⟩ _ _ rfl
  | sequence tag items =>
      exact @Document.Expands.sequence document _ ⟨none, tag⟩ _ _ rfl
        (document.itemsExpand_nodes items)
  | mapping tag entries =>
      exact @Document.Expands.mapping document _ ⟨none, tag⟩ _ _ rfl
        (document.entriesExpand_nodes entries)

theorem Document.itemsExpand_nodes (document : Document) (items : List Content) :
    document.ItemsExpand (nodesOfContents items) items := by
  cases items with
  | nil => exact .nil
  | cons item more =>
      exact .cons (document.expands_toNode item) (document.itemsExpand_nodes more)

theorem Document.entriesExpand_nodes (document : Document) (entries : List (Content × Content)) :
    document.EntriesExpand (nodesOfContentEntries entries) entries := by
  cases entries with
  | nil => exact .nil
  | cons entry more =>
      obtain ⟨key, value⟩ := entry
      exact .cons (document.expands_toNode key) (document.expands_toNode value)
        (document.entriesExpand_nodes more)

end

theorem Document.ItemsExpand.forall₂ {document : Document} {nodes : List (Node Nat)}
    {items : List Content}
    (expanded : document.ItemsExpand nodes items) : List.Forall₂ document.Expands nodes items := by
  induction items generalizing nodes with
  | nil =>
      cases expanded
      exact .nil
  | cons item more ih =>
      cases expanded with
      | cons head rest => exact .cons head (ih rest)

/-- A key and a value have the given contents. -/
def Document.EntryExpands (document : Document) (node : Node Nat × Node Nat)
    (entry : Content × Content) : Prop :=
  document.Expands node.1 entry.1 ∧ document.Expands node.2 entry.2

theorem Document.EntriesExpand.forall₂ {document : Document}
    {nodes : List (Node Nat × Node Nat)} {entries : List (Content × Content)}
    (expanded : document.EntriesExpand nodes entries) :
    List.Forall₂ document.EntryExpands nodes entries := by
  induction entries generalizing nodes with
  | nil =>
      cases expanded
      exact .nil
  | cons entry more ih =>
      cases expanded with
      | cons head held rest => exact .cons ⟨head, held⟩ (ih rest)

/-- A text spells one document, and the root of that has the given content. -/
def Spells (text : String) (content : Content) : Prop :=
  ∃ document root, Document.ofText? text = some document ∧ document.root = some root ∧
    document.Expands root content

mutual

/-- A node has at most one content. -/
theorem Document.Expands.unique {document : Document} {node : Node Nat} {content other : Content}
    (left : document.Expands node content) (right : document.Expands node other) :
    content = other := by
  cases left with
  | scalar followed =>
      cases right with
      | scalar followed' => cases followed.symm.trans followed'; rfl
      | sequence followed' => cases followed.symm.trans followed'
      | mapping followed' => cases followed.symm.trans followed'
  | sequence followed expanded =>
      cases right with
      | scalar followed' => cases followed.symm.trans followed'
      | sequence followed' expanded' =>
          cases followed.symm.trans followed'
          rw [expanded.unique expanded']
      | mapping followed' => cases followed.symm.trans followed'
  | mapping followed expanded =>
      cases right with
      | scalar followed' => cases followed.symm.trans followed'
      | sequence followed' => cases followed.symm.trans followed'
      | mapping followed' expanded' =>
          cases followed.symm.trans followed'
          rw [expanded.unique expanded']

theorem Document.ItemsExpand.unique {document : Document} {nodes : List (Node Nat)}
    {items others : List Content} (left : document.ItemsExpand nodes items)
    (right : document.ItemsExpand nodes others) : items = others := by
  cases left with
  | nil =>
      cases right
      rfl
  | cons head rest =>
      cases right with
      | cons head' rest' => rw [head.unique head', rest.unique rest']

theorem Document.EntriesExpand.unique {document : Document} {nodes : List (Node Nat × Node Nat)}
    {entries others : List (Content × Content)} (left : document.EntriesExpand nodes entries)
    (right : document.EntriesExpand nodes others) : entries = others := by
  cases left with
  | nil =>
      cases right
      rfl
  | cons head held rest =>
      cases right with
      | cons head' held' rest' =>
          rw [head.unique head', held.unique held', rest.unique rest']

end

/-- What a text spells is determined by it. -/
theorem Spells.unique {text : String} {content other : Content} (left : Spells text content)
    (right : Spells text other) : content = other := by
  obtain ⟨document, root, spelled, rooted, expanded⟩ := left
  obtain ⟨document', root', spelled', rooted', expanded'⟩ := right
  cases spelled.symm.trans spelled'
  cases rooted.symm.trans rooted'
  exact expanded.unique expanded'

/-! ### Collections -/

/-- The items of a sequence. A plain scalar without text has none. -/
def Content.items? : Content → Option (List Content)
  | .sequence _ items => some items
  | .scalar _ style text => if style = .plain && text = "" then some [] else none
  | .mapping _ _ => none

/-- The entries of a mapping. A plain scalar without text has none. -/
def Content.entries? : Content → Option (List (Content × Content))
  | .mapping _ entries => some entries
  | .scalar _ style text => if style = .plain && text = "" then some [] else none
  | .sequence _ _ => none

section

variable {document : Document} {node : Node Nat} {content : Content}

theorem Document.Expands.items? (expanded : document.Expands node content) :
    Option.Rel (List.Forall₂ document.Expands) (items? document node) content.items? := by
  cases expanded with
  | @scalar _ _ style text followed =>
      by_cases bare : (style = .plain && text = "" : Bool)
      · simp only [Yaml.items?, followed, isBare, Content.items?, bare, if_true]
        exact .some .nil
      · simp only [Yaml.items?, followed, isBare, Content.items?, bare, Bool.false_eq_true,
          if_false]
        exact .none
  | sequence followed expanded =>
      simp only [Yaml.items?, followed, Content.items?]
      exact .some expanded.forall₂
  | mapping followed expanded =>
      simp only [Yaml.items?, followed, Content.items?]
      exact .none

theorem Document.Expands.entries? (expanded : document.Expands node content) :
    Option.Rel (List.Forall₂ document.EntryExpands) (entries? document node)
      content.entries? := by
  cases expanded with
  | @scalar _ _ style text followed =>
      by_cases bare : (style = .plain && text = "" : Bool)
      · simp only [Yaml.entries?, followed, isBare, Content.entries?, bare, if_true]
        exact .some .nil
      · simp only [Yaml.entries?, followed, isBare, Content.entries?, bare, Bool.false_eq_true,
          if_false]
        exact .none
  | sequence followed expanded =>
      simp only [Yaml.entries?, followed, Content.entries?]
      exact .none
  | mapping followed expanded =>
      simp only [Yaml.entries?, followed, Content.entries?]
      exact .some expanded.forall₂

end

/-! ### Records -/

namespace Content

/-- The name that a key stands for, which it has if it is a scalar. -/
def name? : Content → Option String
  | .scalar _ _ text => some text
  | _ => none

/-- Whether a content can be read as a record: it has entries, and all their keys are names. -/
def isRecord (content : Content) : Bool :=
  content.entries?.any fun entries => entries.all (·.1.name?.isSome)

/-- What the entries of one name hold, in their order. -/
def held (content : Content) (name : String) : List Content :=
  ((content.entries?.getD []).filter (·.1.name? = some name)).map (·.2)

end Content

end CognitiveKernel.Yaml
