/-
Module: CognitiveKernel.Yaml.Document
Purpose: Documents, in which every alias leads to the node that it stands for.
Main exports: Document, Document.follow, Document.ofText?
-/
import CognitiveKernel.NameMap
import CognitiveKernel.Yaml.Node.Assembly
import CognitiveKernel.Yaml.Token.Stream

namespace CognitiveKernel.Yaml

/-!
Anchors are numbered by the number of other names that occurred before them. An alias takes the
latest number of its name and stands for the last node with that number, be it around or behind
the alias.
-/

/-- The latest numbers of the names of anchors. -/
abbrev AnchorNames := NameMap Nat

def Properties.number (names : AnchorNames) (properties : Properties String) :
    Properties Nat × AnchorNames :=
  match properties.anchor with
  | Option.none => (⟨Option.none, properties.tag⟩, names)
  | some name =>
      (⟨some names.entries.length, properties.tag⟩, names.insert name names.entries.length)

mutual

/-- Numbers the anchors and aliases of a node; every alias needs an anchor before it. -/
def Node.number (names : AnchorNames) : Node String → Option (Node Nat × AnchorNames)
  | .alias name => (names.find? name).map fun number => (.alias number, names)
  | .scalar properties style text =>
      let (properties, names) := properties.number names
      some (.scalar properties style text, names)
  | .sequence properties items =>
      let (properties, names) := properties.number names
      (numberItems names items).map fun (items, names) => (.sequence properties items, names)
  | .mapping properties entries =>
      let (properties, names) := properties.number names
      (numberEntries names entries).map fun (entries, names) => (.mapping properties entries, names)

/-- Numbers the anchors and aliases of the items of a sequence. -/
def numberItems (names : AnchorNames) : List (Node String) → Option (List (Node Nat) × AnchorNames)
  | [] => some ([], names)
  | item :: more =>
      match item.number names with
      | none => none
      | some (item, names) =>
          (numberItems names more).map fun (more, names) => (item :: more, names)

/-- Numbers the anchors and aliases of the entries of a mapping. -/
def numberEntries (names : AnchorNames) :
    List (Node String × Node String) → Option (List (Node Nat × Node Nat) × AnchorNames)
  | [] => some ([], names)
  | (key, value) :: more =>
      match key.number names with
      | none => none
      | some (key, names) =>
          match value.number names with
          | none => none
          | some (value, names) =>
              (numberEntries names more).map fun (more, names) => ((key, value) :: more, names)

end

/-- A node under the number of its anchor, if it has one. -/
def Properties.numbered (properties : Properties Nat) (node : Node Nat) : List (Nat × Node Nat) :=
  (properties.anchor.map fun number => (number, node)).toList

mutual

/-- The nodes with anchors in a node, in the order in which they begin. -/
def Node.anchored : Node Nat → List (Nat × Node Nat)
  | .alias _ => []
  | .scalar properties style text => properties.numbered (.scalar properties style text)
  | .sequence properties items =>
      properties.numbered (.sequence properties items) ++ anchoredItems items
  | .mapping properties entries =>
      properties.numbered (.mapping properties entries) ++ anchoredEntries entries

/-- The nodes with anchors in the items of a sequence. -/
def anchoredItems : List (Node Nat) → List (Nat × Node Nat)
  | [] => []
  | item :: more => item.anchored ++ anchoredItems more

/-- The nodes with anchors in the entries of a mapping. -/
def anchoredEntries : List (Node Nat × Node Nat) → List (Nat × Node Nat)
  | [] => []
  | (key, value) :: more => key.anchored ++ (value.anchored ++ anchoredEntries more)

end

structure Document where
  /-- The root, if the text holds anything. -/
  root : Option (Node Nat)
  /-- The nodes that aliases stand for. Of several with one number the first counts. -/
  targets : List (Nat × Node Nat)

namespace Document

def empty : Document := ⟨none, []⟩

def ofNode (root : Node Nat) : Document :=
  ⟨some root, root.anchored.reverse⟩

/-- The node that a node stands for: itself, unless it is an alias. -/
def follow (document : Document) : Node Nat → Node Nat
  | .alias number => (document.targets.lookup number).getD .empty
  | node => node

/-- The only document that a text spells. -/
def ofText? (text : String) : Option Document :=
  match (Token.scan? text).bind Node.ofTokens? with
  | none => none
  | some none => some empty
  | some (some root) => (root.number .empty).map fun (root, _) => ofNode root

end Document

end CognitiveKernel.Yaml
