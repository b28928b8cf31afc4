/-
Module: CognitiveKernel.Yaml.Tree
Purpose: The trees that are written as YAML texts.
Main exports: Scalar, Tree, Tree.toNode
-/
import CognitiveKernel.Yaml.Node

namespace CognitiveKernel.Yaml

/-- A text with the way in which it is written. -/
structure Scalar where
  style : ScalarStyle
  text : String
deriving Repr, DecidableEq

/-- A tree without tags, anchors and aliases, whose keys are scalars. -/
inductive Tree where
  | scalar (content : Scalar)
  | sequence (items : List Tree)
  | mapping (entries : List (Scalar × Tree))
deriving Repr

def Scalar.toNode {ρ : Type} (content : Scalar) : Node ρ :=
  .scalar .none content.style content.text

mutual

def Tree.toNode {ρ : Type} : Tree → Node ρ
  | .scalar content => content.toNode
  | .sequence items => .sequence .none (nodesOfItems items)
  | .mapping entries => .mapping .none (nodesOfEntries entries)

/-- The items of a sequence as nodes. -/
def nodesOfItems {ρ : Type} : List Tree → List (Node ρ)
  | [] => []
  | item :: more => item.toNode :: nodesOfItems more

/-- The entries of a mapping as nodes. -/
def nodesOfEntries {ρ : Type} : List (Scalar × Tree) → List (Node ρ × Node ρ)
  | [] => []
  | (key, value) :: more => (key.toNode, value.toNode) :: nodesOfEntries more

end

end CognitiveKernel.Yaml
