/-
Module: CognitiveKernel.Yaml.Node
Purpose: The tree that a YAML text describes.
Main exports: Properties, Node
-/
import CognitiveKernel.Yaml.Token

namespace CognitiveKernel.Yaml

/-- What may be said of a node in front of it: an anchor that aliases refer to, and a tag. -/
structure Properties (ρ : Type) where
  anchor : Option ρ
  tag : Option TagText
deriving Repr, DecidableEq

/-- Nothing is said of a node. -/
def Properties.none {ρ : Type} : Properties ρ := ⟨Option.none, Option.none⟩

/-- A node, in which anchors and aliases have some kind of reference in common. -/
inductive Node (ρ : Type) where
  /-- Stands for the node with an anchor. -/
  | alias (target : ρ)
  | scalar (properties : Properties ρ) (style : ScalarStyle) (text : String)
  | sequence (properties : Properties ρ) (items : List (Node ρ))
  | mapping (properties : Properties ρ) (entries : List (Node ρ × Node ρ))
deriving Repr

namespace Node

variable {ρ : Type}

/-- The node that is there when none is written. -/
def empty : Node ρ := scalar .none .plain ""

end Node

end CognitiveKernel.Yaml
