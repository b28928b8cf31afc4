/-
Module: CognitiveKernel.Proofs.Yaml.Layout
Purpose: Which fields the records of a document have, and which changes to a document they ignore.
Main exports: Layout, Rearranges, Rearranged, Misses, Keeps, Rearranges.keeps
-/
import CognitiveKernel.Proofs.Yaml.Content
import Mathlib.Data.List.Nodup
import Mathlib.Logic.Relation

namespace CognitiveKernel.Yaml

/-! ### Layouts -/

/-- A field that a record knows, with what is known of its value. -/
structure KnownField (κ : Type) where
  name : String
  /-- Whether there is no value for its absence. -/
  isRequired : Bool
  layout : κ

/-- Where a tree has records, and which fields these have. -/
inductive Layout where
  /-- A value that is no record. -/
  | leaf
  | record (fields : List (KnownField Layout))

/-- The text of a key names no field. -/
def Unknown (fields : List (KnownField Layout)) (name : String) : Prop :=
  ∀ field ∈ fields, field.name ≠ name

/-! ### Changes that say nothing new -/

/-- One change to a record in a tree: the entries are put in another order, or there is one more,
whatever it holds, under a name that the record does not know. -/
inductive Rearranges : Layout → Content → Content → Prop where
  | reorder {fields : List (KnownField Layout)} {tag : Option TagText}
      {entries others : List (Content × Content)} (same : entries.Perm others) :
      Rearranges (.record fields) (.mapping tag entries) (.mapping tag others)
  | insert {fields : List (KnownField Layout)} {tag : Option TagText}
      {front back : List (Content × Content)} {key value : Content} {name : String}
      (named : key.name? = some name) (unknown : Unknown fields name) :
      Rearranges (.record fields) (.mapping tag (front ++ back))
        (.mapping tag (front ++ (key, value) :: back))
  | within {fields : List (KnownField Layout)} {tag : Option TagText}
      {front back : List (Content × Content)} {key value other : Content}
      {field : KnownField Layout} (known : field ∈ fields) (named : key.name? = some field.name)
      (change : Rearranges field.layout value other) :
      Rearranges (.record fields) (.mapping tag (front ++ (key, value) :: back))
        (.mapping tag (front ++ (key, other) :: back))

/-- Trees that come from each other by such changes and by taking them back. -/
def Rearranged (layout : Layout) : Content → Content → Prop :=
  Relation.EqvGen (Rearranges layout)

/-- Somewhere in a tree a record lacks a field that it must have. -/
inductive Misses : Layout → Content → Prop where
  | here {fields : List (KnownField Layout)} {content : Content} {field : KnownField Layout}
      (known : field ∈ fields) (required : field.isRequired = true)
      (absent : content.held field.name = []) : Misses (.record fields) content
  | within {fields : List (KnownField Layout)} {content value : Content}
      {field : KnownField Layout} (known : field ∈ fields)
      (member : value ∈ content.held field.name) (misses : Misses field.layout value) :
      Misses (.record fields) content

/-! ### What a change does to a field -/

/-- The values of one field before and after a change to the record that has it. -/
inductive Keeps (layout : Layout) : List Content → List Content → Prop where
  | reorder {values others : List Content} (same : values.Perm others) : Keeps layout values others
  | within {front back : List Content} {value other : Content}
      (change : Rearranges layout value other) :
      Keeps layout (front ++ value :: back) (front ++ other :: back)

theorem Keeps.refl (layout : Layout) (values : List Content) : Keeps layout values values :=
  .reorder (.refl values)

section

variable {tag : Option TagText} {entries front back : List (Content × Content)}
  {key value : Content} {name : String}

theorem Content.held_mapping :
    (Content.mapping tag entries).held name =
      (entries.filter (·.1.name? = some name)).map (·.2) := rfl

theorem Content.held_insert_of_eq (named : key.name? = some name) :
    (Content.mapping tag (front ++ (key, value) :: back)).held name =
      (Content.mapping tag front).held name ++ value :: (Content.mapping tag back).held name := by
  simp [Content.held_mapping, named]

theorem Content.held_insert_of_ne (named : key.name? ≠ some name) :
    (Content.mapping tag (front ++ (key, value) :: back)).held name =
      (Content.mapping tag front).held name ++ (Content.mapping tag back).held name := by
  simp [Content.held_mapping, named]

theorem Content.isRecord_insert (named : key.name? = some name) :
    (Content.mapping tag (front ++ (key, value) :: back)).isRecord =
      (Content.mapping tag (front ++ back)).isRecord := by
  simp [Content.isRecord, Content.entries?, named]

end

variable {fields : List (KnownField Layout)} {content other : Content}

/-- A change leaves the values of every field as they are, but for their order and a change in one
of them. -/
theorem Rearranges.keeps (change : Rearranges (.record fields) content other)
    (distinct : (fields.map (·.name)).Nodup) {field : KnownField Layout} (known : field ∈ fields) :
    Keeps field.layout (content.held field.name) (other.held field.name) := by
  cases change with
  | reorder same => exact .reorder ((same.filter _).map _)
  | @insert _ _ front back key value name named unknown =>
      have differs : key.name? ≠ some field.name := by
        rw [named]
        exact fun same => unknown field known (Option.some.inj same).symm
      rw [Content.held_insert_of_ne differs, Content.held_mapping, List.filter_append,
        List.map_append]
      exact .refl _ _
  | @within _ _ front back key value changed target member named change =>
      by_cases same : target.name = field.name
      · have whole : target = field := List.inj_on_of_nodup_map distinct member known same
        subst whole
        rw [Content.held_insert_of_eq named, Content.held_insert_of_eq named]
        exact .within change
      · have differs : key.name? ≠ some field.name := by
          rw [named]
          exact fun equal => same (Option.some.inj equal)
        rw [Content.held_insert_of_ne differs, Content.held_insert_of_ne differs]
        exact .refl _ _

theorem Rearranges.isRecord_eq (change : Rearranges (.record fields) content other) :
    content.isRecord = other.isRecord := by
  cases change with
  | reorder same =>
      simp only [Content.isRecord, Content.entries?, Option.any_some]
      exact same.all_eq
  | insert named => rw [Content.isRecord_insert named]
  | within _ named => rw [Content.isRecord_insert named, Content.isRecord_insert named]

end CognitiveKernel.Yaml
