/-
Module: CognitiveKernel.Proofs.Kernel.Reachable
Purpose: The kernels that can come about, and what they have in common.
Main exports: Kernel.Origin, Kernel.Change, Kernel.behind, Kernel.replay, Kernel.Reachable,
  Kernel.SameFrame, Kernel.Reachable.wellFormed, Kernel.replay_invariant
-/
import CognitiveKernel.Config

namespace CognitiveKernel

/-! ### The texts of vectors -/

/-- What never changes about a vector: its name, its definition and its constraint. -/
def BasisVector.texts (vector : BasisVector) : String × String × String :=
  (vector.name, vector.definition, vector.constraint)

/-- Putting in a weight leaves all texts as they are. -/
theorem BasisVector.map_texts_reweigh (name : String) (weight : Binary64)
    (vectors : List BasisVector) :
    (reweigh name weight vectors).2.map texts = vectors.map texts := by
  induction vectors with
  | nil => rfl
  | cons vector rest ih =>
      rw [reweigh]
      split
      · rfl
      · rw [List.map_cons, List.map_cons, ih]

/-- Vectors with the same texts agree in whatever is read off their texts. -/
theorem BasisVector.map_comp_texts {α : Type} {left right : List BasisVector}
    (h : left.map texts = right.map texts) (read : String × String × String → α) :
    left.map (read ∘ texts) = right.map (read ∘ texts) := by
  rw [← List.map_map, ← List.map_map, h]

namespace Kernel

/-! ### Origins and changes -/

/-- The ways in which a kernel is made. Snapshots and configurations are arbitrary. -/
inductive Origin where
  | new (mode : Mode) (rigor : Binary64)
  | ofTag (tag : String) (rigor : Binary64)
  | standard
  | ofSnapshot (snapshot : Snapshot)
  | ofConfig (config : Config)

def Origin.make : Origin → Except KernelError Kernel
  | new mode rigor => .ok (Kernel.new mode rigor)
  | ofTag tag rigor => Kernel.ofTag tag rigor
  | standard => .ok Kernel.standard
  | ofSnapshot snapshot => Kernel.ofSnapshot snapshot
  | ofConfig config => config.build

/-- The ways in which a kernel is changed. -/
inductive Change where
  | weight (name : String) (value : Binary64)
  | loader (loader : TemplateLoader)

def perform (kernel : Kernel) : Change → EStateM.Result KernelError Kernel Unit
  | .weight name value => kernel.setWeight name value
  | .loader loader => .ok () (kernel.withLoader loader)

/-- The kernel that a call leaves behind, whether it succeeds or fails. -/
def behind : EStateM.Result KernelError Kernel Unit → Kernel
  | .ok () kernel => kernel
  | .error _ kernel => kernel

/-- The kernel after a change, which may fail. -/
def change (kernel : Kernel) (change : Change) : Kernel :=
  behind (kernel.perform change)

/-- The kernel after a sequence of changes, in which one that fails does not stop the others. -/
def replay (kernel : Kernel) (changes : List Change) : Kernel :=
  changes.foldl Kernel.change kernel

/-- A kernel that some origin and some sequence of changes lead to. -/
def Reachable (kernel : Kernel) : Prop :=
  ∃ origin start changes, Origin.make origin = .ok start ∧ kernel = start.replay changes

/-! ### Setting weights -/

theorem behind_setWeight (kernel : Kernel) (name : String) (weight : Binary64) :
    behind (kernel.setWeight name weight) =
      { kernel with vectors := (BasisVector.reweigh name weight kernel.vectors).2 } := by
  simp only [setWeight]
  split <;> rfl

theorem withWeights_eq_ok_iff {kernel next : Kernel} {weights : List (String × Binary64)} :
    kernel.withWeights weights = .ok next ↔ kernel.setWeights weights = .ok () next := by
  rw [withWeights]
  cases kernel.setWeights weights <;> simp

/-- What one call preserves is preserved by several, one after the other, also where they end with
one that fails. -/
theorem setWeights_preserves {P : Kernel → Prop} (weights : List (String × Binary64))
    (setWeight : ∀ {kernel : Kernel} (name : String) (weight : Binary64), P kernel →
      P (behind (kernel.setWeight name weight)))
    {kernel : Kernel} (start : P kernel) : P (behind (kernel.setWeights weights)) := by
  induction weights generalizing kernel with
  | nil => exact start
  | cons entry rest ih =>
      have first := setWeight entry.1 entry.2 start
      rw [setWeights]
      cases outcome : kernel.setWeight entry.1 entry.2 with
      | ok _ next =>
          rw [outcome] at first
          exact ih first
      | error error next =>
          rw [outcome] at first
          exact first

/-! ### The frame around the weights -/

/-- Two kernels that differ in weights and loaders at most. -/
structure SameFrame (left right : Kernel) : Prop where
  mode_eq : left.mode = right.mode
  rigor_eq : left.rigor = right.rigor
  texts_eq : left.vectors.map BasisVector.texts = right.vectors.map BasisVector.texts

namespace SameFrame

theorem refl (kernel : Kernel) : SameFrame kernel kernel :=
  ⟨rfl, rfl, rfl⟩

theorem trans {first second third : Kernel} (one : SameFrame first second)
    (two : SameFrame second third) : SameFrame first third :=
  ⟨one.mode_eq.trans two.mode_eq, one.rigor_eq.trans two.rigor_eq, one.texts_eq.trans two.texts_eq⟩

theorem withLoader (kernel : Kernel) (loader : TemplateLoader) :
    SameFrame kernel (kernel.withLoader loader) :=
  ⟨rfl, rfl, rfl⟩

theorem setWeight (kernel : Kernel) (name : String) (weight : Binary64) :
    SameFrame kernel (behind (kernel.setWeight name weight)) := by
  rw [behind_setWeight]
  exact ⟨rfl, rfl, (BasisVector.map_texts_reweigh name weight kernel.vectors).symm⟩

/-- Putting weights into a kernel keeps the frame; an unknown name gives no kernel at all. -/
theorem withWeights {kernel next : Kernel} {weights : List (String × Binary64)}
    (weighted : kernel.withWeights weights = .ok next) : SameFrame kernel next := by
  have kept : SameFrame kernel (behind (kernel.setWeights weights)) :=
    setWeights_preserves weights (fun name weight same => same.trans (setWeight _ name weight))
      (refl kernel)
  rwa [withWeights_eq_ok_iff.mp weighted] at kept

/-- The step: no change touches the frame, successful or not. -/
theorem change (kernel : Kernel) (change : Change) : SameFrame kernel (kernel.change change) := by
  cases change with
  | weight name value => exact setWeight kernel name value
  | loader loader => exact withLoader kernel loader

/-- The run: by induction, no sequence of changes does. -/
theorem replay (kernel : Kernel) (changes : List Change) :
    SameFrame kernel (kernel.replay changes) := by
  induction changes generalizing kernel with
  | nil => exact refl kernel
  | cons first rest ih => exact (change kernel first).trans (ih (kernel.change first))

end SameFrame

/-- Every origin comes down to a new kernel, of which only weights and loader are changed. -/
theorem Origin.sameFrame_new {origin : Origin} {start : Kernel} (made : origin.make = .ok start) :
    ∃ mode rigor, SameFrame (Kernel.new mode rigor) start := by
  cases origin with
  | new mode rigor =>
      cases made
      exact ⟨mode, rigor, .refl _⟩
  | ofTag tag rigor =>
      simp only [Origin.make, Kernel.ofTag] at made
      cases parsed : Mode.parse tag with
      | error error => simp [parsed, Except.map] at made
      | ok mode =>
          simp only [parsed, Except.map, Except.ok.injEq] at made
          subst made
          exact ⟨mode, rigor, .refl _⟩
  | standard =>
      cases made
      exact ⟨.standard, .one, .refl _⟩
  | ofSnapshot snapshot => exact ⟨snapshot.mode, snapshot.rigor, .withWeights made⟩
  | ofConfig config =>
      simp only [Origin.make, Config.build] at made
      cases weighted : (Kernel.new config.mode config.rigor).withWeights config.weights.entries with
      | error error => simp [weighted, Except.map] at made
      | ok kernel =>
          simp only [weighted, Except.map, Except.ok.injEq] at made
          subst made
          refine ⟨config.mode, config.rigor, (SameFrame.withWeights weighted).trans ?_⟩
          split
          · exact .refl kernel
          · exact .withLoader kernel _

/-! ### What all reachable kernels have in common -/

/-- A clamped rigor, and the names, definitions and constraints of the standard basis. -/
structure WellFormed (kernel : Kernel) : Prop where
  rigor_mem : kernel.rigor.inUnitInterval = true
  texts_eq : kernel.vectors.map BasisVector.texts =
    (standardBasis kernel.rigor).map BasisVector.texts

theorem wellFormed_new (mode : Mode) (rigor : Binary64) : (new mode rigor).WellFormed :=
  ⟨Binary64.inUnitInterval_clampToUnit rigor, rfl⟩

theorem WellFormed.of_sameFrame {left right : Kernel} (wellFormed : left.WellFormed)
    (same : SameFrame left right) : right.WellFormed := by
  constructor
  · rw [← same.rigor_eq]
    exact wellFormed.rigor_mem
  · rw [← same.rigor_eq, ← same.texts_eq]
    exact wellFormed.texts_eq

theorem Reachable.wellFormed {kernel : Kernel} (reachable : kernel.Reachable) :
    kernel.WellFormed := by
  obtain ⟨origin, start, changes, made, rfl⟩ := reachable
  obtain ⟨mode, rigor, same⟩ := origin.sameFrame_new made
  exact (wellFormed_new mode rigor).of_sameFrame (same.trans (.replay start changes))

/-- The definition lines show the texts of the vectors and nothing else. -/
theorem vectorText_congr {left right : Kernel}
    (h : left.vectors.map BasisVector.texts = right.vectors.map BasisVector.texts) :
    left.vectorText = right.vectorText := by
  let line (index : Nat) (texts : String × String × String) : String :=
    BasisVector.definitionLine ⟨texts.1, texts.2.1, texts.2.2, .zero⟩ (index + 1)
  have lines (vectors : List BasisVector) :
      definitionLines vectors = (vectors.map BasisVector.texts).mapIdx line := by
    rw [definitionLines, List.mapIdx_eq_zipIdx_map, List.mapIdx_eq_zipIdx_map, List.zipIdx_map,
      List.map_map]
    rfl
  rw [vectorText, vectorText, lines, lines, h]

/-- All well-formed kernels have the same definition lines. -/
theorem WellFormed.vectorText_eq {kernel : Kernel} (wellFormed : kernel.WellFormed) :
    kernel.vectorText = standard.vectorText :=
  vectorText_congr wellFormed.texts_eq

/-- What can be relied on of a kernel that another one has become by changes: its rigor is a number
of the unit interval, its vectors are the six of the basis in their order and with their texts,
nothing but weights and loader differs from the first kernel, and the definition lines are those of
every kernel that can come about. -/
structure Conserved (start kernel : Kernel) : Prop where
  rigor_isNaN : kernel.rigor.isNaN = false
  zero_le_rigor : Binary64.zero.le kernel.rigor = true
  rigor_le_one : kernel.rigor.le .one = true
  length_vectors : kernel.vectors.length = 6
  names_eq : kernel.vectors.map (·.name) = Axis.all.map Axis.name
  definitions_eq :
    kernel.vectors.map (·.definition) = (standardBasis kernel.rigor).map (·.definition)
  constraints_eq :
    kernel.vectors.map (·.constraint) = (standardBasis kernel.rigor).map (·.constraint)
  mode_kept : kernel.mode = start.mode
  rigor_kept : kernel.rigor = start.rigor
  names_kept : kernel.vectors.map (·.name) = start.vectors.map (·.name)
  definitions_kept : kernel.vectors.map (·.definition) = start.vectors.map (·.definition)
  constraints_kept : kernel.vectors.map (·.constraint) = start.vectors.map (·.constraint)
  vectorText_eq : ∀ other : Kernel, other.Reachable → kernel.vectorText = other.vectorText

/-- However a kernel comes about, and whatever is done to it, successfully or not, all this is
conserved. -/
theorem replay_invariant {origin : Origin} {start : Kernel} (made : origin.make = .ok start)
    (changes : List Change) : Conserved start (start.replay changes) := by
  have frame : SameFrame start (start.replay changes) := .replay start changes
  have wellFormed : (start.replay changes).WellFormed :=
    Reachable.wellFormed ⟨origin, start, changes, made, rfl⟩
  have texts := wellFormed.texts_eq
  have inUnit := wellFormed.rigor_mem
  simp only [Binary64.inUnitInterval, Bool.and_eq_true] at inUnit
  constructor
  case rigor_isNaN => exact Binary64.isNaN_of_inUnitInterval wellFormed.rigor_mem
  case zero_le_rigor => exact inUnit.1
  case rigor_le_one => exact inUnit.2
  case length_vectors => simpa [standardBasis, Axis.all] using congrArg List.length texts
  case names_eq => exact BasisVector.map_comp_texts texts (·.1)
  case definitions_eq => exact BasisVector.map_comp_texts texts (·.2.1)
  case constraints_eq => exact BasisVector.map_comp_texts texts (·.2.2)
  case mode_kept => exact frame.mode_eq.symm
  case rigor_kept => exact frame.rigor_eq.symm
  case names_kept => exact BasisVector.map_comp_texts frame.texts_eq.symm (·.1)
  case definitions_kept => exact BasisVector.map_comp_texts frame.texts_eq.symm (·.2.1)
  case constraints_kept => exact BasisVector.map_comp_texts frame.texts_eq.symm (·.2.2)
  case vectorText_eq =>
    intro other reachable
    rw [wellFormed.vectorText_eq, reachable.wellFormed.vectorText_eq]

/-- A snapshot without most of the basis, with forged texts, a repeated name and a rigor that is no
number, followed by a change that fails: the basis is the standard one. -/
theorem replay_forgedSnapshot :
    let snapshot : Snapshot :=
      ⟨.counter, .nan .quiet, [⟨"NonDual", "__WEIGHTS__", "", .infinity⟩,
        ⟨"Epistemic", "", "__", .nan .quiet⟩, ⟨"NonDual", "", "", .negativeInfinity⟩]⟩
    let changes : List Change :=
      [.weight "Ghost" .one, .loader ⟨.nothing, none⟩, .weight "Integrity" (.nan .quiet)]
    ∃ start, (Origin.ofSnapshot snapshot).make = .ok start ∧
      (start.replay changes).rigor = start.rigor ∧
      (start.replay changes).vectors.map (·.name) = Axis.all.map Axis.name ∧
      (start.replay changes).vectorText = standard.vectorText := by
  intro snapshot changes
  refine ⟨_, rfl, ?_⟩
  have kept := @replay_invariant (.ofSnapshot snapshot) _ rfl changes
  have plain : Reachable standard := ⟨.standard, standard, [], rfl, rfl⟩
  exact ⟨kept.rigor_kept, kept.names_eq, kept.vectorText_eq standard plain⟩

end Kernel

end CognitiveKernel
