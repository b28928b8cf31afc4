/-
Module: CognitiveKernel.Proofs.Kernel.Restoring
Purpose: What is restored from a snapshot, and from the YAML text of one.
Main exports: Kernel.ofSnapshot_of_known, Kernel.ofSnapshot_of_unknown,
  Kernel.ofSnapshot_snapshot, Kernel.ofSnapshot_outcome, Kernel.ofSnapshot_ofYaml_toYaml
-/
import CognitiveKernel.Proofs.Kernel.Weighting
import CognitiveKernel.Proofs.Snapshot.Yaml

namespace CognitiveKernel

/-- A number of the unit interval is left as it is, a negative zero too. -/
theorem Binary64.clampToUnit_of_inUnitInterval {value : Binary64}
    (inside : value.inUnitInterval = true) : value.clampToUnit = value := by
  cases value with
  | nan => cases inside
  | number negative magnitude =>
      simp only [inUnitInterval, le, zero, one, Bool.and_eq_true, decide_eq_true_eq] at inside
      have notBelow : (number negative magnitude).lt zero = false :=
        decide_eq_false (Int.not_lt.mpr inside.1)
      have notAbove : one.lt (number negative magnitude) = false :=
        decide_eq_false (Int.not_lt.mpr inside.2)
      simp [clampToUnit, notBelow, notAbove]

/-- What a snapshot says about weights: names with values, in the order of its vectors. -/
def Snapshot.entries (snapshot : Snapshot) : List (String × Binary64) :=
  snapshot.vectors.map fun vector => (vector.name, vector.weight)

/-- Vectors with distinct names hand all their weights over to vectors with the same texts. -/
theorem BasisVector.reweighAll_of_texts_eq {left right : List BasisVector}
    (texts_eq : left.map texts = right.map texts) (distinct : (right.map (·.name)).Nodup) :
    reweighAll (right.map fun vector => (vector.name, vector.weight)) left = right := by
  let entries := right.map fun vector => (vector.name, vector.weight)
  let written (texts : String × String × String) : BasisVector :=
    ⟨texts.1, texts.2.1, texts.2.2, (lastValue? texts.1 entries).getD .zero⟩
  have distinctEntries : (entries.map (·.1)).Nodup := by
    rw [List.map_map]
    exact distinct
  have given : ∀ vector ∈ right, lastValue? vector.name entries = some vector.weight :=
    fun vector member => lastValue?_of_mem distinctEntries (List.mem_map_of_mem member)
  have names : left.map (·.name) = right.map (·.name) := map_comp_texts texts_eq (·.1)
  calc reweighAll entries left
      = left.map (written ∘ texts) := by
        refine List.map_congr_left fun vector member => ?_
        obtain ⟨source, inRight, named⟩ : ∃ source ∈ right, source.name = vector.name :=
          List.mem_map.mp (names ▸ List.mem_map_of_mem member)
        simp only [Function.comp_apply, written, texts, ← named, given source inRight,
          Option.getD_some]
    _ = right.map (written ∘ texts) := map_comp_texts texts_eq written
    _ = right.map id := by
        refine List.map_congr_left fun vector member => ?_
        simp only [Function.comp_apply, written, texts, given vector member, Option.getD_some, id]
    _ = right := List.map_id right

namespace Kernel

/-! ### Restoring a snapshot -/

section

variable {snapshot : Snapshot}

theorem names_new (mode : Mode) (rigor : Binary64) :
    (new mode rigor).names = Axis.all.map Axis.name :=
  (wellFormed_new mode rigor).names_eq

theorem nodup_names_new (mode : Mode) (rigor : Binary64) : (new mode rigor).names.Nodup :=
  (wellFormed_new mode rigor).nodup_names

theorem vectors_reweighed_new (mode : Mode) (rigor : Binary64)
    (weights : List (String × Binary64)) :
    ((new mode rigor).reweighed weights).vectors =
      Axis.all.map fun axis =>
        axis.vector
          ((lastValue? axis.name weights).getD (standardWeight rigor.clampToUnit axis)) := by
  rw [reweighed, BasisVector.reweighAll, new, standardBasis, List.map_map]
  rfl

theorem ofSnapshot_of_known
    (known : ∀ vector ∈ snapshot.vectors, vector.name ∈ Axis.all.map Axis.name) :
    ofSnapshot snapshot = .ok ((new snapshot.mode snapshot.rigor).reweighed snapshot.entries) := by
  apply withWeights_of_known (nodup_names_new _ _)
  intro entry member
  obtain ⟨vector, isVector, rfl⟩ := List.mem_map.mp member
  rw [names_new]
  exact known vector isVector

theorem ofSnapshot_of_unknown {vector : BasisVector}
    (first : snapshot.vectors.find? (·.name ∉ Axis.all.map Axis.name) = some vector) :
    ofSnapshot snapshot = .error (.vectorNotFound vector.name) := by
  have firstEntry : snapshot.entries.find?
      (·.1 ∉ (new snapshot.mode snapshot.rigor).names) = some (vector.name, vector.weight) := by
    rw [names_new, Snapshot.entries, List.find?_map, Function.comp_def, first]
    rfl
  exact withWeights_of_unknown (nodup_names_new _ _) firstEntry

theorem ofSnapshot_eq_error_iff :
    (∃ error, ofSnapshot snapshot = .error error) ↔
      ∃ vector ∈ snapshot.vectors, vector.name ∉ Axis.all.map Axis.name := by
  rw [ofSnapshot, withWeights_eq_error_iff (nodup_names_new _ _), names_new]
  simp

end

/-- A kernel of the basis is restored from its snapshot. -/
theorem ofSnapshot_snapshot {kernel : Kernel} (wellFormed : kernel.WellFormed) :
    ofSnapshot kernel.snapshot = .ok { kernel with loader := .standard } := by
  have clamped := Binary64.clampToUnit_of_inUnitInterval wellFormed.rigor_mem
  have known : ∀ vector ∈ kernel.vectors, vector.name ∈ Axis.all.map Axis.name := by
    intro vector member
    rw [← wellFormed.names_eq]
    exact List.mem_map_of_mem member
  have restored :
      BasisVector.reweighAll kernel.snapshot.entries (standardBasis kernel.rigor) =
        kernel.vectors :=
    BasisVector.reweighAll_of_texts_eq wellFormed.texts_eq.symm wellFormed.nodup_names
  rw [ofSnapshot_of_known known]
  change Except.ok (Kernel.mk kernel.mode kernel.rigor.clampToUnit
    (BasisVector.reweighAll kernel.snapshot.entries (standardBasis kernel.rigor.clampToUnit))
    .standard) = _
  rw [clamped, restored]

/-- What is restored from a snapshot, whatever vectors it has. -/
structure RestoredByName (snapshot : Snapshot) : Prop where
  /-- Nothing is restored exactly if a vector is not of the basis. -/
  fails_iff : (∃ error, ofSnapshot snapshot = .error error) ↔
    ∃ vector ∈ snapshot.vectors, vector.name ∉ Axis.all.map Axis.name
  /-- The complaint is about the first such vector. -/
  failure : ∀ vector, snapshot.vectors.find? (·.name ∉ Axis.all.map Axis.name) = some vector →
    ofSnapshot snapshot = .error (.vectorNotFound vector.name)
  /-- Otherwise every vector of the basis has the weight of the last one of its name, or the
  standard weight for the clamped rigor if there is none. -/
  success : (∀ vector ∈ snapshot.vectors, vector.name ∈ Axis.all.map Axis.name) →
    ofSnapshot snapshot =
      .ok
        { mode := snapshot.mode
          rigor := snapshot.rigor.clampToUnit
          vectors := Axis.all.map fun axis =>
            axis.vector ((lastValue? axis.name snapshot.entries).getD
              (standardWeight snapshot.rigor.clampToUnit axis))
          loader := .standard }
  /-- The other texts of the vectors do not matter. -/
  texts_irrelevant : ∀ other : Snapshot, other.mode = snapshot.mode →
    other.rigor = snapshot.rigor → other.entries = snapshot.entries →
      ofSnapshot other = ofSnapshot snapshot

/-- Any snapshot is restored by the names of its vectors. So a kernel that has come about in any
way is restored from its own snapshot as it is: its weights have all of their bits, those of NaN
included. -/
theorem ofSnapshot_outcome (snapshot : Snapshot) :
    RestoredByName snapshot ∧
      ∀ kernel : Kernel, kernel.Reachable →
        ofSnapshot kernel.snapshot = .ok { kernel with loader := .standard } := by
  refine ⟨?_, fun kernel reachable => ofSnapshot_snapshot reachable.wellFormed⟩
  constructor
  case fails_iff => exact ofSnapshot_eq_error_iff
  case failure => exact fun vector first => ofSnapshot_of_unknown first
  case success =>
    intro known
    rw [ofSnapshot_of_known known, ← vectors_reweighed_new snapshot.mode]
    rfl
  case texts_irrelevant =>
    intro other mode rigor entries
    change (new other.mode other.rigor).withWeights other.entries = _
    rw [mode, rigor, entries]
    rfl

/-- Repeated, reordered and missing vectors with forged texts, two that are not of the basis, and a
kernel with a negative signalling NaN. -/
theorem ofSnapshot_repeated :
    let signalling : Binary64 := .nan ⟨true, 7, by decide, by decide⟩
    let vectors : List BasisVector :=
      [⟨"NonDual", "", "", .one⟩, ⟨"Integrity", "x", "", signalling⟩,
        ⟨"NonDual", "", "y", .infinity⟩]
    let repeated : Snapshot := ⟨.counter, .negativeInfinity, vectors⟩
    let forged : Snapshot :=
      ⟨.counter, .one, vectors ++ [⟨"Ghost", "", "", .one⟩, ⟨"", "", "", .one⟩]⟩
    let noisy : Kernel := standard.replay [.weight "NonDual" signalling]
    (∃ kernel, ofSnapshot repeated = .ok kernel ∧ kernel.rigor = .zero ∧
      kernel.weightList = [Binary64.ofDecimal false ⟨1, -1⟩, signalling,
        Binary64.ofDecimal false ⟨1, -1⟩, Binary64.ofDecimal false ⟨1, -1⟩, .infinity,
        Binary64.ofDecimal false ⟨1, -1⟩]) ∧
      ofSnapshot forged = .error (.vectorNotFound "Ghost") ∧
      (noisy.weightList.map (·.bits))[4]? = some 0xFFF0000000000007 ∧
      ofSnapshot noisy.snapshot = .ok noisy := by
  intro signalling vectors repeated forged noisy
  refine ⟨⟨_, (ofSnapshot_outcome repeated).1.success (by decide), by decide +kernel,
    by decide +kernel⟩, ?_, by decide +kernel, ?_⟩
  · exact (ofSnapshot_outcome forged).1.failure ⟨"Ghost", "", "", .one⟩ (by decide)
  · exact (ofSnapshot_outcome forged).2 noisy ⟨.standard, standard, _, rfl, rfl⟩

/-! ### Restoring a saved snapshot -/

theorem WellFormed.mapUpToNaN {kernel : Kernel} (wellFormed : kernel.WellFormed) :
    ({ kernel with vectors := kernel.vectors.map BasisVector.upToNaN } : Kernel).WellFormed := by
  refine wellFormed.of_sameFrame ⟨rfl, rfl, ?_⟩
  rw [List.map_map]
  rfl

/-- The snapshot of a kernel of the basis loses the bits of NaN among its weights alone. -/
theorem WellFormed.upToNaN_snapshot {kernel : Kernel} (wellFormed : kernel.WellFormed) :
    kernel.snapshot.upToNaN =
      Kernel.snapshot { kernel with vectors := kernel.vectors.map BasisVector.upToNaN } := by
  have real : kernel.rigor.upToNaN = kernel.rigor :=
    Binary64.upToNaN_of_isNaN_eq_false (Binary64.isNaN_of_inUnitInterval wellFormed.rigor_mem)
  rw [snapshot, snapshot, Snapshot.upToNaN, real]

/-- A kernel that is saved as a YAML text and restored from it is the same kernel, whatever was
done to it: mode, rigor and the weighted vectors in their order, up to the bits of NaN. -/
theorem ofSnapshot_ofYaml_toYaml {kernel : Kernel} (reachable : kernel.Reachable) :
    ∃ stored restored, Snapshot.ofYaml kernel.snapshot.toYaml = .ok stored ∧
      ofSnapshot stored = .ok restored ∧ restored.mode = kernel.mode ∧
      restored.rigor = kernel.rigor ∧
      restored.vectors = kernel.vectors.map BasisVector.upToNaN := by
  have wellFormed := reachable.wellFormed
  have read := kernel.snapshot.ofYaml_toYaml
  rw [wellFormed.upToNaN_snapshot] at read
  exact ⟨_, _, read, ofSnapshot_snapshot wellFormed.mapUpToNaN, rfl, rfl, rfl⟩

/-- A kernel with weights that are not finite, a negative zero and the least positive number, after
a change that fails. -/
theorem ofSnapshot_ofYaml_overridden :
    let negativeZero : Binary64 := .number true .zero
    let least : Binary64 := .number false (.ofRank 1)
    let changes : List Change :=
      [.weight "Integrity" (.nan ⟨true, 7, by decide, by decide⟩),
        .weight "NonDual" .negativeInfinity, .weight "Ghost" .one,
        .weight "Epistemic" negativeZero, .weight "Interface" least]
    let kernel := (new .dominance negativeZero).replay changes
    kernel.Reachable ∧
      ∃ stored restored, Snapshot.ofYaml kernel.snapshot.toYaml = .ok stored ∧
        ofSnapshot stored = .ok restored ∧ restored.mode = .dominance ∧
        restored.rigor = negativeZero ∧
        restored.weightList = [negativeZero, .nan .quiet, least, Binary64.ofDecimal false ⟨1, -1⟩,
          .negativeInfinity, Binary64.ofDecimal false ⟨1, -1⟩] := by
  intro negativeZero least changes kernel
  have reachable : kernel.Reachable := ⟨.new .dominance negativeZero, _, changes, rfl, rfl⟩
  obtain ⟨stored, restored, read, rebuilt, mode, rigor, vectors⟩ :=
    ofSnapshot_ofYaml_toYaml reachable
  refine ⟨reachable, stored, restored, read, rebuilt, mode.trans rfl, rigor.trans ?_, ?_⟩
  · decide +kernel
  · rw [weightList, vectors]
    decide +kernel

end Kernel

end CognitiveKernel
