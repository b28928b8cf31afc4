/-
Module: CognitiveKernel.Proofs.Config.Agreement
Purpose: A configuration and a snapshot that give the same weights lead to the same kernel.
Main exports: Snapshot.config, Config.build_of_known, Config.build_of_unknown,
  Snapshot.build_config_agrees
-/
import CognitiveKernel.Config
import CognitiveKernel.Proofs.Kernel.Restoring

namespace CognitiveKernel

/-!
A snapshot lists its weights in any order and may name a vector twice, while a configuration has one
weight a name, in the order of the names. Both put their weights in one by one, so they can differ
in no more than the name that is complained about.
-/

namespace Config

variable {config : Config}

theorem build_of_known (known : ∀ entry ∈ config.weights.entries, entry.1 ∈ Axis.all.map Axis.name)
    (noDir : config.templateDir = none) :
    config.build =
      .ok ((Kernel.new config.mode config.rigor).reweighed config.weights.entries) := by
  rw [← Kernel.names_new config.mode config.rigor] at known
  rw [build, Kernel.withWeights_of_known (Kernel.nodup_names_new _ _) known, noDir]
  rfl

theorem build_of_unknown {entry : String × Binary64}
    (first : config.weights.entries.find? (·.1 ∉ Axis.all.map Axis.name) = some entry) :
    config.build = .error (.vectorNotFound entry.1) := by
  rw [← Kernel.names_new config.mode config.rigor] at first
  rw [build, Kernel.withWeights_of_unknown (Kernel.nodup_names_new _ _) first]
  rfl

end Config

namespace Snapshot

/-- The configuration with the mode, the rigor and the weights of a snapshot, in which later vectors
go over earlier ones of the same name. -/
def config (snapshot : Snapshot) : Config :=
  { mode := snapshot.mode
    rigor := snapshot.rigor
    weights := .ofList snapshot.entries
    templateDir := none }

/-- The names in a snapshot that no vector of the basis has, in the order of the snapshot. -/
def unknownNames (snapshot : Snapshot) : List String :=
  (snapshot.vectors.map (·.name)).filter (· ∉ Axis.all.map Axis.name)

variable {snapshot : Snapshot}

theorem mem_unknownNames {name : String} :
    name ∈ snapshot.unknownNames ↔
      name ∈ snapshot.config.weights.entries.map (·.1) ∧ name ∉ Axis.all.map Axis.name := by
  have names : snapshot.vectors.map (·.name) = snapshot.entries.map (·.1) := by
    rw [entries, List.map_map]
    rfl
  rw [unknownNames, List.mem_filter, decide_eq_true_iff, names, ← NameMap.mem_names_ofList]
  rfl

/-- Without unknown names both ways succeed, and only the last weight of each name counts. -/
theorem build_config_of_known (known : snapshot.unknownNames = []) :
    ∃ kernel, snapshot.config.build = .ok kernel ∧ Kernel.ofSnapshot snapshot = .ok kernel := by
  have inSnapshot : ∀ vector ∈ snapshot.vectors, vector.name ∈ Axis.all.map Axis.name := by
    intro vector member
    have notUnknown := List.filter_eq_nil_iff.mp known vector.name (List.mem_map_of_mem member)
    simpa using notUnknown
  have inConfig : ∀ entry ∈ snapshot.config.weights.entries,
      entry.1 ∈ Axis.all.map Axis.name := by
    intro entry member
    by_contra missing
    have unknown : entry.1 ∈ snapshot.unknownNames :=
      mem_unknownNames.mpr ⟨List.mem_map_of_mem member, missing⟩
    rw [known] at unknown
    cases unknown
  have same : (Kernel.new snapshot.mode snapshot.rigor).reweighed snapshot.config.weights.entries =
      (Kernel.new snapshot.mode snapshot.rigor).reweighed snapshot.entries :=
    Kernel.reweighed_congr _ (NameMap.lastValue?_ofList snapshot.entries)
  refine ⟨_, Config.build_of_known inConfig rfl, ?_⟩
  rw [Kernel.ofSnapshot_of_known inSnapshot, ← same]
  rfl

/-- With unknown names the snapshot fails at the first one of them. -/
theorem ofSnapshot_of_unknownNames {first : String} {rest : List String}
    (unknown : snapshot.unknownNames = first :: rest) :
    Kernel.ofSnapshot snapshot = .error (.vectorNotFound first) := by
  have head : (snapshot.vectors.map (·.name)).find? (· ∉ Axis.all.map Axis.name) = some first := by
    rw [← List.head?_filter]
    exact congrArg List.head? unknown
  rw [List.find?_map, Option.map_eq_some_iff] at head
  obtain ⟨vector, found, rfl⟩ := head
  exact Kernel.ofSnapshot_of_unknown found

/-- With unknown names the configuration fails at the least one of them. -/
theorem build_config_of_unknownNames {unknown : String} (member : unknown ∈ snapshot.unknownNames) :
    ∃ least ∈ snapshot.unknownNames, (∀ name ∈ snapshot.unknownNames, least ≤ name) ∧
      snapshot.config.build = .error (.vectorNotFound least) := by
  obtain ⟨inConfig, missing⟩ := mem_unknownNames.mp member
  obtain ⟨entry, isEntry, rfl⟩ := List.mem_map.mp inConfig
  have present : (snapshot.config.weights.entries.find? (·.1 ∉ Axis.all.map Axis.name)).isSome :=
    List.find?_isSome.mpr ⟨entry, isEntry, decide_eq_true missing⟩
  obtain ⟨least, found⟩ := Option.isSome_iff_exists.mp present
  have isUnknown : least.1 ∉ Axis.all.map Axis.name := by simpa using List.find?_some found
  refine ⟨least.1, ?_, fun name other => ?_, Config.build_of_unknown found⟩
  · exact mem_unknownNames.mpr
      ⟨List.mem_map_of_mem (List.mem_of_find?_eq_some found), isUnknown⟩
  · obtain ⟨held, notKnown⟩ := mem_unknownNames.mp other
    obtain ⟨later, isLater, rfl⟩ := List.mem_map.mp held
    exact NameMap.le_of_find?_eq_some found isLater (decide_eq_true notKnown)

/-- From any snapshot the configuration with the same weights builds the kernel that is restored
from it, with all bits of its weights, those of NaN included. Or both fail at an unknown name: the
snapshot at the first one in its order, the configuration at the least one by code points. -/
theorem build_config_agrees (snapshot : Snapshot) :
    (snapshot.unknownNames = [] ∧
        ∃ kernel, snapshot.config.build = .ok kernel ∧ Kernel.ofSnapshot snapshot = .ok kernel) ∨
      ∃ first rest least, snapshot.unknownNames = first :: rest ∧
        Kernel.ofSnapshot snapshot = .error (.vectorNotFound first) ∧
        snapshot.config.build = .error (.vectorNotFound least) ∧
        least ∈ snapshot.unknownNames ∧ ∀ name ∈ snapshot.unknownNames, least ≤ name := by
  cases unknown : snapshot.unknownNames with
  | nil => exact .inl ⟨rfl, build_config_of_known unknown⟩
  | cons first rest =>
      have member : first ∈ snapshot.unknownNames := unknown ▸ List.mem_cons_self
      obtain ⟨least, isUnknown, isLeast, failed⟩ := build_config_of_unknownNames member
      rw [unknown] at isUnknown isLeast
      exact .inr ⟨first, rest, least, rfl, ofSnapshot_of_unknownNames unknown, failed, isUnknown,
        isLeast⟩

/-- Vectors out of order, one of them twice and one with a negative signalling NaN, lead to one
kernel; with three unknown names among them the two complaints differ. -/
theorem build_config_reordered :
    let signalling : Binary64 := .nan ⟨true, 7, by decide, by decide⟩
    let vectors : List BasisVector :=
      [⟨"NonDual", "", "", .nan .quiet⟩, ⟨"Integrity", "", "", signalling⟩,
        ⟨"NonDual", "", "", .infinity⟩]
    let unknown : List BasisVector :=
      [⟨"ghost", "", "", .nan .quiet⟩, ⟨"Ghost", "", "", .one⟩, ⟨"ϑ", "", "", .one⟩]
    let snapshot : Snapshot := ⟨.dominance, .zero, vectors⟩
    let forged : Snapshot := ⟨.dominance, .zero, vectors ++ unknown⟩
    (∃ kernel, snapshot.config.build = .ok kernel ∧ Kernel.ofSnapshot snapshot = .ok kernel ∧
      (kernel.vector? "Integrity").map (·.weight) = some signalling) ∧
      Kernel.ofSnapshot forged = .error (.vectorNotFound "ghost") ∧
      forged.config.build = .error (.vectorNotFound "Ghost") := by
  intro signalling vectors unknown snapshot forged
  constructor
  · rcases build_config_agrees snapshot with ⟨-, kernel, built, restored⟩ | ⟨_, _, -, names, -⟩
    · have weight : (Kernel.ofSnapshot snapshot).map
          (fun kernel => (kernel.vector? "Integrity").map (·.weight)) = .ok (some signalling) := by
        rfl
      rw [restored] at weight
      exact ⟨kernel, built, restored, Except.ok.inj weight⟩
    · cases names
  · rcases build_config_agrees forged with
      ⟨names, -⟩ | ⟨first, rest, least, names, restored, built, member, isLeast⟩
    · cases names
    · have all : forged.unknownNames = ["ghost", "Ghost", "ϑ"] := by decide
      rw [all] at names member isLeast
      cases names
      have below : least ≤ "Ghost" := isLeast "Ghost" (by decide)
      have isGhost : least = "Ghost" := by
        rcases List.mem_cons.mp member with rfl | member
        · exact absurd below (by decide)
        · rcases List.mem_cons.mp member with same | member
          · exact same
          · rw [List.mem_singleton.mp member] at below
            exact absurd below (by decide)
      exact ⟨restored, isGhost ▸ built⟩

end Snapshot

end CognitiveKernel
