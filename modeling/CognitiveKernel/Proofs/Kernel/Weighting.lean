/-
Module: CognitiveKernel.Proofs.Kernel.Weighting
Purpose: What setting weights by name does, one after the other and in any order.
Main exports: Kernel.reweighed, Kernel.setWeight_of_mem, Kernel.setWeight_of_not_mem,
  Kernel.replay_weights, Kernel.setWeights_append, Kernel.withWeights_of_known,
  Kernel.withWeights_of_unknown, Kernel.WeighedInTurn, Kernel.replay_weights_outcome
-/
import CognitiveKernel.Proofs.Binary64.Bits
import CognitiveKernel.Proofs.Kernel.Reachable
import CognitiveKernel.Proofs.NameMap

namespace CognitiveKernel

/-!
A weight is set at the first vector of its name. Where no two vectors share a name, this is the
only one, so that a sequence of calls leaves at each vector the last weight given for its name, in
whatever order calls on different names stand.
-/

namespace BasisVector

/-- The vectors with the last weights that some entries give for their names. -/
def reweighAll (weights : List (String × Binary64)) (vectors : List BasisVector) :
    List BasisVector :=
  vectors.map fun vector =>
    { vector with weight := (lastValue? vector.name weights).getD vector.weight }

variable {name : String} {weight : Binary64} {vectors : List BasisVector}

theorem reweighAll_nil (vectors : List BasisVector) : reweighAll [] vectors = vectors :=
  List.map_id _

theorem reweighAll_cons (weights : List (String × Binary64)) (vector : BasisVector)
    (rest : List BasisVector) :
    reweighAll weights (vector :: rest) =
      { vector with weight := (lastValue? vector.name weights).getD vector.weight } ::
        reweighAll weights rest := rfl

/-- An entry for a name that no vector has is without effect. -/
theorem reweighAll_of_missing (missing : name ∉ vectors.map (·.name)) :
    reweighAll [(name, weight)] vectors = vectors := by
  rw [reweighAll]
  refine (List.map_congr_left fun vector member => ?_).trans (List.map_id vectors)
  have other : name ≠ vector.name := by
    rintro rfl
    exact missing (List.mem_map_of_mem member)
  rw [lastValue?_singleton, if_neg other]
  rfl

/-- Two rounds of weights are one, in which the second round has the last word. -/
theorem reweighAll_reweighAll (first second : List (String × Binary64))
    (vectors : List BasisVector) :
    reweighAll second (reweighAll first vectors) = reweighAll (first ++ second) vectors := by
  rw [reweighAll, reweighAll, reweighAll, List.map_map]
  refine List.map_congr_left fun vector _ => ?_
  simp only [Function.comp_apply, lastValue?_append]
  cases lastValue? vector.name second <;> rfl

theorem map_texts_reweighAll (weights : List (String × Binary64)) (vectors : List BasisVector) :
    (reweighAll weights vectors).map texts = vectors.map texts := by
  rw [reweighAll, List.map_map]
  rfl

/-- Where no vector has the name, every vector is passed and none is touched. -/
theorem reweigh_of_not_mem (missing : name ∉ vectors.map (·.name)) :
    reweigh name weight vectors = (false, vectors) := by
  induction vectors with
  | nil => rfl
  | cons vector rest ih =>
      rw [List.map_cons, List.mem_cons, not_or] at missing
      rw [reweigh, if_neg (Ne.symm missing.1), ih missing.2]

/-- Among vectors with distinct names the first one of a name is the only one. -/
theorem reweigh_of_mem (distinct : (vectors.map (·.name)).Nodup)
    (member : name ∈ vectors.map (·.name)) :
    reweigh name weight vectors = (true, reweighAll [(name, weight)] vectors) := by
  induction vectors with
  | nil => cases member
  | cons vector rest ih =>
      rw [List.map_cons, List.nodup_cons] at distinct
      rw [reweigh, reweighAll_cons, lastValue?_singleton]
      by_cases same : vector.name = name
      · have missing : name ∉ rest.map (·.name) := same ▸ distinct.1
        rw [if_pos same, if_pos same.symm, reweighAll_of_missing missing]
        rfl
      · have later : name ∈ rest.map (·.name) := by
          rcases List.mem_cons.mp member with equal | later
          · exact absurd equal.symm same
          · exact later
        rw [if_neg same, if_neg (Ne.symm same), ih distinct.2 later]
        rfl

end BasisVector

namespace Kernel

def names (kernel : Kernel) : List String := kernel.vectors.map (·.name)

/-- The kernel with the last weights that some entries give for the names of its vectors. -/
def reweighed (kernel : Kernel) (weights : List (String × Binary64)) : Kernel :=
  { kernel with vectors := BasisVector.reweighAll weights kernel.vectors }

theorem reweighed_nil (kernel : Kernel) : kernel.reweighed [] = kernel := by
  rw [reweighed, BasisVector.reweighAll_nil]

theorem reweighed_reweighed (kernel : Kernel) (first second : List (String × Binary64)) :
    (kernel.reweighed first).reweighed second = kernel.reweighed (first ++ second) := by
  rw [reweighed, reweighed, reweighed, BasisVector.reweighAll_reweighAll]

theorem reweighed_congr (kernel : Kernel) {left right : List (String × Binary64)}
    (same : ∀ name, lastValue? name left = lastValue? name right) :
    kernel.reweighed left = kernel.reweighed right := by
  simp only [reweighed, BasisVector.reweighAll, same]

theorem reweighed_of_missing {kernel : Kernel} {name : String} (missing : name ∉ kernel.names)
    (weight : Binary64) : kernel.reweighed [(name, weight)] = kernel := by
  rw [reweighed, BasisVector.reweighAll_of_missing missing]

@[simp] theorem names_reweighed (kernel : Kernel) (weights : List (String × Binary64)) :
    (kernel.reweighed weights).names = kernel.names :=
  BasisVector.map_comp_texts (BasisVector.map_texts_reweighAll weights kernel.vectors) (·.1)

/-- The first vector of a name is looked up, and it is the one that has got the weight. -/
theorem vector?_reweighed (kernel : Kernel) (weights : List (String × Binary64)) (name : String) :
    (kernel.reweighed weights).vector? name =
      (kernel.vector? name).map fun vector =>
        { vector with weight := (lastValue? name weights).getD vector.weight } := by
  rw [vector?, vector?, reweighed, BasisVector.reweighAll, List.find?_map]
  -- A new weight does not change which vector is found.
  change (kernel.vectors.find? fun vector => vector.name = name).map _ = _
  cases found : kernel.vectors.find? fun vector => vector.name = name with
  | none => rfl
  | some vector =>
      have named : vector.name = name := by simpa using List.find?_some found
      rw [Option.map_some, Option.map_some, named]

theorem exists_vector?_of_mem {kernel : Kernel} {name : String} (member : name ∈ kernel.names) :
    ∃ vector, kernel.vector? name = some vector := by
  obtain ⟨vector, isVector, rfl⟩ := List.mem_map.mp member
  have found : (kernel.vector? vector.name).isSome :=
    List.find?_isSome.mpr ⟨vector, isVector, decide_eq_true rfl⟩
  exact Option.isSome_iff_exists.mp found

theorem WellFormed.names_eq {kernel : Kernel} (wellFormed : kernel.WellFormed) :
    kernel.names = Axis.all.map Axis.name :=
  BasisVector.map_comp_texts wellFormed.texts_eq (·.1)

theorem WellFormed.nodup_names {kernel : Kernel} (wellFormed : kernel.WellFormed) :
    kernel.names.Nodup := by
  rw [wellFormed.names_eq]
  decide

variable {kernel : Kernel}

/-! ### One weight -/

/-- A call on an unknown name fails and leaves the kernel as it was. -/
theorem setWeight_of_not_mem {name : String} (missing : name ∉ kernel.names)
    (weight : Binary64) : kernel.setWeight name weight = .error (.vectorNotFound name) kernel := by
  simp [setWeight, BasisVector.reweigh_of_not_mem missing]

theorem setWeight_of_mem (distinct : kernel.names.Nodup) {name : String}
    (member : name ∈ kernel.names) (weight : Binary64) :
    kernel.setWeight name weight = .ok () (kernel.reweighed [(name, weight)]) := by
  simp [setWeight, BasisVector.reweigh_of_mem distinct member, reweighed]

/-- A call fails on unknown names alone. -/
theorem not_mem_of_setWeight_eq_error (distinct : kernel.names.Nodup) {name : String}
    {weight : Binary64} {error : KernelError} {next : Kernel}
    (failed : kernel.setWeight name weight = .error error next) : name ∉ kernel.names := by
  intro member
  rw [setWeight_of_mem distinct member] at failed
  cases failed

/-- The step: a call on a known name sets its weight, and a call on another name, which fails,
changes nothing, just as an entry for such a name. -/
theorem change_weight (distinct : kernel.names.Nodup) (name : String) (weight : Binary64) :
    kernel.change (.weight name weight) = kernel.reweighed [(name, weight)] := by
  by_cases member : name ∈ kernel.names
  · rw [change, perform, setWeight_of_mem distinct member, behind]
  · rw [change, perform, setWeight_of_not_mem member, behind, reweighed_of_missing member]

/-! ### Several weights -/

theorem replay_cons (kernel : Kernel) (first : Change) (rest : List Change) :
    kernel.replay (first :: rest) = (kernel.change first).replay rest := rfl

/-- The run: after any calls, failing ones among them, each vector has the last weight that was
given for its name. -/
theorem replay_weights (distinct : kernel.names.Nodup) (calls : List (String × Binary64)) :
    kernel.replay (calls.map fun call => .weight call.1 call.2) = kernel.reweighed calls := by
  induction calls generalizing kernel with
  | nil => exact (reweighed_nil kernel).symm
  | cons call rest ih =>
      have following : (kernel.reweighed [call]).names.Nodup := by rwa [names_reweighed]
      rw [List.map_cons, replay_cons, change_weight distinct, ih following, reweighed_reweighed]
      rfl

/-- Setting known weights one after the other succeeds at every step, whatever follows. -/
theorem setWeights_append (distinct : kernel.names.Nodup) {before : List (String × Binary64)}
    (known : ∀ earlier ∈ before, earlier.1 ∈ kernel.names) (after : List (String × Binary64)) :
    kernel.setWeights (before ++ after) = (kernel.reweighed before).setWeights after := by
  induction before generalizing kernel with
  | nil => rw [List.nil_append, reweighed_nil]
  | cons first rest ih =>
      have set := setWeight_of_mem distinct (known first List.mem_cons_self) first.2
      have following : (kernel.reweighed [first]).names.Nodup := by rwa [names_reweighed]
      have others : ∀ later ∈ rest, later.1 ∈ (kernel.reweighed [first]).names := by
        intro later member
        rw [names_reweighed]
        exact known later (List.mem_cons_of_mem first member)
      rw [List.cons_append, setWeights, set]
      change (kernel.reweighed [first]).setWeights _ = _
      rw [ih following others, reweighed_reweighed]
      rfl

theorem setWeights_of_known (distinct : kernel.names.Nodup) {weights : List (String × Binary64)}
    (known : ∀ entry ∈ weights, entry.1 ∈ kernel.names) :
    kernel.setWeights weights = .ok () (kernel.reweighed weights) := by
  have set := setWeights_append distinct known []
  rwa [List.append_nil] at set

/-- The first unknown name ends the sequence, behind the weights that have been set before it. -/
theorem setWeights_of_unknown (distinct : kernel.names.Nodup) {before : List (String × Binary64)}
    (known : ∀ earlier ∈ before, earlier.1 ∈ kernel.names) {entry : String × Binary64}
    (missing : entry.1 ∉ kernel.names) (after : List (String × Binary64)) :
    kernel.setWeights (before ++ entry :: after) =
      .error (.vectorNotFound entry.1) (kernel.reweighed before) := by
  have stillMissing : entry.1 ∉ (kernel.reweighed before).names := by rwa [names_reweighed]
  rw [setWeights_append distinct known, setWeights, setWeight_of_not_mem stillMissing]

theorem withWeights_of_known (distinct : kernel.names.Nodup) {weights : List (String × Binary64)}
    (known : ∀ entry ∈ weights, entry.1 ∈ kernel.names) :
    kernel.withWeights weights = .ok (kernel.reweighed weights) := by
  rw [withWeights, setWeights_of_known distinct known]

theorem withWeights_of_unknown (distinct : kernel.names.Nodup)
    {weights : List (String × Binary64)} {entry : String × Binary64}
    (first : weights.find? (·.1 ∉ kernel.names) = some entry) :
    kernel.withWeights weights = .error (.vectorNotFound entry.1) := by
  obtain ⟨unknown, before, after, rfl, passed⟩ := List.find?_eq_some_iff_append.mp first
  have missing : entry.1 ∉ kernel.names := of_decide_eq_true unknown
  have known : ∀ earlier ∈ before, earlier.1 ∈ kernel.names := by simpa using passed
  rw [withWeights, setWeights_of_unknown distinct known missing]

theorem withWeights_eq_error_iff (distinct : kernel.names.Nodup)
    {weights : List (String × Binary64)} :
    (∃ error, kernel.withWeights weights = .error error) ↔
      ∃ entry ∈ weights, entry.1 ∉ kernel.names := by
  cases first : weights.find? (·.1 ∉ kernel.names) with
  | none =>
      have known : ∀ entry ∈ weights, entry.1 ∈ kernel.names := by
        simpa using List.find?_eq_none.mp first
      constructor
      · rintro ⟨error, failed⟩
        rw [withWeights_of_known distinct known] at failed
        cases failed
      · rintro ⟨entry, member, missing⟩
        exact absurd (known entry member) missing
  | some entry =>
      have missing : entry.1 ∉ kernel.names := by simpa using List.find?_some first
      exact ⟨fun _ => ⟨entry, List.mem_of_find?_eq_some first, missing⟩,
        fun _ => ⟨_, withWeights_of_unknown distinct first⟩⟩

/-! ### Sequences of calls -/

/-- The kernel after calls on its weights, in which one that fails does not stop the others. -/
def afterCalls (kernel : Kernel) (calls : List (String × Binary64)) : Kernel :=
  kernel.replay (calls.map fun call => .weight call.1 call.2)

/-- What calls on the weights of a kernel come to. -/
structure WeighedInTurn (kernel : Kernel) (calls : List (String × Binary64)) : Prop where
  /-- A further call fails exactly if its name is not that of an axis. -/
  fails_iff : ∀ name weight,
    (∃ error next, (kernel.afterCalls calls).setWeight name weight = .error error next) ↔
      name ∉ Axis.all.map Axis.name
  /-- A call that fails names what it has not found, and the kernel it leaves behind is in every
  part the one before. -/
  failure : ∀ name weight error next,
    (kernel.afterCalls calls).setWeight name weight = .error error next →
      error = .vectorNotFound name ∧ next = kernel.afterCalls calls
  /-- Each vector has the weight of the last call on its name, or its first one. -/
  weight : ∀ axis : Axis, ∃ first, kernel.vector? axis.name = some first ∧
    (kernel.afterCalls calls).vector? axis.name =
      some { first with weight := (lastValue? axis.name calls).getD first.weight }
  /-- Nothing else about the kernel is different. -/
  whole : kernel.afterCalls calls =
    { kernel with
      vectors := kernel.vectors.map fun vector =>
        { vector with weight := (lastValue? vector.name calls).getD vector.weight } }
  /-- Only the order of the calls on each name matters. -/
  reordered : ∀ others : List (String × Binary64),
    (∀ name, others.filter (·.1 = name) = calls.filter (·.1 = name)) →
      kernel.afterCalls others = kernel.afterCalls calls

/-- This holds of all kernels that can come about and of any calls. Weights that are equal agree in
all bits, those of NaN included. -/
theorem replay_weights_outcome {kernel : Kernel} (reachable : kernel.Reachable)
    (calls : List (String × Binary64)) : WeighedInTurn kernel calls := by
  have wellFormed : kernel.WellFormed := reachable.wellFormed
  have distinct : kernel.names.Nodup := wellFormed.nodup_names
  have run (calls : List (String × Binary64)) :
      kernel.afterCalls calls = kernel.reweighed calls := replay_weights distinct calls
  have names : (kernel.afterCalls calls).names = Axis.all.map Axis.name := by
    rw [run, names_reweighed, wellFormed.names_eq]
  have stillDistinct : (kernel.afterCalls calls).names.Nodup := by
    rwa [run, names_reweighed]
  have fails {name : String} {weight : Binary64} {error : KernelError} {next : Kernel}
      (failed : (kernel.afterCalls calls).setWeight name weight = .error error next) :
      name ∉ (kernel.afterCalls calls).names :=
    not_mem_of_setWeight_eq_error stillDistinct failed
  constructor
  case fails_iff =>
    intro name weight
    rw [← names]
    exact ⟨fun ⟨_, _, failed⟩ => fails failed,
      fun missing => ⟨_, _, setWeight_of_not_mem missing weight⟩⟩
  case failure =>
    intro name weight error next failed
    have expected := setWeight_of_not_mem (fails failed) weight
    rw [failed, EStateM.Result.error.injEq] at expected
    exact expected
  case weight =>
    intro axis
    have known : axis.name ∈ kernel.names := by
      rw [wellFormed.names_eq]
      exact List.mem_map_of_mem axis.mem_all
    obtain ⟨first, found⟩ := exists_vector?_of_mem known
    refine ⟨first, found, ?_⟩
    rw [run, vector?_reweighed, found]
    rfl
  case whole => exact run calls
  case reordered =>
    intro others same
    rw [run, run]
    apply reweighed_congr
    intro name
    rw [lastValue?, same, lastValue?]

/-- Calls on Integrity in one order and calls on other names anywhere between them, one of which
fails; the NaN that is not written over keeps its sign and payload. -/
theorem replay_weights_shuffled :
    let signalling : Binary64 := .nan ⟨true, 7, by decide, by decide⟩
    let calls : List (String × Binary64) :=
      [("Integrity", .nan .quiet), ("integrity", .one), ("NonDual", signalling),
        ("Integrity", .infinity)]
    let others : List (String × Binary64) :=
      [("NonDual", signalling), ("Integrity", .nan .quiet), ("Integrity", .infinity),
        ("integrity", .one)]
    standard.Reachable ∧
      (standard.afterCalls calls).setWeight "integrity" .zero =
        .error (.vectorNotFound "integrity") (standard.afterCalls calls) ∧
      standard.afterCalls others = standard.afterCalls calls ∧
      ((standard.afterCalls calls).vector? "Integrity").map (·.weight) = some .infinity ∧
      ((standard.afterCalls calls).vector? "NonDual").map (·.weight.bits) =
        some 0xFFF0000000000007 := by
  intro signalling calls others
  have reachable : standard.Reachable := ⟨.standard, standard, [], rfl, rfl⟩
  have outcome := replay_weights_outcome reachable calls
  have same : ∀ name, others.filter (·.1 = name) = calls.filter (·.1 = name) := by
    intro name
    by_cases first : "Integrity" = name
    · subst first
      decide
    · by_cases second : "NonDual" = name
      · subst second
        decide
      · simp [others, calls, List.filter_cons, first, second]
  refine ⟨reachable, ?_, outcome.reordered others same, ?_, ?_⟩
  · obtain ⟨error, next, failed⟩ := (outcome.fails_iff "integrity" .zero).mpr (by decide)
    obtain ⟨rfl, rfl⟩ := outcome.failure _ _ _ _ failed
    exact failed
  · obtain ⟨first, -, last⟩ := outcome.weight .integrity
    exact congrArg (Option.map (·.weight)) last
  · obtain ⟨first, -, last⟩ := outcome.weight .nonDual
    have pattern : signalling.bits = 0xFFF0000000000007 := by decide
    rw [← pattern]
    exact congrArg (Option.map (·.weight.bits)) last

end Kernel

end CognitiveKernel
