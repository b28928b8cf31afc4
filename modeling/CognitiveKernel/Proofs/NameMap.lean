/-
Module: CognitiveKernel.Proofs.NameMap
Purpose: Of the entries of a name, the last one counts.
Main exports: lastValue?, lastValue?_append, NameMap.mapValues, NameMap.find?_ofList,
  NameMap.lastValue?_ofList, NameMap.mem_names_ofList, NameMap.le_of_find?_eq_some
-/
import CognitiveKernel.NameMap

namespace CognitiveKernel

variable {α : Type}

/-! ### The last value of a name -/

/-- The value of the last entry of a name, if there is one. -/
def lastValue? (name : String) (entries : List (String × α)) : Option α :=
  (entries.filter (·.1 = name)).getLast?.map (·.2)

theorem lastValue?_singleton (name : String) (entry : String × α) :
    lastValue? name [entry] = if entry.1 = name then some entry.2 else none := by
  by_cases same : entry.1 = name
  · simp [lastValue?, same]
  · simp [lastValue?, same]

/-- Later entries go before earlier ones. -/
theorem lastValue?_append (name : String) (first second : List (String × α)) :
    lastValue? name (first ++ second) = (lastValue? name second).or (lastValue? name first) := by
  rw [lastValue?, List.filter_append, List.getLast?_append, Option.map_or]
  rfl

theorem lastValue?_cons (name : String) (entry : String × α) (rest : List (String × α)) :
    lastValue? name (entry :: rest) =
      (lastValue? name rest).or (if entry.1 = name then some entry.2 else none) := by
  rw [← List.singleton_append, lastValue?_append, lastValue?_singleton]

theorem lastValue?_eq_none_iff {name : String} {entries : List (String × α)} :
    lastValue? name entries = none ↔ name ∉ entries.map (·.1) := by
  rw [lastValue?, Option.map_eq_none_iff, List.getLast?_eq_none_iff, List.filter_eq_nil_iff,
    List.mem_map, not_exists]
  simp only [decide_eq_true_eq, not_and]

/-- Among entries with distinct names each one is the last of its name. -/
theorem lastValue?_of_mem {entries : List (String × α)} {entry : String × α}
    (distinct : (entries.map (·.1)).Nodup) (member : entry ∈ entries) :
    lastValue? entry.1 entries = some entry.2 := by
  obtain ⟨before, after, rfl⟩ := List.append_of_mem member
  rw [List.map_append, List.map_cons, List.nodup_append, List.nodup_cons] at distinct
  have notLater : lastValue? entry.1 after = none :=
    lastValue?_eq_none_iff.mpr distinct.2.1.1
  rw [lastValue?_append, lastValue?_cons, notLater, if_pos rfl]
  rfl

/-! ### What a map holds -/

namespace NameMap

/-- The map with a function applied to all values. -/
def mapValues (f : α → α) (map : NameMap α) : NameMap α where
  entries := map.entries.map fun entry => (entry.1, f entry.2)
  sorted := map.sorted.map _ fun _ _ less => less

@[simp] theorem mapValues_id (map : NameMap α) : map.mapValues id = map :=
  ext (List.map_id map.entries)

theorem lookup_cons_eq_ite (name other : String) (value : α) (entries : List (String × α)) :
    ((name, value) :: entries).lookup other =
      if other = name then some value else entries.lookup other := by
  rw [List.lookup_cons]
  split
  · rename_i same
    rw [if_pos (beq_iff_eq.mp same)]
  · rename_i different
    rw [if_neg (beq_eq_false_iff_ne.mp different)]

/-- An insertion is seen under its own name and under no other. -/
theorem lookup_insertEntry (name other : String) (value : α) (entries : List (String × α)) :
    (insertEntry name value entries).lookup other =
      if other = name then some value else entries.lookup other := by
  induction entries with
  | nil => exact lookup_cons_eq_ite name other value []
  | cons head rest ih =>
      obtain ⟨held, old⟩ := head
      rw [insertEntry]
      split
      · exact lookup_cons_eq_ite name other value _
      · split
        · rename_i above
          rw [lookup_cons_eq_ite, lookup_cons_eq_ite, ih]
          by_cases same : other = name
          · have apart : other ≠ held := by
              rintro rfl
              exact String.lt_irrefl name (same ▸ above)
            rw [if_neg apart, if_pos same, if_pos same]
          · rw [if_neg same, if_neg same]
        · rename_i notBelow notAbove
          have equal : name = held :=
            String.le_antisymm (String.not_lt.mp notAbove) (String.not_lt.mp notBelow)
          subst equal
          rw [lookup_cons_eq_ite, lookup_cons_eq_ite]
          by_cases same : other = name
          · rw [if_pos same, if_pos same]
          · rw [if_neg same, if_neg same, if_neg same]

theorem find?_insert (map : NameMap α) (name other : String) (value : α) :
    (map.insert name value).find? other = if other = name then some value else map.find? other :=
  lookup_insertEntry name other value map.entries

/-- The induction over the entries that are put into a map, one after the other. -/
theorem find?_foldl_insert (entries : List (String × α)) (map : NameMap α) (name : String) :
    (entries.foldl (fun map entry => map.insert entry.1 entry.2) map).find? name =
      (lastValue? name entries).or (map.find? name) := by
  induction entries generalizing map with
  | nil => rfl
  | cons entry rest ih =>
      rw [List.foldl_cons, ih, find?_insert, lastValue?_cons, Option.or_assoc]
      by_cases same : entry.1 = name
      · simp [same]
      · simp [same, Ne.symm same]

theorem find?_ofList (entries : List (String × α)) (name : String) :
    (ofList entries).find? name = lastValue? name entries := by
  rw [ofList, find?_foldl_insert]
  exact Option.or_none

/-- The entries of the map of a list tell as much about each name as the list. -/
theorem lastValue?_ofList (entries : List (String × α)) (name : String) :
    lastValue? name (ofList entries).entries = lastValue? name entries := by
  rw [← find?_ofList, ofList_entries, find?_ofList]

theorem mem_names_ofList {entries : List (String × α)} {name : String} :
    name ∈ (ofList entries).entries.map (·.1) ↔ name ∈ entries.map (·.1) := by
  have missing : name ∉ (ofList entries).entries.map (·.1) ↔ name ∉ entries.map (·.1) := by
    rw [← lastValue?_eq_none_iff, lastValue?_ofList, lastValue?_eq_none_iff]
  exact Decidable.not_iff_not.mp missing

/-- In an ordered map the first entry of a kind has the least name of that kind. -/
theorem le_of_find?_eq_some {map : NameMap α} {kind : String × α → Bool}
    {least : String × α} (found : map.entries.find? kind = some least) {entry : String × α}
    (member : entry ∈ map.entries) (isKind : kind entry = true) : least.1 ≤ entry.1 := by
  obtain ⟨-, before, after, split, others⟩ := List.find?_eq_some_iff_append.mp found
  have sorted := map.sorted
  rw [split] at member sorted
  rcases List.mem_append.mp member with earlier | later
  · have excluded := others entry earlier
    rw [isKind] at excluded
    cases excluded
  · rcases List.mem_cons.mp later with rfl | later
    · exact String.le_refl _
    · have below : least.1 < entry.1 :=
        (List.pairwise_cons.mp (List.pairwise_append.mp sorted).2.1).1 entry later
      exact String.not_lt.mp fun above =>
        String.lt_irrefl _ (String.lt_trans below above)

end NameMap

end CognitiveKernel
