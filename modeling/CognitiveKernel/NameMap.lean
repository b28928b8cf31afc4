/-
Module: CognitiveKernel.NameMap
Purpose: Finite maps from names to values, ordered by the code points of the names.
Main exports: NameMap, NameMap.insert, NameMap.ofList, NameMap.find?, NameMap.ofList_entries
-/

namespace CognitiveKernel

/-- Entries with strictly increasing names. -/
structure NameMap (α : Type) where
  entries : List (String × α)
  sorted : entries.Pairwise fun left right => left.1 < right.1

namespace NameMap

variable {α : Type}

def empty : NameMap α := ⟨[], .nil⟩

def isEmpty (map : NameMap α) : Bool := map.entries.isEmpty

/-- Puts an entry at its place in an ordered list, over an older entry of the same name. -/
def insertEntry (name : String) (value : α) : List (String × α) → List (String × α)
  | [] => [(name, value)]
  | (other, held) :: rest =>
      if name < other then (name, value) :: (other, held) :: rest
      else if other < name then (other, held) :: insertEntry name value rest
      else (name, value) :: rest

theorem mem_insertEntry {name : String} {value : α} {entries : List (String × α)}
    {entry : String × α} (h : entry ∈ insertEntry name value entries) :
    entry = (name, value) ∨ entry ∈ entries := by
  induction entries with
  | nil => simpa [insertEntry] using h
  | cons head rest ih =>
      obtain ⟨other, held⟩ := head
      simp only [insertEntry] at h
      split at h
      · simpa using h
      · split at h
        · rcases List.mem_cons.mp h with rfl | h
          · simp
          · rcases ih h with rfl | h
            · simp
            · simp [h]
        · rcases List.mem_cons.mp h with rfl | h
          · simp
          · simp [h]

theorem sorted_insertEntry {name : String} {value : α} {entries : List (String × α)}
    (h : entries.Pairwise fun left right => left.1 < right.1) :
    (insertEntry name value entries).Pairwise fun left right => left.1 < right.1 := by
  induction entries with
  | nil => simp [insertEntry]
  | cons head rest ih =>
      obtain ⟨other, held⟩ := head
      rw [List.pairwise_cons] at h
      simp only [insertEntry]
      split
      · rename_i below
        refine List.pairwise_cons.mpr ⟨?_, List.pairwise_cons.mpr h⟩
        intro entry member
        rcases List.mem_cons.mp member with rfl | member
        · exact below
        · exact String.lt_trans below (h.1 entry member)
      · split
        · rename_i above
          refine List.pairwise_cons.mpr ⟨?_, ih h.2⟩
          intro entry member
          rcases mem_insertEntry member with rfl | member
          · exact above
          · exact h.1 entry member
        · rename_i notBelow notAbove
          have equal : name = other :=
            String.le_antisymm (String.not_lt.mp notAbove) (String.not_lt.mp notBelow)
          subst equal
          exact List.pairwise_cons.mpr ⟨h.1, h.2⟩

def insert (map : NameMap α) (name : String) (value : α) : NameMap α :=
  ⟨insertEntry name value map.entries, sorted_insertEntry map.sorted⟩

/-- The map of a list of entries, in which later entries go over earlier ones. -/
def ofList (entries : List (String × α)) : NameMap α :=
  entries.foldl (fun map entry => map.insert entry.1 entry.2) empty

def find? (map : NameMap α) (name : String) : Option α :=
  map.entries.lookup name

theorem ext {left right : NameMap α} (same : left.entries = right.entries) : left = right := by
  cases left
  cases right
  cases same
  rfl

/-- An entry behind all others is put at the end. -/
theorem insertEntry_of_last {name : String} {value : α} {entries : List (String × α)}
    (last : ∀ entry ∈ entries, entry.1 < name) :
    insertEntry name value entries = entries ++ [(name, value)] := by
  induction entries with
  | nil => rfl
  | cons head rest ih =>
      obtain ⟨other, held⟩ := head
      have above : other < name := last (other, held) List.mem_cons_self
      have notBelow : ¬name < other := fun below =>
        String.lt_irrefl name (String.lt_trans below above)
      rw [insertEntry, if_neg notBelow, if_pos above,
        ih fun entry member => last entry (List.mem_cons_of_mem _ member)]
      rfl

theorem entries_foldl_insert {map : NameMap α} {more : List (String × α)}
    (ordered : (map.entries ++ more).Pairwise fun left right => left.1 < right.1) :
    (more.foldl (fun map entry => map.insert entry.1 entry.2) map).entries =
      map.entries ++ more := by
  induction more generalizing map with
  | nil => exact (List.append_nil _).symm
  | cons entry more ih =>
      have last : ∀ held ∈ map.entries, held.1 < entry.1 := fun held member =>
        (List.pairwise_append.mp ordered).2.2 held member entry List.mem_cons_self
      have inserted : (map.insert entry.1 entry.2).entries = map.entries ++ [entry] :=
        insertEntry_of_last last
      have split : map.entries ++ entry :: more = map.entries ++ [entry] ++ more := by
        rw [List.append_assoc, List.singleton_append]
      rw [split] at ordered ⊢
      rw [← inserted] at ordered ⊢
      exact ih ordered

/-- A map is that of its own entries. -/
theorem ofList_entries (map : NameMap α) : ofList map.entries = map := by
  apply ext
  exact @entries_foldl_insert α empty map.entries map.sorted

end NameMap

end CognitiveKernel
