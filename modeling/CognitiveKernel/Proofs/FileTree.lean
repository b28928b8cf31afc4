/-
Module: CognitiveKernel.Proofs.FileTree
Purpose: What is in the way when a path does not lead to a text.
Main exports: FileTree.Followable, FileTree.Obstructed, FileTree.resolve_append,
  FileTree.readText_of_obstructed, FileTree.readText_of_isAbsolute
-/
import CognitiveKernel.FileTree

namespace CognitiveKernel.FileTree

variable {tree : FileTree}

/-- A path that is not refused before its first step is taken. -/
structure Followable (path : String) : Prop where
  noNul : '\x00' ∉ path.toList
  fits : path.utf8ByteSize ≤ longestPath

/-- The ways in which something stands where a text is looked for, but no text is read. -/
inductive Obstructed (tree : FileTree) (path : String) : FileError → Prop where
  /-- The path goes on behind a file. -/
  | belowFile {front back : String} {place : Place} {content : ByteArray}
      (shape : path = front ++ "/" ++ back) (followable : Followable path)
      (leads : tree.resolve front = .ok place) (stands : tree.entry? place = some (.file content)) :
      Obstructed tree path .notADirectory
  /-- The path goes on behind a directory that the system does not let it pass. -/
  | refusedStep {front back name : String} {later : List String} {place : Place}
      {error : FileError} (shape : path = front ++ "/" ++ back) (followable : Followable path)
      (next : steps back = name :: later) (leads : tree.resolve front = .ok place)
      (stands : tree.entry? place = some .directory)
      (refused : tree.refusesStep? place name = some error) (present : error ≠ .notFound) :
      Obstructed tree path error
  /-- The system does not hand out what stands at the end of the path. -/
  | refusedReading {place : Place} {entry : Entry} {error : FileError}
      (leads : tree.resolve path = .ok place) (stands : tree.entry? place = some entry)
      (refused : tree.refusesReading? place = some error) (present : error ≠ .notFound) :
      Obstructed tree path error
  /-- There is a directory in place of the file. -/
  | directory {place : Place} (leads : tree.resolve path = .ok place)
      (stands : tree.entry? place = some .directory)
      (allowed : tree.refusesReading? place = none) : Obstructed tree path .isADirectory
  /-- The file holds octets that are not the encoding of a text. -/
  | undecodable {place : Place} {content : ByteArray} (leads : tree.resolve path = .ok place)
      (stands : tree.entry? place = some (.file content))
      (allowed : tree.refusesReading? place = none) (invalid : String.fromUTF8? content = none) :
      Obstructed tree path .invalidText

/-! ### Steps -/

theorem steps_append (front back : String) :
    steps (front ++ "/" ++ back) = steps front ++ steps back := by
  have chars : (front ++ "/" ++ back).toList = front.toList ++ '/' :: back.toList := by
    rw [String.toList_append, String.toList_append, List.append_assoc]
    rfl
  rw [steps, chars, List.splitOn_append_cons_self, List.map_append]
  rfl

theorem exists_steps_eq_cons (path : String) : ∃ name later, steps path = name :: later :=
  List.exists_cons_of_ne_nil (by simp [steps])

/-- A walk fails where its first step does. -/
theorem foldlM_step_of_error {place : Place} {name : String} {error : FileError}
    (failed : tree.step place name = .error error) (later : List String) :
    (name :: later).foldlM tree.step place = .error error := by
  rw [List.foldlM_cons, failed]
  rfl

/-- No step leads on from a file, not even an empty one. -/
theorem step_file {place : Place} {content : ByteArray}
    (stands : tree.entry? place = some (.file content)) (name : String) :
    tree.step place name = .error .notADirectory := by
  rw [step, stands]

theorem step_refused {place : Place} {name : String} {error : FileError}
    (stands : tree.entry? place = some .directory)
    (refused : tree.refusesStep? place name = some error) :
    tree.step place name = .error error := by
  rw [step, stands]
  simp only [refused]

/-! ### Paths -/

theorem isAbsolute_append {front : String} (nonempty : front ≠ "") (back : String) :
    isAbsolute (front ++ back) = isAbsolute front := by
  obtain ⟨c, rest, shape⟩ := List.exists_cons_of_ne_nil (mt String.toList_eq_nil_iff.mp nonempty)
  rw [isAbsolute, isAbsolute, String.toList_append, shape, List.cons_append, List.head?_cons,
    List.head?_cons]

/-- A path is followed step by step if it is not refused as a whole. -/
theorem resolve_eq_foldlM {path : String} (nonempty : path ≠ "") (followable : Followable path) :
    tree.resolve path = (steps path).foldlM tree.step (tree.start path) := by
  have noNul : path.toList.contains '\x00' = false := by simpa using followable.noNul
  rw [resolve, noNul, if_neg Bool.false_ne_true, if_neg nonempty,
    if_neg (Nat.not_lt.mpr followable.fits)]

/-- A path that leads somewhere was not refused as a whole. -/
theorem foldlM_of_resolve_eq_ok {path : String} {place : Place}
    (leads : tree.resolve path = .ok place) :
    path ≠ "" ∧ (steps path).foldlM tree.step (tree.start path) = .ok place := by
  rw [resolve] at leads
  split at leads
  · cases leads
  · split at leads
    · cases leads
    · rename_i nonempty
      split at leads
      · cases leads
      · exact ⟨nonempty, leads⟩

/-- A path is followed from the place that its front leads to. -/
theorem resolve_append {front back : String} {place : Place}
    (leads : tree.resolve front = .ok place) (followable : Followable (front ++ "/" ++ back)) :
    tree.resolve (front ++ "/" ++ back) = (steps back).foldlM tree.step place := by
  obtain ⟨nonempty, followed⟩ := foldlM_of_resolve_eq_ok leads
  have whole : front ++ "/" ++ back ≠ "" := by
    intro empty
    exact nonempty (String.append_eq_empty_iff.mp (String.append_eq_empty_iff.mp empty).1).1
  have started : tree.start (front ++ "/" ++ back) = tree.start front := by
    rw [start, start, String.append_assoc, isAbsolute_append nonempty]
  rw [resolve_eq_foldlM whole followable, steps_append, List.foldlM_append, started, followed]
  rfl

/-! ### Texts -/

theorem readText_of_resolve_eq_ok {path : String} {place : Place}
    (leads : tree.resolve path = .ok place) : tree.readText path = tree.textAt place := by
  rw [readText, leads]
  rfl

theorem readText_of_resolve_eq_error {path : String} {error : FileError}
    (failed : tree.resolve path = .error error) : tree.readText path = .error error := by
  rw [readText, failed]
  rfl

theorem readText_of_obstructed {path : String} {error : FileError}
    (obstructed : tree.Obstructed path error) :
    tree.readText path = .error error ∧ error ≠ .notFound := by
  cases obstructed with
  | @belowFile front back _ _ shape followable leads stands =>
      subst shape
      obtain ⟨name, later, next⟩ := exists_steps_eq_cons back
      refine ⟨readText_of_resolve_eq_error ?_, nofun⟩
      rw [resolve_append leads followable, next]
      exact foldlM_step_of_error (step_file stands name) later
  | refusedStep shape followable next leads stands refused present =>
      subst shape
      refine ⟨readText_of_resolve_eq_error ?_, present⟩
      rw [resolve_append leads followable, next]
      exact foldlM_step_of_error (step_refused stands refused) _
  | refusedReading leads stands refused present =>
      rw [readText_of_resolve_eq_ok leads, textAt, stands, refused]
      exact ⟨rfl, present⟩
  | directory leads stands allowed =>
      rw [readText_of_resolve_eq_ok leads, textAt, stands, allowed]
      exact ⟨rfl, nofun⟩
  | undecodable leads stands allowed invalid =>
      rw [readText_of_resolve_eq_ok leads, textAt, stands, allowed]
      simp only [invalid]
      exact ⟨trivial, nofun⟩

/-- What is read from an absolute path does not depend on the working directory. -/
theorem readText_of_isAbsolute {path : String} (absolute : isAbsolute path = true)
    (working : Place) :
    { tree with working := working }.readText path = tree.readText path := by
  have started : { tree with working := working }.start path = tree.start path := by
    rw [start, start, if_pos absolute, if_pos absolute]
  rw [readText, readText, resolve, resolve, started]
  rfl

end CognitiveKernel.FileTree
