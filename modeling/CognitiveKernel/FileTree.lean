/-
Module: CognitiveKernel.FileTree
Purpose: The state of a file system, as far as it decides what text is read from a path.
Main exports: FileError, FileTree, FileTree.ofLists, FileTree.resolve, FileTree.readText
-/
import CognitiveKernel.Decimal.Digits

namespace CognitiveKernel

/-- A failure that the operating system reports by a number, other than the four that have cases of
their own: no permission, links that lead in a circle, a fault of the device and so on. -/
structure SystemError where
  number : Nat
  /-- The words of the system for it. -/
  description : String
  number_not_mem : number ∉ [2, 20, 21, 36]
deriving DecidableEq

/-- Why a file could not be read as text. -/
inductive FileError where
  | notFound
  | notADirectory
  | isADirectory
  /-- A name in the path, or the path itself, is longer than a file system takes. -/
  | nameTooLong
  /-- The path holds a NUL, which no name does. -/
  | nulInPath
  /-- The bytes of the file are not valid UTF-8. -/
  | invalidText
  /-- Whatever else keeps the system from reading the file. -/
  | other (error : SystemError)
deriving DecidableEq

def FileError.message : FileError → String
  | .notFound => "No such file or directory (os error 2)"
  | .notADirectory => "Not a directory (os error 20)"
  | .isADirectory => "Is a directory (os error 21)"
  | .nameTooLong => "File name too long (os error 36)"
  | .nulInPath => "file name contained an unexpected NUL byte"
  | .invalidText => "stream did not contain valid UTF-8"
  | .other error => error.description ++ " (os error " ++ Decimal.natText error.number ++ ")"

/-- A place in a file system: the names on the way to it from the root, with no link among them. -/
abbrev Place := List String

/-- What stands at a place. -/
inductive FileTree.Entry where
  | file (content : ByteArray)
  | directory

/-- The state of a file system that does not change while it is read. -/
structure FileTree where
  /-- Where a path begins that does not begin at the root. -/
  working : Place
  /-- What stands at a place, if anything does. -/
  entry? : Place → Option FileTree.Entry
  /-- Where a name leads in the end if it is that of a link, or why it leads nowhere. -/
  link? : Place → Option (Except FileError Place)
  /-- Why the system does not take a step from a directory by a name, if it does not. -/
  refusesStep? : Place → String → Option FileError
  /-- Why the system does not hand out what stands at a place, if it does not. -/
  refusesReading? : Place → Option FileError

namespace FileTree

/-! ### Paths -/

/-- Whether a path begins at the root. -/
def isAbsolute (path : String) : Bool :=
  path.toList.head? = some '/'

/-- The steps of a path, with empty steps where slashes are doubled or stand at an end. -/
def steps (path : String) : List String :=
  (path.toList.splitOn '/').map String.ofList

/-- The path of a name below a directory; an absolute name stands for itself. -/
def join (directory name : String) : String :=
  if isAbsolute name || directory = "" then name
  else if directory.toList.getLast? = some '/' then directory ++ name
  else directory ++ "/" ++ name

/-! ### Walking and reading -/

/-- The most octets that a name has. -/
def longestName : Nat := 255

/-- The most octets that a path has. -/
def longestPath : Nat := 4095

/-- The place that is reached by the names on the way to another one. -/
def follow (tree : FileTree) (place : Place) : Except FileError Place :=
  (tree.link? place).getD (.ok place)

/-- One step from a place. Above the root there is nothing but the root. Whether anything stands
where a step leads is seen at the next one, or when it is read. -/
def step (tree : FileTree) (place : Place) (name : String) : Except FileError Place :=
  match tree.entry? place with
  | none => .error .notFound
  | some (.file _) => .error .notADirectory
  | some .directory =>
      match tree.refusesStep? place name with
      | some error => .error error
      | none =>
          if name = "" || name = "." then .ok place
          else if name = ".." then .ok place.dropLast
          else if longestName < name.utf8ByteSize then .error .nameTooLong
          else tree.follow (place ++ [name])

/-- Where the steps of a path begin. -/
def start (tree : FileTree) (path : String) : Place :=
  if isAbsolute path then [] else tree.working

/-- The place that a path leads to. Nothing is found under an empty path, and a path is checked as a
whole before its first step is taken. -/
def resolve (tree : FileTree) (path : String) : Except FileError Place :=
  if path.toList.contains '\x00' then .error .nulInPath
  else if path = "" then .error .notFound
  else if longestPath < path.utf8ByteSize then .error .nameTooLong
  else (steps path).foldlM tree.step (tree.start path)

/-- The text that stands at a place. -/
def textAt (tree : FileTree) (place : Place) : Except FileError String :=
  match tree.entry? place, tree.refusesReading? place with
  | none, _ => .error .notFound
  | some _, some error => .error error
  | some .directory, none => .error .isADirectory
  | some (.file content), none =>
      match String.fromUTF8? content with
      | some text => .ok text
      | none => .error .invalidText

def readText (tree : FileTree) (path : String) : Except FileError String :=
  (tree.resolve path).bind tree.textAt

/-! ### Trees of files and directories -/

/-- The steps of a path without those that stay in place. -/
def properSteps (path : String) : List String :=
  (steps path).filter fun step => step ≠ "" && step ≠ "."

/-- The directories above a place. -/
def ancestors : Place → List Place
  | [] => []
  | step :: rest => [] :: (ancestors rest).map (step :: ·)

/-- The tree of the given files and directories, with the working directory and the directories
above all of them. Nothing in it is refused. -/
def ofLists (working : Place) (files : List (String × ByteArray)) (directories : List String) :
    FileTree :=
  let place (path : String) := (if isAbsolute path then [] else working) ++ properSteps path
  let named := files.map fun file => (place file.1, file.2)
  let made := working :: directories.map place
  let directories := made ++ (made ++ named.map Prod.fst).flatMap ancestors
  { working := working
    entry? := fun place =>
      match named.lookup place with
      | some content => some (.file content)
      | none => if directories.contains place then some .directory else none
    link? := fun _ => none
    refusesStep? := fun _ _ => none
    refusesReading? := fun _ => none }

/-- The file system that has nothing but its root. -/
def empty : FileTree := ofLists [] [] []

end FileTree

end CognitiveKernel
