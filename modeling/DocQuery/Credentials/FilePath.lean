/-
This file defines paths of files and trees of files to read from.

A path is a root and a list of parts. In its text, repeated and trailing slashes and parts that
are a single dot do not count; parts of two dots stay, since only a walk can tell where they
lead. Exactly two leading slashes are a root of their own, and any other number of them is the
plain root.

A tree holds files by the places where they are, from the root on. It knows names by their bytes only,
so two texts with the same bytes name the same file. A relative path starts at the working directory. A
walk goes from directory to directory, and above the root is the root again.
-/

import DocQuery.Failure
import DocQuery.Text.Separated
import DocQuery.Text.Utf8

namespace DocQuery

/-! ### Paths -/

inductive PathRoot
  | relative
  | single
  | double
  deriving DecidableEq, Repr

def PathRoot.text : PathRoot → Text
  | .relative => ""
  | .single => "/"
  | .double => "//"

/-- A path of a file or directory. -/
structure FilePath where
  root : PathRoot
  parts : List Text
  deriving DecidableEq, Repr

namespace FilePath

/-- The root that a text begins with. -/
def rootOf : Text → PathRoot
  | .char '/' :: .char '/' :: .char '/' :: _ => .single
  | .char '/' :: .char '/' :: _ => .double
  | .char '/' :: _ => .single
  | _ => .relative

/-- Whether a piece of a text counts as a part. -/
def isPart (piece : Text) : Bool := piece ≠ [] && piece ≠ "."

def ofText (text : Text) : FilePath := ⟨rootOf text, (Text.split '/' text).filter isPart⟩

def text (path : FilePath) : Text :=
  if path.root = .relative ∧ path.parts = [] then "."
  else path.root.text ++ Text.join '/' path.parts

/-- The path of an entry of a directory. -/
def child (name : Text) (path : FilePath) : FilePath :=
  { path with parts := path.parts ++ [name] }

/-- The directory that a path lies in. -/
def parent (path : FilePath) : FilePath := { path with parts := path.parts.dropLast }

/-- The last part of a path. -/
def name? (path : FilePath) : Option Text := path.parts.getLast?

@[simp] theorem parent_child (name : Text) (path : FilePath) :
    (path.child name).parent = path := by
  simp [child, parent]

@[simp] theorem name?_child (name : Text) (path : FilePath) :
    (path.child name).name? = some name := by
  simp [child, name?]

end FilePath

/-! ### Files -/

/-- What a tree holds at a place. -/
inductive FileContent
  | bytes (content : List UInt8)
  | directory
  deriving DecidableEq, Repr

/-- A place in a tree of files: the names on the way from the root, each by its bytes. -/
abbrev FilePlace := List (List UInt8)

/-- A tree of files: what it holds, by the places, and the place of the working directory. A place that
is listed again holds what was listed last, and every directory on the way to a place is there. -/
structure FileTree where
  entries : List (FilePlace × FileContent)
  workingDirectory : FilePlace
  deriving DecidableEq, Repr

namespace FileTree

/-- The place of parts, if each of them has bytes. -/
def placeOf? (parts : List Text) : Option FilePlace := parts.mapM Text.fileBytes?

/-- The tree of the files in a working directory, which are given by their parts. No file goes by
parts that have no bytes. -/
def ofFiles (workingDirectory : FilePlace) (files : List (List Text × FileContent)) : FileTree where
  entries :=
    (workingDirectory, .directory) :: files.filterMap fun file =>
      (placeOf? file.1).map fun place => (workingDirectory ++ place, file.2)
  workingDirectory := workingDirectory

/-! ### Reading -/

/-- The number of bytes that a name may have. -/
def nameLimit : Nat := 255

/-- The number of bytes that a path may have. -/
def pathLimit : Nat := 4095

def at? (place : FilePlace) (tree : FileTree) : Option FileContent :=
  if place = [] then some .directory
  else
    match tree.entries.reverse.lookup place with
    | some content => some content
    | none =>
      if tree.entries.any fun entry => place.isPrefixOf entry.1 then some .directory else none

/-- Walks from a place along parts, and gives the bytes of the file at the end. -/
def walk (tree : FileTree) : List Text → FilePlace → Except ForeignKind (List UInt8)
  | [], place =>
    match tree.at? place with
    | some (.bytes content) => .ok content
    | some .directory => .error .isADirectory
    | none => .error .missingFile
  | part :: rest, place =>
    match tree.at? place with
    | none => .error .missingFile
    | some (.bytes _) => .error .notADirectory
    | some .directory =>
      if part = ".." then walk tree rest place.dropLast
      else
        match Text.fileBytes? part with
        | none => .error .unencodable
        | some name =>
          if nameLimit < name.length then .error .system else walk tree rest (place ++ [name])

/-- The place that a path starts from. -/
def startOf (root : PathRoot) (tree : FileTree) : FilePlace :=
  match root with
  | .relative => tree.workingDirectory
  | .single | .double => []

/-- The bytes of the file at a path. -/
def read (path : FilePath) (tree : FileTree) : Except ForeignKind (List UInt8) :=
  match Text.fileBytes? path.text with
  | none => .error .unencodable
  | some bytes =>
    if pathLimit < bytes.length then .error .system
    else walk tree path.parts (tree.startOf path.root)

end FileTree

end DocQuery
