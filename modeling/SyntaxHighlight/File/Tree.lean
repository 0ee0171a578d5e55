/-
A tree of files and directories below one directory. Files are read as texts; the content of some
is no text.
-/

import SyntaxHighlight.File.Path
import SyntaxHighlight.Mode.Error
import SyntaxHighlight.Text.Dictionary

namespace SyntaxHighlight

/-- The content of a file, if it is a text. -/
abbrev FileContent := Option String

inductive FileEntry where
  | directory
  | file (content : FileContent)
deriving DecidableEq, Repr

/-- The entries by their places, which are told by the names on the way to them. The directory at
the root, from which other paths start as well, is not among them. -/
structure FileTree where
  entries : Dictionary (List String) FileEntry := []
deriving DecidableEq, Repr

namespace FileTree

def entry? (tree : FileTree) (place : List String) : Option FileEntry :=
  if place.isEmpty then some .directory else tree.entries.get? place

/-- Follows a path from a place that has been reached. -/
def follow (tree : FileTree) (place : List String) :
    List Path.Part → Except FileError (List String)
  | [] => .ok place
  | part :: rest =>
      match tree.entry? place with
      | none => .error .notFound
      | some (.file _) => .error .notDirectory
      | some .directory => follow tree (part.leadsTo place) rest

/-- Reads the text of a file. -/
def read (tree : FileTree) (path : String) : Except FileError String := do
  let place ← tree.follow [] (Path.parts path)
  match tree.entry? place with
  | none => throw .notFound
  | some .directory => throw .isDirectory
  | some (.file content) =>
      if path.endsWith "/" || path.endsWith "/." then throw .notDirectory
      else
        match content with
        | none => throw .notText
        | some text => return text

private def addDirectories (tree : FileTree) (places : List (List String)) : FileTree :=
  ⟨places.foldl
    (fun entries place => if place.isEmpty then entries else entries.setNew place .directory)
    tree.entries⟩

/-- Makes all directories on a way, unless a file stands in it. -/
def createDirectories (tree : FileTree) (places : List (List String)) :
    Except FileError FileTree :=
  match places.find? fun place =>
      match tree.entry? place with
      | some (.file _) => true
      | _ => false with
  | some obstacle =>
      .error (if some obstacle = places.getLast? then .alreadyExists else .notDirectory)
  | none => .ok (tree.addDirectories places)

/-- Writes a file; the directory above it must be there. -/
def write (tree : FileTree) (place : List String) (content : FileContent) :
    Except FileError FileTree :=
  match tree.entry? place with
  | some .directory => .error .isDirectory
  | _ => .ok ⟨tree.entries.set place (.file content)⟩

/-- Writes a file, making the directories above it. -/
def writeBelow (tree : FileTree) (path : String) (content : FileContent) :
    Except FileError FileTree := do
  (← tree.createDirectories (Path.places path).dropLast).write (Path.place path) content

/-- Puts a file in place or, if the path ends in a slash, a directory. What cannot be put there
is left out. -/
def put (tree : FileTree) (path : String) (content : FileContent) : FileTree :=
  let changed :=
    if path.endsWith "/" then tree.createDirectories (Path.places path)
    else tree.writeBelow path content
  match changed with
  | .ok tree => tree
  | .error _ => tree

/-- The text of a file, if it can be read. -/
def text? (tree : FileTree) (path : String) : Option String :=
  match tree.read path with
  | .ok text => some text
  | .error _ => none

def erase (tree : FileTree) (path : String) : FileTree := ⟨tree.entries.erase (Path.place path)⟩

/-- The names of the files in a directory; none if there is no such directory. -/
def fileNames (tree : FileTree) (path : String) : List String :=
  match tree.follow [] (Path.parts path) with
  | .error _ => []
  | .ok directory =>
      tree.entries.filterMap fun (place, entry) =>
        match entry with
        | .file _ => if place.dropLast = directory then place.getLast? else none
        | .directory => none

end FileTree

end SyntaxHighlight
