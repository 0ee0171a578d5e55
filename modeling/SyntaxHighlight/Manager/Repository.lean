/-
The syntax definitions that are known, by name, and the patterns of the names of files in their
languages. Definitions come from texts, from files, and from the directories of the search path,
which are looked through when a definition is missing.
-/

import SyntaxHighlight.File.Glob
import SyntaxHighlight.File.Tree
import SyntaxHighlight.Grammar.DefinitionReading
import SyntaxHighlight.Mode.Compile

namespace SyntaxHighlight

open SyntaxHighlight.Text

/-- What makes a definition that was read useless. -/
def Definition.fault? (definition : Definition) : Option DefinitionFault :=
  if (trim definition.name.toList).isEmpty then some .emptyName
  else if definition.contexts.isEmpty then some .noContexts
  else none

/-- The patterns of the names of files in the language of a definition; texts that are no patterns
are left out. -/
def Definition.globs (definition : Definition) : List Glob :=
  definition.extensions.filterMap fun text => Glob.read? (trim text.toList)

structure Repository where
  searchPaths : List String := []
  definitions : Dictionary String Definition := []
  /-- The patterns of the names of files, by the names of the definitions that have them. -/
  globs : Dictionary String (List Glob) := []
  /-- Whether the directories of the search path have been looked through. -/
  scanned : Bool := false
deriving DecidableEq, Repr

namespace Repository

def addSearchPath (repository : Repository) (path : String) : Repository :=
  { repository with searchPaths := repository.searchPaths ++ [path], scanned := false }

/-- The names of all definitions in order. -/
def names (repository : Repository) : List String :=
  repository.definitions.keys.mergeSort fun one other => one ≤ other

/-! ### Loading -/

/-- Takes a definition in under its name, in place of another one of that name. -/
def register (repository : Repository) (definition : Definition) :
    Except HighlightError Repository :=
  match definition.fault? with
  | some fault => .error (.definitionInvalid definition.name fault)
  | none =>
      .ok { repository with
        definitions := repository.definitions.set definition.name definition
        globs := repository.globs.set definition.name definition.globs }

/-- Takes out the definition with a name and its patterns. -/
def forget (repository : Repository) (name : String) : Repository :=
  { repository with
    definitions := repository.definitions.erase name
    globs := repository.globs.erase name }

def loadAs (repository : Repository) (text : String) (file : Option String) :
    Except HighlightError (Repository × Definition) := do
  let definition ← (Definition.read text).mapError HighlightError.unreadable
  let definition := { definition with file }
  return (← repository.register definition, definition)

def loadText (repository : Repository) (text : String) :
    Except HighlightError (Repository × Definition) :=
  repository.loadAs text none

def loadFile (repository : Repository) (files : FileTree) (path : String) :
    Except HighlightError (Repository × Definition) :=
  match files.read path with
  | .ok text => repository.loadAs text (some path)
  | .error error => .error (.file error)

/-! ### The search path -/

private def isDefinitionName (name : String) : Bool :=
  (Path.extension? name).any fun ending => ending == "yaml" || ending == "yml"

/-- The files of definitions in the directories of the search path, in the order of their
paths. -/
def definitionFiles (repository : Repository) (files : FileTree) : List String :=
  let paths := repository.searchPaths.flatMap fun directory =>
    ((files.fileNames directory).filter isDefinitionName).map (Path.join directory)
  paths.mergeSort fun one other => Path.precedes (Path.parts one) (Path.parts other)

/-- Loads all definitions of the search path, passing over those that fail; gives the number of
those that do not. -/
def scan (repository : Repository) (files : FileTree) : Repository × Nat :=
  (repository.definitionFiles files).foldl
    (fun (repository, count) path =>
      match repository.loadFile files path with
      | .ok (repository, _) => (repository, count + 1)
      | .error _ => (repository, count))
    ({ repository with scanned := true }, 0)

def ensureScanned (repository : Repository) (files : FileTree) : Repository :=
  if repository.scanned || repository.searchPaths.isEmpty then repository
  else (repository.scan files).1

/-! ### Looking up -/

/-- The definition with a name; the search path is looked through if it is not known. -/
def find? (files : FileTree) (name : String) : StateM Repository (Option Definition) := do
  match (← get).definitions.get? name with
  | some definition => return some definition
  | none =>
      modify fun repository => repository.ensureScanned files
      return (← get).definitions.get? name

/-- The names of the definitions that have a pattern for the name of a file, in order. -/
def claimants (repository : Repository) (fileName : String) : List String :=
  let claiming : Dictionary String (List Glob) := repository.globs.filter fun (_, globs) =>
    globs.any fun glob => glob.isMatch fileName.toList
  claiming.keys.mergeSort fun one other => one ≤ other

/-- The definition with the first name among those that claim the name of a file. -/
def findForFile? (files : FileTree) (path : String) : StateM Repository (Option Definition) := do
  modify fun repository => repository.ensureScanned files
  let repository ← get
  return do
    let fileName ← Path.fileName? path
    let name ← (repository.claimants fileName).head?
    repository.definitions.get? name

/-- The definition with a name, or what is wrong. -/
def definition (repository : Repository) (files : FileTree) (name : String) :
    Repository × Except HighlightError Definition :=
  let (found?, repository) := (find? files name).run repository
  (repository,
    match found? with
    | some definition => .ok definition
    | none => .error (.definitionNotFound name))

/-- Reads the definition with a name again from its file, if it has one. When it has got another
name there, the old one is forgotten. -/
def reload (repository : Repository) (files : FileTree) (name : String) :
    Repository × Except HighlightError Definition :=
  match repository.definition files name with
  | (repository, .error error) => (repository, .error error)
  | (repository, .ok current) =>
      match current.file with
      | none => (repository, .ok current)
      | some path =>
          match repository.loadFile files path with
          | .error error => (repository, .error error)
          | .ok (loaded, reloaded) =>
              (if reloaded.name = name then loaded else loaded.forget name, .ok reloaded)

/-- Makes the mode of the definition with a name. No more definitions can be found than there are
known ones and files. -/
def compile (repository : Repository) (files : FileTree) (name : String) (maxDepth : Nat) :
    Repository × Except HighlightError Mode :=
  match repository.definition files name with
  | (repository, .error error) => (repository, .error error)
  | (repository, .ok main) =>
      let limit := repository.definitions.length + files.entries.length
      let (others, repository) :=
        (collectDefinitions (find? files) limit main).run repository
      (repository, Mode.ofDefinitions main others maxDepth)

end Repository

end SyntaxHighlight
