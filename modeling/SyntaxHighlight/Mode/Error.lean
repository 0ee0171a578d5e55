/-
The errors that loading definitions and making modes can end in.
-/

import SyntaxHighlight.Pattern.Basic
import SyntaxHighlight.Yaml.Decode

namespace SyntaxHighlight

/-- The ways in which a file can fail to be read or written. -/
inductive FileError where
  | notFound
  | isDirectory
  | notDirectory
  | alreadyExists
  | notText
deriving DecidableEq, Repr

def FileError.message : FileError → String
  | notFound => "No such file or directory (os error 2)"
  | isDirectory => "Is a directory (os error 21)"
  | notDirectory => "Not a directory (os error 20)"
  | alreadyExists => "File exists (os error 17)"
  | notText => "stream did not contain valid UTF-8"

/-- What a YAML text is missing, as far as it is said. -/
def Yaml.ReadError.message : Yaml.ReadError → String
  | malformed _ => "malformed text"
  | unfit failure => failure.message

/-- What makes a definition useless although it could be read. -/
inductive DefinitionFault where
  | emptyName
  | noContexts
deriving DecidableEq, Repr

def DefinitionFault.message : DefinitionFault → String
  | emptyName => "name is empty"
  | noContexts => "definition has no contexts"

/-- The ways in which a store of overrides can fail. -/
inductive StoreError where
  | file (error : FileError)
  | unreadable (error : Yaml.ReadError)
deriving DecidableEq, Repr

def StoreError.message : StoreError → String
  | file error => "I/O error: " ++ error.message
  | unreadable error => "YAML error: " ++ error.message

inductive HighlightError where
  | unreadable (error : Yaml.ReadError)
  | file (error : FileError)
  | definitionNotFound (name : String)
  | definitionInvalid (name : String) (fault : DefinitionFault)
  | regexInvalid (pattern : String) (error : Pattern.ReadError)
  | unknownKeywordList (name : String)
  /-- A context includes its own rules. -/
  | includeCycle (context definition : String)
  | store (error : StoreError)
deriving DecidableEq, Repr

def HighlightError.message : HighlightError → String
  | unreadable error => "YAML parse error: " ++ error.message
  | file error => "I/O error: " ++ error.message
  | definitionNotFound name => s!"syntax definition not found: {name}"
  | definitionInvalid name fault => s!"invalid syntax definition '{name}': {fault.message}"
  | regexInvalid pattern error =>
      s!"regex compile error for pattern '{pattern}': Oniguruma error: {error.message}"
  | unknownKeywordList name => s!"unknown keyword list '{name}'"
  | includeCycle context definition =>
      s!"include_rules cycle detected involving '{context}##{definition}'"
  | store error => "override store error: " ++ error.message

end SyntaxHighlight
