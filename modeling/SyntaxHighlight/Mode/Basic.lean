/-
Highlighting modes: everything that documents in one language share, made from the definition of
the language and from all others to which that one refers.
-/

import SyntaxHighlight.Mode.Context
import SyntaxHighlight.Mode.Diagnostic
import SyntaxHighlight.Mode.Traits
import SyntaxHighlight.Style.Format

namespace SyntaxHighlight

/-- The depth of the stack of contexts where nothing else is said. -/
def defaultMaxDepth : Nat := 64

/-- The name of the mode without highlighting. -/
def noHighlightingName : String := "None"

structure ModeInfo where
  name : String
  translatedName : Option String := none
  menuSection : String := ""
  translatedMenuSection : Option String := none
  hidden : Bool := false
  version : Nat := 1
  style : Option String := none
  author : Option String := none
  license : Option String := none
  extensions : List String := []
  file : Option String := none
  indentationSensitive : Bool := false
deriving DecidableEq, Repr

def ModeInfo.ofDefinition (definition : Definition) : ModeInfo where
  name := definition.name
  translatedName := definition.translatedName
  menuSection := definition.menuSection
  translatedMenuSection := definition.translatedMenuSection
  hidden := definition.hidden
  version := definition.version
  style := definition.style
  author := definition.author
  license := definition.license
  extensions := definition.extensions
  file := definition.file
  indentationSensitive := definition.indentationSensitive

/-- The context that stands in for all that do not exist. -/
def Context.fallback (definition : String) (delimiters : List Char) (caseSensitive : Bool) :
    Context where
  id := 0
  name := "Normal Text"
  definition
  format := 0
  delimiters
  caseSensitive

structure Mode where
  info : ModeInfo
  /-- Whether this is the mode that leaves all text alone. -/
  isPlain : Bool := false
  /-- Context zero. -/
  fallback : Context
  /-- The contexts of all definitions, numbered from one on. -/
  declared : List Context := []
  registry : FormatRegistry
  /-- The traits of definitions; of several with one name the first count. -/
  traits : Dictionary String Traits
  /-- The names of the other definitions. -/
  embedded : List String := []
  diagnostics : List Diagnostic := []
  /-- The context before the first line. -/
  initial : Nat
  maxDepth : Nat := defaultMaxDepth
  /-- What decides where the patterns of rules match. -/
  engine : Pattern.Engine := .backtracking
deriving Repr

namespace Mode

/-- The mode without highlighting: one context and one format. -/
def plain : Mode where
  info := { name := noHighlightingName }
  isPlain := true
  fallback := .fallback noHighlightingName standardDelimiters true
  registry := .ofFormats [.normalText noHighlightingName]
  traits := [(defaultTraitsName, {})]
  initial := 0

def name (mode : Mode) : String := mode.info.name

def contexts (mode : Mode) : List Context := mode.fallback :: mode.declared

def context? (mode : Mode) (id : Nat) : Option Context := mode.contexts[id]?

/-- The context with a number, or the one that stands in for it. -/
def context (mode : Mode) (id : Nat) : Context := (mode.context? id).getD mode.fallback

end Mode

end SyntaxHighlight
