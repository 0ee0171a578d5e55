/-
The formats of a highlighting mode. A registry numbers formats in the order in which they are
registered; of several formats with one id only the first is kept.
-/

import SyntaxHighlight.Grammar.Definition
import SyntaxHighlight.Style.Schema
import SyntaxHighlight.Text.Dictionary

namespace SyntaxHighlight

structure Format where
  id : String
  name : String
  /-- The name of the definition that declares the format. -/
  definition : String
  styleClass : StyleClass
  style : TextStyle := {}
  skipsSpellChecking : Bool := false
deriving DecidableEq, Repr

namespace Format

/-- The id of a format that declares none. -/
def defaultId (definition name : String) : String := definition ++ ":" ++ name

def normalText (definition : String) : Format where
  id := defaultId definition "Normal Text"
  name := "Normal Text"
  definition
  styleClass := .normal

def ofDeclaration (definition : String) (declaration : FormatDeclaration) : Format where
  id := declaration.id.getD (defaultId definition declaration.name)
  name := declaration.name
  definition
  styleClass := declaration.styleClass
  style := declaration.style
  skipsSpellChecking := !declaration.spellcheck

def toAttribute (format : Format) : Attribute where
  name := format.name
  styleClass := format.styleClass
  style := format.style
  skipsSpellChecking := format.skipsSpellChecking

end Format

structure FormatRegistry where
  formats : List Format := []
  /-- The indices of formats by their ids. -/
  indices : Dictionary String Nat := []
deriving DecidableEq, Repr

namespace FormatRegistry

def size (registry : FormatRegistry) : Nat := registry.formats.length

def isEmpty (registry : FormatRegistry) : Bool := registry.formats.isEmpty

def format? (registry : FormatRegistry) (index : Nat) : Option Format := registry.formats[index]?

def indexOf? (registry : FormatRegistry) (id : String) : Option Nat :=
  registry.indices.get? id

/-- The index of the first format with a name that a definition declares. -/
def indexOfName? (registry : FormatRegistry) (definition name : String) : Option Nat :=
  registry.formats.findIdx? fun format => format.definition == definition && format.name == name

/-- Adds a format unless its id is taken. The number is that of the format with this id. -/
def register (registry : FormatRegistry) (format : Format) : FormatRegistry × Nat :=
  match registry.indexOf? format.id with
  | some index => (registry, index)
  | none =>
      ({ formats := registry.formats ++ [format]
         indices := registry.indices.set format.id registry.size },
        registry.size)

/-- The registry of formats that are registered one after another. -/
def ofFormats (formats : List Format) : FormatRegistry :=
  formats.foldl (fun registry format => (registry.register format).1) {}

def resolve? (registry : FormatRegistry) (schema : Schema) (index : Nat) : Option ResolvedStyle :=
  (registry.format? index).map fun format => schema.resolve format.toAttribute

end FormatRegistry

end SyntaxHighlight
