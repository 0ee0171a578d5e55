/-
The overrides of the attributes of a mode in a schema, as a store keeps them.
-/

import SyntaxHighlight.Mode.Basic
import SyntaxHighlight.Override.Fields
import SyntaxHighlight.Override.Store

namespace SyntaxHighlight

namespace Override

/-- The group of the overrides of a mode in a schema. -/
def group (mode schema : String) : String := s!"Highlighting {mode} - Schema {schema}"

/-- The key of a format: its name, behind that of its definition if that is another one. -/
def key (mode : String) (format : Format) : String :=
  if format.definition = mode then format.name else format.definition ++ ":" ++ format.name

/-- The attribute of a format with its stored override, and what is wrong with that. -/
def loadFormat (mode : Mode) (schema : String) (store : Store) (format : Format) :
    Attribute × List Diagnostic :=
  let key := key mode.name format
  match store.read? (group mode.name schema) key with
  | none | some [] => (format.toAttribute, [])
  | some fields =>
      (apply format.toAttribute fields,
        if fields.length < fieldCount then [.malformedOverride key fields.length] else [])

/-- The attributes of all formats of a mode with their stored overrides. -/
def load (mode : Mode) (schema : String) (store : Store) : List Attribute × List Diagnostic :=
  let loaded := mode.registry.formats.map (loadFormat mode schema store)
  (loaded.map Prod.fst, loaded.flatMap Prod.snd)

/-- What is stored of attributes as the overrides of the formats of a mode, in their order. -/
def entries (mode : Mode) (schema : Schema) (attrs : List Attribute) (withDefaults : Bool) :
    List (String × List String) :=
  (mode.registry.formats.zip attrs).map fun (format, attr) =>
    (key mode.name format, encode attr schema withDefaults)

/-- Stores attributes as the overrides of the formats of a mode. -/
def save (mode : Mode) (schema : Schema) (store : Store) (attrs : List Attribute)
    (withDefaults : Bool) : Store :=
  store.writeAll (group mode.name schema.name) (entries mode schema attrs withDefaults)

end Override

end SyntaxHighlight
