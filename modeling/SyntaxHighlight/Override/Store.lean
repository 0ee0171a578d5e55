/-
Stores of lists of texts by group and key, in memory and on file. Groups and keys are kept in the
order of their characters.
-/

import SyntaxHighlight.Mode.Error
import SyntaxHighlight.Text.Dictionary
import SyntaxHighlight.Yaml.Block

namespace SyntaxHighlight

open SyntaxHighlight.Yaml

/-- Lists of texts by key, and these by group. -/
structure Store where
  groups : Dictionary String (Dictionary String (List String)) := []
deriving DecidableEq, Repr

namespace Store

def read? (store : Store) (group key : String) : Option (List String) :=
  (store.groups.get? group).bind fun entries => entries.get? key

def write (store : Store) (group key : String) (fields : List String) : Store :=
  let entries : Dictionary String (List String) := (store.groups.get? group).getD []
  ⟨store.groups.set group (entries.set key fields)⟩

/-- Writes entries of a group, one after the other. -/
def writeAll (store : Store) (group : String) (entries : List (String × List String)) : Store :=
  entries.foldl (fun store (key, fields) => store.write group key fields) store

private def byKey {α : Type} (entries : List (String × α)) : List (String × α) :=
  entries.mergeSort fun one other => one.1 ≤ other.1

/-- The groups and their entries in order. -/
def toList (store : Store) : List (String × List (String × List String)) :=
  byKey (store.groups.map fun (group, entries) => (group, byKey entries))

def groupNames (store : Store) : List String := store.toList.map Prod.fst

/-- The text of a store as it is written to a file. -/
def render (store : Store) : String := writeDocument store.toList

private def ofEntries {α β : Type} (convert : α → β) (entries : List (String × α)) :
    Dictionary String β :=
  entries.foldl (fun dictionary (key, value) => dictionary.set key (convert value)) []

/-- Reads a store from the text of a file; of repeated keys the last one counts. -/
def parse (text : String) : Except ReadError Store :=
  if (Text.trim text.toList).isEmpty then .ok {}
  else
    (decodeDocument (decodeMap (decodeMap (decodeList decodeText))) text).map fun groups =>
      ⟨ofEntries (ofEntries id) groups⟩

end Store

end SyntaxHighlight
