/-
Stores of overrides that are kept in memory only or backed by a file. What is written to a store
reaches its file when the store is flushed.
-/

import SyntaxHighlight.File.Tree
import SyntaxHighlight.Override.Store

namespace SyntaxHighlight

/-- A store that is backed by a file. -/
structure FileStore where
  path : String
  data : Store
  /-- Whether something was written since the store was last flushed. -/
  isDirty : Bool := false
deriving DecidableEq, Repr

namespace FileStore

/-- Opens a store. A missing file is an empty store. -/
def «open» (files : FileTree) (path : String) : Except StoreError FileStore :=
  match files.read path with
  | .error .notFound => .ok { path, data := {} }
  | .error error => .error (.file error)
  | .ok text =>
      match Store.parse text with
      | .ok data => .ok { path, data }
      | .error error => .error (.unreadable error)

def read? (store : FileStore) (group key : String) : Option (List String) :=
  store.data.read? group key

def write (store : FileStore) (group key : String) (fields : List String) : FileStore :=
  { store with data := store.data.write group key fields, isDirty := true }

/-- Writes the file if there is something to write. -/
def flush (store : FileStore) (files : FileTree) : Except StoreError (FileStore × FileTree) :=
  if !store.isDirty then .ok (store, files)
  else
    match files.writeBelow store.path (some store.data.render) with
    | .ok files => .ok ({ store with isDirty := false }, files)
    | .error error => .error (.file error)

end FileStore

/-- A store, with or without a file. -/
inductive OverrideStore where
  | memory (data : Store)
  | file (store : FileStore)
deriving DecidableEq, Repr

namespace OverrideStore

def data : OverrideStore → Store
  | memory data => data
  | file store => store.data

def write (store : OverrideStore) (group key : String) (fields : List String) : OverrideStore :=
  match store with
  | memory data => memory (data.write group key fields)
  | file store => file (store.write group key fields)

/-- Writes entries of a group, one after the other. -/
def writeAll (store : OverrideStore) (group : String) (entries : List (String × List String)) :
    OverrideStore :=
  entries.foldl (fun store (key, fields) => store.write group key fields) store

def flush (store : OverrideStore) (files : FileTree) :
    Except StoreError (OverrideStore × FileTree) :=
  match store with
  | memory data => .ok (memory data, files)
  | file store => (store.flush files).map fun (store, files) => (file store, files)

end OverrideStore

end SyntaxHighlight
