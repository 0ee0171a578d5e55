/-
The manager of highlighting modes. It makes a mode for its first user, hands the same one to all
others, and knows it only as long as somebody holds it. It also keeps the color schemas, the
overrides of their styles, and the styles that were resolved last.

Who holds which modes is not the manager's business: its operations are told the numbers of the
instances that are held when they are called.
-/

import SyntaxHighlight.Manager.Config
import SyntaxHighlight.Manager.Repository
import SyntaxHighlight.Override.FileStore
import SyntaxHighlight.Override.Persistence

namespace SyntaxHighlight

/-- A mode that several users may hold. Modes that were made separately differ in their
numbers. -/
structure SharedMode where
  instanceNumber : Nat
  mode : Mode
deriving Repr

/-- A list of styles that several users may hold. -/
structure SharedStyles where
  instanceNumber : Nat
  styles : List ResolvedStyle
deriving DecidableEq, Repr

/-- What the styles in the cache were resolved for. -/
structure StylesKey where
  modeName : String
  modeInstance : Nat
  schemaName : String
deriving DecidableEq, Repr

structure Manager where
  config : Config
  repository : Repository
  /-- The instance of every mode that was made last. -/
  modes : Dictionary String SharedMode := []
  /-- The mode for everything that has none of its own. -/
  plainMode : SharedMode
  schemas : Dictionary String Schema
  store : OverrideStore
  cache : Dictionary StylesKey SharedStyles := []
  /-- A number above those of all instances. -/
  nextInstance : Nat

namespace Manager

/-! ### The life of a manager -/

def builtInSchemas : Dictionary String Schema :=
  [Schema.normal, Schema.dark].map fun schema => (schema.name, schema)

private def repositoryOf (config : Config) (files : FileTree) : Repository :=
  let repository := config.searchPaths.foldl Repository.addSearchPath {}
  if config.searchPaths.isEmpty then repository else (repository.scan files).1

/-- A manager that keeps overrides in a given store and numbers instances from some number on. -/
def withStore (config : Config) (store : OverrideStore) (files : FileTree) (firstInstance : Nat) :
    Manager where
  config
  repository := repositoryOf config files
  plainMode := { instanceNumber := firstInstance, mode := .plain }
  schemas := builtInSchemas
  store
  nextInstance := firstInstance + 1

/-- A manager that keeps overrides where its settings say. -/
def start (config : Config) (files : FileTree) (firstInstance : Nat) :
    Except HighlightError Manager :=
  match config.storePath with
  | none => .ok (withStore config (.memory {}) files firstInstance)
  | some path =>
      match FileStore.open files path with
      | .ok store => .ok (withStore config (.file store) files firstInstance)
      | .error error => .error (.store error)

/-- Writes the overrides that are not yet in their file. -/
def flush (manager : Manager) (files : FileTree) : Except StoreError (Manager × FileTree) :=
  (manager.store.flush files).map fun (store, files) => ({ manager with store }, files)

/-! ### Modes -/

/-- The instance under a name, if somebody holds it. -/
def liveMode? (manager : Manager) (held : List Nat) (name : String) : Option SharedMode :=
  (manager.modes.get? name).filter fun shared => held.contains shared.instanceNumber

/-- Hands out a new instance under a name. -/
def share (manager : Manager) (name : String) (mode : Mode) : Manager × SharedMode :=
  let shared := { instanceNumber := manager.nextInstance, mode }
  ({ manager with
      modes := manager.modes.set name shared
      nextInstance := manager.nextInstance + 1 },
    shared)

/-- The mode with a name. It is made if nobody holds it; where that fails, the plain mode takes
its place. -/
def modeForName (manager : Manager) (files : FileTree) (held : List Nat) (name : String) :
    Manager × SharedMode :=
  if name = "" ∨ name = noHighlightingName then (manager, manager.plainMode)
  else
    match manager.liveMode? held name with
    | some shared => (manager, shared)
    | none =>
        let (repository, made) :=
          manager.repository.compile files name manager.config.maxDepth
        let manager := { manager with repository }
        match made with
        | .ok mode => manager.share name mode
        | .error _ => (manager, manager.plainMode)

/-- The mode whose definition claims the name of a file. -/
def modeForFile (manager : Manager) (files : FileTree) (held : List Nat) (path : String) :
    Manager × SharedMode :=
  let (found?, repository) := (Repository.findForFile? files path).run manager.repository
  let manager := { manager with repository }
  match found? with
  | some definition => manager.modeForName files held definition.name
  | none => (manager, manager.plainMode)

/-- Takes what was resolved for stale keys out of the cache. -/
def forget (manager : Manager) (isStale : StylesKey → Bool) : Manager :=
  { manager with cache := manager.cache.filter fun (key, _) => !isStale key }

/-- Reads the definition of a mode again and makes the mode anew. Whoever holds an older instance
keeps that one. -/
def reload (manager : Manager) (files : FileTree) (name : String) :
    Manager × Except HighlightError SharedMode :=
  let (repository, reloaded) := manager.repository.reload files name
  let manager := { manager with repository }
  match reloaded with
  | .error error => (manager, .error error)
  | .ok _ =>
      let (repository, made) := repository.compile files name manager.config.maxDepth
      let manager := { manager with repository }
      match made with
      | .error error => (manager, .error error)
      | .ok mode =>
          let (manager, shared) := manager.share name mode
          (manager.forget fun key => key.modeName = name, .ok shared)

/-- The number of modes that somebody holds; the others are forgotten. -/
def liveModes (manager : Manager) (held : List Nat) : Manager × Nat :=
  let live := manager.modes.filter fun (_, shared) => held.contains shared.instanceNumber
  ({ manager with modes := live }, live.length)

/-! ### Schemas -/

/-- Takes a schema in under its name, in place of another one of that name. -/
def addSchema (manager : Manager) (schema : Schema) : Manager :=
  let manager := manager.forget fun key => key.schemaName = schema.name
  { manager with schemas := manager.schemas.set schema.name schema }

def schema? (manager : Manager) (name : String) : Option Schema := manager.schemas.get? name

def schemaNames (manager : Manager) : List String :=
  manager.schemas.keys.mergeSort fun one other => one ≤ other

/-- The schema with a name, or the one that stands in for unknown schemas. -/
def schemaOrDefault (manager : Manager) (name : String) : Schema :=
  ((manager.schema? name).or (manager.schema? manager.config.defaultSchema)).getD .normal

/-! ### Styles and overrides -/

/-- The attributes of a mode in a schema with their overrides, and what is wrong with those. -/
def overrides (manager : Manager) (mode : Mode) (schema : String) :
    List Attribute × List Diagnostic :=
  Override.load mode schema manager.store.data

/-- The styles of all formats of a mode in a schema. -/
def resolveStyles (manager : Manager) (mode : Mode) (schema : String) : List ResolvedStyle :=
  (manager.overrides mode schema).1.map (manager.schemaOrDefault schema).resolve

/-- The styles of all formats of a mode in a schema, resolved once as long as nothing changes
them. -/
def styles (manager : Manager) (shared : SharedMode) (schema : String) : Manager × SharedStyles :=
  let key : StylesKey :=
    { modeName := shared.mode.name, modeInstance := shared.instanceNumber, schemaName := schema }
  match manager.cache.get? key with
  | some styles => (manager, styles)
  | none =>
      let styles :=
        { instanceNumber := manager.nextInstance
          styles := manager.resolveStyles shared.mode schema }
      ({ manager with
          cache := manager.cache.set key styles
          nextInstance := manager.nextInstance + 1 },
        styles)

/-- Stores attributes as the overrides of a mode in a schema. -/
def setOverrides (manager : Manager) (mode : Mode) (schema : String) (attrs : List Attribute)
    (withDefaults : Bool) : Manager :=
  let resolved := manager.schemaOrDefault schema
  let store :=
    manager.store.writeAll (Override.group mode.name schema)
      (Override.entries mode resolved attrs withDefaults)
  let manager := { manager with store }
  manager.forget fun key => key.modeName = mode.name && key.schemaName = schema

end Manager

end SyntaxHighlight
