/-
A manager at work, with all instances of modes that there have ever been: those that it made, and
those that others made apart from it. Instances are told apart by their numbers, and the cache
holds no styles for a number that has not been given out.
-/

import SyntaxHighlight.Proofs.Manager.Styles

namespace SyntaxHighlight.Manager

/-! ### Operations -/

/-- A manager and the instances of modes so far. -/
structure World where
  manager : Manager
  instances : List SharedMode

inductive Operation where
  | modeForName (files : FileTree) (held : List Nat) (name : String)
  | modeForFile (files : FileTree) (held : List Nat) (path : String)
  /-- Somebody makes a mode apart from the manager. -/
  | makeMode (mode : Mode)
  /-- Somebody changes the definitions that the manager knows. -/
  | redefine (repository : Repository)
  | reload (files : FileTree) (name : String)
  | addSchema (schema : Schema)
  | setOverrides (mode : Mode) (schema : String) (attrs : List Attribute) (withDefaults : Bool)
  | overrides (mode : Mode) (schema : String)
  /-- Asks for the styles of the instance at a place among all of them. -/
  | styles (index : Nat) (schema : String)

namespace World

def receive (world : World) (result : Manager × SharedMode) : World where
  manager := result.1
  instances := result.2 :: world.instances

def receiveIfMade (world : World) : Manager × Except HighlightError SharedMode → World
  | (manager, .ok shared) => world.receive (manager, shared)
  | (manager, .error _) => { world with manager }

def makeMode (world : World) (mode : Mode) : World where
  manager := { world.manager with nextInstance := world.manager.nextInstance + 1 }
  instances := ⟨world.manager.nextInstance, mode⟩ :: world.instances

def perform (world : World) : Operation → World
  | .modeForName files held name => world.receive (world.manager.modeForName files held name)
  | .modeForFile files held path => world.receive (world.manager.modeForFile files held path)
  | .makeMode mode => world.makeMode mode
  | .redefine repository => { world with manager := { world.manager with repository } }
  | .reload files name => world.receiveIfMade (world.manager.reload files name)
  | .addSchema schema => { world with manager := world.manager.addSchema schema }
  | .setOverrides mode schema attrs withDefaults =>
      { world with manager := world.manager.setOverrides mode schema attrs withDefaults }
  | .overrides _ _ => world
  | .styles index schema =>
      match world.instances[index]? with
      | some shared => { world with manager := (world.manager.styles shared schema).1 }
      | none => world

def run (world : World) (operations : List Operation) : World := operations.foldl perform world

/-- A new manager, which knows the plain mode only. -/
def start (config : Config) (store : OverrideStore) (files : FileTree) (firstInstance : Nat) :
    World :=
  let manager := Manager.withStore config store files firstInstance
  ⟨manager, [manager.plainMode]⟩

end World

/-! ### What is handed out -/

/-- What a manager may hand out: the plain mode, an instance that it knows, or a new one, in which
case it may forget styles as well. -/
inductive Obtains (manager : Manager) : Manager × SharedMode → Prop
  | plain (repository : Repository) : Obtains manager ({ manager with repository }, manager.plainMode)
  | live (repository : Repository) (name : String) (shared : SharedMode)
      (known : manager.modes.get? name = some shared) :
      Obtains manager ({ manager with repository }, shared)
  | made (repository : Repository) (name : String) (mode : Mode) (isStale : StylesKey → Bool) :
      Obtains manager
        ((({ manager with repository } : Manager).share name mode).1.forget isStale,
          ⟨manager.nextInstance, mode⟩)

variable {manager : Manager}

theorem Obtains.of_repository {repository : Repository} {result : Manager × SharedMode}
    (obtained : Obtains { manager with repository } result) : manager.Obtains result := by
  cases obtained with
  | plain later => exact .plain later
  | live later name shared known => exact .live later name shared known
  | made later name mode isStale => exact .made later name mode isStale

theorem modeForName_obtains (manager : Manager) (files : FileTree) (held : List Nat)
    (name : String) : manager.Obtains (manager.modeForName files held name) := by
  unfold modeForName
  by_cases reserved : name = "" ∨ name = noHighlightingName
  · rw [if_pos reserved]
    exact .plain manager.repository
  · rw [if_neg reserved]
    cases live : manager.liveMode? held name with
    | some shared =>
        have known := (Option.filter_eq_some_iff.mp live).1
        exact .live manager.repository name shared known
    | none =>
        obtain ⟨repository, made⟩ :=
          manager.repository.compile files name manager.config.maxDepth
        cases made with
        | error error => exact .plain repository
        | ok mode =>
            -- Nothing is forgotten here, unlike when a definition is read again.
            have shared : manager.Obtains _ := .made repository name mode fun _ => false
            rw [forget_nothing] at shared
            exact shared

theorem modeForFile_obtains (manager : Manager) (files : FileTree) (held : List Nat)
    (path : String) : manager.Obtains (manager.modeForFile files held path) := by
  unfold modeForFile
  obtain ⟨found, repository⟩ := (Repository.findForFile? files path).run manager.repository
  cases found with
  | none => exact .plain repository
  | some definition =>
      exact (modeForName_obtains { manager with repository } files held definition.name).of_repository

/-- Reading a definition again gives a new instance, or it fails and changes nothing but the
definitions. -/
theorem reload_cases (manager : Manager) (files : FileTree) (name : String) :
    (∃ after shared, manager.reload files name = (after, .ok shared) ∧
        manager.Obtains (after, shared)) ∨
      ∃ repository error, manager.reload files name = ({ manager with repository }, .error error) := by
  unfold reload
  obtain ⟨repository, reloaded⟩ := manager.repository.reload files name
  cases reloaded with
  | error error => exact Or.inr ⟨repository, error, rfl⟩
  | ok definition =>
      dsimp only
      obtain ⟨later, made⟩ := repository.compile files name manager.config.maxDepth
      cases made with
      | error error => exact Or.inr ⟨later, error, rfl⟩
      | ok mode => exact Or.inl ⟨_, _, rfl, .made later name mode _⟩

/-! ### What an operation does -/

namespace World

/-- What an operation keeps in the cache although it changes what that depends on: styles in
unknown schemas when the schema that stands in for those is added, and styles of another mode or
schema whose overrides are in the group that is written. -/
def Spares (world : World) : Operation → SharedMode → String → Prop
  | .addSchema schema, _, name =>
      schema.name = world.manager.config.defaultSchema ∧ schema.name ≠ name ∧
        world.manager.schema? name = none
  | .setOverrides mode schema _ _, shared, name =>
      Override.group mode.name schema = Override.group shared.mode.name name ∧
        ¬(shared.mode.name = mode.name ∧ name = schema)
  | _, _, _ => False

/-- What an operation may do to a world. Only three kinds of operations touch schemas, overrides or
the entries of the cache that stay. -/
inductive Performs (world : World) : Operation → World → Prop
  | received {operation : Operation} (result : Manager × SharedMode)
      (obtained : world.manager.Obtains result)
      (spares : ∀ shared name, ¬world.Spares operation shared name) :
      Performs world operation (world.receive result)
  | made (mode : Mode) : Performs world (.makeMode mode) (world.makeMode mode)
  | redefined {operation : Operation} (repository : Repository)
      (spares : ∀ shared name, ¬world.Spares operation shared name) :
      Performs world operation { world with manager := { world.manager with repository } }
  | schemaAdded (schema : Schema) :
      Performs world (.addSchema schema)
        { world with manager := world.manager.addSchema schema }
  | overridden (mode : Mode) (schema : String) (attrs : List Attribute) (withDefaults : Bool) :
      Performs world (.setOverrides mode schema attrs withDefaults)
        { world with manager := world.manager.setOverrides mode schema attrs withDefaults }
  | asked (index : Nat) (schema : String) (shared : SharedMode)
      (member : shared ∈ world.instances) :
      Performs world (.styles index schema)
        { world with manager := (world.manager.styles shared schema).1 }

theorem performs (world : World) (operation : Operation) :
    world.Performs operation (world.perform operation) := by
  cases operation with
  | modeForName files held name =>
      exact .received _ (modeForName_obtains world.manager files held name) fun _ _ => id
  | modeForFile files held path =>
      exact .received _ (modeForFile_obtains world.manager files held path) fun _ _ => id
  | makeMode mode => exact .made mode
  | redefine repository => exact .redefined repository fun _ _ => id
  | reload files name =>
      rcases reload_cases world.manager files name with
        ⟨after, shared, made, obtained⟩ | ⟨repository, error, failed⟩
      · rw [perform, made]
        exact .received (after, shared) obtained fun _ _ => id
      · rw [perform, failed]
        exact .redefined repository fun _ _ => id
  | addSchema schema => exact .schemaAdded schema
  | setOverrides mode schema attrs withDefaults =>
      exact .overridden mode schema attrs withDefaults
  | overrides mode schema => exact .redefined world.manager.repository fun _ _ => id
  | styles index schema =>
      rw [perform]
      cases asked : world.instances[index]? with
      | none => exact .redefined world.manager.repository fun _ _ => id
      | some shared => exact .asked index schema shared (List.mem_of_getElem? asked)

/-! ### Numbers of instances -/

/-- All instances that a manager knows have been made, no two of them have one number, and no
number from the next one on is in use. -/
structure IsNumbered (world : World) : Prop where
  below : ∀ shared ∈ world.instances, shared.instanceNumber < world.manager.nextInstance
  unique : ∀ one ∈ world.instances, ∀ other ∈ world.instances,
    one.instanceNumber = other.instanceNumber → one = other
  plain : world.manager.plainMode ∈ world.instances
  known : ∀ name shared, world.manager.modes.get? name = some shared → shared ∈ world.instances
  cached : ∀ key styles, world.manager.cache.get? key = some styles →
    key.modeInstance < world.manager.nextInstance

variable {world : World}

theorem start_isNumbered (config : Config) (store : OverrideStore) (files : FileTree)
    (firstInstance : Nat) : (start config store files firstInstance).IsNumbered where
  below := by
    intro shared member
    cases List.mem_singleton.mp member
    exact Nat.lt_succ_self firstInstance
  unique := by
    intro one oneMember other otherMember _
    rw [List.mem_singleton.mp oneMember, List.mem_singleton.mp otherMember]
  plain := List.mem_singleton.mpr rfl
  known := by
    intro name shared found
    cases found
  cached := by
    intro key styles found
    cases found

theorem IsNumbered.again (numbered : world.IsNumbered) (repository : Repository)
    {shared : SharedMode} (member : shared ∈ world.instances) :
    (world.receive ({ world.manager with repository }, shared)).IsNumbered := by
  have subset : ∀ other ∈ shared :: world.instances, other ∈ world.instances := by
    intro other found
    rcases List.mem_cons.mp found with same | behind
    · rw [same]
      exact member
    · exact behind
  refine ⟨?_, ?_, ?_, ?_, numbered.cached⟩
  · intro other found
    exact numbered.below other (subset other found)
  · intro one oneFound other otherFound
    exact numbered.unique one (subset one oneFound) other (subset other otherFound)
  · exact List.mem_cons_of_mem shared numbered.plain
  · intro name other found
    exact List.mem_cons_of_mem shared (numbered.known name other found)

/-- A new instance takes the next number. -/
theorem IsNumbered.further (numbered : world.IsNumbered) {after : Manager} {mode : Mode}
    (next : after.nextInstance = world.manager.nextInstance + 1)
    (plain : after.plainMode = world.manager.plainMode)
    (known : ∀ name shared, after.modes.get? name = some shared →
      shared = ⟨world.manager.nextInstance, mode⟩ ∨
        world.manager.modes.get? name = some shared)
    (cached : ∀ key styles, after.cache.get? key = some styles →
      world.manager.cache.get? key = some styles) :
    (World.mk after (⟨world.manager.nextInstance, mode⟩ :: world.instances)).IsNumbered := by
  refine ⟨?_, ?_, ?_, ?_, ?_⟩
  · intro shared found
    change shared.instanceNumber < after.nextInstance
    rw [next]
    rcases List.mem_cons.mp found with rfl | behind
    · exact Nat.lt_succ_self _
    · exact Nat.lt_succ_of_lt (numbered.below shared behind)
  · intro one oneFound other otherFound same
    rcases List.mem_cons.mp oneFound with rfl | oneBehind
    · rcases List.mem_cons.mp otherFound with rfl | otherBehind
      · rfl
      · exact absurd (numbered.below other otherBehind) (Nat.not_lt_of_le (Nat.le_of_eq same))
    · rcases List.mem_cons.mp otherFound with rfl | otherBehind
      · exact absurd (numbered.below one oneBehind) (Nat.not_lt_of_le (Nat.le_of_eq same.symm))
      · exact numbered.unique one oneBehind other otherBehind same
  · change after.plainMode ∈ _
    rw [plain]
    exact List.mem_cons_of_mem _ numbered.plain
  · intro name shared found
    rcases known name shared found with rfl | before
    · exact List.mem_cons_self
    · exact List.mem_cons_of_mem _ (numbered.known name shared before)
  · intro key styles found
    change key.modeInstance < after.nextInstance
    rw [next]
    exact Nat.lt_succ_of_lt (numbered.cached key styles (cached key styles found))

theorem receive_isNumbered (numbered : world.IsNumbered) {result : Manager × SharedMode}
    (obtained : world.manager.Obtains result) : (world.receive result).IsNumbered := by
  cases obtained with
  | plain repository => exact numbered.again repository numbered.plain
  | live repository name shared known =>
      exact numbered.again repository (numbered.known name shared known)
  | made repository name mode isStale =>
      apply numbered.further
      · rfl
      · rfl
      · intro other shared found
        have set := Dictionary.get?_set world.manager.modes name other
          (⟨world.manager.nextInstance, mode⟩ : SharedMode)
        by_cases same : name = other
        · rw [if_pos same] at set
          exact Or.inl (Option.some.inj (found.symm.trans set))
        · rw [if_neg same] at set
          exact Or.inr (set.symm.trans found)
      · intro key styles found
        rw [get?_forget] at found
        cases stale : isStale key with
        | true =>
            rw [stale] at found
            cases found
        | false =>
            rw [stale] at found
            exact found

theorem styles_isNumbered (numbered : world.IsNumbered) {shared : SharedMode}
    (member : shared ∈ world.instances) (schema : String) :
    ({ world with manager := (world.manager.styles shared schema).1 } : World).IsNumbered := by
  obtain ⟨below, unique, plain, known, cached⟩ := numbered
  cases kept : world.manager.cache.get? (shared.stylesKey schema) with
  | some styles =>
      rw [styles_of_cached kept]
      exact ⟨below, unique, plain, known, cached⟩
  | none =>
      rw [styles_of_missing kept]
      refine ⟨?_, unique, plain, known, ?_⟩
      · intro other found
        exact Nat.lt_succ_of_lt (below other found)
      · intro key styles found
        dsimp only at found ⊢
        rw [Dictionary.get?_set] at found
        split at found
        · rename_i same
          rw [← same]
          exact Nat.lt_succ_of_lt (below shared member)
        · exact Nat.lt_succ_of_lt (cached key styles found)

theorem IsNumbered.forget (numbered : world.IsNumbered) {after : Manager}
    (next : after.nextInstance = world.manager.nextInstance)
    (plain : after.plainMode = world.manager.plainMode)
    (modes : after.modes = world.manager.modes) {isStale : StylesKey → Prop}
    [DecidablePred isStale]
    (cached : ∀ key, after.cache.get? key =
      if isStale key then none else world.manager.cache.get? key) :
    ({ world with manager := after } : World).IsNumbered := by
  refine ⟨?_, numbered.unique, ?_, ?_, ?_⟩
  · change ∀ shared ∈ world.instances, shared.instanceNumber < after.nextInstance
    rw [next]
    exact numbered.below
  · change after.plainMode ∈ world.instances
    rw [plain]
    exact numbered.plain
  · change ∀ name shared, after.modes.get? name = some shared → shared ∈ world.instances
    rw [modes]
    exact numbered.known
  · intro key styles found
    change key.modeInstance < after.nextInstance
    rw [next]
    have kept := cached key
    split at kept
    · cases kept.symm.trans found
    · exact numbered.cached key styles (kept.symm.trans found)

theorem Performs.isNumbered {operation : Operation} {after : World}
    (performed : world.Performs operation after) (numbered : world.IsNumbered) :
    after.IsNumbered := by
  cases performed with
  | received result obtained => exact receive_isNumbered numbered obtained
  | made mode =>
      exact numbered.further rfl rfl (fun _ _ found => Or.inr found) (fun _ _ found => found)
  | redefined repository =>
      obtain ⟨below, unique, plain, known, cached⟩ := numbered
      exact ⟨below, unique, plain, known, cached⟩
  | schemaAdded schema =>
      exact numbered.forget rfl rfl rfl (get?_addSchema world.manager schema)
  | overridden mode schema attrs withDefaults =>
      exact numbered.forget rfl rfl rfl
        (get?_setOverrides world.manager mode schema attrs withDefaults)
  | asked index schema shared member => exact styles_isNumbered numbered member schema

theorem perform_isNumbered (numbered : world.IsNumbered) (operation : Operation) :
    (world.perform operation).IsNumbered :=
  (performs world operation).isNumbered numbered

theorem run_isNumbered (numbered : world.IsNumbered) (operations : List Operation) :
    (world.run operations).IsNumbered := by
  induction operations generalizing world with
  | nil => exact numbered
  | cons operation rest ih => exact ih (perform_isNumbered numbered operation)

end World

end SyntaxHighlight.Manager
