/-
When the styles that a manager keeps are those that it would resolve now. What depends on a schema
or on overrides leaves the cache when these change, with two exceptions: styles in unknown schemas
stay when the schema that stands in for those is replaced, and so do styles whose overrides share
a group with those that are written under other names.
-/

import SyntaxHighlight.Proofs.Manager.Instances
import SyntaxHighlight.Proofs.Override.Group

namespace SyntaxHighlight.Manager.World

/-- Whoever asks for the styles of an instance in a schema gets what resolving them now gives. -/
def IsFresh (world : World) : Prop :=
  ∀ shared ∈ world.instances, ∀ schema,
    (world.manager.styles shared schema).2.styles =
      world.manager.resolveStyles shared.mode schema

/-- An operation that changes styles and leaves them in the cache as they were. -/
def Overlooks (before : World) (operation : Operation) (after : World) : Prop :=
  ∃ shared ∈ before.instances, ∃ name, before.Spares operation shared name ∧
    (before.manager.cache.get? (shared.stylesKey name)).isSome = true ∧
    after.manager.resolveStyles shared.mode name ≠ before.manager.resolveStyles shared.mode name

variable {world after : World} {operation : Operation}

theorem isFresh_iff :
    world.IsFresh ↔ ∀ shared ∈ world.instances, ∀ schema found,
      world.manager.cache.get? (shared.stylesKey schema) = some found →
        found.styles = world.manager.resolveStyles shared.mode schema := by
  constructor
  · intro fresh shared member schema found kept
    have asked := fresh shared member schema
    rw [styles_of_cached kept] at asked
    exact asked
  · intro right shared member schema
    cases kept : world.manager.cache.get? (shared.stylesKey schema) with
    | some found =>
        rw [styles_of_cached kept]
        exact right shared member schema found kept
    | none => rw [styles_of_missing kept]

theorem start_isFresh (config : Config) (store : OverrideStore) (files : FileTree)
    (firstInstance : Nat) : (start config store files firstInstance).IsFresh := by
  rw [isFresh_iff]
  intro shared member schema found kept
  cases kept

/-! ### One step -/

/-- New instances have no styles in the cache, and entries that leave it do no harm. -/
theorem IsFresh.further (fresh : world.IsFresh) (numbered : world.IsNumbered)
    (styles : after.manager.resolveStyles = world.manager.resolveStyles)
    (cached : ∀ key found, after.manager.cache.get? key = some found →
      world.manager.cache.get? key = some found)
    (instances : ∀ shared ∈ after.instances,
      shared ∈ world.instances ∨ shared.instanceNumber = world.manager.nextInstance) :
    after.IsFresh := by
  rw [isFresh_iff] at fresh ⊢
  intro shared member schema found kept
  have before := cached (shared.stylesKey schema) found kept
  rcases instances shared member with present | new
  · rw [styles]
    exact fresh shared present schema found before
  · have below := numbered.cached (shared.stylesKey schema) found before
    exact absurd new (Nat.ne_of_lt below)

theorem IsFresh.receive (fresh : world.IsFresh) (numbered : world.IsNumbered)
    {result : Manager × SharedMode} (obtained : world.manager.Obtains result) :
    (world.receive result).IsFresh := by
  cases obtained with
  | plain repository =>
      apply fresh.further numbered
      · exact resolveStyles_congr rfl rfl rfl
      · exact fun _ _ kept => kept
      · intro shared member
        rcases List.mem_cons.mp member with rfl | behind
        · exact Or.inl numbered.plain
        · exact Or.inl behind
  | live repository name known present =>
      apply fresh.further numbered
      · exact resolveStyles_congr rfl rfl rfl
      · exact fun _ _ kept => kept
      · intro shared member
        rcases List.mem_cons.mp member with rfl | behind
        · exact Or.inl (numbered.known name shared present)
        · exact Or.inl behind
  | made repository name mode isStale =>
      apply fresh.further numbered
      · exact resolveStyles_congr rfl rfl rfl
      · intro key found kept
        have forgotten := get?_forget
          ({ world.manager with repository } : Manager) isStale key
        cases stale : isStale key with
        | true =>
            rw [stale] at forgotten
            cases forgotten.symm.trans kept
        | false =>
            rw [stale] at forgotten
            exact forgotten.symm.trans kept
      · intro shared member
        rcases List.mem_cons.mp member with rfl | behind
        · exact Or.inr rfl
        · exact Or.inl behind

theorem IsFresh.styles (fresh : world.IsFresh) (numbered : world.IsNumbered) {shared : SharedMode}
    (member : shared ∈ world.instances) (schema : String) :
    ({ world with manager := (world.manager.styles shared schema).1 } : World).IsFresh := by
  cases kept : world.manager.cache.get? (shared.stylesKey schema) with
  | some found =>
      rw [styles_of_cached kept]
      exact fresh
  | none =>
      rw [styles_of_missing kept]
      rw [isFresh_iff] at fresh ⊢
      intro other otherMember name found entry
      change found.styles = world.manager.resolveStyles other.mode name
      dsimp only at entry
      rw [Dictionary.get?_set] at entry
      split at entry
      · rename_i same
        cases entry
        have numbers := congrArg StylesKey.modeInstance same
        have names := congrArg StylesKey.schemaName same
        dsimp only [SharedMode.stylesKey] at numbers names
        -- Whoever reads the new entry has the same number, and so is the same instance.
        rw [numbered.unique shared member other otherMember numbers, names]
      · exact fresh other otherMember name found entry

/-- An operation that takes stale entries out of the cache keeps it fresh exactly if it spares no
other entry that it changes. -/
theorem IsFresh.iff_of_forget (fresh : world.IsFresh) {manager : Manager}
    {isStale : StylesKey → Prop} [DecidablePred isStale]
    (cached : ∀ key, manager.cache.get? key =
      if isStale key then none else world.manager.cache.get? key)
    (apart : ∀ shared name, world.Spares operation shared name →
      ¬isStale (shared.stylesKey name))
    (settled : ∀ shared : SharedMode, ∀ name, ¬isStale (shared.stylesKey name) →
      ¬world.Spares operation shared name →
      manager.resolveStyles shared.mode name = world.manager.resolveStyles shared.mode name) :
    ({ world with manager } : World).IsFresh ↔
      ¬world.Overlooks operation { world with manager } := by
  rw [isFresh_iff] at fresh ⊢
  constructor
  · rintro right ⟨shared, member, name, spared, some, changed⟩
    obtain ⟨found, kept⟩ := Option.isSome_iff_exists.mp some
    have entry : manager.cache.get? (shared.stylesKey name) = .some found := by
      rw [cached, if_neg (apart shared name spared), kept]
    have old := fresh shared member name found kept
    have new := right shared member name found entry
    exact changed (new.symm.trans old)
  · intro nothing shared member name found entry
    have forgotten := cached (shared.stylesKey name)
    split at forgotten
    · cases forgotten.symm.trans entry
    · rename_i lasting
      -- The entry was there before, so it can only be wrong if the step changes its styles.
      have kept := forgotten.symm.trans entry
      have same : manager.resolveStyles shared.mode name =
          world.manager.resolveStyles shared.mode name := by
        by_cases spared : world.Spares operation shared name
        · by_cases equal : manager.resolveStyles shared.mode name =
              world.manager.resolveStyles shared.mode name
          · exact equal
          · have some := Option.isSome_iff_exists.mpr ⟨found, kept⟩
            exact absurd ⟨shared, member, name, spared, some, equal⟩ nothing
        · exact settled shared name lasting spared
      exact (fresh shared member name found kept).trans same.symm

theorem Performs.isFresh_iff (performed : world.Performs operation after)
    (numbered : world.IsNumbered) (fresh : world.IsFresh) :
    after.IsFresh ↔ ¬world.Overlooks operation after := by
  -- Steps that spare nothing overlook nothing.
  have quiet : ∀ {later : World}, (∀ shared name, ¬world.Spares operation shared name) →
      later.IsFresh → (later.IsFresh ↔ ¬world.Overlooks operation later) := by
    intro later spares laterFresh
    refine iff_of_true laterFresh ?_
    rintro ⟨shared, _, name, spared, _⟩
    exact spares shared name spared
  cases performed with
  | received result obtained spares => exact quiet spares (fresh.receive numbered obtained)
  | made mode =>
      apply quiet (fun _ _ => id)
      apply fresh.further numbered
      · exact resolveStyles_congr rfl rfl rfl
      · exact fun _ _ kept => kept
      · intro shared member
        rcases List.mem_cons.mp member with rfl | behind
        · exact Or.inr rfl
        · exact Or.inl behind
  | redefined repository spares =>
      apply quiet spares
      exact fresh.further numbered (resolveStyles_congr rfl rfl rfl) (fun _ _ kept => kept)
        (fun _ present => Or.inl present)
  | schemaAdded schema =>
      refine fresh.iff_of_forget (get?_addSchema world.manager schema) ?_ ?_
      · rintro shared name ⟨_, apart, _⟩ same
        exact apart same.symm
      · intro shared name lasting spared
        have apart : schema.name ≠ name := fun same => lasting same.symm
        apply resolveStyles_addSchema world.manager apart
        intro standsIn unknown
        exact spared ⟨standsIn, apart, unknown⟩
  | overridden mode schema attrs withDefaults =>
      refine fresh.iff_of_forget
        (get?_setOverrides world.manager mode schema attrs withDefaults) ?_ ?_
      · rintro shared name ⟨_, apart⟩ same
        exact apart same
      · intro shared name lasting spared
        apply resolveStyles_setOverrides
        intro sameGroup
        exact spared ⟨sameGroup, lasting⟩
  | asked index schema shared member =>
      exact quiet (fun _ _ => id) (fresh.styles numbered member schema)

theorem Performs.config (performed : world.Performs operation after) :
    after.manager.config = world.manager.config := by
  cases performed with
  | received result obtained spares =>
      cases obtained with
      | plain repository => rfl
      | live repository name shared known => rfl
      | made repository name mode isStale => rfl
  | made mode => rfl
  | redefined repository spares => rfl
  | schemaAdded schema => rfl
  | overridden mode schema attrs withDefaults => rfl
  | asked index schema shared member =>
      cases kept : world.manager.cache.get? (shared.stylesKey schema) with
      | some found => rw [styles_of_cached kept]
      | none => rw [styles_of_missing kept]

/-! ### Runs -/

theorem run_config (world : World) (operations : List Operation) :
    (world.run operations).manager.config = world.manager.config := by
  induction operations generalizing world with
  | nil => rfl
  | cons operation rest ih =>
      exact (ih (world.perform operation)).trans (performs world operation).config

theorem run_take_succ (world : World) {operations : List Operation} {count : Nat}
    (next : operations[count]? = some operation) :
    world.run (operations.take (count + 1)) =
      (world.run (operations.take count)).perform operation := by
  unfold run
  rw [List.take_add_one, next, List.foldl_append]
  rfl

theorem run_take_of_length_le (world : World) {operations : List Operation} {count : Nat}
    (beyond : operations[count]? = none) :
    world.run (operations.take (count + 1)) = world.run (operations.take count) := by
  rw [List.take_add_one, beyond]
  exact congrArg world.run (List.append_nil _)

section Start

variable (config : Config) (store : OverrideStore) (files : FileTree) (firstInstance : Nat)
  {operations : List Operation}

theorem run_start_isNumbered (count : Nat) :
    ((start config store files firstInstance).run (operations.take count)).IsNumbered :=
  run_isNumbered (start_isNumbered config store files firstInstance) (operations.take count)

theorem run_isFresh_of_not_overlooks
    (careful : ∀ count operation, operations[count]? = some operation →
      ¬((start config store files firstInstance).run (operations.take count)).Overlooks operation
        (((start config store files firstInstance).run (operations.take count)).perform operation))
    (count : Nat) :
    ((start config store files firstInstance).run (operations.take count)).IsFresh := by
  induction count with
  | zero => exact start_isFresh config store files firstInstance
  | succ count ih =>
      have numbered := @run_start_isNumbered config store files firstInstance operations
      cases next : operations[count]? with
      | none =>
          rw [run_take_of_length_le _ next]
          exact ih
      | some operation =>
          rw [run_take_succ _ next, (performs _ operation).isFresh_iff (numbered count) ih]
          exact careful count operation next

/-- With one schema for all unknown ones, and without names of modes in which a separator seems to
begin, styles are always fresh. -/
theorem run_isFresh_of_clear
    (schemas : ∀ schema, .addSchema schema ∈ operations → schema.name ≠ config.defaultSchema)
    (written : ∀ mode schema attrs withDefaults,
      .setOverrides mode schema attrs withDefaults ∈ operations →
        ¬Override.IsAmbiguous mode.name)
    (instances : ∀ count,
      ∀ shared ∈ ((start config store files firstInstance).run (operations.take count)).instances,
        ¬Override.IsAmbiguous shared.mode.name)
    (count : Nat) :
    ((start config store files firstInstance).run (operations.take count)).IsFresh := by
  apply run_isFresh_of_not_overlooks
  rintro count operation next ⟨shared, member, name, spared, _⟩
  have present := List.mem_of_getElem? next
  have sharedClear := instances count shared member
  cases operation with
  | addSchema schema =>
      have standsIn := spared.1
      rw [run_config] at standsIn
      exact schemas schema present standsIn
  | setOverrides mode schema attrs withDefaults =>
      obtain ⟨sameGroup, apart⟩ := spared
      have modeClear := written mode schema attrs withDefaults present
      obtain ⟨sameMode, sameSchema⟩ := (Override.group_eq_iff modeClear sharedClear).mp sameGroup
      exact apart ⟨sameMode.symm, sameSchema.symm⟩
  | modeForName => exact spared
  | modeForFile => exact spared
  | makeMode => exact spared
  | redefine => exact spared
  | reload => exact spared
  | overrides => exact spared
  | styles => exact spared

end Start

/-- A manager gives out fresh styles throughout a run exactly if no step of the run overlooks
styles that it changes. -/
theorem run_isFresh_iff (config : Config) (store : OverrideStore) (files : FileTree)
    (firstInstance : Nat) (operations : List Operation) :
    (∀ count, ((start config store files firstInstance).run (operations.take count)).IsFresh) ↔
      ∀ count operation, operations[count]? = some operation →
        ¬((start config store files firstInstance).run (operations.take count)).Overlooks operation
          (((start config store files firstInstance).run (operations.take count)).perform
            operation) := by
  constructor
  · intro fresh count operation next
    have numbered := @run_start_isNumbered config store files firstInstance operations
    have after := fresh (count + 1)
    rw [run_take_succ _ next, (performs _ operation).isFresh_iff (numbered count) (fresh count)]
      at after
    exact after
  · exact run_isFresh_of_not_overlooks config store files firstInstance

/-- When the schema that stands in for unknown ones is replaced, a schema that is not known keeps
the colors of the old one. -/
theorem run_not_isFresh_unknownSchema :
    ¬((start {} (.memory {}) {} 0).run
        [ .styles 0 "Solarized",
          .addSchema
            { name := "Normal", foreground := ⟨1⟩, selectedForeground := ⟨2⟩ } ]).IsFresh := by
  intro fresh
  have asked := fresh ⟨0, .plain⟩ (List.mem_singleton.mpr rfl) "Solarized"
  have colors := congrArg (List.map (·.foreground)) asked
  revert colors
  decide

end SyntaxHighlight.Manager.World
