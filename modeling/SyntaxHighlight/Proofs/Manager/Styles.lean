/-
What the styles of a mode in a schema depend on: the schema of that name or the one that stands in
for it, and the overrides in the group of the mode and the schema. Nothing else that a manager does
changes them.
-/

import SyntaxHighlight.Manager.Basic
import SyntaxHighlight.Proofs.Override.Store

namespace SyntaxHighlight

open Dictionary

namespace Override

theorem load_congr {mode : Mode} {schema : String} {store other : Store}
    (same : ∀ format ∈ mode.registry.formats,
      store.read? (group mode.name schema) (key mode.name format) =
        other.read? (group mode.name schema) (key mode.name format)) :
    load mode schema store = load mode schema other := by
  have formats : mode.registry.formats.map (loadFormat mode schema store) =
      mode.registry.formats.map (loadFormat mode schema other) := by
    apply List.map_congr_left
    intro format member
    unfold loadFormat
    dsimp only
    rw [same format member]
  unfold load
  rw [formats]

end Override

namespace Manager

variable (manager : Manager)

/-! ### Resolved styles -/

theorem resolveStyles_congr {one other : Manager} (config : one.config = other.config)
    (schemas : one.schemas = other.schemas) (data : one.store.data = other.store.data) :
    one.resolveStyles = other.resolveStyles := by
  funext mode schema
  unfold resolveStyles overrides schemaOrDefault schema?
  rw [config, schemas, data]

theorem schema?_addSchema (schema : Schema) (name : String) :
    (manager.addSchema schema).schema? name =
      if schema.name = name then some schema else manager.schema? name :=
  get?_set manager.schemas schema.name name schema

/-- A new schema counts under its own name, and under unknown names if it is the one that stands in
for those. -/
theorem schemaOrDefault_addSchema {schema : Schema} {name : String} (apart : schema.name ≠ name)
    (known : schema.name = manager.config.defaultSchema → manager.schema? name ≠ none) :
    (manager.addSchema schema).schemaOrDefault name = manager.schemaOrDefault name := by
  have config : (manager.addSchema schema).config = manager.config := rfl
  unfold schemaOrDefault
  rw [schema?_addSchema, if_neg apart, config, schema?_addSchema]
  by_cases standsIn : schema.name = manager.config.defaultSchema
  · obtain ⟨present, found⟩ := Option.ne_none_iff_exists'.mp (known standsIn)
    rw [found, Option.some_or, Option.some_or]
  · rw [if_neg standsIn]

theorem resolveStyles_addSchema {schema : Schema} {name : String} (apart : schema.name ≠ name)
    (known : schema.name = manager.config.defaultSchema → manager.schema? name ≠ none)
    (mode : Mode) :
    (manager.addSchema schema).resolveStyles mode name = manager.resolveStyles mode name := by
  have overrides : (manager.addSchema schema).overrides mode name =
      manager.overrides mode name := rfl
  unfold resolveStyles
  rw [overrides, schemaOrDefault_addSchema manager apart known]

theorem data_setOverrides (mode : Mode) (schema : String) (attrs : List Attribute)
    (withDefaults : Bool) :
    (manager.setOverrides mode schema attrs withDefaults).store.data =
      manager.store.data.writeAll (Override.group mode.name schema)
        (Override.entries mode (manager.schemaOrDefault schema) attrs withDefaults) :=
  OverrideStore.data_writeAll _ _ manager.store

theorem resolveStyles_setOverrides {mode other : Mode} {schema name : String}
    (apart : Override.group mode.name schema ≠ Override.group other.name name)
    (attrs : List Attribute) (withDefaults : Bool) :
    (manager.setOverrides mode schema attrs withDefaults).resolveStyles other name =
      manager.resolveStyles other name := by
  have schemas : (manager.setOverrides mode schema attrs withDefaults).schemaOrDefault name =
      manager.schemaOrDefault name := rfl
  have loaded : (manager.setOverrides mode schema attrs withDefaults).overrides other name =
      manager.overrides other name := by
    unfold overrides
    rw [data_setOverrides]
    apply Override.load_congr
    intro format _
    exact Store.read?_writeAll_other apart manager.store.data _
  unfold resolveStyles
  rw [schemas, loaded]

/-! ### The cache -/

theorem get?_forget (isStale : StylesKey → Bool) (key : StylesKey) :
    (manager.forget isStale).cache.get? key =
      if isStale key then none else manager.cache.get? key := by
  have filtered := get?_filter (fun key => !isStale key) manager.cache key
  cases stale : isStale key with
  | true =>
      rw [stale] at filtered
      exact filtered
  | false =>
      rw [stale] at filtered
      exact filtered

theorem forget_nothing : manager.forget (fun _ => false) = manager := by
  have kept : manager.cache.filter (fun _ => true) = manager.cache :=
    List.filter_eq_self.mpr (fun _ _ => rfl)
  exact congrArg (fun cache => { manager with cache }) kept

theorem get?_addSchema (schema : Schema) (key : StylesKey) :
    (manager.addSchema schema).cache.get? key =
      if key.schemaName = schema.name then none else manager.cache.get? key := by
  have forgotten := get?_forget manager (fun key => key.schemaName = schema.name) key
  simp only [decide_eq_true_eq] at forgotten
  exact forgotten

theorem get?_setOverrides (mode : Mode) (schema : String) (attrs : List Attribute)
    (withDefaults : Bool) (key : StylesKey) :
    (manager.setOverrides mode schema attrs withDefaults).cache.get? key =
      if key.modeName = mode.name ∧ key.schemaName = schema then none
      else manager.cache.get? key := by
  have forgotten :=
    get?_forget manager (fun key => key.modeName = mode.name && key.schemaName = schema) key
  simp only [Bool.and_eq_true, decide_eq_true_eq] at forgotten
  exact forgotten

end Manager

/-- What the styles of an instance in a schema are kept under. -/
def SharedMode.stylesKey (shared : SharedMode) (schema : String) : StylesKey where
  modeName := shared.mode.name
  modeInstance := shared.instanceNumber
  schemaName := schema

namespace Manager

variable {manager : Manager} {shared : SharedMode} {schema : String}

theorem styles_of_cached {found : SharedStyles}
    (kept : manager.cache.get? (shared.stylesKey schema) = some found) :
    manager.styles shared schema = (manager, found) := by
  unfold SharedMode.stylesKey at kept
  unfold styles
  dsimp only
  rw [kept]

theorem styles_of_missing (missing : manager.cache.get? (shared.stylesKey schema) = none) :
    manager.styles shared schema =
      ({ manager with
          cache := manager.cache.set (shared.stylesKey schema)
            ⟨manager.nextInstance, manager.resolveStyles shared.mode schema⟩
          nextInstance := manager.nextInstance + 1 },
        ⟨manager.nextInstance, manager.resolveStyles shared.mode schema⟩) := by
  unfold SharedMode.stylesKey at missing
  unfold styles
  dsimp only
  rw [missing]
  rfl

end Manager

end SyntaxHighlight
