/-
Overrides that are set and asked for again. Formats are told apart by their keys, so each format
gets back what was set for the last format with its key, which is itself unless formats of one mode
share a key.
-/

import SyntaxHighlight.Proofs.Manager.Styles
import SyntaxHighlight.Proofs.Mode.Closure
import SyntaxHighlight.Proofs.Override.Fields

namespace SyntaxHighlight

namespace Override

variable {mode : Mode} {index last : Nat} {format : Format} {attr : Attribute}

/-- Of the formats of a mode that have a key, the one at an index is the last. -/
structure IsLastOfKey (mode : Mode) (formatKey : String) (last : Nat) : Prop where
  found : ∃ format, mode.registry.formats[last]? = some format ∧ key mode.name format = formatKey
  behind : ∀ later format, last < later → mode.registry.formats[later]? = some format →
    key mode.name format ≠ formatKey

theorem exists_isLastOfKey (mode : Mode) (index : Nat) (format : Format)
    (found : mode.registry.formats[index]? = some format) :
    ∃ last, IsLastOfKey mode (key mode.name format) last := by
  -- From a format with the key to a later one, as long as there is one.
  by_cases shared : ∃ later other, index < later ∧ mode.registry.formats[later]? = some other ∧
      key mode.name other = key mode.name format
  · obtain ⟨later, other, behind, present, same⟩ := shared
    have inside : later < mode.registry.formats.length :=
      (List.getElem?_eq_some_iff.mp present).1
    obtain ⟨last, isLast⟩ := exists_isLastOfKey mode later other present
    rw [same] at isLast
    exact ⟨last, isLast⟩
  · refine ⟨index, ⟨format, found, rfl⟩, ?_⟩
    intro later other behind present same
    exact shared ⟨later, other, behind, present, same⟩
termination_by mode.registry.formats.length - index

theorem IsLastOfKey.eq_of_nodup (isLast : IsLastOfKey mode (key mode.name format) last)
    (apart : (mode.registry.formats.map (key mode.name)).Nodup)
    (found : mode.registry.formats[index]? = some format) : last = index := by
  obtain ⟨other, present, same⟩ := isLast.found
  have inside : last < (mode.registry.formats.map (key mode.name)).length := by
    rw [List.length_map]
    exact (List.getElem?_eq_some_iff.mp present).1
  apply (List.getElem?_inj inside apart).mp
  rw [List.getElem?_map, List.getElem?_map, present, found, Option.map_some, Option.map_some, same]

/-! ### What is written -/

theorem getElem?_entries (schema : Schema) (attrs : List Attribute) (withDefaults : Bool)
    (entry : String × List String) :
    (entries mode schema attrs withDefaults)[index]? = some entry ↔
      ∃ format attr, mode.registry.formats[index]? = some format ∧ attrs[index]? = some attr ∧
        entry = (key mode.name format, encode attr schema withDefaults) := by
  unfold entries
  rw [List.getElem?_map, Option.map_eq_some_iff]
  constructor
  · rintro ⟨⟨format, attr⟩, both, rfl⟩
    obtain ⟨first, second⟩ := List.getElem?_zip_eq_some.mp both
    exact ⟨format, attr, first, second, rfl⟩
  · rintro ⟨format, attr, first, second, rfl⟩
    exact ⟨(format, attr), List.getElem?_zip_eq_some.mpr ⟨first, second⟩, rfl⟩

/-- What stores keep under a key is what was set for the last format with this key. -/
theorem read?_entries {formatKey : String} (isLast : IsLastOfKey mode formatKey last)
    (attrs : List Attribute) (given : attrs[last]? = some attr) (schema : Schema)
    (withDefaults : Bool) (group : String) (store : Store) :
    (store.writeAll group (entries mode schema attrs withDefaults)).read? group formatKey =
      some (encode attr schema withDefaults) := by
  obtain ⟨format, present, rfl⟩ := isLast.found
  have entry : (entries mode schema attrs withDefaults)[last]? =
      some (key mode.name format, encode attr schema withDefaults) :=
    (getElem?_entries schema attrs withDefaults _).mpr ⟨format, attr, present, given, rfl⟩
  obtain ⟨inside, value⟩ := List.getElem?_eq_some_iff.mp entry
  have split := List.take_append_drop last (entries mode schema attrs withDefaults)
  rw [List.drop_eq_getElem_cons inside, value] at split
  rw [← split]
  apply Store.read?_writeAll_last
  intro later member
  obtain ⟨offset, found⟩ := List.mem_iff_getElem?.mp member
  rw [List.getElem?_drop] at found
  obtain ⟨other, _, behind, _, rfl⟩ := (getElem?_entries schema attrs withDefaults _).mp found
  exact isLast.behind (last + 1 + offset) other (by omega) behind

/-! ### What is read -/

theorem loadFormat_of_read {store : Store} {schema : String} {defaults : Schema}
    (written : store.read? (group mode.name schema) (key mode.name format) =
      some (encode attr defaults false)) :
    loadFormat mode schema store format =
      ({ format.toAttribute with styleClass := attr.styleClass, style := attr.style.stored },
        []) := by
  have filled : ∃ first rest, encode attr defaults false = first :: rest := ⟨_, _, rfl⟩
  have complete : ¬(encode attr defaults false).length < fieldCount := by
    rw [length_encode]
    omega
  obtain ⟨first, rest, shape⟩ := filled
  unfold loadFormat
  dsimp only
  rw [written]
  rw [shape]
  dsimp only
  rw [← shape, apply_encode, if_neg complete]

end Override

namespace Manager

open Override

variable (manager : Manager) (mode : Mode) (schema : String) (attrs : List Attribute)

theorem loadFormat_setOverrides
    (aligned : attrs.length = mode.registry.formats.length)
    (storable : ∀ attr ∈ attrs, attr.style.IsStorable) {index : Nat} {format : Format}
    (found : mode.registry.formats[index]? = some format) :
    ∃ last attr, IsLastOfKey mode (key mode.name format) last ∧
      attrs[last]? = some attr ∧
        loadFormat mode schema (manager.setOverrides mode schema attrs false).store.data format =
          ({ format.toAttribute with styleClass := attr.styleClass, style := attr.style },
            []) := by
  obtain ⟨last, isLast⟩ := exists_isLastOfKey mode index format found
  obtain ⟨_, present, _⟩ := isLast.found
  have inside : last < attrs.length := by
    rw [aligned]
    exact (List.getElem?_eq_some_iff.mp present).1
  have given : attrs[last]? = some attrs[last] := List.getElem?_eq_getElem inside
  have kept := (storable attrs[last] (List.getElem_mem inside)).stored_eq_self
  refine ⟨last, attrs[last], isLast, given, ?_⟩
  have written := read?_entries isLast attrs given (manager.schemaOrDefault schema) false
    (group mode.name schema) manager.store.data
  rw [← data_setOverrides] at written
  rw [loadFormat_of_read written, kept]

theorem diagnostics_setOverrides
    (aligned : attrs.length = mode.registry.formats.length)
    (storable : ∀ attr ∈ attrs, attr.style.IsStorable) :
    ((manager.setOverrides mode schema attrs false).overrides mode schema).2 = [] := by
  apply List.flatMap_eq_nil_iff.mpr
  intro loaded member
  obtain ⟨format, present, rfl⟩ := List.mem_map.mp member
  obtain ⟨index, found⟩ := List.mem_iff_getElem?.mp present
  obtain ⟨_, _, _, _, read⟩ :=
    loadFormat_setOverrides manager mode schema attrs aligned storable found
  rw [read]

theorem getElem?_overrides (index : Nat) :
    (manager.overrides mode schema).1[index]? =
      (mode.registry.formats[index]?).map fun format =>
        (loadFormat mode schema manager.store.data format).1 := by
  change ((mode.registry.formats.map _).map Prod.fst)[index]? = _
  rw [List.getElem?_map, List.getElem?_map, Option.map_map]
  rfl

/-- Where no two formats share a key, every format gets back what was set for it. -/
theorem overrides_setOverrides_of_nodup
    (aligned : attrs.length = mode.registry.formats.length)
    (storable : ∀ attr ∈ attrs, attr.style.IsStorable)
    (apart : (mode.registry.formats.map (key mode.name)).Nodup)
    {index : Nat} {format : Format} {attr : Attribute}
    (found : mode.registry.formats[index]? = some format) (given : attrs[index]? = some attr) :
    ((manager.setOverrides mode schema attrs false).overrides mode schema).1[index]? =
      some { format.toAttribute with styleClass := attr.styleClass, style := attr.style } := by
  obtain ⟨last, counting, isLast, set, read⟩ :=
    loadFormat_setOverrides manager mode schema attrs aligned storable found
  have same : last = index := isLast.eq_of_nodup apart found
  rw [same, given] at set
  cases set
  rw [getElem?_overrides, found, Option.map_some, read]

/-- Overrides that were set come back without complaints: every format with its own name and spell
checking, and with the style and the class that were set for the last format with its key. -/
theorem overrides_setOverrides
    (aligned : attrs.length = mode.registry.formats.length)
    (storable : ∀ attr ∈ attrs, attr.style.IsStorable) :
    ((manager.setOverrides mode schema attrs false).overrides mode schema).2 = [] ∧
      ((manager.setOverrides mode schema attrs false).overrides mode schema).1.length =
        mode.registry.formats.length ∧
      ∀ (index : Nat) (format : Format), mode.registry.formats[index]? = some format →
        ∃ last attr, IsLastOfKey mode (key mode.name format) last ∧
          attrs[last]? = some attr ∧
            ((manager.setOverrides mode schema attrs false).overrides mode schema).1[index]? =
              some { format.toAttribute with
                styleClass := attr.styleClass, style := attr.style } := by
  refine ⟨diagnostics_setOverrides manager mode schema attrs aligned storable, ?_, ?_⟩
  · exact (List.length_map _).trans (List.length_map _)
  · intro index format found
    obtain ⟨last, attr, isLast, given, read⟩ :=
      loadFormat_setOverrides manager mode schema attrs aligned storable found
    refine ⟨last, attr, isLast, given, ?_⟩
    rw [getElem?_overrides, found, Option.map_some, read]

end Manager

/-- A language with two formats of one name. -/
def twinLanguage : Definition where
  name := "Twins"
  contexts := [{ name := "Normal", format := "Text" }]
  formats := [{ name := "Text" }, { name := "Text", id := some "Other" }]

/-- The formats of the language, which share a key. -/
def twinFormats : List Format :=
  [ { id := "Twins:Text", name := "Text", definition := "Twins", styleClass := .normal },
    { id := "Other", name := "Text", definition := "Twins", styleClass := .normal } ]

theorem twinLanguage_accepted :
    ∃ mode, Mode.ofDefinitions twinLanguage [] 8 = .ok mode ∧ mode.name = "Twins" ∧
      mode.registry.formats = twinFormats := by
  have evaluated : (Mode.ofDefinitions twinLanguage [] 8).toOption.any (fun mode =>
      decide (mode.name = "Twins") && decide (mode.registry.formats = twinFormats)) = true := by
    cbv
  obtain ⟨mode, accepted, facts⟩ := (Option.any_eq_true _ _).mp evaluated
  rw [Bool.and_eq_true, decide_eq_true_eq, decide_eq_true_eq] at facts
  exact ⟨mode, Mode.ofDefinitions_of_toOption accepted, facts⟩

/-- Bold text for the first of two formats. -/
def boldAndPlain : List Attribute :=
  [ { name := "Text", styleClass := .normal, style := { bold := some true } },
    { name := "Text", styleClass := .normal } ]

theorem boldAndPlain_isStorable (attr : Attribute) (member : attr ∈ boldAndPlain) :
    attr.style.IsStorable := by
  have colorless : attr.style.foreground = none ∧ attr.style.selectedForeground = none ∧
      attr.style.background = none ∧ attr.style.selectedBackground = none ∧
      attr.style.fontFamily = none := by
    revert attr
    decide
  obtain ⟨foreground, selectedForeground, background, selectedBackground, font⟩ := colorless
  constructor
  · simp [foreground]
  · simp [selectedForeground]
  · simp [background]
  · simp [selectedBackground]
  · simp [font]

namespace Manager

open Override

theorem overrides_setOverrides_boldAndPlain :
    ∃ mode, Mode.ofDefinitions twinLanguage [] 8 = .ok mode ∧
      (((withStore {} (.memory {}) {} 0).setOverrides mode "Dark" boldAndPlain false).overrides
        mode "Dark").2 = [] ∧
      (((withStore {} (.memory {}) {} 0).setOverrides mode "Dark" boldAndPlain false).overrides
        mode "Dark").1.length = 2 := by
  obtain ⟨mode, accepted, _, formats⟩ := twinLanguage_accepted
  have aligned : boldAndPlain.length = mode.registry.formats.length :=
    (congrArg List.length formats).symm
  obtain ⟨complaints, counted, _⟩ := overrides_setOverrides (withStore {} (.memory {}) {} 0) mode
    "Dark" boldAndPlain aligned boldAndPlain_isStorable
  exact ⟨mode, accepted, complaints, counted.trans aligned.symm⟩

/-- Of two formats of one name the first takes over what was set for the second. -/
theorem overrides_setOverrides_twinLanguage :
    ∃ mode format attr, Mode.ofDefinitions twinLanguage [] 8 = .ok mode ∧
      boldAndPlain.length = mode.registry.formats.length ∧
      (∀ attr ∈ boldAndPlain, attr.style.IsStorable) ∧
      mode.registry.formats[0]? = some format ∧ boldAndPlain[0]? = some attr ∧
      (((withStore {} (.memory {}) {} 0).setOverrides mode "Normal" boldAndPlain false).overrides
        mode "Normal").1[0]? ≠
          some { format.toAttribute with styleClass := attr.styleClass, style := attr.style } := by
  obtain ⟨mode, accepted, named, formats⟩ := twinLanguage_accepted
  have aligned : boldAndPlain.length = mode.registry.formats.length :=
    (congrArg List.length formats).symm
  have found : mode.registry.formats[0]? = some twinFormats[0] := congrArg (·[0]?) formats
  refine ⟨mode, _, _, accepted, aligned, boldAndPlain_isStorable, found, rfl, ?_⟩
  obtain ⟨last, attr, isLast, given, read⟩ := loadFormat_setOverrides
    (withStore {} (.memory {}) {} 0) mode "Normal" boldAndPlain aligned boldAndPlain_isStorable
      found
  -- Both formats have the key, so the second one counts for the first as well.
  have second : last = 1 := by
    obtain ⟨_, present, _⟩ := isLast.found
    rw [formats] at present
    have inside : last < 2 := (List.getElem?_eq_some_iff.mp present).1
    have beyond : ¬last < 1 := by
      intro before
      refine isLast.behind 1 _ before (by rw [formats]; rfl) ?_
      rw [named]
      rfl
    omega
  subst second
  cases given
  rw [getElem?_overrides, found, Option.map_some, read]
  decide

end Manager

end SyntaxHighlight
