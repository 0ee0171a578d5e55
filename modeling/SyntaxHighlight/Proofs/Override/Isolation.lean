/-
When overrides of one mode and schema stay out of those of another. They do unless the names of the
two modes and schemas overlap, so that both have one group, and the modes have formats with one key:
then what is set for one of these formats is also read for the other.
-/

import SyntaxHighlight.Proofs.Override.Group
import SyntaxHighlight.Proofs.Override.RoundTrip

namespace SyntaxHighlight.Override

variable {mode other : Mode} {schema : Schema} {name : String}

/-- Stores keep a format of each of two modes under one key. -/
def SharesKey (mode other : Mode) : Prop :=
  ∃ format ∈ mode.registry.formats, ∃ twin ∈ other.registry.formats,
    key mode.name format = key other.name twin

theorem exists_key_of_mem_entries {attrs : List Attribute} {withDefaults : Bool}
    {entry : String × List String} (member : entry ∈ entries mode schema attrs withDefaults) :
    ∃ format ∈ mode.registry.formats, entry.1 = key mode.name format := by
  obtain ⟨⟨format, attr⟩, both, rfl⟩ := List.mem_map.mp member
  exact ⟨format, (List.of_mem_zip both).1, rfl⟩

theorem load_save_eq
    (apart : group mode.name schema.name = group other.name name → ¬SharesKey mode other)
    (store : Store) (attrs : List Attribute) (withDefaults : Bool) :
    load other name (save mode schema store attrs withDefaults) = load other name store := by
  apply load_congr
  intro twin member
  apply Store.read?_writeAll_of_ne
  intro entry written sameGroup sameKey
  obtain ⟨format, present, named⟩ := exists_key_of_mem_entries written
  exact apart sameGroup ⟨format, present, twin, member, named.symm.trans sameKey⟩

/-- An attribute that differs from a format in its weight. -/
def weightFlipped (format : Format) : Attribute where
  name := format.name
  styleClass := format.styleClass
  style := { bold := some !(format.style.bold.getD false) }

theorem loadFormat_ne_of_weightFlipped {format : Format} {store : Store} {defaults : Schema}
    (written : store.read? (group mode.name name) (key mode.name format) =
      some (encode (weightFlipped format) defaults false)) :
    (loadFormat mode name store format).1 ≠ (loadFormat mode name {} format).1 := by
  rw [loadFormat_of_read written]
  intro same
  have weights : some (!(format.style.bold.getD false)) = format.style.bold :=
    congrArg (fun attr => attr.style.bold) same
  cases weight : format.style.bold with
  | none =>
      rw [weight] at weights
      cases weights
  | some bold =>
      rw [weight] at weights
      cases bold <;> cases weights

/-- What is set for all formats of a mode is read for a format of another one with the same group
and the key of one of them. -/
theorem load_save_ne (sameGroup : group mode.name schema.name = group other.name name)
    {format twin : Format} (present : format ∈ mode.registry.formats)
    (member : twin ∈ other.registry.formats)
    (sameKey : key mode.name format = key other.name twin) :
    load other name (save mode schema {}
        (List.replicate mode.registry.formats.length (weightFlipped twin)) false) ≠
      load other name {} := by
  obtain ⟨index, found⟩ := List.mem_iff_getElem?.mp present
  obtain ⟨last, isLast⟩ := exists_isLastOfKey mode index format found
  have inside : last < mode.registry.formats.length := by
    obtain ⟨_, atLast, _⟩ := isLast.found
    exact (List.getElem?_eq_some_iff.mp atLast).1
  -- All formats of the mode get the attribute, so it does not matter which of them counts.
  have given : (List.replicate mode.registry.formats.length (weightFlipped twin))[last]? =
      some (weightFlipped twin) := List.getElem?_replicate_of_lt inside
  have written : (save mode schema {} _ false).read? (group mode.name schema.name)
      (key mode.name format) = some (encode (weightFlipped twin) schema false) :=
    read?_entries isLast _ given schema false (group mode.name schema.name) {}
  rw [sameGroup, sameKey] at written
  intro same
  have attributes := congrArg Prod.fst same
  simp only [load, List.map_map, List.map_inj_left] at attributes
  exact loadFormat_ne_of_weightFlipped written (attributes twin member)

/-- Overrides of one mode and schema stay out of those of another, whatever is stored and set,
exactly if the names do not overlap or the modes have no formats with one key. -/
theorem load_save_eq_iff (mode other : Mode) (schema : Schema) (name : String)
    (apart : (mode.name, schema.name) ≠ (other.name, name)) :
    (∀ store attrs withDefaults,
        load other name (save mode schema store attrs withDefaults) = load other name store) ↔
      ¬((Overlaps mode.name schema.name other.name name ∨
          Overlaps other.name name mode.name schema.name) ∧ SharesKey mode other) := by
  have different : ¬(mode.name = other.name ∧ schema.name = name) := by
    rintro ⟨sameMode, sameSchema⟩
    exact apart (by rw [sameMode, sameSchema])
  have groups := group_eq_iff_overlaps mode.name schema.name other.name name
  rw [or_iff_right different] at groups
  rw [← groups]
  constructor
  · rintro isolated ⟨sameGroup, format, present, twin, member, sameKey⟩
    exact load_save_ne sameGroup present member sameKey (isolated {} _ false)
  · intro separate store attrs withDefaults
    exact load_save_eq (fun sameGroup shares => separate ⟨sameGroup, shares⟩) store attrs
      withDefaults

/-- A language without rules. -/
def textLanguage (name : String) : Definition where
  name
  contexts := [{ name := "Normal", format := "Text" }]
  formats := [{ name := "Text" }]

theorem textLanguage_accepted :
    ∀ name ∈ ["A", "A - Schema B"], ∃ mode,
      Mode.ofDefinitions (textLanguage name) [] 8 = .ok mode ∧ mode.name = name ∧
        mode.registry.formats = [.ofDeclaration name { name := "Text" }] := by
  have evaluated : ["A", "A - Schema B"].all (fun name =>
      (Mode.ofDefinitions (textLanguage name) [] 8).toOption.any (fun mode =>
        decide (mode.name = name) && decide (mode.registry.formats =
          [.ofDeclaration name { name := "Text" }]))) = true := by
    cbv
  intro name member
  obtain ⟨mode, made, facts⟩ :=
    (Option.any_eq_true _ _).mp (List.all_eq_true.mp evaluated name member)
  rw [Bool.and_eq_true, decide_eq_true_eq, decide_eq_true_eq] at facts
  exact ⟨mode, Mode.ofDefinitions_of_toOption made, facts⟩

theorem load_save_eq_iff_normalAndDark :
    ∃ short long, Mode.ofDefinitions (textLanguage "A") [] 8 = .ok short ∧
      Mode.ofDefinitions (textLanguage "A - Schema B") [] 8 = .ok long ∧
      (short.name, Schema.dark.name) ≠ (long.name, "Normal") ∧
      ∀ store attrs withDefaults,
        load long "Normal" (save short .dark store attrs withDefaults) =
          load long "Normal" store := by
  obtain ⟨short, shortMade, shortName, _⟩ := textLanguage_accepted "A" (by simp)
  obtain ⟨long, longMade, longName, _⟩ := textLanguage_accepted "A - Schema B" (by simp)
  have apart : (short.name, Schema.dark.name) ≠ (long.name, "Normal") := by
    simp [Schema.dark]
  refine ⟨short, long, shortMade, longMade, apart,
    (load_save_eq_iff short long .dark "Normal" apart).mpr ?_⟩
  rintro ⟨overlaps | overlaps, _⟩
  · exact absurd overlaps.schema_longer (by decide)
  · rw [shortName, longName] at overlaps
    obtain ⟨between, longer, _⟩ := overlaps
    cases longer

/-- Text of one language is bold because that of another one was made bold in another schema. -/
theorem load_save_ne_overlappingNames :
    ∃ short long, Mode.ofDefinitions (textLanguage "A") [] 8 = .ok short ∧
      Mode.ofDefinitions (textLanguage "A - Schema B") [] 8 = .ok long ∧
      (short.name, "B - Schema C") ≠ (long.name, "C") ∧
      load long "C" (save short (Schema.normal.renamed "B - Schema C") {}
        [{ name := "Text", styleClass := .normal, style := { bold := some true } }] false) ≠
          load long "C" {} := by
  obtain ⟨short, shortMade, shortName, shortFormats⟩ := textLanguage_accepted "A" (by simp)
  obtain ⟨long, longMade, longName, longFormats⟩ := textLanguage_accepted "A - Schema B" (by simp)
  refine ⟨short, long, shortMade, longMade, by simp, ?_⟩
  have sameGroup : group short.name (Schema.normal.renamed "B - Schema C").name =
      group long.name "C" := by
    rw [shortName, longName]
    rfl
  have read := load_save_ne sameGroup (shortFormats ▸ List.mem_singleton_self _)
    (longFormats ▸ List.mem_singleton_self _) (by rw [shortName, longName]; rfl)
  rw [shortFormats] at read
  exact read

end SyntaxHighlight.Override
