/-
What the numbers of formats stand for. A registry keeps formats in a list and the index of each id
in a dictionary, and both grow together: an id has an index exactly if the format there has this
id. So no two formats have one id, and an index that was given out once stands for the format that
was first registered with its id, whatever is registered later.
-/

import Mathlib.Data.List.Induction
import SyntaxHighlight.Proofs.Text.Dictionary
import SyntaxHighlight.Style.Format

namespace SyntaxHighlight.FormatRegistry

/-- The index of an id is that of a format with this id, and every format is found by its own. -/
def IsIndexed (registry : FormatRegistry) : Prop :=
  ∀ id index, registry.indexOf? id = some index ↔
    ∃ format, registry.format? index = some format ∧ format.id = id

variable {registry : FormatRegistry} {format other : Format} {id : String} {index : Nat}

/-! ### One format more -/

theorem register_of_known (known : registry.indexOf? format.id = some index) :
    registry.register format = (registry, index) := by
  unfold register
  rw [known]

theorem register_of_new (new : registry.indexOf? format.id = none) :
    registry.register format =
      ({ formats := registry.formats ++ [format]
         indices := registry.indices.set format.id registry.size },
        registry.size) := by
  unfold register
  rw [new]

/-- An id that is known keeps its index, and no other id than that of the format gets one. -/
theorem indexOf?_register (registry : FormatRegistry) (format : Format) (id : String) :
    (registry.register format).1.indexOf? id =
      (registry.indexOf? id).or (if format.id = id then some (registry.register format).2
        else none) := by
  cases known : registry.indexOf? format.id with
  | some index =>
      rw [register_of_known known]
      split
      · rename_i same
        rw [← same, known, Option.some_or]
      · rw [Option.or_none]
  | none =>
      rw [register_of_new known, indexOf?, Dictionary.get?_set, ← indexOf?]
      split
      · rename_i same
        rw [← same, known, Option.none_or]
      · rw [Option.or_none]

theorem indexOf?_register_self (registry : FormatRegistry) (format : Format) :
    (registry.register format).1.indexOf? format.id = some (registry.register format).2 := by
  rw [indexOf?_register, if_pos rfl]
  cases known : registry.indexOf? format.id with
  | some index => rw [register_of_known known, Option.some_or]
  | none => rw [Option.none_or]

theorem indexOf?_register_of_some (known : registry.indexOf? id = some index) (format : Format) :
    (registry.register format).1.indexOf? id = some index := by
  rw [indexOf?_register, known, Option.some_or]

theorem format?_register_of_new (new : registry.indexOf? format.id = none) (index : Nat) :
    (registry.register format).1.format? index =
      if index = registry.size then some format else registry.format? index := by
  rw [register_of_new new, format?, format?, size]
  by_cases old : index < registry.formats.length
  · rw [List.getElem?_append_left old, if_neg (Nat.ne_of_lt old)]
  · rw [List.getElem?_eq_none (Nat.not_lt.mp old)]
    split
    · rename_i atEnd
      rw [atEnd, List.getElem?_concat_length]
    · rw [List.getElem?_eq_none]
      rw [List.length_append, List.length_singleton]
      omega

theorem format?_register_of_some (found : registry.format? index = some other) (format : Format) :
    (registry.register format).1.format? index = some other := by
  cases known : registry.indexOf? format.id with
  | some place => rw [register_of_known known, found]
  | none =>
      have old : index < registry.size := (List.getElem?_eq_some_iff.mp found).1
      rw [format?_register_of_new known, if_neg (Nat.ne_of_lt old), found]

theorem isIndexed_empty : IsIndexed {} := by
  intro id index
  constructor
  · intro impossible
    cases impossible
  · rintro ⟨format, impossible, -⟩
    cases impossible

theorem IsIndexed.lt (indexed : registry.IsIndexed) (known : registry.indexOf? id = some index) :
    index < registry.size := by
  obtain ⟨format, found, -⟩ := (indexed id index).mp known
  exact (List.getElem?_eq_some_iff.mp found).1

theorem IsIndexed.register (indexed : registry.IsIndexed) (format : Format) :
    (registry.register format).1.IsIndexed := by
  cases known : registry.indexOf? format.id with
  | some place =>
      rw [register_of_known known]
      exact indexed
  | none =>
      intro id index
      have number : (registry.register format).2 = registry.size := by rw [register_of_new known]
      rw [indexOf?_register, number, format?_register_of_new known]
      by_cases atEnd : index = registry.size
      · -- The index of the new format was not given out before.
        have fresh : registry.indexOf? id ≠ some index := fun found =>
          Nat.ne_of_lt (indexed.lt found) atEnd
        by_cases same : format.id = id
        · rw [← same, known]
          simp [atEnd]
        · rw [if_neg same, Option.or_none, if_pos atEnd]
          simp [fresh, same]
      · rw [if_neg atEnd, ← indexed id index]
        by_cases same : format.id = id
        · rw [← same, known]
          simp [Ne.symm atEnd]
        · rw [if_neg same, Option.or_none]

/-! ### Formats one after another -/

theorem ofFormats_append_singleton (formats : List Format) (format : Format) :
    ofFormats (formats ++ [format]) = ((ofFormats formats).register format).1 := by
  rw [ofFormats, List.foldl_append]
  rfl

theorem isIndexed_ofFormats (formats : List Format) : (ofFormats formats).IsIndexed := by
  induction formats using List.reverseRecOn with
  | nil => exact isIndexed_empty
  | append_singleton before format ih =>
      rw [ofFormats_append_singleton]
      exact ih.register format

theorem IsIndexed.nodup (indexed : registry.IsIndexed) :
    (registry.formats.map Format.id).Nodup := by
  rw [List.nodup_iff_injective_get]
  intro one other same
  have found (place : Fin (registry.formats.map Format.id).length) :
      registry.indexOf? ((registry.formats.map Format.id).get place) = some place := by
    have inside : place.val < registry.formats.length := by
      simpa only [List.length_map] using place.isLt
    refine (indexed _ _).mpr ⟨registry.formats[place.val], List.getElem?_eq_getElem inside, ?_⟩
    rw [List.get_eq_getElem, List.getElem_map]
  exact Fin.ext (Option.some.inj ((found one).symm.trans (same ▸ found other)))

/-- The index of an id stands for the first format that was registered with it. -/
theorem indexOf?_ofFormats_bind (formats : List Format) (id : String) :
    ((ofFormats formats).indexOf? id).bind (ofFormats formats).format? =
      formats.find? (·.id = id) := by
  induction formats using List.reverseRecOn with
  | nil => rfl
  | append_singleton before format ih =>
      have indexed := isIndexed_ofFormats before
      rw [ofFormats_append_singleton, indexOf?_register, List.find?_append, ← ih]
      cases known : (ofFormats before).indexOf? id with
      | some index =>
          obtain ⟨first, found, -⟩ := (indexed id index).mp known
          rw [Option.some_or, Option.bind_some, Option.bind_some, found, Option.some_or]
          exact format?_register_of_some found format
      | none =>
          rw [Option.none_or, Option.bind_none, Option.none_or, List.find?_singleton]
          by_cases same : format.id = id
          · rw [if_pos same, Option.bind_some, decide_eq_true same, if_pos rfl]
            rw [← same] at known
            rw [register_of_new known, format?, size, List.getElem?_concat_length]
          · rw [if_neg same, Option.bind_none, decide_eq_false same]
            rfl

theorem format?_foldl_register (found : registry.format? index = some other)
    (formats : List Format) :
    (formats.foldl (fun registry format => (registry.register format).1) registry).format? index =
      some other := by
  induction formats generalizing registry with
  | nil => exact found
  | cons format rest ih => exact ih (format?_register_of_some found format)

/-- The format that is registered first has the index zero. -/
theorem indexOf?_ofFormats_cons (format : Format) (rest : List Format) :
    (ofFormats (format :: rest)).indexOf? format.id = some 0 := by
  have started : (register {} format).1.format? 0 = some format := rfl
  exact (isIndexed_ofFormats _ _ _).mpr ⟨format, format?_foldl_register started rest, rfl⟩

/-- Whatever is registered later, an index stands for the format that was first registered with
its id. -/
theorem exists_first_of_register (before after : List Format) (format : Format) :
    ∃ first, (before ++ [format]).find? (·.id = format.id) = some first ∧
      (ofFormats (before ++ format :: after)).format? ((ofFormats before).register format).2 =
        some first := by
  have given : ((ofFormats before).register format).1.indexOf? format.id =
      some ((ofFormats before).register format).2 := indexOf?_register_self _ format
  rw [← ofFormats_append_singleton] at given
  obtain ⟨first, found, -⟩ := (isIndexed_ofFormats (before ++ [format]) _ _).mp given
  have isFirst := indexOf?_ofFormats_bind (before ++ [format]) format.id
  rw [given, Option.bind_some, found] at isFirst
  refine ⟨first, isFirst.symm, ?_⟩
  rw [ofFormats_append_singleton] at found
  rw [ofFormats, List.foldl_append, List.foldl_cons]
  exact format?_foldl_register found after

end SyntaxHighlight.FormatRegistry
