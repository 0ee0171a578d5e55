/-
Looking up keys in dictionaries that were changed. An entry that is set is found under its key, and
all other keys keep theirs; when entries are left out by their keys, the others stay as they were.
Every key has one entry as long as entries are only set and left out.
-/

import Mathlib.Data.List.Nodup
import SyntaxHighlight.Text.Dictionary

namespace SyntaxHighlight.Dictionary

variable {κ α : Type} [DecidableEq κ]

theorem get?_cons (other key : κ) (value : α) (rest : Dictionary κ α) :
    get? ((other, value) :: rest) key = if other = key then some value else get? rest key :=
  rfl

theorem get?_set (dictionary : Dictionary κ α) (key other : κ) (value : α) :
    (dictionary.set key value).get? other =
      if key = other then some value else dictionary.get? other := by
  induction dictionary with
  | nil => rfl
  | cons entry rest ih =>
      obtain ⟨present, old⟩ := entry
      unfold set
      by_cases same : present = key
      · subst same
        rw [if_pos rfl, get?_cons, get?_cons]
        by_cases found : present = other
        · rw [if_pos found, if_pos found]
        · rw [if_neg found, if_neg found, if_neg found]
      · rw [if_neg same, get?_cons, ih, get?_cons]
        by_cases found : present = other
        · have apart : key ≠ other := fun equal => same (found.trans equal.symm)
          rw [if_pos found, if_pos found, if_neg apart]
        · rw [if_neg found, if_neg found]

theorem get?_set_self (dictionary : Dictionary κ α) (key : κ) (value : α) :
    (dictionary.set key value).get? key = some value := by
  rw [get?_set, if_pos rfl]

theorem set_of_get? {dictionary : Dictionary κ α} {key : κ} {value : α}
    (found : dictionary.get? key = some value) : dictionary.set key value = dictionary := by
  induction dictionary with
  | nil => cases found
  | cons entry rest ih =>
      obtain ⟨present, old⟩ := entry
      unfold set
      rw [get?_cons] at found
      split at found
      · rename_i same
        cases found
        rw [if_pos same, same]
      · rename_i apart
        rw [if_neg apart, ih found]

/-- A key that is there keeps its value, and no other key gets one. -/
theorem get?_setNew (dictionary : Dictionary κ α) (key other : κ) (value : α) :
    (dictionary.setNew key value).get? other =
      (dictionary.get? other).or (if key = other then some value else none) := by
  have appended (entries : Dictionary κ α) : get? (entries ++ [(key, value)]) other =
      (entries.get? other).or (if key = other then some value else none) := by
    induction entries with
    | nil => rfl
    | cons entry rest ih =>
        obtain ⟨present, old⟩ := entry
        rw [List.cons_append, get?_cons, get?_cons, ih]
        split <;> rfl
  unfold setNew
  split
  · rename_i present
    by_cases same : key = other
    · subst same
      rw [Option.or_of_isSome present]
    · rw [if_neg same, Option.or_none]
  · exact appended dictionary

theorem get?_filter (keeps : κ → Bool) (dictionary : Dictionary κ α) (key : κ) :
    get? (dictionary.filter fun entry => keeps entry.1) key =
      if keeps key then dictionary.get? key else none := by
  induction dictionary with
  | nil =>
      rw [List.filter_nil]
      split <;> rfl
  | cons entry rest ih =>
      obtain ⟨present, value⟩ := entry
      rw [List.filter_cons, get?_cons]
      by_cases kept : keeps present = true
      · rw [if_pos kept, get?_cons, ih]
        by_cases same : present = key
        · subst same
          rw [if_pos rfl, if_pos rfl, if_pos kept]
        · rw [if_neg same, if_neg same]
      · rw [if_neg kept, ih]
        by_cases same : present = key
        · subst same
          rw [if_neg kept, if_neg kept]
        · rw [if_neg same]

/-! ### Entries -/

theorem mem_set {dictionary : Dictionary κ α} {key : κ} {value : α} {entry : κ × α}
    (member : entry ∈ dictionary.set key value) : entry = (key, value) ∨ entry ∈ dictionary := by
  induction dictionary with
  | nil => exact Or.inl (List.mem_singleton.mp member)
  | cons head rest ih =>
      obtain ⟨present, old⟩ := head
      unfold set at member
      split at member
      · exact (List.mem_cons.mp member).imp id (List.mem_cons_of_mem _)
      · rcases List.mem_cons.mp member with rfl | behind
        · exact Or.inr List.mem_cons_self
        · exact (ih behind).imp id (List.mem_cons_of_mem _)

theorem erase_sublist (key : κ) (dictionary : Dictionary κ α) :
    (dictionary.erase key).Sublist dictionary := by
  induction dictionary with
  | nil => exact List.Sublist.refl []
  | cons head rest ih =>
      obtain ⟨present, old⟩ := head
      unfold erase
      split
      · exact List.sublist_cons_self _ rest
      · exact ih.cons_cons _

theorem mem_of_get? {dictionary : Dictionary κ α} {key : κ} {value : α}
    (found : dictionary.get? key = some value) : (key, value) ∈ dictionary := by
  induction dictionary with
  | nil => cases found
  | cons head rest ih =>
      obtain ⟨present, old⟩ := head
      rw [get?_cons] at found
      split at found
      · rename_i same
        cases found
        rw [same]
        exact List.mem_cons_self
      · exact List.mem_cons_of_mem _ (ih found)

omit [DecidableEq κ] in
theorem mem_keys_of_mem {dictionary : Dictionary κ α} {key : κ} {value : α}
    (member : (key, value) ∈ dictionary) : key ∈ dictionary.keys :=
  List.mem_map.mpr ⟨(key, value), member, rfl⟩

theorem mem_keys_iff {dictionary : Dictionary κ α} {key : κ} :
    key ∈ dictionary.keys ↔ (dictionary.get? key).isSome := by
  induction dictionary with
  | nil => simp [keys, get?]
  | cons head rest ih =>
      obtain ⟨present, value⟩ := head
      rw [get?_cons, keys, List.map_cons, List.mem_cons, ← keys, ih]
      by_cases same : present = key
      · simp [same]
      · simp [same, Ne.symm same]

theorem get?_eq_some_iff {dictionary : Dictionary κ α} (nodup : dictionary.keys.Nodup) {key : κ}
    {value : α} : dictionary.get? key = some value ↔ (key, value) ∈ dictionary := by
  refine ⟨mem_of_get?, ?_⟩
  intro member
  induction dictionary with
  | nil => cases member
  | cons head rest ih =>
      obtain ⟨present, old⟩ := head
      obtain ⟨fresh, restNodup⟩ := List.nodup_cons.mp nodup
      rw [get?_cons]
      rcases List.mem_cons.mp member with same | behind
      · cases same
        rw [if_pos rfl]
      · have apart : present ≠ key := by
          rintro rfl
          exact fresh (mem_keys_of_mem behind)
        rw [if_neg apart]
        exact ih restNodup behind

theorem nodup_keys_set {dictionary : Dictionary κ α} (nodup : dictionary.keys.Nodup) (key : κ)
    (value : α) : (dictionary.set key value).keys.Nodup := by
  induction dictionary with
  | nil => exact List.nodup_singleton key
  | cons head rest ih =>
      obtain ⟨present, old⟩ := head
      obtain ⟨fresh, restNodup⟩ := List.nodup_cons.mp nodup
      unfold set
      split
      · rename_i same
        rw [← same]
        exact nodup
      · rename_i apart
        refine List.nodup_cons.mpr ⟨?_, ih restNodup⟩
        intro member
        obtain ⟨⟨other, found⟩, entryMember, same⟩ := List.mem_map.mp member
        rcases mem_set entryMember with new | old
        · exact apart (same.symm.trans (congrArg Prod.fst new))
        · exact fresh (same ▸ mem_keys_of_mem old)

theorem get?_erase {dictionary : Dictionary κ α} (nodup : dictionary.keys.Nodup) (key other : κ) :
    (dictionary.erase key).get? other = if key = other then none else dictionary.get? other := by
  induction dictionary with
  | nil => exact (ite_self none).symm
  | cons head rest ih =>
      obtain ⟨present, old⟩ := head
      obtain ⟨fresh, restNodup⟩ := List.nodup_cons.mp nodup
      unfold erase
      split
      · rename_i same
        subst same
        rw [get?_cons]
        split
        · rename_i asked
          rw [Option.eq_none_iff_forall_ne_some]
          intro value found
          exact fresh (asked ▸ mem_keys_of_mem (mem_of_get? found))
        · rfl
      · rename_i apart
        rw [get?_cons, get?_cons, ih restNodup]
        split
        · rename_i asked
          rw [if_neg fun same => apart (asked.trans same.symm)]
        · rfl

omit [DecidableEq κ] in
theorem nodup_keys_filter {dictionary : Dictionary κ α} (nodup : dictionary.keys.Nodup)
    (keeps : κ × α → Bool) : (keys (dictionary.filter keeps)).Nodup :=
  nodup.sublist ((List.filter_sublist).map Prod.fst)

/-! ### Other values under the same keys -/

section Map

variable {β : Type} (dictionary : Dictionary κ α) (key : κ) (change : α → β)

omit [DecidableEq κ] in
theorem keys_map : keys (dictionary.map (Prod.map id change)) = dictionary.keys := by
  rw [keys, List.map_map]
  rfl

theorem get?_map :
    get? (dictionary.map (Prod.map id change)) key = (dictionary.get? key).map change := by
  induction dictionary with
  | nil => rfl
  | cons entry rest ih =>
      obtain ⟨present, value⟩ := entry
      rw [List.map_cons, Prod.map_apply, id, get?_cons, get?_cons, ih]
      split <;> rfl

theorem set_map (value : α) :
    set key (change value) (dictionary.map (Prod.map id change)) =
      (dictionary.set key value).map (Prod.map id change) := by
  induction dictionary with
  | nil => rfl
  | cons entry rest ih =>
      obtain ⟨present, old⟩ := entry
      rw [List.map_cons, Prod.map_apply, id, set, set, ih]
      split <;> rfl

theorem erase_map :
    erase key (dictionary.map (Prod.map id change)) =
      (dictionary.erase key).map (Prod.map id change) := by
  induction dictionary with
  | nil => rfl
  | cons entry rest ih =>
      obtain ⟨present, old⟩ := entry
      rw [List.map_cons, Prod.map_apply, id, erase, erase, ih]
      split <;> rfl

end Map

end SyntaxHighlight.Dictionary
