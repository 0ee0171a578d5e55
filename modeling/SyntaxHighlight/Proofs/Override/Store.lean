/-
What a store gives back of what was written to it. Writing changes the entry of one key in one
group; of several entries that are written under one key the last one counts.
-/

import SyntaxHighlight.Override.FileStore
import SyntaxHighlight.Proofs.Text.Dictionary

namespace SyntaxHighlight

open Dictionary

namespace Store

theorem read?_write (store : Store) (group other key later : String) (fields : List String) :
    (store.write group key fields).read? other later =
      if group = other ∧ key = later then some fields else store.read? other later := by
  unfold read? write
  rw [get?_set]
  by_cases sameGroup : group = other
  · subst sameGroup
    rw [if_pos rfl, Option.bind_some, get?_set]
    by_cases sameKey : key = later
    · rw [if_pos sameKey, if_pos ⟨rfl, sameKey⟩]
    · rw [if_neg sameKey, if_neg (fun both => sameKey both.2)]
      cases store.groups.get? group with
      | none => rfl
      | some entries => rfl
  · rw [if_neg sameGroup, if_neg (fun both => sameGroup both.1)]

variable {group key : String}

theorem writeAll_append (store : Store) (before after : List (String × List String)) :
    store.writeAll group (before ++ after) = (store.writeAll group before).writeAll group after :=
  List.foldl_append

/-- Keys under which nothing is written keep what they have. -/
theorem read?_writeAll_of_ne {other : String} (entries : List (String × List String))
    (apart : ∀ entry ∈ entries, group = other → entry.1 ≠ key) (store : Store) :
    (store.writeAll group entries).read? other key = store.read? other key := by
  induction entries generalizing store with
  | nil => rfl
  | cons entry rest ih =>
      have first := apart entry List.mem_cons_self
      have behind := ih (fun later member => apart later (List.mem_cons_of_mem entry member))
      rw [writeAll, List.foldl_cons]
      change ((store.write group entry.1 entry.2).writeAll group rest).read? other key = _
      rw [behind, read?_write, if_neg (fun both => first both.1 both.2)]

theorem read?_writeAll_other {other : String} (apart : group ≠ other) (store : Store)
    (entries : List (String × List String)) :
    (store.writeAll group entries).read? other key = store.read? other key :=
  read?_writeAll_of_ne entries (fun _ _ same => absurd same apart) store

/-- Of the entries that are written under a key the last one counts. -/
theorem read?_writeAll_last (store : Store) (before after : List (String × List String))
    (fields : List String) (last : ∀ entry ∈ after, entry.1 ≠ key) :
    (store.writeAll group (before ++ (key, fields) :: after)).read? group key = some fields := by
  rw [writeAll_append]
  change (((store.writeAll group before).write group key fields).writeAll group after).read?
    group key = _
  rw [read?_writeAll_of_ne after (fun entry member _ => last entry member), read?_write,
    if_pos ⟨rfl, rfl⟩]

end Store

namespace OverrideStore

theorem data_write (store : OverrideStore) (group key : String) (fields : List String) :
    (store.write group key fields).data = store.data.write group key fields := by
  cases store with
  | memory data => rfl
  | file store => rfl

theorem data_writeAll (group : String) (entries : List (String × List String))
    (store : OverrideStore) :
    (store.writeAll group entries).data = store.data.writeAll group entries := by
  induction entries generalizing store with
  | nil => rfl
  | cons entry rest ih =>
      have behind := ih (store.write group entry.1 entry.2)
      rw [data_write] at behind
      exact behind

end OverrideStore

end SyntaxHighlight
