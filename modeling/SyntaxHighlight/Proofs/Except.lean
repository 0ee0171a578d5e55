/-
Computations that may fail: when one that goes step by step succeeds, or fails.
-/

import Mathlib.Data.List.Forall2

namespace SyntaxHighlight

/-! ### One step after another -/

theorem bind_eq_ok {ε α β : Type} {first : Except ε α} {next : α → Except ε β} {result : β} :
    (first >>= next) = .ok result ↔ ∃ value, first = .ok value ∧ next value = .ok result := by
  cases first with
  | error error =>
      constructor
      · intro impossible
        cases impossible
      · rintro ⟨value, impossible, _⟩
        cases impossible
  | ok value =>
      constructor
      · intro accepted
        exact ⟨value, rfl, accepted⟩
      · rintro ⟨other, same, accepted⟩
        cases same
        exact accepted

theorem bind_eq_error {ε α β : Type} {first : Except ε α} {next : α → Except ε β} {error : ε} :
    (first >>= next) = .error error ↔
      first = .error error ∨ ∃ value, first = .ok value ∧ next value = .error error := by
  cases first <;> simp [bind, Except.bind]

theorem map_eq_ok {ε α β : Type} {first : Except ε α} {change : α → β} {result : β} :
    (change <$> first) = .ok result ↔ ∃ value, first = .ok value ∧ change value = result := by
  cases first with
  | error error =>
      constructor
      · intro impossible
        cases impossible
      · rintro ⟨value, impossible, _⟩
        cases impossible
  | ok value =>
      constructor
      · intro accepted
        exact ⟨value, rfl, Except.ok.inj accepted⟩
      · rintro ⟨other, same, accepted⟩
        cases same
        exact congrArg Except.ok accepted

theorem eq_ok_of_toOption {ε α : Type} {first : Except ε α} {value : α}
    (accepted : first.toOption = some value) : first = .ok value := by
  cases first with
  | error error => cases accepted
  | ok other => exact congrArg Except.ok (Option.some.inj accepted)

/-! ### Steps for the items of a list -/

theorem mapM_eq_ok_mem {ε α β : Type} {step : α → Except ε β} {items : List α} {results : List β}
    (accepted : items.mapM step = .ok results) {result : β} (member : result ∈ results) :
    ∃ item, item ∈ items ∧ step item = .ok result := by
  induction items generalizing results with
  | nil =>
      cases accepted
      cases member
  | cons head tail ih =>
      rw [List.mapM_cons] at accepted
      obtain ⟨first, firstAccepted, accepted⟩ := bind_eq_ok.mp accepted
      obtain ⟨rest, restAccepted, accepted⟩ := bind_eq_ok.mp accepted
      cases accepted
      rcases List.mem_cons.mp member with same | later
      · subst same
        exact ⟨head, List.mem_cons_self, firstAccepted⟩
      · obtain ⟨item, itemMember, itemAccepted⟩ := ih restAccepted later
        exact ⟨item, List.mem_cons_of_mem head itemMember, itemAccepted⟩

theorem mapM_eq_ok_of_mem {ε α β : Type} {step : α → Except ε β} {items : List α}
    {results : List β} (accepted : items.mapM step = .ok results) {item : α}
    (member : item ∈ items) : ∃ result ∈ results, step item = .ok result := by
  induction items generalizing results with
  | nil => cases member
  | cons head tail ih =>
      rw [List.mapM_cons] at accepted
      obtain ⟨first, firstAccepted, accepted⟩ := bind_eq_ok.mp accepted
      obtain ⟨rest, restAccepted, accepted⟩ := bind_eq_ok.mp accepted
      cases accepted
      rcases List.mem_cons.mp member with same | later
      · exact ⟨first, List.mem_cons_self, same ▸ firstAccepted⟩
      · obtain ⟨result, resultMember, resultAccepted⟩ := ih restAccepted later
        exact ⟨result, List.mem_cons_of_mem first resultMember, resultAccepted⟩

theorem exists_mapM_eq_ok {ε α β : Type} {step : α → Except ε β} {items : List α}
    (each : ∀ item ∈ items, ∃ result, step item = .ok result) :
    ∃ results, items.mapM step = .ok results := by
  induction items with
  | nil => exact ⟨[], rfl⟩
  | cons head tail ih =>
      obtain ⟨own, later⟩ := List.forall_mem_cons.mp each
      obtain ⟨first, firstAccepted⟩ := own
      obtain ⟨rest, restAccepted⟩ := ih later
      refine ⟨first :: rest, ?_⟩
      rw [List.mapM_cons, firstAccepted, restAccepted]
      rfl

theorem mapM_forall₂ {ε α β : Type} {step : α → Except ε β} {relation : α → β → Prop}
    {items : List α} {results : List β} (accepted : items.mapM step = .ok results)
    (each : ∀ item ∈ items, ∀ result, step item = .ok result → relation item result) :
    List.Forall₂ relation items results := by
  induction items generalizing results with
  | nil =>
      cases accepted
      exact .nil
  | cons item rest ih =>
      rw [List.mapM_cons] at accepted
      obtain ⟨first, firstAccepted, accepted⟩ := bind_eq_ok.mp accepted
      obtain ⟨later, laterAccepted, accepted⟩ := bind_eq_ok.mp accepted
      cases accepted
      obtain ⟨own, restEach⟩ := List.forall_mem_cons.mp each
      exact .cons (own first firstAccepted) (ih laterAccepted restEach)

end SyntaxHighlight
