/-
Places in a line. What stands before and behind a place is the line, of which the index of the place
tells the parts; going forward takes characters from behind the place to before it.
-/

import Mathlib.Data.List.Basic
import SyntaxHighlight.Text.Place

namespace SyntaxHighlight.Place

/-- The line of a place. -/
def line (place : Place) : List Char := place.before.reverse ++ place.after

theorem drop_line (place : Place) : place.line.drop place.index = place.after := by
  rw [line, index, ← List.length_reverse, List.drop_left]

theorem length_line (place : Place) : place.line.length = place.index + place.after.length := by
  rw [line, index, List.length_append, List.length_reverse]

theorem index_le_length_line (place : Place) : place.index ≤ place.line.length := by
  rw [length_line]
  exact Nat.le_add_right _ _

/-! ### Places further on -/

theorem forward_after (count : Nat) (place : Place) :
    (place.forward count).after = place.after.drop count := by
  induction count generalizing place with
  | zero => simp [forward]
  | succ count ih =>
      obtain ⟨before, after⟩ := place
      cases after with
      | nil => simp [forward]
      | cons char rest => simp [forward, ih]

theorem forward_index {count : Nat} {place : Place} (withinLine : count ≤ place.after.length) :
    (place.forward count).index = place.index + count := by
  induction count generalizing place with
  | zero => simp [forward]
  | succ count ih =>
      obtain ⟨before, after⟩ := place
      cases after with
      | nil => simp at withinLine
      | cons char rest =>
          have next := @ih ⟨char :: before, rest⟩ (Nat.le_of_succ_le_succ withinLine)
          rw [forward, next]
          simp [index]
          omega

theorem forward_parts (count : Nat) (place : Place) :
    (place.forward count).before.reverse ++ (place.forward count).after =
      place.before.reverse ++ place.after := by
  induction count generalizing place with
  | zero => simp [forward]
  | succ count ih =>
      obtain ⟨before, after⟩ := place
      cases after with
      | nil => simp [forward]
      | cons char rest => simp [forward, ih]

/-- Every index of a line is the one of a place. -/
theorem start_forward {line : List Char} {index : Nat} (inLine : index ≤ line.length) :
    ((start line).forward index).line = line ∧ ((start line).forward index).index = index :=
  ⟨forward_parts index (start line), (forward_index inLine).trans (Nat.zero_add index)⟩

end SyntaxHighlight.Place
