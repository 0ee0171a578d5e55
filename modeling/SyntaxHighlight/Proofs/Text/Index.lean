/-
Indices of characters and the lines on which they stand. The lines of a text are as long together as
the text, and the place of an index on a line leads back to the index.
-/

import SyntaxHighlight.Proofs.Text.Lines

namespace SyntaxHighlight.Text

theorem splitLines_ne_nil (text : List Char) : splitLines text ≠ [] := by
  apply List.length_pos_iff.mp
  rw [length_splitLines]
  exact length_lineTexts_pos text

theorem lineStart_prependChar (char : Char) {lines : List TextLine} (some : lines ≠ []) :
    lineStart (prependChar char lines) (prependChar char lines).length =
      lineStart lines lines.length + 1 := by
  cases lines with
  | nil => exact absurd rfl some
  | cons line rest =>
      change (line.chars.length + 1 + line.lineBreak.length) + lineStart rest rest.length =
        line.chars.length + line.lineBreak.length + lineStart rest rest.length + 1
      omega

/-- The end of the last line is the end of the text. -/
theorem lineStart_length (text : List Char) :
    lineStart (splitLines text) (splitLines text).length = text.length := by
  fun_induction splitLines text with
  | case1 => rfl
  | case2 rest ih =>
      change 2 + lineStart (splitLines rest) (splitLines rest).length = _
      rw [ih, List.length_cons, List.length_cons, Nat.add_comm]
  | case3 char rest apart breaks ih =>
      change 1 + lineStart (splitLines rest) (splitLines rest).length = _
      rw [ih, List.length_cons, Nat.add_comm]
  | case4 char rest apart plain ih =>
      rw [lineStart_prependChar char (splitLines_ne_nil rest), ih, List.length_cons]

theorem lineStart_add_le {lines : List TextLine} {line : Nat} {found : TextLine}
    (present : lines[line]? = some found) :
    lineStart lines line + found.width ≤ lineStart lines lines.length := by
  induction lines generalizing line with
  | nil => cases present
  | cons first rest ih =>
      rw [List.length_cons, lineStart]
      cases line with
      | zero =>
          cases present
          rw [lineStart_zero, Nat.zero_add]
          exact Nat.le_add_right _ _
      | succ line =>
          rw [lineStart, Nat.add_assoc]
          exact Nat.add_le_add_left (ih present) first.width

/-- An index lies on one of the lines, as far behind its start as its column says. -/
theorem locate_spec {lines : List TextLine} (some : lines ≠ []) (index : Nat) :
    (locate lines index).1 < lines.length ∧
      lineStart lines (locate lines index).1 + (locate lines index).2 = index := by
  fun_induction locate lines index with
  | case1 index => exact absurd rfl some
  | case2 line index =>
      rw [lineStart_zero]
      exact ⟨Nat.one_pos, Nat.zero_add index⟩
  | case3 line next rest index inside =>
      rw [lineStart_zero]
      exact ⟨Nat.succ_pos _, Nat.zero_add index⟩
  | case4 line next rest index beyond number column found ih =>
      obtain ⟨bound, sum⟩ := ih (List.cons_ne_nil next rest)
      rw [found] at bound sum
      dsimp only at sum
      refine ⟨Nat.succ_lt_succ bound, ?_⟩
      change line.width + lineStart (next :: rest) number + column = index
      omega

end SyntaxHighlight.Text
