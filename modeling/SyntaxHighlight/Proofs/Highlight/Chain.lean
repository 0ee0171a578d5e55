/-
Lines that are highlighted one after another. What is found on a line depends on the state at its
start, on the line, and on whether another line follows; so the highlights behind a line depend on
the state at its end and on the lines behind it only.
-/

import SyntaxHighlight.Highlight.Line

namespace SyntaxHighlight.Mode

variable (mode : Mode) (state : LineState)

theorem length_lineHighlights (lines : List (List Char)) :
    (mode.lineHighlights state lines).length = lines.length := by
  induction lines generalizing state with
  | nil => rfl
  | cons line rest ih =>
      rw [lineHighlights, List.length_cons, List.length_cons, ih]

theorem lineHighlights_first (lines : List (List Char)) :
    (mode.lineHighlights state lines)[0]? =
      (lines[0]?).map fun line => mode.highlightLine state line (lines[1]?).isSome := by
  cases lines with
  | nil => rfl
  | cons line rest =>
      cases rest with
      | nil => rfl
      | cons next others => rfl

variable {mode state}

/-- What follows a line is highlighted from the state at its end. -/
theorem lineHighlights_drop {lines : List (List Char)} {line : Nat} {highlight : LineHighlight}
    (known : (mode.lineHighlights state lines)[line]? = some highlight) :
    (mode.lineHighlights state lines).drop (line + 1) =
      mode.lineHighlights highlight.state (lines.drop (line + 1)) := by
  induction lines generalizing state line with
  | nil => cases known
  | cons first rest ih =>
      cases line with
      | zero =>
          cases known
          rfl
      | succ line => exact ih known

theorem lineHighlights_next {lines : List (List Char)} {line : Nat} {highlight : LineHighlight}
    (known : (mode.lineHighlights state lines)[line]? = some highlight) :
    (mode.lineHighlights state lines)[line + 1]? =
      (lines[line + 1]?).map fun next =>
        mode.highlightLine highlight.state next (lines[line + 2]?).isSome := by
  have behind := lineHighlights_first mode highlight.state (lines.drop (line + 1))
  rw [← lineHighlights_drop known, List.getElem?_drop, List.getElem?_drop,
    List.getElem?_drop] at behind
  exact behind

/-- Where lines end in one state and the same lines follow, the same highlights follow. -/
theorem lineHighlights_drop_eq {lines others : List (List Char)} {line other : Nat}
    (inside : line < lines.length)
    (same : ((mode.lineHighlights state lines)[line]?).map (·.state) =
      ((mode.lineHighlights state others)[other]?).map (·.state))
    (behind : lines.drop (line + 1) = others.drop (other + 1)) :
    (mode.lineHighlights state lines).drop (line + 1) =
      (mode.lineHighlights state others).drop (other + 1) := by
  rw [← length_lineHighlights mode state] at inside
  have known := List.getElem?_eq_getElem inside
  rw [known] at same
  cases found : (mode.lineHighlights state others)[other]? with
  | none =>
      rw [found] at same
      cases same
  | some highlight =>
      rw [found] at same
      have states := Option.some.inj same
      dsimp only at states
      rw [lineHighlights_drop known, lineHighlights_drop found, behind, states]

/-- Highlights of lines do not depend on which lines follow, provided that some do. -/
theorem lineHighlights_take (before : List (List Char)) {one other : List (List Char)}
    (oneFollows : one ≠ []) (otherFollows : other ≠ []) :
    (mode.lineHighlights state (before ++ one)).take before.length =
      (mode.lineHighlights state (before ++ other)).take before.length := by
  induction before generalizing state with
  | nil => rfl
  | cons line rest ih =>
      have follows : ∀ {lines : List (List Char)}, lines ≠ [] →
          (!(rest ++ lines).isEmpty) = true := by
        intro lines nonempty
        rw [List.isEmpty_eq_false_iff.mpr (List.append_ne_nil_of_right_ne_nil rest nonempty)]
        rfl
      rw [List.cons_append, List.cons_append, lineHighlights, lineHighlights, follows oneFollows,
        follows otherFollows]
      simp only [List.length_cons, List.take_succ_cons, ih]

end SyntaxHighlight.Mode
