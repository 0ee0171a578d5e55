/-
Positions and the characters behind which they stand. A position on a line of a document keeps its
place as long as the text in front of it stays, and the order of such positions is that of their
places. No position stands between a carriage return and a line feed: the one that is nearest to
such a place stands in front of both.
-/

import SyntaxHighlight.Proofs.Document.Edit
import SyntaxHighlight.Proofs.Text.Division

namespace SyntaxHighlight

open SyntaxHighlight.Text

namespace Position

variable {one other : Position}

theorem isBefore_eq_true_iff : one.isBefore other = true ↔
    one.line < other.line ∨ one.line = other.line ∧ one.column < other.column := by
  simp only [isBefore, Bool.or_eq_true, Bool.and_eq_true, decide_eq_true_eq, beq_iff_eq]

theorem isBefore_eq_false_iff : one.isBefore other = false ↔
    other.line < one.line ∨ other.line = one.line ∧ other.column ≤ one.column := by
  rw [Bool.eq_false_iff, ne_eq, isBefore_eq_true_iff]
  omega

end Position

namespace Document

/-- A position on a line, with the lines on both sides of that one. -/
structure Lies (document : Document) (position : Position) (before : List TextLine)
    (line : TextLine) (behind : List TextLine) : Prop where
  lines : document.lines = before ++ line :: behind
  number : before.length = position.line
  column : position.column ≤ line.chars.length

variable {document other : Document} {position first last : Position}
  {before behind : List TextLine} {line : TextLine}

theorem joinLines_lines (document : Document) : joinLines document.lines = document.text :=
  joinLines_splitLines document.text

theorem Holds.lies (held : document.Holds position) :
    ∃ before line behind, document.Lies position before line behind := by
  obtain ⟨chars, found, column⟩ := held
  rw [lineTexts, List.getElem?_map, Option.map_eq_some_iff] at found
  obtain ⟨line, found, rfl⟩ := found
  obtain ⟨inside, same⟩ := List.getElem?_eq_some_iff.mp found
  refine ⟨document.lines.take position.line, line, document.lines.drop (position.line + 1), ?_, ?_,
    column⟩
  · rw [← same]
    exact (List.take_append_drop position.line _).symm.trans
      (congrArg _ (List.drop_eq_getElem_cons inside))
  · rw [List.length_take]
    exact Nat.min_eq_left (Nat.le_of_lt inside)

namespace Lies

variable (lies : document.Lies position before line behind)

include lies

theorem areLines : AreLines (before ++ line :: behind) := lies.lines ▸ areLines_splitLines _

theorem text : document.text =
    joinLines before ++ (line.chars ++ (line.lineBreak ++ joinLines behind)) := by
  rw [← joinLines_lines, lies.lines, joinLines_append, joinLines_cons]

theorem line?_eq : document.line? position.line = some line.chars := by
  rw [Document.line?, lies.lines, ← lies.number, List.getElem?_append_right (Nat.le_refl _),
    Nat.sub_self]
  rfl

theorem holds : document.Holds position := ⟨_, document.line?_eq _ ▸ lies.line?_eq, lies.column⟩

theorem charIndex : document.charIndex position = (joinLines before).length + position.column := by
  have start := lineStart_append before (line :: behind) 0
  rw [Nat.add_zero, lineStart_zero, ← lies.lines, lies.number] at start
  rw [Document.charIndex, start]
  rfl

theorem take : document.text.take (document.charIndex position) =
    joinLines before ++ line.chars.take position.column := by
  rw [lies.charIndex, lies.text, List.take_length_add_append,
    List.take_append_of_le_length lies.column]

theorem drop : document.text.drop (document.charIndex position) =
    line.chars.drop position.column ++ (line.lineBreak ++ joinLines behind) := by
  rw [lies.charIndex, lies.text, List.drop_length_add_append,
    List.drop_append_of_le_length lies.column]

/-- The lines of the text in front of a position. -/
theorem splitLines_take : splitLines (document.text.take (document.charIndex position)) =
    before ++ [⟨line.chars.take position.column, []⟩] := by
  have plain := (lies.areLines.of_append (List.cons_ne_nil _ _)).plain.take position.column
  have areLines := lies.areLines.replace (List.cons_ne_nil _ _) (.last _ plain) (by
    rw [← List.nil_append [_], joinLines_last]
    exact plain.not_meets_right)
  rw [lies.take, ← joinLines_last, areLines.splitLines_joinLines]

end Lies

/-- The nearest position is on the same line, at most at its end. -/
theorem lies_clamp (lines : document.lines = before ++ line :: behind)
    (number : before.length = position.line) :
    document.clamp position = ⟨position.line, min position.column line.chars.length⟩ ∧
      document.Lies (document.clamp position) before line behind := by
  have atEnd : document.Lies ⟨position.line, line.chars.length⟩ before line behind :=
    ⟨lines, number, Nat.le_refl _⟩
  have inside := Nat.le_sub_one_of_lt atEnd.holds.line_lt
  have same : document.clamp position =
      ⟨position.line, min position.column line.chars.length⟩ := by
    rw [clamp, lineCount_eq, Nat.min_eq_left inside, lineLength, atEnd.line?_eq, Option.map_some,
      Option.getD_some]
  rw [same]
  exact ⟨rfl, lines, number, Nat.min_le_right _ _⟩

theorem clamp_of_holds (held : document.Holds position) :
    document.clamp position = position := by
  obtain ⟨before, line, behind, lies⟩ := held.lies
  rw [(lies_clamp lies.lines lies.number).1, Nat.min_eq_left lies.column]

/-! ### The order of positions -/

/-- Positions on lines are ordered like the numbers of characters in front of them. -/
theorem isBefore_iff (firstHeld : document.Holds first) (lastHeld : document.Holds last) :
    last.isBefore first = true ↔ document.charIndex last < document.charIndex first := by
  have lineStarts : last.line = first.line →
      lineStart document.lines last.line = lineStart document.lines first.line := congrArg _
  have ordered : document.charIndex last < document.charIndex first → last.line ≤ first.line :=
    fun less => line_le_of_charIndex_le lastHeld firstHeld (Nat.le_of_lt less)
  have reversed : document.charIndex first ≤ document.charIndex last → first.line ≤ last.line :=
    line_le_of_charIndex_le firstHeld lastHeld
  rw [charIndex, charIndex] at ordered reversed ⊢
  rw [Position.isBefore_eq_true_iff]
  omega

/-! ### Texts with the same front -/

/-- A position stays where it is as long as the text in front of it does. -/
theorem Holds.of_front (held : document.Holds position) {behind : List Char}
    (text : other.text = document.text.take (document.charIndex position) ++ behind)
    (apart : ¬Meets (document.text.take (document.charIndex position)) behind) :
    other.Holds position ∧ other.charIndex position = document.charIndex position := by
  obtain ⟨before, line, rest, lies⟩ := held.lies
  obtain ⟨⟨chars, lineBreak⟩, below, split⟩ := List.exists_cons_of_ne_nil (splitLines_ne_nil behind)
  have lines := splitLines_append_of_not_meets lies.splitLines_take split apart
  rw [← text] at lines
  have otherLies : other.Lies position before
      ⟨line.chars.take position.column ++ chars, lineBreak⟩ below := by
    refine ⟨lines, lies.number, ?_⟩
    rw [List.length_append, List.length_take, Nat.min_eq_left lies.column]
    exact Nat.le_add_right _ _
  exact ⟨otherLies.holds, otherLies.charIndex.trans lies.charIndex.symm⟩

/-- Where a line feed comes behind the carriage return in front of a position, this one then stands
behind the line feed. -/
theorem Holds.of_front_meets (held : document.Holds position) {behind : List Char}
    (text : other.text = document.text.take (document.charIndex position) ++ '\n' :: behind)
    (meets : Meets (document.text.take (document.charIndex position)) ('\n' :: behind)) :
    other.Holds position ∧ other.charIndex position = document.charIndex position + 1 := by
  obtain ⟨before, line, rest, lies⟩ := held.lies
  obtain ⟨empty, earlier, chars, parts, lines⟩ :=
    splitLines_append_of_meets lies.splitLines_take meets
  rw [← text] at lines
  have column : position.column = 0 := by
    have length := congrArg List.length empty
    rw [List.length_take, Nat.min_eq_left lies.column] at length
    exact length
  have number := lies.number
  obtain ⟨first, below, split⟩ := List.exists_cons_of_ne_nil (splitLines_ne_nil behind)
  have otherLies : other.Lies position (earlier ++ [⟨chars, ['\r', '\n']⟩]) first below := by
    refine ⟨?_, ?_, ?_⟩
    · rw [Document.lines, lines, split, List.append_assoc, List.singleton_append]
    · rw [← number, parts, List.length_append, List.length_append]
      rfl
    · rw [column]
      exact Nat.zero_le _
  refine ⟨otherLies.holds, ?_⟩
  rw [otherLies.charIndex, lies.charIndex, column, parts, joinLines_append, joinLines_append,
    List.length_append, List.length_append, length_joinLines_cons, length_joinLines_cons]
  rfl

/-! ### The positions of characters -/

/-- The position of the character with an index. -/
def positionOf (document : Document) (index : Nat) : Position :=
  ⟨(locate document.lines index).1, (locate document.lines index).2⟩

theorem positionOf_parts {index : Nat} (inside : index ≤ document.text.length) :
    ∃ before line behind, document.lines = before ++ line :: behind ∧
      before.length = (document.positionOf index).line ∧
      index = (joinLines before).length + (document.positionOf index).column ∧
      (document.positionOf index).column ≤ line.width ∧
      (behind ≠ [] → (document.positionOf index).column < line.width) := by
  rw [← joinLines_lines] at inside
  obtain ⟨before, line, behind, lines, number, rest⟩ :=
    locate_parts (splitLines_ne_nil document.text) inside
  exact ⟨before, line, behind, lines, number.symm, rest⟩

theorem meets_within {text behind : List Char} {place : Nat}
    (drop : text.drop place = '\r' :: '\n' :: behind) :
    Meets (text.take (place + 1)) (text.drop (place + 1)) := by
  have carriage : text[place]? = some '\r' := by
    rw [← List.head?_drop, drop]
    rfl
  rw [List.take_add_one, carriage, ← List.drop_drop, drop]
  exact ⟨List.getLast?_concat, rfl⟩

/-- Behind the end of a line, but in front of the next one, stands only the line feed of a carriage
return. -/
theorem lineBreak_eq_of_between (areLines : AreLines (line :: behind)) {column : Nat}
    (bound : column ≤ line.width) (strict : behind ≠ [] → column < line.width)
    (beyond : line.chars.length < column) :
    line.lineBreak = ['\r', '\n'] ∧ column = line.chars.length + 1 := by
  rw [TextLine.width] at bound strict
  cases areLines with
  | last chars plain => exact absurd beyond (Nat.not_lt.mpr bound)
  | cons chars lineBreak rest plain ends apart areRest =>
      have inside := strict areRest.ne_nil
      rcases ends with rfl | ⟨char, _, rfl⟩
      · exact ⟨rfl, Nat.le_antisymm (Nat.le_of_lt_succ inside) beyond⟩
      · exact absurd inside (Nat.not_lt.mpr beyond)

/-- The position that is nearest to that of a character stands in front of it, or in front of the
line break within which it stands. -/
theorem charIndex_clamp_positionOf {index : Nat} (inside : index ≤ document.text.length) :
    document.charIndex (document.clamp (document.positionOf index)) =
      if Meets (document.text.take index) (document.text.drop index) then index - 1
      else index := by
  obtain ⟨before, line, behind, lines, number, sum, bound, strict⟩ := positionOf_parts inside
  obtain ⟨same, lies⟩ := lies_clamp lines number
  have place := lies.charIndex
  by_cases within : (document.positionOf index).column ≤ line.chars.length
  · rw [Nat.min_eq_left within] at same
    rw [same] at lies place ⊢
    have apart := lies.holds.cuts.2
    have reached := place.trans sum.symm
    rw [reached] at apart
    rw [if_neg apart]
    exact reached
  · have beyond := Nat.lt_of_not_le within
    obtain ⟨both, next⟩ := lineBreak_eq_of_between
      (lies.areLines.of_append (List.cons_ne_nil _ _)) bound strict beyond
    have drop := lies.drop
    rw [same, Nat.min_eq_right (Nat.le_of_lt beyond)] at drop place ⊢
    rw [List.drop_length, both] at drop
    have behindIt : index =
        document.charIndex ⟨(document.positionOf index).line, line.chars.length⟩ + 1 := by
      rw [place, Nat.add_assoc, ← next]
      exact sum
    have meets := meets_within drop
    rw [← behindIt] at meets
    rw [if_pos meets]
    omega

/-- Positions on lines up to a character are not behind its position. -/
theorem not_positionOf_isBefore {index : Nat} (inside : index ≤ document.text.length)
    (held : document.Holds position) (upTo : document.charIndex position ≤ index) :
    (document.positionOf index).isBefore position = false := by
  obtain ⟨before, line, behind, lines, number, sum, bound, strict⟩ := positionOf_parts inside
  have start := lineStart_append before (line :: behind) 0
  rw [Nat.add_zero, lineStart_zero, ← lines, number] at start
  have count := held.line_lt
  rw [← lineCount_eq, lineCount, lines, List.length_append, List.length_cons] at count
  -- A line further down starts behind all characters of this one, its line break included.
  have later (further : (document.positionOf index).line < position.line) :
      index < lineStart document.lines position.line := by
    have next := lineStart_append before (line :: behind)
      (position.line - (document.positionOf index).line - 1 + 1)
    rw [← lines, lineStart, show before.length +
      (position.line - (document.positionOf index).line - 1 + 1) = position.line by omega] at next
    have some : behind ≠ [] := by
      intro none
      rw [none, List.length_nil] at count
      omega
    have less := strict some
    omega
  rw [charIndex] at upTo
  rw [Position.isBefore_eq_false_iff]
  by_cases same : (document.positionOf index).line = position.line
  · rw [same] at start
    omega
  · omega

end Document

end SyntaxHighlight
