/-
What edits do to a text, and what they leave alone. The characters between two places are replaced,
no others. Where a carriage return and a line feed come to stand side by side they are one line
break, and no position is between them any more.
-/

import SyntaxHighlight.Proofs.Document.Checked
import SyntaxHighlight.Proofs.Document.Position

namespace SyntaxHighlight

open SyntaxHighlight.Text

/-! ### Positions in order -/

namespace Position

/-- The one of two positions that does not lie behind the other one. -/
def earlier (one other : Position) : Position := if other.isBefore one then other else one

def later (one other : Position) : Position := if other.isBefore one then one else other

variable {one other : Position}

theorem earlier_of_not_isBefore (ordered : other.isBefore one = false) : one.earlier other = one :=
  if_neg (Bool.eq_false_iff.mp ordered)

theorem later_of_not_isBefore (ordered : other.isBefore one = false) : one.later other = other :=
  if_neg (Bool.eq_false_iff.mp ordered)

theorem isBefore_asymm (before : one.isBefore other = true) : other.isBefore one = false := by
  rw [isBefore_eq_true_iff] at before
  rw [isBefore_eq_false_iff]
  omega

theorem eq_of_not_isBefore (ordered : other.isBefore one = false)
    (reversed : one.isBefore other = false) : one = other := by
  rw [isBefore_eq_false_iff] at ordered reversed
  obtain ⟨line, column⟩ := one
  obtain ⟨otherLine, otherColumn⟩ := other
  rw [mk.injEq]
  dsimp only at ordered reversed
  omega

theorem not_later_isBefore_earlier (one other : Position) :
    (one.later other).isBefore (one.earlier other) = false := by
  cases before : other.isBefore one with
  | true =>
      rw [earlier, later, before, if_pos rfl, if_pos rfl]
      exact isBefore_asymm before
  | false => rw [earlier_of_not_isBefore before, later_of_not_isBefore before, before]

/-- The order of two positions does not depend on which one is named first. -/
theorem inOrder_comm (one other : Position) :
    one.earlier other = other.earlier one ∧ one.later other = other.later one := by
  cases before : other.isBefore one with
  | true =>
      have after := isBefore_asymm before
      rw [earlier, later, before, if_pos rfl, if_pos rfl, earlier_of_not_isBefore after,
        later_of_not_isBefore after]
      exact ⟨rfl, rfl⟩
  | false =>
      rw [earlier_of_not_isBefore before, later_of_not_isBefore before]
      cases reversed : one.isBefore other with
      | true =>
          rw [earlier, later, reversed, if_pos rfl, if_pos rfl]
          exact ⟨rfl, rfl⟩
      | false =>
          rw [eq_of_not_isBefore before reversed, earlier, later, ite_self]
          exact ⟨rfl, rfl⟩

end Position

namespace Document

variable {document : Document} {first last position : Position} {one other text : List Char}

/-! ### The text after an edit -/

theorem replace?_text (ordered : document.charIndex first ≤ document.charIndex last)
    (text : List Char) :
    ∃ after, document.replace? first last text =
        some (after, after.positionOf (document.charIndex first + text.length)) ∧
      after.text = document.text.take (document.charIndex first) ++ text ++
        document.text.drop (document.charIndex last) := by
  have same (document : Document) (first last validEnd index : Nat) :
      document.positionOf index = (document.cascade first last validEnd).positionOf index := by
    rw [positionOf, positionOf, lines, lines, cascade_text]
  rw [replace?, if_neg (Nat.not_lt_of_le ordered)]
  exact ⟨_, congrArg some (Prod.ext rfl (same _ _ _ _ _)), cascade_text _ _ _ _⟩

def textBefore (document : Document) (position : Position) : List Char :=
  document.text.take (document.charIndex position)

def textBehind (document : Document) (position : Position) : List Char :=
  document.text.drop (document.charIndex position)

theorem textBefore_append_textBehind (document : Document) (position : Position) :
    document.textBefore position ++ document.textBehind position = document.text :=
  List.take_append_drop _ _

theorem Holds.length_textBefore (held : document.Holds position) :
    (document.textBefore position).length = document.charIndex position := by
  rw [textBefore, List.length_take]
  exact Nat.min_eq_left held.charIndex_le

theorem length_textBehind (document : Document) (position : Position) :
    (document.textBehind position).length =
      document.text.length - document.charIndex position :=
  List.length_drop

theorem Holds.not_meets (held : document.Holds position) :
    ¬Meets (document.textBefore position) (document.textBehind position) :=
  held.cuts.2

theorem insertText?_text (document : Document) (position : Position) (text : List Char) :
    ∃ after, document.insertText? position text =
        some (after, after.positionOf
          (document.charIndex (document.clamp position) + text.length)) ∧
      after.text = document.textBefore (document.clamp position) ++ text ++
        document.textBehind (document.clamp position) :=
  replace?_text (Nat.le_refl _) text

/-- The start of the range between two positions, which are put in order before they are moved into
the text. -/
def rangeStart (document : Document) (one other : Position) : Position :=
  document.clamp (one.earlier other)

def rangeEnd (document : Document) (one other : Position) : Position :=
  document.clamp (one.later other)

theorem removeText?_eq (document : Document) (one other : Position) :
    document.removeText? one other =
      (document.replace? (document.rangeStart one other) (document.rangeEnd one other) []).map
        Prod.fst := by
  unfold removeText? rangeStart rangeEnd Position.earlier Position.later
  cases other.isBefore one with
  | true => rfl
  | false => rfl

theorem removeText?_text {one other : Position}
    (ordered : document.charIndex (document.rangeStart one other) ≤
      document.charIndex (document.rangeEnd one other)) :
    ∃ after, document.removeText? one other = some after ∧
      after.text = document.textBefore (document.rangeStart one other) ++
        document.textBehind (document.rangeEnd one other) := by
  obtain ⟨after, made, text⟩ := replace?_text ordered []
  refine ⟨after, ?_, text.trans (by rw [List.append_nil]; rfl)⟩
  rw [removeText?_eq, made, Option.map_some]

/-! ### Insertions -/

section Insertion

theorem append_singleton_eq_cons_iff (text : List Char) (char : Char) :
    text ++ [char] = char :: text ↔ ∀ other ∈ text, other = char := by
  induction text with
  | nil => simp
  | cons first rest ih =>
      rw [List.cons_append, List.cons.injEq, List.forall_mem_cons, ← ih]
      constructor
      · rintro ⟨rfl, same⟩
        exact ⟨rfl, same⟩
      · rintro ⟨rfl, same⟩
        exact ⟨rfl, same⟩

/-- What stands behind an insertion goes on a line break only if the inserted text does. -/
theorem meets_insertion_iff (apart : ¬Meets one other) :
    Meets (one ++ text) other ↔ Meets text other := by
  cases text with
  | nil =>
      rw [List.append_nil]
      exact ⟨fun meets => absurd meets apart, fun meets => absurd meets not_meets_nil_left⟩
  | cons char chars => exact meets_append_left (List.cons_ne_nil char chars)

/-- A text holds the characters that form line breaks with other texts. -/
theorem seams_le_length (one text other : List Char) :
    (if Meets one text then 1 else 0) + (if Meets text other then 1 else 0) ≤ text.length := by
  match text with
  | [] =>
      rw [if_neg not_meets_nil_right, if_neg not_meets_nil_left]
      exact Nat.le_refl _
  | [char] =>
      by_cases feed : Meets one [char]
      · rw [if_pos feed, if_neg]
        · exact Nat.le_refl _
        · rintro ⟨carriage, _⟩
          cases Option.some.inj carriage
          cases Option.some.inj feed.2
      · rw [if_neg feed, Nat.zero_add]
        split
        · exact Nat.le_refl _
        · exact Nat.zero_le _
  | char :: next :: rest =>
      rw [List.length_cons, List.length_cons]
      split <;> split <;> omega

section Inserted

variable {inserted : Document} (held : document.Holds position)
  (result : inserted.text = document.textBefore position ++ text ++ document.textBehind position)

include held result

theorem Holds.length_inserted :
    inserted.text.length =
      document.charIndex position + text.length + (document.textBehind position).length := by
  rw [result, List.length_append, List.length_append, held.length_textBefore]

theorem Holds.take_inserted :
    inserted.text.take (document.charIndex position + text.length) =
        document.textBefore position ++ text ∧
      inserted.text.drop (document.charIndex position + text.length) =
        document.textBehind position := by
  have length : (document.textBefore position ++ text).length =
      document.charIndex position + text.length := by
    rw [List.length_append, held.length_textBefore]
  rw [result]
  exact ⟨List.take_left' length, List.drop_left' length⟩

/-- The position of an insertion stays in front of the text, unless that begins with the line feed
of a carriage return. -/
theorem Holds.charIndex_inserted :
    inserted.Holds position ∧ inserted.charIndex position =
      document.charIndex position + if Meets (document.textBefore position) text then 1 else 0 := by
  rw [List.append_assoc] at result
  by_cases meets : Meets (document.textBefore position) text
  · obtain ⟨rest, rfl⟩ := List.head?_eq_some_iff.mp meets.2
    rw [if_pos meets]
    exact held.of_front_meets result ⟨meets.1, rfl⟩
  · have apart : ¬Meets (document.textBefore position)
        (text ++ document.textBehind position) := by
      by_cases none : text = []
      · rw [none]
        exact held.not_meets
      · rw [meets_append_right none]
        exact meets
    rw [if_neg meets]
    exact held.of_front result apart

/-- The position behind an insertion stands in front of the carriage return with which the text
ends, if a line feed stands behind this one. -/
theorem Holds.charIndex_behind_inserted :
    inserted.charIndex (inserted.clamp
        (inserted.positionOf (document.charIndex position + text.length))) =
      document.charIndex position + text.length -
        if Meets text (document.textBehind position) then 1 else 0 := by
  obtain ⟨front, behind⟩ := held.take_inserted result
  have inside : document.charIndex position + text.length ≤ inserted.text.length := by
    rw [held.length_inserted result]
    exact Nat.le_add_right _ _
  have place := charIndex_clamp_positionOf inside
  rw [front, behind, if_congr (meets_insertion_iff held.not_meets) rfl rfl] at place
  rw [place]
  split
  · rfl
  · rfl

/-- Text that is inserted behind an insertion comes behind it, or in front of the carriage return
with which that ends. -/
theorem Holds.insert_behind_inserted (other : List Char) :
    ∃ continued place, inserted.insertText?
        (inserted.positionOf (document.charIndex position + text.length)) other =
          some (continued, place) ∧
      (continued.text =
          document.textBefore position ++ (text ++ other) ++ document.textBehind position ↔
        (Meets text (document.textBehind position) → ∀ char ∈ other, char = '\r')) := by
  obtain ⟨continued, made, continuedText⟩ := insertText?_text inserted
    (inserted.positionOf (document.charIndex position + text.length)) other
  obtain ⟨front, behind⟩ := held.take_inserted result
  refine ⟨continued, _, made, ?_⟩
  rw [continuedText, textBefore, textBehind, held.charIndex_behind_inserted result]
  by_cases meets : Meets text (document.textBehind position)
  · obtain ⟨chars, rfl⟩ := List.getLast?_eq_some_iff.mp meets.1
    have place : document.charIndex position + (chars ++ ['\r']).length - 1 =
        (document.textBefore position ++ chars).length := by
      rw [List.length_append, List.length_append, held.length_textBefore, List.length_singleton]
      rfl
    have parts : inserted.text =
        (document.textBefore position ++ chars) ++ '\r' :: document.textBehind position := by
      rw [result]
      simp only [List.append_assoc, List.singleton_append]
    have whole : document.textBefore position ++ (chars ++ ['\r'] ++ other) ++
        document.textBehind position =
          (document.textBefore position ++ chars) ++
            ('\r' :: other ++ document.textBehind position) := by
      simp only [List.append_assoc, List.cons_append, List.nil_append]
    have between : (document.textBefore position ++ chars) ++ other ++
        '\r' :: document.textBehind position =
          (document.textBefore position ++ chars) ++
            (other ++ ['\r'] ++ document.textBehind position) := by
      simp only [List.append_assoc, List.singleton_append]
    -- The other text stands in front of the carriage return, where it belongs behind that one.
    rw [if_pos meets, place, parts, List.take_left, List.drop_left, whole, between,
      List.append_cancel_left_eq, List.append_cancel_right_eq, append_singleton_eq_cons_iff]
    exact ⟨fun same _ => same, fun same => same meets⟩
  · rw [if_neg meets, Nat.sub_zero, front, behind, List.append_assoc _ text other]
    exact ⟨fun _ both => absurd both meets, fun _ => rfl⟩

/-- The removal of an insertion restores the text, unless that has formed a line break with the
text on either side. -/
theorem Holds.remove_inserted :
    ∃ removed, inserted.removeText? position
        (inserted.positionOf (document.charIndex position + text.length)) = some removed ∧
      (removed.text = document.text ↔
        ¬Meets (document.textBefore position) text ∧
          ¬Meets text (document.textBehind position)) := by
  obtain ⟨stays, start⟩ := held.charIndex_inserted result
  have stop := held.charIndex_behind_inserted result
  have total := held.length_inserted result
  have seams := seams_le_length (document.textBefore position) text
    (document.textBehind position)
  have inside : document.charIndex position + text.length ≤ inserted.text.length := by
    omega
  have inOrder : (inserted.positionOf (document.charIndex position + text.length)).isBefore
      position = false :=
    not_positionOf_isBefore inside stays (by omega)
  have earlier : inserted.rangeStart position
      (inserted.positionOf (document.charIndex position + text.length)) = position := by
    rw [rangeStart, Position.earlier_of_not_isBefore inOrder, clamp_of_holds stays]
  have later : inserted.rangeEnd position
      (inserted.positionOf (document.charIndex position + text.length)) =
        inserted.clamp (inserted.positionOf (document.charIndex position + text.length)) := by
    rw [rangeEnd, Position.later_of_not_isBefore inOrder]
  obtain ⟨removed, made, rest⟩ := removeText?_text (by
    rw [earlier, later, start, stop]
    omega)
  refine ⟨removed, made, ?_⟩
  rw [earlier, later] at rest
  constructor
  · -- Each line break that forms leaves the text one character longer than it was.
    intro same
    have length := congrArg List.length rest
    rw [same, ← document.textBefore_append_textBehind position, List.length_append,
      List.length_append, held.length_textBefore, stays.length_textBefore,
      length_textBehind inserted, start, stop] at length
    constructor
    · intro meets
      rw [if_pos meets] at length seams
      omega
    · intro meets
      rw [if_pos meets] at length seams
      omega
  · rintro ⟨apartBefore, apartBehind⟩
    obtain ⟨_, behind⟩ := held.take_inserted result
    rw [if_neg apartBefore, Nat.add_zero] at start
    rw [if_neg apartBehind, Nat.sub_zero] at stop
    rw [rest, textBefore, textBehind, start, stop, behind, result, List.append_assoc,
      List.take_left' held.length_textBefore, textBefore_append_textBehind]

end Inserted

/-- Two texts that are inserted one behind the other are as good as both at once, and an insertion
that is removed leaves nothing, as long as the first text forms no line break with what stands at
its ends. -/
theorem insertText?_insertText?_removeText? (document : Document) (position : Position)
    (one other : List Char) :
    ∃ inserted place continued placeBehind whole placeOfWhole removed,
      document.insertText? position one = some (inserted, place) ∧
      inserted.insertText? place other = some (continued, placeBehind) ∧
      document.insertText? position (one ++ other) = some (whole, placeOfWhole) ∧
      inserted.removeText? (document.clamp position) place = some removed ∧
      (continued.text = whole.text ↔
        (Meets one (document.textBehind (document.clamp position)) →
          ∀ char ∈ other, char = '\r')) ∧
      (removed.text = document.text ↔
        ¬Meets (document.textBefore (document.clamp position)) one ∧
          ¬Meets one (document.textBehind (document.clamp position))) := by
  have held := clamp_holds document position
  obtain ⟨inserted, made, result⟩ := insertText?_text document position one
  obtain ⟨whole, madeWhole, wholeText⟩ := insertText?_text document position (one ++ other)
  obtain ⟨continued, _, continues, sameText⟩ := held.insert_behind_inserted result other
  obtain ⟨removed, removes, restores⟩ := held.remove_inserted result
  rw [← wholeText] at sameText
  exact ⟨inserted, _, continued, _, whole, _, removed, made, continues, madeWhole, removes,
    sameText, restores⟩

/-- Behind a carriage return in front of a line feed there is no position at which the next text
could be inserted, or up to which the first one could be removed. -/
theorem insertText?_insertText?_removeText?_beforeFeed :
    ∃ inserted place continued placeBehind whole placeOfWhole removed,
      (ofText ['\n'] .plain).insertText? ⟨0, 0⟩ ['\r'] = some (inserted, place) ∧
      inserted.insertText? place ['x'] = some (continued, placeBehind) ∧
      (ofText ['\n'] .plain).insertText? ⟨0, 0⟩ (['\r'] ++ ['x']) = some (whole, placeOfWhole) ∧
      inserted.removeText? ((ofText ['\n'] .plain).clamp ⟨0, 0⟩) place = some removed ∧
      continued.text ≠ whole.text ∧ removed.text ≠ ['\n'] := by
  refine ⟨ofText ['\r', '\n'] .plain, ⟨0, 1⟩, ofText ['x', '\r', '\n'] .plain, ⟨0, 1⟩,
    ofText ['\r', 'x', '\n'] .plain, ⟨1, 1⟩, ofText ['\r', '\n'] .plain, ?_, ?_, ?_, ?_, ?_, ?_⟩
  · cbv
  · cbv
  · cbv
  · cbv
  · decide
  · decide

end Insertion

/-! ### Removals -/

section Removal

/-- The ends of a range change their order only if both are moved to the last line. -/
theorem rangeEnd_isBefore_rangeStart_iff (document : Document) (one other : Position) :
    (document.rangeEnd one other).isBefore (document.rangeStart one other) = true ↔
      (document.rangeStart one other).line + 1 = document.lineCount ∧
        (document.rangeEnd one other).line + 1 = document.lineCount ∧
        (document.rangeEnd one other).column < (document.rangeStart one other).column := by
  have positive := length_lineTexts_pos document.text
  rw [← lineCount_eq] at positive
  have ordered := Position.not_later_isBefore_earlier one other
  rw [Position.isBefore_eq_false_iff] at ordered
  rw [Position.isBefore_eq_true_iff]
  dsimp only [rangeStart, rangeEnd, clamp]
  by_cases same : (one.earlier other).line = (one.later other).line
  · rw [same] at ordered ⊢
    generalize document.lineLength _ = length
    omega
  · generalize document.lineLength (min (one.later other).line _) = endLength
    generalize document.lineLength _ = startLength
    omega

/-- The removal of a range does not depend on which end is named first. It has no answer if moving
the ends into the text has changed their order, which only happens on the last line; otherwise it
leaves what stands in front of the range and behind it. -/
theorem removeTextChecked?_range (text : List Char) (mode : Mode) (operations : List Operation)
    (document : Document) (ran : (ofText text mode).run? operations = some document)
    (one other : Position) :
    document.removeTextChecked? one other = document.removeTextChecked? other one ∧
      (document.removeTextChecked? one other = none ↔
        (document.rangeEnd one other).isBefore (document.rangeStart one other) = true) ∧
      ((document.rangeEnd one other).isBefore (document.rangeStart one other) = true ↔
        (document.rangeStart one other).line + 1 = document.lineCount ∧
          (document.rangeEnd one other).line + 1 = document.lineCount ∧
          (document.rangeEnd one other).column < (document.rangeStart one other).column) ∧
      ((document.rangeEnd one other).isBefore (document.rangeStart one other) = false →
        ∃ after, document.removeTextChecked? one other = some after ∧
          after.text = document.text.take
              (document.charIndex (document.rangeStart one other)) ++
            document.text.drop (document.charIndex (document.rangeEnd one other))) := by
  have checked := removeTextChecked?_eq (isOrderly_of_run? ran).length
  have start : document.Holds (document.rangeStart one other) := clamp_holds _ _
  have stop : document.Holds (document.rangeEnd one other) := clamp_holds _ _
  have before := isBefore_iff start stop
  rw [checked one other, checked other one]
  refine ⟨?_, ?_, rangeEnd_isBefore_rangeStart_iff document one other, ?_⟩
  · obtain ⟨earlier, later⟩ := one.inOrder_comm other
    rw [removeText?_eq, removeText?_eq, rangeStart, rangeEnd, earlier, later]
    rfl
  · rw [removeText?_eq, Option.map_eq_none_iff, before, replace?]
    split
    · rename_i reversed
      exact ⟨fun _ => reversed, fun _ => rfl⟩
    · rename_i inOrder
      exact ⟨fun none => absurd none (Option.some_ne_none _),
        fun reversed => absurd reversed inOrder⟩
  · intro inOrder
    rw [Bool.eq_false_iff, ne_eq, before, Nat.not_lt] at inOrder
    exact removeText?_text inOrder

theorem removeTextChecked?_range_shortLastLine :
    ∃ document, (ofText ['a', 'b', '\r', 'c', 'd'] .plain).run?
        [.insertText ⟨1, 1⟩ ['x', 'y']] = some document ∧
      (document.removeTextChecked? ⟨9, 0⟩ ⟨1, 3⟩ = none ↔
        (document.rangeEnd ⟨9, 0⟩ ⟨1, 3⟩).isBefore (document.rangeStart ⟨9, 0⟩ ⟨1, 3⟩) = true) ∧
      (document.rangeEnd ⟨9, 0⟩ ⟨0, 1⟩).isBefore (document.rangeStart ⟨9, 0⟩ ⟨0, 1⟩) = false ∧
      ∃ after, document.removeTextChecked? ⟨9, 0⟩ ⟨0, 1⟩ = some after := by
  have runs : ((ofText ['a', 'b', '\r', 'c', 'd'] .plain).run?
      [.insertText ⟨1, 1⟩ ['x', 'y']]).map (·.text) =
        some ['a', 'b', '\r', 'c', 'x', 'y', 'd'] := by
    cbv
  obtain ⟨document, ran, text⟩ := Option.map_eq_some_iff.mp runs
  obtain ⟨_, fails, _, _⟩ := removeTextChecked?_range _ _ _ document ran ⟨9, 0⟩ ⟨1, 3⟩
  obtain ⟨_, _, _, removes⟩ := removeTextChecked?_range _ _ _ document ran ⟨9, 0⟩ ⟨0, 1⟩
  have inOrder : (document.rangeEnd ⟨9, 0⟩ ⟨0, 1⟩).isBefore
      (document.rangeStart ⟨9, 0⟩ ⟨0, 1⟩) = false := by
    simp only [rangeEnd, rangeStart, clamp, lineLength, line?, lineCount, lines, text]
    decide
  obtain ⟨after, made, _⟩ := removes inOrder
  exact ⟨document, ran, fails, inOrder, after, made⟩

end Removal

end Document

end SyntaxHighlight
