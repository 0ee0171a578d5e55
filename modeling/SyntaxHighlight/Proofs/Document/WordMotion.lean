/-
Motion by words gets on and stays in the text. Wherever it starts, in the text or not, it comes to
a position of the text behind the one that is nearest to its start, or before it on the way left,
until it is at the edge of the text. It reads characters that are there and no others: when every
access is checked, the same positions come out.
-/

import Mathlib.Logic.Function.Iterate
import Mathlib.Order.RelClasses
import SyntaxHighlight.Proofs.Document.Position

namespace SyntaxHighlight.WordSource

open SyntaxHighlight.Text

/-! ### Runs of characters -/

section Runs

variable {p : Nat → Char → Bool} {chars : List Char} {first last column : Nat} {char : Char}

/-- The characters of a line from one column up to another satisfy a predicate. -/
def Covers (p : Nat → Char → Bool) (chars : List Char) (first last : Nat) : Prop :=
  ∀ column, first ≤ column → column < last →
    ∃ char, chars[column]? = some char ∧ p column char = true

/-- A run of characters that goes on to the right as far as it can. -/
structure RunsUpTo (p : Nat → Char → Bool) (chars : List Char) (first last : Nat) : Prop where
  ordered : first ≤ last
  covers : Covers p chars first last
  stops : ∀ char, chars[last]? = some char → p last char = false

/-- A run of characters that goes on to the left as far as it can. -/
structure RunsFrom (p : Nat → Char → Bool) (chars : List Char) (first last : Nat) : Prop where
  ordered : first ≤ last
  covers : Covers p chars first last
  stops : ∀ column char, first = column + 1 → chars[column]? = some char → p column char = false

theorem Covers.refl : Covers p chars column column := by
  intro other behind before
  omega

theorem Covers.le_length (covers : Covers p chars first last) (inside : first ≤ chars.length) :
    last ≤ chars.length := by
  by_cases empty : last ≤ first
  · exact Nat.le_trans empty inside
  · obtain ⟨char, present, _⟩ := covers (last - 1) (by omega) (by omega)
    have bound := (List.getElem?_eq_some_iff.mp present).1
    omega

theorem RunsUpTo.refl (stops : ∀ char, chars[column]? = some char → p column char = false) :
    RunsUpTo p chars column column where
  ordered := Nat.le_refl column
  covers := .refl
  stops := stops

theorem RunsUpTo.cons (present : chars[first]? = some char) (satisfied : p first char = true)
    (run : RunsUpTo p chars (first + 1) last) : RunsUpTo p chars first last where
  ordered := Nat.le_of_succ_le run.ordered
  covers := by
    intro column behind before
    rcases Nat.lt_or_eq_of_le behind with further | rfl
    · exact run.covers column further before
    · exact ⟨char, present, satisfied⟩
  stops := run.stops

theorem RunsUpTo.lt (run : RunsUpTo p chars first last) (present : chars[first]? = some char)
    (satisfied : p first char = true) : first < last := by
  apply Nat.lt_of_le_of_ne run.ordered
  rintro rfl
  rw [run.stops char present] at satisfied
  cases satisfied

theorem RunsFrom.refl
    (stops : ∀ column char, first = column + 1 → chars[column]? = some char →
      p column char = false) : RunsFrom p chars first first where
  ordered := Nat.le_refl first
  covers := .refl
  stops := stops

theorem RunsFrom.concat (present : chars[last]? = some char) (satisfied : p last char = true)
    (run : RunsFrom p chars first last) : RunsFrom p chars first (last + 1) where
  ordered := Nat.le_succ_of_le run.ordered
  covers := by
    intro column behind before
    rcases Nat.lt_or_eq_of_le (Nat.le_of_lt_succ before) with inside | rfl
    · exact run.covers column behind inside
    · exact ⟨char, present, satisfied⟩
  stops := run.stops

/-- No run to the left begins before one that goes as far as it can. -/
theorem RunsFrom.le_of_covers {other : Nat} (run : RunsFrom p chars first last)
    (covers : Covers p chars other last) : first ≤ other := by
  apply Nat.le_of_not_lt
  intro further
  have bound := run.ordered
  obtain ⟨char, present, satisfied⟩ := covers (first - 1) (by omega) (by omega)
  rw [run.stops (first - 1) char (by omega) present] at satisfied
  cases satisfied

theorem RunsFrom.eq {other : Nat} (run : RunsFrom p chars first last)
    (otherRun : RunsFrom p chars other last) : first = other :=
  Nat.le_antisymm (run.le_of_covers otherRun.covers) (otherRun.le_of_covers run.covers)

theorem RunsFrom.lt (run : RunsFrom p chars first (column + 1))
    (present : chars[column]? = some char) (satisfied : p column char = true) :
    first < column + 1 := by
  apply Nat.lt_of_le_of_ne run.ordered
  intro same
  rw [run.stops column char same present] at satisfied
  cases satisfied

theorem runRight_isRun (p : Nat → Char → Bool) (chars : List Char) (column : Nat) :
    RunsUpTo p chars column (column + runRight p column (chars.drop column)) := by
  generalize behind : chars.drop column = rest
  induction rest generalizing column with
  | nil =>
      apply RunsUpTo.refl
      intro char present
      rw [← List.head?_drop, behind] at present
      cases present
  | cons char rest ih =>
      have present : chars[column]? = some char := by
        rw [← List.head?_drop, behind]
        rfl
      rw [runRight]
      split
      · rename_i satisfied
        have next := ih (column + 1) (by rw [← List.tail_drop, behind]; rfl)
        rw [Nat.add_right_comm] at next
        exact next.cons present satisfied
      · rename_i stopped
        apply RunsUpTo.refl
        intro other otherPresent
        cases present.symm.trans otherPresent
        exact Bool.eq_false_iff.mpr stopped

theorem reverse_take_succ (present : chars[column]? = some char) :
    (chars.take (column + 1)).reverse = char :: (chars.take column).reverse := by
  rw [List.take_add_one, present, List.reverse_append]
  rfl

theorem runLeft_isRun (p : Nat → Char → Bool) (inside : column ≤ chars.length) :
    RunsFrom p chars (column - runLeft p column (chars.take column).reverse) column := by
  induction column with
  | zero =>
      apply RunsFrom.refl
      intro column char same
      cases same
  | succ column ih =>
      have present : chars[column]? = some chars[column] := List.getElem?_eq_getElem inside
      rw [reverse_take_succ present, runLeft, Nat.add_sub_cancel]
      split
      · rename_i satisfied
        rw [Nat.add_sub_add_right]
        exact (ih (Nat.le_of_lt inside)).concat present satisfied
      · rename_i stopped
        apply RunsFrom.refl
        intro other char same otherPresent
        cases same
        cases present.symm.trans otherPresent
        exact Bool.eq_false_iff.mpr stopped

end Runs

/-! ### Words and white space on a line -/

section Words

variable (source : WordSource) {line column : Nat} {char : Char}

/-- The characters that belong to one word with a character that is not white space. -/
def wordOf (line column : Nat) (char : Char) : Nat → Char → Bool :=
  if source.isWordChar line column char then source.isWordChar line else source.isOther line

theorem wordOf_self (notSpace : isWhitespace char = false) :
    source.wordOf line column char column char = true := by
  unfold wordOf
  split
  · assumption
  · rename_i notWord
    rw [isOther, Bool.eq_false_iff.mpr notWord, notSpace]
    rfl

theorem skipSpace_isRun (line column : Nat) :
    RunsUpTo (fun _ => isWhitespace) (source.chars line) column (source.skipSpace line column) :=
  runRight_isRun _ _ _

theorem skipSpaceLeft_isRun (inside : column ≤ (source.chars line).length) :
    RunsFrom (fun _ => isWhitespace) (source.chars line) (source.skipSpaceLeft line column)
      column :=
  runLeft_isRun _ inside

theorem wordEnd_isRun (present : (source.chars line)[column]? = some char) :
    RunsUpTo (source.wordOf line column char) (source.chars line) column
      (source.wordEnd line column) := by
  have run := runRight_isRun (source.wordOf line column char) (source.chars line) column
  have rest : (source.chars line).drop column = char :: (source.chars line).drop (column + 1) := by
    obtain ⟨inside, rfl⟩ := List.getElem?_eq_some_iff.mp present
    exact List.drop_eq_getElem_cons inside
  unfold wordEnd
  rw [rest] at run ⊢
  unfold wordOf at run ⊢
  dsimp only
  split
  · rename_i word
    rwa [if_pos word] at run
  · rename_i notWord
    rwa [if_neg notWord] at run

theorem wordStart_isRun (present : (source.chars line)[column]? = some char) :
    RunsFrom (source.wordOf line column char) (source.chars line)
      (source.wordStart line (column + 1)) (column + 1) := by
  have inside := (List.getElem?_eq_some_iff.mp present).1
  have run := runLeft_isRun (source.wordOf line column char) inside
  unfold wordStart charsBefore
  rw [reverse_take_succ present] at run ⊢
  unfold wordOf at run ⊢
  rw [Nat.add_sub_cancel]
  dsimp only
  split
  · rename_i word
    rwa [if_pos word] at run
  · rename_i notWord
    rwa [if_neg notWord] at run

end Words

/-! ### Positions -/

variable {source : WordSource} {position start : Position}

/-- A position on a line of the text. -/
structure Holds (source : WordSource) (position : Position) : Prop where
  line : position.line < source.lineCount
  column : position.column ≤ (source.chars position.line).length

/-- The nearest position of the text. -/
def clamp (source : WordSource) (position : Position) : Position :=
  let line := min position.line source.lastLine
  ⟨line, min position.column (source.chars line).length⟩

/-- The position behind the last character. -/
def textEnd (source : WordSource) : Position :=
  ⟨source.lastLine, (source.chars source.lastLine).length⟩

theorem lastLine_lt (positive : 0 < source.lineCount) : source.lastLine < source.lineCount :=
  Nat.sub_one_lt_of_lt positive

theorem holds_clamp (positive : 0 < source.lineCount) (position : Position) :
    source.Holds (source.clamp position) where
  line := Nat.lt_of_le_of_lt (Nat.min_le_right _ _) (lastLine_lt positive)
  column := Nat.min_le_right _ _

theorem Holds.line_le (held : source.Holds position) : position.line ≤ source.lastLine :=
  Nat.le_sub_one_of_lt held.line

theorem Holds.clamp_eq (held : source.Holds position) : source.clamp position = position := by
  unfold clamp
  rw [Nat.min_eq_left held.line_le]
  dsimp only
  rw [Nat.min_eq_left held.column]

theorem holds_textEnd (positive : 0 < source.lineCount) : source.Holds source.textEnd :=
  ⟨lastLine_lt positive, Nat.le_refl _⟩

theorem holds_zero (positive : 0 < source.lineCount) : source.Holds ⟨0, 0⟩ :=
  ⟨positive, Nat.zero_le _⟩

theorem Holds.not_textEnd_isBefore (held : source.Holds position) :
    source.textEnd.isBefore position = false := by
  rw [Position.isBefore_eq_false_iff]
  rcases Nat.lt_or_eq_of_le held.line_le with earlier | same
  · exact .inl earlier
  · refine .inr ⟨same, ?_⟩
    have column := held.column
    rwa [same] at column

theorem not_isBefore_zero (position : Position) : position.isBefore ⟨0, 0⟩ = false := by
  rw [Position.isBefore_eq_false_iff]
  dsimp only
  omega

/-! ### One step -/

theorem wordRight_eq (start : Position) :
    source.wordRight start =
      let place := source.clamp start
      if place.column = (source.chars place.line).length then
        if place.line = source.lastLine then place
        else ⟨place.line + 1, source.skipSpace (place.line + 1) 0⟩
      else ⟨place.line, source.skipSpace place.line (source.wordEnd place.line place.column)⟩ :=
  rfl

theorem wordLeft_eq (start : Position) :
    source.wordLeft start =
      let place := source.clamp start
      let column := source.skipSpaceLeft place.line place.column
      if column = 0 then
        if place.line = 0 then ⟨0, 0⟩
        else ⟨place.line - 1, (source.chars (place.line - 1)).length⟩
      else ⟨place.line, source.wordStart place.line column⟩ :=
  rfl

theorem wordRight_step (positive : 0 < source.lineCount) (start : Position) :
    source.clamp start = source.textEnd ∧ source.wordRight start = source.textEnd ∨
      source.Holds (source.wordRight start) ∧
        (source.clamp start).isBefore (source.wordRight start) = true := by
  have held := holds_clamp positive start
  have count := lastLine_lt positive
  rw [wordRight_eq, Position.isBefore_eq_true_iff]
  generalize source.clamp start = place at held
  dsimp only
  split
  · rename_i atEnd
    split
    · rename_i last
      have same : place = source.textEnd := by
        unfold textEnd
        rw [← last, ← atEnd]
      exact .inl ⟨same, same⟩
    · rename_i notLast
      have line := held.line_le
      have run := source.skipSpace_isRun (place.line + 1) 0
      exact .inr ⟨⟨by dsimp only; omega, run.covers.le_length (Nat.zero_le _)⟩,
        .inl (Nat.lt_succ_self place.line)⟩
  · rename_i notAtEnd
    have inside : place.column < (source.chars place.line).length :=
      Nat.lt_of_le_of_ne held.column notAtEnd
    have present := List.getElem?_eq_getElem inside
    have word := source.wordEnd_isRun present
    have space := source.skipSpace_isRun place.line (source.wordEnd place.line place.column)
    refine .inr ⟨⟨held.line, space.covers.le_length (word.covers.le_length held.column)⟩,
      .inr ⟨rfl, ?_⟩⟩
    cases isSpace : isWhitespace (source.chars place.line)[place.column] with
    | false => exact Nat.lt_of_lt_of_le (word.lt present (source.wordOf_self isSpace)) space.ordered
    | true =>
        rcases Nat.lt_or_eq_of_le word.ordered with further | same
        · exact Nat.lt_of_lt_of_le further space.ordered
        · rw [← same] at space ⊢
          exact space.lt present isSpace

theorem wordLeft_step (positive : 0 < source.lineCount) (start : Position) :
    source.clamp start = ⟨0, 0⟩ ∧ source.wordLeft start = ⟨0, 0⟩ ∨
      source.Holds (source.wordLeft start) ∧
        (source.wordLeft start).isBefore (source.clamp start) = true := by
  have held := holds_clamp positive start
  rw [wordLeft_eq, Position.isBefore_eq_true_iff]
  generalize source.clamp start = place at held
  obtain ⟨line, column⟩ := place
  have space := source.skipSpaceLeft_isRun held.column
  dsimp only at space ⊢
  split
  · split
    · rename_i first
      subst first
      cases column with
      | zero => exact .inl ⟨rfl, rfl⟩
      | succ column => exact .inr ⟨holds_zero positive, .inr ⟨rfl, Nat.succ_pos column⟩⟩
    · rename_i notFirst
      have bound := held.line
      dsimp only at bound
      exact .inr ⟨⟨by dsimp only; omega, Nat.le_refl _⟩, .inl (by dsimp only; omega)⟩
  · rename_i notZero
    obtain ⟨before, same⟩ := Nat.exists_eq_succ_of_ne_zero notZero
    rw [same] at space ⊢
    have inside := Nat.le_trans space.ordered held.column
    have present := List.getElem?_eq_getElem inside
    have word := source.wordStart_isRun present
    have less := word.lt present (source.wordOf_self (space.stops before _ rfl present))
    refine .inr ⟨⟨held.line, ?_⟩, .inr ⟨rfl, Nat.lt_of_lt_of_le less space.ordered⟩⟩
    exact Nat.le_trans word.ordered inside

/-! ### Many steps -/

/-- A motion that leads to an edge of the text. From every position, be it in the text or not, it
comes to one in the text that lies further on than the nearest one, until it is at the edge, where
it stays. -/
structure LeadsTo (source : WordSource) (move : Position → Position)
    (further : Position → Position → Bool) (edge : Position) : Prop where
  holds : ∀ start, source.Holds (move start)
  advances : ∀ start, source.clamp start ≠ edge → further (move start) (source.clamp start) = true
  stays : ∀ start, source.clamp start = edge → move start = edge
  arrives : ∀ start, ∃ count, ∀ more, count ≤ more → move^[more] start = edge

/-- A motion that goes on to the edge step by step arrives there, if one cannot go on for ever. -/
theorem LeadsTo.of_step {move : Position → Position} {further : Position → Position → Bool}
    {edge : Position} (heldEdge : source.Holds edge)
    (last : ∀ position, source.Holds position → further position edge = false)
    (founded : WellFounded fun one other =>
      source.Holds one ∧ source.Holds other ∧ further one other = true)
    (step : ∀ start, source.clamp start = edge ∧ move start = edge ∨
      source.Holds (move start) ∧ further (move start) (source.clamp start) = true) :
    source.LeadsTo move further edge := by
  have stays (start : Position) (atEdge : source.clamp start = edge) : move start = edge := by
    rcases step start with ⟨_, same⟩ | ⟨held, on⟩
    · exact same
    · rw [atEdge, last _ held] at on
      cases on
  have holds (start : Position) : source.Holds (move start) := by
    rcases step start with ⟨_, same⟩ | ⟨held, _⟩
    · rwa [same]
    · exact held
  have arrives (position : Position) (held : source.Holds position) :
      ∃ count, move^[count] position = edge := by
    induction position using founded.induction with
    | _ position ih =>
        rcases step position with ⟨_, same⟩ | ⟨heldNext, on⟩
        · exact ⟨1, same⟩
        · rw [held.clamp_eq] at on
          obtain ⟨count, reached⟩ := ih (move position) ⟨heldNext, held, on⟩ heldNext
          exact ⟨count + 1, reached⟩
  refine ⟨holds, ?_, stays, ?_⟩
  · intro start notEdge
    rcases step start with ⟨atEdge, _⟩ | ⟨_, on⟩
    · exact absurd atEdge notEdge
    · exact on
  · intro start
    obtain ⟨count, reached⟩ := arrives (move start) (holds start)
    refine ⟨count + 1, ?_⟩
    intro more enough
    obtain ⟨rest, rfl⟩ := Nat.exists_eq_add_of_le' enough
    rw [Function.iterate_add_apply, Function.iterate_succ_apply, reached]
    exact Function.iterate_fixed (stays edge heldEdge.clamp_eq) rest

theorem wellFounded_behind : WellFounded fun one other =>
    source.Holds one ∧ source.Holds other ∧ other.isBefore one = true := by
  -- Behind a position there are fewer lines, or the same number and fewer characters on its line.
  let left (position : Position) : Nat × Nat :=
    (source.lastLine - position.line, (source.chars position.line).length - position.column)
  refine Subrelation.wf ?_
    (InvImage.wf left (WellFounded.prod_lex Nat.lt_wfRel.wf Nat.lt_wfRel.wf))
  rintro ⟨line, column⟩ ⟨otherLine, otherColumn⟩ ⟨held, otherHeld, before⟩
  have bound := held.line_le
  have length := held.column
  rw [Position.isBefore_eq_true_iff] at before
  dsimp only at bound length before
  rcases before with less | ⟨rfl, less⟩
  · exact Prod.Lex.left _ _ (Nat.sub_lt_sub_left (Nat.lt_of_lt_of_le less bound) less)
  · exact Prod.Lex.right _ (Nat.sub_lt_sub_left (Nat.lt_of_lt_of_le less length) less)

theorem wellFounded_before : WellFounded fun one other =>
    source.Holds one ∧ source.Holds other ∧ one.isBefore other = true := by
  refine Subrelation.wf ?_ (InvImage.wf (fun position => (position.line, position.column))
    (WellFounded.prod_lex Nat.lt_wfRel.wf Nat.lt_wfRel.wf))
  rintro ⟨line, column⟩ ⟨otherLine, otherColumn⟩ ⟨_, _, before⟩
  rw [Position.isBefore_eq_true_iff] at before
  dsimp only at before
  rcases before with less | ⟨rfl, less⟩
  · exact Prod.Lex.left _ _ less
  · exact Prod.Lex.right _ less

/-! ### Checked access -/

/-- The characters of a line that must exist. -/
def charsChecked? (source : WordSource) (line : Nat) : Option (List Char) :=
  if line < source.lineCount then some (source.chars line) else none

/-- Goes to the right while there is a character and it satisfies a predicate. -/
def advance? (p : Nat → Char → Bool) (chars : List Char) (column : Nat) : Option Nat :=
  if column < chars.length then
    match chars[column]? with
    | none => none
    | some char => if p column char then advance? p chars (column + 1) else some column
  else some column
termination_by chars.length - column

/-- Goes to the left while the character there satisfies a predicate. -/
def retreat? (p : Nat → Char → Bool) (chars : List Char) : (column : Nat) → Option Nat
  | 0 => some 0
  | column + 1 => do
      let char ← chars[column]?
      if p column char then retreat? p chars column else some (column + 1)

/-- Goes to the left while the column is behind the end of the line, or behind white space. -/
def retreatSpace? (chars : List Char) : (column : Nat) → Option Nat
  | 0 => some 0
  | column + 1 =>
      if chars.length < column + 1 then retreatSpace? chars column
      else do
        let char ← chars[column]?
        if isWhitespace char then retreatSpace? chars column else some (column + 1)

/-- Goes over the word at a column, unless there is white space. -/
def wordEndChecked? (source : WordSource) (line : Nat) (chars : List Char) (column : Nat) :
    Option Nat := do
  let char ← chars[column]?
  if source.isWordChar line column char then advance? (source.isWordChar line) chars column
  else if isWhitespace char then some column
  else advance? (source.isOther line) chars column

/-- Goes back over the word before a column that is not the first. -/
def wordStartChecked? (source : WordSource) (line : Nat) (chars : List Char) (column : Nat) :
    Option Nat := do
  let char ← chars[column - 1]?
  if source.isWordChar line (column - 1) char then retreat? (source.isWordChar line) chars column
  else retreat? (source.isOther line) chars column

def wordRightChecked? (source : WordSource) (start : Position) : Option Position := do
  let line := min start.line source.lastLine
  let chars ← source.charsChecked? line
  let column := min start.column chars.length
  if column = chars.length then
    if line = source.lastLine then some ⟨line, column⟩
    else do
      let chars ← source.charsChecked? (line + 1)
      let column ← advance? (fun _ => isWhitespace) chars 0
      some ⟨line + 1, column⟩
  else do
    let column ← source.wordEndChecked? line chars column
    let column ← advance? (fun _ => isWhitespace) chars column
    some ⟨line, column⟩

def wordLeftChecked? (source : WordSource) (start : Position) : Option Position := do
  let line := min start.line source.lastLine
  let chars ← source.charsChecked? line
  let column ← retreatSpace? chars start.column
  if column = 0 then
    if line = 0 then some ⟨0, 0⟩
    else do
      let chars ← source.charsChecked? (line - 1)
      some ⟨line - 1, chars.length⟩
  else do
    let column ← source.wordStartChecked? line chars column
    some ⟨line, column⟩

theorem charsChecked?_eq {line : Nat} (inside : line < source.lineCount) :
    source.charsChecked? line = some (source.chars line) :=
  if_pos inside

theorem advance?_eq (p : Nat → Char → Bool) (chars : List Char) (column : Nat) :
    advance? p chars column = some (column + runRight p column (chars.drop column)) := by
  fun_induction advance? p chars column with
  | case1 column inside missing =>
      rw [List.getElem?_eq_getElem inside] at missing
      cases missing
  | case2 column inside char present satisfied ih =>
      cases (List.getElem?_eq_getElem inside).symm.trans present
      rw [ih, List.drop_eq_getElem_cons inside, runRight, if_pos satisfied, Nat.add_right_comm,
        Nat.add_assoc]
  | case3 column inside char present stopped =>
      cases (List.getElem?_eq_getElem inside).symm.trans present
      rw [List.drop_eq_getElem_cons inside, runRight, if_neg stopped, Nat.add_zero]
  | case4 column outside =>
      rw [List.drop_eq_nil_of_le (Nat.le_of_not_lt outside), runRight, Nat.add_zero]

theorem retreat?_eq (p : Nat → Char → Bool) {chars : List Char} {column : Nat}
    (inside : column ≤ chars.length) :
    retreat? p chars column = some (column - runLeft p column (chars.take column).reverse) := by
  induction column with
  | zero => rfl
  | succ column ih =>
      have present : chars[column]? = some chars[column] := List.getElem?_eq_getElem inside
      rw [retreat?, present, reverse_take_succ present, runLeft, Nat.add_sub_cancel]
      change (if p column chars[column] then _ else _) = _
      split
      · rw [ih (Nat.le_of_lt inside), Nat.add_sub_add_right]
      · rfl

theorem retreatSpace?_eq (chars : List Char) (column : Nat) :
    retreatSpace? chars column =
      some (min column chars.length - runLeft (fun _ => isWhitespace) (min column chars.length)
        (chars.take (min column chars.length)).reverse) := by
  induction column with
  | zero =>
      rw [Nat.zero_min]
      rfl
  | succ column ih =>
      rw [retreatSpace?]
      split
      · rename_i outside
        rw [ih, Nat.min_eq_right (Nat.le_of_lt outside),
          Nat.min_eq_right (Nat.le_of_lt_succ outside)]
      · rename_i within
        have inside := Nat.le_of_not_lt within
        rw [Nat.min_eq_left (Nat.le_of_succ_le inside)] at ih
        rw [Nat.min_eq_left inside, ← retreat?_eq _ inside, retreat?, ih,
          ← retreat?_eq _ (Nat.le_of_succ_le inside)]

theorem wordEndChecked?_eq {line column : Nat} (inside : column < (source.chars line).length) :
    source.wordEndChecked? line (source.chars line) column = some (source.wordEnd line column) := by
  unfold wordEndChecked? wordEnd
  rw [List.getElem?_eq_getElem inside, List.drop_eq_getElem_cons inside]
  simp only [Option.bind_eq_bind, Option.bind_some]
  split
  · rw [advance?_eq, List.drop_eq_getElem_cons inside]
  · split
    · rename_i space
      rw [runRight, isOther, space, Bool.not_true, Bool.and_false, if_neg Bool.false_ne_true,
        Nat.add_zero]
    · rw [advance?_eq, List.drop_eq_getElem_cons inside]

theorem wordStartChecked?_eq {line column : Nat} (inside : column < (source.chars line).length) :
    source.wordStartChecked? line (source.chars line) (column + 1) =
      some (source.wordStart line (column + 1)) := by
  have present : (source.chars line)[column]? = some (source.chars line)[column] :=
    List.getElem?_eq_getElem inside
  unfold wordStartChecked? wordStart charsBefore
  rw [Nat.add_sub_cancel, present, reverse_take_succ present]
  simp only [Option.bind_eq_bind, Option.bind_some]
  split
  · rw [retreat?_eq _ inside, reverse_take_succ present]
  · rw [retreat?_eq _ inside, reverse_take_succ present]

theorem wordRightChecked?_eq (positive : 0 < source.lineCount) (start : Position) :
    source.wordRightChecked? start = some (source.wordRight start) := by
  have held := holds_clamp positive start
  have count := lastLine_lt positive
  have line : min start.line source.lastLine = (source.clamp start).line := rfl
  have column : min start.column (source.chars (source.clamp start).line).length =
      (source.clamp start).column := rfl
  rw [wordRight_eq]
  unfold wordRightChecked?
  simp only [line, charsChecked?_eq held.line, Option.bind_eq_bind, Option.bind_some, column]
  generalize source.clamp start = place at held
  split
  · split
    · rfl
    · have bound := held.line_le
      rw [charsChecked?_eq (by omega), Option.bind_some, advance?_eq, Option.bind_some]
      rfl
  · rename_i notAtEnd
    rw [wordEndChecked?_eq (Nat.lt_of_le_of_ne held.column notAtEnd), Option.bind_some, advance?_eq,
      Option.bind_some]
    rfl

theorem wordLeftChecked?_eq (positive : 0 < source.lineCount) (start : Position) :
    source.wordLeftChecked? start = some (source.wordLeft start) := by
  have held := holds_clamp positive start
  have line : min start.line source.lastLine = (source.clamp start).line := rfl
  have space : retreatSpace? (source.chars (source.clamp start).line) start.column =
       some (source.skipSpaceLeft (source.clamp start).line (source.clamp start).column) :=
    retreatSpace?_eq _ _
  rw [wordLeft_eq]
  unfold wordLeftChecked?
  simp only [line, charsChecked?_eq held.line, Option.bind_eq_bind, Option.bind_some, space]
  generalize source.clamp start = place at held
  have run := source.skipSpaceLeft_isRun held.column
  split
  · split
    · rfl
    · have bound := held.line
      rw [charsChecked?_eq (by omega), Option.bind_some]
  · rename_i notZero
    obtain ⟨before, same⟩ := Nat.exists_eq_succ_of_ne_zero notZero
    rw [same] at run ⊢
    rw [wordStartChecked?_eq (Nat.le_trans run.ordered held.column), Option.bind_some]

/-- Over lines of any text, with any notion of a word, both motions lead to the edges of the text,
and all characters that they read are there. -/
theorem motion_leadsToEdges (source : WordSource) (positive : 0 < source.lineCount) :
    source.LeadsTo source.wordRight (fun one other => other.isBefore one) source.textEnd ∧
      source.LeadsTo source.wordLeft Position.isBefore ⟨0, 0⟩ ∧
      ∀ start, source.wordRightChecked? start = some (source.wordRight start) ∧
        source.wordLeftChecked? start = some (source.wordLeft start) := by
  refine ⟨?_, ?_, ?_⟩
  · exact .of_step (holds_textEnd positive) (fun _ held => held.not_textEnd_isBefore)
      wellFounded_behind (wordRight_step positive)
  · exact .of_step (holds_zero positive) (fun position _ => not_isBefore_zero position)
      wellFounded_before (wordLeft_step positive)
  · intro start
    exact ⟨wordRightChecked?_eq positive start, wordLeftChecked?_eq positive start⟩

/-- Three lines, the last one of which is empty. -/
def unevenLines : WordSource :=
  ofLines ["one".toList, "  two, ".toList, []] fun char => 'a' ≤ char && char ≤ 'z'

theorem motion_leadsToEdges_unevenLines :
    0 < unevenLines.lineCount ∧
      (∃ count, ∀ more, count ≤ more → unevenLines.wordRight^[more] ⟨0, 7⟩ = ⟨2, 0⟩) ∧
      (∃ count, ∀ more, count ≤ more → unevenLines.wordLeft^[more] ⟨7, 7⟩ = ⟨0, 0⟩) ∧
      unevenLines.wordLeftChecked? ⟨1, 9⟩ = some ⟨1, 5⟩ := by
  have positive : 0 < unevenLines.lineCount := by decide
  obtain ⟨right, left, checked⟩ := motion_leadsToEdges unevenLines positive
  refine ⟨positive, right.arrives _, left.arrives _, ?_⟩
  rw [(checked _).2]
  decide

end SyntaxHighlight.WordSource
