/-
The way back over a word. A step to the left takes back a step to the right: it never stops behind
the place where the other one began, and it comes back to that very place where a line ends before
another one or a run of characters of one class begins. For that no white space may belong to a
word, as in documents.
-/

import SyntaxHighlight.Proofs.Document.WordMotion

namespace SyntaxHighlight

open SyntaxHighlight.Text

namespace WordSource

variable {source : WordSource} {start : Position} {line column other : Nat} {char found : Char}

/-- No white space belongs to a word. -/
def RejectsSpace (source : WordSource) : Prop :=
  ∀ line column char, isWhitespace char = true → source.isWordChar line column char = false

/-- The end of a line behind which there is another one. -/
structure EndsLine (source : WordSource) (position : Position) : Prop where
  line : position.line + 1 < source.lineCount
  column : position.column = (source.chars position.line).length

/-- What stands before a place where a run begins with a character: nothing on its line, white
space, or a character of the other class. -/
def BeginsWith (source : WordSource) (line column : Nat) (char : Char) : Prop :=
  column = 0 ∨ ∃ before, (source.chars line)[column - 1]? = some before ∧
    (isWhitespace before = true ∨
      source.isWordChar line (column - 1) before ≠ source.isWordChar line column char)

/-- A place where a run of word characters begins, or one of other characters that are not white
space. -/
def StartsRun (source : WordSource) (position : Position) : Prop :=
  ∃ char, (source.chars position.line)[position.column]? = some char ∧
    isWhitespace char = false ∧ source.BeginsWith position.line position.column char

/-! ### Characters of one class -/

theorem isWordChar_of_wordOf (same : source.wordOf line column char other found = true) :
    source.isWordChar line other found = source.isWordChar line column char := by
  unfold wordOf at same
  split at same
  · rename_i word
    rw [same, word]
  · rename_i notWord
    rw [isOther, Bool.and_eq_true, Bool.not_eq_true'] at same
    rw [same.1, Bool.eq_false_iff.mpr notWord]

/-- A character that belongs to a word with another one belongs to it with the same ones. -/
theorem wordOf_eq (same : source.wordOf line column char other found = true) :
    source.wordOf line other found = source.wordOf line column char := by
  have word := isWordChar_of_wordOf same
  unfold wordOf
  rw [word]

theorem RejectsSpace.wordOf (rejects : source.RejectsSpace)
    (same : source.wordOf line column char other found = true) : isWhitespace found = false := by
  cases space : isWhitespace found with
  | false => rfl
  | true =>
      unfold WordSource.wordOf at same
      split at same
      · rw [rejects line other found space] at same
        cases same
      · rw [isOther, space, Bool.not_true, Bool.and_false] at same
        cases same

/-! ### One word and the white space behind it -/

/-- White space is a word of no characters. -/
theorem RejectsSpace.wordEnd_eq (rejects : source.RejectsSpace)
    (present : (source.chars line)[column]? = some char) (space : isWhitespace char = true) :
    source.wordEnd line column = column := by
  have word := source.wordEnd_isRun present
  rcases Nat.eq_or_lt_of_le word.ordered with same | further
  · exact same.symm
  · obtain ⟨found, foundPresent, satisfied⟩ := word.covers column (Nat.le_refl _) further
    cases present.symm.trans foundPresent
    rw [rejects.wordOf satisfied] at space
    cases space

/-- The last character of the word that begins with a character. -/
theorem exists_wordEnd_eq_succ (present : (source.chars line)[column]? = some char)
    (notSpace : isWhitespace char = false) :
    ∃ last found, source.wordEnd line column = last + 1 ∧
      (source.chars line)[last]? = some found ∧
      source.wordOf line column char last found = true := by
  have word := source.wordEnd_isRun present
  have further := word.lt present (source.wordOf_self notSpace)
  obtain ⟨last, same⟩ := Nat.exists_eq_add_one_of_ne_zero (Nat.ne_zero_of_lt further)
  obtain ⟨found, foundPresent, satisfied⟩ := word.covers last (by omega) (by omega)
  exact ⟨last, found, same, foundPresent, satisfied⟩

/-- The run to the left from the end of a word is the one of its characters. -/
theorem wordStart_wordEnd_isRun (present : (source.chars line)[column]? = some char)
    (notSpace : isWhitespace char = false) :
    RunsFrom (source.wordOf line column char) (source.chars line)
      (source.wordStart line (source.wordEnd line column)) (source.wordEnd line column) := by
  obtain ⟨last, found, same, foundPresent, satisfied⟩ := exists_wordEnd_eq_succ present notSpace
  have run := source.wordStart_isRun foundPresent
  rw [wordOf_eq satisfied] at run
  rwa [same]

/-- A run that begins at a place goes no further to the left than that. -/
theorem RejectsSpace.run_of_beginsWith (rejects : source.RejectsSpace)
    (present : (source.chars line)[column]? = some char)
    (begins : source.BeginsWith line column char) :
    RunsFrom (source.wordOf line column char) (source.chars line) column
      (source.wordEnd line column) := by
  have word := source.wordEnd_isRun present
  refine ⟨word.ordered, word.covers, ?_⟩
  intro before found next foundPresent
  rcases begins with first | ⟨other, otherPresent, apart⟩
  · cases first.symm.trans next
  · rw [next, Nat.add_sub_cancel] at otherPresent apart
    cases foundPresent.symm.trans otherPresent
    cases same : source.wordOf line column char before found with
    | false => rfl
    | true =>
        rcases apart with space | different
        · rw [rejects.wordOf same] at space
          cases space
        · have agree := isWordChar_of_wordOf same
          rw [next] at agree
          exact absurd agree different

/-- From behind the white space that follows a word the way back leads to the end of the word. -/
theorem RejectsSpace.skipSpaceLeft_skipSpace (rejects : source.RejectsSpace)
    (present : (source.chars line)[column]? = some char) (notSpace : isWhitespace char = false) :
    source.skipSpaceLeft line (source.skipSpace line (source.wordEnd line column)) =
      source.wordEnd line column := by
  obtain ⟨last, found, same, foundPresent, satisfied⟩ := exists_wordEnd_eq_succ present notSpace
  have inside := (List.getElem?_eq_some_iff.mp present).1
  have word := source.wordEnd_isRun present
  have space := source.skipSpace_isRun line (source.wordEnd line column)
  have back : RunsFrom (fun _ => isWhitespace) (source.chars line) (source.wordEnd line column)
      (source.skipSpace line (source.wordEnd line column)) := by
    refine ⟨space.ordered, space.covers, ?_⟩
    intro before char next charPresent
    cases Nat.succ.inj (same.symm.trans next)
    cases foundPresent.symm.trans charPresent
    exact rejects.wordOf satisfied
  have bound := space.covers.le_length (word.covers.le_length (Nat.le_of_lt inside))
  exact (source.skipSpaceLeft_isRun bound).eq back

/-! ### There and back -/

theorem wordRight_of_lt (held : source.Holds start)
    (inside : start.column < (source.chars start.line).length) :
    source.wordRight start =
      ⟨start.line, source.skipSpace start.line (source.wordEnd start.line start.column)⟩ := by
  rw [wordRight_eq, held.clamp_eq]
  exact if_neg (Nat.ne_of_lt inside)

theorem wordRight_of_textEnd (held : source.Holds start)
    (atEnd : start.column = (source.chars start.line).length)
    (last : source.lineCount ≤ start.line + 1) : source.wordRight start = start := by
  have line := held.line
  have same : start.line = source.lastLine := by
    unfold lastLine
    omega
  rw [wordRight_eq, held.clamp_eq]
  dsimp only
  rw [if_pos atEnd, if_pos same]

theorem EndsLine.wordRight_eq (ends : source.EndsLine start) :
    source.wordRight start = ⟨start.line + 1, source.skipSpace (start.line + 1) 0⟩ := by
  have held : source.Holds start := ⟨Nat.lt_of_succ_lt ends.line, Nat.le_of_eq ends.column⟩
  have notLast : start.line ≠ source.lastLine := by
    have line := ends.line
    unfold lastLine
    omega
  rw [WordSource.wordRight_eq, held.clamp_eq]
  dsimp only
  rw [if_pos ends.column, if_neg notLast]

theorem EndsLine.comesBack (ends : source.EndsLine start) :
    source.wordLeft (source.wordRight start) = start := by
  have space := source.skipSpace_isRun (start.line + 1) 0
  have inside := space.covers.le_length (Nat.zero_le _)
  have held : source.Holds ⟨start.line + 1, source.skipSpace (start.line + 1) 0⟩ :=
    ⟨ends.line, inside⟩
  have back : source.skipSpaceLeft (start.line + 1) (source.skipSpace (start.line + 1) 0) = 0 :=
    Nat.le_zero.mp ((source.skipSpaceLeft_isRun inside).le_of_covers space.covers)
  rw [ends.wordRight_eq, wordLeft_eq, held.clamp_eq]
  dsimp only
  rw [if_pos back, if_neg (Nat.succ_ne_zero _), Nat.add_sub_cancel, ← ends.column]

/-- Over a word, the way back leads to where a run to the left from its end begins. -/
theorem RejectsSpace.wordLeft_wordRight_of_word (rejects : source.RejectsSpace)
    (held : source.Holds start) (present : (source.chars start.line)[start.column]? = some char)
    (notSpace : isWhitespace char = false) :
    source.wordLeft (source.wordRight start) =
      ⟨start.line, source.wordStart start.line (source.wordEnd start.line start.column)⟩ := by
  obtain ⟨last, _, same, _, _⟩ := exists_wordEnd_eq_succ present notSpace
  have word := source.wordEnd_isRun present
  have space := source.skipSpace_isRun start.line (source.wordEnd start.line start.column)
  have heldNext : source.Holds
      ⟨start.line, source.skipSpace start.line (source.wordEnd start.line start.column)⟩ :=
    ⟨held.line, space.covers.le_length (word.covers.le_length held.column)⟩
  rw [wordRight_of_lt held (List.getElem?_eq_some_iff.mp present).1, wordLeft_eq, heldNext.clamp_eq]
  dsimp only
  rw [rejects.skipSpaceLeft_skipSpace present notSpace, if_neg (by omega)]

theorem wordLeft_not_behind (positive : 0 < source.lineCount) (start : Position) :
    (source.clamp start).isBefore (source.wordLeft start) = false := by
  rw [Position.isBefore_eq_false_iff]
  rcases wordLeft_step positive start with ⟨same, back⟩ | ⟨_, before⟩
  · rw [same, back]
    exact .inr ⟨rfl, Nat.le_refl _⟩
  · rw [Position.isBefore_eq_true_iff] at before
    omega

/-- From behind white space the way back leads at least to where it begins. -/
theorem RejectsSpace.wordLeft_wordRight_of_space (rejects : source.RejectsSpace)
    (held : source.Holds start) (present : (source.chars start.line)[start.column]? = some char)
    (space : isWhitespace char = true) :
    start.isBefore (source.wordLeft (source.wordRight start)) = false := by
  have run := source.skipSpace_isRun start.line start.column
  have heldNext : source.Holds ⟨start.line, source.skipSpace start.line start.column⟩ :=
    ⟨held.line, run.covers.le_length held.column⟩
  have back := source.skipSpaceLeft_isRun heldNext.column
  have bound := back.le_of_covers run.covers
  rw [wordRight_of_lt held (List.getElem?_eq_some_iff.mp present).1,
    rejects.wordEnd_eq present space, wordLeft_eq, heldNext.clamp_eq,
    Position.isBefore_eq_false_iff]
  dsimp only at back bound ⊢
  split
  · split
    · dsimp only
      omega
    · dsimp only
      omega
  · rename_i notZero
    obtain ⟨before, same⟩ := Nat.exists_eq_add_one_of_ne_zero notZero
    rw [same] at back bound ⊢
    have inside : before < (source.chars start.line).length := by
      have limit := heldNext.column
      have ordered := back.ordered
      dsimp only at limit
      omega
    have word := source.wordStart_isRun (List.getElem?_eq_getElem inside)
    exact .inr ⟨rfl, Nat.le_trans word.ordered bound⟩

/-- A step to the left never stops behind the place from which the step to the right began, and
takes it back exactly from the end of a line and from the start of a run. -/
theorem wordLeft_wordRight (source : WordSource) (positive : 0 < source.lineCount)
    (rejects : source.RejectsSpace) (start : Position) (held : source.Holds start) :
    start.isBefore (source.wordLeft (source.wordRight start)) = false ∧
      (source.EndsLine start ∨ source.StartsRun start →
        source.wordLeft (source.wordRight start) = start) := by
  have self : start.isBefore start = false := by
    rw [Position.isBefore_eq_false_iff]
    exact .inr ⟨rfl, Nat.le_refl _⟩
  rcases Nat.eq_or_lt_of_le held.column with atEnd | inside
  · by_cases line : start.line + 1 < source.lineCount
    · have ends : source.EndsLine start := ⟨line, atEnd⟩
      rw [ends.comesBack]
      exact ⟨self, fun _ => rfl⟩
    · have bound := wordLeft_not_behind positive start
      rw [held.clamp_eq] at bound
      rw [wordRight_of_textEnd held atEnd (by omega)]
      refine ⟨bound, ?_⟩
      rintro (ends | ⟨char, present, _⟩)
      · exact absurd ends.line line
      · rw [atEnd, List.getElem?_eq_none (Nat.le_refl _)] at present
        cases present
  · have present := List.getElem?_eq_getElem inside
    have notEnd : ¬source.EndsLine start := fun ends => Nat.ne_of_lt inside ends.column
    cases space : isWhitespace (source.chars start.line)[start.column] with
    | true =>
        refine ⟨rejects.wordLeft_wordRight_of_space held present space, ?_⟩
        rintro (ends | ⟨char, charPresent, notSpace, _⟩)
        · exact absurd ends notEnd
        · cases present.symm.trans charPresent
          rw [notSpace] at space
          cases space
    | false =>
        have run := wordStart_wordEnd_isRun present space
        rw [rejects.wordLeft_wordRight_of_word held present space, Position.isBefore_eq_false_iff]
        refine ⟨.inr ⟨rfl, run.le_of_covers (source.wordEnd_isRun present).covers⟩, ?_⟩
        rintro (ends | ⟨char, charPresent, _, begins⟩)
        · exact absurd ends notEnd
        · cases present.symm.trans charPresent
          rw [run.eq (rejects.run_of_beginsWith present begins)]

end WordSource

/-! ### Words of documents -/

/-- In documents no white space belongs to a word, whatever the mode. -/
theorem Document.rejectsSpace_wordSource (document : Document) :
    document.wordSource.RejectsSpace := by
  intro line column char space
  change document.mode.isInWord char (document.cachedFormatAt line column) = false
  rw [Mode.isInWord, space, Bool.not_true, Bool.and_false, Bool.false_and]

namespace WordSource

/-- Two lines with signs next to a word. -/
def signedText : Document := .ofText "a+b  (c\n d".toList .plain

theorem wordLeft_wordRight_signedText :
    0 < signedText.wordSource.lineCount ∧ signedText.wordSource.RejectsSpace ∧
    (signedText.wordSource.Holds ⟨0, 1⟩ ∧ signedText.wordSource.StartsRun ⟨0, 1⟩ ∧
      signedText.wordSource.wordLeft (signedText.wordSource.wordRight ⟨0, 1⟩) = ⟨0, 1⟩) ∧
    (signedText.wordSource.EndsLine ⟨0, 7⟩ ∧
      signedText.wordSource.wordLeft (signedText.wordSource.wordRight ⟨0, 7⟩) = ⟨0, 7⟩) := by
  have positive : 0 < signedText.wordSource.lineCount := by decide
  have rejects := signedText.rejectsSpace_wordSource
  have starts : signedText.wordSource.StartsRun ⟨0, 1⟩ :=
    ⟨'+', rfl, by decide, .inr ⟨'a', rfl, .inr (by decide)⟩⟩
  have ends : signedText.wordSource.EndsLine ⟨0, 7⟩ := ⟨by decide, by decide⟩
  have held : signedText.wordSource.Holds ⟨0, 1⟩ := ⟨by decide, by decide⟩
  have heldEnd : signedText.wordSource.Holds ⟨0, 7⟩ := ⟨by decide, by decide⟩
  refine ⟨positive, rejects, ⟨held, starts, ?_⟩, ends, ?_⟩
  · exact (wordLeft_wordRight _ positive rejects _ held).2 (.inr starts)
  · exact (wordLeft_wordRight _ positive rejects _ heldEnd).2 (.inl ends)

end WordSource

end SyntaxHighlight
