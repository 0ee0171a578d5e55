/-
What an edit does to the lines of a document and to its cache before anything is highlighted
again. The lines behind the edit move, and their entries move with them; only when the edit takes
away what stood between a carriage return and a line feed do the entries end up one line too low.
-/

import SyntaxHighlight.Proofs.Document.Cache
import SyntaxHighlight.Proofs.Text.Lines

namespace SyntaxHighlight.Document

open SyntaxHighlight.Text

/-! ### Moved entries -/

section Move

variable (cache other : List (Option LineHighlight)) (line : Nat)

theorem cached?_append :
    cached? (cache ++ other) line =
      if line < cache.length then cached? cache line
      else cached? other (line - cache.length) := by
  rw [cached?, List.getElem?_append]
  split
  · rfl
  · rfl

theorem cached?_take (count : Nat) :
    cached? (cache.take count) line = if line < count then cached? cache line else none := by
  rw [cached?, List.getElem?_take]
  split
  · rfl
  · rfl

theorem cached?_drop (count : Nat) :
    cached? (cache.drop count) line = cached? cache (count + line) := by
  rw [cached?, List.getElem?_drop, cached?]

theorem cached?_replicate_none (count : Nat) :
    cached? (List.replicate count none) line = none := by
  rw [cached?, List.getElem?_replicate]
  split
  · rfl
  · rfl

theorem length_moveCache (first oldLast newLast count : Nat) :
    (moveCache cache first oldLast newLast count).length = count := by
  unfold moveCache
  rw [List.length_take, List.length_append, List.length_replicate]
  omega

theorem cached?_moveCache {first oldLast newLast count : Nat} (inside : first ≤ cache.length)
    (ordered : first ≤ newLast) (bound : line < count) :
    cached? (moveCache cache first oldLast newLast count) line =
      if line < first then cached? cache line
      else if line < newLast then none
      else cached? cache (oldLast + (line - newLast)) := by
  have firstLength : (cache.take first).length = first := by
    rw [List.length_take]
    omega
  have padded : ∀ entries : List (Option LineHighlight), ∀ count,
      cached? (entries ++ List.replicate count none) line = cached? entries line := by
    intro entries count
    rw [cached?_append, cached?_replicate_none]
    split
    · rfl
    · rename_i behind
      exact (cached?_of_length_le (Nat.le_of_not_lt behind)).symm
  unfold moveCache
  rw [cached?_take, if_pos bound, padded, List.append_assoc, cached?_append, firstLength,
    cached?_append, List.length_replicate, cached?_take, cached?_replicate_none, cached?_drop]
  split
  · rfl
  · by_cases between : line < newLast
    · rw [if_pos between, if_pos (by omega)]
    · rw [if_neg between, if_neg (by omega)]
      congr 2
      omega

end Move

/-! ### Places in a document -/

/-- A position that lies on a line of the document. -/
def Holds (document : Document) (position : Position) : Prop :=
  ∃ chars, (lineTexts document.text)[position.line]? = some chars ∧
    position.column ≤ chars.length

variable {document : Document} {first last : Position}

theorem lineCount_eq (document : Document) :
    document.lineCount = (lineTexts document.text).length :=
  length_splitLines document.text

theorem line?_eq (document : Document) (line : Nat) :
    document.line? line = (lineTexts document.text)[line]? := by
  rw [line?, lines, lineTexts, List.getElem?_map]

theorem Holds.line_lt (held : document.Holds first) :
    first.line < (lineTexts document.text).length := by
  obtain ⟨chars, found, _⟩ := held
  exact (List.getElem?_eq_some_iff.mp found).1

theorem clamp_holds (document : Document) (position : Position) :
    document.Holds (document.clamp position) := by
  have positive := length_lineTexts_pos document.text
  rw [← lineCount_eq] at positive
  have inside : min position.line (document.lineCount - 1) < (lineTexts document.text).length := by
    rw [← lineCount_eq]
    omega
  refine ⟨_, List.getElem?_eq_getElem inside, ?_⟩
  unfold clamp lineLength
  dsimp only
  rw [line?_eq, List.getElem?_eq_getElem inside]
  exact Nat.min_le_right _ _

theorem lineStart_holds {line : Nat} (inside : line < document.lineCount) :
    document.Holds ⟨line, 0⟩ := by
  rw [lineCount_eq] at inside
  exact ⟨_, List.getElem?_eq_getElem inside, Nat.zero_le _⟩

theorem lineEnd_holds {line : Nat} (inside : line < document.lineCount) :
    document.Holds ⟨line, document.lineLength line⟩ := by
  rw [lineCount_eq] at inside
  refine ⟨_, List.getElem?_eq_getElem inside, ?_⟩
  dsimp only [lineLength]
  rw [line?_eq, List.getElem?_eq_getElem inside]
  exact Nat.le_refl _

theorem Holds.cuts (held : document.Holds first) :
    Cuts document.text first.line (document.charIndex first) := by
  obtain ⟨_, found, bound⟩ := held
  exact cuts_at found bound

theorem line_le_of_charIndex_le (firstHeld : document.Holds first) (lastHeld : document.Holds last)
    (ordered : document.charIndex first ≤ document.charIndex last) : first.line ≤ last.line := by
  have parts := List.take_append_drop (document.charIndex first)
    (document.text.take (document.charIndex last))
  rw [List.take_take, Nat.min_eq_left ordered] at parts
  have longer := length_lineTexts_le_append (document.text.take (document.charIndex first))
    ((document.text.take (document.charIndex last)).drop (document.charIndex first))
  rw [parts, firstHeld.cuts.1, lastHeld.cuts.1] at longer
  exact Nat.le_of_succ_le_succ longer

/-! ### Lines after an edit -/

/-- An edit that takes away what stood between a carriage return and a line feed. -/
def Joins (document : Document) (first last : Position) (text : List Char) : Prop :=
  text = [] ∧
    Meets (document.text.take (document.charIndex first))
      (document.text.drop (document.charIndex last))

/-- How lines follow from those before an edit that replaces those from the first to the last one
by others up to the new last one. If the edit joins a line break, there is one line less. -/
structure Splices (old new : List (List Char)) (first last newLast : Nat) (joins : Prop) :
    Prop where
  ordered : first ≤ last
  lastInside : last < old.length
  firstInside : first < new.length
  before : new.take first = old.take first
  separate : ¬joins → first ≤ newLast ∧ new.length + last = old.length + newLast ∧
    new.drop (newLast + 1) = old.drop (last + 1)
  joined : joins → newLast = first ∧ new.length + last + 1 = old.length + newLast

theorem newLast_eq (document : Document) (first last : Position) (between newCount : Nat)
    (inside : last.line < document.lineCount)
    (count : newCount + last.line + 1 = first.line + between + document.lineCount)
    (firstInside : first.line < newCount) :
    document.newLast first last newCount = max (first.line + between - 1) first.line := by
  unfold newLast
  omega

theorem Splices.first_le_newLast {old new : List (List Char)} {first last newLast : Nat}
    {joins : Prop} (splices : Splices old new first last newLast joins) : first ≤ newLast := by
  by_cases join : joins
  · exact Nat.le_of_eq (splices.joined join).1.symm
  · exact (splices.separate join).1

theorem splice_splices (firstHeld : document.Holds first) (lastHeld : document.Holds last)
    (ordered : document.charIndex first ≤ document.charIndex last) (text : List Char) :
    Splices (lineTexts document.text) (lineTexts (document.splice first last text).text)
      first.line last.line
      (document.newLast first last (document.splice first last text).lineCount)
      (document.Joins first last text) := by
  have lineOrdered := line_le_of_charIndex_le firstHeld lastHeld ordered
  have lastInside := lastHeld.line_lt
  obtain ⟨between, whole, none⟩ := lineTexts_between
    (document.text.take (document.charIndex first)) text
    (document.text.drop (document.charIndex last))
  rw [lineTexts_take firstHeld.cuts, lineTexts_drop lastHeld.cuts] at whole
  change lineTexts (document.splice first last text).text = _ at whole
  have firstLength : ((lineTexts document.text).take first.line).length = first.line := by
    rw [List.length_take]
    omega
  have count := congrArg List.length whole
  rw [List.length_append, List.length_append, firstLength, List.length_drop] at count
  have firstInside : first.line < (lineTexts (document.splice first last text).text).length := by
    by_cases empty : between = []
    · have ends := lt_length_lineTexts (document.text.drop (document.charIndex last))
      have behind := congrArg List.length (lineTexts_drop lastHeld.cuts)
      rw [if_pos (none.mp empty).2.2] at ends
      rw [List.length_tail, List.length_drop] at behind
      omega
    · have some := List.length_pos_iff.mpr empty
      omega
  have moved := newLast_eq document first last between.length
    (document.splice first last text).lineCount (by rw [lineCount_eq]; exact lastInside)
    (by rw [lineCount_eq, lineCount_eq]; omega) (by rw [lineCount_eq]; exact firstInside)
  rw [moved]
  refine ⟨lineOrdered, lastInside, firstInside, ?_, ?_, ?_⟩
  · rw [whole, List.take_left' firstLength]
  · intro apart
    have some : 0 < between.length :=
      List.length_pos_iff.mpr (fun empty => apart (none.mp empty))
    have next : max (first.line + between.length - 1) first.line + 1 =
        first.line + between.length := by
      omega
    refine ⟨by omega, by omega, ?_⟩
    rw [next, whole, ← List.append_assoc,
      List.drop_left' (by rw [List.length_append, firstLength])]
  · intro joins
    have empty := none.mpr joins
    rw [empty, List.length_nil] at count ⊢
    omega

/-! ### Edits -/

theorem cascade_text (document : Document) (first last validEnd : Nat) :
    (document.cascade first last validEnd).text = document.text := by
  unfold cascade
  split
  · rfl
  · rfl

theorem cascade_mode (document : Document) (first last validEnd : Nat) :
    (document.cascade first last validEnd).mode = document.mode := by
  unfold cascade
  split
  · rfl
  · rfl

/-- How a document follows from the one before an edit. Entries move with the lines; then, if
something was known of the first line of the edit, lines are highlighted again from there on. -/
structure IsEdited (document after : Document) (first last : Position) (newLast : Nat)
    (joins : Prop) (moved : List (Option LineHighlight)) : Prop where
  mode : after.mode = document.mode
  splices : Splices (lineTexts document.text) (lineTexts after.text) first.line last.line newLast
    joins
  length : moved.length = after.lineCount
  entries : ∀ line, line < after.lineCount → cached? moved line =
    if line < first.line then cached? document.cache line
    else if line < newLast then none
    else cached? document.cache (last.line + (line - newLast))
  outcome :
    (document.highlightedUntil ≤ first.line ∧ after.cache = moved ∧
        after.highlightedUntil = document.highlightedUntil ∧
        after.lastCascade.convergedAt = none) ∨
      (first.line < document.highlightedUntil ∧
        ∃ stop, first.line ≤ stop ∧ stop ≤ after.lineCount ∧
          Rewrites after.mode after.lines first.line stop moved after.cache ∧
          CascadeEnds after.lineCount newLast (document.validEnd first last newLast) first.line
            stop moved after.cache after.highlightedUntil after.lastCascade.convergedAt)

theorem replace?_isEdited (length : document.cache.length = document.lineCount)
    (firstHeld : document.Holds first) (lastHeld : document.Holds last) {text : List Char}
    {after : Document} {position : Position}
    (made : document.replace? first last text = some (after, position)) :
    document.IsEdited after first last
      (document.newLast first last (document.splice first last text).lineCount)
      (document.Joins first last text) (document.splice first last text).cache := by
  unfold replace? at made
  split at made
  · cases made
  · rename_i ordered
    cases made
    have splices := splice_splices firstHeld lastHeld (Nat.le_of_not_lt ordered) text
    have firstInside := splices.firstInside
    have oldInside : first.line ≤ document.cache.length := by
      have lastInside := splices.lastInside
      have lineOrdered := splices.ordered
      rw [← lineCount_eq] at lastInside
      omega
    rw [← lineCount_eq] at firstInside
    refine ⟨?_, ?_, ?_, ?_, ?_⟩
    · rw [cascade_mode]
      rfl
    · rw [cascade_text]
      exact splices
    · rw [lineCount_eq, cascade_text, ← lineCount_eq]
      exact length_moveCache _ _ _ _ _
    · intro line bound
      rw [lineCount_eq, cascade_text, ← lineCount_eq] at bound
      exact cached?_moveCache document.cache line oldInside splices.first_le_newLast bound
    · have outcome := cascade_cases (document.splice first last text) first.line
        (document.newLast first last (document.splice first last text).lineCount)
        (document.validEnd first last
          (document.newLast first last (document.splice first last text).lineCount))
        (length_moveCache _ _ _ _ _) firstInside
      unfold lineCount lines at outcome ⊢
      rw [cascade_mode, cascade_text]
      exact outcome

end SyntaxHighlight.Document
