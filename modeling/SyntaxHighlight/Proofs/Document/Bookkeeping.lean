/-
What a document keeps of its lines. There is one entry a line, and highlights are known of the
lines in front of one and of no others, whatever was done to the document.
-/

import SyntaxHighlight.Proofs.Document.Edit

namespace SyntaxHighlight.Document

open SyntaxHighlight.Text

/-- One entry a line, and a highlight in those of the first lines only. -/
structure IsOrderly (document : Document) : Prop where
  length : document.cache.length = document.lineCount
  inside : document.highlightedUntil ≤ document.lineCount
  known : ∀ line, (cached? document.cache line).isSome ↔ line < document.highlightedUntil

variable {document : Document} {first last : Position} {text : List Char}

theorem forgotten_isSome {α : Type} (lines : List α) (line : Nat) :
    (cached? (lines.map fun _ => none) line).isSome ↔ line < 0 := by
  rw [cached?_map_none]
  exact iff_of_false Bool.false_ne_true (Nat.not_lt_zero line)

theorem ofText_isOrderly (text : List Char) (mode : Mode) : (ofText text mode).IsOrderly where
  length := List.length_map _
  inside := Nat.zero_le _
  known := forgotten_isSome (splitLines text)

theorem setMode_isOrderly (orderly : document.IsOrderly) (mode : Mode) :
    (document.setMode mode).IsOrderly where
  length := (List.length_map _).trans orderly.length
  inside := Nat.zero_le _
  known := forgotten_isSome document.cache

theorem isConsistent_isSome {mode : Mode} {lines : List TextLine}
    {cache : List (Option LineHighlight)} {line : Nat}
    (consistent : IsConsistent mode lines cache line) : (cached? cache line).isSome = true := by
  rw [consistent]
  rfl

/-! ### Further lines -/

theorem ensureHighlighted_text (document : Document) (line : Nat) :
    (document.ensureHighlighted line).text = document.text := by
  unfold ensureHighlighted
  dsimp only
  split
  · rfl
  · rfl

theorem ensureHighlighted_mode (document : Document) (line : Nat) :
    (document.ensureHighlighted line).mode = document.mode := by
  unfold ensureHighlighted
  dsimp only
  split
  · rfl
  · rfl

/-- Either the line was highlighted already, or the lines up to it are highlighted now. -/
theorem ensureHighlighted_cases (orderly : document.IsOrderly) (line : Nat) :
    (min line (document.lineCount - 1) < document.highlightedUntil ∧
        document.ensureHighlighted line = document) ∨
      (document.highlightedUntil ≤ min line (document.lineCount - 1) ∧
        (document.ensureHighlighted line).highlightedUntil =
          min line (document.lineCount - 1) + 1 ∧
        Rewrites document.mode document.lines document.highlightedUntil
          (min line (document.lineCount - 1) + 1) document.cache
          (document.ensureHighlighted line).cache) := by
  have length := orderly.length
  have positive := length_lineTexts_pos document.text
  rw [← lineCount_eq] at positive
  unfold lineCount at length positive ⊢
  unfold ensureHighlighted
  dsimp only
  split
  · rename_i known
    exact Or.inl ⟨known, rfl⟩
  · rename_i unknown
    refine Or.inr ⟨by omega, rfl, ?_⟩
    have rewrites := @extend_rewrites document.mode document.lines document.cache
      (min line (document.lines.length - 1) + 1 - document.highlightedUntil)
      document.highlightedUntil (by omega)
    rwa [Nat.add_sub_cancel' (by omega)] at rewrites

theorem ensureHighlighted_isOrderly (orderly : document.IsOrderly) (line : Nat) :
    (document.ensureHighlighted line).IsOrderly := by
  have count : (document.ensureHighlighted line).lineCount = document.lineCount := by
    rw [lineCount_eq, lineCount_eq, ensureHighlighted_text]
  have positive := length_lineTexts_pos document.text
  rw [← lineCount_eq] at positive
  rcases ensureHighlighted_cases orderly line with ⟨_, same⟩ | ⟨unknown, reached, rewrites⟩
  · rw [same]
    exact orderly
  · refine ⟨?_, ?_, ?_⟩
    · rw [rewrites.length, count]
      exact orderly.length
    · rw [reached, count]
      omega
    · intro other
      rw [reached]
      by_cases below : other < min line (document.lineCount - 1) + 1
      · by_cases before : other < document.highlightedUntil
        · rw [rewrites.outside other (Or.inl before)]
          exact iff_of_true ((orderly.known other).mpr before) below
        · exact iff_of_true
            (isConsistent_isSome (rewrites.inside other (Nat.le_of_not_lt before) below)) below
      · rw [rewrites.outside other (Or.inr (Nat.le_of_not_lt below)), orderly.known]
        exact iff_of_false (by omega) below

/-! ### Edits -/

namespace IsEdited

variable {after : Document} {newLast : Nat} {joins : Prop} {moved : List (Option LineHighlight)}

/-- The lines of which something is known when the entries have moved: those in front of the edit
and those that were known from its last line on. -/
theorem moved_isSome (edited : document.IsEdited after first last newLast joins moved)
    (orderly : document.IsOrderly) (line : Nat) :
    (cached? moved line).isSome ↔
      line < after.lineCount ∧
        (line < first.line ∧ line < document.highlightedUntil ∨
          newLast ≤ line ∧ last.line + (line - newLast) < document.highlightedUntil) := by
  have ordered := edited.splices.ordered
  have between := edited.splices.first_le_newLast
  by_cases bound : line < after.lineCount
  · rw [edited.entries line bound]
    split
    · rw [orderly.known]
      omega
    · split
      · simp only [Option.isSome_none, Bool.false_eq_true, false_iff]
        omega
      · rw [orderly.known]
        omega
  · have length := edited.length
    rw [cached?_of_length_le (by omega)]
    exact iff_of_false Bool.false_ne_true (fun both => bound both.1)

/-- Up to the line in front of which highlighting again ends, everything is known. -/
theorem isSome_of_lt (edited : document.IsEdited after first last newLast joins moved)
    (orderly : document.IsOrderly) {stop : Nat} (eager : first.line < document.highlightedUntil)
    (inside : stop ≤ after.lineCount)
    (rewrites : Rewrites after.mode after.lines first.line stop moved after.cache) {line : Nat}
    (below : line < stop) : (cached? after.cache line).isSome = true := by
  by_cases before : line < first.line
  · rw [rewrites.outside line (Or.inl before), edited.moved_isSome orderly]
    exact ⟨by omega, Or.inl ⟨before, by omega⟩⟩
  · exact isConsistent_isSome (rewrites.inside line (Nat.le_of_not_lt before) below)

/-- Where states at the end of a line are compared, the old one was known. -/
theorem known_of_converged (edited : document.IsEdited after first last newLast joins moved)
    (orderly : document.IsOrderly) {line : Nat} (some : (cached? after.cache line).isSome = true)
    (past : newLast ≤ line)
    (same : (cached? moved line).map (·.state) = (cached? after.cache line).map (·.state)) :
    last.line + (line - newLast) < document.highlightedUntil := by
  have old := congrArg Option.isSome same
  have between := edited.splices.first_le_newLast
  rw [Option.isSome_map, Option.isSome_map, some, edited.moved_isSome orderly] at old
  omega

/-- What is known behind the line where highlighting again ends. -/
theorem isSome_iff_of_le (edited : document.IsEdited after first last newLast joins moved)
    (orderly : document.IsOrderly) {stop : Nat} (eager : first.line < document.highlightedUntil)
    (later : first.line ≤ stop) (inside : stop ≤ after.lineCount)
    (rewrites : Rewrites after.mode after.lines first.line stop moved after.cache)
    (ends : CascadeEnds after.lineCount newLast (document.validEnd first last newLast) first.line
      stop moved after.cache after.highlightedUntil after.lastCascade.convergedAt) :
    stop ≤ after.highlightedUntil ∧ after.highlightedUntil ≤ after.lineCount ∧
      ∀ line, stop ≤ line →
        ((cached? after.cache line).isSome = true ↔ line < after.highlightedUntil) := by
  have behind : ∀ line, stop ≤ line → ((cached? after.cache line).isSome = true ↔
      line < after.lineCount ∧ newLast ≤ line ∧
        last.line + (line - newLast) < document.highlightedUntil) := by
    intro line beyond
    rw [rewrites.outside line (Or.inr beyond), edited.moved_isSome orderly]
    omega
  rcases ends.outcome with ⟨_, reached, unknown⟩ | ⟨converged, _, reached, next, _, past, same⟩
  · rw [reached]
    refine ⟨Nat.le_refl stop, inside, ?_⟩
    intro line beyond
    rw [behind line beyond]
    refine iff_of_false ?_ (Nat.not_lt_of_le beyond)
    rcases unknown with whole | ⟨past, none⟩
    · omega
    · have unknownStop := edited.moved_isSome orderly stop
      rw [none] at unknownStop
      simp only [Option.isSome_none, Bool.false_eq_true, false_iff] at unknownStop
      omega
  · have known := edited.known_of_converged orderly
      (edited.isSome_of_lt orderly eager inside rewrites (by omega)) past same
    have valid : document.validEnd first last newLast =
        document.highlightedUntil - last.line + newLast := by
      unfold validEnd
      rw [if_pos (by omega)]
    rw [reached, valid]
    refine ⟨by omega, Nat.min_le_right _ _, ?_⟩
    intro line beyond
    rw [behind line beyond]
    omega

/-- Whatever is replaced, there is one entry a line, and the first ones are known. -/
theorem isOrderly (edited : document.IsEdited after first last newLast joins moved)
    (orderly : document.IsOrderly) : after.IsOrderly := by
  have ordered := edited.splices.ordered
  have between := edited.splices.first_le_newLast
  have firstInside := edited.splices.firstInside
  rw [← lineCount_eq] at firstInside
  rcases edited.outcome with
    ⟨lazy, sameCache, sameUntil, _⟩ | ⟨eager, stop, later, inside, rewrites, ends⟩
  · refine ⟨?_, ?_, ?_⟩
    · rw [sameCache, edited.length]
    · omega
    · intro line
      rw [sameCache, sameUntil, edited.moved_isSome orderly]
      omega
  · obtain ⟨beyondStop, untilInside, known⟩ :=
      edited.isSome_iff_of_le orderly eager later inside rewrites ends
    refine ⟨?_, untilInside, ?_⟩
    · rw [rewrites.length, edited.length]
    · intro line
      by_cases below : line < stop
      · exact iff_of_true (edited.isSome_of_lt orderly eager inside rewrites below)
          (Nat.lt_of_lt_of_le below beyondStop)
      · exact known line (Nat.le_of_not_lt below)

end IsEdited

end SyntaxHighlight.Document
