/-
When the highlights that a document keeps are those of its text. Highlighting after an edit stops
at a line whose state did not change, and what is kept behind it is right as long as every entry
has moved with its line. An edit that joins a line break moves the entries one line too few: then
those kept are right exactly if neighbouring lines have the same highlights.
-/

import SyntaxHighlight.Proofs.Document.Bookkeeping

namespace SyntaxHighlight.Document

open SyntaxHighlight.Text

/-- The highlights of all lines, one after another from the first one on. -/
def allHighlights (document : Document) : List LineHighlight :=
  document.mode.lineHighlights .initial (lineTexts document.text)

/-- What is known of lines is what highlighting all of them gives. -/
def Agrees (document : Document) : Prop :=
  ∀ line, line < document.highlightedUntil →
    cached? document.cache line = document.allHighlights[line]?

/-- The highlight of a line in a new document with the same text and mode. -/
def freshHighlight? (document : Document) (line : Nat) : Option LineHighlight :=
  ((ofText document.text document.mode).lineHighlight? line).2

/-- Every highlight that is kept is the one that a new document has for its line. -/
def IsFaithful (document : Document) : Prop :=
  ∀ line highlight, cached? document.cache line = some highlight →
    document.freshHighlight? line = some highlight

variable {document : Document} {first last : Position} {text : List Char}

/-! ### New documents -/

theorem length_allHighlights (document : Document) :
    document.allHighlights.length = document.lineCount := by
  rw [allHighlights, Mode.length_lineHighlights, lineCount_eq]

theorem ensureHighlighted_agrees (orderly : document.IsOrderly) (agrees : document.Agrees)
    (line : Nat) : (document.ensureHighlighted line).Agrees := by
  have positive := length_lineTexts_pos document.text
  rw [← lineCount_eq] at positive
  rcases ensureHighlighted_cases orderly line with ⟨_, same⟩ | ⟨unknown, reached, rewrites⟩
  · rw [same]
    exact agrees
  · intro other bound
    rw [reached] at bound
    rw [allHighlights, ensureHighlighted_mode, ensureHighlighted_text]
    refine known_of_isConsistent ?_ ?_ rewrites.inside other bound
    · unfold lineCount at positive ⊢
      omega
    · intro before below
      rw [rewrites.outside before (Or.inl below)]
      exact agrees before below

theorem freshHighlight?_eq (document : Document) (line : Nat) :
    document.freshHighlight? line = document.allHighlights[line]? := by
  have orderly := ofText_isOrderly document.text document.mode
  unfold freshHighlight? lineHighlight?
  by_cases beyond : (ofText document.text document.mode).lineCount ≤ line
  · rw [if_pos beyond]
    refine (List.getElem?_eq_none ?_).symm
    rw [length_allHighlights]
    exact beyond
  · rw [if_neg beyond]
    dsimp only
    have agrees := ensureHighlighted_agrees orderly
      (fun other below => absurd below (Nat.not_lt_zero other)) line line
    rw [allHighlights, ensureHighlighted_mode, ensureHighlighted_text] at agrees
    apply agrees
    rcases ensureHighlighted_cases orderly line with ⟨known, _⟩ | ⟨_, reached, _⟩
    · exact absurd known (Nat.not_lt_zero _)
    · rw [reached]
      omega

theorem isFaithful_iff (orderly : document.IsOrderly) :
    document.IsFaithful ↔ document.Agrees := by
  constructor
  · intro faithful line below
    cases kept : cached? document.cache line with
    | none =>
        have known := (orderly.known line).mpr below
        rw [kept] at known
        cases known
    | some highlight => rw [← freshHighlight?_eq, faithful line highlight kept]
  · intro agrees line highlight kept
    have below : line < document.highlightedUntil := by
      rw [← orderly.known, kept]
      rfl
    rw [freshHighlight?_eq, ← agrees line below, kept]

/-! ### Edited documents -/

/-- Some highlight that is kept behind the line at which highlighting an edit again stopped is
not that of its line, but that of the line before it in the old text. -/
def Misplaces (document after : Document) (first last : Position) : Prop :=
  ∃ stop line, after.lastCascade.convergedAt = some stop ∧ stop < line ∧
    line < after.highlightedUntil ∧
    document.freshHighlight? (line + (last.line - first.line)) ≠ after.freshHighlight? line

namespace IsEdited

variable {after : Document} {newLast : Nat} {joins : Prop} {moved : List (Option LineHighlight)}

/-- In front of an edit nothing changes. -/
theorem allHighlights_before (edited : document.IsEdited after first last newLast joins moved)
    {line : Nat} (earlier : line < first.line) :
    after.allHighlights[line]? = document.allHighlights[line]? := by
  have splices := edited.splices
  have oldInside : first.line < (lineTexts document.text).length :=
    Nat.lt_of_le_of_lt splices.ordered splices.lastInside
  have follows : ∀ {lines : List (List Char)}, first.line < lines.length →
      lines.drop first.line ≠ [] := by
    intro lines inside none
    have length := congrArg List.length none
    rw [List.length_drop, List.length_nil] at length
    omega
  have same := @Mode.lineHighlights_take document.mode .initial
    ((lineTexts document.text).take first.line) _ _ (follows splices.firstInside)
    (follows oldInside)
  rw [List.take_append_drop, ← splices.before, List.take_append_drop, List.length_take,
    Nat.min_eq_left (Nat.le_of_lt splices.firstInside)] at same
  rw [allHighlights, allHighlights, edited.mode, ← List.getElem?_take_of_lt earlier, same,
    List.getElem?_take_of_lt earlier]

/-- Behind a line at which highlighting an edit again may stop, highlights move with the lines. -/
theorem allHighlights_behind (edited : document.IsEdited after first last newLast joins moved)
    (separate : ¬joins) {stop line : Nat} (past : newLast ≤ stop) (inside : stop < after.lineCount)
    (beyond : stop < line)
    (same : (after.allHighlights[stop]?).map (·.state) =
      (document.allHighlights[last.line + (stop - newLast)]?).map (·.state)) :
    after.allHighlights[line]? = document.allHighlights[last.line + (line - newLast)]? := by
  obtain ⟨_, _, behind⟩ := edited.splices.separate separate
  have lines : (lineTexts after.text).drop (stop + 1) =
      (lineTexts document.text).drop (last.line + (stop - newLast) + 1) := by
    have further := congrArg (List.drop (stop - newLast)) behind
    rw [List.drop_drop, List.drop_drop] at further
    rw [show stop + 1 = newLast + 1 + (stop - newLast) by omega, further]
    congr 1
    omega
  rw [lineCount_eq] at inside
  rw [allHighlights, allHighlights, edited.mode] at same ⊢
  have highlights := congrArg (fun highlights => highlights[line - (stop + 1)]?)
    (Mode.lineHighlights_drop_eq inside same lines)
  rw [List.getElem?_drop, List.getElem?_drop] at highlights
  rw [show stop + 1 + (line - (stop + 1)) = line by omega,
    show last.line + (stop - newLast) + 1 + (line - (stop + 1)) = last.line + (line - newLast) by
      omega] at highlights
  exact highlights

theorem moved_before (edited : document.IsEdited after first last newLast joins moved)
    (agrees : document.Agrees) {line : Nat} (earlier : line < first.line)
    (known : line < document.highlightedUntil) :
    cached? moved line = after.allHighlights[line]? := by
  have firstInside := edited.splices.firstInside
  rw [← lineCount_eq] at firstInside
  rw [edited.entries line (by omega), if_pos earlier, agrees line known,
    edited.allHighlights_before earlier]

/-- What is highlighted again is right. -/
theorem agrees_of_lt (edited : document.IsEdited after first last newLast joins moved)
    (agrees : document.Agrees) {stop : Nat} (eager : first.line < document.highlightedUntil)
    (inside : stop ≤ after.lineCount)
    (rewrites : Rewrites after.mode after.lines first.line stop moved after.cache) {line : Nat}
    (below : line < stop) : cached? after.cache line = after.allHighlights[line]? := by
  refine known_of_isConsistent inside ?_ rewrites.inside line below
  intro earlier less
  rw [rewrites.outside earlier (Or.inl less)]
  exact edited.moved_before agrees less (Nat.lt_trans less eager)

/-- What is kept behind the edit is what was known at the place from which it has moved. -/
theorem moved_behind (edited : document.IsEdited after first last newLast joins moved)
    (agrees : document.Agrees) {line : Nat} (past : newLast ≤ line)
    (inside : line < after.lineCount)
    (known : last.line + (line - newLast) < document.highlightedUntil) :
    cached? moved line = document.allHighlights[last.line + (line - newLast)]? := by
  have between := edited.splices.first_le_newLast
  rw [edited.entries line inside, if_neg (by omega), if_neg (by omega), agrees _ known]

/-- If highlighting again did not stop at a line whose state is the old one, nothing is kept behind
the lines that it went over. -/
theorem agrees_of_not_converged
    (edited : document.IsEdited after first last newLast joins moved) (agrees : document.Agrees)
    (never : after.lastCascade.convergedAt = none) : after.Agrees := by
  intro line below
  rcases edited.outcome with
    ⟨lazy, sameCache, sameUntil, _⟩ | ⟨eager, stop, _, inside, rewrites, ends⟩
  · rw [sameCache, edited.moved_before agrees (by omega) (by omega)]
  · rcases ends.outcome with ⟨_, reached, _⟩ | ⟨converged, found, _⟩
    · rw [reached] at below
      exact edited.agrees_of_lt agrees eager inside rewrites below
    · rw [never] at found
      cases found

/-- If highlighting again stopped at a line, all depends on what is kept behind it. -/
theorem agrees_iff_of_converged
    (edited : document.IsEdited after first last newLast joins moved)
    (orderly : document.IsOrderly) (agrees : document.Agrees) {stop : Nat}
    (found : after.lastCascade.convergedAt = some stop) :
    newLast ≤ stop ∧ stop < after.lineCount ∧
      (after.allHighlights[stop]?).map (·.state) =
        (document.allHighlights[last.line + (stop - newLast)]?).map (·.state) ∧
      (after.Agrees ↔ ∀ line, stop < line → line < after.highlightedUntil →
        document.allHighlights[last.line + (line - newLast)]? = after.allHighlights[line]?) := by
  have afterOrderly := edited.isOrderly orderly
  rcases edited.outcome with ⟨_, _, _, never⟩ | ⟨eager, next, _, inside, rewrites, ends⟩
  · rw [never] at found
    cases found
  · rcases ends.outcome with ⟨never, _⟩ | ⟨converged, stopped, _, behind, _, past, same⟩
    · rw [never] at found
      cases found
    · rw [stopped] at found
      cases found
      have through : ∀ line, line < next →
          cached? after.cache line = after.allHighlights[line]? :=
        fun line below => edited.agrees_of_lt agrees eager inside rewrites below
      have kept : ∀ line, stop < line → line < after.highlightedUntil →
          cached? after.cache line =
            document.allHighlights[last.line + (line - newLast)]? := by
        intro line beyond below
        have known := (afterOrderly.known line).mpr below
        have untilInside := afterOrderly.inside
        rw [rewrites.outside line (Or.inr (by omega)), edited.moved_isSome orderly] at known
        rw [rewrites.outside line (Or.inr (by omega))]
        exact edited.moved_behind agrees (by omega) (by omega) (by omega)
      have known := edited.known_of_converged orderly
        (edited.isSome_of_lt orderly eager inside rewrites (by omega)) past same
      refine ⟨past, by omega, ?_, ?_⟩
      · rw [← through stop (by omega), ← same, edited.moved_behind agrees past (by omega) known]
      · constructor
        · intro afterAgrees line beyond below
          rw [← kept line beyond below, afterAgrees line below]
        · intro sameBehind line below
          by_cases earlier : line < next
          · exact through line earlier
          · rw [kept line (by omega) below, sameBehind line (by omega) below]

theorem agrees_iff (edited : document.IsEdited after first last newLast joins moved)
    (orderly : document.IsOrderly) (agrees : document.Agrees) :
    after.Agrees ↔ ¬(joins ∧ document.Misplaces after first last) := by
  cases found : after.lastCascade.convergedAt with
  | none =>
      refine iff_of_true (edited.agrees_of_not_converged agrees found) ?_
      rintro ⟨_, stop, _, foundOther, _⟩
      rw [found] at foundOther
      cases foundOther
  | some stop =>
      obtain ⟨past, inside, states, keptIff⟩ :=
        edited.agrees_iff_of_converged orderly agrees found
      rw [keptIff]
      by_cases join : joins
      · obtain ⟨sameLast, _⟩ := edited.splices.joined join
        have ordered := edited.splices.ordered
        have shift : ∀ line, stop < line →
            last.line + (line - newLast) = line + (last.line - first.line) := by
          intro line beyond
          omega
        constructor
        · rintro same ⟨_, other, line, foundOther, beyond, below, different⟩
          rw [found] at foundOther
          cases foundOther
          rw [freshHighlight?_eq, freshHighlight?_eq, ← shift line beyond] at different
          exact different (same line beyond below)
        · intro inPlace line beyond below
          by_cases same : document.allHighlights[last.line + (line - newLast)]? =
              after.allHighlights[line]?
          · exact same
          · refine absurd ⟨join, stop, line, found, beyond, below, ?_⟩ inPlace
            rw [freshHighlight?_eq, freshHighlight?_eq, ← shift line beyond]
            exact same
      · refine iff_of_true ?_ (fun both => join both.1)
        intro line beyond _
        exact (edited.allHighlights_behind join past inside beyond states).symm

end IsEdited

end SyntaxHighlight.Document
