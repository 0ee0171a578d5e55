/-
What highlighting an edit again does to a cache whose entries are right in front of the edit, and
behind it right for the states that the lines used to end in. All entries are right afterwards. The
lines that are highlighted are those from the first line of the edit to the first one, from the last
line of the edit on, that ends as it did before; without such a line they are all lines of which
something was known.
-/

import Mathlib
import SyntaxHighlight.Proofs.Document.Faithful
import SyntaxHighlight.Proofs.Mode.Closure

namespace SyntaxHighlight.Document

open SyntaxHighlight.Text

section Loop

variable {mode : Mode} {lines : List TextLine} {cache other : List (Option LineHighlight)}
  {line : Nat}

/-- Of the entry before, the highlight of a line depends on the state only. -/
theorem highlightAt_succ_congr
    (same : (cached? cache line).map (·.state) = (cached? other line).map (·.state)) :
    highlightAt mode lines cache (line + 1) = highlightAt mode lines other (line + 1) := by
  simp only [highlightAt, startState, same]

/-- The lines that are highlighted after an edit follow one another from the first one on. -/
theorem cascadeFrom_cache (last validEnd left start count : Nat) :
    ∃ passes, (cascadeFrom mode lines last validEnd left start count cache).count = count + passes ∧
      (cascadeFrom mode lines last validEnd left start count cache).cache =
        extend mode lines passes start cache := by
  induction left generalizing start count cache with
  | zero => exact ⟨0, rfl, rfl⟩
  | succ left ih =>
      rw [cascadeFrom]
      dsimp only
      split
      · exact ⟨0, rfl, rfl⟩
      · split
        · exact ⟨1, rfl, rfl⟩
        · obtain ⟨passes, counted, extended⟩ :=
            @ih (cache.set start (some (highlightAt mode lines cache start))) (start + 1)
              (count + 1)
          exact ⟨passes + 1, by omega, extended⟩

end Loop

variable {document after : Document} {first last validEnd : Nat}

/-- The entries in front of an edit are right. Of the lines from its last one on either nothing is
known, or the last one has an entry and those behind it, up to some line, are right for what is kept
of the line before. -/
structure IsRepairable (document : Document) (first last validEnd : Nat) : Prop where
  length : document.cache.length = document.lineCount
  before : ∀ line, line < first →
    IsConsistent document.mode document.lines document.cache line
  behind :
    (∀ line, last ≤ line → cached? document.cache line = none) ∨
      (cached? document.cache last).isSome ∧
        (∀ line, last < line → line < validEnd → line < document.lineCount →
          IsConsistent document.mode document.lines document.cache line) ∧
        ∀ line, max validEnd (last + 1) ≤ line → cached? document.cache line = none

/-- The end state of a line before and after an edit was highlighted again. -/
def KeepsState (document after : Document) (line : Nat) : Prop :=
  (cached? document.cache line).map (·.state) = (cached? after.cache line).map (·.state)

/-- How a document follows from one in which the lines of an edit had to be highlighted again. -/
structure IsRepaired (document after : Document) (first last : Nat) : Prop where
  known : ∀ line, line < after.highlightedUntil →
    IsConsistent document.mode document.lines after.cache line
  unknown : ∀ line, after.highlightedUntil ≤ line → cached? after.cache line = none
  rewritten : after.lastCascade.firstLine = first ∧
    after.cache =
      extend document.mode document.lines after.lastCascade.count first document.cache
  untouched : ∀ line, line < first ∨ first + after.lastCascade.count ≤ line →
    cached? after.cache line = cached? document.cache line
  whole : last < first + after.lastCascade.count ∧
    first + after.lastCascade.count ≤ after.highlightedUntil ∧
    after.highlightedUntil ≤ document.lineCount
  converged : ∀ stop, after.lastCascade.convergedAt = some stop →
    first + after.lastCascade.count = stop + 1 ∧ last ≤ stop ∧ document.KeepsState after stop ∧
      ∀ line, last ≤ line → line < stop → ¬document.KeepsState after line
  exhausted : after.lastCascade.convergedAt = none →
    after.highlightedUntil = first + after.lastCascade.count ∧
      (after.highlightedUntil = document.lineCount ∨
        cached? document.cache after.highlightedUntil = none) ∧
      ∀ line, last ≤ line → line < after.highlightedUntil → ¬document.KeepsState after line

/-- Highlighting again went over the lines in front of one, from the first line of an edit on. -/
structure Passes (document after : Document) (first last validEnd stop : Nat) : Prop where
  counted : first + after.lastCascade.count = stop
  within : stop ≤ document.lineCount
  firstLine : after.lastCascade.firstLine = first
  extended : after.cache =
    extend document.mode document.lines after.lastCascade.count first document.cache
  rewrites : Rewrites document.mode document.lines first stop document.cache after.cache
  ends : CascadeEnds document.lineCount last validEnd first stop document.cache after.cache
    after.highlightedUntil after.lastCascade.convergedAt
  changes : ChangesBut last first stop document.cache after.cache after.lastCascade.convergedAt

/-- Where something was known of the first line of an edit, lines are highlighted again. -/
theorem cascade_passes (length : document.cache.length = document.lineCount)
    (inside : first < document.lineCount) (eager : first < document.highlightedUntil) :
    ∃ stop, document.Passes (document.cascade first last validEnd) first last validEnd stop := by
  unfold cascade
  rw [if_neg (Nat.not_le_of_lt eager)]
  unfold lineCount at inside length
  obtain ⟨stop, later, within, counted, rewrites, ends, changes⟩ := @cascadeFrom_passes
    document.mode document.lines document.cache last validEnd (document.lines.length - first)
    first 0 length (by omega)
  obtain ⟨passes, countedAgain, extended⟩ := @cascadeFrom_cache document.mode document.lines
    document.cache last validEnd (document.lines.length - first) first 0
  rw [Nat.zero_add] at counted countedAgain
  rw [← countedAgain] at extended
  refine ⟨stop, ?_, within, rfl, extended, rewrites, ends, changes⟩
  dsimp only
  omega

namespace IsRepairable

variable {stop line : Nat}

/-- Nothing is known behind a line of which nothing is known. -/
theorem none_of_none (repairable : document.IsRepairable first last validEnd)
    (past : last < stop) (unknown : cached? document.cache stop = none) (beyond : stop ≤ line) :
    cached? document.cache line = none := by
  by_cases outside : document.lineCount ≤ line
  · apply cached?_of_length_le
    rw [repairable.length]
    exact outside
  · rcases repairable.behind with none | ⟨_, consistent, none⟩
    · exact none line (by omega)
    · by_cases valid : stop < validEnd
      · have known := consistent stop past valid (by omega)
        rw [IsConsistent, unknown] at known
        cases known
      · exact none line (by omega)

theorem isConsistent_of_lt (repairable : document.IsRepairable first last validEnd)
    (passes : document.Passes after first last validEnd stop) (below : line < stop) :
    IsConsistent document.mode document.lines after.cache line := by
  by_cases earlier : line < first
  · have same : ∀ before, before < line →
        cached? document.cache before = cached? after.cache before := by
      intro before less
      exact (passes.rewrites.outside before (by omega)).symm
    rw [IsConsistent, passes.rewrites.outside line (Or.inl earlier),
      repairable.before line earlier, highlightAt_congr same]
  · exact passes.rewrites.inside line (by omega) below

/-- What is kept behind a line that ends as before stays right. -/
theorem isConsistent_of_keepsState (repairable : document.IsRepairable first last validEnd)
    (passes : document.Passes after first last validEnd (stop + 1)) (past : last ≤ stop)
    (keeps : document.KeepsState after stop) (beyond : stop < line) (valid : line < validEnd)
    (inside : line < document.lineCount) :
    IsConsistent document.mode document.lines after.cache line := by
  have written := repairable.isConsistent_of_lt passes (Nat.lt_succ_self stop)
  have outside : ∀ line, stop < line → cached? after.cache line = cached? document.cache line :=
    fun line beyond => passes.rewrites.outside line (Or.inr beyond)
  rcases repairable.behind with none | ⟨_, consistent, _⟩
  · rw [KeepsState, none stop past, written] at keeps
    cases keeps
  · obtain ⟨before, rfl⟩ : ∃ before, line = before + 1 := ⟨line - 1, by omega⟩
    have same : document.KeepsState after before := by
      by_cases isStop : before = stop
      · rw [isStop]
        exact keeps
      · rw [KeepsState, outside before (by omega)]
    rw [IsConsistent, outside (before + 1) beyond, consistent (before + 1) (by omega) valid inside,
      highlightAt_succ_congr same]

theorem known_after (repairable : document.IsRepairable first last validEnd)
    (passes : document.Passes after first last validEnd stop)
    (below : line < after.highlightedUntil) :
    IsConsistent document.mode document.lines after.cache line := by
  by_cases passed : line < stop
  · exact repairable.isConsistent_of_lt passes passed
  · rcases passes.ends.outcome with ⟨_, reached, _⟩ | ⟨before, _, reached, next, _, past, same⟩
    · omega
    · subst next
      exact repairable.isConsistent_of_keepsState passes past same (by omega) (by omega) (by omega)

theorem unknown_after (repairable : document.IsRepairable first last validEnd)
    (passes : document.Passes after first last validEnd stop)
    (beyond : after.highlightedUntil ≤ line) : cached? after.cache line = none := by
  by_cases outside : document.lineCount ≤ line
  · apply cached?_of_length_le
    rw [passes.rewrites.length, repairable.length]
    exact outside
  · rcases passes.ends.outcome with
      ⟨_, reached, unknown⟩ | ⟨before, _, reached, next, _, past, _⟩
    · obtain ⟨beyondLast, none⟩ := unknown.resolve_left (by omega)
      rw [passes.rewrites.outside line (by omega)]
      exact repairable.none_of_none beyondLast none (by omega)
    · rw [passes.rewrites.outside line (by omega)]
      rcases repairable.behind with none | ⟨_, _, none⟩
      · exact none line (by omega)
      · exact none line (by omega)

end IsRepairable

/-- Highlighting an edit again makes all entries right, and goes no further than to the first line
that ends as before. -/
theorem cascade_isRepaired (repairable : document.IsRepairable first last validEnd)
    (ordered : first ≤ last) (inside : last < document.lineCount)
    (eager : first < document.highlightedUntil) :
    document.IsRepaired (document.cascade first last validEnd) first last := by
  obtain ⟨stop, passes⟩ := @cascade_passes document first last validEnd repairable.length
    (Nat.lt_of_le_of_lt ordered inside) eager
  generalize document.cascade first last validEnd = after at passes
  have counted := passes.counted
  have within := passes.within
  have untouched := passes.rewrites.outside
  rw [← counted] at untouched
  refine ⟨fun line => repairable.known_after passes,
    fun line => repairable.unknown_after passes,
    ⟨passes.firstLine, passes.extended⟩, untouched, ?_, ?_, ?_⟩
  · rcases passes.ends.outcome with ⟨_, reached, unknown⟩ | ⟨line, _, reached, next, _, past, _⟩
    · omega
    · omega
  · intro line found
    rcases passes.ends.outcome with ⟨never, _⟩ | ⟨_, foundAgain, _, next, _, past, same⟩
    · cases never.symm.trans found
    · cases foundAgain.symm.trans found
      refine ⟨counted.trans next, past, same, ?_⟩
      intro earlier beyond below keeps
      have stopped := (passes.changes earlier (by omega) beyond (by omega)).mp keeps
      cases found.symm.trans stopped
      exact Nat.lt_irrefl _ below
  · intro never
    rcases passes.ends.outcome with ⟨_, reached, unknown⟩ | ⟨_, found, _⟩
    · refine ⟨reached.trans counted.symm, ?_, ?_⟩
      · rw [reached]
        exact unknown.imp id And.right
      · intro line past below keeps
        have stopped := (passes.changes line (by omega) past (by omega)).mp keeps
        cases never.symm.trans stopped
    · cases never.symm.trans found

/-- The first line of a highlighted text, changed to open a block that the second line closes. -/
def blockOpened (mode : Mode) : Document :=
  ((ofText ['a', '\n', ')', '\n', 'b'] mode).ensureHighlighted 2).splice ⟨0, 0⟩ ⟨0, 1⟩ ['(']

theorem cascade_isRepaired_blockLanguage :
    ∃ mode, Mode.ofDefinitions blockLanguage [numberLanguage] 8 = .ok mode ∧
      (blockOpened mode).IsRepairable 0 0 3 ∧
      (blockOpened mode).IsRepaired ((blockOpened mode).cascade 0 0 3) 0 0 ∧
      ((blockOpened mode).cascade 0 0 3).lastCascade = ⟨0, 2, some 1⟩ := by
  have evaluated : (Mode.ofDefinitions blockLanguage [numberLanguage] 8).toOption.any (fun mode =>
      decide ((blockOpened mode).cache.length = 3 ∧ (blockOpened mode).lineCount = 3 ∧
          (blockOpened mode).highlightedUntil = 3) &&
        (cached? (blockOpened mode).cache 0).isSome &&
        [1, 2].all (fun line => decide (cached? (blockOpened mode).cache line =
          some (highlightAt (blockOpened mode).mode (blockOpened mode).lines
            (blockOpened mode).cache line))) &&
        decide (((blockOpened mode).cascade 0 0 3).lastCascade = ⟨0, 2, some 1⟩)) = true := by
    cbv
  obtain ⟨mode, accepted, facts⟩ := (Option.any_eq_true _ _).mp evaluated
  simp only [Bool.and_eq_true, List.all_eq_true, decide_eq_true_eq] at facts
  obtain ⟨⟨⟨⟨length, count, reached⟩, known⟩, consistent⟩, cost⟩ := facts
  have repairable : (blockOpened mode).IsRepairable 0 0 3 := by
    refine ⟨length.trans count.symm, fun line below => absurd below (Nat.not_lt_zero line),
      Or.inr ⟨known, ?_, ?_⟩⟩
    · intro line past valid _
      refine consistent line ?_
      simp only [List.mem_cons, List.not_mem_nil, or_false]
      omega
    · intro line beyond
      exact cached?_of_length_le (by omega)
  exact ⟨mode, Mode.ofDefinitions_of_toOption accepted, repairable,
    cascade_isRepaired repairable (Nat.le_refl 0) (by omega) (by omega), cost⟩

end SyntaxHighlight.Document
