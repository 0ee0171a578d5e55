/-
What highlighting does to a cache. Both loops go over neighbouring lines once: every entry that
they write is the highlight of its line from the state that the entry before it ends in, and all
other entries stay.
-/

import SyntaxHighlight.Document.Basic
import SyntaxHighlight.Proofs.Highlight.Chain

namespace SyntaxHighlight.Document

open SyntaxHighlight.Text

/-! ### Entries -/

section Entries

variable {cache : List (Option LineHighlight)} {line : Nat}

theorem cached?_of_length_le (behind : cache.length ≤ line) : cached? cache line = none := by
  rw [cached?, List.getElem?_eq_none behind]
  rfl

theorem cached?_set (inside : line < cache.length) (highlight : LineHighlight) :
    cached? (cache.set line (some highlight)) line = some highlight := by
  rw [cached?, List.getElem?_set_self inside]
  rfl

theorem cached?_set_ne {other : Nat} (different : line ≠ other) (highlight : LineHighlight) :
    cached? (cache.set line (some highlight)) other = cached? cache other := by
  rw [cached?, List.getElem?_set_ne different, cached?]

theorem cached?_map_none {α : Type} (lines : List α) (line : Nat) :
    cached? (lines.map fun _ => none) line = none := by
  rw [cached?, List.getElem?_map]
  cases lines[line]? with
  | none => rfl
  | some _ => rfl

end Entries

/-! ### Consistent entries -/

variable {mode : Mode} {lines : List TextLine} {cache other : List (Option LineHighlight)}
  {line : Nat}

/-- The entry of a line is its highlight, given the entry of the line before. -/
def IsConsistent (mode : Mode) (lines : List TextLine) (cache : List (Option LineHighlight))
    (line : Nat) : Prop :=
  cached? cache line = some (highlightAt mode lines cache line)

theorem highlightAt_congr (same : ∀ before, before < line →
    cached? cache before = cached? other before) :
    highlightAt mode lines cache line = highlightAt mode lines other line := by
  cases line with
  | zero => rfl
  | succ line =>
      rw [highlightAt, highlightAt, startState, startState, same line (Nat.lt_succ_self line)]

/-- In front of a line, entries are consistent exactly if they are those of highlighting all
lines. -/
theorem highlightAt_eq (inside : line < lines.length)
    (known : ∀ before, before < line →
      cached? cache before = (mode.lineHighlights .initial (lines.map (·.chars)))[before]?) :
    (mode.lineHighlights .initial (lines.map (·.chars)))[line]? =
      some (highlightAt mode lines cache line) := by
  have present : (lines.map (·.chars))[line]? = some lines[line].chars := by
    rw [List.getElem?_map, List.getElem?_eq_getElem inside]
    rfl
  unfold highlightAt
  rw [List.getElem?_eq_getElem inside]
  cases line with
  | zero =>
      rw [Mode.lineHighlights_first, present, List.getElem?_map, Option.isSome_map]
      rfl
  | succ line =>
      have before := known line (Nat.lt_succ_self line)
      cases entry : (mode.lineHighlights .initial (lines.map (·.chars)))[line]? with
      | none =>
          have beyond := List.getElem?_eq_none_iff.mp entry
          rw [Mode.length_lineHighlights, List.length_map] at beyond
          omega
      | some highlight =>
          rw [Mode.lineHighlights_next entry, present, List.getElem?_map, Option.isSome_map,
            startState, before, entry]
          rfl

/-- Consistent entries behind those of highlighting all lines are such entries as well. -/
theorem known_of_isConsistent {start stop : Nat} (inside : stop ≤ lines.length)
    (known : ∀ line, line < start →
      cached? cache line = (mode.lineHighlights .initial (lines.map (·.chars)))[line]?)
    (consistent : ∀ line, start ≤ line → line < stop → IsConsistent mode lines cache line)
    (line : Nat) (bound : line < stop) :
    cached? cache line = (mode.lineHighlights .initial (lines.map (·.chars)))[line]? := by
  induction line using Nat.strongRecOn with
  | ind line ih =>
      by_cases before : line < start
      · exact known line before
      · rw [consistent line (Nat.le_of_not_lt before) bound]
        refine (highlightAt_eq (Nat.lt_of_lt_of_le bound inside) ?_).symm
        intro earlier less
        exact ih earlier less (Nat.lt_trans less bound)

/-! ### Highlighting further lines -/

/-- A loop over the lines from one on up to another one has made their entries consistent, and
left the others as they were. -/
structure Rewrites (mode : Mode) (lines : List TextLine) (start stop : Nat)
    (cache after : List (Option LineHighlight)) : Prop where
  length : after.length = cache.length
  outside : ∀ line, line < start ∨ stop ≤ line → cached? after line = cached? cache line
  inside : ∀ line, start ≤ line → line < stop → IsConsistent mode lines after line

theorem Rewrites.refl (mode : Mode) (lines : List TextLine) (start : Nat)
    (cache : List (Option LineHighlight)) : Rewrites mode lines start start cache cache where
  length := rfl
  outside := fun _ _ => rfl
  inside := fun _ from_ below => absurd below (Nat.not_lt_of_le from_)

/-- The entry of one line is written before those behind it. -/
theorem Rewrites.cons {start stop : Nat} {after : List (Option LineHighlight)}
    (inside : start < cache.length) (bound : start < stop)
    (behind : Rewrites mode lines (start + 1) stop
      (cache.set start (some (highlightAt mode lines cache start))) after) :
    Rewrites mode lines start stop cache after where
  length := by
    rw [behind.length, List.length_set]
  outside := by
    intro line outside
    rw [behind.outside line (by omega)]
    exact cached?_set_ne (by omega) _
  inside := by
    intro line from_ below
    by_cases first : line = start
    · subst first
      have before : ∀ earlier, earlier < line →
          cached? cache earlier = cached? after earlier := by
        intro earlier less
        rw [behind.outside earlier (by omega)]
        exact (cached?_set_ne (by omega) _).symm
      rw [IsConsistent, behind.outside line (by omega), cached?_set inside,
        highlightAt_congr before]
    · exact behind.inside line (by omega) below

theorem extend_rewrites (count start : Nat) (bound : start + count ≤ cache.length) :
    Rewrites mode lines start (start + count) cache (extend mode lines count start cache) := by
  induction count generalizing start cache with
  | zero => exact Rewrites.refl mode lines start cache
  | succ count ih =>
      have room : start + 1 + count ≤
          (cache.set start (some (highlightAt mode lines cache start))).length := by
        rw [List.length_set]
        omega
      have behind := ih (start + 1) room
      rw [Nat.add_assoc, Nat.add_comm 1] at behind
      exact behind.cons (by omega) (by omega)

/-- How highlighting after an edit ends in front of a line: at one of which nothing was known, at
the last one, or at one whose state did not change. -/
inductive CascadeEnds (lineCount last validEnd start stop : Nat)
    (cache after : List (Option LineHighlight)) : (highlightedUntil : Nat) → Option Nat → Prop
  | stopped (unknown : stop = lineCount ∨ last < stop ∧ cached? cache stop = none) :
      CascadeEnds lineCount last validEnd start stop cache after stop none
  | converged (line : Nat) (next : stop = line + 1) (later : start ≤ line) (beyond : last ≤ line)
      (same : (cached? cache line).map (·.state) = (cached? after line).map (·.state)) :
      CascadeEnds lineCount last validEnd start stop cache after
        (min (max validEnd stop) lineCount) (some line)

theorem CascadeEnds.cons {lineCount last validEnd start stop highlightedUntil : Nat}
    {after : List (Option LineHighlight)} {convergedAt : Option Nat} {highlight : LineHighlight}
    (ends : CascadeEnds lineCount last validEnd (start + 1) stop
      (cache.set start (some highlight)) after highlightedUntil convergedAt)
    (bound : start < stop) :
    CascadeEnds lineCount last validEnd start stop cache after highlightedUntil convergedAt := by
  cases ends with
  | stopped unknown =>
      rw [cached?_set_ne (Nat.ne_of_lt bound)] at unknown
      exact .stopped unknown
  | converged line next later beyond same =>
      rw [cached?_set_ne (Nat.ne_of_lt later)] at same
      exact .converged line next (Nat.le_of_lt later) beyond same

theorem CascadeEnds.outcome {lineCount last validEnd start stop highlightedUntil : Nat}
    {cache after : List (Option LineHighlight)} {convergedAt : Option Nat}
    (ends : CascadeEnds lineCount last validEnd start stop cache after highlightedUntil
      convergedAt) :
    (convergedAt = none ∧ highlightedUntil = stop ∧
        (stop = lineCount ∨ last < stop ∧ cached? cache stop = none)) ∨
      ∃ line, convergedAt = some line ∧ highlightedUntil = min (max validEnd stop) lineCount ∧
        stop = line + 1 ∧ start ≤ line ∧ last ≤ line ∧
        (cached? cache line).map (·.state) = (cached? after line).map (·.state) := by
  cases ends with
  | stopped unknown => exact Or.inl ⟨rfl, rfl, unknown⟩
  | converged line next later beyond same =>
      exact Or.inr ⟨line, rfl, rfl, next, later, beyond, same⟩

/-- Of the lines that a loop went over, from one on, the states of all have changed but that of the
line at which it ended early. -/
def ChangesBut (last start stop : Nat) (cache after : List (Option LineHighlight))
    (convergedAt : Option Nat) : Prop :=
  ∀ line, start ≤ line → last ≤ line → line < stop →
    ((cached? cache line).map (·.state) = (cached? after line).map (·.state) ↔
      convergedAt = some line)

theorem ChangesBut.refl (last start : Nat) (cache : List (Option LineHighlight))
    (convergedAt : Option Nat) : ChangesBut last start start cache cache convergedAt :=
  fun _ from_ _ below => absurd below (Nat.not_lt_of_le from_)

theorem ChangesBut.cons {last start stop : Nat} {after : List (Option LineHighlight)}
    {convergedAt : Option Nat} {highlight : LineHighlight}
    (behind : ChangesBut last (start + 1) stop (cache.set start (some highlight)) after convergedAt)
    (first : last ≤ start →
      ((cached? cache start).map (·.state) = (cached? after start).map (·.state) ↔
        convergedAt = some start)) :
    ChangesBut last start stop cache after convergedAt := by
  intro line from_ beyond below
  by_cases isFirst : line = start
  · subst isFirst
    exact first beyond
  · have changes := behind line (by omega) beyond below
    rwa [cached?_set_ne (by omega)] at changes

/-- Highlighting after an edit goes over the lines up to some line, and counts them. -/
theorem cascadeFrom_passes (last validEnd left start count : Nat)
    (length : cache.length = lines.length) (whole : start + left = lines.length) :
    ∃ stop, start ≤ stop ∧ stop ≤ lines.length ∧
      (cascadeFrom mode lines last validEnd left start count cache).count =
        count + (stop - start) ∧
      Rewrites mode lines start stop cache
        (cascadeFrom mode lines last validEnd left start count cache).cache ∧
      CascadeEnds lines.length last validEnd start stop cache
        (cascadeFrom mode lines last validEnd left start count cache).cache
        (cascadeFrom mode lines last validEnd left start count cache).highlightedUntil
        (cascadeFrom mode lines last validEnd left start count cache).convergedAt ∧
      ChangesBut last start stop cache
        (cascadeFrom mode lines last validEnd left start count cache).cache
        (cascadeFrom mode lines last validEnd left start count cache).convergedAt := by
  induction left generalizing start count cache with
  | zero =>
      exact ⟨start, Nat.le_refl start, by omega, by simp [cascadeFrom],
        Rewrites.refl mode lines start cache, .stopped (Or.inl whole), .refl last start cache _⟩
  | succ left ih =>
      have written : cached? (cache.set start (some (highlightAt mode lines cache start))) start =
          some (highlightAt mode lines cache start) := cached?_set (by omega) _
      rw [cascadeFrom]
      dsimp only
      split
      · rename_i unknown
        rw [Bool.and_eq_true, decide_eq_true_eq, Option.isNone_iff_eq_none] at unknown
        exact ⟨start, Nat.le_refl start, by omega, by simp, Rewrites.refl mode lines start cache,
          .stopped (Or.inr unknown), .refl last start cache _⟩
      · split
        · rename_i stable
          rw [Bool.and_eq_true, decide_eq_true_eq, decide_eq_true_eq] at stable
          have same : (cached? cache start).map (·.state) =
              (cached? (cache.set start (some (highlightAt mode lines cache start))) start).map
                (·.state) := by
            rw [stable.2, written]
            rfl
          refine ⟨start + 1, Nat.le_succ start, by omega, by simp,
            (Rewrites.refl mode lines (start + 1) _).cons (by omega) (Nat.lt_succ_self start),
            .converged start rfl (Nat.le_refl start) stable.1 same,
            (ChangesBut.refl last (start + 1) _ _).cons fun _ => iff_of_true same rfl⟩
        · rename_i unstable
          have room : (cache.set start (some (highlightAt mode lines cache start))).length =
              lines.length := by
            rw [List.length_set, length]
          obtain ⟨stop, later, inside, counted, rewrites, ends, changes⟩ :=
            ih (start + 1) (count + 1) room (by omega)
          refine ⟨stop, by omega, inside, by omega, rewrites.cons (by omega) (by omega),
            ends.cons later, changes.cons fun beyond => ?_⟩
          rw [rewrites.outside start (Or.inl (Nat.lt_succ_self start)), written]
          refine iff_of_false ?_ ?_
          · intro same
            exact unstable (by simp [beyond, same])
          · intro converged
            rcases ends.outcome with ⟨never, _⟩ | ⟨line, found, _, _, behind, _⟩
            · rw [never] at converged
              cases converged
            · rw [converged] at found
              cases found
              omega

/-- Either nothing was known of the lines from the first one of an edit on, or these are
highlighted again. -/
theorem cascade_cases (document : Document) (first last validEnd : Nat)
    (length : document.cache.length = document.lineCount) (inside : first < document.lineCount) :
    (document.highlightedUntil ≤ first ∧
        (document.cascade first last validEnd).cache = document.cache ∧
        (document.cascade first last validEnd).highlightedUntil = document.highlightedUntil ∧
        (document.cascade first last validEnd).lastCascade.convergedAt = none) ∨
      (first < document.highlightedUntil ∧
        ∃ stop, first ≤ stop ∧ stop ≤ document.lineCount ∧
          Rewrites document.mode document.lines first stop document.cache
            (document.cascade first last validEnd).cache ∧
          CascadeEnds document.lineCount last validEnd first stop document.cache
            (document.cascade first last validEnd).cache
            (document.cascade first last validEnd).highlightedUntil
            (document.cascade first last validEnd).lastCascade.convergedAt) := by
  unfold cascade
  split
  · rename_i lazy
    exact Or.inl ⟨lazy, rfl, rfl, rfl⟩
  · rename_i behind
    unfold lineCount at inside
    obtain ⟨stop, later, within, _, rewrites, ends, _⟩ := @cascadeFrom_passes document.mode
      document.lines document.cache last validEnd (document.lines.length - first) first 0 length
      (by omega)
    exact Or.inr ⟨Nat.lt_of_not_le behind, stop, later, within, rewrites, ends⟩

end SyntaxHighlight.Document
