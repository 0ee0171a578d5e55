/-
The spans of a line tile it. From any state, spans are nonempty and follow one another from the
first column to the last without a gap, neighbours have different formats, and every format is
registered; folding markers stand in order within the line.
-/

import Mathlib.Data.List.Chain
import SyntaxHighlight.Proofs.Highlight.Turn
import SyntaxHighlight.Proofs.Mode.Closure

namespace SyntaxHighlight

/-! ### Spans without gaps -/

/-- Nonempty spans that follow one another from a column up to another one. -/
def Span.Tile : (start : Nat) → List Span → (finish : Nat) → Prop
  | start, [], finish => start = finish
  | start, span :: rest, finish =>
      span.offset = start ∧ 0 < span.length ∧ Span.Tile span.finish rest finish

theorem Span.tile_concat (start finish : Nat) (spans : List Span) (span : Span) :
    Span.Tile start (spans ++ [span]) finish ↔
      Span.Tile start spans span.offset ∧ 0 < span.length ∧ span.finish = finish := by
  induction spans generalizing start with
  | nil =>
      constructor
      · rintro ⟨begins, nonempty, ends⟩
        exact ⟨begins.symm, nonempty, ends⟩
      · rintro ⟨begins, nonempty, ends⟩
        exact ⟨begins.symm, nonempty, ends⟩
  | cons first rest ih =>
      simp only [List.cons_append, Span.Tile, ih, and_assoc]

theorem Span.tile_le (start finish : Nat) (spans : List Span)
    (tiles : Span.Tile start spans finish) : start ≤ finish := by
  induction spans generalizing start with
  | nil => exact Nat.le_of_eq tiles
  | cons span rest ih =>
      obtain ⟨begins, _, tilesRest⟩ := tiles
      have ends := ih span.finish tilesRest
      unfold Span.finish at ends
      omega

/-- Among spans without gaps a column is covered by one exactly if it lies between their ends. -/
theorem Span.tile_find?_isSome (start finish column : Nat) (spans : List Span)
    (tiles : Span.Tile start spans finish) :
    (spans.find? fun span => span.offset ≤ column && column < span.finish).isSome ↔
      start ≤ column ∧ column < finish := by
  induction spans generalizing start with
  | nil =>
      have same : start = finish := tiles
      simp only [List.find?_nil, Option.isSome_none, Bool.false_eq_true, false_iff]
      omega
  | cons span rest ih =>
      obtain ⟨begins, nonempty, tilesRest⟩ := tiles
      have ends := Span.tile_le span.finish finish rest tilesRest
      rw [List.find?_cons]
      cases inside : (decide (span.offset ≤ column) && decide (column < span.finish)) with
      | true =>
          rw [Bool.and_eq_true, decide_eq_true_eq, decide_eq_true_eq] at inside
          simp only [Option.isSome_some, true_iff]
          omega
      | false =>
          rw [ih span.finish tilesRest]
          rw [Bool.and_eq_false_iff, decide_eq_false_iff_not, decide_eq_false_iff_not] at inside
          have bound : span.offset < span.finish := by
            unfold Span.finish
            omega
          omega

/-- A further span that begins where the spans end keeps them without gaps. -/
theorem Scan.addSpan_tile (spans : List Span) (span : Span)
    (tiles : Span.Tile 0 spans.reverse span.offset) (nonempty : 0 < span.length) :
    Span.Tile 0 (Scan.addSpan span spans).reverse span.finish := by
  cases spans with
  | nil =>
      have begins : 0 = span.offset := tiles
      exact ⟨begins.symm, nonempty, rfl⟩
  | cons latest rest =>
      rw [Scan.addSpan]
      split
      · rw [List.reverse_cons, Span.tile_concat] at tiles ⊢
        obtain ⟨before, latestNonempty, ends⟩ := tiles
        unfold Span.finish at ends ⊢
        dsimp only
        exact ⟨before, by omega, by omega⟩
      · rw [List.reverse_cons, Span.tile_concat]
        exact ⟨tiles, nonempty, rfl⟩

theorem Scan.addSpan_alternates (spans : List Span) (span : Span)
    (tiles : Span.Tile 0 spans.reverse span.offset)
    (alternates : spans.IsChain fun later earlier => later.format ≠ earlier.format) :
    (Scan.addSpan span spans).IsChain fun later earlier => later.format ≠ earlier.format := by
  cases spans with
  | nil => exact List.IsChain.singleton _
  | cons latest rest =>
      rw [Scan.addSpan]
      split
      · cases rest with
        | nil => exact List.IsChain.singleton _
        | cons earlier others =>
            rw [List.isChain_cons_cons] at alternates ⊢
            exact alternates
      · rename_i separate
        rw [List.reverse_cons, Span.tile_concat] at tiles
        obtain ⟨_, _, ends⟩ := tiles
        rw [List.isChain_cons_cons]
        refine ⟨?_, alternates⟩
        intro same
        exact separate ⟨same.symm, ends⟩

theorem Scan.addSpan_registered (formats : Nat) (spans : List Span) (span : Span)
    (registered : ∀ other, other ∈ spans → other.format < formats)
    (own : span.format < formats) (other : Span) (member : other ∈ Scan.addSpan span spans) :
    other.format < formats := by
  cases spans with
  | nil =>
      cases List.mem_singleton.mp member
      exact own
  | cons latest rest =>
      rw [Scan.addSpan] at member
      split at member
      · rcases List.mem_cons.mp member with same | earlier
        · rw [same]
          exact registered latest List.mem_cons_self
        · exact registered other (List.mem_cons_of_mem latest earlier)
      · rcases List.mem_cons.mp member with same | earlier
        · rw [same]
          exact own
        · exact registered other earlier

/-! ### The invariant of the scan -/

/-- What is known of a line up to a column: its spans tile the columns before, and its markers
stand in order up to the column. -/
structure Scan.IsTiled (formats : Nat) (line : List Char) (column : Nat) (scan : Scan) :
    Prop where
  tiles : Span.Tile 0 scan.spans.reverse column
  alternates : scan.spans.IsChain fun later earlier => later.format ≠ earlier.format
  registered : ∀ span, span ∈ scan.spans → span.format < formats
  ordered : scan.folding.Pairwise fun later earlier => earlier.offset ≤ later.offset
  reached : ∀ marker, marker ∈ scan.folding → marker.offset ≤ column
  inside : ∀ marker, marker ∈ scan.folding → marker.offset + marker.length ≤ line.length

namespace Scan.IsTiled

variable {formats column length : Nat} {line : List Char} {scan : Scan}

/-- Only spans and markers matter. -/
theorem congr {other : Scan} (tiled : scan.IsTiled formats line column)
    (spans : other.spans = scan.spans) (folding : other.folding = scan.folding) :
    other.IsTiled formats line column := by
  constructor
  · rw [spans]
    exact tiled.tiles
  · rw [spans]
    exact tiled.alternates
  · rw [spans]
    exact tiled.registered
  · rw [folding]
    exact tiled.ordered
  · rw [folding]
    exact tiled.reached
  · rw [folding]
    exact tiled.inside

theorem record (tiled : scan.IsTiled formats line column) (mode : Mode) (place : Nat) :
    (scan.record mode place).IsTiled formats line column :=
  tiled.congr rfl rfl

theorem apply (tiled : scan.IsTiled formats line column) (mode : Mode) (switch : Switch) :
    (scan.apply mode switch).1.IsTiled formats line column :=
  tiled.congr (scan.apply_spans mode switch) (scan.apply_folding mode switch)

theorem emit (tiled : scan.IsTiled formats line column) (nonempty : 0 < length) {format : Nat}
    (own : format < formats) :
    (scan.emit column length format).IsTiled formats line (column + length) := by
  have emitted : (scan.emit column length format).spans =
      addSpan ⟨column, length, format⟩ scan.spans := by
    unfold Scan.emit
    rw [if_neg (Nat.ne_of_gt nonempty)]
  constructor
  · rw [emitted]
    exact addSpan_tile scan.spans ⟨column, length, format⟩ tiled.tiles nonempty
  · rw [emitted]
    exact addSpan_alternates scan.spans ⟨column, length, format⟩ tiled.tiles tiled.alternates
  · rw [emitted]
    exact addSpan_registered formats scan.spans _ tiled.registered own
  · rw [emit_folding]
    exact tiled.ordered
  · rw [emit_folding]
    intro marker member
    exact Nat.le_trans (tiled.reached marker member) (Nat.le_add_right column length)
  · rw [emit_folding]
    exact tiled.inside

theorem forceProgress (tiled : scan.IsTiled formats line column) {context : Context}
    (own : context.format < formats) :
    (scan.forceProgress context column).IsTiled formats line (column + 1) :=
  (tiled.congr (scan.diagnose_spans _) (scan.diagnose_folding _)).emit Nat.one_pos own

theorem mark (tiled : scan.IsTiled formats line column)
    (withinLine : column + length ≤ line.length) (region : Nat) (kind : FoldingKind) :
    (scan.mark ⟨column, length, region, kind⟩).IsTiled formats line column where
  tiles := tiled.tiles
  alternates := tiled.alternates
  registered := tiled.registered
  ordered := List.pairwise_cons.mpr ⟨tiled.reached, tiled.ordered⟩
  reached := by
    intro marker member
    rcases List.mem_cons.mp member with same | earlier
    · rw [same]
    · exact tiled.reached marker earlier
  inside := by
    intro marker member
    rcases List.mem_cons.mp member with same | earlier
    · rw [same]
      exact withinLine
    · exact tiled.inside marker earlier

theorem enter (tiled : scan.IsTiled formats line column)
    (withinLine : column + length ≤ line.length) (rule : Rule) :
    (scan.enter rule column length).IsTiled formats line column := by
  have bare (continued : Bool) : { scan with continued }.IsTiled formats line column :=
    tiled.congr rfl rfl
  unfold Scan.enter Scan.markRegions
  cases rule.endRegion with
  | none =>
      cases rule.beginRegion with
      | none => exact bare _
      | some opened => exact (bare _).mark withinLine opened .opening
  | some closed =>
      cases rule.beginRegion with
      | none => exact (bare _).mark withinLine closed .closing
      | some opened =>
          exact ((bare _).mark withinLine closed .closing).mark withinLine opened .opening

end Scan.IsTiled

/-! ### Lines -/

theorem Scan.isTiled_start (formats : Nat) (line : List Char) (mode : Mode)
    (stack : ContextStack) :
    (({ stack } : Scan).record mode 0).IsTiled formats line 0 where
  tiles := rfl
  alternates := List.IsChain.nil
  registered := by intro span impossible; cases impossible
  ordered := List.Pairwise.nil
  reached := by intro marker impossible; cases impossible
  inside := by intro marker impossible; cases impossible

/-- In a closed mode every turn keeps the line tiled. -/
theorem Scan.isTiled_isKept {mode : Mode} (closed : mode.IsClosed) (line : List Char) :
    Scan.IsKept mode line fun column scan => scan.IsTiled mode.registry.size line column where
  again := by
    intro place scan next inLine tiled again
    unfold Scan.turn at again
    dsimp only at again
    split at again
    · obtain ⟨switch, _, _, rfl⟩ := Scan.fallThrough_eq_again again
      exact (tiled.apply mode switch).record mode place.index
    · rename_i rule length found
      obtain ⟨_, withinLine⟩ := Context.findRule?_eq_some found
      have columns := inLine.index_add_length
      have inside : place.index + length ≤ line.length := by omega
      obtain ⟨_, rfl⟩ := Scan.follow_eq_again again
      exact ((tiled.enter inside rule).apply mode rule.switch).record mode place.index
  taken := by
    intro place scan count next inLine tiled taken
    have within := closed.within _ (mode.context_mem scan.stack.top)
    unfold Scan.turn at taken
    dsimp only at taken
    split at taken
    · obtain ⟨rfl, rfl | ⟨switch, _, rfl⟩⟩ := Scan.fallThrough_eq_taken taken
      · exact tiled.emit Nat.one_pos within.format
      · exact (tiled.apply mode switch).emit Nat.one_pos within.format
    · rename_i rule length found
      obtain ⟨member, withinLine⟩ := Context.findRule?_eq_some found
      have columns := inLine.index_add_length
      have inside : place.index + length ≤ line.length := by omega
      have entered := (tiled.enter inside rule).apply mode rule.switch
      rcases Scan.follow_eq_taken taken with ⟨rfl, rfl⟩ | ⟨moved, rfl, format, own, next⟩
      · exact entered.forceProgress within.format
      · have registered : format < mode.registry.size := by
          rcases own with same | declared
          · rw [same]
            exact within.format
          · exact (within.rules rule member).format format declared
        rcases next with rfl | rfl
        · exact entered.emit moved registered
        · exact (entered.emit moved registered).record mode _
  forced := by
    intro place scan _ tiled
    exact tiled.forceProgress (closed.within _ (mode.context_mem scan.stack.top)).format

theorem Mode.scan_isTiled {mode : Mode} (closed : mode.IsClosed) (state : LineState)
    (line : List Char) (hasNext : Bool) :
    (mode.scan state line hasNext).IsTiled mode.registry.size line line.length := by
  have walked := Scan.walk_keeps (Scan.isTiled_isKept closed line) line [] 0 _ rfl
    (Nat.zero_le _) (Scan.isTiled_start _ line mode (state.stack mode.initial))
  unfold Mode.scan
  dsimp only
  split
  · exact walked
  · exact Scan.endLine_keeps
      (fun scan => scan.IsTiled mode.registry.size line line.length) line.isEmpty
      line.length _ _ walked (fun _ known => known.apply mode _)
      (fun _ known => known.record mode line.length)

/-- Whatever the state at its start, possibly one of another mode, a line is tiled by spans of
registered formats, and its folding markers stand in order within it. -/
theorem Mode.highlightLine_tile {main : Definition} {others : List Definition} {maxDepth : Nat}
    {mode : Mode} {engine : Pattern.Engine}
    (accepted : Mode.ofDefinitions main others maxDepth engine = .ok mode)
    (state : LineState) (line : List Char) (hasNext : Bool) :
    Span.Tile 0 (mode.highlightLine state line hasNext).spans line.length ∧
      (mode.highlightLine state line hasNext).spans.IsChain
        (fun earlier later => earlier.format ≠ later.format) ∧
      (∀ span, span ∈ (mode.highlightLine state line hasNext).spans →
        span.format < mode.registry.size) ∧
      (∀ column, ((mode.highlightLine state line hasNext).formatAt? column).isSome ↔
        column < line.length) ∧
      (mode.highlightLine state line hasNext).folding.Pairwise
        (fun earlier later => earlier.offset ≤ later.offset) ∧
      ∀ marker, marker ∈ (mode.highlightLine state line hasNext).folding →
        marker.offset + marker.length ≤ line.length := by
  have closed := Mode.isClosed_of_ofDefinitions accepted
  have tiled := Mode.scan_isTiled closed state line hasNext
  have highlighted : mode.highlightLine state line hasNext =
      (mode.scan state line hasNext).toLine mode := by
    rw [Mode.highlightLine, closed.notPlain, if_neg Bool.false_ne_true]
  rw [highlighted]
  refine ⟨tiled.tiles, List.isChain_reverse.mpr ?_, ?_, ?_, ?_, ?_⟩
  · exact tiled.alternates.imp fun _ _ different => different.symm
  · intro span member
    exact tiled.registered span (List.mem_reverse.mp member)
  · intro column
    rw [LineHighlight.formatAt?, Option.isSome_map]
    exact (Span.tile_find?_isSome 0 line.length column _ tiled.tiles).trans
      (and_iff_right (Nat.zero_le column))
  · exact List.pairwise_reverse.mpr tiled.ordered
  · intro marker member
    exact tiled.inside marker (List.mem_reverse.mp member)

theorem Mode.highlightLine_tile_blockLanguage :
    ∃ mode, Mode.ofDefinitions blockLanguage [numberLanguage] 8 = .ok mode ∧
      Span.Tile 0 (mode.highlightLine (.within ⟨9, [2]⟩) ['(', '1', ')'] true).spans 3 := by
  obtain ⟨mode, accepted⟩ := blockLanguage_accepted 8
  obtain ⟨tiles, _⟩ :=
    Mode.highlightLine_tile accepted (.within ⟨9, [2]⟩) ['(', '1', ')'] true
  exact ⟨mode, accepted, tiles⟩

end SyntaxHighlight
