/-
Questions about places behind the end of a line. For the context the line is highlighted again from
the state at its start, while the format is read from what is kept of the line. Both are those of
the context in which the line ends if what is kept is the highlight of the line. An edit that joins
a line break may leave the highlight of another line there; then they are if that one happens to
agree with the line.
-/

import SyntaxHighlight.Proofs.Document.Queries
import SyntaxHighlight.Proofs.Highlight.ContextTrace
import SyntaxHighlight.Proofs.Highlight.Tiling

namespace SyntaxHighlight

open SyntaxHighlight.Text

/-- No span of a line reaches beyond its end. -/
theorem Mode.formatAt?_of_length_le {mode : Mode} (closed : mode.IsClosed) (state : LineState)
    (line : List Char) (hasNext : Bool) {column : Nat} (beyond : line.length ≤ column) :
    (mode.highlightLine state line hasNext).formatAt? column = none := by
  have tiled := Mode.scan_isTiled closed state line hasNext
  have covered := Span.tile_find?_isSome 0 line.length column _ tiled.tiles
  rw [Mode.highlightLine, closed.notPlain, if_neg Bool.false_ne_true, LineHighlight.formatAt?,
    Option.map_eq_none_iff]
  apply Option.not_isSome_iff_eq_none.mp
  intro found
  exact absurd (covered.mp found).2 (Nat.not_lt_of_le beyond)

/-- Behind the end of a line the context is active in which it ends. -/
theorem Mode.contextAt?_of_length_le {main : Definition} {others : List Definition} {maxDepth : Nat}
    {mode : Mode} {engine : Pattern.Engine}
    (accepted : Mode.ofDefinitions main others maxDepth engine = .ok mode)
    {source : LineSource} {line column : Nat} {text : List Char}
    (found : source.line? line = some text) (reached : mode.Reaches (source.startState line))
    (beyond : text.length ≤ column) :
    (mode.contextAt? source line column).map (·.id) =
      some (mode.topContext (mode.highlightLine (source.startState line) text
        (source.line? (line + 1)).isSome).state) := by
  obtain ⟨change, latest, top⟩ := Option.map_eq_some_iff.mp
    (activeChange?_beyond accepted reached text (source.line? (line + 1)).isSome beyond)
  have present := context?_topContext accepted
    (reached.line _ text (source.line? (line + 1)).isSome)
  have shown := (isClosed_of_ofDefinitions accepted).notPlain
  unfold contextAt?
  simp only [shown, found, latest, Option.bind_some, top, Bool.false_eq_true, if_false]
  exact present

namespace Document

variable {document after : Document} {operation : Operation}

/-! ### States that are kept -/

section Caches

variable {mode : Mode} {lines : List TextLine} {cache other : List (Option LineHighlight)}

/-- The states in which lines end, as far as they are known, are states that the mode reaches. -/
def IsReached (mode : Mode) (cache : List (Option LineHighlight)) : Prop :=
  ∀ line highlight, cached? cache line = some highlight → mode.Reaches highlight.state

theorem forgotten_isReached {α : Type} (mode : Mode) (lines : List α) :
    IsReached mode (lines.map fun _ => none) := by
  intro line highlight known
  rw [cached?_map_none] at known
  cases known

theorem reaches_startState {line : Nat} (reached : ∀ before highlight, before < line →
      cached? cache before = some highlight → mode.Reaches highlight.state) :
    mode.Reaches (startState cache line) := by
  cases line with
  | zero => exact .initial
  | succ line =>
      rw [startState]
      cases known : cached? cache line with
      | none => exact .initial
      | some highlight => exact reached line highlight (Nat.lt_succ_self line) known

theorem Rewrites.isReached {start stop : Nat}
    (rewrites : Rewrites mode lines start stop cache other) (reached : IsReached mode cache) :
    IsReached mode other := by
  intro line
  induction line using Nat.strongRecOn with
  | ind line ih =>
      intro highlight known
      -- An entry that is written starts in the state of the one before, which the induction covers.
      by_cases written : start ≤ line ∧ line < stop
      · have consistent := rewrites.inside line written.1 written.2
        cases known.symm.trans consistent
        exact .line _ _ _ (reaches_startState fun before highlight below =>
          ih before below highlight)
      · rw [rewrites.outside line (by omega)] at known
        exact reached line highlight known

end Caches

theorem IsEdited.isReached {first last : Position} {newLast : Nat} {joins : Prop}
    {moved : List (Option LineHighlight)}
    (edited : document.IsEdited after first last newLast joins moved)
    (reached : IsReached document.mode document.cache) : IsReached after.mode after.cache := by
  have kept : IsReached after.mode moved := by
    intro line highlight known
    by_cases inside : line < after.lineCount
    · rw [edited.entries line inside] at known
      rw [edited.mode]
      split at known
      · exact reached _ _ known
      · split at known
        · cases known
        · exact reached _ _ known
    · rw [cached?_of_length_le (by rw [edited.length]; omega)] at known
      cases known
  rcases edited.outcome with ⟨_, same, _⟩ | ⟨_, stop, _, _, rewrites, _⟩
  · rw [same]
    exact kept
  · exact rewrites.isReached kept

theorem ensureHighlighted_isReached (orderly : document.IsOrderly)
    (reached : IsReached document.mode document.cache) (line : Nat) :
    IsReached (document.ensureHighlighted line).mode (document.ensureHighlighted line).cache := by
  rw [ensureHighlighted_mode]
  rcases ensureHighlighted_cases orderly line with ⟨_, same⟩ | ⟨_, _, rewrites⟩
  · rwa [same]
  · exact rewrites.isReached reached

theorem perform?_isReached (orderly : document.IsOrderly)
    (performed : document.perform? operation = some after)
    (reached : IsReached document.mode document.cache) : IsReached after.mode after.cache := by
  cases performs_of_perform? performed with
  | edit edit _ position _ firstHeld lastHeld made =>
      exact (replace?_isEdited orderly.length firstHeld lastHeld made).isReached reached
  | setMode _ mode => exact forgotten_isReached mode document.cache
  | ensureHighlighted _ line => exact ensureHighlighted_isReached orderly reached line
  | unchanged _ => exact reached

theorem run?_isReached {text : List Char} {mode : Mode} {operations : List Operation}
    (ran : (ofText text mode).run? operations = some document) :
    IsReached document.mode document.cache := by
  refine @holds_of_run? (ofText text mode) document operations
    (fun document => IsReached document.mode document.cache)
    (forgotten_isReached mode (splitLines text)) ?_ ran
  intro count before operation after reached _ performed
  exact perform?_isReached (run?_isOrderly text mode operations count before reached) performed

/-! ### Behind the end of a line -/

/-- The highlight of a line from the state that is known at its start. -/
def rehighlight (document : Document) (line : Nat) : LineHighlight :=
  highlightAt document.mode document.lines (document.ensureHighlighted line).cache line

/-- Behind the end of a line the context is that in which its highlight ends, and the format is the
one of that context. -/
def EndsIn (document : Document) (line : Nat) (highlight : LineHighlight) : Prop :=
  ∀ column, document.lineLength line ≤ column →
    (document.contextAt? ⟨line, column⟩).2 = some (document.mode.topContext highlight.state) ∧
      some (document.formatAt ⟨line, column⟩).2 =
        (document.contextAt? ⟨line, column⟩).2.map document.mode.formatOfContext

/-- A highlight ends in the context in which the line ends, and its spans that reach beyond the end
of the line have the format of that context. -/
structure EndsAlike (document : Document) (line : Nat) (highlight : LineHighlight) : Prop where
  context : document.mode.topContext highlight.state =
    document.mode.topContext (document.rehighlight line).state
  formats : ∀ column format, document.lineLength line ≤ column →
    highlight.formatAt? column = some format →
      format = document.mode.formatOfContext (document.mode.topContext highlight.state)

section Ends

variable {mode : Mode} {line column : Nat} {highlight : LineHighlight}

theorem known_of_lineHighlight? (answered : (document.lineHighlight? line).2 = some highlight) :
    line < document.lineCount ∧
      cached? (document.ensureHighlighted line).cache line = some highlight := by
  unfold lineHighlight? at answered
  split at answered
  · cases answered
  · rename_i inside
    exact ⟨Nat.lt_of_not_le inside, answered⟩

theorem formatAt_of_known
    (known : cached? (document.ensureHighlighted line).cache line = some highlight) :
    (document.formatAt ⟨line, column⟩).2 = (highlight.formatAt? column).getD
      (document.mode.formatOfContext (document.mode.topContext highlight.state)) := by
  unfold formatAt cachedFormatAt
  simp only [known, ensureHighlighted_mode]

theorem rehighlight_eq (orderly : document.IsOrderly) (faithful : document.IsFaithful)
    (inside : line < document.lineCount)
    (known : cached? (document.ensureHighlighted line).cache line = some highlight) :
    document.rehighlight line = highlight := by
  have entries := fun before => @cached?_ensureHighlighted document orderly
    ((isFaithful_iff orderly).mp faithful) line before
  have all := highlightAt_eq inside fun before below => entries before (Nat.le_of_lt below)
  rw [entries line (Nat.le_refl line)] at known
  exact Option.some.inj (all.symm.trans known)

/-- Where the line is highlighted again, the context behind its end is that in which it ends. -/
theorem contextAt?_of_lineLength_le {main : Definition} {others : List Definition} {maxDepth : Nat}
    {engine : Pattern.Engine}
    (accepted : Mode.ofDefinitions main others maxDepth engine = .ok document.mode)
    (reached : document.mode.Reaches (startState (document.ensureHighlighted line).cache line))
    (inside : line < document.lineCount) (beyond : document.lineLength line ≤ column) :
    (document.contextAt? ⟨line, column⟩).2 =
      some (document.mode.topContext (document.rehighlight line).state) := by
  have lines : (document.ensureHighlighted line).lines = document.lines :=
    congrArg splitLines (ensureHighlighted_text document line)
  have source : ∀ other, (document.ensureHighlighted line).source.line? other =
      document.line? other := by
    intro other
    rw [line?, ← lines]
    rfl
  have start : (document.ensureHighlighted line).source.startState line =
      startState (document.ensureHighlighted line).cache line := by
    cases line <;> rfl
  have next : ((document.ensureHighlighted line).source.line? (line + 1)).isSome =
      (document.lines[line + 1]?).isSome := by
    rw [source, line?, Option.isSome_map]
  have present : document.line? line = some document.lines[line].chars :=
    congrArg (Option.map _) (List.getElem?_eq_getElem inside)
  have text : ((document.lines[line]?).map (·.chars)).getD [] = document.lines[line].chars :=
    congrArg (Option.getD · []) present
  rw [lineLength, present] at beyond
  rw [← start] at reached
  rw [rehighlight, highlightAt, text, ← next, ← start, contextAt?, ensureHighlighted_mode]
  exact Mode.contextAt?_of_length_le accepted ((source line).trans present) reached beyond

theorem endsIn_iff {main : Definition} {others : List Definition} {maxDepth : Nat}
    {engine : Pattern.Engine}
    (accepted : Mode.ofDefinitions main others maxDepth engine = .ok document.mode)
    (reached : document.mode.Reaches (startState (document.ensureHighlighted line).cache line))
    (inside : line < document.lineCount)
    (known : cached? (document.ensureHighlighted line).cache line = some highlight) :
    document.EndsIn line highlight ↔ document.EndsAlike line highlight := by
  have context := fun column => @contextAt?_of_lineLength_le document line column main others
    maxDepth engine accepted reached inside
  have format := fun column => @formatAt_of_known document line column highlight known
  constructor
  · intro ends
    have same : document.mode.topContext highlight.state =
        document.mode.topContext (document.rehighlight line).state := by
      have atEnd := (ends _ (Nat.le_refl _)).1
      rw [context _ (Nat.le_refl _)] at atEnd
      exact (Option.some.inj atEnd).symm
    refine ⟨same, ?_⟩
    intro column other beyond found
    have shown := (ends column beyond).2
    rw [format, context column beyond, found, ← same] at shown
    exact Option.some.inj shown
  · intro alike column beyond
    rw [format, context column beyond, alike.context]
    refine ⟨rfl, congrArg some ?_⟩
    cases found : highlight.formatAt? column with
    | none => rfl
    | some other => rw [← alike.context]; exact alike.formats column other beyond found

theorem endsAlike_of_isFaithful (closed : document.mode.IsClosed) (orderly : document.IsOrderly)
    (faithful : document.IsFaithful) (inside : line < document.lineCount)
    (known : cached? (document.ensureHighlighted line).cache line = some highlight) :
    document.EndsAlike line highlight := by
  have same := rehighlight_eq orderly faithful inside known
  refine ⟨by rw [same], ?_⟩
  intro column format beyond found
  have none : (document.rehighlight line).formatAt? column = none := by
    apply Mode.formatAt?_of_length_le closed
    rwa [lineLength, line?, List.getElem?_eq_getElem inside] at *
  rw [same, found] at none
  cases none

end Ends

/-- The changes of contexts go through each line up to the context in which it ends. In documents
that is the context behind the end of a line. The highlight that is kept of the line ends in it,
and the format there is the one of that context, exactly if the highlight ends like that of the
line, so always if those are kept that belong to the text. -/
theorem run?_endsIn {main : Definition} {others : List Definition} {maxDepth : Nat} {mode : Mode}
    {engine : Pattern.Engine} (accepted : Mode.ofDefinitions main others maxDepth engine = .ok mode) :
    (∀ state, mode.Reaches state → ∀ line hasNext,
        mode.Traces state line hasNext (mode.contextChanges state line hasNext)) ∧
      ∀ text first operations document, (ofText text first).run? operations = some document →
        document.mode = mode →
        ∀ line highlight, (document.lineHighlight? line).2 = some highlight →
          (∀ column, document.lineLength line ≤ column →
            (document.contextAt? ⟨line, column⟩).2 =
              some (mode.topContext (document.rehighlight line).state)) ∧
          (document.EndsIn line highlight ↔ document.EndsAlike line highlight) ∧
          (document.IsFaithful → document.EndsIn line highlight) := by
  constructor
  · intro state reached line hasNext
    exact Mode.contextChanges_traces accepted reached line hasNext
  · -- Whichever modes there were before, entries of theirs are forgotten with them.
    rintro text first operations document ran rfl line highlight answered
    have closed := Mode.isClosed_of_ofDefinitions accepted
    have orderly := isOrderly_of_run? ran
    obtain ⟨inside, known⟩ := known_of_lineHighlight? answered
    have reached : document.mode.Reaches
        (startState (document.ensureHighlighted line).cache line) := by
      have kept := ensureHighlighted_isReached orderly (run?_isReached ran) line
      rw [ensureHighlighted_mode] at kept
      exact reaches_startState fun before highlight _ => kept before highlight
    have alike := endsIn_iff accepted reached inside known
    refine ⟨?_, alike, ?_⟩
    · intro column beyond
      exact contextAt?_of_lineLength_le accepted reached inside beyond
    · intro faithful
      exact alike.mpr (endsAlike_of_isFaithful closed orderly faithful inside known)

/-- Behind the end of a line that goes into a block. -/
theorem run?_endsIn_blockLanguage :
    ∃ mode, Mode.ofDefinitions blockLanguage [numberLanguage] 4 = .ok mode ∧
      ((ofText ['(', '1'] mode).contextAt? ⟨0, 7⟩).2 =
        some (mode.topContext (mode.highlightLine .initial ['(', '1'] false).state) := by
  obtain ⟨mode, accepted⟩ := blockLanguage_accepted 4
  obtain ⟨_, ends⟩ := run?_endsIn accepted
  have known : ((ofText ['(', '1'] mode).lineHighlight? 0).2 =
      some (mode.highlightLine .initial ['(', '1'] false) := rfl
  obtain ⟨_, _, endsIn⟩ := ends ['(', '1'] mode [] _ rfl rfl 0 _ known
  have beyond : (ofText ['(', '1'] mode).lineLength 0 ≤ 7 := by
    change 2 ≤ 7
    decide
  exact ⟨mode, accepted, (endsIn (ofText_isFaithful _ mode) 7 beyond).1⟩

/-- A language in which a context begins behind every number. -/
def figureLanguage : Definition where
  name := "Figures"
  contexts :=
    [{ name := "Normal", format := "Text"
       rules := [{ kind := .integer, format := some "Number", switch := some "Figure" }] },
     { name := "Figure", format := "Number" }]
  formats := [{ name := "Text" }, { name := "Number" }]

/-- When the line between a carriage return and a line feed goes, the context behind the number on
the last line is not that in which the highlight of the line ends, nor is the format there that of
the context. -/
theorem run_not_endsIn_figureLanguage :
    ∃ mode document highlight, Mode.ofDefinitions figureLanguage [] 8 = .ok mode ∧
      (ofText ['a', '\r', 'x', '\n', 'b', '\n', '1'] mode).run?
          [.ensureHighlighted 3, .removeText ⟨1, 0⟩ ⟨1, 1⟩] = some document ∧
        (document.lineHighlight? 2).2 = some highlight ∧ document.lineLength 2 = 1 ∧
        (document.contextAt? ⟨2, 1⟩).2 ≠ some (mode.topContext highlight.state) ∧
        some (document.formatAt ⟨2, 1⟩).2 ≠
          (document.contextAt? ⟨2, 1⟩).2.map mode.formatOfContext := by
  have evaluated : ((Mode.ofDefinitions figureLanguage [] 8).toOption.any fun mode =>
      ((ofText ['a', '\r', 'x', '\n', 'b', '\n', '1'] mode).run?
          [.ensureHighlighted 3, .removeText ⟨1, 0⟩ ⟨1, 1⟩]).any fun document =>
        (document.lineHighlight? 2).2.any fun highlight =>
          decide (document.lineLength 2 = 1 ∧
            (document.contextAt? ⟨2, 1⟩).2 ≠ some (mode.topContext highlight.state) ∧
            some (document.formatAt ⟨2, 1⟩).2 ≠
              (document.contextAt? ⟨2, 1⟩).2.map mode.formatOfContext)) = true := by
    cbv
  obtain ⟨mode, accepted, run⟩ := (Option.any_eq_true _ _).mp evaluated
  obtain ⟨document, ran, kept⟩ := (Option.any_eq_true _ _).mp run
  obtain ⟨highlight, known, differs⟩ := (Option.any_eq_true _ _).mp kept
  exact ⟨mode, document, highlight, Mode.ofDefinitions_of_toOption accepted, ran, known,
    of_decide_eq_true differs⟩

end Document

end SyntaxHighlight
