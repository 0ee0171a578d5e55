/-
Documents whose every access is checked. An entry that does not exist, a difference below zero, a
range that ends before it starts and bounds that contradict each other leave these operations
without an answer. In a document with one entry a line none of this happens, except that the text
between two positions is removed only if the second does not lie before the first.
-/

import SyntaxHighlight.Proofs.Document.Run
import SyntaxHighlight.Proofs.Text.Index

namespace SyntaxHighlight.Document

open SyntaxHighlight.Text

/-! ### Partial steps -/

/-- The difference of two numbers that is not below zero. -/
def minus? (one other : Nat) : Option Nat := if other ≤ one then some (one - other) else none

/-- The number nearest to another one between two bounds that are in order. -/
def between? (number low high : Nat) : Option Nat :=
  if low ≤ high then some (min (max number low) high) else none

/-- Writes the highlight of a line that has an entry. -/
def setEntry? (cache : List (Option LineHighlight)) (line : Nat) (highlight : LineHighlight) :
    Option (List (Option LineHighlight)) :=
  if line < cache.length then some (cache.set line (some highlight)) else none

/-- Puts so many empty entries in the place of those in a range. -/
def spliceEntries? (cache : List (Option LineHighlight)) (first last count : Nat) :
    Option (List (Option LineHighlight)) :=
  if first ≤ last ∧ last ≤ cache.length then
    some (cache.take first ++ List.replicate count none ++ cache.drop last)
  else none

/-- Takes the characters in a range out of a text. -/
def removeRange? (text : List Char) (first last : Nat) : Option (List Char) :=
  if first ≤ last ∧ last ≤ text.length then some (text.take first ++ text.drop last) else none

/-- Puts characters into a text. -/
def insertAt? (text : List Char) (index : Nat) (inserted : List Char) : Option (List Char) :=
  if index ≤ text.length then some (text.take index ++ inserted ++ text.drop index) else none

/-- The number of characters before a line, which may be the one behind the last. -/
def lineStart? (text : List Char) (line : Nat) : Option Nat :=
  if line ≤ (splitLines text).length then some (lineStart (splitLines text) line) else none

/-- The line of a character, which may be the one behind the last. -/
def lineOf? (text : List Char) (index : Nat) : Option Nat :=
  if index ≤ text.length then some (locate (splitLines text) index).1 else none

/-! ### Checked operations -/

/-- The state at the start of a line; the line before must have an entry. -/
def startStateChecked? (cache : List (Option LineHighlight)) : (line : Nat) → Option LineState
  | 0 => some .initial
  | line + 1 => (cache[line]?).map fun entry => (entry.map (·.state)).getD .initial

def highlightAtChecked? (mode : Mode) (lines : List TextLine) (cache : List (Option LineHighlight))
    (line : Nat) : Option LineHighlight :=
  (startStateChecked? cache line).map fun state =>
    mode.highlightLine state (((lines[line]?).map (·.chars)).getD []) (lines[line + 1]?).isSome

def extendChecked? (mode : Mode) (lines : List TextLine) :
    (count line : Nat) → List (Option LineHighlight) → Option (List (Option LineHighlight))
  | 0, _, cache => some cache
  | count + 1, line, cache => do
      let highlight ← highlightAtChecked? mode lines cache line
      let cache ← setEntry? cache line highlight
      extendChecked? mode lines count (line + 1) cache

def ensureHighlightedChecked? (document : Document) (line : Nat) : Option Document :=
  let lines := document.lines
  let wanted := min line (lines.length - 1) + 1
  if wanted ≤ document.highlightedUntil then some document
  else
    (extendChecked? document.mode lines (wanted - document.highlightedUntil)
      document.highlightedUntil document.cache).map fun cache =>
        { document with cache, highlightedUntil := wanted }

def cascadeFromChecked? (mode : Mode) (lines : List TextLine) (last validEnd : Nat) :
    (left line count : Nat) → List (Option LineHighlight) → Option CascadeResult
  | 0, line, count, cache => some ⟨cache, line, count, none⟩
  | left + 1, line, count, cache => do
      let old? ← cache[line]?
      if last < line && old?.isNone then some ⟨cache, line, count, none⟩
      else
        let highlight ← highlightAtChecked? mode lines cache line
        let cache ← setEntry? cache line highlight
        if last ≤ line && old?.map (·.state) = some highlight.state then
          some ⟨cache, min (max validEnd (line + 1)) lines.length, count + 1, some line⟩
        else cascadeFromChecked? mode lines last validEnd left (line + 1) (count + 1) cache

def cascadeChecked? (document : Document) (first last validEnd : Nat) : Option Document :=
  if document.highlightedUntil ≤ first then
    some { document with lastCascade := { firstLine := first } }
  else
    let lines := document.lines
    (cascadeFromChecked? document.mode lines last validEnd (lines.length - first) first 0
      document.cache).map fun result =>
        { document with
          cache := result.cache
          highlightedUntil := result.highlightedUntil
          lastCascade := ⟨first, result.count, result.convergedAt⟩ }

def charIndexChecked? (document : Document) (position : Position) : Option Nat :=
  (lineStart? document.text position.line).map fun start => start + position.column

def spliceTextChecked? (document : Document) (first last : Position) (text : List Char) :
    Option (List Char) := do
  let start ← document.charIndexChecked? first
  let stop ← document.charIndexChecked? last
  let kept ← removeRange? document.text start stop
  insertAt? kept start text

def newLastChecked? (document : Document) (first last : Position) (newCount : Nat) : Option Nat :=
  between? (last.line + newCount - document.lineCount) first.line (newCount - 1)

def moveCacheChecked? (cache : List (Option LineHighlight)) (first oldLast newLast count : Nat) :
    Option (List (Option LineHighlight)) := do
  let room ← minus? newLast first
  let moved ← spliceEntries? cache first oldLast room
  some ((moved ++ List.replicate (count - moved.length) none).take count)

def validEndChecked? (document : Document) (first last : Position) (newLast : Nat) : Option Nat :=
  if last.line < document.highlightedUntil then
    (minus? document.highlightedUntil last.line).map fun known => known + newLast
  else some (min document.highlightedUntil first.line)

def placeChecked? (text : List Char) (index : Nat) : Option Position := do
  let line ← lineOf? text index
  let start ← lineStart? text line
  let column ← minus? index start
  some ⟨line, column⟩

def replaceChecked? (document : Document) (first last : Position) (text : List Char) :
    Option (Document × Position) := do
  let newText ← document.spliceTextChecked? first last text
  let newCount := (splitLines newText).length
  let newLast ← document.newLastChecked? first last newCount
  let cache ← moveCacheChecked? document.cache first.line last.line newLast newCount
  let validEnd ← document.validEndChecked? first last newLast
  let after ←
    { document with text := newText, cache }.cascadeChecked? first.line newLast validEnd
  let place ← placeChecked? newText (document.charIndex first + text.length)
  some (after, place)

def insertTextChecked? (document : Document) (position : Position) (text : List Char) :
    Option (Document × Position) :=
  let position := document.clamp position
  document.replaceChecked? position position text

def removeTextChecked? (document : Document) (one other : Position) : Option Document :=
  let (first, last) := if other.isBefore one then (other, one) else (one, other)
  (document.replaceChecked? (document.clamp first) (document.clamp last) []).map Prod.fst

def setLineTextChecked? (document : Document) (line : Nat) (text : List Char) : Option Document :=
  if document.lineCount ≤ line then some document
  else (document.replaceChecked? ⟨line, 0⟩ ⟨line, document.lineLength line⟩ text).map Prod.fst

/-! ### Highlighting -/

section Highlighting

variable {mode : Mode} {lines : List TextLine} {cache : List (Option LineHighlight)} {line : Nat}

theorem setEntry?_eq (inside : line < cache.length) (highlight : LineHighlight) :
    setEntry? cache line highlight = some (cache.set line (some highlight)) :=
  if_pos inside

theorem highlightAtChecked?_eq (inside : line ≤ cache.length) :
    highlightAtChecked? mode lines cache line = some (highlightAt mode lines cache line) := by
  cases line with
  | zero => rfl
  | succ line =>
      unfold highlightAtChecked? startStateChecked? highlightAt startState cached?
      dsimp only
      rw [List.getElem?_eq_getElem inside]
      rfl

theorem extendChecked?_eq (count line : Nat) (cache : List (Option LineHighlight))
    (inside : line + count ≤ cache.length) :
    extendChecked? mode lines count line cache = some (extend mode lines count line cache) := by
  induction count generalizing line cache with
  | zero => rfl
  | succ count ih =>
      rw [extendChecked?, extend, highlightAtChecked?_eq (by omega), Option.bind_eq_bind,
        Option.bind_some, setEntry?_eq (by omega), Option.bind_eq_bind, Option.bind_some]
      apply ih
      rw [List.length_set]
      omega

theorem cascadeFromChecked?_eq (last validEnd left line count : Nat)
    (cache : List (Option LineHighlight)) (rest : left = cache.length - line) :
    cascadeFromChecked? mode lines last validEnd left line count cache =
      some (cascadeFrom mode lines last validEnd left line count cache) := by
  -- Writing an entry keeps the length, so there is one for every line that is left.
  induction left generalizing line count cache with
  | zero => rfl
  | succ left ih =>
      have inside : line < cache.length := by omega
      have entry : cached? cache line = cache[line] := by
        rw [cached?, List.getElem?_eq_getElem inside]
        rfl
      rw [cascadeFromChecked?, cascadeFrom, List.getElem?_eq_getElem inside, Option.bind_eq_bind,
        Option.bind_some, entry]
      dsimp only
      split
      · rfl
      · rw [highlightAtChecked?_eq (Nat.le_of_lt inside), Option.bind_eq_bind, Option.bind_some,
          setEntry?_eq inside, Option.bind_eq_bind, Option.bind_some]
        split
        · rfl
        · apply ih
          rw [List.length_set]
          omega

end Highlighting

variable {document : Document} {first last : Position}

theorem ensureHighlightedChecked?_eq (length : document.cache.length = document.lineCount)
    (line : Nat) :
    document.ensureHighlightedChecked? line = some (document.ensureHighlighted line) := by
  have positive := length_lineTexts_pos document.text
  rw [← lineCount_eq] at positive
  unfold lineCount at length positive
  unfold ensureHighlightedChecked? ensureHighlighted
  dsimp only
  split
  · rfl
  · rw [extendChecked?_eq _ _ _ (by omega), Option.map_some]

theorem cascadeChecked?_eq (length : document.cache.length = document.lineCount)
    (first last validEnd : Nat) :
    document.cascadeChecked? first last validEnd =
      some (document.cascade first last validEnd) := by
  unfold lineCount at length
  unfold cascadeChecked? cascade
  split
  · rfl
  · dsimp only
    rw [cascadeFromChecked?_eq _ _ _ _ _ _ (by rw [length]), Option.map_some]

/-! ### Edits -/

theorem Holds.charIndex_le (held : document.Holds first) :
    document.charIndex first ≤ document.text.length := by
  obtain ⟨chars, found, bound⟩ := held
  rw [lineTexts, List.getElem?_map, Option.map_eq_some_iff] at found
  obtain ⟨line, present, rfl⟩ := found
  have before := lineStart_add_le present
  rw [lineStart_length] at before
  unfold TextLine.width at before
  unfold charIndex lines
  omega

theorem Holds.charIndexChecked?_eq (held : document.Holds first) :
    document.charIndexChecked? first = some (document.charIndex first) := by
  have inside := held.line_lt
  rw [← length_splitLines] at inside
  have start : lineStart? document.text first.line =
      some (lineStart document.lines first.line) := if_pos (Nat.le_of_lt inside)
  rw [charIndexChecked?, start]
  rfl

/-- The only range that cannot be removed is one that ends before it starts. -/
theorem spliceTextChecked?_eq (firstHeld : document.Holds first) (lastHeld : document.Holds last)
    (text : List Char) :
    document.spliceTextChecked? first last text =
      if document.charIndex last < document.charIndex first then none
      else some (document.splice first last text).text := by
  have inside := firstHeld.charIndex_le
  have lastInside := lastHeld.charIndex_le
  have length : (document.text.take (document.charIndex first)).length =
      document.charIndex first := by
    rw [List.length_take]
    omega
  unfold spliceTextChecked?
  rw [firstHeld.charIndexChecked?_eq, lastHeld.charIndexChecked?_eq]
  simp only [Option.bind_eq_bind, Option.bind_some]
  rw [removeRange?]
  split
  · rename_i ordered
    rw [if_neg (Nat.not_lt_of_le ordered.1), Option.bind_some, insertAt?, List.take_left' length,
      List.drop_left' length, List.length_append, length, if_pos (Nat.le_add_right _ _)]
    rfl
  · rw [if_pos (by omega)]
    rfl

theorem moveCacheChecked?_eq {cache : List (Option LineHighlight)} {first oldLast newLast : Nat}
    (between : first ≤ newLast) (ordered : first ≤ oldLast) (inside : oldLast ≤ cache.length)
    (count : Nat) :
    moveCacheChecked? cache first oldLast newLast count =
      some (moveCache cache first oldLast newLast count) := by
  rw [moveCacheChecked?, minus?, if_pos between, Option.bind_eq_bind, Option.bind_some,
    spliceEntries?, if_pos ⟨ordered, inside⟩]
  rfl

theorem validEndChecked?_eq (document : Document) (first last : Position) (newLast : Nat) :
    document.validEndChecked? first last newLast =
      some (document.validEnd first last newLast) := by
  unfold validEndChecked? validEnd
  split
  · rename_i known
    rw [minus?, if_pos (Nat.le_of_lt known), Option.map_some]
  · rfl

theorem placeChecked?_eq {text : List Char} {index : Nat} (inside : index ≤ text.length) :
    placeChecked? text index =
      some ⟨(locate (splitLines text) index).1, (locate (splitLines text) index).2⟩ := by
  obtain ⟨bound, sum⟩ := locate_spec (splitLines_ne_nil text) index
  have column : index - lineStart (splitLines text) (locate (splitLines text) index).1 =
      (locate (splitLines text) index).2 := by
    omega
  unfold placeChecked?
  simp only [Option.bind_eq_bind]
  rw [lineOf?, if_pos inside, Option.bind_some, lineStart?, if_pos (Nat.le_of_lt bound),
    Option.bind_some, minus?, if_pos (by omega), Option.bind_some, column]

theorem le_length_splice (held : document.Holds first) (last : Position) (text : List Char) :
    document.charIndex first + text.length ≤ (document.splice first last text).text.length := by
  have inside := held.charIndex_le
  change _ ≤ (document.text.take (document.charIndex first) ++ text ++
    document.text.drop (document.charIndex last)).length
  rw [List.length_append, List.length_append, List.length_take]
  omega

theorem replaceChecked?_eq (length : document.cache.length = document.lineCount)
    (firstHeld : document.Holds first) (lastHeld : document.Holds last) (text : List Char) :
    document.replaceChecked? first last text = document.replace? first last text := by
  unfold replaceChecked? replace?
  rw [spliceTextChecked?_eq firstHeld lastHeld]
  split
  · rfl
  · rename_i ordered
    have splices := splice_splices firstHeld lastHeld (Nat.le_of_not_lt ordered) text
    have firstInside := splices.firstInside
    have lastInside := splices.lastInside
    rw [← length_splitLines] at firstInside
    rw [← lineCount_eq] at lastInside
    -- The first line is one of the new lines, so the bounds of the last one are in order.
    have newLast : document.newLastChecked? first last
        (splitLines (document.splice first last text).text).length =
          some (document.newLast first last (document.splice first last text).lineCount) :=
      if_pos (Nat.le_sub_one_of_lt firstInside)
    have moved := moveCacheChecked?_eq splices.first_le_newLast splices.ordered
      (show last.line ≤ document.cache.length by omega)
      (splitLines (document.splice first last text).text).length
    have cascaded := @cascadeChecked?_eq (document.splice first last text)
      (length_moveCache _ _ _ _ _) first.line
    have placed := placeChecked?_eq (le_length_splice firstHeld last text)
    simp only [Option.bind_eq_bind, Option.bind_some, newLast, moved, validEndChecked?_eq]
    change ((document.splice first last text).cascadeChecked? _ _ _).bind _ = _
    rw [cascaded, Option.bind_some, placed]
    rfl

theorem insertTextChecked?_eq (length : document.cache.length = document.lineCount)
    (position : Position) (text : List Char) :
    ∃ edited, document.insertTextChecked? position text = some edited ∧
      document.insertText? position text = some edited := by
  have held := clamp_holds document position
  have same := replaceChecked?_eq length held held text
  have found : ∃ edited, document.replace? (document.clamp position) (document.clamp position)
      text = some edited := by
    rw [replace?, if_neg (Nat.lt_irrefl _)]
    exact ⟨_, rfl⟩
  obtain ⟨edited, made⟩ := found
  exact ⟨edited, same.trans made, made⟩

theorem setLineTextChecked?_eq (length : document.cache.length = document.lineCount) (line : Nat)
    (text : List Char) :
    ∃ edited, document.setLineTextChecked? line text = some edited ∧
      document.setLineText? line text = some edited := by
  unfold setLineTextChecked? setLineText?
  split
  · exact ⟨document, rfl, rfl⟩
  · rename_i beyond
    have inside := Nat.lt_of_not_le beyond
    have ordered : ¬document.charIndex ⟨line, document.lineLength line⟩ <
        document.charIndex ⟨line, 0⟩ := Nat.not_lt_of_le (Nat.le_add_right _ _)
    rw [replaceChecked?_eq length (lineStart_holds inside) (lineEnd_holds inside), replace?,
      if_neg ordered]
    exact ⟨_, rfl, rfl⟩

theorem removeTextChecked?_eq (length : document.cache.length = document.lineCount)
    (one other : Position) :
    document.removeTextChecked? one other = document.removeText? one other := by
  unfold removeTextChecked? removeText?
  dsimp only
  rw [replaceChecked?_eq length (clamp_holds document _) (clamp_holds document _)]

/-! ### Runs -/

/-- Whatever has been done to a document, there is one entry a line, the first ones are known, and
no operation gets to an access outside of the entries, a difference below zero or bounds out of
order; only the removal of a text that ends before it starts has no answer. -/
theorem run?_isChecked (text : List Char) (mode : Mode) (operations : List Operation)
    (document : Document) (ran : (ofText text mode).run? operations = some document) :
    document.cache.length = document.lineCount ∧
      document.highlightedUntil ≤ document.lineCount ∧
      (∀ line, (cached? document.cache line).isSome ↔ line < document.highlightedUntil) ∧
      (∀ line, document.ensureHighlightedChecked? line =
        some (document.ensureHighlighted line)) ∧
      (∀ first last validEnd, document.cascadeChecked? first last validEnd =
        some (document.cascade first last validEnd)) ∧
      (∀ position text, ∃ edited, document.insertTextChecked? position text = some edited ∧
        document.insertText? position text = some edited) ∧
      (∀ line text, ∃ edited, document.setLineTextChecked? line text = some edited ∧
        document.setLineText? line text = some edited) ∧
      ∀ one other, document.removeTextChecked? one other = document.removeText? one other := by
  have orderly := isOrderly_of_run? ran
  have length := orderly.length
  exact ⟨length, orderly.inside, orderly.known, ensureHighlightedChecked?_eq length,
    cascadeChecked?_eq length, insertTextChecked?_eq length, setLineTextChecked?_eq length,
    removeTextChecked?_eq length⟩

theorem run?_isChecked_plain :
    ∃ document, (ofText ['a', '\r', 'x', '\n', 'b'] .plain).run?
        [.ensureHighlighted 2, .removeText ⟨1, 0⟩ ⟨1, 1⟩] = some document ∧
      document.cache.length = document.lineCount ∧
      ∃ edited, document.insertTextChecked? ⟨9, 9⟩ ['\r', 'c'] = some edited := by
  have runs : ((ofText ['a', '\r', 'x', '\n', 'b'] .plain).run?
      [.ensureHighlighted 2, .removeText ⟨1, 0⟩ ⟨1, 1⟩]).isSome = true := by
    cbv
  obtain ⟨document, ran⟩ := Option.isSome_iff_exists.mp runs
  obtain ⟨length, _, _, _, _, inserted, _⟩ := run?_isChecked _ _ _ document ran
  obtain ⟨edited, made, _⟩ := inserted ⟨9, 9⟩ ['\r', 'c']
  exact ⟨document, ran, length, edited, made⟩

end SyntaxHighlight.Document
