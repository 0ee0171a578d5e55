/-
Documents: a text, the mode in which it is highlighted, and what is known of its lines. Lines are
highlighted from the first one on, as far as somebody has asked; after an edit the lines that
changed are highlighted again, and those behind them as long as the states at their starts
change.
-/

import SyntaxHighlight.Document.WordMotion
import SyntaxHighlight.Highlight.Query
import SyntaxHighlight.Text.LineBreak
import SyntaxHighlight.Text.Numeral

namespace SyntaxHighlight

open SyntaxHighlight.Text

/-- What the last edit took. -/
structure Cascade where
  firstLine : Nat := 0
  /-- The number of lines that were highlighted again. -/
  count : Nat := 0
  /-- The line behind which nothing had to be done. -/
  convergedAt : Option Nat := none
deriving DecidableEq, Repr

structure Document where
  text : List Char
  mode : Mode
  /-- The highlights of lines as far as they are known. -/
  cache : List (Option LineHighlight)
  /-- The number of lines, from the first one on, of which the highlight is known. -/
  highlightedUntil : Nat := 0
  lastCascade : Cascade := {}
deriving Repr

namespace Document

def ofText (text : List Char) (mode : Mode) : Document where
  text
  mode
  cache := (splitLines text).map fun _ => none

/-! ### Lines -/

def lines (document : Document) : List TextLine := splitLines document.text

def lineCount (document : Document) : Nat := document.lines.length

/-- The text of a line without its line break. -/
def line? (document : Document) (line : Nat) : Option (List Char) :=
  (document.lines[line]?).map (·.chars)

def lineLength (document : Document) (line : Nat) : Nat :=
  ((document.line? line).map List.length).getD 0

/-! ### The cache -/

def cached? (cache : List (Option LineHighlight)) (line : Nat) : Option LineHighlight :=
  (cache[line]?).join

/-- The state at the start of a line, according to what is known of the line before. -/
def startState (cache : List (Option LineHighlight)) : (line : Nat) → LineState
  | 0 => .initial
  | line + 1 => ((cached? cache line).map (·.state)).getD .initial

/-- The highlight of a line, given what is known of the line before. -/
def highlightAt (mode : Mode) (lines : List TextLine) (cache : List (Option LineHighlight))
    (line : Nat) : LineHighlight :=
  mode.highlightLine (startState cache line) (((lines[line]?).map (·.chars)).getD [])
    (lines[line + 1]?).isSome

/-- Highlights so many lines from one on. -/
def extend (mode : Mode) (lines : List TextLine) :
    (count line : Nat) → List (Option LineHighlight) → List (Option LineHighlight)
  | 0, _, cache => cache
  | count + 1, line, cache =>
      extend mode lines count (line + 1)
        (cache.set line (some (highlightAt mode lines cache line)))

/-- Sees to it that the highlight of a line and of all lines before it is known. -/
def ensureHighlighted (document : Document) (line : Nat) : Document :=
  let lines := document.lines
  let wanted := min line (lines.length - 1) + 1
  if wanted ≤ document.highlightedUntil then document
  else
    { document with
      cache :=
        extend document.mode lines (wanted - document.highlightedUntil)
          document.highlightedUntil document.cache
      highlightedUntil := wanted }

/-- The highlight of a line. -/
def lineHighlight? (document : Document) (line : Nat) : Document × Option LineHighlight :=
  if document.lineCount ≤ line then (document, none)
  else
    let document := document.ensureHighlighted line
    (document, cached? document.cache line)

/-- Changes the mode, and forgets what is known of the lines. -/
def setMode (document : Document) (mode : Mode) : Document :=
  { document with mode, cache := document.cache.map fun _ => none, highlightedUntil := 0 }

/-! ### Edits -/

/-- How highlighting after an edit went. -/
structure CascadeResult where
  cache : List (Option LineHighlight)
  highlightedUntil : Nat
  count : Nat
  convergedAt : Option Nat
deriving DecidableEq, Repr

/-- Highlights lines from one on up to the last one of an edit, then as long as states change.
There are so many lines left; all lines before the end of the valid ones are known. -/
def cascadeFrom (mode : Mode) (lines : List TextLine) (last validEnd : Nat) :
    (left line count : Nat) → List (Option LineHighlight) → CascadeResult
  | 0, line, count, cache => ⟨cache, line, count, none⟩
  | left + 1, line, count, cache =>
      let old? := cached? cache line
      if last < line && old?.isNone then ⟨cache, line, count, none⟩
      else
        let highlight := highlightAt mode lines cache line
        let cache := cache.set line (some highlight)
        if last ≤ line && old?.map (·.state) = some highlight.state then
          ⟨cache, min (max validEnd (line + 1)) lines.length, count + 1, some line⟩
        else cascadeFrom mode lines last validEnd left (line + 1) (count + 1) cache

/-- Highlights the lines of an edit again, if any of them had been highlighted. -/
def cascade (document : Document) (first last validEnd : Nat) : Document :=
  if document.highlightedUntil ≤ first then { document with lastCascade := { firstLine := first } }
  else
    let lines := document.lines
    let result :=
      cascadeFrom document.mode lines last validEnd (lines.length - first) first 0 document.cache
    { document with
      cache := result.cache
      highlightedUntil := result.highlightedUntil
      lastCascade := ⟨first, result.count, result.convergedAt⟩ }

/-- The nearest position in the text. -/
def clamp (document : Document) (position : Position) : Position :=
  let line := min position.line (document.lineCount - 1)
  ⟨line, min position.column (document.lineLength line)⟩

def charIndex (document : Document) (position : Position) : Nat :=
  lineStart document.lines position.line + position.column

/-- The cache with room for the lines that took the place of others. The highlight of the last one
of the old lines stays with the last one of the new lines. -/
def moveCache (cache : List (Option LineHighlight)) (first oldLast newLast count : Nat) :
    List (Option LineHighlight) :=
  let moved :=
    cache.take first ++ List.replicate (newLast - first) none ++ cache.drop oldLast
  (moved ++ List.replicate (count - moved.length) none).take count

/-- The last one of the lines that take the place of those between two positions, when there are
so many lines afterwards. -/
def newLast (document : Document) (first last : Position) (newCount : Nat) : Nat :=
  min (max (last.line + newCount - document.lineCount) first.line) (newCount - 1)

/-- The end of the lines that stay known when the last one of those that are replaced moves. -/
def validEnd (document : Document) (first last : Position) (newLast : Nat) : Nat :=
  if last.line < document.highlightedUntil then
    document.highlightedUntil - last.line + newLast
  else min document.highlightedUntil first.line

/-- The document with the text between two positions replaced, and nothing highlighted again. -/
def splice (document : Document) (first last : Position) (text : List Char) : Document :=
  let newText :=
    document.text.take (document.charIndex first) ++ text ++
      document.text.drop (document.charIndex last)
  let newCount := (splitLines newText).length
  { document with
    text := newText
    cache :=
      moveCache document.cache first.line last.line (document.newLast first last newCount)
        newCount }

/-- Replaces the text between two positions; gives the position behind the new text. The second
position must not lie before the first one. -/
def replace? (document : Document) (first last : Position) (text : List Char) :
    Option (Document × Position) :=
  if document.charIndex last < document.charIndex first then none
  else
    let spliced := document.splice first last text
    let newLast := document.newLast first last spliced.lineCount
    let (line, column) := locate spliced.lines (document.charIndex first + text.length)
    some
      (spliced.cascade first.line newLast (document.validEnd first last newLast),
        ⟨line, column⟩)

/-- Inserts text at the nearest position; gives the position behind it. -/
def insertText? (document : Document) (position : Position) (text : List Char) :
    Option (Document × Position) :=
  let position := document.clamp position
  document.replace? position position text

/-- Removes the text between two positions in either order. Their order is found before they are
moved into the text; when that reverses it there is no answer. -/
def removeText? (document : Document) (one other : Position) : Option Document :=
  let (first, last) := if other.isBefore one then (other, one) else (one, other)
  (document.replace? (document.clamp first) (document.clamp last) []).map Prod.fst

/-- Replaces the text of a line, but not its line break. -/
def setLineText? (document : Document) (line : Nat) (text : List Char) : Option Document :=
  if document.lineCount ≤ line then some document
  else (document.replace? ⟨line, 0⟩ ⟨line, document.lineLength line⟩ text).map Prod.fst

/-! ### Questions -/

/-- The format of the character at a position, as far as lines are known. Behind the end of a line
it is that of the context in which the line ends. -/
def cachedFormatAt (document : Document) (line column : Nat) : Nat :=
  match cached? document.cache line with
  | some highlight =>
      (highlight.formatAt? column).getD
        (document.mode.formatOfContext (document.mode.topContext highlight.state))
  | none => 0

def formatAt (document : Document) (position : Position) : Document × Nat :=
  let document := document.ensureHighlighted position.line
  (document, document.cachedFormatAt position.line position.column)

/-- The lines of a document and what is known of their states. -/
def source (document : Document) : LineSource :=
  let lines := document.lines
  { line? := fun line => (lines[line]?).map (·.chars)
    state? := fun line => (cached? document.cache line).map (·.state) }

/-- The context that is active at a position. -/
def contextAt? (document : Document) (position : Position) : Document × Option Nat :=
  let document := document.ensureHighlighted position.line
  (document,
    (document.mode.contextAt? document.source position.line position.column).map (·.id))

/-- Whether a line counts as empty in the mode of its first character. -/
def isEmptyLine (document : Document) (line : Nat) : Document × Bool :=
  match document.line? line with
  | none => (document, false)
  | some text =>
      let (document, format) := document.formatAt ⟨line, 0⟩
      (document, document.mode.isEmptyLine text format)

/-- The foldable regions of the whole text. -/
def foldRegions (document : Document) : Document × List FoldRegion :=
  let document := document.ensureHighlighted document.lineCount
  (document,
    SyntaxHighlight.foldRegions ((document.cache.filterMap id).map fun line => line.folding))

def wordSource (document : Document) : WordSource :=
  let lines := document.lines
  { lineCount := lines.length
    chars := fun line => ((lines[line]?).map (·.chars)).getD []
    isWordChar := fun line column char =>
      document.mode.isInWord char (document.cachedFormatAt line column) }

/-- The start of the next word, which may be on the next line. The number of that line must be one
of 64 bits. -/
def wordRight? (document : Document) (position : Position) : Option (Document × Position) :=
  if position.line + 1 < wordRange 64 then
    let document := document.ensureHighlighted (position.line + 1)
    some (document, document.wordSource.wordRight position)
  else none

/-- The start of the word before. -/
def wordLeft (document : Document) (position : Position) : Document × Position :=
  let document := document.ensureHighlighted position.line
  (document, document.wordSource.wordLeft position)

end Document

end SyntaxHighlight
