/-
Moving a cursor by words. A run of word characters is a word, and so is a run of other characters
that are not white space. White space is passed over behind a word on the way right and before a
word on the way left.
-/

import SyntaxHighlight.Text.Whitespace

namespace SyntaxHighlight

open SyntaxHighlight.Text

structure Position where
  line : Nat
  column : Nat
deriving DecidableEq, Repr

/-- Positions are ordered by line, then by column. -/
def Position.isBefore (one other : Position) : Bool :=
  one.line < other.line || (one.line == other.line && one.column < other.column)

/-- The lines over which a cursor moves. -/
structure WordSource where
  lineCount : Nat
  chars : (line : Nat) → List Char
  isWordChar : (line column : Nat) → Char → Bool

namespace WordSource

/-- Lines in which the same characters belong to words everywhere. -/
def ofLines (lines : List (List Char)) (isWordChar : Char → Bool) : WordSource where
  lineCount := lines.length
  chars := fun line => (lines[line]?).getD []
  isWordChar := fun _ _ char => isWordChar char

variable (source : WordSource)

def lastLine : Nat := source.lineCount - 1

/-- Length of the run of characters from a column on that satisfy a predicate. -/
def runRight (p : Nat → Char → Bool) : (column : Nat) → List Char → Nat
  | _, [] => 0
  | column, char :: rest => if p column char then runRight p (column + 1) rest + 1 else 0

/-- Length of the run of characters before a column, nearest first, that satisfy a predicate. -/
def runLeft (p : Nat → Char → Bool) : (column : Nat) → List Char → Nat
  | _, [] => 0
  | column, char :: rest =>
      if p (column - 1) char then runLeft p (column - 1) rest + 1 else 0

/-- Characters that make up a word of their own, apart from word characters. -/
def isOther (line column : Nat) (char : Char) : Bool :=
  !source.isWordChar line column char && !isWhitespace char

/-- The column behind the white space that begins at a column. -/
def skipSpace (line column : Nat) : Nat :=
  column + runRight (fun _ => isWhitespace) column ((source.chars line).drop column)

/-- The column behind the word that begins at a column, if one does. -/
def wordEnd (line column : Nat) : Nat :=
  let rest := (source.chars line).drop column
  match rest with
  | [] => column
  | char :: _ =>
      if source.isWordChar line column char then
        column + runRight (source.isWordChar line) column rest
      else column + runRight (source.isOther line) column rest

/-- The start of the next word, or the start of the text on the next line. -/
def wordRight (start : Position) : Position :=
  let line := min start.line source.lastLine
  let length := (source.chars line).length
  let column := min start.column length
  if column = length then
    if line = source.lastLine then ⟨line, column⟩ else ⟨line + 1, source.skipSpace (line + 1) 0⟩
  else ⟨line, source.skipSpace line (source.wordEnd line column)⟩

/-- The characters before a column, nearest first. -/
def charsBefore (line column : Nat) : List Char := ((source.chars line).take column).reverse

/-- The column before the white space that ends at a column. -/
def skipSpaceLeft (line column : Nat) : Nat :=
  column - runLeft (fun _ => isWhitespace) column (source.charsBefore line column)

/-- The column at which the word begins that ends at a column. -/
def wordStart (line column : Nat) : Nat :=
  let before := source.charsBefore line column
  match before with
  | [] => column
  | char :: _ =>
      if source.isWordChar line (column - 1) char then
        column - runLeft (source.isWordChar line) column before
      else column - runLeft (source.isOther line) column before

/-- The start of the word before, or the end of the line before. -/
def wordLeft (start : Position) : Position :=
  let line := min start.line source.lastLine
  let column := source.skipSpaceLeft line (min start.column (source.chars line).length)
  if column = 0 then
    if line = 0 then ⟨0, 0⟩ else ⟨line - 1, (source.chars (line - 1)).length⟩
  else ⟨line, source.wordStart line column⟩

end WordSource

end SyntaxHighlight
