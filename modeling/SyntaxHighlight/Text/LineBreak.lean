/-
Texts as lines. A line ends with a line break: a carriage return before a line feed, or one of
these two or of the five other break characters alone. The last line has none.
-/

namespace SyntaxHighlight.Text

def isLineBreak (char : Char) : Bool :=
  char == '\n' || char == '\r' || char == '\x0b' || char == '\x0c' || char == '\u0085' ||
    char == '\u2028' || char == '\u2029'

structure TextLine where
  chars : List Char := []
  lineBreak : List Char := []
deriving DecidableEq, Repr

namespace TextLine

/-- The number of characters, those of the line break included. -/
def width (line : TextLine) : Nat := line.chars.length + line.lineBreak.length

def toList (line : TextLine) : List Char := line.chars ++ line.lineBreak

end TextLine

def prependChar (char : Char) : List TextLine → List TextLine
  | [] => [⟨[char], []⟩]
  | line :: rest => { line with chars := char :: line.chars } :: rest

/-- The lines of a text, of which there is at least one. -/
def splitLines : List Char → List TextLine
  | [] => [{}]
  | '\r' :: '\n' :: rest => ⟨[], ['\r', '\n']⟩ :: splitLines rest
  | char :: rest =>
      if isLineBreak char then ⟨[], [char]⟩ :: splitLines rest
      else prependChar char (splitLines rest)

/-- The number of characters before a line. -/
def lineStart : List TextLine → (line : Nat) → Nat
  | _, 0 => 0
  | [], _ => 0
  | first :: rest, line + 1 => first.width + lineStart rest line

/-- The line and the column of the character with an index. -/
def locate : List TextLine → (index : Nat) → Nat × Nat
  | [], index => (0, index)
  | [_], index => (0, index)
  | line :: next :: rest, index =>
      if index < line.width then (0, index)
      else
        let (number, column) := locate (next :: rest) (index - line.width)
        (number + 1, column)

end SyntaxHighlight.Text
