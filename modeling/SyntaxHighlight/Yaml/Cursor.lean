/-
A place in a YAML text: what is left to read, and the line, column and index of its first
character, all counted from zero. Line breaks are the line feed, the carriage return alone or
before a line feed, the next-line character and the two Unicode separators.
-/

import SyntaxHighlight.Text.Numeral

namespace SyntaxHighlight.Yaml

open SyntaxHighlight.Text

/-- The ways in which a text can fail to be YAML. -/
inductive SyntaxError where
  | forbiddenCharacter (char : Char)
  | unexpectedCharacter (char : Char)
  | tabIndentation
  | missingColon
  | misplacedEntry
  | misplacedKey
  | misplacedValue
  | malformedDirective
  | unknownDirective (name : String)
  | repeatedDirective
  | unsupportedVersion (major minor : Nat)
  | malformedAnchor
  | malformedTag
  | undefinedTagHandle (handle : String)
  | malformedBlockHeader
  | zeroIndentation
  | unclosedQuote
  | documentMarkInQuote
  | unknownEscape (char : Char)
  | malformedEscape
  | missingDocumentStart
  | missingContent
  | missingEntry
  | missingKey
  | missingSeparator
  | unknownAlias (name : String)
  | severalDocuments
  | nestedTooDeeply
deriving Repr, DecidableEq

/-- The characters that a YAML text may hold. -/
def isPrintable (char : Char) : Bool :=
  let code := char.toNat
  code == 0x09 || code == 0x0A || code == 0x0D || (0x20 ≤ code && code ≤ 0x7E) || code == 0x85 ||
    (0xA0 ≤ code && code ≤ 0xD7FF) || (0xE000 ≤ code && code ≤ 0xFFFD && code != 0xFEFF) ||
    0x10000 ≤ code

def isBreak (char : Char) : Bool :=
  char == '\n' || char == '\r' || char == '\u0085' || char == '\u2028' || char == '\u2029'

def isBlank (char : Char) : Bool := char == ' ' || char == '\t'

/-- The letters of anchor names, tag handles and directive names. -/
def isWordChar (char : Char) : Bool :=
  isAsciiLetter char || isDigit char || char == '_' || char == '-'

/-- Whether a text begins with a blank or a line break, or is empty. -/
def atBlankOrEnd : List Char → Bool
  | [] => true
  | char :: _ => isBlank char || isBreak char

def atBreakOrEnd : List Char → Bool
  | [] => true
  | char :: _ => isBreak char

structure Cursor where
  rest : List Char
  line : Nat
  column : Nat
  index : Nat
deriving Repr

namespace Cursor

def start (text : List Char) : Cursor := ⟨text, 0, 0, 0⟩

def head? (cursor : Cursor) : Option Char := cursor.rest.head?

def headIs (cursor : Cursor) (char : Char) : Bool := cursor.rest.head? == some char

def headSatisfies (cursor : Cursor) (p : Char → Bool) : Bool :=
  match cursor.rest with
  | [] => false
  | char :: _ => p char

def atEnd (cursor : Cursor) : Bool := cursor.rest.isEmpty

/-- Passes over characters of the same line. -/
def skip (cursor : Cursor) (count : Nat) : Cursor :=
  { cursor with
    rest := cursor.rest.drop count
    column := cursor.column + count
    index := cursor.index + count }

/-- Reads characters of the same line as long as they satisfy the predicate. -/
def takeWhile (cursor : Cursor) (p : Char → Bool) : List Char × Cursor :=
  let taken := cursor.rest.takeWhile p
  (taken, cursor.skip taken.length)

def skipWhile (cursor : Cursor) (p : Char → Bool) : Cursor := (cursor.takeWhile p).2

private def nextLine (cursor : Cursor) (rest : List Char) (width : Nat) : Cursor :=
  ⟨rest, cursor.line + 1, 0, cursor.index + width⟩

/-- Reads one line break, if there is one, in its normal form: the Unicode separators stand for
themselves, every other break for a line feed. -/
def takeBreak (cursor : Cursor) : List Char × Cursor :=
  match cursor.rest with
  | '\r' :: '\n' :: rest => (['\n'], cursor.nextLine rest 2)
  | char :: rest =>
      if char == '\u2028' || char == '\u2029' then ([char], cursor.nextLine rest 1)
      else if isBreak char then (['\n'], cursor.nextLine rest 1)
      else ([], cursor)
  | [] => ([], cursor)

def skipBreak (cursor : Cursor) : Cursor := cursor.takeBreak.2

/-- Whether a document marker stands here: three such characters at the start of a line, with a
blank, a line break or nothing behind them. -/
def atMarker (cursor : Cursor) (mark : Char) : Bool :=
  cursor.column == 0 &&
    match cursor.rest with
    | first :: second :: third :: rest =>
        first == mark && second == mark && third == mark && atBlankOrEnd rest
    | _ => false

def atDocumentMarker (cursor : Cursor) : Bool := cursor.atMarker '-' || cursor.atMarker '.'

end Cursor

end SyntaxHighlight.Yaml
