/-
The text of scalars as it is written: plain, quoted and block scalars, with the folding of
lines. A single line break between words becomes a blank; of several breaks the first is
dropped and the others stay; a Unicode separator is always kept.
-/

import SyntaxHighlight.Yaml.Cursor

namespace SyntaxHighlight.Yaml

open SyntaxHighlight.Text

inductive ScalarStyle where
  | plain
  | singleQuoted
  | doubleQuoted
  | literal
  | folded
deriving Repr, DecidableEq

/-- The white space read since the last word: blanks of the same line, or line breaks. An
escaped line break joins the lines without a blank. -/
structure Gap where
  blanks : List Char
  broken : Bool
  escaped : Bool
  breaks : List Char
deriving Repr

namespace Gap

def none : Gap := ⟨[], false, false, []⟩

def afterEscapedBreak : Gap := ⟨[], true, true, []⟩

/-- The text that the gap stands for between two words. -/
def text (gap : Gap) : List Char :=
  if gap.broken then
    if gap.escaped then gap.breaks
    else match gap.breaks with
      | ['\n'] => [' ']
      | '\n' :: more => more
      | breaks => breaks
  else gap.blanks

/-- Reads blanks and line breaks. With an indentation given, a tab before that column at the
start of a line is refused. -/
private def readFrom (indent? : Option Nat) : Nat → Gap → Cursor → Except SyntaxError (Gap × Cursor)
  | 0, gap, cursor => .ok (gap, cursor)
  | fuel + 1, gap, cursor =>
      match cursor.head? with
      | some char =>
          if isBlank char then
            if gap.broken && char == '\t' && indent?.any (fun indent => cursor.column < indent) then
              .error .tabIndentation
            else
              let blanks := if gap.broken then gap.blanks else gap.blanks ++ [char]
              readFrom indent? fuel { gap with blanks } (cursor.skip 1)
          else if isBreak char then
            let (lineBreak, next) := cursor.takeBreak
            readFrom indent? fuel
              { gap with blanks := [], broken := true, breaks := gap.breaks ++ lineBreak } next
          else .ok (gap, cursor)
      | Option.none => .ok (gap, cursor)

def read (indent? : Option Nat) (gap : Gap) (cursor : Cursor) : Except SyntaxError (Gap × Cursor) :=
  readFrom indent? (cursor.rest.length + 1) gap cursor

end Gap

/-! ### Plain scalars -/

def isFlowIndicator (char : Char) : Bool :=
  char == ',' || char == '[' || char == ']' || char == '{' || char == '}'

/-- The length of the run of characters that a plain scalar takes up to the next blank, break or
indicator. -/
private def plainRun (inFlow : Bool) : List Char → Except SyntaxError Nat
  | [] => .ok 0
  | char :: rest =>
      if isBlank char || isBreak char then .ok 0
      else if inFlow && char == ':' && rest.head?.any (fun next => next == '?' || isFlowIndicator next) then
        .error (.unexpectedCharacter ':')
      else if char == ':' && atBlankOrEnd rest then .ok 0
      else if inFlow && isFlowIndicator char then .ok 0
      else (plainRun inFlow rest).map (· + 1)

structure PlainScalar where
  text : List Char
  cursor : Cursor
  /-- The scalar was followed by a line break, so that a key may begin where it ends. -/
  endsLine : Bool

private def plainWords (inFlow : Bool) (indent : Nat) :
    Nat → List Char → Gap → Cursor → Except SyntaxError PlainScalar
  | 0, text, gap, cursor => .ok ⟨text, cursor, gap.broken⟩
  | fuel + 1, text, gap, cursor => do
      if cursor.atDocumentMarker || cursor.headIs '#' then return ⟨text, cursor, gap.broken⟩
      let length ← plainRun inFlow cursor.rest
      let word := cursor.rest.take length
      let (text, gap) := if length = 0 then (text, gap) else (text ++ gap.text ++ word, Gap.none)
      let cursor := cursor.skip length
      if !cursor.headSatisfies (fun char => isBlank char || isBreak char) then
        return ⟨text, cursor, gap.broken⟩
      let (gap, cursor) ← Gap.read (some indent) gap cursor
      if !inFlow && cursor.column < indent then return ⟨text, cursor, gap.broken⟩
      plainWords inFlow indent fuel text gap cursor

/-- Reads a plain scalar, whose further lines have to be indented to the given column unless it
stands in a flow collection. -/
def readPlain (inFlow : Bool) (indent : Nat) (cursor : Cursor) : Except SyntaxError PlainScalar :=
  plainWords inFlow indent (cursor.rest.length + 1) [] Gap.none cursor

/-! ### Quoted scalars -/

/-- The character that a one-letter escape stands for. -/
def escapedChar? : Char → Option Char
  | '0' => some '\x00'
  | 'a' => some '\x07'
  | 'b' => some '\x08'
  | 't' => some '\t'
  | '\t' => some '\t'
  | 'n' => some '\n'
  | 'v' => some '\x0B'
  | 'f' => some '\x0C'
  | 'r' => some '\r'
  | 'e' => some '\x1B'
  | ' ' => some ' '
  | '"' => some '"'
  | '/' => some '/'
  | '\\' => some '\\'
  | 'N' => some '\u0085'
  | '_' => some '\u00A0'
  | 'L' => some '\u2028'
  | 'P' => some '\u2029'
  | _ => none

/-- The number of hexadecimal digits that a numeric escape has. -/
def escapeWidth? : Char → Option Nat
  | 'x' => some 2
  | 'u' => some 4
  | 'U' => some 8
  | _ => none

/-- The character with a code point, if that is a Unicode scalar value. -/
def charOfCode? (code : Nat) : Option Char :=
  if h : code.isValidChar then some (Char.ofNatAux code h) else none

/-- Reads an escape behind its backslash: the character and the number of characters read. -/
private def readEscape : List Char → Except SyntaxError (Char × Nat)
  | [] => .error .unclosedQuote
  | mark :: rest =>
      match escapeWidth? mark with
      | some width =>
          let digits := rest.take width
          if digits.length < width then .error .malformedEscape
          else match (if digits.all isHexDigit then readDigits? 16 digits else none) with
            | some code =>
                match charOfCode? code with
                | some char => .ok (char, width + 1)
                | none => .error .malformedEscape
            | none => .error .malformedEscape
      | none =>
          match escapedChar? mark with
          | some char => .ok (char, 1)
          | none => .error (.unknownEscape mark)

/-- What ended a run of quoted characters. -/
private inductive RunEnd where
  | space
  | escapedBreak

private def quotedRun (single : Bool) :
    Nat → List Char → Cursor → Except SyntaxError (List Char × RunEnd × Cursor)
  | 0, text, cursor => .ok (text, .space, cursor)
  | fuel + 1, text, cursor =>
      match cursor.rest with
      | [] => .ok (text, .space, cursor)
      | char :: rest =>
          if isBlank char || isBreak char then .ok (text, .space, cursor)
          else if single then
            if char == '\'' then
              if rest.head? == some '\'' then quotedRun single fuel (text ++ ['\'']) (cursor.skip 2)
              else .ok (text, .space, cursor)
            else quotedRun single fuel (text ++ [char]) (cursor.skip 1)
          else if char == '"' then .ok (text, .space, cursor)
          else if char == '\\' then
            if rest.head?.any isBreak then
              .ok (text, .escapedBreak, (cursor.skip 1).skipBreak)
            else do
              let (escaped, width) ← readEscape rest
              quotedRun single fuel (text ++ [escaped]) (cursor.skip (width + 1))
          else quotedRun single fuel (text ++ [char]) (cursor.skip 1)

private def quotedLines (single : Bool) :
    Nat → List Char → Cursor → Except SyntaxError (List Char × Cursor)
  | 0, _, _ => .error .unclosedQuote
  | fuel + 1, text, cursor => do
      if cursor.atDocumentMarker then throw .documentMarkInQuote
      if cursor.atEnd then throw .unclosedQuote
      let (word, runEnd, cursor) ← quotedRun single (cursor.rest.length + 1) [] cursor
      let text := text ++ word
      if cursor.headIs (if single then '\'' else '"') then return (text, cursor.skip 1)
      let gap := match runEnd with
        | .space => Gap.none
        | .escapedBreak => Gap.afterEscapedBreak
      let (gap, cursor) ← Gap.read none gap cursor
      quotedLines single fuel (text ++ gap.text) cursor

/-- Reads a quoted scalar from behind its opening quote. -/
def readQuoted (single : Bool) (cursor : Cursor) : Except SyntaxError (List Char × Cursor) :=
  quotedLines single (cursor.rest.length + 2) [] cursor

/-! ### Block scalars -/

/-- What becomes of the line breaks at the end of a block scalar. -/
inductive Chomping where
  | strip
  | clip
  | keep
deriving Repr, DecidableEq

/-- Passes over the indentation and the empty lines before a line of a block scalar. The
indentation found so far is zero while it is still to be determined. -/
private def blockBreaks (indent : Nat) :
    Nat → (deepest : Nat) → List Char → Cursor → Except SyntaxError (Nat × List Char × Cursor)
  | 0, deepest, breaks, cursor => .ok (deepest, breaks, cursor)
  | fuel + 1, deepest, breaks, cursor =>
      let spaces := (cursor.rest.takeWhile (· == ' ')).length
      let passed := if indent = 0 then spaces else min spaces (indent - cursor.column)
      let cursor := cursor.skip passed
      let deepest := max deepest cursor.column
      if (indent = 0 || cursor.column < indent) && cursor.headIs '\t' then .error .tabIndentation
      else if cursor.headSatisfies isBreak then
        let (lineBreak, next) := cursor.takeBreak
        blockBreaks indent fuel deepest (breaks ++ lineBreak) next
      else .ok (deepest, breaks, cursor)

private structure BlockLine where
  text : List Char
  lineBreak : List Char
  emptyLines : List Char
  startsBlank : Bool

private def blockLines (foldLines : Bool) (indent : Nat) :
    Nat → BlockLine → Cursor → Except SyntaxError (BlockLine × Cursor)
  | 0, state, cursor => .ok (state, cursor)
  | fuel + 1, state, cursor => do
      if cursor.column ≠ indent || cursor.atEnd then return (state, cursor)
      let startsBlank := cursor.headSatisfies isBlank
      let joint :=
        if foldLines && state.lineBreak == ['\n'] && !state.startsBlank && !startsBlank then
          if state.emptyLines.isEmpty then [' '] else state.emptyLines
        else state.lineBreak ++ state.emptyLines
      let (line, cursor) := cursor.takeWhile (fun char => !isBreak char)
      let (lineBreak, cursor) := cursor.takeBreak
      let (_, emptyLines, cursor) ← blockBreaks indent (cursor.rest.length + 1) 0 [] cursor
      blockLines foldLines indent fuel
        ⟨state.text ++ joint ++ line, lineBreak, emptyLines, startsBlank⟩ cursor

private def readChomping? : Char → Option Chomping
  | '+' => some .keep
  | '-' => some .strip
  | _ => none

private def readIncrement (cursor : Cursor) : Except SyntaxError (Nat × Cursor) :=
  match cursor.head? with
  | some char =>
      if char == '0' then .error .zeroIndentation
      else if isDigit char then .ok (char.toNat - '0'.toNat, cursor.skip 1)
      else .ok (0, cursor)
  | none => .ok (0, cursor)

/-- The chomping and the indentation that the header of a block scalar asks for, zero when the
first line decides. -/
private def readBlockHeader (cursor : Cursor) : Except SyntaxError (Chomping × Nat × Cursor) := do
  match cursor.head?.bind readChomping? with
  | some chomping =>
      let (increment, cursor) ← readIncrement (cursor.skip 1)
      return (chomping, increment, cursor)
  | none =>
      let (increment, cursor) ← readIncrement cursor
      if increment = 0 then return (.clip, 0, cursor)
      match cursor.head?.bind readChomping? with
      | some chomping => return (chomping, increment, cursor.skip 1)
      | none => return (.clip, increment, cursor)

/-- Passes over blanks and a comment to the end of the line. -/
def skipToLineEnd (cursor : Cursor) (failure : SyntaxError) : Except SyntaxError Cursor :=
  let cursor := cursor.skipWhile isBlank
  let cursor := if cursor.headIs '#' then cursor.skipWhile (fun char => !isBreak char) else cursor
  if atBreakOrEnd cursor.rest then .ok cursor.skipBreak else .error failure

/-- Reads a block scalar from behind its indicator. The lines are indented more than the
collection that holds the scalar, whose own column is `parent`, or -1 outside all. -/
def readBlock (foldLines : Bool) (parent : Int) (cursor : Cursor) :
    Except SyntaxError (List Char × Cursor) := do
  let (chomping, increment, cursor) ← readBlockHeader cursor
  let cursor ← skipToLineEnd cursor .malformedBlockHeader
  let given : Nat := if increment = 0 then 0 else (max parent 0).toNat + increment
  let (deepest, emptyLines, cursor) ← blockBreaks given (cursor.rest.length + 1) 0 [] cursor
  let indent := if given = 0 then max (max deepest (parent + 1).toNat) 1 else given
  let (state, cursor) ←
    blockLines foldLines indent (cursor.rest.length + 1) ⟨[], [], emptyLines, false⟩ cursor
  let ending := match chomping with
    | .strip => []
    | .clip => state.lineBreak
    | .keep => state.lineBreak ++ state.emptyLines
  return (state.text ++ ending, cursor)

end SyntaxHighlight.Yaml
