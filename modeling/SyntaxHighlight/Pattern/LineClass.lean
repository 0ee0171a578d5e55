/-
What line patterns write for single characters: escapes, and classes between brackets with their
operators. What these mean depends on the flags that are in force.
-/

import SyntaxHighlight.Pattern.LinePattern
import SyntaxHighlight.Pattern.LineProperty

namespace SyntaxHighlight.LinePattern

open SyntaxHighlight.Text
open SyntaxHighlight.Pattern (CharClass CharKind)

/-! ### Flags -/

structure Flags where
  ignoreCase : Bool := false
  multiLine : Bool := false
  dotMatchesAll : Bool := false
  /-- White space and comments say nothing. -/
  extended : Bool := false
  /-- Carriage returns break lines, too. -/
  carriageReturns : Bool := false
  /-- Classes have members in ASCII only. What would have others is refused. -/
  inAscii : Bool := false

private def dropSpace : Nat → List Char → List Char
  | 0, text => text
  | fuel + 1, char :: text =>
      if isWhitespace char then dropSpace fuel text
      else if char == '#' then dropSpace fuel (text.dropWhile (· != '\n'))
      else char :: text
  | _ + 1, [] => []

namespace Flags

def skip (flags : Flags) (text : List Char) : List Char :=
  if flags.extended then dropSpace text.length text else text

/-- The wanted characters in front of a text, at most so many, and what follows them. -/
def spanWanted (flags : Flags) (wanted : Char → Bool) :
    (most : Nat) → List Char → List Char × List Char
  | 0, text => ([], text)
  | most + 1, text =>
      match flags.skip text with
      | [] => ([], [])
      | char :: rest =>
          if wanted char then
            let (chars, rest) := spanWanted flags wanted most rest
            (char :: chars, rest)
          else ([], char :: rest)

/-- The members of a class and, where case does not matter, what differs from one of them in case
only. -/
def fold (flags : Flags) (members : CharClass) : CharClass :=
  if !flags.ignoreCase then members
  else if flags.inAscii then .both (.kind .ascii true) (.anyCase members)
  else .anyCase members

/-- The members of a class, or all other characters, which are never in ASCII only. -/
def negate? (flags : Flags) (negated : Bool) (members : CharClass) : Option CharClass :=
  if !negated then some members
  else if flags.inAscii then none
  else some (.except members)

/-- A class of neighbouring characters. -/
def range? (flags : Flags) (first last : Char) : Option CharClass :=
  if last < first || (flags.inAscii && 0x80 ≤ last.toNat) then none
  else some (.range first last)

end Flags

/-! ### Escapes -/

private def validChar? (code : Nat) : Option Char :=
  if code.isValidChar then some (Char.ofNat code) else none

/-- A character by its code, between braces or of a fixed width. -/
private def readCode? (flags : Flags) (width : Nat) (text : List Char) :
    Option (Char × List Char) :=
  match flags.skip text with
  | '\x7b' :: text =>
      match flags.spanWanted isHexDigit text.length text with
      | (digits, '\x7d' :: rest) => do return (← validChar? (← readDigits? 16 digits), rest)
      | _ => none
  | text => do
      let (digits, rest) := flags.spanWanted isHexDigit width text
      let char ← validChar? (← readDigits? 16 digits)
      if digits.length < width then none
      -- two digits are a byte, which beyond ASCII is no character
      else if flags.inAscii && width == 2 && 0x80 ≤ char.toNat then none
      else return (char, rest)

private def readProperty? (flags : Flags) (negated : Bool) (text : List Char) :
    Option (CharClass × List Char) := do
  let ((members, isExcluded), rest) ← match flags.skip text with
    | [] | '\\' :: _ => none
    | '\x7b' :: text =>
        match flags.spanWanted (· != '\x7d') text.length text with
        | (name, '\x7d' :: rest) => (bracedProperty? name).map (·, rest)
        | _ => none
    | char :: rest => (namedProperty? [char]).map fun members => ((members, false), rest)
  if flags.inAscii then none
  else return (← flags.negate? (negated != isExcluded) (flags.fold members), rest)

/-- The class for which a letter stands. -/
private def classOfLetter? (flags : Flags) : Char → Option CharClass
  | 'd' => some (.kind .digit flags.inAscii)
  | 's' => some (.kind .space flags.inAscii)
  | 'w' => some (wordClass flags.inAscii)
  | _ => none

private def controlChar? : Char → Option Char
  | 'a' => some '\x07'
  | 'f' => some '\x0c'
  | 't' => some '\t'
  | 'n' => some '\n'
  | 'r' => some '\r'
  | 'v' => some '\x0b'
  | _ => none

/-- Whether a backslash before a character lets it stand for itself. -/
private def isEscapable (char : Char) : Bool :=
  char.toNat < 0x80 && !isAsciiLetter char && !isDigit char && char != '<' && char != '>'

private def boundaryNames : List (String × Assertion) :=
  [("start", .wordStart), ("end", .wordEnd), ("start-half", .wordStartHalf),
    ("end-half", .wordEndHalf)]

/-- A boundary of a word, with its name between braces if one follows. What else stands between
braces counts repetitions. -/
private def readBoundary? (flags : Flags) (text : List Char) : Option (Assertion × List Char) :=
  let isNameChar := fun char => isAsciiLetter char || char == '-'
  match text with
  | '\x7b' :: inner =>
      match flags.spanWanted isNameChar inner.length inner with
      | ([], []) => none
      | ([], _) => some (.wordBoundary, text)
      | (name, '\x7d' :: rest) => (boundaryNames.lookup (String.ofList name)).map (·, rest)
      | _ => none
  | text => some (.wordBoundary, text)

inductive Escape where
  | single (char : Char)
  | many (members : CharClass)
  | condition (assertion : Assertion)

/-- What stands behind a backslash. -/
def readEscape? (flags : Flags) : List Char → Option (Escape × List Char)
  | [] => none
  | 'x' :: text => (readCode? flags 2 text).map fun (char, rest) => (.single char, rest)
  | 'u' :: text => (readCode? flags 4 text).map fun (char, rest) => (.single char, rest)
  | 'U' :: text => (readCode? flags 8 text).map fun (char, rest) => (.single char, rest)
  | 'p' :: text => (readProperty? flags false text).map fun (members, rest) => (.many members, rest)
  | 'P' :: text => (readProperty? flags true text).map fun (members, rest) => (.many members, rest)
  | 'A' :: rest => some (.condition .textStart, rest)
  | 'z' :: rest => some (.condition .textEnd, rest)
  | 'B' :: rest => some (.condition .noWordBoundary, rest)
  | '<' :: rest => some (.condition .wordStart, rest)
  | '>' :: rest => some (.condition .wordEnd, rest)
  | 'b' :: text =>
      (readBoundary? flags text).map fun (boundary, rest) => (.condition boundary, rest)
  | char :: rest =>
      match classOfLetter? flags char.toLower, controlChar? char with
      | some members, _ =>
          (flags.negate? char.isUpper members).map fun members => (.many members, rest)
      | none, some code => some (.single code, rest)
      | none, none => if isEscapable char then some (.single char, rest) else none

/-! ### Classes -/

/-- A kind of characters by its name between colons. -/
private def readKind? (flags : Flags) (text : List Char) : Option (Option CharClass × List Char) :=
  let (negated, name) := match text with
    | '^' :: rest => (true, rest)
    | rest => (false, rest)
  match name.span (· != ':') with
  | (name, ':' :: ']' :: rest) =>
      (CharKind.named.lookup (String.ofList name)).map fun kind =>
        (flags.negate? negated (flags.fold (.kind kind true)), rest)
  | _ => none

private inductive Operator where
  | intersection
  | difference
  | symmetricDifference

private def Operator.apply (operator : Operator) (one other : CharClass) : CharClass :=
  match operator with
  | .intersection => .both one other
  | .difference => .both one (.except other)
  | .symmetricDifference => .either (.both one (.except other)) (.both other (.except one))

/-- The operands of a class so far, and the one that is being read. -/
private structure ClassDraft where
  left : Option (CharClass × Operator) := none
  current : CharClass := .nothing

namespace ClassDraft

private def members (flags : Flags) (draft : ClassDraft) : CharClass :=
  match draft.left with
  | none => draft.current
  | some (left, operator) => operator.apply (flags.fold left) (flags.fold draft.current)

private def add (draft : ClassDraft) (members : CharClass) : ClassDraft :=
  { draft with current := .either draft.current members }

private def operate (flags : Flags) (operator : Operator) (draft : ClassDraft) : ClassDraft :=
  { left := some (draft.members flags, operator), current := .nothing }

end ClassDraft

private def readClassItem? (flags : Flags) : List Char → Option (Escape × List Char)
  | '\\' :: text => readEscape? flags text
  | char :: rest => some (.single char, rest)
  | [] => none

/-- The next character that is no white space. A number sign on the way is passed over, but not
what follows it as a comment. -/
private def peek? (flags : Flags) (text : List Char) : Option Char :=
  if !flags.extended then text.head?
  else
    match text.dropWhile isWhitespace with
    | '#' :: rest => (rest.dropWhile isWhitespace).head?
    | rest => rest.head?

/-- Whether a hyphen before a text is not the middle of a range. -/
private def isLoneHyphen (flags : Flags) (text : List Char) : Bool :=
  peek? flags text == some ']' || peek? flags text == some '-'

private def readClassRange? (flags : Flags) (text : List Char) :
    Option (CharClass × List Char) := do
  let (item, text) ← readClassItem? flags text
  let rest := flags.skip text
  match item, rest with
  | .single first, '-' :: behind =>
      if isLoneHyphen flags behind then return (← flags.range? first first, rest)
      let (item, rest) ← readClassItem? flags (flags.skip behind)
      match item with
      | .single last => return (← flags.range? first last, rest)
      | _ => none
  | .single char, rest => return (← flags.range? char char, rest)
  | .many members, '-' :: behind =>
      if isLoneHyphen flags behind then return (members, rest) else none
  | .many members, rest => return (members, rest)
  | .condition _, _ => none

mutual

private def readClassParts? (flags : Flags) :
    Nat → ClassDraft → List Char → Option (CharClass × List Char)
  | 0, _, _ => none
  | fuel + 1, draft, text =>
      match flags.skip text with
      | [] => none
      | ']' :: rest => some (draft.members flags, rest)
      | '&' :: '&' :: rest => readClassParts? flags fuel (draft.operate flags .intersection) rest
      | '-' :: '-' :: rest => readClassParts? flags fuel (draft.operate flags .difference) rest
      | '~' :: '~' :: rest =>
          readClassParts? flags fuel (draft.operate flags .symmetricDifference) rest
      | '[' :: rest => do
          let kind? := match rest with
            | ':' :: rest => readKind? flags rest
            | _ => none
          let (members, rest) ← match kind? with
            | some (members?, rest) => members?.map (·, rest)
            | none => readClass? flags fuel rest
          readClassParts? flags fuel (draft.add members) rest
      | text => do
          let (members, rest) ← readClassRange? flags text
          readClassParts? flags fuel (draft.add members) rest

/-- Reads a class behind its opening bracket. -/
def readClass? (flags : Flags) : Nat → List Char → Option (CharClass × List Char)
  | 0, _ => none
  | fuel + 1, text => do
      let (negated, text) := match flags.skip text with
        | '^' :: rest => (true, rest)
        | rest => (false, rest)
      -- hyphens in front stand for themselves, and so does a bracket that would close the class
      let (draft, text) := match flags.spanWanted (· == '-') text.length text with
        | ([], ']' :: rest) => (ClassDraft.add {} (.char ']'), rest)
        | ([], text) => ({}, text)
        | (_, text) => (ClassDraft.add {} (.char '-'), text)
      let (members, rest) ← readClassParts? flags fuel draft text
      return (← flags.negate? negated (flags.fold members), rest)

end

end SyntaxHighlight.LinePattern
