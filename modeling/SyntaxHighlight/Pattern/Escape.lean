/-
The escape sequences that patterns share inside and outside of character classes: codes of
characters, control characters, and the letters that stand for kinds of characters.
-/

import SyntaxHighlight.Pattern.Basic

namespace SyntaxHighlight.Pattern

open SyntaxHighlight.Text

/-- What options are in force at a place of a pattern. -/
structure Options where
  ignoreCase : Bool := false
  /-- White space and comments say nothing. -/
  extended : Bool := false
  /-- The full stop matches line feeds, too. -/
  dotMatchesAll : Bool := false
  asciiWord : Bool := false
  asciiDigit : Bool := false
  asciiSpace : Bool := false
  /-- All named kinds of characters are those of ASCII. -/
  asciiKinds : Bool := false
deriving DecidableEq, Repr

namespace Options

def wordInAscii (options : Options) : Bool := options.asciiWord || options.asciiKinds
def digitInAscii (options : Options) : Bool := options.asciiDigit || options.asciiKinds
def spaceInAscii (options : Options) : Bool := options.asciiSpace || options.asciiKinds

end Options

/-- The kind of characters for which a letter behind a backslash stands; a capital letter stands
for all others. -/
def kindOfLetter? (options : Options) : Char → Option CharClass
  | 'w' => some (.kind .word options.wordInAscii)
  | 'W' => some (.except (.kind .word options.wordInAscii))
  | 'd' => some (.kind .digit options.digitInAscii)
  | 'D' => some (.except (.kind .digit options.digitInAscii))
  | 's' => some (.kind .space options.spaceInAscii)
  | 'S' => some (.except (.kind .space options.spaceInAscii))
  | 'h' => some (.kind .hexDigit true)
  | 'H' => some (.except (.kind .hexDigit true))
  | _ => none

/-- The control character for which a letter behind a backslash stands. -/
def controlOfLetter? : Char → Option Char
  | 'n' => some '\n'
  | 't' => some '\t'
  | 'r' => some '\r'
  | 'f' => some '\x0c'
  | 'v' => some '\x0b'
  | 'a' => some '\x07'
  | 'e' => some '\x1b'
  | _ => none

private def charOfCode (code : Nat) : Except ReadError Char :=
  if code.isValidChar then .ok (Char.ofNat code) else .error .invalidCode

private def codeOf (base : Nat) (digits : List Char) : Nat := (readDigits? base digits).getD 0

/-- Digits of a base at the start of a text, at most so many, and what follows them. -/
private def spanDigits (base most : Nat) (text : List Char) : List Char × List Char :=
  let digits := (text.take most).takeWhile fun char => (digitValue? base char).isSome
  (digits, text.drop digits.length)

/-! ### Codes of characters -/

private def continuationByte? (text : List Char) : Option (Nat × List Char) :=
  match text with
  | '\\' :: 'x' :: high :: low :: rest =>
      match readDigits? 16 [high, low] with
      | some byte => if 0x80 ≤ byte && byte < 0xC0 then some (byte - 0x80, rest) else none
      | none => none
  | _ => none

private def continuation? : (count : Nat) → (code : Nat) → List Char → Option (Nat × List Char)
  | 0, code, text => some (code, text)
  | count + 1, code, text =>
      match continuationByte? text with
      | some (bits, rest) => continuation? count (code * 64 + bits) rest
      | none => none

/-- The character that begins with a byte; the other bytes of it follow as escapes. -/
private def charOfByte (byte : Nat) (text : List Char) : Except ReadError (Char × List Char) := do
  let code? :=
    if byte < 0x80 then some (byte, text)
    else if 0xC2 ≤ byte && byte < 0xE0 then continuation? 1 (byte - 0xC0) text
    else if 0xE0 ≤ byte && byte < 0xF0 then continuation? 2 (byte - 0xE0) text
    else if 0xF0 ≤ byte && byte < 0xF5 then continuation? 3 (byte - 0xF0) text
    else none
  match code? with
  | some (code, rest) => return (← charOfCode code, rest)
  | none => throw .invalidCode

/-- A code between braces, if one is there. -/
private def bracedCode? (base most : Nat) : List Char → Option (Nat × List Char)
  | '\x7b' :: text =>
      match spanDigits base most text with
      | ([], _) => none
      | (digits, '\x7d' :: rest) => some (codeOf base digits, rest)
      | _ => none
  | _ => none

private def hexEscape (text : List Char) : Except ReadError (Char × List Char) :=
  match bracedCode? 16 8 text with
  | some (code, rest) => do return (← charOfCode code, rest)
  | none =>
      if text.head? = some '\x7b' then .ok ('x', text)
      else
        let (digits, rest) := spanDigits 16 2 text
        charOfByte (codeOf 16 digits) rest

private def wideEscape (text : List Char) : Except ReadError (Char × List Char) :=
  let (digits, rest) := spanDigits 16 4 text
  if digits.length < 4 then .error .tooFewDigits
  else do return (← charOfCode (codeOf 16 digits), rest)

private def controlChar (char : Char) : Char :=
  if char = '?' then '\x7f' else Char.ofNat (char.toNat % 32)

/-- An octal code of at most so many digits. -/
def octalEscape (most : Nat) (text : List Char) : Except ReadError (Char × List Char) :=
  let (digits, rest) := spanDigits 8 most text
  charOfByte (codeOf 8 digits) rest

/-- The single character for which the text behind a backslash stands. Letters without a meaning
of their own stand for themselves. -/
def escapedChar : List Char → Except ReadError (Char × List Char)
  | [] => .error .endAtEscape
  | 'x' :: rest => hexEscape rest
  | 'u' :: rest => wideEscape rest
  | 'o' :: rest =>
      match bracedCode? 8 11 rest with
      | some (code, rest) => do return (← charOfCode code, rest)
      | none => .ok ('o', rest)
  | 'c' :: char :: rest => .ok (controlChar char, rest)
  | 'C' :: '-' :: char :: rest => .ok (controlChar char, rest)
  | char :: rest =>
      match controlOfLetter? char with
      | some code => .ok (code, rest)
      | none => .ok (char, rest)

/-! ### Properties -/

private def endsPropertyName (char : Char) : Bool :=
  char == '\x7d' || char == '\x7b' || char == '(' || char == ')' || char == '|'

/-- The class for the property between the braces that begin a text. -/
def bracedProperty (options : Options) (negated : Bool) (text : List Char) :
    Except ReadError (CharClass × List Char) :=
  let (inverted, text) := match text with
    | '^' :: rest => (true, rest)
    | text => (false, text)
  let (name, rest) := text.span fun char => !endsPropertyName char
  let name := String.ofList name
  match rest with
  | '\x7d' :: rest =>
      match propertyClass? options.asciiKinds name with
      | some members => .ok (if negated != inverted then .except members else members, rest)
      | none => .error (.unknownProperty name)
  | _ => .error (.unknownProperty name)

end SyntaxHighlight.Pattern
