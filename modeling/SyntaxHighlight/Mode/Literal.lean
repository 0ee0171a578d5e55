/-
The lengths of number and character literals at the start of a text.
-/

import SyntaxHighlight.Text.Numeral

namespace SyntaxHighlight

open SyntaxHighlight.Text

/-- The number of characters at the start of a text that satisfy a predicate. -/
def countWhile (p : Char → Bool) (text : List Char) : Nat := (text.takeWhile p).length

def digitCount (text : List Char) : Nat := countWhile isDigit text

/-- A nonempty run of digits. -/
def integerLength? (text : List Char) : Option Nat :=
  let digits := digitCount text
  if digits = 0 then none else some digits

def signLength : List Char → Nat
  | '+' :: _ | '-' :: _ => 1
  | _ => 0

/-- An exponent: its letter, perhaps a sign, and digits. -/
def exponentLength? : List Char → Option Nat
  | 'e' :: rest | 'E' :: rest =>
      let sign := signLength rest
      let digits := digitCount (rest.drop sign)
      if digits = 0 then none else some (1 + sign + digits)
  | _ => none

/-- Digits around a point, of which one side may be missing, or before an exponent. -/
def floatLength? (text : List Char) : Option Nat :=
  let whole := digitCount text
  match text.drop whole with
  | '.' :: rest =>
      let fraction := digitCount rest
      if whole + fraction = 0 then none
      else some (whole + 1 + fraction + (exponentLength? (rest.drop fraction)).getD 0)
  | rest => if whole = 0 then none else (exponentLength? rest).map (whole + ·)

/-- The letters and signs that make an escape sequence with a backslash before them. -/
def simpleEscapes : List Char :=
  ['a', 'b', 'e', 'f', 'n', 'r', 't', 'v', '"', '\'', '?', '\\']

/-- An escape sequence: a letter or sign, any number of hexadecimal digits behind an x, or up to
three octal digits. -/
def escapeLength? : List Char → Option Nat
  | '\\' :: 'x' :: rest =>
      let digits := countWhile isHexDigit rest
      if digits = 0 then none else some (2 + digits)
  | '\\' :: char :: rest =>
      if simpleEscapes.contains char then some 2
      else if isOctalDigit char then some (1 + min 3 (countWhile isOctalDigit (char :: rest)))
      else none
  | _ => none

end SyntaxHighlight
