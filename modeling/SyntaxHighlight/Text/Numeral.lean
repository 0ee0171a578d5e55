/-
Reading and writing of numerals in a given base. A numeral is a nonempty run of digits;
letters stand for the digits from ten on, in either case. Signs are the caller's matter,
except in the two readers that are named for them.
-/

namespace SyntaxHighlight.Text

/-- The number of values of words with so many bits. -/
def wordRange (bits : Nat) : Nat := 1 <<< bits

/-- The value of a digit or letter, when it is below the base. -/
def digitValue? (base : Nat) (char : Char) : Option Nat :=
  let value? :=
    if '0' ≤ char ∧ char ≤ '9' then some (char.toNat - '0'.toNat)
    else if 'a' ≤ char ∧ char ≤ 'z' then some (char.toNat - 'a'.toNat + 10)
    else if 'A' ≤ char ∧ char ≤ 'Z' then some (char.toNat - 'A'.toNat + 10)
    else none
  value?.filter (· < base)

def isDigit (char : Char) : Bool := '0' ≤ char ∧ char ≤ '9'

def isHexDigit (char : Char) : Bool := (digitValue? 16 char).isSome

def isOctalDigit (char : Char) : Bool := '0' ≤ char ∧ char ≤ '7'

def isAsciiLetter (char : Char) : Bool :=
  ('a' ≤ char ∧ char ≤ 'z') ∨ ('A' ≤ char ∧ char ≤ 'Z')

/-- Reads digits behind others of which the value is known. -/
def readDigitsFrom (base : Nat) : Nat → List Char → Option Nat
  | value, [] => some value
  | value, char :: rest =>
      match digitValue? base char with
      | some digit => readDigitsFrom base (value * base + digit) rest
      | none => none

/-- Reads a nonempty run of digits that makes up the whole text. -/
def readDigits? (base : Nat) : List Char → Option Nat
  | [] => none
  | digits => readDigitsFrom base 0 digits

/-- A whole number with an optional plus sign. -/
def readUnsigned? (base : Nat) : List Char → Option Nat
  | '+' :: digits => readDigits? base digits
  | digits => readDigits? base digits

/-- A whole number with an optional sign. -/
def readSigned? (base : Nat) : List Char → Option Int
  | '-' :: digits => (readDigits? base digits).map (fun value => -(value : Int))
  | text => (readUnsigned? base text).map Int.ofNat

/-- The lower-case digit for a value below sixteen. -/
def hexDigit (value : Nat) : Char :=
  Nat.digitChar value

/-- Exactly `width` hexadecimal digits, the lowest ones of the value. -/
def hexDigits : (width : Nat) → (value : Nat) → List Char
  | 0, _ => []
  | width + 1, value => hexDigits width (value / 16) ++ [hexDigit (value % 16)]

end SyntaxHighlight.Text
