/-
Decimal numbers `digits * 10 ^ exponent`, as they stand in texts: an optional sign, digits
with at most one point among or beside them, and an optional power of ten.
-/

import SyntaxHighlight.Text.Numeral

namespace SyntaxHighlight

open SyntaxHighlight.Text

structure Decimal where
  digits : Nat
  exponent : Int
deriving Repr, DecidableEq

namespace Decimal

/-- The exponent mark and what follows it: a whole number with an optional sign. -/
private def readExponent? : List Char → Option Int
  | [] => some 0
  | mark :: rest =>
      if mark = 'e' ∨ mark = 'E' then
        match rest with
        | '+' :: digits => (readDigits? 10 digits).map Int.ofNat
        | digits => readSigned? 10 digits
      else none

/-- Reads an unsigned decimal number that makes up the whole text. -/
def read? (text : List Char) : Option Decimal :=
  let whole := text.takeWhile isDigit
  let afterWhole := text.dropWhile isDigit
  let (fraction, afterFraction) := match afterWhole with
    | '.' :: rest => (rest.takeWhile isDigit, rest.dropWhile isDigit)
    | rest => ([], rest)
  match readDigits? 10 (whole ++ fraction), readExponent? afterFraction with
  | some digits, some exponent => some ⟨digits, exponent - fraction.length⟩
  | _, _ => none

/-- The number of decimal digits of a whole number, one for zero. -/
def digitCount (value : Nat) : Nat := (Nat.toDigits 10 value).length

private def stripZerosUpTo : Nat → Decimal → Decimal
  | 0, number => number
  | bound + 1, number =>
      if number.digits % 10 = 0 then
        stripZerosUpTo bound ⟨number.digits / 10, number.exponent + 1⟩
      else number

/-- The same number without trailing zeros among its digits. -/
def stripZeros (number : Decimal) : Decimal :=
  if number.digits = 0 then ⟨0, 0⟩ else stripZerosUpTo (digitCount number.digits) number

end Decimal

end SyntaxHighlight
