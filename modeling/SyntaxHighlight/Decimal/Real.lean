/-
Signed floating-point values and their texts. The compact text writes very large and very
small numbers with a power of ten; the plain text writes every number positionally. Both
keep a digit after the point.
-/

import SyntaxHighlight.Decimal.Binary64

namespace SyntaxHighlight

inductive Real where
  | finite (negative : Bool) (magnitude : Binary64)
  | infinite (negative : Bool)
  | notANumber
deriving Repr, DecidableEq

namespace Real

private def zeros (count : Nat) : String := String.ofList (List.replicate count '0')

private def wholeText (digits : String) (exponent : Nat) : String :=
  digits ++ zeros exponent ++ ".0"

private def pointText (digits : String) (point : Nat) : String :=
  String.ofList (digits.toList.take point) ++ "." ++ String.ofList (digits.toList.drop point)

/-- Digits with a point after the first, and the power of ten. -/
private def scientificText (digits : String) (power : Int) : String :=
  (if digits.length ≤ 1 then digits else pointText digits 1) ++ "e" ++ toString power

/-- Positional text of `digits * 10 ^ exponent`. -/
private def positionalText (digits : String) (exponent : Int) : String :=
  let point := (digits.length : Int) + exponent
  if 0 ≤ exponent then wholeText digits exponent.toNat
  else if 0 < point then pointText digits point.toNat
  else "0." ++ zeros (-point).toNat ++ digits

private def compactMagnitude (magnitude : Binary64) : String :=
  let number := magnitude.shortest
  let digits := toString number.digits
  let point := (digits.length : Int) + number.exponent
  if -5 < point ∧ point ≤ 16 then positionalText digits number.exponent
  else scientificText digits (point - 1)

private def plainMagnitude (magnitude : Binary64) : String :=
  let number := magnitude.shortest
  positionalText (toString number.digits) number.exponent

private def signText (negative : Bool) : String := if negative then "-" else ""

/-- The shortest text that reads back as the value: positional for numbers from a hundred
thousandth to below ten to the sixteenth, with a power of ten otherwise. -/
def compactText : Real → String
  | finite negative magnitude => signText negative ++ compactMagnitude magnitude
  | infinite negative => signText negative ++ ".inf"
  | notANumber => ".nan"

/-- The positional text of the value. -/
def plainText : Real → String
  | finite negative magnitude => signText negative ++ plainMagnitude magnitude
  | infinite negative => signText negative ++ "inf"
  | notANumber => "NaN"

end Real

end SyntaxHighlight
