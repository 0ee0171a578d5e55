/-
Binary floating-point numbers of 64 bits, given as `significand * 2 ^ exponent` with their
sign apart: the one nearest to a decimal number, and the shortest decimal number that a
binary one is nearest to. Everything is exact arithmetic on whole numbers.
-/

import SyntaxHighlight.Decimal.Basic

namespace SyntaxHighlight

/-- A finite magnitude. The significand has at most 53 binary digits and the exponent is at
least -1074. -/
structure Binary64 where
  significand : Nat
  exponent : Int
deriving Repr, DecidableEq

/-- The quotient rounded to the nearest whole number, ties to the even one. -/
def roundHalfEven (numerator denominator : Nat) : Nat :=
  let quotient := numerator / denominator
  let twice := 2 * (numerator % denominator)
  if twice < denominator then quotient
  else if denominator < twice then quotient + 1
  else if quotient % 2 = 0 then quotient else quotient + 1

namespace Binary64

private def scaleUp (base : Nat) (exponent : Int) : Nat := Nat.pow base exponent.toNat

/-- The positive ratio of `value * base ^ exponent`. -/
private def ratio (value base : Nat) (exponent : Int) : Nat × Nat :=
  (value * scaleUp base exponent, scaleUp base (-exponent))

/-- The magnitude nearest to a decimal number, or nothing when it is out of range. -/
def nearest? (number : Decimal) : Option Binary64 :=
  if number.digits = 0 then some ⟨0, -1074⟩ else
  let magnitude := number.exponent + Decimal.digitCount number.digits
  if 310 < magnitude then none
  else if magnitude < -330 then some ⟨0, -1074⟩ else
  let (numerator, denominator) := ratio number.digits 10 number.exponent
  let estimate := (numerator.log2 : Int) - denominator.log2
  let (left, right) := ratio denominator 2 estimate
  let logarithm := if left ≤ numerator * right then estimate else estimate - 1
  let exponent := max (logarithm - 52) (-1074)
  let (scaled, scale) := ratio 1 2 (-exponent)
  let significand := roundHalfEven (numerator * scaled) (denominator * scale)
  let (significand, exponent) :=
    if significand = Nat.pow 2 53 then (Nat.pow 2 52, exponent + 1) else (significand, exponent)
  if 971 < exponent then none else some ⟨significand, exponent⟩

/-- The number of decimal places before the point, negative when zeros follow it. -/
private def leadingPlaces (numerator denominator : Nat) : Int :=
  if denominator ≤ numerator then Decimal.digitCount (numerator / denominator)
  else
    let zeros := (List.range 400).find? fun count => denominator ≤ numerator * Nat.pow 10 (count + 1)
    (0 : Int) - zeros.getD 0

/-- The interval of numbers that round to a magnitude, in quarters of its last place, with its
ends when the significand is even. -/
private def roundingInterval (number : Binary64) : Nat × Nat × Bool :=
  let below := if number.significand = Nat.pow 2 52 ∧ -1074 < number.exponent then 1 else 2
  (4 * number.significand - below, 4 * number.significand + 2, number.significand % 2 = 0)

/-- The decimal number with the fewest digits that rounds to the magnitude, and of those the
nearest one. -/
def shortest (number : Binary64) : Decimal :=
  if number.significand = 0 then ⟨0, 0⟩ else
  let (low, high, closed) := roundingInterval number
  let (unit, parts) := ratio 1 2 (number.exponent - 2)
  let numerator := 4 * number.significand * unit
  let places := leadingPlaces numerator parts
  let candidate? (count : Nat) : Option Decimal :=
    let exponent := places - count
    let (grid, fraction) := ratio 1 10 exponent
    let inside (value : Nat) : Bool :=
      let place := value * grid * parts
      let lowEnd := low * unit * fraction
      let highEnd := high * unit * fraction
      if closed then lowEnd ≤ place && place ≤ highEnd else lowEnd < place && place < highEnd
    let under := numerator * fraction / (parts * grid)
    let rounded := roundHalfEven (numerator * fraction) (parts * grid)
    if inside rounded then some ⟨rounded, exponent⟩
    else if inside under then some ⟨under, exponent⟩
    else if inside (under + 1) then some ⟨under + 1, exponent⟩
    else none
  let found := (List.range 17).findSome? fun index => candidate? (index + 1)
  (found.getD ⟨number.significand * unit, 0⟩).stripZeros

end Binary64

end SyntaxHighlight
