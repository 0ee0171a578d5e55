/-
What a plain scalar stands for: nothing, a truth value, a number or a text. Truth values are
spelled `true` and `false`, in lower case, capitalised or in capitals, and nothing `null` or
`~`. Whole numbers may be hexadecimal, octal or binary. Digits after a leading zero make no
number.
-/

import SyntaxHighlight.Decimal.Real

namespace SyntaxHighlight.Yaml

open SyntaxHighlight.Text

inductive Number where
  | whole (value : Int)
  | real (value : Real)
deriving Repr, DecidableEq

inductive Scalar where
  | null
  | bool (value : Bool)
  | number (value : Number)
  /-- A whole number that does not fit into 64 bits. -/
  | wideNumber (value : Int)
  | text (value : String)
deriving Repr, DecidableEq

namespace Scalar

def isNull (text : String) : Bool :=
  text == "null" || text == "Null" || text == "NULL" || text == "~"

def readBool? (text : String) : Option Bool :=
  if text == "true" || text == "True" || text == "TRUE" then some true
  else if text == "false" || text == "False" || text == "FALSE" then some false
  else none

private def dropSign : List Char → List Char
  | '+' :: rest => rest
  | '-' :: rest => rest
  | chars => chars

/-- Digits that a superfluous zero leads, with or without a sign. -/
def isZeroLed (text : List Char) : Bool :=
  match dropSign text with
  | '0' :: second :: rest => (second :: rest).all isDigit
  | _ => false

private def hasSign : List Char → Bool
  | '+' :: _ => true
  | '-' :: _ => true
  | _ => false

private def below (limit : Nat) (value? : Option Nat) : Option Nat := value?.filter (· < limit)

/-- A whole number below the limit, possibly with a plus sign and the mark of a base. -/
private def readWhole? (limit : Nat) (text : List Char) : Option Nat :=
  let unsigned := match text with
    | '+' :: rest => rest
    | chars => chars
  let based? := match unsigned with
    | '0' :: 'x' :: digits => below limit (readDigits? 16 digits)
    | '0' :: 'o' :: digits => below limit (readUnsigned? 8 digits)
    | '0' :: 'b' :: digits => below limit (readUnsigned? 2 digits)
    | _ => none
  match based? with
  | some value => some value
  | none =>
      if hasSign unsigned || isZeroLed text then none
      else below limit (readDigits? 10 unsigned)

/-- A whole number from the negative of the limit on, with a minus sign. -/
private def readNegative? (limit : Nat) (text : List Char) : Option Int :=
  let bounded (value? : Option Nat) : Option Int :=
    (below (limit + 1) value?).map fun value => -(value : Int)
  let based? := match text with
    | '-' :: '0' :: 'x' :: digits => bounded (readDigits? 16 digits)
    | '-' :: '0' :: 'o' :: digits => bounded (readDigits? 8 digits)
    | '-' :: '0' :: 'b' :: digits => bounded (readDigits? 2 digits)
    | _ => none
  match based? with
  | some value => some value
  | none =>
      if isZeroLed text then none
      else match text with
        | '-' :: digits => bounded (readDigits? 10 digits)
        | _ => none

/-- A whole number that fits into 64 bits without a sign. -/
def readUnsigned64? (text : String) : Option Nat := readWhole? (wordRange 64) text.toList

private def readInteger? (text : List Char) : Option Int :=
  match readWhole? (wordRange 64) text with
  | some value => some value
  | none => readNegative? (wordRange 63) text

private def readWideInteger? (text : List Char) : Option Int :=
  match readWhole? (wordRange 128) text with
  | some value => some value
  | none => readNegative? (wordRange 127) text

private def readFinite? (text : List Char) : Option Real :=
  let (negative, magnitude) := match text with
    | '-' :: rest => (true, rest)
    | '+' :: rest => (false, rest)
    | chars => (false, chars)
  match (Decimal.read? magnitude).bind Binary64.nearest? with
  | some magnitude => some (.finite negative magnitude)
  | none => none

def readReal? (text : String) : Option Real :=
  let positive? : Option (List Char) := match text.toList with
    | '+' :: rest => if hasSign rest then none else some rest
    | chars => some chars
  match positive? with
  | none => none
  | some positive =>
      if ([".inf", ".Inf", ".INF"].map String.toList).contains positive then some (.infinite false)
      else if ["-.inf", "-.Inf", "-.INF"].contains text then some (.infinite true)
      else if [".nan", ".NaN", ".NAN"].contains text then some .notANumber
      else readFinite? positive

def ofPlain (text : String) : Scalar :=
  if text.isEmpty || isNull text then .null
  else match readBool? text with
    | some value => .bool value
    | none =>
        match readInteger? text.toList with
        | some value => .number (.whole value)
        | none =>
            match readWideInteger? text.toList with
            | some value => .wideNumber value
            | none =>
                if isZeroLed text.toList then .text text
                else match readReal? text with
                  | some value => .number (.real value)
                  | none => .text text

end Scalar

end SyntaxHighlight.Yaml
