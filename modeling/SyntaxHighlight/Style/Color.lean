/-
Colors: 32-bit words of which the lowest 24 bits are the red, green and blue parts. A color is
written with six hexadecimal digits, behind a number sign for people and behind an opaque alpha
part in stores.
-/

import SyntaxHighlight.Text.Numeral
import SyntaxHighlight.Text.Whitespace

namespace SyntaxHighlight

open SyntaxHighlight.Text

structure Color where
  code : UInt32
deriving DecidableEq, Repr

namespace Color

def ofParts (red green blue : UInt8) : Color :=
  ⟨(red.toUInt32 <<< 16) ||| (green.toUInt32 <<< 8) ||| blue.toUInt32⟩

/-- The color without anything above its three parts. -/
def masked (color : Color) : Color := ⟨color.code &&& 0xFFFFFF⟩

private def sixDigits (color : Color) : List Char := hexDigits 6 color.masked.code.toNat

/-- The text for people: a number sign and six digits. -/
def text (color : Color) : String := String.ofList ('#' :: sixDigits color)

/-- The text for stores: an opaque alpha part and six digits. -/
def opaqueText (color : Color) : String := String.ofList ('f' :: 'f' :: sixDigits color)

def readWord? (digits : List Char) : Option UInt32 :=
  ((readUnsigned? 16 digits).filter (· < wordRange 32)).map UInt32.ofNat

/-- Reads a color from a store; an alpha part is dropped. -/
def ofOpaqueText? (text : String) : Option Color :=
  (readWord? (trim text.toList)).map fun code => masked ⟨code⟩

inductive ReadError where
  | wrongLength (text : String)
  | wrongDigit (text : String)
deriving DecidableEq, Repr

def ReadError.message : ReadError → String
  | wrongLength text => s!"expected #rrggbb, got '{text}'"
  | wrongDigit text => s!"invalid color '{text}': invalid digit found in string"

/-- Reads a color as people write it: six bytes of digits, with or without number signs before
them and white space around them. -/
def read (text : String) : Except ReadError Color :=
  let digits := (trim text.toList).dropWhile (· == '#')
  if (String.ofList digits).utf8ByteSize ≠ 6 then .error (.wrongLength text)
  else match readWord? digits with
    | some code => .ok ⟨code⟩
    | none => .error (.wrongDigit text)

end Color

end SyntaxHighlight
