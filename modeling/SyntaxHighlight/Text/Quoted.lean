/-
Texts as they are quoted in messages: between double quotes, with escapes for quotes,
backslashes and everything that does not show on its own.
-/

import SyntaxHighlight.Text.Category

namespace SyntaxHighlight.Text

/-- Combining characters that are not of one of the categories of marks that never stand alone. -/
def otherCombining : CodeSet := .ofText
  "9BE 9D7 B3E B57 BBE BD7 CC2 CD5-CD6 D3E D57 DCF DDF 1B35 200C 302E-302F FF9E-FF9F 1133E
   11357 114B0 114BD 115AF 11930 1D165 1D16E-1D172 E0020-E007F"

/-- Whether a character is shown as it is. -/
def isVisible (char : Char) : Bool :=
  let code := char.toNat
  if code < 0x7F then 0x20 ≤ code
  else
    !(control.contains code || format.contains code || privateUse.contains code ||
      spaceSeparator.contains code || lineSeparator.contains code ||
      paragraphSeparator.contains code || nonspacingMark.contains code ||
      enclosingMark.contains code || otherCombining.contains code) &&
    categories.any (fun (_, _, members) => members.contains code)

private def lowerHex (code : Nat) : String := String.ofList (Nat.toDigits 16 code)

private def quoteChar (char : Char) : String :=
  match char with
  | '"' => "\\\""
  | '\\' => "\\\\"
  | '\n' => "\\n"
  | '\r' => "\\r"
  | '\t' => "\\t"
  | '\x00' => "\\0"
  | char =>
      if isVisible char then char.toString else "\\u\x7b" ++ lowerHex char.toNat ++ "\x7d"

def quoted (text : String) : String :=
  "\"" ++ String.join (text.toList.map quoteChar) ++ "\""

end SyntaxHighlight.Text
