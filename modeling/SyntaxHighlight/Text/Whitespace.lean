/-
White space: the characters of the Unicode property of that name, and the trimming of texts.
-/

namespace SyntaxHighlight.Text

/-- Tabs and line ends, the blank, the no-break spaces and the typographic spaces. -/
def isWhitespace (char : Char) : Bool :=
  let code := char.toNat
  (0x09 ≤ code && code ≤ 0x0D) || code == 0x20 || code == 0x85 || code == 0xA0 || code == 0x1680 ||
    (0x2000 ≤ code && code ≤ 0x200A) || code == 0x2028 || code == 0x2029 || code == 0x202F ||
    code == 0x205F || code == 0x3000

/-- The text without the trailing characters that satisfy the predicate. -/
def dropTrailing (p : Char → Bool) (text : List Char) : List Char :=
  (text.reverse.dropWhile p).reverse

/-- The text without white space at either end. -/
def trim (text : List Char) : List Char :=
  dropTrailing isWhitespace (text.dropWhile isWhitespace)

def trimString (text : String) : String := String.ofList (trim text.toList)

end SyntaxHighlight.Text
