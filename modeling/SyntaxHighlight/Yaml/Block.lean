/-
Writing maps of maps of lists of texts as YAML in block style. A text is written plainly where
it reads back as the same text, with line feeds as a literal block, and in quotes otherwise.
-/

import SyntaxHighlight.Yaml.Cursor
import SyntaxHighlight.Yaml.Scalar

namespace SyntaxHighlight.Yaml

open SyntaxHighlight.Text

/-! ### Ways to write a text -/

/-- The characters that may be written outside of double quotes. -/
def isWritable (char : Char) : Bool :=
  let code := char.toNat
  code == 0x0A || (0x20 ≤ code && code ≤ 0x7E) ||
    (0xA0 ≤ code && code ≤ 0xFFFD && code != 0xFEFF)

private def neighbours (p : Char → Char → Bool) : List Char → Bool
  | first :: second :: rest => p first second || neighbours p (second :: rest)
  | _ => false

private def isIndicator (char : Char) : Bool :=
  "#,[]\x7b\x7d&*!|>'\"%@\x60".toList.contains char

/-- Whether a mark inside of a text would be read as the end of a plain scalar. -/
private def endsPlain : (afterBlank : Bool) → List Char → Bool
  | _, [] => false
  | afterBlank, char :: rest =>
      (char == ':' && atBlankOrEnd rest) || (char == '#' && afterBlank) ||
        endsPlain (isBlank char || isBreak char) rest

private def startsWithMark (text : List Char) : Bool :=
  match text with
  | '-' :: '-' :: '-' :: _ | '.' :: '.' :: '.' :: _ => true
  | '?' :: rest | '-' :: rest => atBlankOrEnd rest
  | char :: _ => isIndicator char
  | [] => false

/-- Whether quotes or blocks of lines would change a text. -/
private def needsEscapes (text : List Char) : Bool :=
  text.any (fun char => !isWritable char) ||
    neighbours (fun first second => first == ' ' && isBreak second) text

private def hasIndentedLine (text : List Char) : Bool :=
  neighbours (fun first second => isBreak first && second == ' ') text

private def canBePlain (text : List Char) : Bool :=
  !startsWithMark text && !endsPlain true text && !text.any isBreak && text.head? != some ' ' &&
    text.getLast? != some ' ' && !needsEscapes text

/-- Whether a text would be read as something else, or as nothing, if it were written plainly. -/
def isAmbiguous (text : String) : Bool :=
  isZeroLedNumber text ||
    match Scalar.ofPlain text with
    | .text _ => false
    | _ => true
where
  isZeroLedNumber (text : String) : Bool := Scalar.isZeroLed text.toList

inductive Manner where
  | plain
  | singleQuoted
  | doubleQuoted
  | literal
deriving DecidableEq, Repr

/-- The way in which a text is written; keys are written on one line. -/
def manner (isKey : Bool) (text : String) : Manner :=
  let chars := text.toList
  if isKey && chars.any isBreak then .doubleQuoted
  else if chars.contains '\n' then
    if needsEscapes chars || chars.getLast? == some ' ' then .doubleQuoted else .literal
  else if !isAmbiguous text && canBePlain chars then .plain
  else if needsEscapes chars || hasIndentedLine chars then .doubleQuoted
  else .singleQuoted

/-! ### Written texts -/

private def pad (width : Nat) : String := String.ofList (List.replicate width ' ')

private def upperHex (width code : Nat) : String :=
  String.ofList ((hexDigits width code).map Char.toUpper)

private def escapeDouble (char : Char) : String :=
  match char with
  | '"' => "\\\""
  | '\\' => "\\\\"
  | '\x00' => "\\0"
  | '\x07' => "\\a"
  | '\x08' => "\\b"
  | '\t' => "\\t"
  | '\n' => "\\n"
  | '\x0b' => "\\v"
  | '\x0c' => "\\f"
  | '\r' => "\\r"
  | '\x1b' => "\\e"
  | '\u0085' => "\\N"
  | '\u2028' => "\\L"
  | '\u2029' => "\\P"
  | char =>
      let code := char.toNat
      if isWritable char then char.toString
      else if code < 0x100 then "\\x" ++ upperHex 2 code
      else if code < 0x10000 then "\\u" ++ upperHex 4 code
      else "\\U" ++ upperHex 8 code

private def doubleQuoted (text : List Char) : String :=
  "\"" ++ String.join (text.map escapeDouble) ++ "\""

private def quoteLines (indent : Nat) : (atStart : Bool) → List Char → String
  | _, [] => ""
  | atStart, char :: rest =>
      if isBreak char then char.toString ++ quoteLines indent true rest
      else
        (if atStart then pad indent else "") ++ (if char = '\'' then "''" else char.toString) ++
          quoteLines indent false rest

private def singleQuoted (indent : Nat) (text : List Char) : String :=
  "'" ++ quoteLines indent false text ++ "'"

private def writeLines (indent : Nat) : (atStart : Bool) → List Char → String
  | _, [] => ""
  | atStart, char :: rest =>
      if isBreak char then char.toString ++ writeLines indent true rest
      else (if atStart then pad indent else "") ++ char.toString ++ writeLines indent false rest

private def indentHint (text : List Char) : String :=
  if text.head?.any fun char => char == ' ' || isBreak char then "2" else ""

private def chompHint (text : List Char) : String :=
  match text.reverse with
  | [] => "-"
  | last :: before =>
      if !isBreak last then "-" else if before.head?.all isBreak then "+" else ""

private def literalBlock (indent : Nat) (text : List Char) : String :=
  "|" ++ indentHint text ++ chompHint text ++ "\n" ++ writeLines indent true text

/-- The written form of a text inside of a collection with an indentation. -/
def writeText (isKey : Bool) (indent : Nat) (text : String) : String :=
  match manner isKey text with
  | .plain => text
  | .singleQuoted => singleQuoted (indent + 2) text.toList
  | .doubleQuoted => doubleQuoted text.toList
  | .literal => literalBlock (indent + 2) text.toList

/-! ### Collections -/

/-- Begins a line behind what is written, unless a line has just begun. -/
private def newLine (written : String) (indent : Nat) : String :=
  (if written.isEmpty || written.endsWith "\n" then written else written ++ "\n") ++ pad indent

/-- Keys of up to 128 bytes on one line stand before their value. -/
def isSimpleKey (key : String) : Bool :=
  !key.toList.any isBreak && key.utf8ByteSize ≤ 128

private def writeItems (written : String) (indent : Nat) : (first : Bool) → List String → String
  | _, [] => written
  | first, item :: rest =>
      let start := if first then written else newLine written indent
      writeItems (start ++ "- " ++ writeText false indent item) indent false rest

/-- A list behind its key; behind an explicit key it begins on the line of the colon. -/
private def writeList (written : String) (indent : Nat) (explicit : Bool) (items : List String) :
    String :=
  if items.isEmpty then written ++ " []"
  else if explicit then writeItems (written ++ " ") (indent + 2) true items
  else writeItems written indent false items

private def writeKey (written : String) (indent : Nat) (key : String) : String :=
  if isSimpleKey key then written ++ writeText true indent key ++ ":"
  else newLine (written ++ "? " ++ writeText false indent key) indent ++ ":"

private def writeLists (written : String) (indent : Nat) :
    (first : Bool) → List (String × List String) → String
  | _, [] => written
  | first, (key, items) :: rest =>
      let start := writeKey (if first then written else newLine written indent) indent key
      writeLists (writeList start indent (!isSimpleKey key) items) indent false rest

private def writeGroups (written : String) : List (String × List (String × List String)) → String
  | [] => written
  | (key, lists) :: rest =>
      let start := writeKey (newLine written 0) 0 key
      let group :=
        if lists.isEmpty then start ++ " \x7b\x7d"
        else if isSimpleKey key then writeLists start 2 false lists
        else writeLists (start ++ " ") 2 true lists
      writeGroups group rest

/-- A map of maps of lists as a document. -/
def writeDocument (groups : List (String × List (String × List String))) : String :=
  if groups.isEmpty then "\x7b\x7d\n" else newLine (writeGroups "" groups) 0

end SyntaxHighlight.Yaml
