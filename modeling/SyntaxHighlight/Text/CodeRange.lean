import SyntaxHighlight.Text.Numeral

/-
Sets of characters given as ranges of code points, and the notation in which the character
tables of this library are written: blank-separated words, each a code point in hexadecimal,
a range `first-last`, or `first-last/2` for every second code point of a range. A table of
mappings adds `>target` to a word, where the target belongs to the first code point and the
others keep their distance, or several targets with commas between them for a single one.
-/

namespace SyntaxHighlight.Text

structure CodeRange where
  first : Nat
  last : Nat
  stride : Nat
deriving Repr, DecidableEq

def CodeRange.contains (range : CodeRange) (code : Nat) : Bool :=
  range.first ≤ code && code ≤ range.last && (code - range.first) % range.stride == 0

abbrev CodeSet := List CodeRange

def CodeSet.contains (ranges : CodeSet) (code : Nat) : Bool :=
  ranges.any (·.contains code)

/-- The words of a table, which blanks and line ends separate. -/
def tableWords (text : String) : List (List Char) :=
  (text.toList.splitBy (fun left right => (left == ' ' || left == '\n') == (right == ' ' || right == '\n'))).filter
    (fun word => !word.all (fun char => char == ' ' || char == '\n'))

private def splitAtMark (mark : Char) (word : List Char) : List Char × Option (List Char) :=
  match word.span (· != mark) with
  | (front, _ :: back) => (front, some back)
  | (front, []) => (front, none)

private def readCode (digits : List Char) : Nat := (readDigits? 16 digits).getD 0

def CodeRange.ofWord (word : List Char) : CodeRange :=
  match splitAtMark '/' word with
  | (bounds, stride?) =>
    let stride := (stride?.map readCode).getD 1
    match splitAtMark '-' bounds with
    | (first, some last) => ⟨readCode first, readCode last, stride⟩
    | (code, none) => ⟨readCode code, readCode code, stride⟩

def CodeSet.ofText (text : String) : CodeSet := (tableWords text).map CodeRange.ofWord

/-- A range of code points and the images of its first member. -/
structure CodeMapping where
  source : CodeRange
  targets : List Nat
deriving Repr, DecidableEq

/-- The images of a code point under the mapping, if the mapping covers it. -/
def CodeMapping.image? (mapping : CodeMapping) (code : Nat) : Option (List Nat) :=
  if mapping.source.contains code then
    some (mapping.targets.map (· + (code - mapping.source.first)))
  else none

private def splitCommas : List Char → List (List Char)
  | [] => [[]]
  | ',' :: rest => [] :: splitCommas rest
  | char :: rest =>
      match splitCommas rest with
      | word :: words => (char :: word) :: words
      | [] => [[char]]

def CodeMapping.ofWord (word : List Char) : CodeMapping :=
  match splitAtMark '>' word with
  | (source, targets?) =>
    ⟨CodeRange.ofWord source, ((targets?.map splitCommas).getD []).map readCode⟩

abbrev CodeMap := List CodeMapping

def CodeMap.ofText (text : String) : CodeMap := (tableWords text).map CodeMapping.ofWord

/-- The image of a character, which is itself where no mapping covers it. -/
def CodeMap.apply (mappings : CodeMap) (char : Char) : List Char :=
  match mappings.findSome? (·.image? char.toNat) with
  | some targets => targets.map Char.ofNat
  | none => [char]

end SyntaxHighlight.Text
