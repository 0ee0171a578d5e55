/-
Classes of characters, as patterns name them: single characters, ranges, the usual kinds of
characters, Unicode properties, and what can be made of these by union, intersection and
complement.
-/

import SyntaxHighlight.Text.CaseFolding
import SyntaxHighlight.Text.Category
import SyntaxHighlight.Text.Property
import SyntaxHighlight.Text.Script
import SyntaxHighlight.Text.Whitespace

namespace SyntaxHighlight.Pattern

open SyntaxHighlight.Text

/-- The kinds of characters that have names of their own in patterns. -/
inductive CharKind where
  | alphanumeric
  | letter
  | ascii
  | blank
  | control
  | digit
  | graphic
  | lowercase
  | printing
  | punctuation
  | space
  | uppercase
  | hexDigit
  | word
deriving DecidableEq, Repr

private def inSet (set : CodeSet) (char : Char) : Bool := set.contains char.toNat

def isLetter (char : Char) : Bool :=
  if char.toNat < 0x80 then isAsciiLetter char else inSet alphabetic char

def isDecimalDigit (char : Char) : Bool :=
  if char.toNat < 0x80 then isDigit char else inSet decimalNumber char

def isMark (char : Char) : Bool :=
  0x80 ≤ char.toNat &&
    (inSet nonspacingMark char || inSet spacingMark char || inSet enclosingMark char)

/-- Letters, marks, digits and connecting punctuation. -/
def isWord (char : Char) : Bool :=
  if char.toNat < 0x80 then isAsciiLetter char || isDigit char || char == '_'
  else isLetter char || isMark char || isDecimalDigit char || inSet connectorPunctuation char

def isAssigned (char : Char) : Bool := categories.any fun (_, _, members) => inSet members char

def isPunctuation (char : Char) : Bool :=
  "$+<=>^`|~".toList.contains char ||
    [connectorPunctuation, dashPunctuation, openPunctuation, closePunctuation,
      initialPunctuation, finalPunctuation, otherPunctuation].any (inSet · char)

/-- Assigned characters that are neither white space nor control characters. -/
def isGraphic (char : Char) : Bool :=
  !isWhitespace char && !inSet control char && isAssigned char

private def asciiOnly (char : Char) (member : Bool) : Bool := char.toNat < 0x80 && member

namespace CharKind

/-- Whether a character is of a kind; the ASCII sense of a kind leaves out all other
characters. -/
def contains (kind : CharKind) (inAscii : Bool) (char : Char) : Bool :=
  let member := match kind with
    | alphanumeric => isLetter char || isDecimalDigit char
    | letter => isLetter char
    | ascii => char.toNat < 0x80
    | blank => char == '\t' || inSet spaceSeparator char
    | control => inSet Text.control char
    | digit => isDecimalDigit char
    | graphic => isGraphic char
    | lowercase => inSet Text.lowercase char
    | printing => isGraphic char || inSet spaceSeparator char
    | punctuation => isPunctuation char
    | space => isWhitespace char
    | uppercase => inSet Text.uppercase char
    | hexDigit => isHexDigit char
    | word => isWord char
  if inAscii then asciiOnly char member else member

/-- The names that stand between brackets and colons, or for a property. -/
def named : List (String × CharKind) :=
  [("alnum", alphanumeric), ("alpha", letter), ("blank", blank), ("cntrl", control),
    ("digit", digit), ("graph", graphic), ("lower", lowercase), ("print", printing),
    ("punct", punctuation), ("space", space), ("upper", uppercase), ("xdigit", hexDigit),
    ("ascii", ascii), ("word", word)]

end CharKind

inductive CharClass where
  | nothing
  | char (char : Char)
  | range (first last : Char)
  | kind (kind : CharKind) (inAscii : Bool)
  | members (set : CodeSet)
  | assigned
  | either (one other : CharClass)
  | both (one other : CharClass)
  | except (members : CharClass)
  /-- The members and everything that differs from one of them in case only. -/
  | anyCase (members : CharClass)
deriving Repr

namespace CharClass

def everything : CharClass := except nothing

def contains : CharClass → Char → Bool
  | nothing, _ => false
  | char member, candidate => candidate == member
  | range first last, candidate => first ≤ candidate && candidate ≤ last
  | kind sort inAscii, candidate => sort.contains inAscii candidate
  | members codes, candidate => codes.contains candidate.toNat
  | assigned, candidate => isAssigned candidate
  | either one other, candidate => one.contains candidate || other.contains candidate
  | both one other, candidate => one.contains candidate && other.contains candidate
  | except others, candidate => !others.contains candidate
  | anyCase cased, candidate =>
      cased.contains candidate || (caseVariants candidate).any cased.contains

/-- The only member of a class that is written as one character. -/
def single? : CharClass → Option Char
  | char member => some member
  | range first last => if first = last then some first else none
  | either nothing other => other.single?
  | _ => none

end CharClass

/-! ### Properties -/

/-- Names of properties are told apart by their letters and digits only, in either case. -/
def propertyKey (name : String) : String :=
  String.ofList ((name.toList.filter fun char => !(char == ' ' || char == '-' || char == '_')).map
    Char.toLower)

private def ofCategories (codes : List String) : CharClass :=
  .members ((categories.filter fun (code, _, _) => codes.contains code).flatMap fun (_, _, set) =>
    set)

/-- Groups of categories, under their short and long names. -/
private def categoryGroups : List (String × String × List String) :=
  [("l", "letter", ["Lu", "Ll", "Lt", "Lm", "Lo"]),
    ("lc", "casedletter", ["Lu", "Ll", "Lt"]),
    ("m", "mark", ["Mn", "Mc", "Me"]),
    ("n", "number", ["Nd", "Nl", "No"]),
    ("p", "punctuation", ["Pc", "Pd", "Ps", "Pe", "Pi", "Pf", "Po"]),
    ("s", "symbol", ["Sm", "Sc", "Sk", "So"]),
    ("z", "separator", ["Zs", "Zl", "Zp"])]

private def binaryProperties : List (List String × CodeSet) :=
  [(["alphabetic"], alphabetic), (["uppercase"], uppercase), (["lowercase"], lowercase),
    (["emoji"], emoji), (["emojipresentation", "epres"], emojiPresentation),
    (["extendedpictographic", "extpict"], extendedPictographic),
    (["ideographic", "ideo"], ideographic), (["math"], mathematical), (["dash"], dash),
    (["idstart", "ids", "xidstart", "xids"], identifierStart),
    (["idcontinue", "idc", "xidcontinue", "xidc"], identifierContinue)]

def categoryClass? (key : String) : Option CharClass :=
  match categories.find? fun (code, name, _) => propertyKey code == key || propertyKey name == key with
  | some (_, _, set) => some (.members set)
  | none =>
      match categoryGroups.find? fun (code, name, _) => code == key || name == key with
      | some (_, _, codes) => some (ofCategories codes)
      | none =>
          if key == "c" || key == "other" then
            some (.either (ofCategories ["Cc", "Cf", "Cs", "Co"]) (.except .assigned))
          else if key == "cn" || key == "unassigned" then some (.except .assigned)
          else if key == "assigned" then some .assigned
          else if key == "any" then some .everything
          else none

def scriptClass? (scripts : List Script) (key : String) : Option CharClass :=
  (scripts.find? fun script => propertyKey script.code == key || propertyKey script.name == key).map
    fun script => .members script.members

private def binaryClass? (key : String) : Option CharClass :=
  if key == "whitespace" || key == "wspace" then some (.kind .space false)
  else (binaryProperties.find? fun (names, _) => names.contains key).map fun (_, set) => .members set

/-- The characters that have a property, by any of its names. -/
def propertyClass? (inAscii : Bool) (name : String) : Option CharClass :=
  let key := propertyKey name
  match CharKind.named.lookup key with
  | some kind => some (.kind kind inAscii)
  | none => (categoryClass? key).or ((binaryClass? key).or (scriptClass? scripts key))

end SyntaxHighlight.Pattern
