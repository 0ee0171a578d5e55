/-
The contexts of a highlighting mode as they are used: with references resolved to numbers and
included rules in place. Context zero belongs to no definition; it is where text goes when all
else fails.
-/

import SyntaxHighlight.Mode.Literal
import SyntaxHighlight.Pattern.Matching
import SyntaxHighlight.Text.Lowercase

namespace SyntaxHighlight

open SyntaxHighlight.Text

/-! ### Switches -/

inductive SwitchTarget where
  | context (id : Nat)
  /-- A reference that leads nowhere. -/
  | unresolved (reference : String)
deriving DecidableEq, Repr

/-- A change of the stack of contexts: some are taken off, then one may be put on. -/
structure Switch where
  pops : Nat := 0
  target : Option SwitchTarget := none
deriving DecidableEq, Repr

def Switch.isStay (switch : Switch) : Bool := switch.pops == 0 && switch.target.isNone

/-! ### Words and runs -/

def sameChar (insensitive : Bool) (one other : Char) : Bool :=
  one == other || (insensitive && lowercaseChar one == lowercaseChar other)

/-- Whether a text begins with another one, character by character. -/
def beginsWith (insensitive : Bool) : (start text : List Char) → Bool
  | [], _ => true
  | _ :: _, [] => false
  | one :: start, other :: text =>
      sameChar insensitive one other && beginsWith insensitive start text

/-- Whether a word may begin at a place. -/
def atWordStart (isDelimiter : Char → Bool) (place : Place) : Bool :=
  match place.before with
  | [] => true
  | char :: _ => isDelimiter char

/-- Whether a word may end before a text. -/
def atWordEnd (isDelimiter : Char → Bool) : List Char → Bool
  | [] => true
  | char :: _ => isDelimiter char

def lengthIf (condition : Bool) (length : Nat) : Option Nat :=
  if condition then some length else none

def wordLength? (isDelimiter : Char → Bool) (insensitive : Bool) (text : List Char)
    (place : Place) : Option Nat :=
  lengthIf
    (atWordStart isDelimiter place && beginsWith insensitive text place.after &&
      atWordEnd isDelimiter (place.after.drop text.length))
    text.length

/-- The length of the run up to the next delimiter, if that run is one of the words. -/
def keywordLength? (isDelimiter : Char → Bool) (insensitive : Bool) (words : List (List Char))
    (place : Place) : Option Nat :=
  let word := place.after.takeWhile fun char => !isDelimiter char
  let key := if insensitive then lowercaseText word else word
  lengthIf (atWordStart isDelimiter place && !word.isEmpty && words.contains key) word.length

def isIdentifierStart (char : Char) : Bool := isAsciiLetter char || char == '_'

def isIdentifierPart (char : Char) : Bool := isIdentifierStart char || isDigit char

def identifierLength? : List Char → Option Nat
  | [] => none
  | first :: rest =>
      lengthIf (isIdentifierStart first) (1 + countWhile isIdentifierPart rest)

def rangeLength? (first last : Char) : List Char → Option Nat
  | [] => none
  | char :: rest =>
      if char = first then (rest.findIdx? (· == last)).map (· + 2) else none

/-! ### Matchers -/

inductive Matcher where
  | char (char : Char)
  | charPair (first second : Char)
  | anyChar (chars : List Char)
  | literal (text : List Char) (insensitive : Bool)
  | word (text : List Char) (insensitive : Bool)
  | regex (pattern : Pattern)
  /-- A word of a list, which is in lower case where case does not matter. -/
  | keyword (words : List (List Char)) (insensitive : Bool)
  | integer
  | real
  | escape
  | range (first last : Char)
  | lineContinue (char : Char)
  | spaces
  | identifier
deriving Repr

namespace Matcher

/-- The word by which definitions call a matcher, and the characters or text that it looks for. -/
def words : Matcher → List String
  | char wanted => ["detect_char", .singleton wanted]
  | charPair first second => ["detect_2chars", .singleton first, .singleton second]
  | anyChar chars => ["any_char", .ofList chars]
  | literal text _ => ["string", .ofList text]
  | word text _ => ["word", .ofList text]
  | regex _ => ["regex"]
  | keyword _ _ => ["keyword"]
  | integer => ["int"]
  | real => ["float"]
  | escape => ["hl_c_string_char"]
  | range first last => ["range", .singleton first, .singleton last]
  | lineContinue mark => ["line_continue", .singleton mark]
  | spaces => ["detect_spaces"]
  | identifier => ["detect_identifier"]

/-- The length of what a matcher matches at a place. -/
def matchLength? (matcher : Matcher) (isDelimiter : Char → Bool) (place : Place)
    (engine : Pattern.Engine := .backtracking) : Option Nat :=
  match matcher with
  | char wanted => lengthIf (place.after.head? == some wanted) 1
  | charPair first second => lengthIf ([first, second].isPrefixOf place.after) 2
  | anyChar chars => lengthIf (place.after.head?.any chars.contains) 1
  | literal text insensitive =>
      lengthIf (beginsWith insensitive text place.after) text.length
  | word text insensitive => wordLength? isDelimiter insensitive text place
  | regex pattern => engine.length? pattern place
  | keyword words insensitive => keywordLength? isDelimiter insensitive words place
  | integer =>
      if atWordStart isDelimiter place then integerLength? place.after else none
  | real => if atWordStart isDelimiter place then floatLength? place.after else none
  | escape => escapeLength? place.after
  | range first last => rangeLength? first last place.after
  | lineContinue mark => lengthIf (place.after == [mark]) 1
  | spaces =>
      let length := countWhile isWhitespace place.after
      if length = 0 then none else some length
  | identifier => identifierLength? place.after

end Matcher

/-! ### Rules and contexts -/

structure Rule where
  matcher : Matcher
  /-- The number of the format of the match; otherwise it is the one of the context. -/
  format : Option Nat
  switch : Switch
  lookahead : Bool
  firstNonSpace : Bool
  column : Option Nat
  beginRegion : Option Nat
  endRegion : Option Nat
deriving Repr

structure Context where
  id : Nat
  name : String
  definition : String
  /-- The number of the format of text that no rule matches. -/
  format : Nat
  lineEnd : Switch := {}
  lineEmpty : Option Switch := none
  fallthrough : Option Switch := none
  rules : List Rule := []
  delimiters : List Char
  caseSensitive : Bool
deriving Repr

/-- Whether a place is where a line has its first character that is not white space. -/
def Place.isFirstNonSpace (place : Place) : Bool :=
  place.before.all isWhitespace && place.after.head?.any fun char => !isWhitespace char

namespace Rule

/-- Whether a rule is tried at a place at all. -/
def applies (rule : Rule) (place : Place) : Bool :=
  (!rule.firstNonSpace || place.isFirstNonSpace) && rule.column.all (· == place.index)

end Rule

namespace Context

def isDelimiter (context : Context) (char : Char) : Bool := context.delimiters.contains char

/-- The first rule that matches at a place, and the length of its match. -/
def findRule? (context : Context) (place : Place)
    (engine : Pattern.Engine := .backtracking) : Option (Rule × Nat) :=
  context.rules.findSome? fun rule =>
    if rule.applies place then
      (rule.matcher.matchLength? context.isDelimiter place engine).map fun length => (rule, length)
    else none

def hasFallthrough (context : Context) : Bool := context.fallthrough.isSome

/-- Whether a rule may carry the context over into the next line. -/
def continuesLines (context : Context) : Bool :=
  context.rules.any fun rule =>
    match rule.matcher with
    | .lineContinue _ => true
    | _ => false

def startsFolding (context : Context) : Bool :=
  context.rules.any fun rule => rule.beginRegion.isSome

def hasEmptyLineSwitch (context : Context) : Bool := context.lineEmpty.isSome

/-- The switch at the end of a line. -/
def endSwitch (context : Context) (isEmpty : Bool) : Switch :=
  if isEmpty then context.lineEmpty.getD context.lineEnd else context.lineEnd

end Context

end SyntaxHighlight
