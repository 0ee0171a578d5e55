/-
Patterns of file names: a question mark stands for any character, an asterisk for any text, and
brackets for one of several characters, or none of them behind an exclamation mark. Two asterisks
stand for any directories and must be a whole part of a path.
-/

namespace SyntaxHighlight

inductive GlobRange where
  | single (char : Char)
  | range (first last : Char)
deriving DecidableEq, Repr

def GlobRange.contains : GlobRange → Char → Bool
  | single member, char => char == member
  | range first last, char => first ≤ char && char ≤ last

inductive GlobToken where
  | char (char : Char)
  | anyChar
  | anyText
  | anyDirectories
  | oneOf (negated : Bool) (ranges : List GlobRange)
deriving DecidableEq, Repr

structure Glob where
  tokens : List GlobToken
deriving DecidableEq, Repr

namespace Glob

/-! ### Reading -/

private def readRanges : List Char → List GlobRange
  | first :: '-' :: last :: rest => .range first last :: readRanges rest
  | char :: rest => .single char :: readRanges rest
  | [] => []

/-- The characters up to the bracket that closes them, of which the first is no such bracket. -/
private def spanBrackets : List Char → Option (List GlobRange × List Char)
  | [] => none
  | first :: rest =>
      match rest.span (· != ']') with
      | (others, ']' :: rest) => some (readRanges (first :: others), rest)
      | _ => none

private def isSeparator (char : Char) : Bool := char == '/'

/-- Adds a token for directories, one in a row being enough. -/
private def addDirectories (tokens : List GlobToken) : List GlobToken :=
  match tokens with
  | .anyDirectories :: _ :: _ => tokens
  | _ => .anyDirectories :: tokens

/-- Reads the rest of a pattern, given the tokens before it, latest first, and the character
before it. -/
private def readTokens : (fuel : Nat) → List GlobToken → (previous : Option Char) → List Char →
    Option (List GlobToken)
  | 0, tokens, _, _ => some tokens.reverse
  | _ + 1, tokens, _, [] => some tokens.reverse
  | fuel + 1, tokens, _, '?' :: rest => readTokens fuel (.anyChar :: tokens) (some '?') rest
  | _ + 1, _, _, '*' :: '*' :: '*' :: _ => none
  | fuel + 1, tokens, previous, '*' :: '*' :: rest =>
      if previous.all isSeparator then
        match rest with
        | [] => readTokens fuel (addDirectories tokens) (some '*') []
        | char :: rest =>
            if isSeparator char then readTokens fuel (addDirectories tokens) (some char) rest
            else none
      else none
  | fuel + 1, tokens, _, '*' :: rest => readTokens fuel (.anyText :: tokens) (some '*') rest
  | fuel + 1, tokens, _, '[' :: '!' :: rest =>
      match spanBrackets rest with
      | some (ranges, rest) => readTokens fuel (.oneOf true ranges :: tokens) (some ']') rest
      | none => none
  | fuel + 1, tokens, _, '[' :: rest =>
      match spanBrackets rest with
      | some (ranges, rest) => readTokens fuel (.oneOf false ranges :: tokens) (some ']') rest
      | none => none
  | fuel + 1, tokens, _, char :: rest => readTokens fuel (.char char :: tokens) (some char) rest

/-- Reads a pattern; some texts are none. -/
def read? (text : List Char) : Option Glob := (readTokens text.length [] none text).map Glob.mk

/-! ### Matching -/

/-- Whether a predicate holds of a text or of what remains behind some of its characters. -/
def anyTail (p : List Char → Bool) : List Char → Bool
  | [] => p []
  | char :: rest => p (char :: rest) || anyTail p rest

/-- Whether a predicate holds of a text, of what remains behind a separator, or of nothing. -/
def anyDirectoryTail (p : List Char → Bool) : (atStart : Bool) → List Char → Bool
  | _, [] => p []
  | atStart, char :: rest =>
      (atStart && p (char :: rest)) || anyDirectoryTail p (isSeparator char) rest

def tokensMatch : List GlobToken → List Char → Bool
  | [], name => name.isEmpty
  | .anyText :: tokens, name => anyTail (tokensMatch tokens) name
  | .anyDirectories :: tokens, name => anyDirectoryTail (tokensMatch tokens) true name
  | .char expected :: tokens, char :: name => char == expected && tokensMatch tokens name
  | .anyChar :: tokens, _ :: name => tokensMatch tokens name
  | .oneOf negated ranges :: tokens, char :: name =>
      ranges.any (fun range => range.contains char) != negated && tokensMatch tokens name
  | _ :: _, [] => false

/-- Whether a name as a whole is of the pattern. -/
def isMatch (glob : Glob) (name : List Char) : Bool := tokensMatch glob.tokens name

end Glob

end SyntaxHighlight
