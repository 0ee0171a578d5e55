/-
Patterns of text. A pattern is matched at a place in a line; it may look at all of the line, in
both directions, and may refer back to what its groups have matched.
-/

import SyntaxHighlight.Pattern.CharClass

namespace SyntaxHighlight

namespace Pattern

/-- Conditions on a place that match no character. -/
inductive Assertion where
  | textStart
  | textEnd
  /-- The end of the text, or before a line feed that ends it. -/
  | lastLineEnd
  | lineStart
  | lineEnd
  /-- The place at which the match began. -/
  | matchStart
  | wordBoundary (inAscii : Bool)
  | noWordBoundary (inAscii : Bool)
  | clusterBoundary
  | noClusterBoundary
deriving DecidableEq, Repr

end Pattern

inductive Pattern where
  | empty
  | literal (chars : List Char) (ignoreCase : Bool)
  | one (members : Pattern.CharClass)
  | lineBreak
  /-- A character together with those that combine with it. -/
  | cluster
  | assertion (assertion : Pattern.Assertion)
  | sequence (first second : Pattern)
  | either (first second : Pattern)
  | loop (least : Nat) (greatest : Option Nat) (isLazy : Bool) (body : Pattern)
  | capture (group : Nat) (body : Pattern)
  /-- A pattern whose first match is final. -/
  | atomic (body : Pattern)
  | lookAhead (negated : Bool) (body : Pattern)
  | lookBehind (negated : Bool) (body : Pattern)
  /-- What the first of the groups that took part has matched. -/
  | backreference (groups : List Nat) (ignoreCase : Bool)
  /-- The pattern of a group, matched anew; group zero is the whole pattern. -/
  | call (group : Nat)
  | callNamed (name : String)
  /-- A choice by whether one of the groups took part. -/
  | ifMatched (groups : List Nat) (yes no : Pattern)
  /-- A choice by whether a pattern matches, which is then part of the match. -/
  | ifMatches (condition yes no : Pattern)
  /-- The longest text in which a pattern has no match. -/
  | absent (body : Pattern)
deriving Repr

namespace Pattern

/-- Neighbouring texts are one text, in which a case folding may span both. -/
def followedBy : Pattern → Pattern → Pattern
  | empty, second => second
  | first, empty => first
  | literal chars ignoreCase, literal others alike =>
      if ignoreCase = alike then literal (chars ++ others) ignoreCase
      else sequence (literal chars ignoreCase) (literal others alike)
  | literal chars ignoreCase, sequence (literal others alike) rest =>
      if ignoreCase = alike then sequence (literal (chars ++ others) ignoreCase) rest
      else sequence (literal chars ignoreCase) (sequence (literal others alike) rest)
  | first, second => sequence first second

def never : Pattern := one .nothing

/-- The ways in which a text can fail to be a pattern. -/
inductive ReadError where
  | unmatchedOpen
  | unmatchedClose
  | classUnclosed
  | classEmpty
  | emptyRange
  | classEndsRange
  | classStartsRange
  | unknownClassName
  | nothingToRepeat
  | repeatTooLarge
  | endAtEscape
  | endInGroup
  | undefinedOption
  | undefinedName (name : String)
  | undefinedGroup (name : String)
  /-- Several groups have the name by which one is called. -/
  | ambiguousCall (name : String)
  | emptyGroupName
  | invalidGroupName (name : String)
  | invalidGroupChar (name : String)
  | invalidReference
  | numberedReference
  | invalidLookBehind
  | unknownProperty (name : String)
  | tooFewDigits
  | invalidCode
  | invalidCondition
  | invalidCallout
deriving DecidableEq, Repr

def ReadError.message : ReadError → String
  | unmatchedOpen => "end pattern with unmatched parenthesis"
  | unmatchedClose => "unmatched close parenthesis"
  | classUnclosed => "premature end of char-class"
  | classEmpty => "empty char-class"
  | emptyRange => "empty range in char class"
  | classEndsRange => "char-class value at end of range"
  | classStartsRange => "unmatched range specifier in char-class"
  | unknownClassName => "invalid POSIX bracket type"
  | nothingToRepeat => "target of repeat operator is not specified"
  | repeatTooLarge => "too big number for repeat range"
  | endAtEscape => "end pattern at escape"
  | endInGroup => "end pattern in group"
  | undefinedOption => "undefined group option"
  | undefinedName name => s!"undefined name <{name}> reference"
  | undefinedGroup name => s!"undefined group <{name}> reference"
  | ambiguousCall name => s!"multiplex definition name <{name}> call"
  | emptyGroupName => "group name is empty"
  | invalidGroupName name => s!"invalid group name <{name}>"
  | invalidGroupChar name => s!"invalid char in group name <{name}>"
  | invalidReference => "invalid backref number/name"
  | numberedReference => "numbered backref/call is not allowed. (use name)"
  | invalidLookBehind => "invalid pattern in look-behind"
  | unknownProperty name => "invalid character property name \x7b" ++ name ++ "\x7d"
  | tooFewDigits => "too short digits"
  | invalidCode => "invalid code point value"
  | invalidCondition => "invalid if-else syntax"
  | invalidCallout => "invalid callout name"

end Pattern

end SyntaxHighlight
