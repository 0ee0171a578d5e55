/-
Regular patterns of whole lines. They know neither looking around nor references to groups, so
that the places to which a pattern can lead are all that counts.
-/

import SyntaxHighlight.Pattern.CharClass
import SyntaxHighlight.Text.Place

namespace SyntaxHighlight

open SyntaxHighlight.Pattern (CharClass)

namespace LinePattern

inductive Assertion where
  | textStart
  | textEnd
  | lineStart
  | lineEnd
  /-- Behind a line feed or carriage return, but not between the two. -/
  | brokenLineStart
  | brokenLineEnd
  | wordBoundary
  | noWordBoundary
  | wordStart
  | wordEnd
  /-- No word character before. -/
  | wordStartHalf
  /-- No word character behind. -/
  | wordEndHalf
deriving DecidableEq, Repr

end LinePattern

inductive LinePattern where
  | empty
  | one (members : CharClass)
  | assertion (condition : LinePattern.Assertion) (inAscii : Bool)
  | sequence (first second : LinePattern)
  | either (first second : LinePattern)
  | loop (least : Nat) (greatest : Option Nat) (body : LinePattern)
deriving Repr

namespace LinePattern

/-- Word characters here include the joiners. -/
def wordClass (inAscii : Bool) : CharClass :=
  if inAscii then .kind .word true
  else .either (.kind .word false) (.range '\u200c' '\u200d')

private def wordAt (inAscii : Bool) (text : List Char) : Bool :=
  text.head?.any (wordClass inAscii).contains

def Assertion.holds (inAscii : Bool) (place : Place) (condition : Assertion) : Bool :=
  let last? := place.before.head?
  let next? := place.after.head?
  let wordBefore := wordAt inAscii place.before
  let wordAfter := wordAt inAscii place.after
  match condition with
  | textStart => last?.isNone
  | textEnd => next?.isNone
  | lineStart => last?.isNone || last? == some '\n'
  | lineEnd => next?.isNone || next? == some '\n'
  | brokenLineStart =>
      last?.isNone || last? == some '\n' || (last? == some '\r' && next? != some '\n')
  | brokenLineEnd =>
      next?.isNone || next? == some '\r' || (next? == some '\n' && last? != some '\r')
  | wordBoundary => wordBefore != wordAfter
  | noWordBoundary => wordBefore == wordAfter
  | wordStart => !wordBefore && wordAfter
  | wordEnd => wordBefore && !wordAfter
  | wordStartHalf => !wordBefore
  | wordEndHalf => !wordAfter

/-- Places of one line, each of them once. -/
def mergePlaces (places others : List Place) : List Place :=
  others.foldl
    (fun kept place =>
      if kept.any fun other => other.after.length == place.after.length then kept
      else kept ++ [place])
    places

private def iterate (step : List Place → List Place) : Nat → List Place → List Place
  | 0, places => places
  | count + 1, places => iterate step count (step places)

/-- All places to which up to so many repetitions of a step lead. -/
private def gather (step : List Place → List Place) : Nat → List Place → List Place
  | 0, places => places
  | count + 1, places => gather step count (mergePlaces places (step places))

/-- The places to which a pattern leads from any of the given ones. -/
def reach : LinePattern → List Place → List Place
  | empty, places => places
  | one members, places =>
      places.filterMap fun place =>
        match place.next? with
        | some (char, next) => if members.contains char then some next else none
        | none => none
  | assertion condition inAscii, places => places.filter fun place => condition.holds inAscii place
  | sequence first second, places => reach second (reach first places)
  | either first second, places => mergePlaces (reach first places) (reach second places)
  | loop least greatest body, places =>
      let required := iterate (reach body) least places
      match greatest with
      | some greatest => gather (reach body) (greatest - least) required
      | none =>
          let longest := (places.map fun place => place.after.length).foldl max 0
          gather (reach body) longest required

/-- Whether a pattern matches anywhere in a line. -/
def occursIn (pattern : LinePattern) (line : List Char) : Bool :=
  !(reach pattern (Place.upTo line.reverse [])).isEmpty

end LinePattern

end SyntaxHighlight
