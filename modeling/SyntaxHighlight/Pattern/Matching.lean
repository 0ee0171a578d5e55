/-
Matching patterns. A pattern is a step from a place in a line to later ones; the steps are tried
in order of preference, and one that leads nowhere is taken back. A match begins exactly at the
place where it is asked for.
-/

import SyntaxHighlight.Pattern.Cluster
import SyntaxHighlight.Pattern.LineReading
import SyntaxHighlight.Pattern.Reading
import SyntaxHighlight.Text.Place

namespace SyntaxHighlight.Pattern

open SyntaxHighlight.Text

/-! ### Captures -/

/-- Where groups began and ended last. -/
structure Captures where
  starts : List (Nat × Nat) := []
  ends : List (Nat × Nat) := []
deriving DecidableEq, Repr

namespace Captures

def begin (captures : Captures) (group index : Nat) : Captures :=
  { captures with starts := (group, index) :: captures.starts }

def finish (captures : Captures) (group index : Nat) : Captures :=
  { captures with ends := (group, index) :: captures.ends }

/-- The bounds of what a group has matched. -/
def bounds? (captures : Captures) (group : Nat) : Option (Nat × Nat) := do
  return (← captures.starts.lookup group, ← captures.ends.lookup group)

end Captures

/-! ### Steps -/

abbrev Outcome := Option (Place × Captures)

/-- A way from a place to the outcome, by way of what follows. -/
abbrev Step := Place → Captures → (Place → Captures → Outcome) → Outcome

namespace Step

def stay : Step := fun place captures rest => rest place captures

def fail : Step := fun _ _ _ => none

def char (p : Char → Bool) : Step := fun place captures rest =>
  match place.next? with
  | some (char, next) => if p char then rest next captures else none
  | none => none

def condition (p : Place → Bool) : Step := fun place captures rest =>
  if p place then rest place captures else none

private def advance (count? : Option Nat) : Step := fun place captures rest =>
  match count? with
  | some count => rest (place.forward count) captures
  | none => none

/-- The first outcome, or the second one if there is no first. -/
private def preferring (first second : Unit → Outcome) : Outcome :=
  match first () with
  | some outcome => some outcome
  | none => second ()

def orElse (first second : Step) : Step := fun place captures rest =>
  preferring (fun _ => first place captures rest) fun _ => second place captures rest

/-- Repeats a step. A repetition that does not move on is the last one, so that there are not
more of them than characters left. -/
def repeatWithin (step : Step) (isLazy : Bool) :
    (fuel : Nat) → (least : Nat) → (greatest : Option Nat) → Step
  | 0, _, _ => stay
  | fuel + 1, least, greatest => fun place captures rest =>
      let again : Unit → Outcome := fun _ =>
        step place captures fun next captures =>
          if next.after.length = place.after.length then rest next captures
          else repeatWithin step isLazy fuel (least - 1) (greatest.map (· - 1)) next captures rest
      if greatest = some 0 then rest place captures
      else if 0 < least then again ()
      else if isLazy then preferring (fun _ => rest place captures) again
      else preferring again fun _ => rest place captures

/-- The first outcome of a step alone, whatever follows. -/
def alone (step : Step) (place : Place) (captures : Captures) : Outcome :=
  step place captures fun next captures => some (next, captures)

def atomic (step : Step) : Step := fun place captures rest =>
  match step.alone place captures with
  | some (next, captures) => rest next captures
  | none => none

private def look (negated : Bool) (find : Place → Captures → Outcome) : Step :=
  fun place captures rest =>
    match find place captures with
    | some (_, found) => if negated then none else rest place found
    | none => if negated then rest place captures else none

def ahead (negated : Bool) (step : Step) : Step := look negated step.alone

/-- A step that ends at the place, from the nearest place where one begins. -/
def behind (negated : Bool) (step : Step) : Step :=
  look negated fun place captures =>
    (Place.upTo place.before place.after).findSome? fun start =>
      step start captures fun next captures =>
        if next.after.length = place.after.length then some (next, captures) else none

/-- Whether the step leads from some place of the text to one that is not beyond its end. -/
private def occursWithin (step : Step) (captures : Captures) (left : Nat) : List Char → List Char → Bool
  | before, after =>
      let here := (step ⟨before, after⟩ captures fun next captures =>
        if left ≤ next.after.length then some (next, captures) else none).isSome
      here ||
        match after with
        | [] => false
        | char :: rest => left ≤ rest.length && occursWithin step captures left (char :: before) rest

/-- The longest text without an occurrence of the step, then shorter ones. -/
def without (step : Step) : Step := fun place captures rest =>
  let lengths := (List.range (place.after.length + 1)).reverse
  lengths.findSome? fun length =>
    if occursWithin step captures (place.after.length - length) place.before place.after then none
    else rest (place.forward length) captures

end Step

/-! ### Texts -/

/-- The rest of a folded text behind the folding of a character. -/
private def dropFolding? (char : Char) (folded : List Char) : Option (List Char) :=
  let first := foldChar char
  if first.isPrefixOf folded then some (folded.drop first.length) else none

/-- The number of characters at the start of a text whose folding is the given one. -/
private def foldedLength? : (folded text : List Char) → Option Nat
  | [], _ => some 0
  | _ :: _, [] => none
  | folded, char :: rest => do
      let length ← foldedLength? (← dropFolding? char folded) rest
      return length + 1

/-- The length of a literal text at the start of another one. -/
def literalLength? (ignoreCase : Bool) (chars text : List Char) : Option Nat :=
  if ignoreCase then foldedLength? (foldText chars) text
  else if chars.isPrefixOf text then some chars.length else none

private def lineBreakLength? : List Char → Option Nat
  | '\r' :: '\n' :: _ => some 2
  | char :: _ =>
      if char == '\n' || char == '\x0b' || char == '\x0c' || char == '\r' || char == '\u0085' ||
          char == '\u2028' || char == '\u2029' then some 1
      else none
  | [] => none

/-! ### Assertions -/

private def isWordAt (inAscii : Bool) (text : List Char) : Bool :=
  text.head?.any (CharKind.word.contains inAscii)

private def isWordBoundary (inAscii : Bool) (place : Place) : Bool :=
  isWordAt inAscii place.before != isWordAt inAscii place.after

/-- Whether an assertion holds at a place, for a match that began at an index. -/
def Assertion.holds (start : Nat) (place : Place) : Assertion → Bool
  | textStart => place.before.isEmpty
  | textEnd => place.after.isEmpty
  | lastLineEnd => place.after.isEmpty || place.after == ['\n']
  | lineStart => place.before.isEmpty || (place.before.head? == some '\n' && !place.after.isEmpty)
  | lineEnd => place.after.isEmpty || place.after.head? == some '\n'
  | matchStart => place.index == start
  | wordBoundary inAscii => isWordBoundary inAscii place
  | noWordBoundary inAscii => !isWordBoundary inAscii place
  | clusterBoundary => isClusterBoundary place.before place.after
  | noClusterBoundary => !isClusterBoundary place.before place.after

/-! ### Patterns -/

private def clusterStep : Step := fun place captures rest =>
  if place.after.isEmpty then none
  else rest (place.forward (clusterLength place.before place.after)) captures

private def captureStep (group : Nat) (body : Step) : Step := fun place captures rest =>
  body place (captures.begin group place.index) fun next captures =>
    rest next (captures.finish group next.index)

/-- Matches what the first group matched of those that have and whose match occurs here. -/
private def backreferenceStep (groups : List Nat) (ignoreCase : Bool) : Step :=
  fun place captures rest =>
    let length? := groups.findSome? fun group =>
      match captures.bounds? group with
      | none => none
      | some (first, last) => literalLength? ignoreCase (place.textBetween first last) place.after
    Step.advance length? place captures rest

private def loopStep (least : Nat) (greatest : Option Nat) (isLazy : Bool) (body : Step) : Step :=
  fun place captures rest =>
    Step.repeatWithin body isLazy (place.after.length + 1) least greatest place captures rest

/-- The step that a pattern is, given the steps that calls of groups are. -/
def toStep (start : Nat) (call : Nat → Step) : Pattern → Step
  | .empty => .stay
  | .literal chars ignoreCase => fun place captures rest =>
      Step.advance (literalLength? ignoreCase chars place.after) place captures rest
  | .one members => .char members.contains
  | .lineBreak => fun place captures rest =>
      Step.advance (lineBreakLength? place.after) place captures rest
  | .cluster => clusterStep
  | .assertion test => .condition fun place => test.holds start place
  | .sequence first second => fun place captures rest =>
      toStep start call first place captures fun next captures =>
        toStep start call second next captures rest
  | .either first second => .orElse (toStep start call first) (toStep start call second)
  | .loop least greatest isLazy body =>
      loopStep least greatest isLazy (toStep start call body)
  | .capture group body => captureStep group (toStep start call body)
  | .atomic body => .atomic (toStep start call body)
  | .lookAhead negated body => .ahead negated (toStep start call body)
  | .lookBehind negated body => .behind negated (toStep start call body)
  | .backreference groups ignoreCase => backreferenceStep groups ignoreCase
  | .call group => call group
  | .callNamed _ => .fail
  | .ifMatched groups yes no => fun place captures rest =>
      if groups.any fun group => (captures.bounds? group).isSome then
        toStep start call yes place captures rest
      else toStep start call no place captures rest
  | .ifMatches condition yes no => fun place captures rest =>
      match (toStep start call condition).alone place captures with
      | some (next, captures) => toStep start call yes next captures rest
      | none => toStep start call no place captures rest
  | .absent body => .without (toStep start call body)

/-- The groups of a pattern with their numbers. -/
def groups : Pattern → List (Nat × Pattern)
  | .capture group body => (group, .capture group body) :: groups body
  | .sequence first second | .either first second | .ifMatched _ first second =>
      groups first ++ groups second
  | .ifMatches condition yes no => groups condition ++ groups yes ++ groups no
  | .loop _ _ _ body | .atomic body | .lookAhead _ body | .lookBehind _ body | .absent body =>
      groups body
  | _ => []

/-- Calls of groups that are nested up to a depth. -/
def callStep (start : Nat) (targets : List (Nat × Pattern)) : (depth : Nat) → Nat → Step
  | 0, _ => .fail
  | depth + 1, group =>
      match targets.lookup group with
      | some target => toStep start (callStep start targets depth) target
      | none => .fail

/-- The length of the preferred match of a pattern at a place. Between two characters that are
matched a group cannot usefully be called more often than there are groups. -/
def matchLength? (pattern : Pattern) (place : Place) : Option Nat :=
  let targets := (0, pattern) :: groups pattern
  let depth := (place.after.length + 1) * targets.length
  let step := toStep place.index (callStep place.index targets depth) pattern
  (step.alone place {}).map fun (next, _) => place.after.length - next.after.length

/-- The length of a match is counted within what is left of the line. -/
theorem matchLength?_le (pattern : Pattern) (place : Place) (length : Nat)
    (matched : pattern.matchLength? place = some length) : length ≤ place.after.length := by
  obtain ⟨⟨next, _captures⟩, _, rfl⟩ := Option.map_eq_some_iff.mp matched
  exact Nat.sub_le _ _

/-! ### Engines -/

/-- What decides where patterns match. No match ends behind the end of its line. -/
structure Engine where
  length? : Pattern → Place → Option Nat
  length?_le : ∀ pattern place length, length? pattern place = some length →
    length ≤ place.after.length
  /-- Which lines match a text as a whole, if it is a pattern of lines. -/
  readLine? : String → Option (List Char → Bool)

instance : Repr Engine := ⟨fun _ _ => "engine"⟩

/-- Tries one way to match after the other. Patterns of whole lines are read in their own way. -/
def Engine.backtracking : Engine where
  length? := matchLength?
  length?_le := matchLength?_le
  readLine? text := (LinePattern.read? text).map LinePattern.occursIn

end SyntaxHighlight.Pattern
