/-
Clusters: a character together with the marks that combine with it, a line break of two
characters, a Hangul syllable in parts, a pair of regional indicators, or pictures that joiners
connect.
-/

import SyntaxHighlight.Pattern.CharClass
import SyntaxHighlight.Text.Quoted

namespace SyntaxHighlight.Pattern

open SyntaxHighlight.Text

/-- The part that a character plays in a cluster. -/
inductive ClusterPart where
  | carriageReturn
  | lineFeed
  | control
  | extending
  | joiner
  | spacing
  | regional
  | leading
  | vowel
  | trailing
  | leadingVowel
  | leadingVowelTrailing
  | picture
  | other
deriving DecidableEq, Repr

private def within (first last : Nat) (char : Char) : Bool :=
  first ≤ char.toNat && char.toNat ≤ last

private def isExtending (char : Char) : Bool :=
  within 0x1F3FB 0x1F3FF char || char.toNat == 0x200C ||
    [nonspacingMark, enclosingMark, otherCombining].any (·.contains char.toNat)

private def isClusterControl (char : Char) : Bool :=
  [Text.control, Text.format, lineSeparator, paragraphSeparator].any (·.contains char.toNat)

private def isSyllable (char : Char) : Bool := within 0xAC00 0xD7A3 char

def ClusterPart.ofChar (char : Char) : ClusterPart :=
  if char == '\r' then carriageReturn
  else if char == '\n' then lineFeed
  else if within 0x20 0x7E char then other
  else if char.toNat == 0x200D then joiner
  else if isExtending char then extending
  else if isClusterControl char then control
  else if spacingMark.contains char.toNat || char.toNat == 0xE33 || char.toNat == 0xEB3 then spacing
  else if within 0x1F1E6 0x1F1FF char then regional
  else if within 0x1100 0x115F char || within 0xA960 0xA97C char then leading
  else if within 0x1160 0x11A7 char || within 0xD7B0 0xD7C6 char then vowel
  else if within 0x11A8 0x11FF char || within 0xD7CB 0xD7FB char then trailing
  else if isSyllable char then
    if (char.toNat - 0xAC00) % 28 == 0 then leadingVowel else leadingVowelTrailing
  else if extendedPictographic.contains char.toNat then picture
  else other

private def isBreaking (part : ClusterPart) : Bool :=
  part == .carriageReturn || part == .lineFeed || part == .control

private def pictureBefore : List Char → Bool
  | [] => false
  | char :: rest =>
      match ClusterPart.ofChar char with
      | .picture => true
      | .extending => pictureBefore rest
      | _ => false

private def regionalsBefore : List Char → Nat
  | [] => 0
  | char :: rest =>
      if ClusterPart.ofChar char = .regional then regionalsBefore rest + 1 else 0

private def joinsHangul (left right : ClusterPart) : Bool :=
  match left, right with
  | .leading, .leading | .leading, .vowel | .leading, .leadingVowel
  | .leading, .leadingVowelTrailing => true
  | .leadingVowel, .vowel | .vowel, .vowel | .leadingVowel, .trailing | .vowel, .trailing => true
  | .leadingVowelTrailing, .trailing | .trailing, .trailing => true
  | _, _ => false

/-- Whether two neighbouring characters belong to one cluster. The text before is given
backwards. -/
private def joins (before : List Char) (left right : ClusterPart) : Bool :=
  if left == .carriageReturn && right == .lineFeed then true
  else if isBreaking left || isBreaking right then false
  else if right == .extending || right == .joiner || right == .spacing then true
  else if joinsHangul left right then true
  else if left == .joiner && right == .picture then pictureBefore (before.drop 1)
  else if left == .regional && right == .regional then regionalsBefore before % 2 == 1
  else false

/-- Whether a cluster ends between two texts, of which the first is given backwards. -/
def isClusterBoundary (before after : List Char) : Bool :=
  match before, after with
  | left :: _, right :: _ => !joins before (.ofChar left) (.ofChar right)
  | _, _ => true

/-- The length of the cluster with which a text begins. -/
def clusterLength : (before after : List Char) → Nat
  | _, [] => 0
  | before, char :: rest =>
      if isClusterBoundary (char :: before) rest then 1
      else clusterLength (char :: before) rest + 1

end SyntaxHighlight.Pattern
