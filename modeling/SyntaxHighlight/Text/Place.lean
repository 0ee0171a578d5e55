/-
Places in a line of text: what stands before a place, nearest character first, and what stands
behind it.
-/

namespace SyntaxHighlight

structure Place where
  before : List Char
  after : List Char
deriving DecidableEq, Repr

namespace Place

def start (line : List Char) : Place := ⟨[], line⟩

/-- The number of characters before the place. -/
def index (place : Place) : Nat := place.before.length

/-- The next place, unless this is the end. -/
def next? (place : Place) : Option (Char × Place) :=
  match place.after with
  | [] => none
  | char :: rest => some (char, ⟨char :: place.before, rest⟩)

/-- The place that many characters further on, at most the end. -/
def forward : Nat → Place → Place
  | 0, place => place
  | count + 1, ⟨before, char :: after⟩ => forward count ⟨char :: before, after⟩
  | _ + 1, ⟨before, []⟩ => ⟨before, []⟩

/-- All places up to this one, the nearest first. -/
def upTo : (before after : List Char) → List Place
  | [], after => [⟨[], after⟩]
  | char :: before, after => ⟨char :: before, after⟩ :: upTo before (char :: after)

/-- The text between two indices of the line. -/
def textBetween (place : Place) (first last : Nat) : List Char :=
  ((place.before.reverse ++ place.after).drop first).take (last - first)

end Place

end SyntaxHighlight
