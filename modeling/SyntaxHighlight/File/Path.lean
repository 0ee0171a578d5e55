/-
Paths of files as texts with slashes, and the steps that they consist of.
-/

namespace SyntaxHighlight

namespace Path

/-- One step of a path. -/
inductive Part where
  | root
  | here
  | parent
  | name (text : String)
deriving DecidableEq, Repr

namespace Part

private def ofText? (text : String) : Option Part :=
  if text = "" || text = "." then none
  else if text = ".." then some .parent
  else some (.name text)

/-- Where a step leads from a place that is told by the names on the way to it. -/
def leadsTo (place : List String) : Part → List String
  | .root => []
  | .here => place
  | .parent => place.dropLast
  | .name text => place ++ [text]

private def rank : Part → Nat
  | .root => 0
  | .here => 1
  | .parent => 2
  | .name _ => 3

/-- The order of steps: names come last. -/
def isBefore : Part → Part → Bool
  | .name one, .name other => one < other
  | one, other => one.rank < other.rank

end Part

/-- The steps of a path. Points and repeated slashes inside of it say nothing; a point at its start
does not lead anywhere either, but is kept. -/
def parts (path : String) : List Part :=
  let texts := path.splitOn "/"
  let start : List Part :=
    match texts with
    | "" :: _ :: _ => [.root]
    | "." :: _ => [.here]
    | _ => []
  start ++ texts.filterMap Part.ofText?

/-- The places on the way along a path, the one to which it leads last. -/
def placesFrom (place : List String) : List Part → List (List String)
  | [] => []
  | part :: rest => part.leadsTo place :: placesFrom (part.leadsTo place) rest

def places (path : String) : List (List String) := placesFrom [] (parts path)

/-- The place to which a path leads. -/
def place (path : String) : List String := (places path).getLast?.getD []

/-- A path inside of a directory. -/
def join (directory name : String) : String :=
  if directory.isEmpty || directory.endsWith "/" then directory ++ name
  else directory ++ "/" ++ name

/-- The last part of a path, if it is a name. -/
def fileName? (path : String) : Option String :=
  match (parts path).getLast? with
  | some (.name text) => some text
  | _ => none

/-- What stands behind the last point of a name; a point at the start does not count. -/
def extension? (name : String) : Option String :=
  match name.toList.reverse.span (· != '.') with
  | (_, []) | (_, ['.']) => none
  | (ending, _) => some (String.ofList ending.reverse)

/-- The order of paths, part by part. -/
def precedes : List Part → List Part → Bool
  | [], _ => true
  | _ :: _, [] => false
  | one :: ones, other :: others => one.isBefore other || (one == other && precedes ones others)

end Path

end SyntaxHighlight
