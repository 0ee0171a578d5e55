/-
Dictionaries as lists of entries, in the order in which their keys were first set. Every key has
one entry.
-/

namespace SyntaxHighlight

abbrev Dictionary (κ α : Type) := List (κ × α)

namespace Dictionary

variable {κ α : Type} [DecidableEq κ]

def get? (dictionary : Dictionary κ α) (key : κ) : Option α :=
  match dictionary with
  | [] => none
  | (other, value) :: rest => if other = key then some value else get? rest key

/-- Replaces the value of a key, or adds the key. -/
def set (key : κ) (value : α) : Dictionary κ α → Dictionary κ α
  | [] => [(key, value)]
  | (other, old) :: rest =>
      if other = key then (key, value) :: rest else (other, old) :: set key value rest

/-- Adds a key unless it is there. -/
def setNew (key : κ) (value : α) (dictionary : Dictionary κ α) : Dictionary κ α :=
  if (get? dictionary key).isSome then dictionary else dictionary ++ [(key, value)]

def erase (key : κ) : Dictionary κ α → Dictionary κ α
  | [] => []
  | (other, value) :: rest => if other = key then rest else (other, value) :: erase key rest

def keys (dictionary : Dictionary κ α) : List κ := dictionary.map Prod.fst

def contains (dictionary : Dictionary κ α) (key : κ) : Bool := (get? dictionary key).isSome

end Dictionary

end SyntaxHighlight
