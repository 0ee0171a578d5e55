/-
A multiset of texts that finds the longest of its members at the start of another text. It is kept
as a trie whose nodes count how often the text that leads to them was added.
-/

namespace SyntaxHighlight.Text

inductive Trie where
  | node (count : Nat) (children : List (Char × Trie))
deriving Repr

namespace Trie

def empty : Trie := node 0 []

def count : Trie → Nat
  | node count _ => count

def children : Trie → List (Char × Trie)
  | node _ children => children

def child? (trie : Trie) (char : Char) : Option Trie := trie.children.lookup char

/-- Neither the end of a text nor on the way to one. -/
def isBare (trie : Trie) : Bool := trie.count == 0 && trie.children.isEmpty

/-- Replaces the child for a character, or adds it. -/
def setChild (char : Char) (child : Trie) : List (Char × Trie) → List (Char × Trie)
  | [] => [(char, child)]
  | (other, trie) :: rest =>
      if other = char then (char, child) :: rest else (other, trie) :: setChild char child rest

def eraseChild (char : Char) : List (Char × Trie) → List (Char × Trie)
  | [] => []
  | (other, trie) :: rest =>
      if other = char then rest else (other, trie) :: eraseChild char rest

def add : List Char → Trie → Trie
  | [], node count children => node (count + 1) children
  | char :: rest, node count children =>
      let child := (children.lookup char).getD empty
      node count (setChild char (add rest child) children)

/-- How often a text was added. -/
def multiplicity : List Char → Trie → Nat
  | [], trie => trie.count
  | char :: rest, trie =>
      match trie.child? char with
      | some child => multiplicity rest child
      | none => 0

/-- Takes one occurrence of a text away, and nodes that lead nowhere with it. -/
def remove? : List Char → Trie → Option Trie
  | [], node 0 _ => none
  | [], node (count + 1) children => some (node count children)
  | char :: rest, node count children => do
      let child ← remove? rest (← children.lookup char)
      let children := if child.isBare then eraseChild char children else setChild char child children
      return node count children

/-- The longest nonempty member with which a text begins. -/
def longest? : Trie → List Char → Option (List Char)
  | _, [] => none
  | trie, char :: rest =>
      match trie.child? char with
      | none => none
      | some child =>
          match longest? child rest with
          | some found => some (char :: found)
          | none => if 0 < child.count then some [char] else none

end Trie

structure PrefixStore where
  root : Trie := .empty
  /-- The number of distinct members. -/
  size : Nat := 0
deriving Repr

namespace PrefixStore

def isEmpty (store : PrefixStore) : Bool := store.size == 0

def contains (store : PrefixStore) (text : List Char) : Bool :=
  0 < store.root.multiplicity text

/-- Adds a text; the empty text is never a member. -/
def add (store : PrefixStore) (text : List Char) : PrefixStore :=
  if text.isEmpty then store
  else
    { root := store.root.add text
      size := if store.contains text then store.size else store.size + 1 }

/-- Takes one occurrence of a text away, if there is one. -/
def remove (store : PrefixStore) (text : List Char) : PrefixStore :=
  if text.isEmpty then store
  else
    match store.root.remove? text with
    | none => store
    | some root =>
        { root, size := if root.multiplicity text = 0 then store.size - 1 else store.size }

/-- Takes all members away. -/
def clear (_ : PrefixStore) : PrefixStore := {}

/-- The longest member with which the text begins from an index on. -/
def longest? (store : PrefixStore) (text : List Char) (start : Nat) : Option (List Char) :=
  store.root.longest? (text.drop start)

end PrefixStore

end SyntaxHighlight.Text
