/-
The state that highlighting carries from one line to the next: the stack of contexts. The stack
of the initial context alone is the initial state, whichever mode it comes from.
-/

namespace SyntaxHighlight

/-- A stack of contexts, which is never empty. -/
structure ContextStack where
  top : Nat
  /-- What lies below the top, uppermost first. -/
  below : List Nat := []
deriving DecidableEq, Repr

namespace ContextStack

def depth (stack : ContextStack) : Nat := stack.below.length + 1

/-- The contexts from the lowest to the top. -/
def toList (stack : ContextStack) : List Nat := (stack.top :: stack.below).reverse

/-- Takes off the top, unless it is the only entry. -/
def pop : ContextStack → ContextStack
  | ⟨_, next :: below⟩ => ⟨next, below⟩
  | stack => stack

def popMany : (count : Nat) → ContextStack → ContextStack
  | 0, stack => stack
  | count + 1, stack => popMany count stack.pop

def push (stack : ContextStack) (context : Nat) : ContextStack := ⟨context, stack.top :: stack.below⟩

/-- Keeps at most so many entries, the uppermost ones, and the top in any case. -/
def limit (stack : ContextStack) (maxDepth : Nat) : ContextStack :=
  ⟨stack.top, stack.below.take (maxDepth - 1)⟩

end ContextStack

inductive LineState where
  | initial
  | within (stack : ContextStack)
deriving DecidableEq, Repr

namespace LineState

/-- The stack for which a state stands, given the initial context of the mode. -/
def stack (initialContext : Nat) : LineState → ContextStack
  | initial => ⟨initialContext, []⟩
  | within stack => stack

def ofStack (initialContext : Nat) (stack : ContextStack) : LineState :=
  if stack = ⟨initialContext, []⟩ then initial else within stack

/-- The contexts of a state, from the lowest to the top; none for the initial state. -/
def contexts : LineState → List Nat
  | initial => []
  | within stack => stack.toList

def topContext (initialContext : Nat) (state : LineState) : Nat := (state.stack initialContext).top

end LineState

end SyntaxHighlight
