/-
The definitions that make up a mode: the main one first, then all to which it leads by references,
each name being looked up once, in the order in which the names first appear.
-/

import SyntaxHighlight.Grammar.Reference

namespace SyntaxHighlight

/-- Looks up names and follows the references of what is found. At most so many definitions are
followed; the lookup may change a state. -/
def followReferences {σ : Type} (lookup : String → StateM σ (Option Definition)) :
    (limit : Nat) → (seen pending : List String) → StateM σ (List Definition)
  | _, _, [] => return []
  | limit, seen, name :: pending => do
      if name ∈ seen then followReferences lookup limit seen pending
      else
        match ← lookup name with
        | none => followReferences lookup limit (name :: seen) pending
        | some definition =>
            match limit with
            | 0 => return []
            | limit + 1 =>
                let others ←
                  followReferences lookup limit (name :: seen) (pending ++ definition.references)
                return definition :: others
  termination_by limit _ pending => (limit, pending.length)

/-- The definitions besides the main one that a mode is made of. -/
def collectDefinitions {σ : Type} (lookup : String → StateM σ (Option Definition)) (limit : Nat)
    (main : Definition) : StateM σ (List Definition) :=
  followReferences lookup limit [main.name] main.references

/-- The definitions besides the main one, out of a library of finitely many. -/
def Definition.closure (library : List (String × Definition)) (main : Definition) :
    List Definition :=
  let lookup (name : String) : StateM Unit (Option Definition) := return library.lookup name
  (collectDefinitions lookup library.length main ()).1

end SyntaxHighlight
