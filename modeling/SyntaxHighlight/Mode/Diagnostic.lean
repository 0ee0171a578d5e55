/-
Problems that are noticed while a mode is made or a line is highlighted. None of them stops the
work.
-/

namespace SyntaxHighlight

inductive Diagnostic where
  /-- A switch leads to a context that does not exist. -/
  | danglingReference (context target : String)
  /-- A rule matched nothing and changed nothing. -/
  | noProgress (context : String) (column : Nat)
  /-- The stack of contexts grew too deep and lost its oldest entries. -/
  | stackOverflow (maxDepth : Nat)
  /-- A stored override has too few fields. -/
  | malformedOverride (format : String) (fields : Nat)
deriving DecidableEq, Repr

def Diagnostic.message : Diagnostic → String
  | danglingReference context target => s!"context '{context}' switches to unknown context '{target}'"
  | noProgress context column => s!"zero-width match in context '{context}' at column {column}"
  | stackOverflow maxDepth => s!"context stack exceeded {maxDepth} entries"
  | malformedOverride format fields => s!"override for '{format}' has only {fields} fields"

end SyntaxHighlight
