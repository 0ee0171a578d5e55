/-
The classes of text that a color schema knows, in the order of their numbers.
-/

namespace SyntaxHighlight

inductive StyleClass where
  | normal
  | keyword
  | function
  | variableName
  | controlFlow
  | operator
  | builtIn
  | extension
  | preprocessor
  | attributeName
  | char
  | specialChar
  | string
  | verbatimString
  | specialString
  | importName
  | dataType
  | decimal
  | otherBase
  | float
  | constant
  | comment
  | documentation
  | annotated
  | commentVariable
  | regionMarker
  | information
  | warning
  | alert
  | others
  | error
deriving DecidableEq, Repr

namespace StyleClass

/-- Every class under the name by which definitions call it, in the order of the numbers. -/
def named : List (String × StyleClass) :=
  [("normal", normal), ("keyword", keyword), ("function", function), ("variable", variableName),
    ("control_flow", controlFlow), ("operator", operator), ("built_in", builtIn),
    ("extension", extension), ("preprocessor", preprocessor), ("attribute", attributeName),
    ("char", char), ("special_char", specialChar), ("string", string),
    ("verbatim_string", verbatimString), ("special_string", specialString),
    ("import", importName), ("data_type", dataType), ("dec_val", decimal), ("base_n", otherBase),
    ("float", float), ("constant", constant), ("comment", comment),
    ("documentation", documentation), ("annotation", annotated),
    ("comment_var", commentVariable), ("region_marker", regionMarker),
    ("information", information), ("warning", warning), ("alert", alert), ("others", others),
    ("error", error)]

def all : List StyleClass := named.map Prod.snd

/-- The number under which a class is stored. -/
def index (style : StyleClass) : Nat := all.idxOf style

def ofIndex? (index : Nat) : Option StyleClass := all[index]?

end StyleClass

end SyntaxHighlight
