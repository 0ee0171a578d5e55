/-
Questions about text in a mode: which traits belong to a format or context, what words and
comments look like there, and which context is active at a column.
-/

import SyntaxHighlight.Highlight.Line

namespace SyntaxHighlight

open SyntaxHighlight.Text

namespace Mode

/-! ### Traits -/

private def traitsName (mode : Mode) (definition? : Option String) : String :=
  match definition? with
  | some definition =>
      if mode.traits.contains definition then definition else defaultTraitsName
  | none => defaultTraitsName

/-- The name of the traits of text in a format. -/
def traitsNameOfFormat (mode : Mode) (format : Nat) : String :=
  mode.traitsName ((mode.registry.format? format).map (·.definition))

/-- The name of the traits of text in a context. -/
def traitsNameOfContext (mode : Mode) (context : Nat) : String :=
  mode.traitsName ((mode.context? context).map (·.definition))

def traitsOfFormat (mode : Mode) (format : Nat) : Traits :=
  (mode.traits.get? (mode.traitsNameOfFormat format)).getD {}

/-- The characters that begin and end quotations. They belong to no word. -/
def quotationMarks : List Char := ['"', '\'', '\x60']

/-- Whether a character belongs to a word in text of a format. -/
def isInWord (mode : Mode) (char : Char) (format : Nat) : Bool :=
  !(mode.traitsOfFormat format).delimiters.contains char && !isWhitespace char &&
    !quotationMarks.contains char

/-- Whether a line may be broken behind a character. -/
def canBreakAt (mode : Mode) (char : Char) (format : Nat) : Bool :=
  (mode.traitsOfFormat format).wrapDelimiters.contains char && char != '"' && char != '\''

def commentMarkers (mode : Mode) (format : Nat) : CommentMarkers :=
  (mode.traitsOfFormat format).comments

/-- Whether text that begins and ends in these formats can be made a comment: both must have the
same traits, and these must know a kind of comments. -/
def canComment (mode : Mode) (first last : Nat) : Bool :=
  mode.traitsNameOfFormat first == mode.traitsNameOfFormat last &&
    ((mode.commentMarkers first).hasMultiLine || (mode.commentMarkers first).hasSingleLine)

/-- Whether a line counts as empty whose first character has a format. -/
def isEmptyLine (mode : Mode) (line : List Char) (format : Nat) : Bool :=
  line.isEmpty || (mode.traitsOfFormat format).matchesEmptyLine line mode.engine

/-! ### Formats and contexts -/

def checksSpelling (mode : Mode) (format : Nat) : Bool :=
  (mode.registry.format? format).any fun format => !format.skipsSpellChecking

def styleClassOfFormat (mode : Mode) (format : Nat) : StyleClass :=
  ((mode.registry.format? format).map (·.styleClass)).getD .normal

/-- The format of text in a context that no rule matches. -/
def formatOfContext (mode : Mode) (context : Nat) : Nat :=
  ((mode.context? context).map (·.format)).getD 0

end Mode

/-! ### Lines in context -/

/-- The lines among which a context is looked for. -/
structure LineSource where
  line? : Nat → Option (List Char)
  /-- The state at the end of a line, as far as it is known. -/
  state? : Nat → Option LineState

/-- Lines of which the states are known up to a line. -/
def LineSource.ofLines (lines : List (List Char)) (states : List LineState) : LineSource where
  line? := fun line => lines[line]?
  state? := fun line => states[line]?

/-- The last change up to a column. -/
def activeChange? (changes : List ContextChange) (column : Nat) : Option ContextChange :=
  (changes.takeWhile fun change => change.column ≤ column).getLast?

/-- The state at the start of a line, as far as it is known. -/
def LineSource.startState (source : LineSource) : (line : Nat) → LineState
  | 0 => .initial
  | line + 1 => (source.state? line).getD .initial

/-- The context that is active at a column of a line. -/
def Mode.contextAt? (mode : Mode) (source : LineSource) (line column : Nat) : Option Context :=
  if mode.isPlain then none
  else
    match source.line? line with
    | none => none
    | some text =>
        let changes :=
          mode.contextChanges (source.startState line) text (source.line? (line + 1)).isSome
        (activeChange? changes column).bind fun change => mode.context? change.context

end SyntaxHighlight
