/-
Documents to which one thing is done after the other, and what is answered. There is no answer to
an edit that ends before it starts, to a question about a line whose number is too large, and to
one for which lines must be highlighted that cannot be.
-/

import SyntaxHighlight.Document.Basic

namespace SyntaxHighlight.Document

/-- What can be done to a document; questions may highlight further lines. -/
inductive Operation where
  | insertText (position : Position) (text : List Char)
  | removeText (one other : Position)
  | setLineText (line : Nat) (text : List Char)
  | setMode (mode : Mode)
  | ensureHighlighted (line : Nat)
  | lineHighlight (line : Nat)
  | formatAt (position : Position)
  | contextAt (position : Position)
  | isEmptyLine (line : Nat)
  | foldRegions
  | wordRight (position : Position)
  | wordLeft (position : Position)

inductive Answer where
  | done
  | position (position : Position)
  | highlight (highlight? : Option LineHighlight)
  | format (format : Nat)
  | context (context? : Option Nat)
  | isEmpty (isEmpty : Bool)
  | regions (regions : List FoldRegion)
deriving DecidableEq, Repr

/-- Whether all lines up to one are known, or can be highlighted. -/
def canReach (document : Document) (line : Nat) : Bool :=
  document.mode.canHighlight || min line (document.lineCount - 1) < document.highlightedUntil

/-- The line up to which an operation needs to know the lines, if it needs any. -/
def Operation.lineNeeded? (document : Document) : Operation → Option Nat
  | .ensureHighlighted line => some line
  | .lineHighlight line | .isEmptyLine line =>
      if line < document.lineCount then some line else none
  | .formatAt position | .contextAt position | .wordLeft position => some position.line
  | .foldRegions => some document.lineCount
  | .wordRight position => some (position.line + 1)
  | .insertText _ _ | .removeText _ _ | .setLineText _ _ | .setMode _ => none

/-- What an operation does and what is answered, given that lines can be highlighted. -/
def carryOut? (document : Document) : Operation → Option (Document × Answer)
  | .insertText position text => (document.insertText? position text).map (·.map id .position)
  | .removeText one other => (document.removeText? one other).map (·, .done)
  | .setLineText line text => (document.setLineText? line text).map (·, .done)
  | .setMode mode => some (document.setMode mode, .done)
  | .ensureHighlighted line => some (document.ensureHighlighted line, .done)
  | .lineHighlight line => some ((document.lineHighlight? line).map id .highlight)
  | .formatAt position => some ((document.formatAt position).map id .format)
  | .contextAt position => some ((document.contextAt? position).map id .context)
  | .isEmptyLine line => some ((document.isEmptyLine line).map id .isEmpty)
  | .foldRegions => some (document.foldRegions.map id .regions)
  | .wordRight position => (document.wordRight? position).map (·.map id .position)
  | .wordLeft position => some ((document.wordLeft position).map id .position)

/-- The document after an operation and the answer to it, if there is one. -/
def answer? (document : Document) (operation : Operation) : Option (Document × Answer) :=
  if (operation.lineNeeded? document).all document.canReach then document.carryOut? operation
  else none

/-- The document after an operation, unless there is no answer to it. -/
def perform? (document : Document) (operation : Operation) : Option Document :=
  (document.answer? operation).map Prod.fst

/-- The document after operations that follow one another. -/
def run? (document : Document) : List Operation → Option Document
  | [] => some document
  | operation :: rest => (document.perform? operation).bind fun after => after.run? rest

end SyntaxHighlight.Document
