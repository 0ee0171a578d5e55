/-
Highlighting one line. At each place the first rule of the context that matches decides; without
one the context falls through or takes a single character. Where contexts are only switched and
no character is taken, patience is limited, so that the end of every line is reached. The limit is
counted in 64 bits; in a mode for which these are too few no line is highlighted.
-/

import SyntaxHighlight.Highlight.Folding
import SyntaxHighlight.Highlight.State
import SyntaxHighlight.Mode.Basic
import SyntaxHighlight.Text.Numeral

namespace SyntaxHighlight

open SyntaxHighlight.Text

/-- Neighbouring characters of one format. -/
structure Span where
  offset : Nat
  length : Nat
  /-- The number of the format. -/
  format : Nat
deriving DecidableEq, Repr

def Span.finish (span : Span) : Nat := span.offset + span.length

/-- A column from which on another context is active. -/
structure ContextChange where
  column : Nat
  context : Nat
deriving DecidableEq, Repr

structure LineHighlight where
  spans : List Span := []
  folding : List FoldingMarker := []
  /-- Whether a region that is opened on the line is still open at its end. -/
  foldingStart : Bool := false
  /-- The state at the end of the line. -/
  state : LineState := .initial
  diagnostics : List Diagnostic := []
deriving DecidableEq, Repr

/-- The format of the character in a column. -/
def LineHighlight.formatAt? (line : LineHighlight) (column : Nat) : Option Nat :=
  (line.spans.find? fun span => span.offset ≤ column && column < span.finish).map (·.format)

/-! ### Progress -/

/-- What is known of a line so far. Lists have their latest entry first. -/
structure Scan where
  stack : ContextStack
  spans : List Span := []
  folding : List FoldingMarker := []
  diagnostics : List Diagnostic := []
  changes : List ContextChange := []
  /-- Whether the line goes on in the next one. -/
  continued : Bool := false
deriving DecidableEq, Repr

namespace Scan

/-- The spans with a further one, which is joined to the latest if it just continues it. -/
def addSpan (span : Span) : List Span → List Span
  | [] => [span]
  | latest :: rest =>
      if latest.format = span.format ∧ latest.finish = span.offset then
        { latest with length := span.finish - latest.offset } :: rest
      else span :: latest :: rest

/-- Gives so many characters a format. -/
def emit (scan : Scan) (offset length format : Nat) : Scan :=
  if length = 0 then scan else { scan with spans := addSpan ⟨offset, length, format⟩ scan.spans }

/-- Notes a problem, each of them once. -/
def diagnose (scan : Scan) (diagnostic : Diagnostic) : Scan :=
  if diagnostic ∈ scan.diagnostics then scan
  else { scan with diagnostics := diagnostic :: scan.diagnostics }

def mark (scan : Scan) (marker : FoldingMarker) : Scan :=
  { scan with folding := marker :: scan.folding }

/-- Notes the context that is active from a column on. -/
def record (scan : Scan) (mode : Mode) (column : Nat) : Scan :=
  { scan with changes := ⟨column, (mode.context scan.stack.top).id⟩ :: scan.changes }

/-- The markers for the regions that the match of a rule closes and opens. -/
def markRegions (scan : Scan) (rule : Rule) (offset length : Nat) : Scan :=
  let scan := match rule.endRegion with
    | some region => scan.mark ⟨offset, length, region, .closing⟩
    | none => scan
  match rule.beginRegion with
  | some region => scan.mark ⟨offset, length, region, .opening⟩
  | none => scan

end Scan

/-! ### Switches -/

/-- What a switch did to the stack. -/
inductive SwitchEffect where
  | unchanged
  | changed
  /-- It leads nowhere and was passed over. -/
  | dangling
deriving DecidableEq, Repr

def ContextStack.afterPush (stack : ContextStack) (maxDepth context : Nat) :
    ContextStack × Bool :=
  let pushed := stack.push context
  if maxDepth < pushed.depth then (pushed.limit maxDepth, true) else (pushed, false)

/-- Applies a switch to the stack of contexts. -/
def Scan.apply (scan : Scan) (mode : Mode) (switch : Switch) : Scan × SwitchEffect :=
  let popped := scan.stack.popMany switch.pops
  let moved (scan' : Scan) : Scan × SwitchEffect :=
    (scan', if scan'.stack = scan.stack then .unchanged else .changed)
  match switch.target with
  | some (.unresolved reference) =>
      (scan.diagnose (.danglingReference (mode.context scan.stack.top).name reference), .dangling)
  | none => moved { scan with stack := popped }
  | some (.context id) =>
      let (stack, overflows) := popped.afterPush mode.maxDepth id
      let scan := { scan with stack }
      moved (if overflows then scan.diagnose (.stackOverflow mode.maxDepth) else scan)

/-! ### Places -/

/-- Takes one character in the format of the context, having noted that a rule made no
progress. -/
def Scan.forceProgress (scan : Scan) (context : Context) (column : Nat) : Scan :=
  (scan.diagnose (.noProgress context.name column)).emit column 1 context.format

/-- How many switches without a character taken are borne at one place. -/
def Mode.patience (mode : Mode) : Nat := mode.maxDepth * 2 + mode.contexts.length

/-- Whether lines can be highlighted: the switches that are borne must be counted in 64 bits. -/
def Mode.canHighlight (mode : Mode) : Bool := mode.isPlain || mode.patience < wordRange 64

/-- What comes of one try at a place: another try, or characters that are taken. -/
inductive Turn where
  | again (scan : Scan)
  | taken (count : Nat) (scan : Scan)
deriving DecidableEq, Repr

/-- Where no rule matches, the context falls through or takes a single character. -/
def Scan.fallThrough (scan : Scan) (mode : Mode) (context : Context) (column : Nat) : Turn :=
  let (scan, effect) := match context.fallthrough with
    | some switch => scan.apply mode switch
    | none => (scan, .unchanged)
  if effect = .changed then .again (scan.record mode column)
  else .taken 1 (scan.emit column 1 context.format)

/-- Notes the match of a rule, before the rule switches. -/
def Scan.enter (scan : Scan) (rule : Rule) (column length : Nat) : Scan :=
  let continues := match rule.matcher with
    | .lineContinue _ => true
    | _ => scan.continued
  { scan with continued := continues }.markRegions rule column length

/-- How many characters of its match a rule takes. -/
def Rule.taken (rule : Rule) (length : Nat) : Nat := if rule.lookahead then 0 else length

/-- The format of what a rule takes: its own, if it has one and its switch leads somewhere. -/
def Rule.formatWithin (rule : Rule) (context : Context) (effect : SwitchEffect) : Nat :=
  if effect = .dangling then context.format else rule.format.getD context.format

/-- Does what a rule says that matches so many characters. -/
def Scan.follow (scan : Scan) (mode : Mode) (context : Context) (rule : Rule)
    (column length : Nat) : Turn :=
  let (scan, effect) := (scan.enter rule column length).apply mode rule.switch
  let taken := rule.taken length
  if taken = 0 then
    if effect = .changed then .again (scan.record mode column)
    else .taken 1 (scan.forceProgress context column)
  else
    let scan := scan.emit column taken (rule.formatWithin context effect)
    .taken taken (if effect = .changed then scan.record mode (column + taken) else scan)

/-- One try at a place that is not the end of the line. -/
def Scan.turn (scan : Scan) (mode : Mode) (place : Place) : Turn :=
  let context := mode.context scan.stack.top
  match context.findRule? place mode.engine with
  | none => scan.fallThrough mode context place.index
  | some (rule, length) => scan.follow mode context rule place.index length

/-- Decides about the text at a place that is not the end of the line: how many characters are
taken, at least one, and what is known then. -/
def Scan.settle (mode : Mode) (place : Place) : (patience : Nat) → Scan → Nat × Scan
  | 0, scan => (1, scan.forceProgress (mode.context scan.stack.top) place.index)
  | patience + 1, scan =>
      match scan.turn mode place with
      | .again next => settle mode place patience next
      | .taken count next => (count, next)

/-- Goes through the rest of a line, the characters first that are already taken. -/
def Scan.walk (mode : Mode) :
    (before : List Char) → (taken : Nat) → (after : List Char) → Scan → Scan
  | _, _, [], scan => scan
  | before, taken + 1, char :: rest, scan => walk mode (char :: before) taken rest scan
  | before, 0, char :: rest, scan =>
      let (taken, scan) := scan.settle mode ⟨before, char :: rest⟩ (mode.patience + 1)
      walk mode (char :: before) (taken - 1) rest scan

/-! ### The end of the line -/

/-- Applies the switches at the end of a line until nothing changes any more. -/
def Scan.endLine (mode : Mode) (isEmpty : Bool) (column : Nat) : (limit : Nat) → Scan → Scan
  | 0, scan => scan
  | limit + 1, scan =>
      let switch := (mode.context scan.stack.top).endSwitch isEmpty
      if switch.isStay then scan
      else
        let (scan, effect) := scan.apply mode switch
        if effect = .changed then endLine mode isEmpty column limit (scan.record mode column)
        else scan

/-- What is known at the end of a line that begins in a state. -/
def Mode.scan (mode : Mode) (state : LineState) (line : List Char) (hasNext : Bool) : Scan :=
  let start : Scan := { stack := state.stack mode.initial }
  let scan := (start.record mode 0).walk mode [] 0 line
  if scan.continued && hasNext then scan
  else scan.endLine mode line.isEmpty line.length (mode.maxDepth + mode.contexts.length + 1)

/-! ### Lines -/

def Scan.toLine (mode : Mode) (scan : Scan) : LineHighlight where
  spans := scan.spans.reverse
  folding := scan.folding.reverse
  foldingStart := opensRegion scan.folding.reverse
  state := .ofStack mode.initial scan.stack
  diagnostics := scan.diagnostics.reverse

namespace Mode

/-- Highlights a line that begins in a state. Whether a line follows only matters for a line that
may go on in it. -/
def highlightLine (mode : Mode) (state : LineState) (line : List Char) (hasNext : Bool) :
    LineHighlight :=
  if mode.isPlain then { state } else (mode.scan state line hasNext).toLine mode

/-- The contexts of a line by the columns from which on they are active. -/
def contextChanges (mode : Mode) (state : LineState) (line : List Char) (hasNext : Bool) :
    List ContextChange :=
  if mode.isPlain then [⟨0, 0⟩] else (mode.scan state line hasNext).changes.reverse

/-- The highlight of a line, if lines can be highlighted. -/
def highlightLine? (mode : Mode) (state : LineState) (line : List Char) (hasNext : Bool) :
    Option LineHighlight :=
  if mode.canHighlight then some (mode.highlightLine state line hasNext) else none

def topContext (mode : Mode) (state : LineState) : Nat := state.topContext mode.initial

/-- The states at the ends of lines that follow one another. -/
def lineHighlights (mode : Mode) : LineState → List (List Char) → List LineHighlight
  | _, [] => []
  | state, line :: rest =>
      let highlight := mode.highlightLine state line !rest.isEmpty
      highlight :: lineHighlights mode highlight.state rest

end Mode

end SyntaxHighlight
