/-
Documents to which one thing is done after the other. Whatever is asked and edited, the highlights
that are kept stay those of the text, with one exception: an edit that joins a line break may leave
highlights behind it one line too low, and does so exactly if neighbouring lines differ.
-/

import Mathlib
import SyntaxHighlight.Document.Session
import SyntaxHighlight.Mode.Compile
import SyntaxHighlight.Proofs.Document.Faithful

namespace SyntaxHighlight.Document

open SyntaxHighlight.Text

/-! ### Operations -/

structure Edit where
  first : Position
  last : Position
  text : List Char

/-- The positions between which an operation replaces text, and the new text. -/
def edit? (document : Document) : Operation → Option Edit
  | .insertText position text => some ⟨document.clamp position, document.clamp position, text⟩
  | .removeText one other =>
      if other.isBefore one then some ⟨document.clamp other, document.clamp one, []⟩
      else some ⟨document.clamp one, document.clamp other, []⟩
  | .setLineText line text =>
      if document.lineCount ≤ line then none
      else some ⟨⟨line, 0⟩, ⟨line, document.lineLength line⟩, text⟩
  | _ => none

/-- An operation is an edit between positions in the document, or it does not change the text. -/
inductive Performs (document : Document) (operation : Operation) : Document → Prop
  | edit (edit : Edit) (after : Document) (position : Position)
      (found : document.edit? operation = some edit) (firstHeld : document.Holds edit.first)
      (lastHeld : document.Holds edit.last)
      (made : document.replace? edit.first edit.last edit.text = some (after, position)) :
      Performs document operation after
  | setMode (none : document.edit? operation = none) (mode : Mode) :
      Performs document operation (document.setMode mode)
  | ensureHighlighted (none : document.edit? operation = none) (line : Nat)
      (reached : document.canReach line = true) :
      Performs document operation (document.ensureHighlighted line)
  | unchanged (none : document.edit? operation = none) : Performs document operation document

variable {document after : Document} {operation : Operation}

theorem performs_replace {edit : Edit} (found : document.edit? operation = some edit)
    (firstHeld : document.Holds edit.first) (lastHeld : document.Holds edit.last)
    (performed : (document.replace? edit.first edit.last edit.text).map Prod.fst = some after) :
    document.Performs operation after := by
  obtain ⟨⟨replaced, position⟩, made, rfl⟩ := Option.map_eq_some_iff.mp performed
  exact .edit edit replaced position found firstHeld lastHeld made

theorem perform?_eq_some_iff : document.perform? operation = some after ↔
    (operation.lineNeeded? document).all document.canReach = true ∧
      (document.carryOut? operation).map Prod.fst = some after := by
  rw [perform?, answer?]
  split
  case isTrue reached => exact (and_iff_right reached).symm
  case isFalse unreached => exact iff_of_false nofun fun both => unreached both.1

theorem performs_of_perform? (performed : document.perform? operation = some after) :
    document.Performs operation after := by
  obtain ⟨reached, carried⟩ := perform?_eq_some_iff.mp performed
  cases operation with
  | insertText position text =>
      rw [carryOut?, Option.map_map] at carried
      exact performs_replace rfl (clamp_holds document position) (clamp_holds document position)
        carried
  | removeText one other =>
      rw [carryOut?, Option.map_map, removeText?] at carried
      by_cases reversed : other.isBefore one = true
      · rw [if_pos reversed, Option.map_map] at carried
        exact performs_replace (if_pos reversed) (clamp_holds document other)
          (clamp_holds document one) carried
      · rw [if_neg reversed, Option.map_map] at carried
        exact performs_replace (if_neg reversed) (clamp_holds document one)
          (clamp_holds document other) carried
  | setLineText line text =>
      rw [carryOut?, Option.map_map, setLineText?] at carried
      by_cases beyond : document.lineCount ≤ line
      · rw [if_pos beyond] at carried
        cases carried
        exact .unchanged (if_pos beyond)
      · rw [if_neg beyond, Option.map_map] at carried
        have inside := Nat.lt_of_not_le beyond
        exact performs_replace (if_neg beyond) (lineStart_holds inside) (lineEnd_holds inside)
          carried
  | setMode mode =>
      cases carried
      exact .setMode rfl mode
  | ensureHighlighted line =>
      cases carried
      exact .ensureHighlighted rfl line reached
  | lineHighlight line =>
      cases carried
      by_cases beyond : document.lineCount ≤ line
      · rw [lineHighlight?, if_pos beyond]
        exact .unchanged rfl
      · rw [Operation.lineNeeded?, if_pos (Nat.lt_of_not_le beyond)] at reached
        rw [lineHighlight?, if_neg beyond]
        exact .ensureHighlighted rfl line reached
  | formatAt position | contextAt position | wordLeft position =>
      cases carried
      exact .ensureHighlighted rfl position.line reached
  | isEmptyLine line =>
      cases carried
      cases text : document.line? line with
      | none =>
          rw [isEmptyLine, text]
          exact .unchanged rfl
      | some chars =>
          have found := (line?_eq document line).symm.trans text
          have inside := (List.getElem?_eq_some_iff.mp found).1
          rw [← lineCount_eq] at inside
          rw [Operation.lineNeeded?, if_pos inside] at reached
          rw [isEmptyLine, text]
          exact .ensureHighlighted rfl line reached
  | foldRegions =>
      cases carried
      exact .ensureHighlighted rfl document.lineCount reached
  | wordRight position =>
      rw [carryOut?, Option.map_map, wordRight?] at carried
      split at carried
      case isTrue =>
        cases carried
        exact .ensureHighlighted rfl (position.line + 1) reached
      case isFalse => cases carried

/-! ### One step -/

theorem perform?_isOrderly (orderly : document.IsOrderly)
    (performed : document.perform? operation = some after) : after.IsOrderly := by
  cases performs_of_perform? performed with
  | edit edit _ position _ firstHeld lastHeld made =>
      exact (replace?_isEdited orderly.length firstHeld lastHeld made).isOrderly orderly
  | setMode _ mode => exact setMode_isOrderly orderly mode
  | ensureHighlighted _ line _ => exact ensureHighlighted_isOrderly orderly line
  | unchanged _ => exact orderly

/-- A step that joins a line break and keeps a highlight that is not that of its line. -/
def StepMisplaces (before : Document) (operation : Operation) (after : Document) : Prop :=
  ∃ edit, before.edit? operation = some edit ∧ before.Joins edit.first edit.last edit.text ∧
    before.Misplaces after edit.first edit.last

theorem perform?_isFaithful_iff (orderly : document.IsOrderly) (faithful : document.IsFaithful)
    (performed : document.perform? operation = some after) :
    after.IsFaithful ↔ ¬document.StepMisplaces operation after := by
  have agrees := (isFaithful_iff orderly).mp faithful
  rw [isFaithful_iff (perform?_isOrderly orderly performed)]
  have quiet : document.edit? operation = none → ¬document.StepMisplaces operation after := by
    rintro none ⟨edit, found, _⟩
    rw [none] at found
    cases found
  cases performs_of_perform? performed with
  | edit edit _ position found firstHeld lastHeld made =>
      rw [(replace?_isEdited orderly.length firstHeld lastHeld made).agrees_iff orderly agrees]
      apply not_congr
      constructor
      · rintro ⟨joins, misplaces⟩
        exact ⟨edit, found, joins, misplaces⟩
      · rintro ⟨other, foundOther, joins, misplaces⟩
        rw [found] at foundOther
        cases foundOther
        exact ⟨joins, misplaces⟩
  | setMode none mode =>
      exact iff_of_true (fun line below => absurd below (Nat.not_lt_zero line)) (quiet none)
  | ensureHighlighted none line _ =>
      exact iff_of_true (ensureHighlighted_agrees orderly agrees line) (quiet none)
  | unchanged none => exact iff_of_true agrees (quiet none)

/-! ### Runs -/

theorem ofText_isFaithful (text : List Char) (mode : Mode) : (ofText text mode).IsFaithful := by
  rw [isFaithful_iff (ofText_isOrderly text mode)]
  intro line below
  exact absurd below (Nat.not_lt_zero line)

theorem run?_append (document : Document) (earlier later : List Operation) :
    document.run? (earlier ++ later) =
      (document.run? earlier).bind fun between => between.run? later := by
  induction earlier generalizing document with
  | nil => rfl
  | cons operation rest ih =>
      rw [List.cons_append, run?, run?, Option.bind_assoc]
      congr 1
      funext between
      exact ih between

/-- The last step of a run that goes one step further. -/
theorem run?_take_succ {operations : List Operation} {count : Nat}
    (ran : document.run? (operations.take (count + 1)) = some after) :
    document.run? (operations.take count) = some after ∨
      ∃ before operation, document.run? (operations.take count) = some before ∧
        operations[count]? = some operation ∧ before.perform? operation = some after := by
  rw [List.take_add_one, run?_append] at ran
  obtain ⟨before, reached, stepped⟩ := Option.bind_eq_some_iff.mp ran
  cases next : operations[count]? with
  | none =>
      rw [next] at stepped
      cases stepped
      exact Or.inl reached
  | some operation =>
      rw [next] at stepped
      obtain ⟨_, performed, same⟩ := Option.bind_eq_some_iff.mp stepped
      cases same
      exact Or.inr ⟨before, operation, reached, rfl, performed⟩

/-- What every step of a run keeps holds of every document that it goes through. -/
theorem run?_keeps {operations : List Operation} {holds : Document → Prop} (start : holds document)
    (step : ∀ count before operation after,
      document.run? (operations.take count) = some before → operations[count]? = some operation →
      before.perform? operation = some after → holds before → holds after)
    (count : Nat) (after : Document)
    (ran : document.run? (operations.take count) = some after) : holds after := by
  induction count generalizing after with
  | zero =>
      cases ran
      exact start
  | succ count ih =>
      rcases run?_take_succ ran with same | ⟨before, operation, reached, next, performed⟩
      · exact ih after same
      · exact step count before operation after reached next performed (ih before reached)

theorem run?_isOrderly (text : List Char) (mode : Mode) (operations : List Operation) (count : Nat)
    (after : Document) (ran : (ofText text mode).run? (operations.take count) = some after) :
    after.IsOrderly :=
  run?_keeps (ofText_isOrderly text mode)
    (fun _ _ _ _ _ _ performed orderly => perform?_isOrderly orderly performed) count after ran

/-- What every step of a run keeps holds at its end. -/
theorem holds_of_run? {operations : List Operation} {holds : Document → Prop}
    (start : holds document)
    (step : ∀ count before operation after,
      document.run? (operations.take count) = some before → operations[count]? = some operation →
      before.perform? operation = some after → holds before → holds after)
    (ran : document.run? operations = some after) : holds after := by
  apply run?_keeps start step operations.length after
  rw [List.take_length]
  exact ran

theorem isOrderly_of_run? {text : List Char} {mode : Mode} {operations : List Operation}
    (ran : (ofText text mode).run? operations = some document) : document.IsOrderly :=
  holds_of_run? (ofText_isOrderly text mode)
    (fun _ _ _ _ _ _ performed orderly => perform?_isOrderly orderly performed) ran

/-- In a mode in which no line can be highlighted nothing is known of the lines. -/
def IsIdle (document : Document) : Prop :=
  document.mode.canHighlight = false → document.highlightedUntil = 0

theorem perform?_isIdle (orderly : document.IsOrderly) (idle : document.IsIdle)
    (performed : document.perform? operation = some after) : after.IsIdle := by
  cases performs_of_perform? performed with
  | edit edit _ position _ firstHeld lastHeld made =>
      have edited := replace?_isEdited orderly.length firstHeld lastHeld made
      intro unable
      rw [edited.mode] at unable
      have none := idle unable
      rcases edited.outcome with ⟨_, _, sameUntil, _⟩ | ⟨eager, _⟩
      · rw [sameUntil, none]
      · rw [none] at eager
        exact absurd eager (Nat.not_lt_zero _)
  | setMode _ mode => exact fun _ => rfl
  | ensureHighlighted _ line reached =>
      intro unable
      rw [ensureHighlighted_mode] at unable
      rw [canReach, unable, Bool.false_or, decide_eq_true_eq, idle unable] at reached
      exact absurd reached (Nat.not_lt_zero _)
  | unchanged _ => exact idle

theorem isIdle_of_run? {text : List Char} {mode : Mode} {operations : List Operation}
    (ran : (ofText text mode).run? operations = some document) : document.IsIdle := by
  have both := @holds_of_run? _ _ _ (fun document => document.IsOrderly ∧ document.IsIdle)
    ⟨ofText_isOrderly text mode, fun _ => rfl⟩
    (fun _ _ _ _ _ _ performed known =>
      ⟨perform?_isOrderly known.1 performed, perform?_isIdle known.1 known.2 performed⟩) ran
  exact both.2

/-- As long as no edit joins a line break, highlights that are kept are those of the text. -/
theorem run?_isFaithful_of_not_joins (text : List Char) (mode : Mode) (operations : List Operation)
    (separate : ∀ count before operation edit,
      (ofText text mode).run? (operations.take count) = some before →
      operations[count]? = some operation → before.edit? operation = some edit →
      ¬before.Joins edit.first edit.last edit.text)
    (count : Nat) (after : Document)
    (ran : (ofText text mode).run? (operations.take count) = some after) : after.IsFaithful := by
  refine run?_keeps (ofText_isFaithful text mode) ?_ count after ran
  intro count before operation after reached next performed faithful
  rw [perform?_isFaithful_iff (run?_isOrderly text mode operations count before reached) faithful
    performed]
  rintro ⟨edit, found, joins, _⟩
  exact separate count before operation edit reached next found joins

/-- All documents that a run goes through keep the highlights of their text exactly if none of its
steps misplaces one. -/
theorem run_isFaithful_iff (text : List Char) (mode : Mode) (operations : List Operation) :
    (∀ count after, (ofText text mode).run? (operations.take count) = some after →
        after.IsFaithful) ↔
      ∀ count before operation after,
        (ofText text mode).run? (operations.take count) = some before →
        operations[count]? = some operation → before.perform? operation = some after →
        ¬before.StepMisplaces operation after := by
  have orderly := run?_isOrderly text mode operations
  constructor
  · intro faithful count before operation after reached next performed
    rw [← perform?_isFaithful_iff (orderly count before reached) (faithful count before reached)
      performed]
    apply faithful (count + 1) after
    rw [List.take_add_one, run?_append, reached, next]
    change (before.perform? operation).bind some = some after
    rw [performed]
    rfl
  · intro inPlace
    apply run?_keeps (ofText_isFaithful text mode)
    intro count before operation after reached next performed faithful
    rw [perform?_isFaithful_iff (orderly count before reached) faithful performed]
    exact inPlace count before operation after reached next performed

/-- A language of numbers among other text. -/
def numeralLanguage : Definition where
  name := "Numerals"
  contexts :=
    [{ name := "Normal", format := "Text"
       rules := [{ kind := .integer, format := some "Number" }] }]
  formats := [{ name := "Text" }, { name := "Number", styleClass := .decimal }]

/-- When the line between a carriage return and a line feed goes, the number on the last line is
taken for text. -/
theorem run_not_isFaithful_numeralLanguage :
    ∃ mode after, Mode.ofDefinitions numeralLanguage [] 8 = .ok mode ∧
      (ofText ['a', '\r', 'x', '\n', 'b', '\n', '1'] mode).run?
          [.ensureHighlighted 3, .removeText ⟨1, 0⟩ ⟨1, 1⟩] = some after ∧
        ¬after.IsFaithful := by
  have evaluated : ((Mode.ofDefinitions numeralLanguage [] 8).toOption.bind fun mode =>
      ((ofText ['a', '\r', 'x', '\n', 'b', '\n', '1'] mode).run?
          [.ensureHighlighted 3, .removeText ⟨1, 0⟩ ⟨1, 1⟩]).map fun after =>
        (cached? after.cache 2).any fun highlight =>
          decide (after.freshHighlight? 2 ≠ some highlight)) = some true := by
    cbv
  obtain ⟨mode, accepted, found⟩ := Option.bind_eq_some_iff.mp evaluated
  obtain ⟨after, ran, differs⟩ := Option.map_eq_some_iff.mp found
  refine ⟨mode, after, ?_, ran, ?_⟩
  · cases made : Mode.ofDefinitions numeralLanguage [] 8 with
    | error error =>
        rw [made] at accepted
        cases accepted
    | ok other =>
        rw [made] at accepted
        cases accepted
        rfl
  · intro faithful
    obtain ⟨highlight, kept, different⟩ := (Option.any_eq_true _ _).mp differs
    exact of_decide_eq_true different (faithful 2 highlight kept)

end SyntaxHighlight.Document
