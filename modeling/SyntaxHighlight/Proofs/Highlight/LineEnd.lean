/-
The switches at the end of a line. They are applied until nothing changes any more, but only so
many of them: the line ends in the stack where they settle if and only if they do so in time. A
language whose lines end with pops alone is always in time.
-/

import SyntaxHighlight.Proofs.Highlight.Progress
import SyntaxHighlight.Proofs.Highlight.Reachable

namespace SyntaxHighlight

open SyntaxHighlight.Text

/-! ### Switches and stacks -/

namespace ContextStack

theorem pop_eq_or_depth_lt (stack : ContextStack) :
    stack.pop = stack ∨ stack.pop.depth < stack.depth := by
  obtain ⟨top, below⟩ := stack
  cases below with
  | nil => exact Or.inl rfl
  | cons next below => exact Or.inr (Nat.lt_succ_self _)

theorem popMany_eq_or_depth_lt (count : Nat) (stack : ContextStack) :
    stack.popMany count = stack ∨ (stack.popMany count).depth < stack.depth := by
  induction count generalizing stack with
  | zero => exact Or.inl rfl
  | succ count ih =>
      rw [popMany]
      rcases pop_eq_or_depth_lt stack with same | shallower
      · rw [same]
        exact ih stack
      · right
        rcases ih stack.pop with same | further
        · rwa [same]
        · exact Nat.lt_trans further shallower

end ContextStack

/-- A switch has changed something when the stack is another one. -/
theorem Scan.apply_changed_iff (scan : Scan) (mode : Mode) (switch : Switch) :
    (scan.apply mode switch).2 = .changed ↔ (scan.apply mode switch).1.stack ≠ scan.stack := by
  cases target : switch.target with
  | none =>
      simp only [apply, target]
      split <;> simp_all
  | some goal =>
      cases goal with
      | unresolved reference => simp [apply, target]
      | context id =>
          simp only [apply, target]
          split <;> split <;> simp_all

/-! ### The end of a line -/

namespace Mode

section Settling

variable (mode : Mode) (isEmpty : Bool)

/-- The switch that the top of a stack makes at the end of a line. -/
def endSwitch (stack : ContextStack) : Switch := (mode.context stack.top).endSwitch isEmpty

/-- The stack behind one switch at the end of a line. -/
def endSwitched (stack : ContextStack) : ContextStack :=
  (({ stack } : Scan).apply mode (mode.endSwitch isEmpty stack)).1.stack

/-- The switch at the end of a line stays, leads nowhere or leaves the stack as it is. -/
def IsSettled (stack : ContextStack) : Prop :=
  (mode.endSwitch isEmpty stack).isStay = true ∨
    (∃ reference, (mode.endSwitch isEmpty stack).target = some (.unresolved reference)) ∨
    mode.endSwitched isEmpty stack = stack

variable {mode isEmpty} {stack : ContextStack}

theorem endSwitched_of_isStay (stays : (mode.endSwitch isEmpty stack).isStay = true) :
    mode.endSwitched isEmpty stack = stack := by
  rw [Switch.isStay, Bool.and_eq_true, beq_iff_eq, Option.isNone_iff_eq_none] at stays
  rw [endSwitched, Scan.apply_stack, stays.1, stays.2]
  rfl

theorem isSettled_iff : mode.IsSettled isEmpty stack ↔ mode.endSwitched isEmpty stack = stack := by
  constructor
  · rintro (stays | ⟨reference, target⟩ | same)
    · exact endSwitched_of_isStay stays
    · rw [endSwitched, Scan.apply_stack, target]
    · exact same
  · exact fun same => Or.inr (Or.inr same)

theorem endLine_succ (mode : Mode) (isEmpty : Bool) (column limit : Nat) (scan : Scan) :
    scan.endLine mode isEmpty column (limit + 1) =
      if (mode.endSwitch isEmpty scan.stack).isStay then scan
      else if (scan.apply mode (mode.endSwitch isEmpty scan.stack)).2 = .changed then
        ((scan.apply mode (mode.endSwitch isEmpty scan.stack)).1.record mode column).endLine
          mode isEmpty column limit
      else (scan.apply mode (mode.endSwitch isEmpty scan.stack)).1 := rfl

/-- The end of a line applies as many switches as it may, since one that changes nothing is the
last one anyway. -/
theorem endLine_stack (mode : Mode) (isEmpty : Bool) (column limit : Nat) (scan : Scan) :
    (scan.endLine mode isEmpty column limit).stack =
      (mode.endSwitched isEmpty)^[limit] scan.stack := by
  induction limit generalizing scan with
  | zero => rfl
  | succ limit ih =>
      have applied : (scan.apply mode (mode.endSwitch isEmpty scan.stack)).1.stack =
          mode.endSwitched isEmpty scan.stack := by
        rw [endSwitched, Scan.apply_stack, Scan.apply_stack]
      have changes := scan.apply_changed_iff mode (mode.endSwitch isEmpty scan.stack)
      rw [applied] at changes
      rw [endLine_succ]
      split
      case isTrue stays => rw [Function.iterate_fixed (endSwitched_of_isStay stays)]
      case isFalse =>
        split
        case isTrue => rw [ih, Scan.record_stack, applied, Function.iterate_succ_apply]
        case isFalse unchanged =>
          have fixed := not_not.mp fun differs => unchanged (changes.mpr differs)
          rw [Function.iterate_fixed fixed, applied, fixed]

theorem settles_of_pops (pops : ∀ context, context ∈ mode.contexts →
      (context.endSwitch isEmpty).target = none)
    {limit : Nat} (deep : stack.depth ≤ limit) :
    mode.IsSettled isEmpty ((mode.endSwitched isEmpty)^[limit] stack) := by
  induction limit generalizing stack with
  | zero => exact absurd deep (Nat.not_succ_le_zero _)
  | succ limit ih =>
      have popped : mode.endSwitched isEmpty stack =
          stack.popMany (mode.endSwitch isEmpty stack).pops := by
        rw [endSwitched, Scan.apply_stack, endSwitch, pops _ (mode.context_mem stack.top)]
      rcases stack.popMany_eq_or_depth_lt (mode.endSwitch isEmpty stack).pops with same | shallower
      · have fixed := popped.trans same
        rw [Function.iterate_fixed fixed]
        exact isSettled_iff.mpr fixed
      · rw [← popped] at shallower
        rw [Function.iterate_succ_apply]
        exact ih (Nat.le_of_lt_succ (Nat.lt_of_lt_of_le shallower deep))

end Settling

section Lines

variable (mode : Mode) (state : LineState) (line : List Char)

/-- The stack behind a line after so many switches at its end. -/
def stackAfter (count : Nat) : ContextStack :=
  (mode.endSwitched line.isEmpty)^[count] (mode.scanText state line).stack

variable {mode state line}

theorem stackAfter_eq_of_isSettled {few more : Nat}
    (settled : mode.IsSettled line.isEmpty (mode.stackAfter state line few)) (later : few ≤ more) :
    mode.stackAfter state line more = mode.stackAfter state line few := by
  obtain ⟨further, rfl⟩ := Nat.exists_eq_add_of_le' later
  rw [stackAfter, Function.iterate_add_apply]
  exact Function.iterate_fixed (isSettled_iff.mp settled) further

theorem highlightLine_stack (shown : mode.isPlain = false) {hasNext : Bool}
    (ends : ((mode.scanText state line).continued && hasNext) = false) :
    (mode.highlightLine state line hasNext).state.stack mode.initial =
      mode.stackAfter state line (mode.maxDepth + mode.contexts.length + 1) := by
  rw [highlightLine, shown, if_neg Bool.false_ne_true, scan_eq, ends, if_neg Bool.false_ne_true,
    stackAfter, ← endLine_stack mode line.isEmpty line.length]
  exact LineState.stack_ofStack mode.initial _

theorem scanText_isSound (closed : mode.IsClosed)
    (sound : (state.stack mode.initial).IsSound mode.contexts.length mode.maxDepth)
    (line : List Char) :
    (mode.scanText state line).stack.IsSound mode.contexts.length mode.maxDepth :=
  Scan.walk_keeps (Scan.isSound_isKept closed line) line [] 0 _ rfl (Nat.zero_le _) sound

/-- Behind a line that does not go on in the next one stands what so many switches at its end make
of the stack. If they settle at all, that is where they settle if and only if they do so in time,
which they always do if they only take contexts off the stack. There is such a line if and only if
the switches that are borne can be counted, and then those at its end can be, too. -/
theorem endState_eq_settled_iff {main : Definition} {others : List Definition} {maxDepth : Nat}
    {engine : Pattern.Engine}
    (accepted : Mode.ofDefinitions main others maxDepth engine = .ok mode)
    (reached : mode.Reaches state) (line : List Char) (hasNext : Bool)
    (ends : ((mode.scanText state line).continued && hasNext) = false) :
    (mode.highlightLine? state line hasNext = none ↔
      wordRange 64 ≤ 2 * mode.maxDepth + mode.contexts.length) ∧
    ∀ highlight, mode.highlightLine? state line hasNext = some highlight →
      mode.maxDepth + mode.contexts.length < wordRange 64 ∧
      highlight.state.stack mode.initial =
        mode.stackAfter state line (mode.maxDepth + mode.contexts.length + 1) ∧
      (∀ count, mode.IsSettled line.isEmpty (mode.stackAfter state line count) →
        (highlight.state.stack mode.initial = mode.stackAfter state line count ↔
          ∃ few ≤ mode.maxDepth + mode.contexts.length + 1,
            mode.IsSettled line.isEmpty (mode.stackAfter state line few))) ∧
      ((∀ context, context ∈ mode.contexts → (context.endSwitch line.isEmpty).target = none) →
        mode.IsSettled line.isEmpty (highlight.state.stack mode.initial)) := by
  have closed := Mode.isClosed_of_ofDefinitions accepted
  refine ⟨highlightLine?_eq_none_iff closed.notPlain hasNext, ?_⟩
  intro highlight found
  obtain ⟨able, rfl⟩ := highlightLine?_eq_some_iff.mp found
  have counted := (canHighlight_iff closed.notPlain).mp able
  rw [highlightLine_stack closed.notPlain ends]
  refine ⟨by omega, rfl, ?_, ?_⟩
  · intro count settled
    constructor
    · intro same
      exact ⟨_, Nat.le_refl _, same ▸ settled⟩
    · rintro ⟨few, inTime, early⟩
      rw [stackAfter_eq_of_isSettled early inTime]
      rcases Nat.le_total few count with before | behind
      · exact (stackAfter_eq_of_isSettled early before).symm
      · exact stackAfter_eq_of_isSettled settled behind
  · intro pops
    have shallow := (scanText_isSound closed (reached.isSound closed) line).depth
    exact settles_of_pops pops (by omega)

end Lines

end Mode

/-- A language in which it takes three switches to leave a parenthesis. -/
def unwindLanguage : Definition where
  name := "Unwind"
  contexts :=
    [{ name := "Normal", format := "Text"
       rules := [{ kind := .char '(', switch := some "Open" },
         { kind := .char 'x', format := some "Sign" }] },
     { name := "Open", format := "Text", lineEnd := "#pop!Middle"
       fallthrough := some "#pop!Middle", rules := [{ kind := .char '(', switch := some "Open" }] },
     { name := "Middle", format := "Text", lineEnd := "#pop!Last"
       fallthrough := some "#pop!Last" },
     { name := "Last", format := "Rest", lineEnd := "#pop", fallthrough := some "#pop" }]
  formats := [{ name := "Text" }, { name := "Sign" }, { name := "Rest" }]

/-- With room for four contexts three parentheses are left in time. -/
theorem Mode.endState_eq_settled_iff_unwindLanguage :
    ∃ mode highlight, Mode.ofDefinitions unwindLanguage [] 4 = .ok mode ∧
      mode.highlightLine? .initial ['(', '(', '('] false = some highlight ∧
      highlight.state.stack mode.initial = mode.stackAfter .initial ['(', '(', '('] 9 ∧
      mode.stackAfter .initial ['(', '(', '('] 9 = ⟨1, []⟩ := by
  have evaluated : (Mode.ofDefinitions unwindLanguage [] 4).toOption.any (fun mode =>
      mode.canHighlight && decide (mode.maxDepth + mode.contexts.length + 1 = 10) &&
        decide (mode.stackAfter .initial ['(', '(', '('] 9 = ⟨1, []⟩) &&
        decide (mode.endSwitched false ⟨1, []⟩ = ⟨1, []⟩)) = true := by
    cbv
  obtain ⟨mode, accepted, facts⟩ := (Option.any_eq_true _ _).mp evaluated
  simp only [Bool.and_eq_true, decide_eq_true_eq] at facts
  obtain ⟨⟨⟨able, limit⟩, unwound⟩, fixed⟩ := facts
  have settled : mode.IsSettled false (mode.stackAfter .initial ['(', '(', '('] 9) := by
    rw [unwound]
    exact isSettled_iff.mpr fixed
  have made := Mode.ofDefinitions_of_toOption accepted
  have found : mode.highlightLine? .initial ['(', '(', '('] false =
      some (mode.highlightLine .initial ['(', '(', '('] false) := if_pos able
  obtain ⟨_, ended⟩ := Mode.endState_eq_settled_iff made .initial ['(', '(', '('] false
    (Bool.and_false _)
  obtain ⟨_, _, settles, _⟩ := ended _ found
  exact ⟨mode, _, made, found, (settles 9 settled).mpr ⟨9, by omega, settled⟩, unwound⟩

/-- With room for five contexts four parentheses take twelve switches, one more than are made. -/
theorem Mode.endState_ne_settled_unwindLanguage :
    ∃ mode highlight, Mode.ofDefinitions unwindLanguage [] 5 = .ok mode ∧ mode.Reaches .initial ∧
      ((mode.scanText .initial ['(', '(', '(', '(']).continued && false) = false ∧
      mode.IsSettled false (mode.stackAfter .initial ['(', '(', '(', '('] 12) ∧
      mode.highlightLine? .initial ['(', '(', '(', '('] false = some highlight ∧
      highlight.state.stack mode.initial ≠ mode.stackAfter .initial ['(', '(', '(', '('] 12 := by
  have evaluated : (Mode.ofDefinitions unwindLanguage [] 5).toOption.any (fun mode =>
      decide (mode.stackAfter .initial ['(', '(', '(', '('] 12 = ⟨1, []⟩) &&
        decide (mode.endSwitched false ⟨1, []⟩ = ⟨1, []⟩) &&
        (mode.highlightLine? .initial ['(', '(', '(', '('] false).any fun highlight =>
          decide (highlight.state.stack mode.initial = ⟨4, [1]⟩)) = true := by
    cbv
  obtain ⟨mode, accepted, facts⟩ := (Option.any_eq_true _ _).mp evaluated
  simp only [Bool.and_eq_true, decide_eq_true_eq, Option.any_eq_true] at facts
  obtain ⟨⟨unwound, fixed⟩, highlight, found, final⟩ := facts
  refine ⟨mode, highlight, Mode.ofDefinitions_of_toOption accepted, .initial, Bool.and_false _, ?_,
    found, ?_⟩
  · rw [unwound]
    exact isSettled_iff.mpr fixed
  · rw [unwound, final]
    decide

end SyntaxHighlight
