/-
Turns of the scan of a line. Each operation leaves alone what it is not about, a turn that takes
characters takes at least one and none beyond the line, and so what every turn keeps holds when
the line is at its end.
-/

import SyntaxHighlight.Highlight.Line
import SyntaxHighlight.Proofs.Mode.MatchLength

namespace SyntaxHighlight

open SyntaxHighlight.Text

namespace Scan

/-! ### What operations leave alone -/

section Frames

variable (scan : Scan) (mode : Mode)

@[simp] theorem record_stack (column : Nat) : (scan.record mode column).stack = scan.stack := rfl

@[simp] theorem diagnose_stack (diagnostic : Diagnostic) :
    (scan.diagnose diagnostic).stack = scan.stack := by
  unfold diagnose
  split <;> rfl

@[simp] theorem diagnose_spans (diagnostic : Diagnostic) :
    (scan.diagnose diagnostic).spans = scan.spans := by
  unfold diagnose
  split <;> rfl

@[simp] theorem diagnose_folding (diagnostic : Diagnostic) :
    (scan.diagnose diagnostic).folding = scan.folding := by
  unfold diagnose
  split <;> rfl

@[simp] theorem emit_stack (offset length format : Nat) :
    (scan.emit offset length format).stack = scan.stack := by
  unfold emit
  split <;> rfl

@[simp] theorem emit_folding (offset length format : Nat) :
    (scan.emit offset length format).folding = scan.folding := by
  unfold emit
  split <;> rfl

@[simp] theorem forceProgress_stack (context : Context) (column : Nat) :
    (scan.forceProgress context column).stack = scan.stack := by
  rw [forceProgress, emit_stack, diagnose_stack]

@[simp] theorem enter_stack (rule : Rule) (column length : Nat) :
    (scan.enter rule column length).stack = scan.stack := by
  unfold enter markRegions
  cases rule.endRegion <;> cases rule.beginRegion <;> rfl

@[simp] theorem apply_spans (switch : Switch) :
    (scan.apply mode switch).1.spans = scan.spans := by
  unfold apply
  split
  · exact scan.diagnose_spans _
  · rfl
  · dsimp only
    split
    · exact diagnose_spans _ _
    · rfl

@[simp] theorem apply_folding (switch : Switch) :
    (scan.apply mode switch).1.folding = scan.folding := by
  unfold apply
  split
  · exact scan.diagnose_folding _
  · rfl
  · dsimp only
    split
    · exact diagnose_folding _ _
    · rfl

/-- The stack behind a switch: it stays if the switch leads nowhere. -/
theorem apply_stack (switch : Switch) :
    (scan.apply mode switch).1.stack =
      match switch.target with
      | some (.unresolved _) => scan.stack
      | none => scan.stack.popMany switch.pops
      | some (.context id) => ((scan.stack.popMany switch.pops).afterPush mode.maxDepth id).1 := by
  unfold apply
  cases switch.target with
  | none => rfl
  | some target =>
      cases target with
      | unresolved reference => exact scan.diagnose_stack _
      | context id =>
          dsimp only
          split
          · exact diagnose_stack _ _
          · rfl

end Frames

/-! ### Turns -/

section Turns

variable {scan next : Scan} {mode : Mode} {context : Context} {rule : Rule}
  {column length count : Nat} {place : Place}

theorem formatWithin_cases (effect : SwitchEffect) :
    rule.formatWithin context effect = context.format ∨
      rule.format = some (rule.formatWithin context effect) := by
  unfold Rule.formatWithin
  split
  · exact Or.inl rfl
  · cases rule.format with
    | none => exact Or.inl rfl
    | some format => exact Or.inr rfl

/-- Where nothing is taken a rule has changed the stack. -/
theorem follow_eq_again (again : scan.follow mode context rule column length = .again next) :
    ((scan.enter rule column length).apply mode rule.switch).2 = .changed ∧
      next = ((scan.enter rule column length).apply mode rule.switch).1.record mode column := by
  unfold follow at again
  generalize (scan.enter rule column length).apply mode rule.switch = applied at again ⊢
  obtain ⟨switched, effect⟩ := applied
  dsimp only at again ⊢
  split at again
  · split at again
    · rename_i changed
      exact ⟨changed, (Turn.again.inj again).symm⟩
    · cases again
  · cases again

/-- What a rule takes is its match, or a single character where the match is empty and changes
nothing. -/
theorem follow_eq_taken
    (taken : scan.follow mode context rule column length = .taken count next) :
    (count = 1 ∧
        next = ((scan.enter rule column length).apply mode rule.switch).1.forceProgress
          context column) ∨
      (0 < count ∧ count = length ∧ ∃ format,
        (format = context.format ∨ rule.format = some format) ∧
          (next = ((scan.enter rule column length).apply mode rule.switch).1.emit
              column count format ∨
            next = (((scan.enter rule column length).apply mode rule.switch).1.emit
              column count format).record mode (column + count))) := by
  unfold follow at taken
  generalize (scan.enter rule column length).apply mode rule.switch = applied at taken ⊢
  obtain ⟨switched, effect⟩ := applied
  dsimp only at taken ⊢
  split at taken
  · split at taken
    · cases taken
    · cases taken
      exact Or.inl ⟨rfl, rfl⟩
  · rename_i moved
    obtain ⟨rfl, same⟩ := Turn.taken.inj taken
    have whole : rule.taken length = length := by
      unfold Rule.taken at moved ⊢
      split
      · rename_i ahead
        exact absurd (if_pos ahead) moved
      · rfl
    refine Or.inr ⟨Nat.pos_of_ne_zero moved, whole, rule.formatWithin context effect,
      formatWithin_cases effect, ?_⟩
    split at same
    · exact Or.inr same.symm
    · exact Or.inl same.symm

theorem fallThrough_eq_again (again : scan.fallThrough mode context column = .again next) :
    ∃ switch, context.fallthrough = some switch ∧ (scan.apply mode switch).2 = .changed ∧
      next = (scan.apply mode switch).1.record mode column := by
  unfold fallThrough at again
  cases way : context.fallthrough with
  | none =>
      simp only [way, reduceCtorEq, if_false] at again
  | some switch =>
      simp only [way] at again
      split at again
      · rename_i changed
        exact ⟨switch, rfl, changed, (Turn.again.inj again).symm⟩
      · cases again

theorem fallThrough_eq_taken
    (taken : scan.fallThrough mode context column = .taken count next) :
    count = 1 ∧
      (next = scan.emit column 1 context.format ∨
        ∃ switch, context.fallthrough = some switch ∧
          next = (scan.apply mode switch).1.emit column 1 context.format) := by
  unfold fallThrough at taken
  cases way : context.fallthrough with
  | none =>
      simp only [way, reduceCtorEq, if_false, Turn.taken.injEq] at taken
      exact ⟨taken.1.symm, Or.inl taken.2.symm⟩
  | some switch =>
      simp only [way] at taken
      split at taken
      · cases taken
      · cases taken
        exact ⟨rfl, Or.inr ⟨switch, rfl, rfl⟩⟩

/-- A turn that takes characters takes some, and none beyond the end of the line. -/
theorem turn_taken_bounds (rest : place.after ≠ [])
    (taken : scan.turn mode place = .taken count next) :
    0 < count ∧ count ≤ place.after.length := by
  have positive : 0 < place.after.length := List.length_pos_iff.mpr rest
  unfold turn at taken
  dsimp only at taken
  split at taken
  · obtain ⟨rfl, _⟩ := fallThrough_eq_taken taken
    exact ⟨Nat.one_pos, positive⟩
  · rename_i rule length found
    obtain ⟨_, withinLine⟩ := Context.findRule?_eq_some found
    rcases follow_eq_taken taken with ⟨rfl, _⟩ | ⟨moved, rfl, _⟩
    · exact ⟨Nat.one_pos, positive⟩
    · exact ⟨moved, withinLine⟩

end Turns

end Scan

/-! ### From turns to the line -/

/-- A place in a line before its end. -/
structure Place.IsIn (line : List Char) (place : Place) : Prop where
  parts : place.before.reverse ++ place.after = line
  rest : place.after ≠ []

theorem Place.IsIn.index_add_length {line : List Char} {place : Place} (inLine : place.IsIn line) :
    place.index + place.after.length = line.length := by
  rw [← inLine.parts, List.length_append, List.length_reverse, Place.index]

namespace Scan

/-- What every turn at a place keeps: `holds column` is about all that is known when the scan has
come to a column. -/
structure IsKept (mode : Mode) (line : List Char) (holds : Nat → Scan → Prop) : Prop where
  again : ∀ (place : Place) (scan next : Scan), place.IsIn line → holds place.index scan →
    scan.turn mode place = .again next → holds place.index next
  taken : ∀ (place : Place) (scan : Scan) (count : Nat) (next : Scan), place.IsIn line →
    holds place.index scan → scan.turn mode place = .taken count next →
      holds (place.index + count) next
  forced : ∀ (place : Place) (scan : Scan), place.IsIn line → holds place.index scan →
    holds (place.index + 1) (scan.forceProgress (mode.context scan.stack.top) place.index)

variable {mode : Mode} {line : List Char} {holds : Nat → Scan → Prop}

theorem settle_keeps (kept : IsKept mode line holds) {place : Place} (inLine : place.IsIn line)
    (patience : Nat) (scan : Scan) (known : holds place.index scan) :
    0 < (scan.settle mode place patience).1 ∧
      (scan.settle mode place patience).1 ≤ place.after.length ∧
      holds (place.index + (scan.settle mode place patience).1)
        (scan.settle mode place patience).2 := by
  have positive : 0 < place.after.length := List.length_pos_iff.mpr inLine.rest
  induction patience generalizing scan with
  | zero => exact ⟨Nat.one_pos, positive, kept.forced place scan inLine known⟩
  | succ patience ih =>
      unfold settle
      cases turned : scan.turn mode place with
      | again next => exact ih next (kept.again place scan next inLine known turned)
      | taken count next =>
          obtain ⟨moved, withinLine⟩ := turn_taken_bounds inLine.rest turned
          exact ⟨moved, withinLine, kept.taken place scan count next inLine known turned⟩

/-- The walk comes to the end of the line, whatever its turns do. -/
theorem walk_keeps (kept : IsKept mode line holds) (after before : List Char) (taken : Nat)
    (scan : Scan) (parts : before.reverse ++ after = line) (ahead : taken ≤ after.length)
    (known : holds (before.length + taken) scan) :
    holds line.length (scan.walk mode before taken after) := by
  induction after generalizing before taken scan with
  | nil =>
      have none : taken = 0 := Nat.eq_zero_of_le_zero ahead
      subst none
      rw [walk, ← parts, List.append_nil, List.length_reverse]
      exact known
  | cons char rest ih =>
      have nextParts : (char :: before).reverse ++ rest = line := by
        rw [List.reverse_cons, List.append_assoc]
        exact parts
      cases taken with
      | succ taken =>
          rw [walk]
          apply ih (char :: before) taken scan nextParts (Nat.le_of_succ_le_succ ahead)
          rwa [List.length_cons, Nat.add_right_comm]
      | zero =>
          have inLine : Place.IsIn line ⟨before, char :: rest⟩ := ⟨parts, List.cons_ne_nil _ _⟩
          obtain ⟨moved, withinLine, settled⟩ :=
            settle_keeps kept inLine (mode.patience + 1) scan known
          rw [walk]
          generalize scan.settle mode ⟨before, char :: rest⟩ (mode.patience + 1) = result
            at moved withinLine settled ⊢
          obtain ⟨count, next⟩ := result
          dsimp only [Place.index, List.length_cons] at moved withinLine settled ⊢
          apply ih (char :: before) (count - 1) next nextParts (by omega)
          have columns : before.length + 1 + (count - 1) = before.length + count := by omega
          rwa [List.length_cons, columns]

/-! ### The end of the line -/

/-- What the record of a switch at the end of a line keeps, all switches there keep. -/
theorem endLine_keeps (holds : Scan → Prop) (isEmpty : Bool) (column limit : Nat) (scan : Scan)
    (known : holds scan)
    (switched : ∀ earlier, holds earlier →
      holds (earlier.apply mode
        ((mode.context earlier.stack.top).endSwitch isEmpty)).1)
    (recorded : ∀ earlier, holds earlier → holds (earlier.record mode column)) :
    holds (scan.endLine mode isEmpty column limit) := by
  induction limit generalizing scan with
  | zero => exact known
  | succ limit ih =>
      unfold endLine
      dsimp only
      split
      · exact known
      · have next := switched scan known
        split
        · exact ih _ (recorded _ next)
        · exact next

end Scan

end SyntaxHighlight
