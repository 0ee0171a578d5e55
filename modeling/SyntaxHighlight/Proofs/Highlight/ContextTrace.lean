/-
The contexts of a line by column. Whenever the scan of a line changes the stack it records the
context on top, at the column to which it has come. So at every column that context is active whose
rules decide about the character there, and behind the line the one in which it ends.
-/

import SyntaxHighlight.Highlight.Query
import SyntaxHighlight.Proofs.Highlight.LineEnd

namespace SyntaxHighlight

namespace Scan

/-! ### What operations leave alone -/

section Frames

variable (scan : Scan) (mode : Mode)

@[simp] theorem diagnose_changes (diagnostic : Diagnostic) :
    (scan.diagnose diagnostic).changes = scan.changes := by
  unfold diagnose
  split <;> rfl

@[simp] theorem emit_changes (offset length format : Nat) :
    (scan.emit offset length format).changes = scan.changes := by
  unfold emit
  split <;> rfl

@[simp] theorem forceProgress_changes (context : Context) (column : Nat) :
    (scan.forceProgress context column).changes = scan.changes := by
  simp [forceProgress]

@[simp] theorem enter_changes (rule : Rule) (column length : Nat) :
    (scan.enter rule column length).changes = scan.changes := by
  unfold enter markRegions
  cases rule.endRegion <;> cases rule.beginRegion <;> rfl

@[simp] theorem apply_changes (switch : Switch) :
    (scan.apply mode switch).1.changes = scan.changes := by
  unfold apply
  split
  · simp
  · rfl
  · dsimp only
    split <;> simp

theorem apply_stack_of_unchanged {switch : Switch}
    (unchanged : (scan.apply mode switch).2 ≠ .changed) :
    (scan.apply mode switch).1.stack = scan.stack := by
  by_contra differs
  exact unchanged ((scan.apply_changed_iff mode switch).mpr differs)

end Frames

/-! ### What turns record -/

section Turns

variable {scan next : Scan} {mode : Mode} {context : Context} {rule : Rule} {place : Place}
  {column length count : Nat}

/-- Nothing was switched and nothing recorded, or the context was recorded to which was switched. -/
def Records (mode : Mode) (column : Nat) (scan next : Scan) : Prop :=
  (next.stack = scan.stack ∧ next.changes = scan.changes) ∨
    ∃ switched : Scan, switched.changes = scan.changes ∧ next = switched.record mode column

theorem fallThrough_records (taken : scan.fallThrough mode context column = .taken count next) :
    scan.Records mode (column + count) next := by
  left
  unfold fallThrough at taken
  cases way : context.fallthrough with
  | none =>
      simp only [way, reduceCtorEq, if_false, Turn.taken.injEq] at taken
      simp [← taken.2]
  | some switch =>
      simp only [way] at taken
      split at taken
      · cases taken
      · rename_i unchanged
        cases taken
        simp [scan.apply_stack_of_unchanged mode unchanged]

theorem follow_records
    (taken : scan.follow mode context rule column length = .taken count next) :
    scan.Records mode (column + count) next := by
  have changes := (scan.enter rule column length).apply_changes mode rule.switch
  have stack := @apply_stack_of_unchanged (scan.enter rule column length) mode rule.switch
  rw [enter_changes] at changes
  rw [enter_stack] at stack
  unfold follow at taken
  generalize (scan.enter rule column length).apply mode rule.switch = applied
    at taken changes stack
  obtain ⟨switched, effect⟩ := applied
  dsimp only at taken changes stack
  split at taken
  · split at taken
    · cases taken
    · rename_i unchanged
      cases taken
      exact Or.inl ⟨by simp [stack unchanged], by simp [changes]⟩
  · obtain ⟨rfl, same⟩ := Turn.taken.inj taken
    split at same
    · exact Or.inr ⟨_, by simp [changes], same.symm⟩
    · rename_i unchanged
      subst same
      exact Or.inl ⟨by simp [stack unchanged], by simp [changes]⟩

theorem turn_taken_records (taken : scan.turn mode place = .taken count next) :
    scan.Records mode (place.index + count) next := by
  unfold turn at taken
  dsimp only at taken
  split at taken
  · exact fallThrough_records taken
  · exact follow_records taken

theorem turn_again_records (again : scan.turn mode place = .again next) :
    scan.Records mode place.index next := by
  right
  unfold turn at again
  dsimp only at again
  split at again
  · obtain ⟨switch, _, _, same⟩ := fallThrough_eq_again again
    exact ⟨_, by simp, same⟩
  · obtain ⟨_, same⟩ := follow_eq_again again
    exact ⟨_, by simp, same⟩

end Turns

/-! ### The trace of a scan -/

/-- Changes that begin with one of them, go on in the order of their columns and have come no
further than to a column. -/
structure IsRecorded (start : ContextChange) (column : Nat) (scan : Scan) : Prop where
  start : scan.changes.getLast? = some start
  ordered : scan.changes.Pairwise fun later earlier => earlier.column ≤ later.column
  reached : ∀ change ∈ scan.changes, change.column ≤ column

/-- The latest change is to the context on top of the stack. -/
structure IsTraced (mode : Mode) (start : ContextChange) (column : Nat) (scan : Scan) : Prop extends
    scan.IsRecorded start column where
  latest : scan.changes.head?.map (·.context) = some (mode.context scan.stack.top).id

section Traces

variable {mode : Mode} {start : ContextChange} {column later : Nat} {scan next : Scan}

theorem IsRecorded.congr (recorded : scan.IsRecorded start column)
    (changes : next.changes = scan.changes) (ahead : column ≤ later) :
    next.IsRecorded start later where
  start := changes ▸ recorded.start
  ordered := changes ▸ recorded.ordered
  reached := by
    rw [changes]
    exact fun change member => Nat.le_trans (recorded.reached change member) ahead

theorem IsRecorded.record (recorded : scan.IsRecorded start column) (mode : Mode) :
    (scan.record mode column).IsTraced mode start column where
  start := by simp [Scan.record, List.getLast?_cons, recorded.start]
  ordered := List.pairwise_cons.mpr ⟨recorded.reached, recorded.ordered⟩
  reached := by simpa [Scan.record] using recorded.reached
  latest := rfl

theorem IsTraced.records (traced : scan.IsTraced mode start column)
    (records : scan.Records mode later next) (ahead : column ≤ later) :
    next.IsTraced mode start later := by
  rcases records with ⟨stack, changes⟩ | ⟨switched, changes, rfl⟩
  · exact ⟨traced.toIsRecorded.congr changes ahead, by rw [changes, stack, traced.latest]⟩
  · exact (traced.toIsRecorded.congr changes ahead).record mode

/-- What is recorded up to one scan is recorded up to the other, and all that has come since then
stands from a column on. -/
def Extends (column : Nat) (earlier later : Scan) : Prop :=
  ∃ newer, later.changes = newer ++ earlier.changes ∧ ∀ change ∈ newer, column ≤ change.column

theorem Extends.refl (column : Nat) (scan : Scan) : Extends column scan scan :=
  ⟨[], rfl, by simp⟩

theorem Extends.records {earlier : Scan} (grown : Extends column earlier scan)
    (records : scan.Records mode later next) (ahead : column ≤ later) :
    Extends column earlier next := by
  obtain ⟨newer, parts, behind⟩ := grown
  rcases records with ⟨_, changes⟩ | ⟨switched, changes, rfl⟩
  · exact ⟨newer, changes.trans parts, behind⟩
  · refine ⟨⟨later, (mode.context switched.stack.top).id⟩ :: newer, ?_, ?_⟩
    · rw [record, changes, parts, List.cons_append]
    · exact List.forall_mem_cons.mpr ⟨ahead, behind⟩

/-- What the records of switches at the end of a line keep holds when these are done. -/
theorem endLine_records {holds : Scan → Prop} (isEmpty : Bool) (limit : Nat)
    (kept : ∀ earlier next, holds earlier → earlier.Records mode column next → holds next)
    (known : holds scan) : holds (scan.endLine mode isEmpty column limit) := by
  induction limit generalizing scan with
  | zero => exact known
  | succ limit ih =>
      have changes := scan.apply_changes mode (mode.endSwitch isEmpty scan.stack)
      rw [Mode.endLine_succ]
      split
      · exact known
      · split
        case isTrue => exact ih (kept _ _ known (Or.inr ⟨_, changes, rfl⟩))
        case isFalse unchanged =>
          exact kept _ _ known
            (Or.inl ⟨scan.apply_stack_of_unchanged mode unchanged, changes⟩)

end Traces

end Scan

/-! ### Tries -/

theorem Progress.step_records (mode : Mode) (progress : Progress) :
    progress.scan.Records mode (progress.step mode).place.index (progress.step mode).scan := by
  by_cases ended : progress.place.after = []
  · exact Or.inl (by simp [step_ended ended])
  by_cases tried : mode.patience < progress.switches
  · exact Or.inl (by simp [step_forced ended tried])
  have patient := Nat.le_of_not_lt tried
  cases turned : progress.scan.turn mode progress.place with
  | again next =>
      rw [step_again ended patient turned]
      exact Scan.turn_again_records turned
  | taken count next =>
      obtain ⟨_, withinLine⟩ := Scan.turn_taken_bounds ended turned
      rw [step_taken ended patient turned, Place.forward_index withinLine]
      exact Scan.turn_taken_records turned

namespace Mode

section Tries

variable (mode : Mode) (state : LineState) (line : List Char)

/-- The change with which the trace of a line begins. -/
def firstChange : ContextChange := ⟨0, (mode.context (mode.topContext state)).id⟩

theorem progress_isTraced (tries : Nat) :
    (mode.progress state line tries).scan.IsTraced mode (mode.firstChange state)
      (mode.progress state line tries).place.index := by
  induction tries with
  | zero => exact ⟨⟨rfl, List.pairwise_singleton _ _, by simp [progress, Scan.record]⟩, rfl⟩
  | succ tries ih =>
      rw [progress_succ]
      exact ih.records (Progress.step_records mode _) (Progress.step_index_le mode _)

/-- From every try on, further ones come to the end of the text. -/
theorem exists_progress_ended (tries : Nat) :
    ∃ more, (mode.progress state line (tries + more)).place.index = line.length ∧
      (mode.progress state line (tries + more)).scan = mode.scanText state line := by
  have ended := Progress.iterate_ends (mode.progress_patient state line tries) (Nat.le_refl _)
  rw [← progress_add] at ended
  have finished := mode.progress_finish state line
    (tries + (mode.progress state line tries).triesLeft mode)
  simp only [Progress.finish, ended] at finished
  refine ⟨(mode.progress state line tries).triesLeft mode, ?_, finished⟩
  rw [progress_ended ended, Place.index, List.length_reverse]

theorem scan_isTraced (hasNext : Bool) :
    (mode.scan state line hasNext).IsTraced mode (mode.firstChange state) line.length := by
  obtain ⟨count, reached, found⟩ := mode.exists_progress_ended state line 0
  have traced := mode.progress_isTraced state line (0 + count)
  rw [reached, found] at traced
  rw [scan_eq]
  split
  · exact traced
  · exact Scan.endLine_records _ _
      (fun _ _ known records => known.records records (Nat.le_refl _)) traced

theorem progress_extends (tries more : Nat) :
    Scan.Extends (mode.progress state line (tries + 1)).place.index
      (mode.progress state line tries).scan (mode.progress state line (tries + 1 + more)).scan := by
  induction more with
  | zero =>
      rw [Nat.add_zero, progress_succ]
      exact (Scan.Extends.refl _ _).records (Progress.step_records mode _) (Nat.le_refl _)
  | succ more ih =>
      have ahead := mode.progress_index_le state line (tries + 1) (more + 1)
      rw [← Nat.add_assoc, mode.progress_succ state line (tries + 1 + more)] at ahead ⊢
      exact ih.records (Progress.step_records mode _) ahead

/-- What is recorded behind a try stands from the place on to which it has come. -/
theorem scan_extends (hasNext : Bool) (tries : Nat) :
    Scan.Extends (mode.progress state line (tries + 1)).place.index
      (mode.progress state line tries).scan (mode.scan state line hasNext) := by
  obtain ⟨more, reached, found⟩ := mode.exists_progress_ended state line (tries + 1)
  have inside := mode.progress_index_le state line (tries + 1) more
  have text := mode.progress_extends state line tries more
  rw [reached] at inside
  rw [found] at text
  rw [scan_eq]
  split
  · exact text
  · exact Scan.endLine_records _ _ (fun _ _ known records => known.records records inside) text

end Tries

end Mode

/-! ### Active contexts -/

theorem activeChange?_reverse {newer older : List ContextChange} {column : Nat}
    (behind : ∀ change ∈ newer, column < change.column)
    (upTo : ∀ change ∈ older, change.column ≤ column) :
    activeChange? (newer ++ older).reverse column = older.head? := by
  have passed : newer.reverse.takeWhile (fun change => change.column ≤ column) = [] := by
    rw [List.takeWhile_eq_nil_iff]
    intro some
    have later := behind _ (List.mem_reverse.mp (List.getElem_mem some))
    simpa using later
  rw [activeChange?, List.reverse_append, List.takeWhile_append_of_pos, passed, List.append_nil,
    List.getLast?_reverse]
  simpa using upTo

namespace Mode

section Active

variable {mode : Mode} {state : LineState} {line : List Char} {column tries : Nat}

theorem contextChanges_eq (shown : mode.isPlain = false) (hasNext : Bool) :
    mode.contextChanges state line hasNext = (mode.scan state line hasNext).changes.reverse := by
  rw [contextChanges, shown, if_neg Bool.false_ne_true]

/-- Where a try takes characters the context is active that was on top of the stack. -/
theorem activeChange?_of_progress (shown : mode.isPlain = false) (hasNext : Bool)
    (reached : (mode.progress state line tries).place.index ≤ column)
    (passed : column < (mode.progress state line (tries + 1)).place.index) :
    (activeChange? (mode.contextChanges state line hasNext) column).map (·.context) =
      some (mode.context (mode.progress state line tries).scan.stack.top).id := by
  -- All that is recorded up to the try stands up to the column, and all that comes later behind it.
  have traced := mode.progress_isTraced state line tries
  obtain ⟨newer, parts, behind⟩ := mode.scan_extends state line hasNext tries
  rw [contextChanges_eq shown, parts, activeChange?_reverse, traced.latest]
  · exact fun change member => Nat.lt_of_lt_of_le passed (behind change member)
  · exact fun change member => Nat.le_trans (traced.reached change member) reached

theorem activeChange?_of_length_le (shown : mode.isPlain = false) (hasNext : Bool)
    (beyond : line.length ≤ column) :
    (activeChange? (mode.contextChanges state line hasNext) column).map (·.context) =
      some (mode.context (mode.scan state line hasNext).stack.top).id := by
  have traced := mode.scan_isTraced state line hasNext
  have all := @activeChange?_reverse [] (mode.scan state line hasNext).changes column (by simp)
    (fun change member => Nat.le_trans (traced.reached change member) beyond)
  rw [List.nil_append] at all
  rw [contextChanges_eq shown, all, traced.latest]

end Active

/-! ### Numbers of contexts -/

section Numbers

variable {main : Definition} {others : List Definition} {maxDepth : Nat} {mode : Mode}
  {engine : Pattern.Engine} (accepted : Mode.ofDefinitions main others maxDepth engine = .ok mode)

include accepted

theorem context_eq_some {id : Nat} (inRange : id < mode.contexts.length) :
    mode.context? id = some (mode.context id) ∧ (mode.context id).id = id := by
  obtain ⟨drafts, made⟩ := isMadeFrom_of_ofDefinitions accepted
  have found : mode.context? id = some mode.contexts[id] := List.getElem?_eq_getElem inRange
  have same : mode.context id = mode.contexts[id] := by
    rw [context, found, Option.getD_some]
  refine ⟨found.trans (congrArg some same.symm), ?_⟩
  rw [same]
  cases id with
  | zero =>
      obtain ⟨delimiters, fallback⟩ := made.fallback
      exact congrArg Context.id fallback
  | succ index =>
      exact ((declared_isWithin made).2 index _ found).1

theorem id_context_top {stack : ContextStack}
    (sound : stack.IsSound mode.contexts.length mode.maxDepth) :
    (mode.context stack.top).id = stack.top :=
  (context_eq_some accepted
    (sound.declared stack.top (ContextStack.mem_toList.mpr (Or.inl rfl))).2).2

end Numbers

theorem progress_keeps {mode : Mode} {state : LineState} {line : List Char}
    {holds : Nat → Scan → Prop} (kept : Scan.IsKept mode line holds)
    (known : holds 0 (({ stack := state.stack mode.initial } : Scan).record mode 0))
    (tries : Nat) :
    holds (mode.progress state line tries).place.index (mode.progress state line tries).scan := by
  induction tries with
  | zero => exact known
  | succ tries ih =>
      have parts := mode.progress_parts state line tries
      rw [progress_succ]
      generalize mode.progress state line tries = progress at ih parts ⊢
      by_cases ended : progress.place.after = []
      · rwa [Progress.step_ended ended]
      have inLine : progress.place.IsIn line := ⟨parts, ended⟩
      by_cases tried : mode.patience < progress.switches
      · rw [Progress.step_forced ended tried,
          Place.forward_index (List.length_pos_iff.mpr ended)]
        exact kept.forced progress.place progress.scan inLine ih
      have patient := Nat.le_of_not_lt tried
      cases turned : progress.scan.turn mode progress.place with
      | again next =>
          rw [Progress.step_again ended patient turned]
          exact kept.again progress.place progress.scan next inLine ih turned
      | taken count next =>
          obtain ⟨_, withinLine⟩ := Scan.turn_taken_bounds ended turned
          rw [Progress.step_taken ended patient turned, Place.forward_index withinLine]
          exact kept.taken progress.place progress.scan count next inLine ih turned

/-- Changes of the context that go through a line from a state to the one at its end. Between its
ends the context of a column is the one in which the try is made that takes the character there. -/
structure Traces (mode : Mode) (state : LineState) (line : List Char) (hasNext : Bool)
    (changes : List ContextChange) : Prop where
  ordered : changes.Pairwise fun earlier later => earlier.column ≤ later.column
  inside : ∀ change ∈ changes, change.column ≤ line.length
  starts : changes.head? = some ⟨0, mode.topContext state⟩
  ends : changes.getLast?.map (·.context) =
    some (mode.topContext (mode.highlightLine state line hasNext).state)
  within : ∀ tries column, (mode.progress state line tries).place.index ≤ column →
    column < (mode.progress state line (tries + 1)).place.index →
      (activeChange? changes column).map (·.context) =
        some (mode.progress state line tries).scan.stack.top

section Lines

variable {main : Definition} {others : List Definition} {maxDepth : Nat} {mode : Mode}
  {state : LineState} {engine : Pattern.Engine}
  (accepted : Mode.ofDefinitions main others maxDepth engine = .ok mode)
  (reached : mode.Reaches state) (line : List Char) (hasNext : Bool)

include accepted reached

/-- A line ends in the context on top of the stack to which its scan has come. -/
theorem id_context_scan :
    (mode.context (mode.scan state line hasNext).stack.top).id =
      mode.topContext (mode.highlightLine state line hasNext).state := by
  have closed := isClosed_of_ofDefinitions accepted
  rw [id_context_top accepted (scan_isSound closed state (reached.isSound closed) line hasNext),
    highlightLine, closed.notPlain, if_neg Bool.false_ne_true]
  exact congrArg ContextStack.top (LineState.stack_ofStack mode.initial _).symm

theorem context?_topContext :
    (mode.context? (mode.topContext state)).map (·.id) = some (mode.topContext state) := by
  have sound := reached.isSound (isClosed_of_ofDefinitions accepted)
  obtain ⟨found, same⟩ := context_eq_some accepted
    (sound.declared _ (ContextStack.mem_toList.mpr (Or.inl rfl))).2
  exact (congrArg (Option.map _) found).trans (congrArg some same)

theorem activeChange?_beyond {column : Nat} (beyond : line.length ≤ column) :
    (activeChange? (mode.contextChanges state line hasNext) column).map (·.context) =
      some (mode.topContext (mode.highlightLine state line hasNext).state) := by
  have shown := (isClosed_of_ofDefinitions accepted).notPlain
  rw [activeChange?_of_length_le shown hasNext beyond, id_context_scan accepted reached]

theorem contextChanges_traces :
    mode.Traces state line hasNext (mode.contextChanges state line hasNext) := by
  have closed := isClosed_of_ofDefinitions accepted
  have sound := reached.isSound closed
  have traced := mode.scan_isTraced state line hasNext
  have changes := @contextChanges_eq mode state line closed.notPlain hasNext
  refine ⟨?_, ?_, ?_, ?_, ?_⟩
  · rw [changes]
    exact List.pairwise_reverse.mpr traced.ordered
  · rw [changes]
    exact fun change member => traced.reached change (List.mem_reverse.mp member)
  · rw [changes, List.head?_reverse, traced.start, firstChange]
    exact congrArg (fun id => some (ContextChange.mk 0 id)) (id_context_top accepted sound)
  · rw [changes, List.getLast?_reverse, traced.latest, id_context_scan accepted reached]
  · intro tries column reachedColumn passed
    rw [activeChange?_of_progress closed.notPlain hasNext reachedColumn passed]
    exact congrArg some (id_context_top accepted
      (progress_keeps (Scan.isSound_isKept closed line) sound tries))

end Lines

end Mode

end SyntaxHighlight
