/-
The states between lines that a mode reaches from the initial one. Their stacks are never empty,
never deeper than the mode allows, and hold declared contexts only; and since the stack of the
initial context alone has one form, equal stacks are equal states.
-/

import SyntaxHighlight.Proofs.Highlight.Turn
import SyntaxHighlight.Proofs.Mode.Closure

namespace SyntaxHighlight

/-- The states at the ends of lines that follow one another, whatever these lines are. -/
inductive Mode.Reaches (mode : Mode) : LineState → Prop
  | initial : mode.Reaches .initial
  | line (state : LineState) (line : List Char) (hasNext : Bool) :
      mode.Reaches state → mode.Reaches (mode.highlightLine state line hasNext).state

/-! ### Stacks of declared contexts -/

/-- A stack that is no deeper than allowed and holds declared contexts, out of so many. -/
structure ContextStack.IsSound (contexts maxDepth : Nat) (stack : ContextStack) : Prop where
  depth : stack.depth ≤ maxDepth
  declared : ∀ id, id ∈ stack.toList → 1 ≤ id ∧ id < contexts

namespace ContextStack

theorem mem_toList {stack : ContextStack} {id : Nat} :
    id ∈ stack.toList ↔ id = stack.top ∨ id ∈ stack.below := by
  rw [toList, List.mem_reverse, List.mem_cons]

theorem length_toList (stack : ContextStack) : stack.toList.length = stack.depth := by
  rw [toList, List.length_reverse, List.length_cons, depth]

theorem toList_inj {one other : ContextStack} : one.toList = other.toList ↔ one = other := by
  constructor
  · intro same
    have parts := List.reverse_inj.mp same
    cases one
    cases other
    cases parts
    rfl
  · intro same
    rw [same]

variable {contexts maxDepth : Nat} {stack : ContextStack}

theorem IsSound.single {id : Nat} (deep : 1 ≤ maxDepth) (positive : 1 ≤ id)
    (inRange : id < contexts) : IsSound contexts maxDepth ⟨id, []⟩ := by
  refine ⟨deep, ?_⟩
  intro other member
  cases List.mem_singleton.mp member
  exact ⟨positive, inRange⟩

theorem IsSound.pop (sound : stack.IsSound contexts maxDepth) :
    stack.pop.IsSound contexts maxDepth := by
  obtain ⟨top, below⟩ := stack
  cases below with
  | nil => exact sound
  | cons next below =>
      constructor
      · exact Nat.le_trans (Nat.le_succ _) sound.depth
      · intro id member
        exact sound.declared id (mem_toList.mpr (Or.inr (by
          rcases mem_toList.mp member with same | deeper
          · rw [same]
            exact List.mem_cons_self
          · exact List.mem_cons_of_mem next deeper)))

theorem IsSound.popMany (sound : stack.IsSound contexts maxDepth) (count : Nat) :
    (stack.popMany count).IsSound contexts maxDepth := by
  induction count generalizing stack with
  | zero => exact sound
  | succ count ih => exact ih sound.pop

/-- What is put on a stack may cost the oldest entries, but never makes it too deep. -/
theorem IsSound.afterPush (sound : stack.IsSound contexts maxDepth) (deep : 1 ≤ maxDepth)
    {id : Nat} (positive : 1 ≤ id) (inRange : id < contexts) :
    (stack.afterPush maxDepth id).1.IsSound contexts maxDepth := by
  have pushed : ∀ other, other ∈ (stack.push id).toList → 1 ≤ other ∧ other < contexts := by
    intro other member
    rcases mem_toList.mp member with same | earlier
    · rw [same]
      exact ⟨positive, inRange⟩
    · exact sound.declared other (mem_toList.mpr (List.mem_cons.mp earlier))
  unfold ContextStack.afterPush
  dsimp only
  split
  · constructor
    · have kept := List.length_take_le (maxDepth - 1) (stack.push id).below
      unfold ContextStack.limit ContextStack.depth
      dsimp only
      omega
    · intro other member
      rcases mem_toList.mp member with same | earlier
      · exact pushed other (mem_toList.mpr (Or.inl same))
      · exact pushed other (mem_toList.mpr (Or.inr (List.mem_of_mem_take earlier)))
  · rename_i fits
    exact ⟨Nat.le_of_not_lt fits, pushed⟩

end ContextStack

/-! ### The invariant of the scan -/

theorem Scan.apply_isSound {mode : Mode} {contexts : Nat} (deep : 1 ≤ mode.maxDepth) {scan : Scan}
    {switch : Switch} (leads : switch.LeadsWithin contexts)
    (sound : scan.stack.IsSound contexts mode.maxDepth) :
    (scan.apply mode switch).1.stack.IsSound contexts mode.maxDepth := by
  rw [Scan.apply_stack]
  cases target : switch.target with
  | none => exact sound.popMany switch.pops
  | some goal =>
      cases goal with
      | unresolved reference => exact sound
      | context id =>
          obtain ⟨positive, inRange⟩ := leads id target
          exact (sound.popMany switch.pops).afterPush deep positive inRange

theorem Context.endSwitch_leadsWithin {contexts formats : Nat} {context : Context}
    (within : context.IsWithin contexts formats) (isEmpty : Bool) :
    (context.endSwitch isEmpty).LeadsWithin contexts := by
  cases isEmpty with
  | false => exact within.lineEnd
  | true =>
      unfold Context.endSwitch
      cases own : context.lineEmpty with
      | none => exact within.lineEnd
      | some switch => exact within.lineEmpty switch own

/-- In a closed mode every turn keeps the stack sound. -/
theorem Scan.isSound_isKept {mode : Mode} (closed : mode.IsClosed) (line : List Char) :
    Scan.IsKept mode line fun _ scan =>
      scan.stack.IsSound mode.contexts.length mode.maxDepth where
  again := by
    intro place scan next _ sound again
    have within := closed.within _ (mode.context_mem scan.stack.top)
    unfold Scan.turn at again
    dsimp only at again
    split at again
    · obtain ⟨switch, way, _, rfl⟩ := Scan.fallThrough_eq_again again
      exact Scan.apply_isSound closed.depth (within.fallthrough switch way) sound
    · rename_i rule length found
      obtain ⟨member, _⟩ := Context.findRule?_eq_some found
      obtain ⟨_, rfl⟩ := Scan.follow_eq_again again
      apply Scan.apply_isSound closed.depth (within.rules rule member).switch
      rwa [Scan.enter_stack]
  taken := by
    intro place scan count next _ sound taken
    have within := closed.within _ (mode.context_mem scan.stack.top)
    unfold Scan.turn at taken
    dsimp only at taken
    split at taken
    · obtain ⟨_, rfl | ⟨switch, way, rfl⟩⟩ := Scan.fallThrough_eq_taken taken
      · rwa [Scan.emit_stack]
      · rw [Scan.emit_stack]
        exact Scan.apply_isSound closed.depth (within.fallthrough switch way) sound
    · rename_i rule length found
      obtain ⟨member, _⟩ := Context.findRule?_eq_some found
      have applied : ((scan.enter rule place.index length).apply mode rule.switch).1.stack.IsSound
          mode.contexts.length mode.maxDepth := by
        apply Scan.apply_isSound closed.depth (within.rules rule member).switch
        rwa [Scan.enter_stack]
      rcases Scan.follow_eq_taken taken with ⟨_, rfl⟩ | ⟨_, _, format, _, rfl | rfl⟩
      · rwa [Scan.forceProgress_stack]
      · rwa [Scan.emit_stack]
      · rwa [Scan.record_stack, Scan.emit_stack]
  forced := by
    intro place scan _ sound
    rwa [Scan.forceProgress_stack]

theorem Mode.scan_isSound {mode : Mode} (closed : mode.IsClosed) (state : LineState)
    (sound : (state.stack mode.initial).IsSound mode.contexts.length mode.maxDepth)
    (line : List Char) (hasNext : Bool) :
    (mode.scan state line hasNext).stack.IsSound mode.contexts.length mode.maxDepth := by
  have walked := Scan.walk_keeps (Scan.isSound_isKept closed line) line [] 0
    (({ stack := state.stack mode.initial } : Scan).record mode 0) rfl (Nat.zero_le _) sound
  unfold Mode.scan
  dsimp only
  split
  · exact walked
  · refine Scan.endLine_keeps
      (fun scan => scan.stack.IsSound mode.contexts.length mode.maxDepth) line.isEmpty
      line.length _ _ walked ?_ (fun _ known => known)
    intro scan known
    exact Scan.apply_isSound closed.depth
      (Context.endSwitch_leadsWithin (closed.within _ (mode.context_mem scan.stack.top)) _) known

/-! ### States -/

theorem LineState.stack_ofStack (initialContext : Nat) (stack : ContextStack) :
    (LineState.ofStack initialContext stack).stack initialContext = stack := by
  unfold LineState.ofStack
  split
  · rename_i same
    exact same.symm
  · rfl

/-- A state as it is kept between lines: not the initial state in its other form. -/
def LineState.IsCanonical (initialContext : Nat) (state : LineState) : Prop :=
  state = .ofStack initialContext (state.stack initialContext)

theorem LineState.IsCanonical.eq_iff {initialContext : Nat} {one other : LineState}
    (oneCanonical : one.IsCanonical initialContext)
    (otherCanonical : other.IsCanonical initialContext) :
    one = other ↔
      (one.stack initialContext).toList = (other.stack initialContext).toList := by
  rw [ContextStack.toList_inj]
  constructor
  · intro same
    rw [same]
  · intro same
    rw [oneCanonical, same]
    exact otherCanonical.symm

theorem LineState.IsCanonical.contexts_ne {initialContext : Nat} {state : LineState}
    (canonical : state.IsCanonical initialContext) : state.contexts ≠ [initialContext] := by
  intro single
  cases state with
  | initial => cases single
  | within stack =>
      have bottom : stack = ⟨initialContext, []⟩ := ContextStack.toList_inj.mp single
      have same : LineState.within stack = .ofStack initialContext stack := canonical
      rw [LineState.ofStack, if_pos bottom] at same
      cases same

theorem Mode.Reaches.isCanonical {mode : Mode} (closed : mode.IsClosed) {state : LineState}
    (reached : mode.Reaches state) : state.IsCanonical mode.initial := by
  cases reached with
  | initial =>
      unfold LineState.IsCanonical LineState.ofStack LineState.stack
      rw [if_pos rfl]
  | line earlier line hasNext _ =>
      rw [Mode.highlightLine, closed.notPlain, if_neg Bool.false_ne_true]
      exact congrArg (LineState.ofStack mode.initial)
        (LineState.stack_ofStack mode.initial _).symm

theorem Mode.Reaches.isSound {mode : Mode} (closed : mode.IsClosed) {state : LineState}
    (reached : mode.Reaches state) :
    (state.stack mode.initial).IsSound mode.contexts.length mode.maxDepth := by
  induction reached with
  | initial =>
      apply ContextStack.IsSound.single closed.depth
      · exact Nat.le_of_eq closed.initial_eq.symm
      · rw [closed.initial_eq]
        exact closed.initial_lt
  | line earlier line hasNext _ ih =>
      rw [Mode.highlightLine, closed.notPlain, if_neg Bool.false_ne_true]
      change ((LineState.ofStack mode.initial _).stack mode.initial).IsSound _ _
      rw [LineState.stack_ofStack]
      exact Mode.scan_isSound closed earlier ih line hasNext

/-- The states that a mode reaches stand for stacks of declared contexts of allowed depth, each
in one form. -/
theorem Mode.reaches_wellFormed {main : Definition} {others : List Definition} {maxDepth : Nat}
    {mode : Mode} {engine : Pattern.Engine}
    (accepted : Mode.ofDefinitions main others maxDepth engine = .ok mode) :
    (∀ state, mode.Reaches state →
      (state.stack mode.initial).toList ≠ [] ∧
        (state.stack mode.initial).toList.length ≤ mode.maxDepth ∧
        (∀ id, id ∈ (state.stack mode.initial).toList →
          1 ≤ id ∧ id < mode.contexts.length) ∧
        state.contexts ≠ [mode.initial]) ∧
      ∀ one other, mode.Reaches one → mode.Reaches other →
        (one = other ↔
          (one.stack mode.initial).toList = (other.stack mode.initial).toList) := by
  have closed := Mode.isClosed_of_ofDefinitions accepted
  constructor
  · intro state reached
    have sound := reached.isSound closed
    refine ⟨?_, ?_, sound.declared, (reached.isCanonical closed).contexts_ne⟩
    · apply List.ne_nil_of_length_pos
      rw [ContextStack.length_toList]
      exact Nat.succ_pos _
    · rw [ContextStack.length_toList]
      exact sound.depth
  · intro one other oneReached otherReached
    exact (oneReached.isCanonical closed).eq_iff (otherReached.isCanonical closed)

/-- Three blocks in one another, where only two contexts fit on the stack. -/
theorem Mode.reaches_wellFormed_blockLanguage :
    ∃ mode, Mode.ofDefinitions blockLanguage [numberLanguage] 2 = .ok mode ∧
      ((mode.highlightLine .initial ['(', '(', '('] true).state.stack
        mode.initial).toList.length ≤ 2 := by
  obtain ⟨mode, accepted⟩ := blockLanguage_accepted 2
  obtain ⟨sound, _⟩ := Mode.reaches_wellFormed accepted
  obtain ⟨_, shallow, _⟩ := sound _ (.line .initial ['(', '(', '('] true .initial)
  obtain ⟨_, made⟩ := Mode.isMadeFrom_of_ofDefinitions accepted
  rw [made.depth] at shallow
  exact ⟨mode, accepted, shallow⟩

end SyntaxHighlight
