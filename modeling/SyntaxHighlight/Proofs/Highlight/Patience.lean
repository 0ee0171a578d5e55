/-
Switches in a row at one place. A mode bears so many of them: a chain within its patience is
followed to its end, where a context takes characters; a longer one, whether it ends or not, is cut
off, and then a single character is taken by force.
-/

import SyntaxHighlight.Proofs.Highlight.LineEnd

namespace SyntaxHighlight

open SyntaxHighlight.Text

/-- What is known behind a try that takes nothing. -/
def Turn.again? : Turn → Option Scan
  | .again next => some next
  | .taken _ _ => none

/-- What is known after so many switches in a row at a place, if there are so many before a
character is taken. -/
def Scan.switched? (scan : Scan) (mode : Mode) (place : Place) : (count : Nat) → Option Scan
  | 0 => some scan
  | count + 1 => (scan.switched? mode place count).bind fun last => (last.turn mode place).again?

/-- The next try takes a character by force. -/
structure Progress.IsForced (mode : Mode) (progress : Progress) : Prop where
  inLine : progress.place.after ≠ []
  tried : mode.patience < progress.switches

theorem Turn.again?_eq_some {turn : Turn} {next : Scan} :
    turn.again? = some next ↔ turn = .again next := by
  cases turn <;> simp [again?]

theorem Turn.again?_eq_none {turn : Turn} :
    turn.again? = none ↔ ∃ count next, turn = .taken count next := by
  cases turn <;> simp [again?]

namespace Mode

section Arrival

variable {mode : Mode} {state : LineState} {line : List Char} {tries : Nat} {place : Place}
  {scan : Scan} (inLine : place.after ≠ [])
  (arrived : mode.progress state line tries = ⟨place, 0, scan⟩)

include inLine arrived

/-- A chain of switches is followed as far as patience goes. -/
theorem progress_of_switched {count : Nat} {last : Scan}
    (chained : scan.switched? mode place count = some last) (patient : count ≤ mode.patience + 1) :
    mode.progress state line (tries + count) = ⟨place, count, last⟩ := by
  induction count generalizing last with
  | zero =>
      cases chained
      exact arrived
  | succ count ih =>
      obtain ⟨middle, before, switches⟩ := Option.bind_eq_some_iff.mp chained
      have reached := ih before (Nat.le_of_succ_le patient)
      rw [← Nat.add_assoc, progress_succ, reached]
      exact Progress.step_again inLine (Nat.le_of_succ_le_succ patient)
        (Turn.again?_eq_some.mp switches)

/-- As long as the column is the same there has been nothing but switches. -/
theorem switched_of_progress {more : Nat}
    (same : (mode.progress state line (tries + more)).place.index = place.index) :
    ∃ last, scan.switched? mode place more = some last ∧
      mode.progress state line (tries + more) = ⟨place, more, last⟩ := by
  induction more with
  | zero => exact ⟨scan, rfl, arrived⟩
  | succ more ih =>
      have past := mode.progress_index_le state line tries more
      have ahead := mode.progress_index_le state line (tries + more) 1
      rw [arrived] at past
      rw [Nat.add_assoc, same] at ahead
      obtain ⟨middle, before, reached⟩ := ih (Nat.le_antisymm ahead past)
      rw [← Nat.add_assoc, progress_succ, reached] at same ⊢
      have here : (⟨place, more, middle⟩ : Progress).place.after ≠ [] := inLine
      rcases Progress.step_cases mode here with
        ⟨next, _, turned, stepped⟩ | ⟨count, next, moved, withinLine, stepped⟩
      · refine ⟨next, ?_, stepped⟩
        rw [Scan.switched?, before]
        exact Turn.again?_eq_some.mpr turned
      · rw [stepped, Place.forward_index withinLine] at same
        dsimp only at same
        omega

theorem progress_of_taken {count taken : Nat} {last next : Scan}
    (chained : scan.switched? mode place count = some last)
    (ended : last.turn mode place = .taken taken next) (patient : count ≤ mode.patience) :
    mode.progress state line (tries + count + 1) = ⟨place.forward taken, 0, next⟩ := by
  rw [progress_succ, progress_of_switched inLine arrived chained (Nat.le_succ_of_le patient)]
  exact Progress.step_taken inLine patient ended

theorem isForced_iff :
    (∃ more, (mode.progress state line (tries + more)).place = place ∧
        (mode.progress state line (tries + more)).IsForced mode) ↔
      ∃ last, scan.switched? mode place (mode.patience + 1) = some last := by
  constructor
  · rintro ⟨more, same, forced⟩
    obtain ⟨last, chained, reached⟩ := switched_of_progress inLine arrived (congrArg Place.index same)
    have patient := mode.progress_patient state line (tries + more)
    have tried := forced.tried
    rw [reached] at patient tried
    have count : more = mode.patience + 1 := Nat.le_antisymm patient tried
    exact ⟨last, count ▸ chained⟩
  · rintro ⟨last, chained⟩
    have reached := progress_of_switched inLine arrived chained (Nat.le_refl _)
    refine ⟨mode.patience + 1, by rw [reached], ?_⟩
    rw [reached]
    exact ⟨inLine, Nat.lt_succ_self _⟩

end Arrival

/-- Where the scan of a line comes to a character, a chain of switches that ends and is not too
long is gone through, and the context behind it takes what follows. A character is taken by force
there if and only if more switches follow one another, and then in the context behind so many. The
scan comes nowhere if and only if that many switches cannot be counted. -/
theorem progress_followsSwitches (mode : Mode) (state : LineState) (line : List Char) :
    (∀ tries, mode.progress? state line tries = none ↔
      wordRange 64 ≤ 2 * mode.maxDepth + mode.contexts.length) ∧
    ∀ tries place scan, place.after ≠ [] →
      mode.progress? state line tries = some ⟨place, 0, scan⟩ →
      (∀ count last taken next, scan.switched? mode place count = some last →
          last.turn mode place = .taken taken next →
          count ≤ 2 * mode.maxDepth + mode.contexts.length →
            mode.progress? state line (tries + count) = some ⟨place, count, last⟩ ∧
              mode.progress? state line (tries + count + 1) =
                some ⟨place.forward taken, 0, next⟩) ∧
        ((∃ more forced, mode.progress? state line (tries + more) = some forced ∧
            forced.place = place ∧ forced.IsForced mode) ↔
          ∃ last, scan.switched? mode place (2 * mode.maxDepth + mode.contexts.length + 1) =
            some last) ∧
        ∀ last, scan.switched? mode place (2 * mode.maxDepth + mode.contexts.length + 1) =
            some last →
          mode.progress? state line (tries + (2 * mode.maxDepth + mode.contexts.length + 1) + 1) =
            some ⟨place.forward 1, 0,
              last.forceProgress (mode.context last.stack.top) place.index⟩ := by
  refine ⟨mode.progress?_eq_none_iff state line, ?_⟩
  rw [← mode.patience_eq]
  intro tries place scan inLine found
  obtain ⟨counted, arrived⟩ := progress?_eq_some_iff.mp found
  have begun (tries : Nat) : mode.progress? state line tries =
      some (mode.progress state line tries) := if_pos counted
  refine ⟨?_, ?_, ?_⟩
  · intro count last taken next chained ended patient
    rw [begun, begun, progress_of_taken inLine arrived chained ended patient,
      progress_of_switched inLine arrived chained (Nat.le_succ_of_le patient)]
    exact ⟨rfl, rfl⟩
  · rw [← isForced_iff inLine arrived]
    refine exists_congr fun more => ?_
    rw [begun]
    simp
  · intro last chained
    rw [begun, progress_succ, progress_of_switched inLine arrived chained (Nat.le_refl _)]
    exact congrArg some (Progress.step_forced inLine (Nat.lt_succ_self _))

/-- Behind so many parentheses, at the letter. -/
def letterBehind (parentheses : Nat) : Place := ⟨List.replicate parentheses '(', ['x']⟩

/-- With room for eight contexts seven parentheses are left by as many switches as are borne. -/
theorem progress_followsSwitches_unwindLanguage :
    ∃ mode scan last taken next, Mode.ofDefinitions unwindLanguage [] 8 = .ok mode ∧
      mode.progress? .initial (List.replicate 7 '(' ++ ['x']) 7 =
        some ⟨letterBehind 7, 0, scan⟩ ∧
      scan.switched? mode (letterBehind 7) 21 = some last ∧
      last.turn mode (letterBehind 7) = .taken taken next ∧
      mode.progress? .initial (List.replicate 7 '(' ++ ['x']) 29 =
        some ⟨(letterBehind 7).forward taken, 0, next⟩ := by
  have evaluated : (Mode.ofDefinitions unwindLanguage [] 8).toOption.any (fun mode =>
      decide (2 * mode.maxDepth + mode.contexts.length = 21) &&
        decide ((mode.progress .initial (List.replicate 7 '(' ++ ['x']) 7).place =
          letterBehind 7) &&
        decide ((mode.progress .initial (List.replicate 7 '(' ++ ['x']) 7).switches = 0) &&
        ((mode.progress .initial (List.replicate 7 '(' ++ ['x']) 7).scan.switched? mode
          (letterBehind 7) 21).any fun last =>
            decide ((last.turn mode (letterBehind 7)).again? = none)) = true := by
    cbv
  obtain ⟨mode, accepted, facts⟩ := (Option.any_eq_true _ _).mp evaluated
  simp only [Bool.and_eq_true, decide_eq_true_eq, Option.any_eq_true] at facts
  obtain ⟨⟨⟨limit, place⟩, switches⟩, last, chained, ended⟩ := facts
  obtain ⟨taken, next, turned⟩ := Turn.again?_eq_none.mp ended
  have arrived : mode.progress? .initial (List.replicate 7 '(' ++ ['x']) 7 = some
      ⟨letterBehind 7, 0, (mode.progress .initial (List.replicate 7 '(' ++ ['x']) 7).scan⟩ := by
    rw [progress?_eq_some_iff, mode.patience_eq, limit, ← place, ← switches]
    exact ⟨by decide, rfl⟩
  obtain ⟨_, reached⟩ := mode.progress_followsSwitches .initial (List.replicate 7 '(' ++ ['x'])
  obtain ⟨follows, _, _⟩ := reached 7 (letterBehind 7) _ (List.cons_ne_nil 'x' []) arrived
  exact ⟨mode, _, last, taken, next, Mode.ofDefinitions_of_toOption accepted, arrived, chained,
    turned, (follows 21 last taken next chained turned (Nat.le_of_eq limit.symm)).2⟩

/-- With room for ten contexts nine parentheses take twenty-seven switches, and the letter is taken
by force behind twenty-six of them. -/
theorem progress_cutsOff_unwindLanguage :
    ∃ mode scan last taken next, Mode.ofDefinitions unwindLanguage [] 10 = .ok mode ∧
      mode.Reaches .initial ∧
      mode.progress? .initial (List.replicate 9 '(' ++ ['x']) 9 =
        some ⟨letterBehind 9, 0, scan⟩ ∧
      scan.switched? mode (letterBehind 9) 27 = some last ∧
      last.turn mode (letterBehind 9) = .taken taken next ∧
      (∃ forced, mode.progress? .initial (List.replicate 9 '(' ++ ['x']) 35 = some forced ∧
        forced.IsForced mode) ∧
      ∀ tries, mode.progress? .initial (List.replicate 9 '(' ++ ['x']) tries ≠
        some ⟨letterBehind 9, 27, last⟩ := by
  have evaluated : (Mode.ofDefinitions unwindLanguage [] 10).toOption.any (fun mode =>
      decide (mode.patience = 25) &&
        decide ((mode.progress .initial (List.replicate 9 '(' ++ ['x']) 9).place =
          letterBehind 9) &&
        decide ((mode.progress .initial (List.replicate 9 '(' ++ ['x']) 9).switches = 0) &&
        decide ((mode.progress .initial (List.replicate 9 '(' ++ ['x']) 35).place =
          letterBehind 9) &&
        decide ((mode.progress .initial (List.replicate 9 '(' ++ ['x']) 35).switches = 26) &&
        ((mode.progress .initial (List.replicate 9 '(' ++ ['x']) 9).scan.switched? mode
          (letterBehind 9) 27).any fun last =>
            decide ((last.turn mode (letterBehind 9)).again? = none)) = true := by
    cbv
  obtain ⟨mode, accepted, facts⟩ := (Option.any_eq_true _ _).mp evaluated
  simp only [Bool.and_eq_true, decide_eq_true_eq, Option.any_eq_true] at facts
  obtain ⟨⟨⟨⟨⟨patience, place⟩, switches⟩, later⟩, tried⟩, last, chained, ended⟩ := facts
  obtain ⟨taken, next, turned⟩ := Turn.again?_eq_none.mp ended
  have begun (tries : Nat) : mode.progress? .initial (List.replicate 9 '(' ++ ['x']) tries =
      some (mode.progress .initial (List.replicate 9 '(' ++ ['x']) tries) := by
    rw [progress?_eq_some_iff, patience]
    exact ⟨by decide, rfl⟩
  refine ⟨mode, _, last, taken, next, Mode.ofDefinitions_of_toOption accepted, .initial, ?_,
    chained, turned, ⟨_, begun 35, ?_, ?_⟩, ?_⟩
  · rw [begun, ← place, ← switches]
  · rw [later]
    exact List.cons_ne_nil 'x' []
  · rw [tried, patience]
    decide
  · intro tries reached
    have patient := mode.progress_patient .initial (List.replicate 9 '(' ++ ['x']) tries
    rw [begun, Option.some.injEq] at reached
    rw [reached, patience] at patient
    exact absurd patient (Nat.not_succ_le_self 26)

end Mode

end SyntaxHighlight
