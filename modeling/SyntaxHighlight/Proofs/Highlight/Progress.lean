/-
The scan of a line as a loop, one try after another. A try takes characters or switches contexts at
its place; as switches are counted and few of them are borne in a row, the loop comes to the end
of every line, and it ends with what the scan of the line finds. It does not begin where the
switches that are borne are too many to be counted in 64 bits.
-/

import Mathlib.Data.Nat.Find
import Mathlib.Logic.Function.Iterate
import SyntaxHighlight.Proofs.Highlight.Turn
import SyntaxHighlight.Proofs.Mode.Closure
import SyntaxHighlight.Proofs.Text.Place

namespace SyntaxHighlight

open SyntaxHighlight.Text

/-! ### Tries -/

/-- A line in the middle of its scan. -/
structure Progress where
  place : Place
  /-- The switches since the last character was taken. -/
  switches : Nat
  scan : Scan
deriving DecidableEq, Repr

namespace Progress

/-- One try. At the end of the line there is nothing left to be tried. -/
def step (mode : Mode) (progress : Progress) : Progress :=
  let ⟨place, switches, scan⟩ := progress
  if place.after = [] then progress
  else if mode.patience < switches then
    ⟨place.forward 1, 0, scan.forceProgress (mode.context scan.stack.top) place.index⟩
  else
    match scan.turn mode place with
    | .again next => ⟨place, switches + 1, next⟩
    | .taken count next => ⟨place.forward count, 0, next⟩

section Step

variable {mode : Mode} {progress : Progress}

theorem step_ended (ended : progress.place.after = []) : progress.step mode = progress := by
  simp [step, ended]

theorem step_forced (inLine : progress.place.after ≠ []) (tried : mode.patience < progress.switches) :
    progress.step mode =
      ⟨progress.place.forward 1, 0,
        progress.scan.forceProgress (mode.context progress.scan.stack.top) progress.place.index⟩ := by
  simp [step, inLine, tried]

theorem step_again {next : Scan} (inLine : progress.place.after ≠ [])
    (patient : progress.switches ≤ mode.patience)
    (turned : progress.scan.turn mode progress.place = .again next) :
    progress.step mode = ⟨progress.place, progress.switches + 1, next⟩ := by
  simp [step, inLine, Nat.not_lt.mpr patient, turned]

theorem step_taken {count : Nat} {next : Scan} (inLine : progress.place.after ≠ [])
    (patient : progress.switches ≤ mode.patience)
    (turned : progress.scan.turn mode progress.place = .taken count next) :
    progress.step mode = ⟨progress.place.forward count, 0, next⟩ := by
  simp [step, inLine, Nat.not_lt.mpr patient, turned]

/-- A try switches and stays where it is, or it takes characters and begins to count anew. -/
theorem step_cases (mode : Mode) (inLine : progress.place.after ≠ []) :
    (∃ next, progress.switches ≤ mode.patience ∧
      progress.scan.turn mode progress.place = .again next ∧
      progress.step mode = ⟨progress.place, progress.switches + 1, next⟩) ∨
    ∃ count next, 0 < count ∧ count ≤ progress.place.after.length ∧
      progress.step mode = ⟨progress.place.forward count, 0, next⟩ := by
  by_cases tried : mode.patience < progress.switches
  · exact Or.inr ⟨1, _, Nat.one_pos, List.length_pos_iff.mpr inLine, step_forced inLine tried⟩
  · have patient := Nat.le_of_not_lt tried
    cases turned : progress.scan.turn mode progress.place with
    | again next => exact Or.inl ⟨next, patient, rfl, step_again inLine patient turned⟩
    | taken count next =>
        obtain ⟨moved, withinLine⟩ := Scan.turn_taken_bounds inLine turned
        exact Or.inr ⟨count, next, moved, withinLine, step_taken inLine patient turned⟩

theorem step_parts (mode : Mode) (progress : Progress) :
    (progress.step mode).place.before.reverse ++ (progress.step mode).place.after =
      progress.place.before.reverse ++ progress.place.after := by
  by_cases ended : progress.place.after = []
  · rw [step_ended ended]
  · rcases step_cases mode ended with ⟨next, _, _, stepped⟩ | ⟨count, next, _, _, stepped⟩
    · rw [stepped]
    · rw [stepped, Place.forward_parts]

theorem step_index_le (mode : Mode) (progress : Progress) :
    progress.place.index ≤ (progress.step mode).place.index := by
  by_cases ended : progress.place.after = []
  · exact Nat.le_of_eq (by rw [step_ended ended])
  · rcases step_cases mode ended with ⟨next, _, _, stepped⟩ | ⟨count, next, _, withinLine, stepped⟩
    · exact Nat.le_of_eq (by rw [stepped])
    · rw [stepped, Place.forward_index withinLine]
      exact Nat.le_add_right _ count

theorem step_switches_le (patient : progress.switches ≤ mode.patience + 1) :
    (progress.step mode).switches ≤ mode.patience + 1 := by
  by_cases ended : progress.place.after = []
  · rwa [step_ended ended]
  · rcases step_cases mode ended with ⟨next, below, _, stepped⟩ | ⟨count, next, _, _, stepped⟩
    · rw [stepped]
      exact Nat.succ_le_succ below
    · rw [stepped]
      exact Nat.zero_le _

/-- A try that leaves its place is no switch; one that stays is one more of them. -/
theorem step_switches (inLine : progress.place.after ≠ [])
    (same : (progress.step mode).place.index = progress.place.index) :
    (progress.step mode).switches = progress.switches + 1 := by
  rcases step_cases mode inLine with ⟨next, _, _, stepped⟩ | ⟨count, next, moved, withinLine, stepped⟩
  · rw [stepped]
  · rw [stepped, Place.forward_index withinLine] at same
    omega

end Step

/-! ### How many tries are left -/

/-- A bound on the tries that are left: characters weigh more than all switches at one place. -/
def triesLeft (mode : Mode) (progress : Progress) : Nat :=
  progress.place.after.length * (mode.patience + 2) - progress.switches

theorem triesLeft_step_lt {mode : Mode} {progress : Progress}
    (inLine : progress.place.after ≠ []) (patient : progress.switches ≤ mode.patience + 1) :
    (progress.step mode).triesLeft mode < progress.triesLeft mode := by
  have positive : 0 < progress.place.after.length := List.length_pos_iff.mpr inLine
  have weight : mode.patience + 2 ≤ progress.place.after.length * (mode.patience + 2) :=
    Nat.le_mul_of_pos_left _ positive
  unfold triesLeft
  rcases step_cases mode inLine with ⟨next, below, _, stepped⟩ | ⟨count, next, moved, _, stepped⟩
  · rw [stepped]
    dsimp only
    omega
  · rw [stepped]
    dsimp only
    rw [Place.forward_after, List.length_drop, Nat.sub_zero]
    have fewer : (progress.place.after.length - count) * (mode.patience + 2) ≤
        (progress.place.after.length - 1) * (mode.patience + 2) :=
      Nat.mul_le_mul_right _ (Nat.sub_le_sub_left moved _)
    rw [Nat.sub_mul _ 1, Nat.one_mul] at fewer
    omega

theorem iterate_ends {mode : Mode} {limit : Nat} {progress : Progress}
    (patient : progress.switches ≤ mode.patience + 1) (enough : progress.triesLeft mode ≤ limit) :
    ((step mode)^[limit] progress).place.after = [] := by
  induction limit generalizing progress with
  | zero =>
      by_cases ended : progress.place.after = []
      · exact ended
      · have less := triesLeft_step_lt ended patient
        omega
  | succ limit ih =>
      rw [Function.iterate_succ_apply]
      apply ih (step_switches_le patient)
      by_cases ended : progress.place.after = []
      · rw [step_ended ended, triesLeft, ended]
        simp
      · have less := triesLeft_step_lt ended patient
        omega

/-! ### What comes of the tries -/

/-- What the walk through the rest of the line finds. -/
def finish (mode : Mode) (progress : Progress) : Scan :=
  match progress.place.after with
  | [] => progress.scan
  | char :: rest =>
      let (taken, scan) :=
        progress.scan.settle mode progress.place (mode.patience + 1 - progress.switches)
      scan.walk mode (char :: progress.place.before) (taken - 1) rest

theorem walk_eq_finish (mode : Mode) (place : Place) (scan : Scan) :
    scan.walk mode place.before 0 place.after = finish mode ⟨place, 0, scan⟩ := by
  obtain ⟨before, after⟩ := place
  cases after <;> rfl

/-- Characters that are taken already are passed over. -/
theorem walk_taken (mode : Mode) (scan : Scan) {taken : Nat} (place : Place)
    (withinLine : taken ≤ place.after.length) :
    scan.walk mode place.before taken place.after = finish mode ⟨place.forward taken, 0, scan⟩ := by
  induction taken generalizing place with
  | zero => exact walk_eq_finish mode place scan
  | succ taken ih =>
      obtain ⟨before, after⟩ := place
      cases after with
      | nil => simp at withinLine
      | cons char rest =>
          rw [Scan.walk]
          exact ih ⟨char :: before, rest⟩ (Nat.le_of_succ_le_succ withinLine)

/-- A try changes nothing about what is found in the end. -/
theorem finish_step (mode : Mode) (progress : Progress) :
    (progress.step mode).finish mode = progress.finish mode := by
  obtain ⟨⟨before, after⟩, switches, scan⟩ := progress
  cases after with
  | nil => rfl
  | cons char rest =>
      have inLine : (char :: rest) ≠ [] := List.cons_ne_nil char rest
      by_cases tried : mode.patience < switches
      · have none : mode.patience + 1 - switches = 0 := by omega
        rw [step_forced inLine tried, ← walk_eq_finish]
        simp only [finish, none, Scan.settle]
        rfl
      · have patient := Nat.le_of_not_lt tried
        have some : mode.patience + 1 - switches = mode.patience - switches + 1 := by omega
        cases turned : scan.turn mode ⟨before, char :: rest⟩ with
        | again next =>
            rw [step_again inLine patient turned]
            simp only [finish, some, Scan.settle, turned, Nat.add_sub_add_right]
        | taken count next =>
            obtain ⟨moved, withinLine⟩ := Scan.turn_taken_bounds inLine turned
            obtain ⟨count, rfl⟩ := Nat.exists_eq_succ_of_ne_zero (Nat.ne_of_gt moved)
            rw [step_taken inLine patient turned]
            simp only [finish, some, Scan.settle, turned]
            exact (walk_taken mode next ⟨char :: before, rest⟩
              (Nat.le_of_succ_le_succ withinLine)).symm

theorem finish_iterate (mode : Mode) (count : Nat) (progress : Progress) :
    ((step mode)^[count] progress).finish mode = progress.finish mode := by
  induction count generalizing progress with
  | zero => rfl
  | succ count ih => rw [Function.iterate_succ_apply, ih, finish_step]

end Progress

/-! ### The loop over a line -/

namespace Mode

variable (mode : Mode) (state : LineState) (line : List Char)

/-- What is known when all the text of a line has been gone through. -/
def scanText : Scan :=
  (({ stack := state.stack mode.initial } : Scan).record mode 0).walk mode [] 0 line

theorem scan_eq (hasNext : Bool) :
    mode.scan state line hasNext =
      if (mode.scanText state line).continued && hasNext then mode.scanText state line
      else (mode.scanText state line).endLine mode line.isEmpty line.length
        (mode.maxDepth + mode.contexts.length + 1) := rfl

/-- How far the scan of a line has come after so many tries. -/
def progress (tries : Nat) : Progress :=
  (Progress.step mode)^[tries]
    ⟨.start line, 0, ({ stack := state.stack mode.initial } : Scan).record mode 0⟩

/-- How far the scan has come, if the switches that are borne can be counted. -/
def progress? (tries : Nat) : Option Progress :=
  if mode.patience < wordRange 64 then some (mode.progress state line tries) else none

theorem patience_eq : mode.patience = 2 * mode.maxDepth + mode.contexts.length := by
  rw [patience, Nat.mul_comm]

theorem progress?_eq_none_iff (tries : Nat) : mode.progress? state line tries = none ↔
    wordRange 64 ≤ 2 * mode.maxDepth + mode.contexts.length := by
  rw [progress?, patience_eq, ite_eq_right_iff, ← Nat.not_lt]
  exact forall_congr' fun _ => iff_false_intro nofun

theorem progress_add (tries more : Nat) :
    mode.progress state line (tries + more) =
      (Progress.step mode)^[more] (mode.progress state line tries) := by
  rw [progress, Nat.add_comm, Function.iterate_add_apply, progress]

theorem progress_succ (tries : Nat) :
    mode.progress state line (tries + 1) = (mode.progress state line tries).step mode :=
  mode.progress_add state line tries 1

theorem progress_parts (tries : Nat) :
    (mode.progress state line tries).place.before.reverse ++
      (mode.progress state line tries).place.after = line := by
  induction tries with
  | zero => rfl
  | succ tries ih => rw [progress_succ, Progress.step_parts, ih]

theorem progress_patient (tries : Nat) :
    (mode.progress state line tries).switches ≤ mode.patience + 1 := by
  induction tries with
  | zero => exact Nat.zero_le _
  | succ tries ih =>
      rw [progress_succ]
      exact Progress.step_switches_le ih

theorem progress_index_le (tries more : Nat) :
    (mode.progress state line tries).place.index ≤
      (mode.progress state line (tries + more)).place.index := by
  induction more with
  | zero => exact Nat.le_refl _
  | succ more ih =>
      rw [← Nat.add_assoc, progress_succ]
      exact Nat.le_trans ih (Progress.step_index_le mode _)

theorem progress_finish (tries : Nat) :
    (mode.progress state line tries).finish mode = mode.scanText state line := by
  rw [progress, Progress.finish_iterate, ← Progress.walk_eq_finish]
  rfl

variable {mode state line}

theorem progress?_eq_some_iff {tries : Nat} {progress : Progress} :
    mode.progress? state line tries = some progress ↔
      mode.patience < wordRange 64 ∧ mode.progress state line tries = progress := by
  rw [progress?]
  split
  case isTrue counted => rw [Option.some.injEq, and_iff_right counted]
  case isFalse uncounted => exact iff_of_false nofun fun both => uncounted both.1

theorem progress_inLine_iff (tries : Nat) :
    (mode.progress state line tries).place.after ≠ [] ↔
      (mode.progress state line tries).place.index < line.length := by
  have parts := congrArg List.length (mode.progress_parts state line tries)
  rw [List.length_append, List.length_reverse] at parts
  rw [← List.length_pos_iff, Place.index]
  omega

theorem progress_ended {tries : Nat} (ended : (mode.progress state line tries).place.after = []) :
    (mode.progress state line tries).place = ⟨line.reverse, []⟩ := by
  have parts := mode.progress_parts state line tries
  generalize (mode.progress state line tries).place = place at ended parts ⊢
  obtain ⟨before, after⟩ := place
  subst ended
  rw [List.append_nil] at parts
  rw [← parts, List.reverse_reverse]

/-- Where the column is the same again, the tries in between have all been switches. -/
theorem progress_switches {tries more : Nat}
    (inLine : (mode.progress state line tries).place.after ≠ [])
    (same : (mode.progress state line (tries + more)).place.index =
      (mode.progress state line tries).place.index) :
    (mode.progress state line (tries + more)).switches =
      (mode.progress state line tries).switches + more := by
  induction more with
  | zero => rfl
  | succ more ih =>
      have past := mode.progress_index_le state line tries more
      have ahead := mode.progress_index_le state line (tries + more) 1
      rw [Nat.add_assoc, same] at ahead
      have unmoved := Nat.le_antisymm ahead past
      have stillInLine : (mode.progress state line (tries + more)).place.after ≠ [] := by
        rw [progress_inLine_iff, unmoved, ← progress_inLine_iff]
        exact inLine
      rw [← Nat.add_assoc, progress_succ] at same ⊢
      rw [Progress.step_switches stillInLine (same.trans unmoved.symm), ih unmoved]
      omega

theorem canHighlight_iff (shown : mode.isPlain = false) : mode.canHighlight = true ↔
    2 * mode.maxDepth + mode.contexts.length < wordRange 64 := by
  rw [canHighlight, shown, Bool.false_or, decide_eq_true_eq, patience_eq]

theorem highlightLine?_eq_none_iff (shown : mode.isPlain = false) (hasNext : Bool) :
    mode.highlightLine? state line hasNext = none ↔
      wordRange 64 ≤ 2 * mode.maxDepth + mode.contexts.length := by
  rw [← Nat.not_lt, ← canHighlight_iff shown, highlightLine?]
  split
  case isTrue able => exact iff_of_false nofun fun unable => unable able
  case isFalse unable => exact iff_of_true rfl unable

theorem highlightLine?_eq_some_iff {hasNext : Bool} {highlight : LineHighlight} :
    mode.highlightLine? state line hasNext = some highlight ↔
      mode.canHighlight = true ∧ mode.highlightLine state line hasNext = highlight := by
  rw [highlightLine?]
  split
  case isTrue able => rw [Option.some.injEq, and_iff_right able]
  case isFalse unable => exact iff_of_false nofun fun both => unable both.1

/-- Where the loop over a line begins it is done after a bounded number of tries, at the end of the
line and with what the scan of its text finds, and never are there more than so many tries in a row
that leave it at its place. It does not begin if and only if that many cannot be counted, and then
the line has no highlight. -/
theorem progress_terminates (mode : Mode) (state : LineState) (line : List Char) :
    (2 * mode.maxDepth + mode.contexts.length < wordRange 64 →
      (∃ count ≤ line.length * (2 * mode.maxDepth + mode.contexts.length + 2), ∃ last,
        mode.progress? state line count = some last ∧ last.place = ⟨line.reverse, []⟩ ∧
          last.place.index = line.length ∧ last.scan = mode.scanText state line ∧
          ∀ tries < count, ∃ progress, mode.progress? state line tries = some progress ∧
            progress.place.index < line.length) ∧
      ∀ tries more earlier later, mode.progress? state line tries = some earlier →
        mode.progress? state line (tries + more) = some later →
          earlier.place.index < line.length → later.place.index = earlier.place.index →
            more ≤ 2 * mode.maxDepth + mode.contexts.length + 1) ∧
      (∀ tries, mode.progress? state line tries = none ↔
        wordRange 64 ≤ 2 * mode.maxDepth + mode.contexts.length) ∧
      (mode.isPlain = false → ∀ hasNext, mode.highlightLine? state line hasNext = none ↔
        wordRange 64 ≤ 2 * mode.maxDepth + mode.contexts.length) := by
  refine ⟨?_, mode.progress?_eq_none_iff state line, highlightLine?_eq_none_iff⟩
  rw [← mode.patience_eq]
  intro counted
  have begun (tries : Nat) : mode.progress? state line tries =
      some (mode.progress state line tries) := if_pos counted
  constructor
  · have bounded : (mode.progress state line
        (line.length * (mode.patience + 2))).place.after = [] :=
      Progress.iterate_ends (Nat.zero_le _) (Nat.le_refl _)
    have ends : ∃ tries, (mode.progress state line tries).place.after = [] := ⟨_, bounded⟩
    have ended := Nat.find_spec ends
    have place := progress_ended ended
    refine ⟨Nat.find ends, Nat.find_min' ends bounded, _, begun _, place, ?_, ?_, ?_⟩
    · rw [place, Place.index, List.length_reverse]
    · rw [← mode.progress_finish state line (Nat.find ends)]
      simp only [Progress.finish, ended]
    · intro tries early
      exact ⟨_, begun tries, (progress_inLine_iff tries).mp (Nat.find_min ends early)⟩
  · intro tries more earlier later earlierFound laterFound inLine same
    obtain ⟨_, rfl⟩ := progress?_eq_some_iff.mp earlierFound
    obtain ⟨_, rfl⟩ := progress?_eq_some_iff.mp laterFound
    have switches := progress_switches ((progress_inLine_iff tries).mpr inLine) same
    have patient := mode.progress_patient state line (tries + more)
    omega

/-- With the largest number of 64 bits for the depth no line is ever gone through. -/
theorem progress?_eq_none_blockLanguage :
    ∃ mode, Mode.ofDefinitions blockLanguage [numberLanguage] 18446744073709551615 = .ok mode ∧
      ∀ state line, (∀ tries, mode.progress? state line tries = none) ∧
        ∀ hasNext, mode.highlightLine? state line hasNext = none := by
  obtain ⟨mode, accepted⟩ := blockLanguage_accepted 18446744073709551615
  obtain ⟨drafts, made⟩ := isMadeFrom_of_ofDefinitions accepted
  have tooLarge : wordRange 64 ≤ 2 * mode.maxDepth + mode.contexts.length := by
    rw [made.depth, wordRange]
    omega
  refine ⟨mode, accepted, fun state line => ⟨fun tries => ?_, fun hasNext => ?_⟩⟩
  · exact (mode.progress?_eq_none_iff state line tries).mpr tooLarge
  · exact (highlightLine?_eq_none_iff made.notPlain hasNext).mpr tooLarge

end Mode

end SyntaxHighlight
