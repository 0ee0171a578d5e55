/-
Included rules. Contexts include one another, and that they do so in a cycle is the only thing that
keeps included rules from being put in place. Otherwise the rules of a context are its own ones and
all rules of the contexts that it includes, entry by entry; in which order contexts are taken, and
whether rules that are in place are kept for later, makes no difference.
-/

import Mathlib
import SyntaxHighlight.Proofs.Mode.Closure
import SyntaxHighlight.Proofs.Text.Dictionary

namespace SyntaxHighlight

open Relation

/-! ### What contexts include -/

/-- The entries of a context; none for a number that is out of range. -/
def entriesOf (entries : List (List RuleEntry)) (id : Nat) : List RuleEntry := (entries[id]?).getD []

def Includes (entries : List (List RuleEntry)) (context other : Nat) : Prop :=
  .included other ∈ entriesOf entries context

def IsOnCycle (entries : List (List RuleEntry)) (context : Nat) : Prop :=
  TransGen (Includes entries) context context

/-- Rules that stand for entries, each included context being replaced by its own rules. -/
inductive Expands (entries : List (List RuleEntry)) : List RuleEntry → List Rule → Prop
  | done : Expands entries [] []
  | rule (rule : Rule) (rest : List RuleEntry) (rules : List Rule)
      (behind : Expands entries rest rules) :
      Expands entries (.rule rule :: rest) (rule :: rules)
  | included (id : Nat) (rest : List RuleEntry) (inner rules : List Rule)
      (within : Expands entries (entriesOf entries id) inner)
      (behind : Expands entries rest rules) :
      Expands entries (.included id :: rest) (inner ++ rules)

/-- The rules of one entry, given those of all contexts. -/
def RuleEntry.inPlace (rulesOf : Nat → List Rule) : RuleEntry → List Rule
  | .rule own => [own]
  | .included id => rulesOf id

section Graph

variable {entries : List (List RuleEntry)} {own : List RuleEntry} {rules : List Rule} {id : Nat}

theorem lt_of_includes {other : Nat} (includes : Includes entries id other) :
    id < entries.length := by
  by_contra beyond
  rw [Includes, entriesOf, List.getElem?_eq_none (Nat.le_of_not_lt beyond)] at includes
  cases includes

theorem Expands.unique {others : List Rule} (one : Expands entries own rules)
    (other : Expands entries own others) : rules = others := by
  induction one generalizing others with
  | done =>
      cases other
      rfl
  | rule rule rest rules behind ih =>
      cases other with
      | rule _ _ later otherBehind => rw [ih otherBehind]
  | included id rest inner rules within behind ihWithin ihBehind =>
      cases other with
      | included _ _ otherInner later otherWithin otherBehind =>
          rw [ihWithin otherWithin, ihBehind otherBehind]

/-- Entries that have an expansion include no context for ever. -/
theorem Expands.acc (expands : Expands entries own rules) :
    ∀ other, .included other ∈ own → Acc (flip (Includes entries)) other := by
  induction expands with
  | done => simp
  | rule rule rest rules behind ih => simpa using ih
  | included id rest inner rules within behind ihWithin ihBehind =>
      intro other member
      rcases List.mem_cons.mp member with same | later
      · cases same
        exact Acc.intro _ ihWithin
      · exact ihBehind other later

theorem not_isOnCycle_of_acc (founded : Acc (flip (Includes entries)) id) :
    ¬IsOnCycle entries id := by
  induction founded with
  | intro id _ ih =>
      intro cycle
      obtain ⟨next, includes, back⟩ := TransGen.head'_iff.mp cycle
      exact ih next includes (TransGen.tail' back includes)

theorem Expands.not_isOnCycle (expands : Expands entries (entriesOf entries id) rules)
    {context : Nat} (reached : ReflTransGen (Includes entries) id context) :
    ¬IsOnCycle entries context := by
  have founded : Acc (flip (Includes entries)) context := by
    induction reached with
    | refl => exact Acc.intro id expands.acc
    | tail _ includes ih => exact ih.inv includes
  exact not_isOnCycle_of_acc founded

theorem Expands.eq_flatMap {rulesOf : Nat → List Rule}
    (expanded : ∀ id, Expands entries (entriesOf entries id) (rulesOf id))
    (expands : Expands entries own rules) : rules = own.flatMap (RuleEntry.inPlace rulesOf) := by
  induction expands with
  | done => rfl
  | rule rule rest rules behind ih => simp [RuleEntry.inPlace, ← ih]
  | included id rest inner rules within behind ihWithin ihBehind =>
      simp [RuleEntry.inPlace, ← ihBehind, within.unique (expanded id)]

/-! ### On the way through the contexts -/

/-- The contexts on the way to one: distinct ones, as many as the fuel that is used up, of which
each leads to the next. -/
structure IsOnWay (entries : List (List RuleEntry)) (fuel : Nat) (visiting : List Nat)
    (id : Nat) : Prop where
  enough : entries.length + 1 ≤ fuel + visiting.length
  distinct : visiting.Nodup
  inRange : ∀ other ∈ visiting, other < entries.length
  leads : ∀ other ∈ visiting, TransGen (Includes entries) other id

theorem IsOnWay.start (id : Nat) : IsOnWay entries (entries.length + 1) [] id := by
  constructor <;> simp

theorem IsOnWay.fuel_pos {visiting : List Nat} (way : IsOnWay entries 0 visiting id) : False := by
  have inRange : visiting ⊆ List.range entries.length :=
    fun other member => List.mem_range.mpr (way.inRange other member)
  -- There would be more contexts on the way than there are at all.
  have few := (List.subperm_of_subset way.distinct inRange).length_le
  have enough := way.enough
  rw [List.length_range] at few
  omega

theorem IsOnWay.next {fuel : Nat} {visiting : List Nat} {other : Nat}
    (way : IsOnWay entries (fuel + 1) visiting id) (new : id ∉ visiting)
    (includes : Includes entries id other) : IsOnWay entries fuel (id :: visiting) other where
  enough := by
    have enough := way.enough
    rw [List.length_cons]
    omega
  distinct := List.nodup_cons.mpr ⟨new, way.distinct⟩
  inRange := List.forall_mem_cons.mpr ⟨lt_of_includes includes, way.inRange⟩
  leads := List.forall_mem_cons.mpr
    ⟨.single includes, fun earlier member => (way.leads earlier member).tail includes⟩

end Graph

/-! ### Rules in place -/

section Flatten

variable {names : List ContextName} {entries : List (List RuleEntry)} {fuel : Nat}
  {visiting : List Nat} {own : List RuleEntry}

theorem flattenEntries_rule_eq_ok {rule : Rule} {rest : List RuleEntry} {rules : List Rule} :
    flattenEntries names entries fuel visiting (.rule rule :: rest) = .ok rules ↔
      ∃ behind, flattenEntries names entries fuel visiting rest = .ok behind ∧
        rules = rule :: behind := by
  rw [flattenEntries, bind_eq_ok]
  simp [pure, Except.pure, eq_comm]

theorem flattenEntries_included_eq_ok {id : Nat} {rest : List RuleEntry} {rules : List Rule} :
    flattenEntries names entries fuel visiting (.included id :: rest) = .ok rules ↔
      ∃ inner behind, flattenRules names entries fuel visiting id = .ok inner ∧
        flattenEntries names entries fuel visiting rest = .ok behind ∧
        rules = inner ++ behind := by
  rw [flattenEntries]
  simp only [bind_eq_ok, pure, Except.pure, Except.ok.injEq]
  simp only [eq_comm, exists_and_left]

theorem flattenEntries_rule_eq_error {rule : Rule} {rest : List RuleEntry}
    {error : HighlightError} :
    flattenEntries names entries fuel visiting (.rule rule :: rest) = .error error ↔
      flattenEntries names entries fuel visiting rest = .error error := by
  rw [flattenEntries, bind_eq_error]
  simp [pure, Except.pure]

theorem flattenEntries_included_eq_error {id : Nat} {rest : List RuleEntry}
    {error : HighlightError} :
    flattenEntries names entries fuel visiting (.included id :: rest) = .error error ↔
      flattenRules names entries fuel visiting id = .error error ∨
        ∃ inner, flattenRules names entries fuel visiting id = .ok inner ∧
          flattenEntries names entries fuel visiting rest = .error error := by
  rw [flattenEntries]
  simp [bind_eq_error, pure, Except.pure]

theorem flattenEntries_expands {rules : List Rule}
    (included : ∀ id inner, flattenRules names entries fuel visiting id = .ok inner →
      Expands entries (entriesOf entries id) inner)
    (accepted : flattenEntries names entries fuel visiting own = .ok rules) :
    Expands entries own rules := by
  induction own generalizing rules with
  | nil =>
      rw [flattenEntries] at accepted
      cases accepted
      exact .done
  | cons entry rest ih =>
      cases entry with
      | rule rule =>
          obtain ⟨behind, behindAccepted, rfl⟩ := flattenEntries_rule_eq_ok.mp accepted
          exact .rule rule rest behind (ih behindAccepted)
      | included id =>
          obtain ⟨inner, behind, innerAccepted, behindAccepted, rfl⟩ :=
            flattenEntries_included_eq_ok.mp accepted
          exact .included id rest inner behind (included id inner innerAccepted)
            (ih behindAccepted)

theorem flattenRules_expands {id : Nat} {rules : List Rule}
    (accepted : flattenRules names entries fuel visiting id = .ok rules) :
    Expands entries (entriesOf entries id) rules := by
  induction fuel generalizing visiting id rules with
  | zero =>
      rw [flattenRules] at accepted
      cases accepted
  | succ fuel ih =>
      rw [flattenRules] at accepted
      split at accepted
      · cases accepted
      · exact flattenEntries_expands (fun other inner => ih) accepted

theorem flattenEntries_error {error : HighlightError}
    (refused : flattenEntries names entries fuel visiting own = .error error) :
    ∃ id, .included id ∈ own ∧ flattenRules names entries fuel visiting id = .error error := by
  induction own with
  | nil =>
      rw [flattenEntries] at refused
      cases refused
  | cons entry rest ih =>
      have behind (later : flattenEntries names entries fuel visiting rest = .error error) :
          ∃ id, .included id ∈ entry :: rest ∧
            flattenRules names entries fuel visiting id = .error error := by
        obtain ⟨id, member, failed⟩ := ih later
        exact ⟨id, List.mem_cons_of_mem entry member, failed⟩
      cases entry with
      | rule rule => exact behind (flattenEntries_rule_eq_error.mp refused)
      | included id =>
          rcases flattenEntries_included_eq_error.mp refused with failed | ⟨inner, _, later⟩
          · exact ⟨id, List.mem_cons_self, failed⟩
          · exact behind later

/-- Rules cannot be put in place only for a cycle to which the includes lead. -/
theorem flattenRules_error {id : Nat} {error : HighlightError}
    (way : IsOnWay entries fuel visiting id)
    (refused : flattenRules names entries fuel visiting id = .error error) :
    ∃ context, ReflTransGen (Includes entries) id context ∧ IsOnCycle entries context ∧
      error = cycleError names context := by
  induction fuel generalizing visiting id with
  | zero => exact way.fuel_pos.elim
  | succ fuel ih =>
      rw [flattenRules] at refused
      split at refused
      case isTrue visited =>
        cases refused
        exact ⟨id, .refl, way.leads id (List.contains_iff_mem.mp visited), rfl⟩
      case isFalse unvisited =>
        have new : id ∉ visiting := fun member => unvisited (List.contains_iff_mem.mpr member)
        obtain ⟨other, included, failed⟩ := flattenEntries_error refused
        obtain ⟨context, reached, cycle, same⟩ := ih (way.next new included) failed
        exact ⟨context, .head included reached, cycle, same⟩

/-- What has an expansion has it wherever it is included. -/
theorem Expands.flattenRules_eq {id : Nat} {rules : List Rule}
    (expands : Expands entries (entriesOf entries id) rules)
    (way : IsOnWay entries fuel visiting id) :
    flattenRules names entries fuel visiting id = .ok rules := by
  cases flattened : flattenRules names entries fuel visiting id with
  | error error =>
      obtain ⟨context, reached, cycle, _⟩ := flattenRules_error way flattened
      exact absurd cycle (expands.not_isOnCycle reached)
  | ok others => rw [expands.unique (flattenRules_expands flattened)]

end Flatten

/-! ### Rules that are kept -/

mutual

/-- Puts rules in place, keeping those of each context for when it is included again. -/
def flattenKept (names : List ContextName) (entries : List (List RuleEntry)) :
    (fuel : Nat) → (kept : Dictionary Nat (List Rule)) → (visiting : List Nat) → (id : Nat) →
      Except HighlightError (List Rule × Dictionary Nat (List Rule))
  | 0, _, _, id => .error (cycleError names id)
  | fuel + 1, kept, visiting, id =>
      match kept.get? id with
      | some rules => .ok (rules, kept)
      | none =>
          if visiting.contains id then .error (cycleError names id)
          else do
            let (rules, kept) ←
              flattenEntriesKept names entries fuel kept (id :: visiting) (entriesOf entries id)
            return (rules, kept.set id rules)

def flattenEntriesKept (names : List ContextName) (entries : List (List RuleEntry)) :
    (fuel : Nat) → (kept : Dictionary Nat (List Rule)) → (visiting : List Nat) →
      List RuleEntry → Except HighlightError (List Rule × Dictionary Nat (List Rule))
  | _, kept, _, [] => .ok ([], kept)
  | fuel, kept, visiting, .rule rule :: rest => do
      let (rules, kept) ← flattenEntriesKept names entries fuel kept visiting rest
      return (rule :: rules, kept)
  | fuel, kept, visiting, .included id :: rest => do
      let (inner, kept) ← flattenKept names entries fuel kept visiting id
      let (rules, kept) ← flattenEntriesKept names entries fuel kept visiting rest
      return (inner ++ rules, kept)

end

/-- Takes contexts one after another, with what is kept from those before. -/
def flattenInOrder (names : List ContextName) (entries : List (List RuleEntry)) :
    (kept : Dictionary Nat (List Rule)) → (order : List Nat) →
      Except HighlightError (Dictionary Nat (List Rule))
  | kept, [] => .ok kept
  | kept, id :: rest => do
      let (_, kept) ← flattenKept names entries (entries.length + 1) kept [] id
      flattenInOrder names entries kept rest

/-- Rules are kept for contexts whose expansion they are. -/
def AreKept (entries : List (List RuleEntry)) (kept : Dictionary Nat (List Rule)) : Prop :=
  ∀ id rules, kept.get? id = some rules → Expands entries (entriesOf entries id) rules

structure Keeps (entries : List (List RuleEntry)) (kept later : Dictionary Nat (List Rule)) :
    Prop where
  areKept : AreKept entries later
  known : ∀ id rules, kept.get? id = some rules → later.get? id = some rules

section Kept

variable {names : List ContextName} {entries : List (List RuleEntry)} {fuel : Nat}
  {kept later last : Dictionary Nat (List Rule)} {visiting : List Nat} {own : List RuleEntry}

theorem AreKept.refl (sound : AreKept entries kept) : Keeps entries kept kept :=
  ⟨sound, fun _ _ found => found⟩

theorem Keeps.trans (first : Keeps entries kept later) (second : Keeps entries later last) :
    Keeps entries kept last :=
  ⟨second.areKept, fun id rules found => second.known id rules (first.known id rules found)⟩

theorem AreKept.set {id : Nat} {rules : List Rule} (sound : AreKept entries kept)
    (expands : Expands entries (entriesOf entries id) rules) :
    Keeps entries kept (kept.set id rules) := by
  constructor
  · intro other others found
    rw [Dictionary.get?_set] at found
    split at found
    case isTrue same =>
      cases found
      exact same ▸ expands
    case isFalse => exact sound other others found
  · intro other others found
    rw [Dictionary.get?_set]
    split
    case isTrue same =>
      subst same
      rw [expands.unique (sound id others found)]
    case isFalse => exact found

theorem flattenEntriesKept_ok {rules : List Rule} (sound : AreKept entries kept)
    (included : ∀ id inner kept, AreKept entries kept →
      flattenRules names entries fuel visiting id = .ok inner →
      ∃ later, flattenKept names entries fuel kept visiting id = .ok (inner, later) ∧
        Keeps entries kept later ∧ later.get? id = some inner)
    (accepted : flattenEntries names entries fuel visiting own = .ok rules) :
    ∃ later, flattenEntriesKept names entries fuel kept visiting own = .ok (rules, later) ∧
      Keeps entries kept later := by
  induction own generalizing kept rules with
  | nil =>
      rw [flattenEntries] at accepted
      cases accepted
      exact ⟨kept, by rw [flattenEntriesKept], sound.refl⟩
  | cons entry rest ih =>
      cases entry with
      | rule rule =>
          obtain ⟨behind, behindAccepted, rfl⟩ := flattenEntries_rule_eq_ok.mp accepted
          obtain ⟨later, laterAccepted, keeps⟩ := ih sound behindAccepted
          exact ⟨later, by rw [flattenEntriesKept, laterAccepted]; rfl, keeps⟩
      | included id =>
          obtain ⟨inner, behind, innerAccepted, behindAccepted, rfl⟩ :=
            flattenEntries_included_eq_ok.mp accepted
          obtain ⟨next, nextAccepted, nextKeeps, _⟩ := included id inner kept sound innerAccepted
          obtain ⟨later, laterAccepted, keeps⟩ := ih nextKeeps.areKept behindAccepted
          refine ⟨later, ?_, nextKeeps.trans keeps⟩
          rw [flattenEntriesKept, nextAccepted]
          dsimp only [bind, Except.bind]
          rw [laterAccepted]
          rfl

/-- Keeping rules makes no difference to rules that can be put in place. -/
theorem flattenKept_ok {id : Nat} {rules : List Rule} (sound : AreKept entries kept)
    (accepted : flattenRules names entries fuel visiting id = .ok rules) :
    ∃ later, flattenKept names entries fuel kept visiting id = .ok (rules, later) ∧
      Keeps entries kept later ∧ later.get? id = some rules := by
  induction fuel generalizing kept visiting id rules with
  | zero =>
      rw [flattenRules] at accepted
      cases accepted
  | succ fuel ih =>
      have expands := flattenRules_expands accepted
      rw [flattenKept]
      cases found : kept.get? id with
      | some known =>
          cases expands.unique (sound id known found)
          exact ⟨kept, rfl, sound.refl, found⟩
      | none =>
          rw [flattenRules] at accepted
          split at accepted
          · cases accepted
          case isFalse unvisited =>
            obtain ⟨later, laterAccepted, keeps⟩ := flattenEntriesKept_ok sound
              (fun other inner next nextSound => ih nextSound) accepted
            refine ⟨later.set id rules, ?_, keeps.trans (keeps.areKept.set expands),
              Dictionary.get?_set_self later id rules⟩
            dsimp only
            rw [if_neg unvisited, entriesOf, laterAccepted]
            rfl

theorem flattenEntriesKept_error {error : HighlightError} (sound : AreKept entries kept)
    (included : ∀ id kept, .included id ∈ own → AreKept entries kept →
      flattenRules names entries fuel visiting id = .error error →
      flattenKept names entries fuel kept visiting id = .error error)
    (refused : flattenEntries names entries fuel visiting own = .error error) :
    flattenEntriesKept names entries fuel kept visiting own = .error error := by
  induction own generalizing kept with
  | nil =>
      rw [flattenEntries] at refused
      cases refused
  | cons entry rest ih =>
      have behind := fun next (nextSound : AreKept entries next) =>
        ih nextSound fun id kept member => included id kept (List.mem_cons_of_mem entry member)
      cases entry with
      | rule rule =>
          rw [flattenEntriesKept, behind kept sound (flattenEntries_rule_eq_error.mp refused)]
          rfl
      | included id =>
          rw [flattenEntriesKept]
          rcases flattenEntries_included_eq_error.mp refused with failed | ⟨inner, accepted, later⟩
          · rw [included id kept List.mem_cons_self sound failed]
            rfl
          · obtain ⟨next, nextAccepted, keeps, _⟩ := flattenKept_ok sound accepted
            rw [nextAccepted]
            dsimp only [bind, Except.bind]
            rw [behind next keeps.areKept later]

/-- Nor does it hide a cycle. -/
theorem flattenKept_error {id : Nat} {error : HighlightError} (sound : AreKept entries kept)
    (way : IsOnWay entries fuel visiting id)
    (refused : flattenRules names entries fuel visiting id = .error error) :
    flattenKept names entries fuel kept visiting id = .error error := by
  induction fuel generalizing kept visiting id with
  | zero => exact way.fuel_pos.elim
  | succ fuel ih =>
      rw [flattenKept]
      cases found : kept.get? id with
      | some known =>
          -- What is kept has an expansion, so there is no cycle to which it leads.
          rw [(sound id known found).flattenRules_eq way] at refused
          cases refused
      | none =>
          rw [flattenRules] at refused
          dsimp only
          split at refused
          case isTrue visited =>
            cases refused
            rw [if_pos visited]
          case isFalse unvisited =>
            have new : id ∉ visiting :=
              fun member => unvisited (List.contains_iff_mem.mpr member)
            have failed : flattenEntriesKept names entries fuel kept (id :: visiting)
                (entriesOf entries id) = .error error :=
              flattenEntriesKept_error sound
                (fun other next included nextSound => ih nextSound (way.next new included)) refused
            rw [if_neg unvisited, failed]
            rfl

theorem areKept_nil : AreKept entries [] := by
  intro id rules found
  cases found

/-- Taking contexts in order ends as putting the rules of each in place does, and in the error of
the first one for which that ends in an error. -/
theorem flattenInOrder_cases (names : List ContextName) (sound : AreKept entries kept)
    (order : List Nat) :
    (∃ later, flattenInOrder names entries kept order = .ok later ∧ Keeps entries kept later ∧
      ∀ id ∈ order, ∃ rules,
        flattenRules names entries (entries.length + 1) [] id = .ok rules ∧
          later.get? id = some rules) ∨
      ∃ id ∈ order, ∃ error,
        flattenRules names entries (entries.length + 1) [] id = .error error ∧
          flattenInOrder names entries kept order = .error error := by
  induction order generalizing kept with
  | nil => exact .inl ⟨kept, rfl, sound.refl, by simp⟩
  | cons id rest ih =>
      rw [flattenInOrder]
      cases flattened : flattenRules names entries (entries.length + 1) [] id with
      | error error =>
          rw [flattenKept_error sound (.start id) flattened]
          exact .inr ⟨id, List.mem_cons_self, error, flattened, rfl⟩
      | ok rules =>
          obtain ⟨next, accepted, keeps, known⟩ := flattenKept_ok sound flattened
          rw [accepted]
          dsimp only [bind, Except.bind]
          rcases ih keeps.areKept with
            ⟨later, laterAccepted, laterKeeps, found⟩ | ⟨other, member, error, failed, refused⟩
          · refine .inl ⟨later, laterAccepted, keeps.trans laterKeeps, ?_⟩
            rw [List.forall_mem_cons]
            exact ⟨⟨rules, flattened, laterKeeps.known id rules known⟩, found⟩
          · exact .inr ⟨other, List.mem_cons_of_mem id member, error, failed, refused⟩

/-- Contexts get the rules that are kept for them when they are taken one after another. -/
theorem finishContexts_eq (names : List ContextName) (sound : AreKept entries kept)
    (contexts : List Context) :
    finishContexts names entries contexts =
      (fun later : Dictionary Nat (List Rule) =>
        contexts.map fun context => { context with rules := (later.get? context.id).getD [] }) <$>
        flattenInOrder names entries kept (contexts.map (·.id)) := by
  induction contexts generalizing kept with
  | nil => rfl
  | cons context rest ih =>
      rw [finishContexts, List.map_cons, flattenInOrder]
      cases flattened : flattenRules names entries (entries.length + 1) [] context.id with
      | error error =>
          rw [flattenKept_error sound (.start context.id) flattened]
          rfl
      | ok rules =>
          obtain ⟨next, accepted, keeps, known⟩ := flattenKept_ok sound flattened
          rw [accepted]
          dsimp only [bind, Except.bind]
          rw [ih keeps.areKept]
          rcases flattenInOrder_cases names keeps.areKept (rest.map (·.id)) with
            ⟨later, laterAccepted, laterKeeps, _⟩ | ⟨other, member, error, failed, refused⟩
          · rw [laterAccepted]
            have found := laterKeeps.known context.id rules known
            simp [Functor.map, Except.map, pure, Except.pure, found]
          · rw [refused]
            rfl

/-! ### Cycles -/

theorem finishContexts_error {error : HighlightError} {contexts : List Context}
    (refused : finishContexts names entries contexts = .error error) :
    ∃ context, IsOnCycle entries context ∧ error = cycleError names context := by
  rw [finishContexts_eq names areKept_nil] at refused
  rcases flattenInOrder_cases names areKept_nil (contexts.map (·.id)) with
    ⟨later, accepted, _, _⟩ | ⟨other, _, failure, failed, same⟩
  · rw [accepted] at refused
    cases refused
  · rw [same] at refused
    cases refused
    obtain ⟨context, _, onCycle, named⟩ := flattenRules_error (.start other) failed
    exact ⟨context, onCycle, named⟩

theorem flattenInOrder_of_isOnCycle (names : List ContextName) {id other : Nat}
    {order : List Nat} (cycle : IsOnCycle entries other)
    (reached : ReflTransGen (Includes entries) id other) (member : id ∈ order) :
    ∃ context, IsOnCycle entries context ∧
      flattenInOrder names entries [] order = .error (cycleError names context) := by
  rcases flattenInOrder_cases names areKept_nil order with
    ⟨later, _, _, found⟩ | ⟨first, _, error, failed, refused⟩
  · obtain ⟨rules, accepted, _⟩ := found id member
    exact absurd cycle ((flattenRules_expands accepted).not_isOnCycle reached)
  · obtain ⟨context, _, onCycle, same⟩ := flattenRules_error (.start first) failed
    exact ⟨context, onCycle, same ▸ refused⟩

theorem flattenInOrder_of_acyclic (names : List ContextName)
    (acyclic : ∀ id, ¬IsOnCycle entries id) (order : List Nat) :
    ∃ later, flattenInOrder names entries [] order = .ok later ∧
      ∀ id ∈ order, ∃ rules, later.get? id = some rules ∧
        Expands entries (entriesOf entries id) rules := by
  rcases flattenInOrder_cases names areKept_nil order with
    ⟨later, accepted, keeps, found⟩ | ⟨other, _, error, failed, _⟩
  · refine ⟨later, accepted, ?_⟩
    intro id member
    obtain ⟨rules, _, known⟩ := found id member
    exact ⟨rules, known, keeps.areKept id rules known⟩
  · obtain ⟨context, _, onCycle, _⟩ := flattenRules_error (.start other) failed
    exact absurd onCycle (acyclic context)

end Kept

/-! ### Modes -/

/-- The entries of all contexts, the one that stands in for others having none. -/
def draftEntries (drafts : List ContextDraft) : List (List RuleEntry) :=
  [] :: drafts.map (·.entries)

/-- The contexts of definitions before included rules are put in place. -/
def draftContexts (main : Definition) (others : List Definition) :
    Except HighlightError (List ContextDraft) :=
  compileContexts (Numbering.ofDefinitions main others)
    (delimitersIn (traitsOf (Numbering.ofDefinitions main others) (main :: others))) 1
    (declaredContexts (main :: others))

def namesOfContexts (main : Definition) (others : List Definition) : List ContextName :=
  ⟨main.name, "Normal Text"⟩ :: (Numbering.ofDefinitions main others).contexts

theorem mem_entriesOf {drafts : List ContextDraft} {id : Nat} {entry : RuleEntry}
    (member : entry ∈ entriesOf (draftEntries drafts) id) :
    ∃ draft ∈ drafts, entry ∈ draft.entries := by
  unfold entriesOf draftEntries at member
  cases id with
  | zero => cases member
  | succ index =>
      rw [List.getElem?_cons_succ, List.getElem?_map] at member
      cases found : drafts[index]? with
      | none =>
          rw [found] at member
          cases member
      | some draft =>
          rw [found] at member
          exact ⟨draft, List.mem_of_getElem? found, member⟩

theorem compileContexts_mem {numbering : Numbering} {delimitersOf : String → List Char}
    {declarations : List (Definition × ContextDeclaration)} {id : Nat}
    {drafts : List ContextDraft}
    (accepted : compileContexts numbering delimitersOf id declarations = .ok drafts)
    {draft : ContextDraft} (member : draft ∈ drafts) :
    ∃ definition own declaration, (definition, declaration) ∈ declarations ∧
      compileContext numbering (delimitersOf definition.name) definition own declaration =
        .ok draft := by
  induction declarations generalizing id drafts with
  | nil =>
      cases accepted
      cases member
  | cons entry rest ih =>
      obtain ⟨definition, declaration⟩ := entry
      obtain ⟨first, firstAccepted, accepted⟩ := bind_eq_ok.mp accepted
      obtain ⟨later, laterAccepted, accepted⟩ := bind_eq_ok.mp accepted
      cases accepted
      rcases List.mem_cons.mp member with same | behind
      · exact ⟨definition, id, declaration, List.mem_cons_self, same ▸ firstAccepted⟩
      · obtain ⟨other, own, otherDeclaration, inRest, otherAccepted⟩ := ih laterAccepted behind
        exact ⟨other, own, otherDeclaration, List.mem_cons_of_mem _ inRest, otherAccepted⟩

theorem compileContext_included {contexts formats : Nat} {numbering : Numbering}
    (within : numbering.IsWithin contexts formats) {delimiters : List Char}
    {definition : Definition} {id : Nat} {declaration : ContextDeclaration} {draft : ContextDraft}
    (accepted : compileContext numbering delimiters definition id declaration = .ok draft)
    {other : Nat} (member : .included other ∈ draft.entries) : 1 ≤ other ∧ other < contexts := by
  unfold compileContext at accepted
  obtain ⟨compiled, rulesAccepted, same⟩ := bind_eq_ok.mp accepted
  cases same
  obtain ⟨entry, entryMember, included⟩ := List.mem_flatMap.mp member
  obtain ⟨ruleDeclaration, _, entryAccepted⟩ := mapM_eq_ok_mem rulesAccepted entryMember
  rcases compileEntry_cases entryAccepted with ⟨matcher, rfl⟩ | ⟨target, _, rfl⟩
  · cases List.mem_singleton.mp included
  · unfold compileInclude at included
    split at included
    case h_1 resolved found =>
      cases List.mem_singleton.mp included
      exact within.resolved _ _ other found
    case h_2 => cases included

section Modes

variable {main : Definition} {others : List Definition} {maxDepth : Nat}
  {drafts : List ContextDraft} {mode : Mode}

/-- Includes lead to declared contexts. -/
theorem includes_inRange
    (nonempty : ∀ definition ∈ main :: others, definition.contexts ≠ [])
    (drafted : draftContexts main others = .ok drafts)
    {id other : Nat} (includes : Includes (draftEntries drafts) id other) :
    1 ≤ other ∧ other < (draftEntries drafts).length := by
  have within := Numbering.ofDefinitions_isWithin main others nonempty
  obtain ⟨draft, draftMember, included⟩ := mem_entriesOf includes
  obtain ⟨_, _, _, _, accepted⟩ := compileContexts_mem drafted draftMember
  have bounds := compileContext_included within accepted included
  rwa [draftEntries, List.length_cons, List.length_map, (compileContexts_isWithin within drafted).1,
    declaredContexts_length]

theorem Mode.IsMadeFrom.expands (made : mode.IsMadeFrom main others maxDepth drafts) (id : Nat) :
    Expands (draftEntries drafts) (entriesOf (draftEntries drafts) id) (mode.context id).rules := by
  obtain ⟨delimiters, fallback⟩ := made.fallback
  have bare : mode.fallback.rules = [] := by rw [fallback, Context.fallback]
  cases id with
  | zero =>
      rw [show mode.context 0 = mode.fallback from rfl, bare]
      exact .done
  | succ index =>
      obtain ⟨lengthEq, declaredFound⟩ := finishContexts_getElem? made.finished
      rw [show mode.context (index + 1) = (mode.declared[index]?).getD mode.fallback from rfl]
      cases found : mode.declared[index]? with
      | none =>
          have beyond := List.getElem?_eq_none_iff.mp found
          rw [lengthEq, List.length_map] at beyond
          rw [Option.getD_none, bare, entriesOf, draftEntries, List.getElem?_cons_succ,
            List.getElem?_map, List.getElem?_eq_none beyond]
          exact .done
      | some context =>
          obtain ⟨own, rules, ownFound, flattened, rfl⟩ := declaredFound index context found
          rw [List.getElem?_map] at ownFound
          obtain ⟨draft, draftFound, rfl⟩ := Option.map_eq_some_iff.mp ownFound
          have within := Numbering.ofDefinitions_isWithin main others made.nonempty
          have numbered : draft.context.id = index + 1 :=
            ((compileContexts_isWithin within made.drafted).2 index draft draftFound).numbered.trans
              (Nat.add_comm 1 index)
          rw [numbered] at flattened
          exact flattenRules_expands flattened

/-- Once contexts are compiled, a mode is made as soon as included rules can be put in place. -/
theorem Mode.ofDefinitions_cases
    (nonempty : ∀ definition ∈ main :: others, definition.contexts ≠ [])
    (drafted : draftContexts main others = .ok drafts) (maxDepth : Nat) :
    (∃ error,
      finishContexts (namesOfContexts main others) (draftEntries drafts) (drafts.map (·.context)) =
        .error error ∧
      Mode.ofDefinitions main others maxDepth = .error error) ∨
      ∃ mode, Mode.ofDefinitions main others maxDepth = .ok mode ∧
        mode.IsMadeFrom main others maxDepth drafts := by
  have faultless : ((main :: others).find? fun definition => definition.contexts.isEmpty) = none :=
    List.find?_eq_none.mpr fun definition member => by simpa using nonempty definition member
  unfold Mode.ofDefinitions
  simp only [faultless]
  rw [← draftContexts, drafted]
  dsimp only [bind, Except.bind]
  rw [← namesOfContexts, ← draftEntries]
  cases finished : finishContexts (namesOfContexts main others) (draftEntries drafts)
      (drafts.map (·.context)) with
  | error error => exact .inl ⟨error, rfl, rfl⟩
  | ok declared =>
      exact .inr ⟨_, rfl, nonempty, drafted, finished, ⟨_, rfl⟩, rfl, rfl, rfl, rfl⟩

theorem cycleError_eq (names : List ContextName) (id : Nat) :
    ∃ context definition, cycleError names id = .includeCycle context definition := by
  unfold cycleError
  split <;> exact ⟨_, _, rfl⟩

/-- Modes are refused for included rules exactly where contexts include one another in a cycle,
naming a context on it. All others have the rules of each context in place, entry by entry, just as
the contexts get them when they are taken in any order with what is kept from those before; and in
no order is a cycle missed to which one of them leads. -/
theorem Mode.ofDefinitions_putsInPlace
    (nonempty : ∀ definition ∈ main :: others, definition.contexts ≠ [])
    (drafted : draftContexts main others = .ok drafts) (maxDepth : Nat) :
    let names := namesOfContexts main others
    let entries := draftEntries drafts
    (∀ id other, Includes entries id other → 1 ≤ other ∧ other < entries.length) ∧
      ((∃ context definition,
        Mode.ofDefinitions main others maxDepth = .error (.includeCycle context definition)) ↔
          ∃ id, IsOnCycle entries id) ∧
      ((∀ id, ¬IsOnCycle entries id) →
        ∃ mode, Mode.ofDefinitions main others maxDepth = .ok mode ∧
          mode.contexts.length = entries.length ∧
          (∀ id, (mode.context id).rules =
            (entriesOf entries id).flatMap
              (RuleEntry.inPlace fun other => (mode.context other).rules)) ∧
          ∀ order, ∃ kept, flattenInOrder names entries [] order = .ok kept ∧
            ∀ id ∈ order, kept.get? id = some (mode.context id).rules) ∧
      ((∃ id, IsOnCycle entries id) →
        (∃ context, IsOnCycle entries context ∧
          Mode.ofDefinitions main others maxDepth = .error (cycleError names context)) ∧
        ∀ order, (∃ id ∈ order, ∃ other, ReflTransGen (Includes entries) id other ∧
            IsOnCycle entries other) →
          ∃ context, IsOnCycle entries context ∧
            flattenInOrder names entries [] order = .error (cycleError names context)) := by
  intro names entries
  refine ⟨fun id other => includes_inRange nonempty drafted, ?_⟩
  rcases Mode.ofDefinitions_cases nonempty drafted maxDepth with
    ⟨error, unfinished, refused⟩ | ⟨mode, accepted, made⟩
  case inl =>
    obtain ⟨context, onCycle, rfl⟩ := finishContexts_error unfinished
    obtain ⟨name, definition, named⟩ := cycleError_eq names context
    refine ⟨⟨fun _ => ⟨context, onCycle⟩, fun _ => ⟨name, definition, refused.trans ?_⟩⟩,
      fun acyclic => absurd onCycle (acyclic context), fun _ => ⟨⟨context, onCycle, refused⟩, ?_⟩⟩
    · exact congrArg Except.error named
    · rintro order ⟨id, member, other, reached, cycle⟩
      exact flattenInOrder_of_isOnCycle names cycle reached member
  case inr =>
    have acyclic (id : Nat) : ¬IsOnCycle entries id := (made.expands id).not_isOnCycle .refl
    have noCycle : ¬∃ id, IsOnCycle entries id := fun ⟨id, onCycle⟩ => acyclic id onCycle
    refine ⟨⟨?_, fun cycle => absurd cycle noCycle⟩, fun _ => ⟨mode, accepted, ?_, ?_, ?_⟩,
      fun cycle => absurd cycle noCycle⟩
    · rintro ⟨context, definition, refused⟩
      rw [accepted] at refused
      cases refused
    · have lengthEq := (finishContexts_getElem? made.finished).1
      simpa [entries, draftEntries, Mode.contexts] using lengthEq
    · exact fun id => (made.expands id).eq_flatMap made.expands
    · intro order
      obtain ⟨kept, taken, found⟩ := flattenInOrder_of_acyclic names acyclic order
      refine ⟨kept, taken, ?_⟩
      intro id member
      obtain ⟨rules, known, expands⟩ := found id member
      rw [known, expands.unique (made.expands id)]

end Modes

/-! ### Plain rules -/

/-- No rule of this kind is refused, and none includes others. -/
def RuleKind.isPlain : RuleKind → Bool
  | regex _ | keyword _ | includeRules _ => false
  | _ => true

def Definition.IsPlain (own : Definition) : Prop :=
  own.contexts ≠ [] ∧
    ∀ context ∈ own.contexts, ∀ rule ∈ context.rules, rule.kind.isPlain = true

theorem compileEntry_of_isPlain (numbering : Numbering) (definition : Definition)
    (context : String) {declaration : RuleDeclaration}
    (plain : declaration.kind.isPlain = true) :
    ∃ compiled, compileEntry numbering definition context declaration = .ok compiled := by
  unfold compileEntry
  cases kind : declaration.kind with
  | regex pattern =>
      rw [kind] at plain
      cases plain
  | keyword list =>
      rw [kind] at plain
      cases plain
  | includeRules target =>
      rw [kind] at plain
      cases plain
  | _ => exact ⟨_, rfl⟩

theorem compileContexts_of_isPlain (numbering : Numbering) (delimitersOf : String → List Char)
    {declarations : List (Definition × ContextDeclaration)}
    (plain : ∀ entry ∈ declarations, ∀ rule ∈ entry.2.rules, rule.kind.isPlain = true) (id : Nat) :
    ∃ drafts, compileContexts numbering delimitersOf id declarations = .ok drafts := by
  induction declarations generalizing id with
  | nil => exact ⟨[], rfl⟩
  | cons entry rest ih =>
      obtain ⟨own, later⟩ := List.forall_mem_cons.mp plain
      obtain ⟨definition, declaration⟩ := entry
      obtain ⟨drafts, accepted⟩ := ih later (id + 1)
      obtain ⟨compiled, rules⟩ := exists_mapM_eq_ok fun rule member =>
        compileEntry_of_isPlain numbering definition declaration.name (own rule member)
      rw [compileContexts, accepted]
      unfold compileContext
      rw [rules]
      exact ⟨_, rfl⟩

theorem compileContext_not_isPlain {numbering : Numbering} {delimiters : List Char}
    {definition : Definition} {id : Nat} {declaration : ContextDeclaration} {draft : ContextDraft}
    (accepted : compileContext numbering delimiters definition id declaration = .ok draft)
    {other : Nat} (member : .included other ∈ draft.entries) :
    ∃ rule ∈ declaration.rules, rule.kind.isPlain = false := by
  unfold compileContext at accepted
  obtain ⟨compiled, rulesAccepted, same⟩ := bind_eq_ok.mp accepted
  cases same
  obtain ⟨entry, entryMember, included⟩ := List.mem_flatMap.mp member
  obtain ⟨rule, ruleMember, entryAccepted⟩ := mapM_eq_ok_mem rulesAccepted entryMember
  rcases compileEntry_cases entryAccepted with ⟨matcher, same⟩ | ⟨target, isInclude, _⟩
  · rw [same] at included
    cases List.mem_singleton.mp included
  · exact ⟨rule, ruleMember, by rw [isInclude]; rfl⟩

theorem mem_declaredContexts {definitions : List Definition} {definition : Definition}
    {declared : ContextDeclaration} :
    (definition, declared) ∈ declaredContexts definitions ↔
      definition ∈ definitions ∧ declared ∈ definition.contexts := by
  unfold declaredContexts
  simp

/-- Definitions whose rules are all plain make a mode. -/
theorem Mode.exists_of_isPlain {main : Definition} {others : List Definition}
    (plain : ∀ own ∈ main :: others, own.IsPlain) (maxDepth : Nat) :
    ∃ mode, Mode.ofDefinitions main others maxDepth = .ok mode := by
  have rules : ∀ entry ∈ declaredContexts (main :: others), ∀ rule ∈ entry.2.rules,
      rule.kind.isPlain = true := by
    intro entry member rule ruleMember
    obtain ⟨ownMember, declared⟩ := mem_declaredContexts.mp member
    exact (plain entry.1 ownMember).2 entry.2 declared rule ruleMember
  obtain ⟨drafts, drafted⟩ := compileContexts_of_isPlain (Numbering.ofDefinitions main others)
    (delimitersIn (traitsOf (Numbering.ofDefinitions main others) (main :: others))) rules 1
  rcases Mode.ofDefinitions_cases (fun own member => (plain own member).1) drafted maxDepth with
    ⟨error, unfinished, _⟩ | ⟨mode, accepted, _⟩
  · obtain ⟨context, onCycle, _⟩ := finishContexts_error unfinished
    obtain ⟨next, includes, _⟩ := TransGen.head'_iff.mp onCycle
    obtain ⟨draft, draftMember, included⟩ := mem_entriesOf includes
    obtain ⟨definition, _, declaration, declared, compiled⟩ :=
      compileContexts_mem drafted draftMember
    obtain ⟨rule, ruleMember, notPlain⟩ := compileContext_not_isPlain compiled included
    cases notPlain.symm.trans (rules (definition, declaration) declared rule ruleMember)
  · exact ⟨mode, accepted⟩

/-- A language whose rules come to one context on two ways, and on one of them twice. -/
def diamondLanguage : Definition where
  name := "Diamond"
  contexts :=
    [{ name := "Top"
       rules :=
         [{ kind := .includeRules "Left" }, { kind := .char 'a' },
          { kind := .includeRules "Right" }] },
     { name := "Left", rules := [{ kind := .includeRules "##Common" }] },
     { name := "Right"
       rules :=
         [{ kind := .includeRules "##Common" }, { kind := .char 'b' },
          { kind := .includeRules "##Common" }] }]

def commonLanguage : Definition where
  name := "Common"
  contexts := [{ name := "Common", rules := [{ kind := .char 'c' }] }]

theorem Mode.ofDefinitions_putsInPlace_diamondLanguage :
    ∃ drafts mode,
      draftContexts diamondLanguage [commonLanguage] = .ok drafts ∧
        Mode.ofDefinitions diamondLanguage [commonLanguage] 8 = .ok mode ∧
        (∀ id, ¬IsOnCycle (draftEntries drafts) id) ∧
        (∀ id, (mode.context id).rules =
          (entriesOf (draftEntries drafts) id).flatMap
            (RuleEntry.inPlace fun other => (mode.context other).rules)) ∧
        (mode.context 1).rules.map (·.matcher) =
          [.char 'c', .char 'a', .char 'c', .char 'b', .char 'c'] := by
  have computed :
      ((Mode.ofDefinitions diamondLanguage [commonLanguage] 8).toOption.map fun mode =>
        (mode.context 1).rules.map (·.matcher)) =
          some [.char 'c', .char 'a', .char 'c', .char 'b', .char 'c'] := by cbv
  obtain ⟨mode, found, matchers⟩ := Option.map_eq_some_iff.mp computed
  have accepted := Mode.ofDefinitions_of_toOption found
  obtain ⟨drafts, made⟩ := Mode.isMadeFrom_of_ofDefinitions accepted
  obtain ⟨_, refused_iff, inPlace, _⟩ :=
    Mode.ofDefinitions_putsInPlace made.nonempty made.drafted 8
  have acyclic (id : Nat) : ¬IsOnCycle (draftEntries drafts) id := by
    intro onCycle
    obtain ⟨context, definition, refused⟩ := refused_iff.mpr ⟨id, onCycle⟩
    rw [accepted] at refused
    cases refused
  obtain ⟨other, otherAccepted, _, rules, _⟩ := inPlace acyclic
  rw [accepted] at otherAccepted
  cases otherAccepted
  exact ⟨drafts, mode, made.drafted, accepted, acyclic, rules, matchers⟩

/-- A context that includes itself is on a cycle. -/
def loopLanguage : Definition where
  name := "Loop"
  contexts :=
    [{ name := "Normal", rules := [{ kind := .char 'a' }, { kind := .includeRules "##Loop" }] }]

example : Mode.ofDefinitions loopLanguage [] 8 = .error (.includeCycle "Normal" "Loop") := by cbv

end SyntaxHighlight
