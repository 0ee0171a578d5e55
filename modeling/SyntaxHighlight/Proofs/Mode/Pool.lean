/-
The definitions that make up a mode are those to which the main one leads. The names that are still
to be looked up grow while they are followed; since no name is looked up twice, the search ends
whatever cycles there are, and it has then followed every reference.
-/

import Mathlib
import SyntaxHighlight.Mode.Compile
import SyntaxHighlight.Proofs.Mode.Closure

namespace SyntaxHighlight

/-- The definitions to which a main one leads by references, if names stand for definitions. -/
inductive Definition.LeadsTo (answer : String → Option Definition) (main : Definition) :
    Definition → Prop
  | main : main.LeadsTo answer main
  | reference (middle : Definition) (name : String) (definition : Definition)
      (reached : main.LeadsTo answer middle) (refers : name ∈ middle.references)
      (found : answer name = some definition) : main.LeadsTo answer definition

/-- The references of what a name stands for. -/
def referencesBehind (answer : String → Option Definition) (name : String) : List String :=
  ((answer name).map Definition.references).getD []

/-- The calls of a search that nothing limits. Names are taken from the front of those that are
pending, and the references of what is found are put behind them. -/
inductive Follows (answer : String → Option Definition) :
    (seen pending calls : List String) → Prop
  | done (seen : List String) : Follows answer seen [] []
  | again (seen pending calls : List String) (name : String) (old : name ∈ seen)
      (rest : Follows answer seen pending calls) : Follows answer seen (name :: pending) calls
  | call (seen pending calls : List String) (name : String) (new : name ∉ seen)
      (rest : Follows answer (name :: seen) (pending ++ referencesBehind answer name) calls) :
      Follows answer seen (name :: pending) (name :: calls)

section Search

variable {answer : String → Option Definition} {seen pending calls : List String}
  {library : List Definition}

theorem mem_referencesBehind {name reference : String} :
    reference ∈ referencesBehind answer name ↔
      ∃ definition, answer name = some definition ∧ reference ∈ definition.references := by
  unfold referencesBehind
  cases answer name <;> simp

/-! ### What a search asks for -/

/-- No name is asked for twice, and none that was seen before. -/
theorem Follows.fresh (follows : Follows answer seen pending calls) :
    calls.Nodup ∧ ∀ name ∈ calls, name ∉ seen := by
  induction follows with
  | done seen => simp
  | again seen pending calls name old rest ih => exact ih
  | call seen pending calls name new rest ih =>
      obtain ⟨distinct, apart⟩ := ih
      constructor
      · exact List.nodup_cons.mpr ⟨fun member => apart name member List.mem_cons_self, distinct⟩
      · rw [List.forall_mem_cons]
        refine ⟨new, ?_⟩
        intro other member old
        exact apart other member (List.mem_cons_of_mem name old)

/-- Every name that is pending or to which a definition refers is known in the end. -/
theorem Follows.complete (follows : Follows answer seen pending calls) :
    (∀ name ∈ pending, name ∈ seen ∨ name ∈ calls) ∧
      ∀ name ∈ calls, ∀ reference ∈ referencesBehind answer name,
        reference ∈ seen ∨ reference ∈ calls := by
  induction follows with
  | done seen => simp
  | again seen pending calls name old rest ih =>
      exact ⟨List.forall_mem_cons.mpr ⟨Or.inl old, ih.1⟩, ih.2⟩
  | call seen pending calls name new rest ih =>
      obtain ⟨known, behind⟩ := ih
      have shifted : ∀ other, other ∈ name :: seen ∨ other ∈ calls →
          other ∈ seen ∨ other ∈ name :: calls := by
        intro other
        simp only [List.mem_cons]
        tauto
      rw [List.forall_mem_append] at known
      rw [List.forall_mem_cons, List.forall_mem_cons]
      refine ⟨⟨Or.inr List.mem_cons_self, ?_⟩, ?_, ?_⟩
      · exact fun other member => shifted other (known.1 other member)
      · exact fun reference member => shifted reference (known.2 reference member)
      · exact fun other member reference refers =>
          shifted reference (behind other member reference refers)

/-- What is found is reached if all is that the pending names stand for. -/
theorem Follows.sound {main : Definition} (follows : Follows answer seen pending calls)
    (reached : ∀ name ∈ pending, ∀ definition, answer name = some definition →
      main.LeadsTo answer definition) :
    ∀ name ∈ calls, ∀ definition, answer name = some definition →
      main.LeadsTo answer definition := by
  induction follows with
  | done seen => simp
  | again seen pending calls name old rest ih =>
      exact ih (List.forall_mem_cons.mp reached).2
  | call seen pending calls name new rest ih =>
      rw [List.forall_mem_cons] at reached ⊢
      refine ⟨reached.1, ih (List.forall_mem_append.mpr ⟨reached.2, ?_⟩)⟩
      intro reference refers definition found
      obtain ⟨middle, isMiddle, refersTo⟩ := mem_referencesBehind.mp refers
      exact .reference middle reference definition (reached.1 middle isMiddle) refersTo found

/-! ### How long a search takes -/

theorem map_name_filterMap
    (named : ∀ name definition, answer name = some definition → definition.name = name)
    (calls : List String) :
    (calls.filterMap answer).map (·.name) = calls.filter fun name => (answer name).isSome := by
  induction calls with
  | nil => rfl
  | cons name rest ih =>
      cases found : answer name with
      | none => simp [found, ih]
      | some definition => simp [found, ih, named name definition found]

theorem nodup_map_name
    (named : ∀ name definition, answer name = some definition → definition.name = name)
    (distinct : calls.Nodup) : ((calls.filterMap answer).map (·.name)).Nodup := by
  rw [map_name_filterMap named]
  exact distinct.filter _

/-- No search finds more definitions than there are. -/
theorem length_filterMap_le
    (named : ∀ name definition, answer name = some definition → definition.name = name)
    (finite : ∀ name definition, answer name = some definition → definition ∈ library)
    (distinct : calls.Nodup) : (calls.filterMap answer).length ≤ library.length := by
  have different : (calls.filterMap answer).Nodup :=
    (nodup_map_name named distinct).of_map _
  have inLibrary : calls.filterMap answer ⊆ library := by
    intro definition member
    obtain ⟨name, _, found⟩ := List.mem_filterMap.mp member
    exact finite name definition found
  exact (List.subperm_of_subset different inLibrary).length_le

/-- The definitions of a library whose names have not been seen. -/
def unseen (library : List Definition) (seen : List String) : List Definition :=
  library.filter fun definition => definition.name ∉ seen

theorem unseen_cons (library : List Definition) (name : String) (seen : List String) :
    unseen library (name :: seen) =
      (unseen library seen).filter fun definition => definition.name ≠ name := by
  unfold unseen
  rw [List.filter_filter]
  apply List.filter_congr
  intro definition _
  simp [List.mem_cons, not_or]

theorem length_unseen_lt {definition : Definition} (member : definition ∈ library)
    (new : definition.name ∉ seen) :
    (unseen library (definition.name :: seen)).length < (unseen library seen).length := by
  rw [unseen_cons, List.length_filter_lt_length_iff_exists]
  exact ⟨definition, List.mem_filter.mpr ⟨member, by simpa using new⟩, by simp⟩

/-- With finitely many definitions every search ends: a call finds one of those that have not been
seen, or it leaves one name less pending. -/
theorem exists_follows
    (named : ∀ name definition, answer name = some definition → definition.name = name)
    (finite : ∀ name definition, answer name = some definition → definition ∈ library)
    (seen pending : List String) : ∃ calls, Follows answer seen pending calls := by
  have bounded : ∀ limit seen pending, (unseen library seen).length < limit →
      ∃ calls, Follows answer seen pending calls := by
    intro limit
    induction limit with
    | zero => exact fun seen pending below => absurd below (Nat.not_lt_zero _)
    | succ limit further =>
        intro seen pending below
        induction pending generalizing seen with
        | nil => exact ⟨[], .done seen⟩
        | cons name rest ih =>
            by_cases old : name ∈ seen
            · obtain ⟨calls, follows⟩ := ih seen below
              exact ⟨calls, .again seen rest calls name old follows⟩
            · have searched : ∃ calls,
                  Follows answer (name :: seen) (rest ++ referencesBehind answer name) calls := by
                cases found : answer name with
                | none =>
                    have fewer : (unseen library (name :: seen)).length < limit + 1 := by
                      rw [unseen_cons]
                      exact Nat.lt_of_le_of_lt (List.length_filter_le _ _) below
                    simpa [referencesBehind, found] using ih (name :: seen) fewer
                | some definition =>
                    have isNamed := named name definition found
                    subst isNamed
                    have fewer := length_unseen_lt (finite _ definition found) old
                    exact further _ _ (Nat.lt_of_lt_of_le fewer (Nat.le_of_lt_succ below))
              obtain ⟨calls, follows⟩ := searched
              exact ⟨name :: calls, .call seen rest calls name old follows⟩
  exact bounded _ seen pending (Nat.lt_succ_self _)

/-! ### What a search from a main definition finds -/

section Main

variable {main : Definition} (follows : Follows answer [main.name] main.references calls)
  (named : ∀ name definition, answer name = some definition → definition.name = name)

include named in
theorem name_mem_calls {definition : Definition} (found : definition ∈ calls.filterMap answer) :
    definition.name ∈ calls := by
  obtain ⟨name, member, answered⟩ := List.mem_filterMap.mp found
  rw [named name definition answered]
  exact member

include follows

theorem Follows.main_notMem : main.name ∉ calls := fun member =>
  follows.fresh.2 main.name member (List.mem_singleton_self main.name)

include named in
theorem Follows.names_nodup : ((main :: calls.filterMap answer).map (·.name)).Nodup := by
  rw [List.map_cons, List.nodup_cons]
  refine ⟨?_, nodup_map_name named follows.fresh.1⟩
  intro member
  obtain ⟨definition, found, same⟩ := List.mem_map.mp member
  exact follows.main_notMem (same ▸ name_mem_calls named found)

/-- Every name to which a definition that is found refers is known in the end. -/
theorem Follows.isMain_or_called {definition : Definition}
    (member : definition ∈ main :: calls.filterMap answer) {name : String}
    (refers : name ∈ definition.references) : name = main.name ∨ name ∈ calls := by
  obtain ⟨known, behind⟩ := follows.complete
  have seenOrCalled : name ∈ [main.name] ∨ name ∈ calls := by
    rcases List.mem_cons.mp member with rfl | inOthers
    · exact known name refers
    · obtain ⟨caller, called, answered⟩ := List.mem_filterMap.mp inOthers
      exact behind caller called name (mem_referencesBehind.mpr ⟨definition, answered, refers⟩)
  exact seenOrCalled.imp_left List.mem_singleton.mp

theorem Follows.mem_iff_leadsTo
    (own : ∀ definition, answer main.name = some definition → definition = main)
    (definition : Definition) :
    definition ∈ main :: calls.filterMap answer ↔ main.LeadsTo answer definition := by
  constructor
  · intro member
    rcases List.mem_cons.mp member with rfl | found
    · exact .main
    · obtain ⟨name, called, answered⟩ := List.mem_filterMap.mp found
      refine follows.sound ?_ name called definition answered
      exact fun reference refers other isOther => .reference main reference other .main refers isOther
  · intro reached
    induction reached with
    | main => exact List.mem_cons_self
    | reference middle name definition _ refers found ih =>
        rcases follows.isMain_or_called ih refers with isMain | called
        · rw [isMain] at found
          rw [own definition found]
          exact List.mem_cons_self
        · exact List.mem_cons_of_mem main (List.mem_filterMap.mpr ⟨name, called, found⟩)

end Main

end Search

/-! ### The search of a mode -/

section Lookup

variable {σ : Type} {lookup : String → StateM σ (Option Definition)}
  {answer : String → Option Definition} {valid : σ → Prop} {seen pending calls : List String}

/-- The state after calls of a lookup. -/
def afterCalls (lookup : String → StateM σ (Option Definition)) (calls : List String)
    (start : σ) : σ :=
  calls.foldl (fun state name => (lookup name state).2) start

theorem followReferences_of_seen {limit : Nat} {name : String} {start : σ} (old : name ∈ seen) :
    followReferences lookup limit seen (name :: pending) start =
      followReferences lookup limit seen pending start := by
  rw [followReferences, if_pos old]

theorem followReferences_of_none {limit : Nat} {name : String} {start next : σ}
    (new : name ∉ seen) (answered : lookup name start = (none, next)) :
    followReferences lookup limit seen (name :: pending) start =
      followReferences lookup limit (name :: seen) pending next := by
  rw [followReferences, if_neg new]
  simp only [bind, StateT.bind, answered]

theorem followReferences_of_some {limit : Nat} {name : String} {start next : σ}
    {definition : Definition} (new : name ∉ seen)
    (answered : lookup name start = (some definition, next)) :
    followReferences lookup (limit + 1) seen (name :: pending) start =
      (followReferences lookup limit (name :: seen) (pending ++ definition.references) next).map
        (definition :: ·) id := by
  rw [followReferences, if_neg new]
  simp only [bind, StateT.bind, answered]
  rfl

/-- Within the limit the search makes the calls that it makes without one. -/
theorem Follows.followReferences_eq (follows : Follows answer seen pending calls)
    (answers : ∀ name state, valid state →
      (lookup name state).1 = answer name ∧ valid (lookup name state).2)
    (limit : Nat) (enough : (calls.filterMap answer).length ≤ limit) (start : σ)
    (startValid : valid start) :
    followReferences lookup limit seen pending start =
      (calls.filterMap answer, afterCalls lookup calls start) := by
  induction follows generalizing limit start with
  | done seen =>
      rw [followReferences]
      rfl
  | again seen pending calls name old rest ih =>
      rw [followReferences_of_seen old]
      exact ih limit enough start startValid
  | call seen pending calls name new rest ih =>
      obtain ⟨answered, nextValid⟩ := answers name start startValid
      have result : lookup name start = (answer name, (lookup name start).2) :=
        Prod.ext answered rfl
      cases found : answer name with
      | none =>
          rw [found] at result
          rw [List.filterMap_cons_none found] at enough ⊢
          have references : referencesBehind answer name = [] := by
            simp [referencesBehind, found]
          have same := ih limit enough _ nextValid
          rw [references, List.append_nil] at same
          rw [followReferences_of_none new result, same]
          rfl
      | some definition =>
          rw [found] at result
          rw [List.filterMap_cons_some found] at enough ⊢
          have references : referencesBehind answer name = definition.references := by
            simp [referencesBehind, found]
          cases limit with
          | zero => cases enough
          | succ limit =>
              have same := ih limit (Nat.le_of_succ_le_succ enough) _ nextValid
              rw [references] at same
              rw [followReferences_of_some new result, same]
              rfl

/-- A search that finds no more when one more definition may be followed has come to its end. -/
theorem exists_follows_of_uncut
    (answers : ∀ name state, valid state →
      (lookup name state).1 = answer name ∧ valid (lookup name state).2)
    (limit : Nat) (seen pending : List String) {start : σ} (startValid : valid start)
    (uncut : (followReferences lookup (limit + 1) seen pending start).1 =
      (followReferences lookup limit seen pending start).1) :
    ∃ calls, Follows answer seen pending calls ∧ (calls.filterMap answer).length ≤ limit := by
  induction limit, seen, pending using followReferences.induct generalizing start with
  | case1 limit seen => exact ⟨[], .done seen, Nat.zero_le limit⟩
  | case2 limit seen name pending old ih =>
      rw [followReferences_of_seen old, followReferences_of_seen old] at uncut
      obtain ⟨calls, follows, few⟩ := ih startValid uncut
      exact ⟨calls, .again seen pending calls name old follows, few⟩
  | case3 limit seen name pending new unknown further =>
      obtain ⟨found, nextValid⟩ := answers name start startValid
      cases answered : lookup name start with
      | mk found? next =>
          rw [answered] at found nextValid
          cases found? with
          | none =>
              rw [followReferences_of_none new answered, followReferences_of_none new answered]
                at uncut
              obtain ⟨calls, follows, few⟩ := unknown nextValid uncut
              refine ⟨name :: calls, .call seen pending calls name new ?_, ?_⟩
              · rwa [referencesBehind, ← found, Option.map_none, Option.getD_none, List.append_nil]
              · rwa [List.filterMap_cons_none found.symm]
          | some definition =>
              rw [followReferences_of_some new answered] at uncut
              cases limit with
              | zero =>
                  -- Nothing may be followed any more, but there is a definition to follow.
                  rw [followReferences, if_neg new] at uncut
                  simp only [bind, StateT.bind, answered] at uncut
                  cases uncut
              | succ limit =>
                  rw [followReferences_of_some new answered] at uncut
                  obtain ⟨calls, follows, few⟩ :=
                    further definition nextValid (List.cons.inj uncut).2
                  refine ⟨name :: calls, .call seen pending calls name new ?_, ?_⟩
                  · rwa [referencesBehind, ← found, Option.map_some, Option.getD_some]
                  · rw [List.filterMap_cons_some found.symm]
                    exact Nat.succ_le_succ few

/-- What every call of a lookup keeps is kept by a search. -/
theorem followReferences_keeps
    (kept : ∀ name state, valid state → valid (lookup name state).2)
    (limit : Nat) (seen pending : List String) {start : σ} (startValid : valid start) :
    valid (followReferences lookup limit seen pending start).2 := by
  induction limit, seen, pending using followReferences.induct generalizing start with
  | case1 limit seen =>
      rw [followReferences]
      exact startValid
  | case2 limit seen name pending old ih =>
      rw [followReferences_of_seen old]
      exact ih startValid
  | case3 limit seen name pending new unknown further =>
      have nextValid := kept name start startValid
      cases answered : lookup name start with
      | mk found? next =>
          rw [answered] at nextValid
          cases found? with
          | none =>
              rw [followReferences_of_none new answered]
              exact unknown nextValid
          | some definition =>
              cases limit with
              | zero =>
                  rw [followReferences, if_neg new]
                  simp only [bind, StateT.bind, answered]
                  exact nextValid
              | succ limit =>
                  rw [followReferences_of_some new answered]
                  exact further definition nextValid

end Lookup

/-- A lookup that notes the names for which it is asked. -/
def noting {σ : Type} (lookup : String → StateM σ (Option Definition)) (name : String) :
    StateM (σ × List String) (Option Definition) := fun (state, names) =>
  ((lookup name state).1, ((lookup name state).2, names ++ [name]))

theorem afterCalls_noting {σ : Type} (lookup : String → StateM σ (Option Definition))
    (calls : List String) (start : σ) (names : List String) :
    afterCalls (noting lookup) calls (start, names) =
      (afterCalls lookup calls start, names ++ calls) := by
  induction calls generalizing start names with
  | nil => simp [afterCalls]
  | cons name rest ih =>
      change afterCalls (noting lookup) rest ((lookup name start).2, names ++ [name]) = _
      rw [ih, List.append_assoc]
      rfl

theorem Mode.embedded_of_ofDefinitions {main : Definition} {others : List Definition}
    {maxDepth : Nat} {mode : Mode}
    (accepted : Mode.ofDefinitions main others maxDepth = .ok mode) :
    mode.embedded = (others.map (·.name)).filter (· ≠ main.name) := by
  obtain ⟨_, _, rfl, _⟩ := Mode.eq_ofContexts_of_ofDefinitions accepted
  rfl

/-- The definitions that make up a mode are those to which the main one leads, each of them once.
The limit of the search plays no part if there are no more definitions than that, and no name is
looked up twice, that of the main definition never. -/
theorem collectDefinitions_isClosure {σ : Type} {lookup : String → StateM σ (Option Definition)}
    {answer : String → Option Definition} {valid : σ → Prop} {library : List Definition}
    {main : Definition} {limit : Nat} {start : σ}
    (answers : ∀ name state, valid state →
      (lookup name state).1 = answer name ∧ valid (lookup name state).2)
    (startValid : valid start)
    (named : ∀ name definition, answer name = some definition → definition.name = name)
    (own : ∀ definition, answer main.name = some definition → definition = main)
    (finite : ∀ name definition, answer name = some definition → definition ∈ library)
    (enough : library.length ≤ limit) :
    ∃ others final calls,
      (∀ more, limit ≤ more → collectDefinitions lookup more main start = (others, final)) ∧
      collectDefinitions (noting lookup) limit main (start, []) = (others, final, calls) ∧
      calls.Nodup ∧ main.name ∉ calls ∧
      (∀ definition, definition ∈ main :: others ↔ main.LeadsTo answer definition) ∧
      ((main :: others).map (·.name)).Nodup ∧
      ∀ maxDepth mode, Mode.ofDefinitions main others maxDepth = .ok mode →
        mode.embedded.Nodup ∧ main.name ∉ mode.embedded ∧
          ∀ name, name ∈ mode.embedded ↔
            ∃ definition, main.LeadsTo answer definition ∧ definition ≠ main ∧
              definition.name = name := by
  obtain ⟨calls, follows⟩ := exists_follows named finite [main.name] main.references
  have few := (length_filterMap_le named finite follows.fresh.1).trans enough
  have answersNoting : ∀ name (state : σ × List String), valid state.1 →
      (noting lookup name state).1 = answer name ∧ valid (noting lookup name state).2.1 :=
    fun name state => answers name state.1
  have noted := follows.followReferences_eq answersNoting limit few (start, []) startValid
  rw [afterCalls_noting, List.nil_append] at noted
  have members := follows.mem_iff_leadsTo own
  have names := follows.names_nodup named
  refine ⟨calls.filterMap answer, afterCalls lookup calls start, calls, ?_, noted,
    follows.fresh.1, follows.main_notMem, members, names, ?_⟩
  · intro more further
    exact follows.followReferences_eq answers more (few.trans further) start startValid
  · intro maxDepth mode accepted
    have embedded : mode.embedded = (calls.filterMap answer).map (·.name) := by
      rw [Mode.embedded_of_ofDefinitions accepted, List.filter_eq_self]
      intro name member
      obtain ⟨definition, found, rfl⟩ := List.mem_map.mp member
      exact decide_eq_true fun same => follows.main_notMem (same ▸ name_mem_calls named found)
    obtain ⟨mainAbsent, distinct⟩ := List.nodup_cons.mp names
    rw [embedded]
    refine ⟨distinct, mainAbsent, fun name => ?_⟩
    rw [List.mem_map]
    constructor
    · rintro ⟨definition, found, rfl⟩
      refine ⟨definition, (members definition).mp (List.mem_cons_of_mem main found), ?_, rfl⟩
      rintro rfl
      exact mainAbsent (List.mem_map_of_mem found)
    · rintro ⟨definition, reached, apart, rfl⟩
      have found := (List.mem_cons.mp ((members definition).mpr reached)).resolve_left apart
      exact ⟨definition, found, rfl⟩

/-- A definition that refers to another and to one that nobody knows. -/
def outerLanguage : Definition where
  name := "Outer"
  contexts :=
    [{ name := "Normal", lineEnd := "##Inner"
       rules := [{ kind := .includeRules "##Missing" }] }]

/-- A definition that refers to itself and back to the outer one. -/
def innerLanguage : Definition where
  name := "Inner"
  contexts :=
    [{ name := "Normal", lineEnd := "Normal##Outer"
       rules := [{ kind := .includeRules "##Inner" }] }]

def cyclicAnswer (name : String) : Option Definition :=
  if name = "Outer" then some outerLanguage
  else if name = "Inner" then some innerLanguage
  else none

/-- A lookup that counts how often it is asked. -/
def cyclicLookup (name : String) : StateM Nat (Option Definition) := fun count =>
  (cyclicAnswer name, count + 1)

theorem cyclicAnswer_eq_some {name : String} {definition : Definition}
    (found : cyclicAnswer name = some definition) :
    (name = "Outer" ∧ definition = outerLanguage) ∨
      (name = "Inner" ∧ definition = innerLanguage) := by
  unfold cyclicAnswer at found
  split at found
  case isTrue isOuter => exact .inl ⟨isOuter, (Option.some.inj found).symm⟩
  case isFalse =>
    split at found
    case isTrue isInner => exact .inr ⟨isInner, (Option.some.inj found).symm⟩
    case isFalse => cases found

theorem collectDefinitions_isClosure_cyclicLookup :
    collectDefinitions (noting cyclicLookup) 2 outerLanguage (0, []) =
        ([innerLanguage], 2, ["Inner", "Missing"]) ∧
      ∀ definition, outerLanguage.LeadsTo cyclicAnswer definition ↔
        definition = outerLanguage ∨ definition = innerLanguage := by
  have noted : collectDefinitions (noting cyclicLookup) 2 outerLanguage (0, []) =
      ([innerLanguage], 2, ["Inner", "Missing"]) := by
    cbv
  have answers : ∀ name count, True →
      (cyclicLookup name count).1 = cyclicAnswer name ∧ True :=
    fun name count valid => ⟨rfl, valid⟩
  have named : ∀ name definition, cyclicAnswer name = some definition →
      definition.name = name := by
    intro name definition found
    rcases cyclicAnswer_eq_some found with ⟨rfl, rfl⟩ | ⟨rfl, rfl⟩ <;> rfl
  have finite : ∀ name definition, cyclicAnswer name = some definition →
      definition ∈ [outerLanguage, innerLanguage] := by
    intro name definition found
    rcases cyclicAnswer_eq_some found with ⟨_, rfl⟩ | ⟨_, rfl⟩ <;> simp
  have own : ∀ definition, cyclicAnswer outerLanguage.name = some definition →
      definition = outerLanguage := fun definition found => (Option.some.inj found).symm
  obtain ⟨others, final, calls, _, isNoted, _, _, members, _⟩ :=
    collectDefinitions_isClosure answers trivial named own finite (Nat.le_refl 2)
  obtain ⟨rfl, _⟩ := Prod.ext_iff.mp (noted.symm.trans isNoted)
  refine ⟨noted, ?_⟩
  intro definition
  rw [← members definition]
  simp

end SyntaxHighlight
