/-
The store of prefixes is a multiset of texts. What its trie counts is how often each text is a
member; texts that are taken away leave no nodes behind, and the longest match is the longest
member with which a text begins.
-/

import Mathlib
import SyntaxHighlight.Text.PrefixStore

namespace SyntaxHighlight.Text

namespace Trie

/-! ### Children -/

theorem lookup_entry (char other : Char) (child : Trie) (rest : List (Char × Trie)) :
    ((other, child) :: rest).lookup char =
      if char = other then some child else rest.lookup char := by
  rw [List.lookup_cons]
  by_cases same : char = other
  · rw [if_pos same, beq_iff_eq.mpr same]
  · rw [if_neg same, beq_eq_false_iff_ne.mpr same]

theorem lookup_setChild (char other : Char) (child : Trie) (children : List (Char × Trie)) :
    (setChild char child children).lookup other =
      if other = char then some child else children.lookup other := by
  induction children with
  | nil => exact lookup_entry other char child []
  | cons first rest ih =>
      obtain ⟨present, old⟩ := first
      unfold setChild
      by_cases found : present = char
      · subst found
        rw [if_pos rfl, lookup_entry, lookup_entry]
        split <;> rfl
      · rw [if_neg found, lookup_entry, lookup_entry, ih]
        by_cases same : other = present
        · rw [if_pos same, if_pos same, if_neg (same ▸ found)]
        · rw [if_neg same, if_neg same]

theorem mem_setChild {char : Char} {child : Trie} {children : List (Char × Trie)}
    {entry : Char × Trie} (member : entry ∈ setChild char child children) :
    entry = (char, child) ∨ entry ∈ children := by
  induction children with
  | nil => exact Or.inl (List.mem_singleton.mp member)
  | cons first rest ih =>
      obtain ⟨present, old⟩ := first
      unfold setChild at member
      by_cases found : present = char
      · rw [if_pos found] at member
        exact (List.mem_cons.mp member).imp_right (List.mem_cons_of_mem _)
      · rw [if_neg found] at member
        rcases List.mem_cons.mp member with same | behind
        · exact Or.inr (same ▸ List.mem_cons_self)
        · exact (ih behind).imp_right (List.mem_cons_of_mem _)

theorem setChild_ne_nil (char : Char) (child : Trie) (children : List (Char × Trie)) :
    setChild char child children ≠ [] := by
  intro empty
  have found := lookup_setChild char char child children
  rw [empty, if_pos rfl] at found
  cases found

/-- Every character leads to one child. -/
def IsKeyed (children : List (Char × Trie)) : Prop := (children.map Prod.fst).Nodup

theorem IsKeyed.setChild {children : List (Char × Trie)} (keyed : IsKeyed children) (char : Char)
    (child : Trie) : IsKeyed (setChild char child children) := by
  induction children with
  | nil => exact List.nodup_singleton char
  | cons first rest ih =>
      obtain ⟨present, old⟩ := first
      obtain ⟨absent, restKeyed⟩ := List.nodup_cons.mp keyed
      unfold Trie.setChild
      by_cases found : present = char
      · subst found
        rw [if_pos rfl]
        exact List.nodup_cons.mpr ⟨absent, restKeyed⟩
      · rw [if_neg found]
        refine List.nodup_cons.mpr ⟨?_, ih restKeyed⟩
        intro member
        obtain ⟨entry, inRest, same⟩ := List.mem_map.mp member
        rcases mem_setChild inRest with new | old
        · exact found (same.symm.trans (congrArg Prod.fst new))
        · exact absent (List.mem_map.mpr ⟨entry, old, same⟩)

theorem eraseChild_sublist (char : Char) (children : List (Char × Trie)) :
    (eraseChild char children).Sublist children := by
  induction children with
  | nil => exact List.Sublist.refl _
  | cons first rest ih =>
      obtain ⟨present, old⟩ := first
      unfold eraseChild
      split
      · exact List.sublist_cons_self _ _
      · exact ih.cons_cons _

theorem lookup_eraseChild {children : List (Char × Trie)} (keyed : IsKeyed children)
    (char other : Char) :
    (eraseChild char children).lookup other =
      if other = char then none else children.lookup other := by
  induction children with
  | nil =>
      unfold eraseChild
      split <;> rfl
  | cons first rest ih =>
      obtain ⟨present, old⟩ := first
      obtain ⟨absent, restKeyed⟩ := List.nodup_cons.mp keyed
      unfold eraseChild
      by_cases found : present = char
      · subst found
        rw [if_pos rfl, lookup_entry]
        by_cases same : other = present
        · subst same
          rw [if_pos rfl, List.lookup_eq_none_iff]
          intro entry member
          exact bne_iff_ne.mpr fun equal =>
            absent (List.mem_map.mpr ⟨entry, member, equal.symm⟩)
        · rw [if_neg same, if_neg same]
      · rw [if_neg found, lookup_entry, lookup_entry, ih restKeyed]
        by_cases same : other = present
        · rw [if_pos same, if_pos same, if_neg (same ▸ found)]
        · rw [if_neg same, if_neg same]

theorem mem_of_lookup_eq_some {children : List (Char × Trie)} {char : Char} {child : Trie}
    (found : children.lookup char = some child) : (char, child) ∈ children := by
  obtain ⟨before, behind, rfl, _⟩ := List.lookup_eq_some_iff.mp found
  exact List.mem_append_right _ List.mem_cons_self

/-! ### Well-formed tries -/

/-- Every character leads to one child, and no node but the first one is bare. -/
inductive IsTidy : Trie → Prop
  | node (count : Nat) (children : List (Char × Trie)) (keyed : IsKeyed children)
      (below : ∀ char child, (char, child) ∈ children → IsTidy child)
      (full : ∀ char child, (char, child) ∈ children → child.isBare = false) :
      IsTidy (node count children)

/-- The nodes of a trie but its first one. -/
inductive IsBelow : (below trie : Trie) → Prop
  | child (count : Nat) (children : List (Char × Trie)) (char : Char) (child : Trie)
      (member : (char, child) ∈ children) : IsBelow child (node count children)
  | deeper (count : Nat) (children : List (Char × Trie)) (char : Char) (child below : Trie)
      (member : (char, child) ∈ children) (deep : IsBelow below child) :
      IsBelow below (node count children)

theorem IsTidy.isBare_of_isBelow {trie below : Trie} (tidy : trie.IsTidy)
    (deep : below.IsBelow trie) : below.isBare = false := by
  induction deep with
  | child count children char child member =>
      cases tidy with
      | node _ _ keyed tidyBelow full => exact full char child member
  | deeper count children char child below member deep ih =>
      cases tidy with
      | node _ _ keyed tidyBelow full => exact ih (tidyBelow char child member)

theorem empty_isTidy : empty.IsTidy := by
  refine .node 0 [] List.nodup_nil ?_ ?_
  · exact fun char child member => absurd member List.not_mem_nil
  · exact fun char child member => absurd member List.not_mem_nil

/-- A child that is not bare may take any place. -/
theorem setChild_isTidy {count : Nat} {children : List (Char × Trie)}
    (tidy : (node count children).IsTidy) (char : Char) {child : Trie} (childTidy : child.IsTidy)
    (full : child.isBare = false) : (node count (setChild char child children)).IsTidy := by
  cases tidy with
  | node _ _ keyed below filled =>
      refine .node count _ (keyed.setChild char child) ?_ ?_
      · intro other found member
        rcases mem_setChild member with new | old
        · cases new
          exact childTidy
        · exact below other found old
      · intro other found member
        rcases mem_setChild member with new | old
        · cases new
          exact full
        · exact filled other found old

theorem eraseChild_isTidy {count : Nat} {children : List (Char × Trie)}
    (tidy : (node count children).IsTidy) (char : Char) :
    (node count (eraseChild char children)).IsTidy := by
  cases tidy with
  | node _ _ keyed below filled =>
      have sublist := eraseChild_sublist char children
      refine .node count _ (keyed.sublist (sublist.map Prod.fst)) ?_ ?_
      · exact fun other found member => below other found (sublist.subset member)
      · exact fun other found member => filled other found (sublist.subset member)

theorem child_isTidy {count : Nat} {children : List (Char × Trie)}
    (tidy : (node count children).IsTidy) {char : Char} {child : Trie}
    (found : children.lookup char = some child) : child.IsTidy := by
  cases tidy with
  | node _ _ keyed below filled => exact below char child (mem_of_lookup_eq_some found)

theorem recount_isTidy {count : Nat} {children : List (Char × Trie)}
    (tidy : (node count children).IsTidy) (other : Nat) : (node other children).IsTidy := by
  cases tidy with
  | node _ _ keyed below filled => exact .node other children keyed below filled

/-! ### Adding -/

theorem multiplicity_cons (char : Char) (rest : List Char) (count : Nat)
    (children : List (Char × Trie)) :
    multiplicity (char :: rest) (node count children) =
      ((children.lookup char).map (multiplicity rest)).getD 0 := by
  have child : (node count children).child? char = children.lookup char := rfl
  rw [multiplicity, child]
  cases children.lookup char <;> rfl

theorem multiplicity_empty (text : List Char) : multiplicity text empty = 0 := by
  cases text <;> rfl

theorem isBare_add (text : List Char) (trie : Trie) : (add text trie).isBare = false := by
  obtain ⟨count, children⟩ := trie
  cases text with
  | nil => simp [add, isBare, Trie.count]
  | cons char rest =>
      simp [add, isBare, Trie.children, setChild_ne_nil]

theorem multiplicity_add (text other : List Char) (trie : Trie) :
    multiplicity other (add text trie) =
      multiplicity other trie + if other = text then 1 else 0 := by
  induction text generalizing other trie with
  | nil =>
      obtain ⟨count, children⟩ := trie
      cases other with
      | nil => rfl
      | cons char rest => simp [add, multiplicity_cons]
  | cons first rest ih =>
      obtain ⟨count, children⟩ := trie
      cases other with
      | nil => simp [add, multiplicity, Trie.count]
      | cons char behind =>
          rw [add, multiplicity_cons, multiplicity_cons, lookup_setChild]
          by_cases same : char = first
          · subst same
            rw [if_pos rfl, Option.map_some, Option.getD_some, ih]
            cases children.lookup char with
            | some child => simp
            | none => simp [multiplicity_empty]
          · rw [if_neg same]
            simp [same]

theorem add_isTidy (text : List Char) {trie : Trie} (tidy : trie.IsTidy) :
    (add text trie).IsTidy := by
  induction text generalizing trie with
  | nil =>
      obtain ⟨count, children⟩ := trie
      exact recount_isTidy tidy (count + 1)
  | cons first rest ih =>
      obtain ⟨count, children⟩ := trie
      refine setChild_isTidy tidy first (ih ?_) (isBare_add rest _)
      cases found : children.lookup first with
      | some child => exact child_isTidy tidy found
      | none => exact empty_isTidy

/-! ### Removing -/

theorem eq_empty_of_isBare {trie : Trie} (bare : trie.isBare = true) : trie = empty := by
  obtain ⟨count, children⟩ := trie
  simp only [isBare, Trie.count, Trie.children, Bool.and_eq_true, beq_iff_eq,
    List.isEmpty_iff] at bare
  rw [bare.1, bare.2]
  rfl

theorem remove?_eq_none_iff {text : List Char} {trie : Trie} :
    remove? text trie = none ↔ multiplicity text trie = 0 := by
  induction text generalizing trie with
  | nil =>
      obtain ⟨count, children⟩ := trie
      cases count <;> simp [remove?, multiplicity, Trie.count]
  | cons first rest ih =>
      obtain ⟨count, children⟩ := trie
      rw [multiplicity_cons]
      cases found : children.lookup first with
      | none => simp [remove?, found]
      | some child =>
          have below : remove? rest child = none ↔ multiplicity rest child = 0 := ih
          rw [Option.map_some, Option.getD_some, ← below]
          cases taken : remove? rest child <;> simp [remove?, found, taken]

/-- How a text is taken away below a character. -/
theorem remove?_cons {first : Char} {rest : List Char} {count : Nat}
    {children : List (Char × Trie)} {left : Trie}
    (removed : remove? (first :: rest) (node count children) = some left) :
    ∃ child below, children.lookup first = some child ∧ remove? rest child = some below ∧
      left = node count
        (if below.isBare then eraseChild first children else setChild first below children) := by
  unfold remove? at removed
  obtain ⟨child, found, removed⟩ := Option.bind_eq_some_iff.mp removed
  obtain ⟨below, taken, removed⟩ := Option.bind_eq_some_iff.mp removed
  exact ⟨child, below, found, taken, (Option.some.inj removed).symm⟩

theorem remove?_isTidy {text : List Char} {trie left : Trie} (tidy : trie.IsTidy)
    (removed : remove? text trie = some left) : left.IsTidy := by
  induction text generalizing trie left with
  | nil =>
      obtain ⟨count, children⟩ := trie
      cases count with
      | zero => cases removed
      | succ count =>
          cases removed
          exact recount_isTidy tidy count
  | cons first rest ih =>
      obtain ⟨count, children⟩ := trie
      obtain ⟨child, below, found, taken, rfl⟩ := remove?_cons removed
      by_cases bare : below.isBare = true
      · rw [if_pos bare]
        exact eraseChild_isTidy tidy first
      · rw [if_neg bare]
        exact setChild_isTidy tidy first (ih (child_isTidy tidy found) taken)
          (Bool.eq_false_iff.mpr bare)

theorem multiplicity_remove? {text : List Char} {trie left : Trie} (tidy : trie.IsTidy)
    (removed : remove? text trie = some left) (other : List Char) :
    multiplicity other trie = multiplicity other left + if other = text then 1 else 0 := by
  induction text generalizing trie left other with
  | nil =>
      obtain ⟨count, children⟩ := trie
      cases count with
      | zero => cases removed
      | succ count =>
          cases removed
          cases other with
          | nil => rfl
          | cons char behind => simp [multiplicity_cons]
  | cons first rest ih =>
      obtain ⟨count, children⟩ := trie
      obtain ⟨child, below, found, taken, rfl⟩ := remove?_cons removed
      have keyed : IsKeyed children := by
        cases tidy
        assumption
      cases other with
      | nil => simp [multiplicity, Trie.count]
      | cons char behind =>
          have inChild := ih (child_isTidy tidy found) taken behind
          rw [multiplicity_cons, multiplicity_cons]
          -- Where the child is left out nothing is lost, since a bare one counts no text.
          have children_eq : (if below.isBare then eraseChild first children
              else setChild first below children).lookup char =
                if char = first then (if below.isBare then none else some below)
                else children.lookup char := by
            split
            · rw [lookup_eraseChild keyed]
            · rw [lookup_setChild]
          rw [children_eq]
          by_cases same : char = first
          · subst same
            rw [found, if_pos rfl, Option.map_some, Option.getD_some, inChild]
            by_cases bare : below.isBare = true
            · rw [if_pos bare, eq_empty_of_isBare bare, multiplicity_empty]
              simp
            · rw [if_neg bare]
              simp
          · rw [if_neg same]
            simp [same]

/-! ### The longest match -/

theorem longest?_cons (char : Char) (rest : List Char) (count : Nat)
    (children : List (Char × Trie)) :
    (node count children).longest? (char :: rest) =
      (children.lookup char).bind fun child =>
        ((child.longest? rest).map (char :: ·)).or
          (if 0 < child.count then some [char] else none) := by
  have child : (node count children).child? char = children.lookup char := rfl
  rw [longest?, child]
  cases children.lookup char with
  | none => rfl
  | some child =>
      dsimp only [Option.bind_some]
      cases child.longest? rest <;> rfl

theorem forall_beginning_iff {text : List Char} {holds : List Char → Prop} :
    (∀ other, other <+: text → holds other) ↔
      holds [] ∧ ∀ other, other ≠ [] → other <+: text → holds other := by
  constructor
  · intro all
    exact ⟨all [] List.nil_prefix, fun other _ => all other⟩
  · rintro ⟨empty, all⟩ other begins
    by_cases nonempty : other = []
    · exact nonempty ▸ empty
    · exact all other nonempty begins

theorem forall_beginning_cons {char : Char} {rest : List Char} {holds : List Char → Prop} :
    (∀ other, other ≠ [] → other <+: char :: rest → holds other) ↔
      ∀ behind, behind <+: rest → holds (char :: behind) := by
  constructor
  · intro all behind begins
    exact all _ (List.cons_ne_nil _ _) (List.cons_prefix_cons.mpr ⟨rfl, begins⟩)
  · intro all other nonempty begins
    cases other with
    | nil => exact absurd rfl nonempty
    | cons first behind =>
        obtain ⟨rfl, inner⟩ := List.cons_prefix_cons.mp begins
        exact all behind inner

theorem longest?_eq_none_iff {trie : Trie} {text : List Char} :
    trie.longest? text = none ↔
      ∀ other, other ≠ [] → other <+: text → multiplicity other trie = 0 := by
  induction text generalizing trie with
  | nil =>
      refine iff_of_true rfl ?_
      intro other nonempty begins
      exact absurd (List.prefix_nil.mp begins) nonempty
  | cons char rest ih =>
      obtain ⟨count, children⟩ := trie
      rw [longest?_cons, forall_beginning_cons]
      simp only [multiplicity_cons]
      cases children.lookup char with
      | none => simp
      | some child =>
          simp only [Option.map_some, Option.getD_some, Option.bind_some]
          rw [forall_beginning_iff, ← ih]
          change _ ↔ child.count = 0 ∧ _
          cases child.longest? rest <;> simp

theorem isLongest_of_longest? {trie : Trie} {text found : List Char}
    (longest : trie.longest? text = some found) :
    (found ≠ [] ∧ found <+: text ∧ 0 < multiplicity found trie) ∧
      ∀ other, other <+: text → 0 < multiplicity other trie → other.length ≤ found.length := by
  induction text generalizing trie found with
  | nil => cases longest
  | cons char rest ih =>
      obtain ⟨count, children⟩ := trie
      rw [longest?_cons] at longest
      obtain ⟨child, isChild, longest⟩ := Option.bind_eq_some_iff.mp longest
      have below := fun behind : List Char => multiplicity_cons char behind count children
      simp only [isChild, Option.map_some, Option.getD_some] at below
      -- A longer member than the one found would be longer in the child as well.
      have lengthened : ∀ behind : List Char,
          (∀ other, other <+: rest → 0 < multiplicity other child →
            other.length ≤ behind.length) →
          ∀ other, other <+: char :: rest → 0 < multiplicity other (node count children) →
            other.length ≤ (char :: behind).length := by
        intro behind shorter
        refine forall_beginning_iff.mpr ⟨fun _ => Nat.zero_le _, forall_beginning_cons.mpr ?_⟩
        intro inner begins counted
        rw [below] at counted
        exact Nat.succ_le_succ (shorter inner begins counted)
      cases deeper : child.longest? rest with
      | some behind =>
          rw [deeper] at longest
          cases longest
          obtain ⟨⟨_, begins, counted⟩, shorter⟩ := ih deeper
          refine ⟨⟨List.cons_ne_nil _ _, List.cons_prefix_cons.mpr ⟨rfl, begins⟩, ?_⟩,
            lengthened behind shorter⟩
          rw [below]
          exact counted
      | none =>
          rw [deeper, Option.map_none, Option.none_or] at longest
          split at longest
          · rename_i counted
            cases longest
            refine ⟨⟨List.cons_ne_nil _ _, List.cons_prefix_cons.mpr ⟨rfl, List.nil_prefix⟩, ?_⟩,
              lengthened [] ?_⟩
            · rw [below]
              exact counted
            · intro other begins counted
              by_contra nonempty
              have nothing := longest?_eq_none_iff.mp deeper other
                (fun empty => nonempty (empty ▸ Nat.le_refl _)) begins
              exact Nat.ne_of_gt counted nothing
          · cases longest

theorem longest?_eq_some_iff {trie : Trie} {text found : List Char} :
    trie.longest? text = some found ↔
      (found ≠ [] ∧ found <+: text ∧ 0 < multiplicity found trie) ∧
        ∀ other, other <+: text → 0 < multiplicity other trie →
          other.length ≤ found.length := by
  constructor
  · exact isLongest_of_longest?
  · rintro ⟨⟨nonempty, begins, counted⟩, shorter⟩
    cases longest : trie.longest? text with
    | none =>
        have nothing := longest?_eq_none_iff.mp longest found nonempty begins
        exact absurd nothing (Nat.ne_of_gt counted)
    | some other =>
        obtain ⟨⟨_, otherBegins, otherCounted⟩, otherShorter⟩ := isLongest_of_longest? longest
        have lengths : other.length = found.length :=
          Nat.le_antisymm (shorter other otherBegins otherCounted)
            (otherShorter found begins counted)
        have same := List.prefix_of_prefix_length_le otherBegins begins (Nat.le_of_eq lengths)
        rw [same.eq_of_length lengths]

end Trie

namespace PrefixStore

/-! ### Operations -/

inductive Operation where
  | add (text : List Char)
  | remove (text : List Char)
  | clear

def perform (store : PrefixStore) : Operation → PrefixStore
  | .add text => store.add text
  | .remove text => store.remove text
  | .clear => store.clear

/-- The store after operations on a new one. -/
def run (operations : List Operation) : PrefixStore := operations.foldl perform {}

/-- What an operation makes of the members. -/
def Operation.applyTo (members : Multiset (List Char)) : Operation → Multiset (List Char)
  | add text => if text = [] then members else text ::ₘ members
  | remove text => members.erase text
  | clear => 0

/-- The members after operations, each as often as it was added and not removed. -/
def membersAfter (operations : List Operation) : Multiset (List Char) :=
  operations.foldl Operation.applyTo 0

/-! ### One step -/

/-- A store that has these members. -/
structure Holds (store : PrefixStore) (members : Multiset (List Char)) : Prop where
  counted : ∀ text, Trie.multiplicity text store.root = members.count text
  size : store.size = members.toFinset.card
  tidy : store.root.IsTidy
  nonempty : [] ∉ members

variable {store : PrefixStore} {members : Multiset (List Char)}

theorem holds_empty : Holds {} 0 where
  counted := Trie.multiplicity_empty
  size := rfl
  tidy := Trie.empty_isTidy
  nonempty := Multiset.notMem_zero []

theorem Holds.contains_iff (holds : store.Holds members) (text : List Char) :
    store.contains text = true ↔ text ∈ members := by
  rw [contains, decide_eq_true_iff, holds.counted, Multiset.count_pos]

theorem Holds.add (holds : store.Holds members) {text : List Char} (some : text ≠ []) :
    (store.add text).Holds (text ::ₘ members) := by
  have added : store.add text =
      { root := store.root.add text
        size := if store.contains text then store.size else store.size + 1 } := by
    unfold PrefixStore.add
    rw [if_neg (by simpa using some)]
  rw [added]
  refine ⟨?_, ?_, Trie.add_isTidy text holds.tidy, ?_⟩
  · intro other
    rw [Trie.multiplicity_add, holds.counted, Multiset.count_cons]
  · dsimp only
    rw [Multiset.toFinset_cons, holds.size]
    by_cases present : text ∈ members
    · rw [if_pos ((holds.contains_iff text).mpr present),
        Finset.insert_eq_of_mem (Multiset.mem_toFinset.mpr present)]
    · rw [if_neg (mt (holds.contains_iff text).mp present),
        Finset.card_insert_of_notMem (mt Multiset.mem_toFinset.mp present)]
  · rw [Multiset.mem_cons]
    rintro (same | member)
    · exact some same.symm
    · exact holds.nonempty member

theorem Holds.mem_of_remove? (holds : store.Holds members) {text : List Char} {left : Trie}
    (removed : Trie.remove? text store.root = some left) : text ∈ members := by
  rw [← Multiset.count_pos, ← holds.counted, Nat.pos_iff_ne_zero]
  intro nothing
  exact Option.some_ne_none left (removed.symm.trans (Trie.remove?_eq_none_iff.mpr nothing))

/-- Where a member can be taken away, the number of members is not zero. -/
theorem Holds.size_pos (holds : store.Holds members) {text : List Char} {left : Trie}
    (removed : Trie.remove? text store.root = some left) : 0 < store.size := by
  rw [holds.size, Finset.card_pos]
  exact ⟨text, Multiset.mem_toFinset.mpr (holds.mem_of_remove? removed)⟩

theorem Holds.remove (holds : store.Holds members) (text : List Char) :
    (store.remove text).Holds (members.erase text) := by
  unfold PrefixStore.remove
  by_cases empty : text = []
  · subst empty
    rw [if_pos (by rfl), Multiset.erase_of_notMem holds.nonempty]
    exact holds
  · rw [if_neg (by simpa using empty)]
    cases removed : Trie.remove? text store.root with
    | none =>
        have nothing := Trie.remove?_eq_none_iff.mp removed
        rw [holds.counted, Multiset.count_eq_zero] at nothing
        rw [Multiset.erase_of_notMem nothing]
        exact holds
    | some left =>
        obtain ⟨rest, rfl⟩ := Multiset.exists_cons_of_mem (holds.mem_of_remove? removed)
        have counted : ∀ other, Trie.multiplicity other left = rest.count other := by
          intro other
          have before := Trie.multiplicity_remove? holds.tidy removed other
          rw [holds.counted, Multiset.count_cons] at before
          exact (Nat.add_right_cancel before).symm
        rw [Multiset.erase_cons_head]
        refine ⟨counted, ?_, Trie.remove?_isTidy holds.tidy removed,
          fun member => holds.nonempty (Multiset.mem_cons_of_mem member)⟩
        dsimp only
        rw [counted, holds.size, Multiset.toFinset_cons]
        by_cases present : text ∈ rest
        · rw [if_neg (Nat.ne_of_gt (Multiset.count_pos.mpr present)),
            Finset.insert_eq_of_mem (Multiset.mem_toFinset.mpr present)]
        · rw [if_pos (Multiset.count_eq_zero.mpr present),
            Finset.card_insert_of_notMem (mt Multiset.mem_toFinset.mp present),
            Nat.add_sub_cancel]

theorem Holds.perform (holds : store.Holds members) (operation : Operation) :
    (store.perform operation).Holds (operation.applyTo members) := by
  cases operation with
  | add text =>
      change (store.add text).Holds (if text = [] then members else text ::ₘ members)
      by_cases empty : text = []
      · subst empty
        rw [if_pos rfl]
        exact holds
      · rw [if_neg empty]
        exact holds.add empty
  | remove text => exact holds.remove text
  | clear => exact holds_empty

/-! ### Runs -/

theorem run_holds (operations : List Operation) :
    (run operations).Holds (membersAfter operations) := by
  induction operations using List.reverseRecOn with
  | nil => exact holds_empty
  | append_singleton earlier operation ih =>
      unfold run membersAfter at ih ⊢
      rw [List.foldl_append, List.foldl_append]
      exact ih.perform operation

theorem Holds.isEmpty_iff (holds : store.Holds members) :
    store.isEmpty = true ↔ members = 0 := by
  rw [isEmpty, beq_iff_eq, holds.size, Finset.card_eq_zero, Multiset.toFinset_eq_empty]

theorem Holds.longest?_eq_some_iff (holds : store.Holds members) {text found : List Char}
    {start : Nat} :
    store.longest? text start = some found ↔
      (found ∈ members ∧ found <+: text.drop start) ∧
        ∀ other ∈ members, other <+: text.drop start → other.length ≤ found.length := by
  unfold PrefixStore.longest?
  rw [Trie.longest?_eq_some_iff]
  simp only [holds.counted, Multiset.count_pos]
  constructor
  · rintro ⟨⟨_, begins, present⟩, shorter⟩
    exact ⟨⟨present, begins⟩, fun other member begins => shorter other begins member⟩
  · rintro ⟨⟨present, begins⟩, shorter⟩
    have some : found ≠ [] := fun empty => holds.nonempty (empty ▸ present)
    exact ⟨⟨some, begins, present⟩, fun other begins member => shorter other member begins⟩

theorem Holds.longest?_eq_none_iff (holds : store.Holds members) {text : List Char}
    {start : Nat} :
    store.longest? text start = none ↔ ∀ other ∈ members, ¬other <+: text.drop start := by
  unfold PrefixStore.longest?
  rw [Trie.longest?_eq_none_iff]
  simp only [holds.counted, Multiset.count_eq_zero]
  constructor
  · intro nothing other member begins
    exact nothing other (fun empty => holds.nonempty (empty ▸ member)) begins member
  · intro nothing other _ begins member
    exact nothing other member begins

/-- After any operations the store is the multiset of texts that are not empty: its size is the
number of distinct members, which is not zero where one can be taken away, its longest match is
the longest member at a place, and no node of its trie is bare. -/
theorem run_isMultiset (operations : List Operation) :
    (run operations).size = (membersAfter operations).toFinset.card ∧
    (∀ text left, Trie.remove? text (run operations).root = some left →
      0 < (run operations).size) ∧
    ((run operations).isEmpty = true ↔ membersAfter operations = 0) ∧
    (∀ text, (run operations).contains text = true ↔ text ∈ membersAfter operations) ∧
    (∀ text start found, (run operations).longest? text start = some found ↔
      (found ∈ membersAfter operations ∧ found <+: text.drop start) ∧
        ∀ other ∈ membersAfter operations, other <+: text.drop start →
          other.length ≤ found.length) ∧
    (∀ text start, (run operations).longest? text start = none ↔
      ∀ other ∈ membersAfter operations, ¬other <+: text.drop start) ∧
    (∀ (text : List Char) (start : Nat), text.length ≤ start →
      (run operations).longest? text start = none) ∧
    ∀ below : Trie, below.IsBelow (run operations).root →
      0 < below.count ∨ below.children ≠ [] := by
  have holds := run_holds operations
  refine ⟨holds.size, fun text left => holds.size_pos, holds.isEmpty_iff, holds.contains_iff,
    fun text start found => holds.longest?_eq_some_iff,
    fun text start => holds.longest?_eq_none_iff, ?_, ?_⟩
  · intro text start behind
    unfold PrefixStore.longest?
    rw [List.drop_eq_nil_of_le behind]
    rfl
  · intro below deep
    have full := holds.tidy.isBare_of_isBelow deep
    simp only [Trie.isBare, Bool.and_eq_false_iff, beq_eq_false_iff_ne,
      List.isEmpty_eq_false_iff] at full
    exact full.imp_left Nat.pos_of_ne_zero

end PrefixStore

end SyntaxHighlight.Text
