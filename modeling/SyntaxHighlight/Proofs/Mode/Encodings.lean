/-
The tables of encodings of a definition. They are filled entry by entry, and of several entries for
one text or for one character the last one counts. So what a character is encoded as stands for
this character unless a later entry gives the same text to another one. The store of prefixes has
the texts of the tables but the empty one, which is never a member of it.
-/

import SyntaxHighlight.Mode.Traits
import SyntaxHighlight.Proofs.Text.Dictionary
import SyntaxHighlight.Proofs.Text.PrefixStore

namespace SyntaxHighlight

open SyntaxHighlight.Text

/-! ### Last entries -/

/-- The last entry of a kind. -/
def lastOfKind? (kind : EncodingEntry → Bool) (entries : List EncodingEntry) :
    Option EncodingEntry :=
  entries.reverse.find? kind

/-- An entry of a kind behind which there is no other one of this kind. -/
def EncodingEntry.IsLast (kind : EncodingEntry → Bool) (entries : List EncodingEntry)
    (entry : EncodingEntry) : Prop :=
  kind entry = true ∧
    ∃ before behind, entries = before ++ entry :: behind ∧ ∀ other ∈ behind, kind other = false

section Last

variable {kind : EncodingEntry → Bool} {entries : List EncodingEntry} {entry : EncodingEntry}

theorem lastOfKind?_append_singleton (kind : EncodingEntry → Bool) (entries : List EncodingEntry)
    (added : EncodingEntry) :
    lastOfKind? kind (entries ++ [added]) =
      if kind added then some added else lastOfKind? kind entries := by
  rw [lastOfKind?, List.reverse_append, List.reverse_singleton, List.singleton_append,
    List.find?_cons]
  cases kind added <;> rfl

theorem lastOfKind?_eq_some_iff :
    lastOfKind? kind entries = some entry ↔ entry.IsLast kind entries := by
  rw [lastOfKind?, List.find?_eq_some_iff_append, EncodingEntry.IsLast]
  refine and_congr_right fun _ => ?_
  constructor
  · rintro ⟨behind, before, parts, none⟩
    refine ⟨before.reverse, behind.reverse, ?_, fun other member => ?_⟩
    · simpa using congrArg List.reverse parts
    · simpa using none other (List.mem_reverse.mp member)
  · rintro ⟨before, behind, rfl, none⟩
    refine ⟨behind.reverse, before.reverse, by simp, fun other member => ?_⟩
    simpa using none other (List.mem_reverse.mp member)

/-- What is found first of either kind is found if both are looked for. -/
theorem find?_and {one other : EncodingEntry → Bool} (isOne : one entry = true)
    (isOther : other entry = true) (entries : List EncodingEntry) :
    entries.find? one = some entry ∧ entries.find? other = some entry ↔
      entries.find? (fun item => one item || other item) = some entry := by
  induction entries with
  | nil => simp
  | cons item rest ih =>
      simp only [List.find?_cons]
      by_cases same : item = entry
      · subst same
        simp [isOne, isOther]
      · cases one item <;> cases other item <;> simp [same, ih]

theorem isSome_lastOfKind? : (lastOfKind? kind entries).isSome ↔ ∃ entry ∈ entries, kind entry := by
  rw [lastOfKind?, List.find?_isSome]
  simp only [List.mem_reverse]

end Last

/-! ### Tables -/

namespace Traits

/-- The tables of these entries, of which those behind count before those in front. -/
structure HasEntries (entries : List EncodingEntry) (traits : Traits) : Prop where
  charOf : ∀ text, traits.charOf.get? text =
    (lastOfKind? (fun entry => entry.text = text) entries).map (·.char)
  encodingOf : ∀ char, traits.encodingOf.get? char =
    (lastOfKind? (fun entry => entry.char = char) entries).map (·.text)
  keyed : traits.charOf.keys.Nodup
  stored : ∃ members, traits.encodings.Holds members ∧
    ∀ text, text ∈ members ↔ text ≠ [] ∧ ∃ entry ∈ entries, entry.text.toList = text

variable {entries : List EncodingEntry} {traits : Traits}

theorem hasEntries_nil (charOf : traits.charOf = []) (encodingOf : traits.encodingOf = [])
    (encodings : traits.encodings = {}) : traits.HasEntries [] where
  charOf := by
    rw [charOf]
    exact fun text => rfl
  encodingOf := by
    rw [encodingOf]
    exact fun char => rfl
  keyed := by
    rw [charOf]
    exact List.nodup_nil
  stored := by
    rw [encodings]
    exact ⟨0, PrefixStore.holds_empty, by simp⟩

theorem HasEntries.add (has : traits.HasEntries entries) (entry : EncodingEntry) :
    (traits.addEncoding entry.text entry.char).HasEntries (entries ++ [entry]) where
  charOf := by
    intro text
    rw [addEncoding, Dictionary.get?_set, has.charOf, lastOfKind?_append_singleton]
    by_cases same : entry.text = text <;> simp [same]
  encodingOf := by
    intro char
    rw [addEncoding, Dictionary.get?_set, has.encodingOf, lastOfKind?_append_singleton]
    by_cases same : entry.char = char <;> simp [same]
  keyed := Dictionary.nodup_keys_set has.keyed entry.text entry.char
  stored := by
    obtain ⟨members, holds, texts⟩ := has.stored
    by_cases empty : entry.text.toList = []
    · -- The empty text is passed over, and adding it to the texts changes nothing for the others.
      refine ⟨members, ?_, fun text => ?_⟩
      · simpa [addEncoding, PrefixStore.add, empty] using holds
      · rw [texts]
        refine and_congr_right fun nonempty => ?_
        simp [empty, Ne.symm nonempty]
    · refine ⟨entry.text.toList ::ₘ members, holds.add empty, fun text => ?_⟩
      rw [Multiset.mem_cons, texts]
      constructor
      · rintro (rfl | ⟨nonempty, other, member, same⟩)
        · exact ⟨empty, entry, by simp, rfl⟩
        · exact ⟨nonempty, other, List.mem_append_left _ member, same⟩
      · rintro ⟨nonempty, other, member, same⟩
        rcases List.mem_append.mp member with old | new
        · exact Or.inr ⟨nonempty, other, old, same⟩
        · rw [List.mem_singleton.mp new] at same
          exact Or.inl same.symm

theorem HasEntries.addAll (has : traits.HasEntries entries) (more : List EncodingEntry) :
    (more.foldl (fun traits entry => traits.addEncoding entry.text entry.char)
      traits).HasEntries (entries ++ more) := by
  induction more generalizing entries traits with
  | nil => rwa [List.append_nil]
  | cons entry rest ih =>
      rw [List.foldl_cons, List.append_cons]
      exact ih (has.add entry)

theorem ofDefinition_hasEntries (definition : Definition) (region? : String → Option Int) :
    (ofDefinition definition region?).HasEntries definition.encodings.entries := by
  have start := @hasEntries_nil
  unfold ofDefinition
  exact (start rfl rfl rfl).addAll definition.encodings.entries

/-! ### Agreement -/

theorem HasEntries.mem_keys_iff (has : traits.HasEntries entries) (text : String) :
    text ∈ traits.charOf.keys ↔ ∃ entry ∈ entries, entry.text = text := by
  rw [Dictionary.mem_keys_iff, has.charOf, Option.isSome_map, isSome_lastOfKind?]
  simp

theorem HasEntries.contains_iff (has : traits.HasEntries entries) (text : String) :
    traits.encodings.contains text.toList = true ↔ text ≠ "" ∧ text ∈ traits.charOf.keys := by
  obtain ⟨members, holds, texts⟩ := has.stored
  rw [holds.contains_iff, texts, has.mem_keys_iff]
  simp [String.toList_inj]

theorem HasEntries.size_eq (has : traits.HasEntries entries) :
    traits.encodings.size = (traits.charOf.keys.filter (· ≠ "")).length := by
  obtain ⟨members, holds, texts⟩ := has.stored
  have distinct : ((traits.charOf.keys.filter (· ≠ "")).map String.toList).Nodup :=
    (has.keyed.filter _).map fun one other same => String.toList_inj.mp same
  have same : members.toFinset =
      ((traits.charOf.keys.filter (· ≠ "")).map String.toList).toFinset := by
    ext text
    rw [Multiset.mem_toFinset, List.mem_toFinset, List.mem_map, texts]
    constructor
    · rintro ⟨nonempty, entry, member, rfl⟩
      have named : entry.text ≠ "" := fun empty => nonempty (congrArg String.toList empty)
      exact ⟨entry.text, List.mem_filter.mpr
        ⟨(has.mem_keys_iff _).mpr ⟨entry, member, rfl⟩, decide_eq_true named⟩, rfl⟩
    · rintro ⟨key, member, rfl⟩
      obtain ⟨known, named⟩ := List.mem_filter.mp member
      obtain ⟨entry, entryMember, rfl⟩ := (has.mem_keys_iff key).mp known
      exact ⟨fun empty => of_decide_eq_true named (String.toList_inj.mp empty),
        entry, entryMember, rfl⟩
  rw [holds.size, same, List.toFinset_card_of_nodup distinct, List.length_map]

theorem HasEntries.charOf_eq_some_iff (has : traits.HasEntries entries) (text : String)
    (char : Char) :
    traits.charOf.get? text = some char ↔
      EncodingEntry.IsLast (fun entry => entry.text = text) entries ⟨char, text⟩ := by
  rw [has.charOf, Option.map_eq_some_iff]
  constructor
  · rintro ⟨⟨_, _⟩, found, rfl⟩
    have last := lastOfKind?_eq_some_iff.mp found
    obtain rfl := of_decide_eq_true last.1
    exact last
  · exact fun last => ⟨_, lastOfKind?_eq_some_iff.mpr last, rfl⟩

theorem HasEntries.encodingOf_eq_some_iff (has : traits.HasEntries entries) (char : Char)
    (text : String) :
    traits.encodingOf.get? char = some text ↔
      EncodingEntry.IsLast (fun entry => entry.char = char) entries ⟨char, text⟩ := by
  rw [has.encodingOf, Option.map_eq_some_iff]
  constructor
  · rintro ⟨⟨_, _⟩, found, rfl⟩
    have last := lastOfKind?_eq_some_iff.mp found
    obtain rfl := of_decide_eq_true last.1
    exact last
  · exact fun last => ⟨_, lastOfKind?_eq_some_iff.mpr last, rfl⟩

theorem HasEntries.both_eq_some_iff (has : traits.HasEntries entries) (char : Char)
    (text : String) :
    traits.encodingOf.get? char = some text ∧ traits.charOf.get? text = some char ↔
      EncodingEntry.IsLast (fun entry => entry.char = char || entry.text = text) entries
        ⟨char, text⟩ := by
  rw [has.encodingOf_eq_some_iff, has.charOf_eq_some_iff, ← lastOfKind?_eq_some_iff,
    ← lastOfKind?_eq_some_iff, ← lastOfKind?_eq_some_iff]
  exact find?_and (decide_eq_true rfl) (decide_eq_true rfl) entries.reverse

/-- Texts are known to the table and to the store of prefixes alike, but for the empty text. In
either direction the last entry counts, so a character is what its encoding stands for exactly if
no later entry is about one of the two. -/
theorem encodings_agree (definition : Definition) (region? : String → Option Int) :
    let traits := ofDefinition definition region?
    let entries := definition.encodings.entries
    traits.charOf.keys.Nodup ∧
      (∀ text, text ∈ traits.charOf.keys ↔ ∃ entry ∈ entries, entry.text = text) ∧
      (∀ text : String, traits.encodings.contains text.toList = true ↔
        text ≠ "" ∧ text ∈ traits.charOf.keys) ∧
      traits.encodings.size = (traits.charOf.keys.filter (· ≠ "")).length ∧
      (∀ text char, traits.charOf.get? text = some char ↔
        EncodingEntry.IsLast (fun entry => entry.text = text) entries ⟨char, text⟩) ∧
      (∀ char text, traits.encodingOf.get? char = some text ↔
        EncodingEntry.IsLast (fun entry => entry.char = char) entries ⟨char, text⟩) ∧
      ∀ char text,
        traits.encodingOf.get? char = some text ∧ traits.charOf.get? text = some char ↔
          EncodingEntry.IsLast (fun entry => entry.char = char || entry.text = text) entries
            ⟨char, text⟩ := by
  have has := ofDefinition_hasEntries definition region?
  exact ⟨has.keyed, has.mem_keys_iff, has.contains_iff, has.size_eq, has.charOf_eq_some_iff,
    has.encodingOf_eq_some_iff, has.both_eq_some_iff⟩

/-- A language with one text for two characters, and the empty one for another. -/
def ambiguousLanguage : Definition where
  name := "Ambiguous"
  contexts := [{ name := "Normal" }]
  encodings := { entries := [⟨'c', ""⟩, ⟨'a', "x"⟩, ⟨'b', "x"⟩] }

/-- The empty text has an entry but is no member of the store, and the encoding of `a` stands for
`b`. -/
theorem encodings_disagree_ambiguousLanguage :
    let traits := ofDefinition ambiguousLanguage fun _ => none
    (¬∀ text : String, text ∈ traits.charOf.keys ↔
        traits.encodings.contains text.toList = true) ∧
      traits.charOf.keys.length ≠ traits.encodings.size ∧
      ¬∀ char text, traits.encodingOf.get? char = some text →
        traits.charOf.get? text = some char := by
  intro traits
  have keys : traits.charOf.keys = ["", "x"] := by cbv
  have members : traits.encodings.contains [] = false ∧ traits.encodings.size = 1 := by cbv
  have tables : traits.encodingOf.get? 'a' = some "x" ∧ traits.charOf.get? "x" = some 'b' := by
    cbv
  refine ⟨fun agree => ?_, ?_, fun undoes => ?_⟩
  · have stored := (agree "").mp (by rw [keys]; exact List.mem_cons_self)
    rw [String.toList_empty, members.1] at stored
    cases stored
  · rw [keys, members.2]
    decide
  · have same := tables.2.symm.trans (undoes 'a' "x" tables.1)
    cases same

end Traits

end SyntaxHighlight
