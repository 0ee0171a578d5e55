/-
Groups of overrides are named after a mode and a schema with a separator between them. Two pairs of
names give one group only if the separator, but for its last blank, occurs in the name of a mode:
one mode has the name of the other with a separator behind it, and what follows there begins the
name of the other schema.
-/

import SyntaxHighlight.Override.Persistence

namespace SyntaxHighlight.Override

/-- What stands between the names of the mode and the schema. -/
def separator : List Char := " - Schema ".toList

/-- A name in which the separator may seem to begin too early. -/
def IsAmbiguous (name : String) : Prop := " - Schema".toList <:+: name.toList

theorem group_toList (mode schema : String) :
    (group mode schema).toList =
      "Highlighting ".toList ++ (mode.toList ++ (separator ++ schema.toList)) := by
  change ("Highlighting " ++ mode ++ " - Schema " ++ schema).toList = _
  rw [String.toList_append, String.toList_append, String.toList_append, List.append_assoc,
    List.append_assoc]
  rfl

/-- The separator ends like it begins in one character only. -/
theorem separator_drop_ne_take :
    ∀ count, count < 9 → 0 < count → separator.drop count ≠ separator.take (10 - count) := by
  decide

/-- What the name of one mode has in front of the separator and that of the other has not begins
with the separator itself. -/
theorem begins_of_separator_eq {front one other : List Char}
    (same : separator ++ one = front ++ (separator ++ other)) :
    front = [] ∨ " - Schema".toList <+: front := by
  by_cases long : 9 ≤ front.length
  · have taken := congrArg (List.take 9) same
    rw [List.take_append_of_le_length (by decide), List.take_append_of_le_length long] at taken
    refine Or.inr ⟨front.drop 9, ?_⟩
    rw [show " - Schema".toList = separator.take 9 from rfl, taken, List.take_append_drop]
  · by_cases empty : front.length = 0
    · exact Or.inl (List.eq_nil_of_length_eq_zero empty)
    · have short : front.take 10 = front := List.take_of_length_le (by omega)
      have within : 10 - front.length ≤ separator.length := Nat.sub_le 10 front.length
      have taken := congrArg (List.take 10) same
      rw [List.take_append_of_le_length (by decide), List.take_append, short,
        List.take_append_of_le_length within] at taken
      have dropped := congrArg (List.drop front.length) taken
      rw [List.drop_left] at dropped
      exact absurd dropped (separator_drop_ne_take front.length (by omega) (by omega))

/-- The name of the other mode goes on with a separator where that of the mode ends, and the name of
the schema is what would have to follow. -/
def Overlaps (mode schema other name : String) : Prop :=
  ∃ between, other.toList = mode.toList ++ " - Schema".toList ++ between ∧
    ' ' :: schema.toList = between ++ separator ++ name.toList

theorem overlaps_of_longer {mode schema other name : String} {front : List Char}
    (longer : other.toList = mode.toList ++ front)
    (seam : separator ++ schema.toList = front ++ (separator ++ name.toList)) :
    (mode = other ∧ schema = name) ∨ Overlaps mode schema other name := by
  rcases begins_of_separator_eq seam with rfl | ⟨between, rfl⟩
  · rw [List.append_nil] at longer
    exact Or.inl ⟨String.toList_inj.mp longer.symm,
      String.toList_inj.mp (List.append_cancel_left seam)⟩
  · have seamAgain : " - Schema".toList ++ (' ' :: schema.toList) =
        " - Schema".toList ++ (between ++ (separator ++ name.toList)) :=
      seam.trans (List.append_assoc _ _ _)
    have behind := List.append_cancel_left seamAgain
    rw [← List.append_assoc] at longer behind
    exact Or.inr ⟨between, longer, behind⟩

theorem Overlaps.group_eq {mode schema other name : String}
    (overlaps : Overlaps mode schema other name) : group mode schema = group other name := by
  obtain ⟨between, longer, behind⟩ := overlaps
  have seam : separator ++ schema.toList = " - Schema".toList ++ (' ' :: schema.toList) := rfl
  apply String.toList_inj.mp
  rw [group_toList, group_toList, seam, behind, longer]
  simp only [List.append_assoc]

theorem Overlaps.schema_longer {mode schema other name : String}
    (overlaps : Overlaps mode schema other name) : name.toList.length < schema.toList.length := by
  obtain ⟨between, _, behind⟩ := overlaps
  have lengths := congrArg List.length behind
  have wide : 1 < separator.length := by decide
  rw [List.length_cons, List.length_append, List.length_append] at lengths
  omega

/-- Two pairs of names give one group exactly if they are the same or overlap. -/
theorem group_eq_iff_overlaps (mode schema other name : String) :
    group mode schema = group other name ↔
      (mode = other ∧ schema = name) ∨ Overlaps mode schema other name ∨
        Overlaps other name mode schema := by
  constructor
  · intro same
    have chars := congrArg String.toList same
    rw [group_toList, group_toList] at chars
    rcases List.append_eq_append_iff.mp (List.append_cancel_left chars) with
      ⟨front, longer, seam⟩ | ⟨front, longer, seam⟩
    · exact (overlaps_of_longer longer seam).imp id Or.inl
    · exact (overlaps_of_longer longer seam).imp (fun both => ⟨both.1.symm, both.2.symm⟩) Or.inr
  · rintro (⟨rfl, rfl⟩ | overlaps | overlaps)
    · rfl
    · exact overlaps.group_eq
    · exact overlaps.group_eq.symm

theorem Overlaps.isAmbiguous {mode schema other name : String}
    (overlaps : Overlaps mode schema other name) : IsAmbiguous other := by
  obtain ⟨between, longer, _⟩ := overlaps
  exact ⟨mode.toList, between, longer.symm⟩

/-- Names of modes in which no separator seems to begin keep all groups apart. -/
theorem group_eq_iff {mode other schema name : String} (modeClear : ¬IsAmbiguous mode)
    (otherClear : ¬IsAmbiguous other) :
    group mode schema = group other name ↔ mode = other ∧ schema = name := by
  rw [group_eq_iff_overlaps, or_iff_left]
  rintro (overlaps | overlaps)
  · exact otherClear overlaps.isAmbiguous
  · exact modeClear overlaps.isAmbiguous

end SyntaxHighlight.Override
