/-
Lists of fields that end early. The terminator behind the fields that there are is read in place of
the next one. To the readers of classes, colors and fonts it says as little as a blank field does,
but to those of flags it says that the flag is set.
-/

import SyntaxHighlight.Proofs.Override.Fields

namespace SyntaxHighlight

open SyntaxHighlight.Text

namespace Override

variable {α : Type}

/-! ### Fields behind the last one -/

theorem field_append (fields : List String) (last : String) (index : Nat) :
    field (fields ++ [last]) index =
      if index = fields.length then trimString last else field fields index := by
  unfold field
  rcases Nat.lt_trichotomy index fields.length with before | same | behind
  · rw [List.getElem?_append_left before, if_neg (Nat.ne_of_lt before)]
  · simp [same]
  · have beyond : (fields ++ [last]).length ≤ index := by
      simpa using behind
    rw [List.getElem?_eq_none beyond, List.getElem?_eq_none (Nat.le_of_lt behind),
      if_neg (Nat.ne_of_gt behind)]

theorem field_beyond {fields : List String} {index : Nat} (beyond : fields.length ≤ index) :
    field fields index = "" := by
  rw [field, List.getElem?_eq_none beyond]
  rfl

/-- Blank fields say what missing ones say. -/
theorem field_rightpad (fields : List String) (count index : Nat) :
    field (fields.rightpad count "") index = field fields index := by
  unfold field
  by_cases inside : index < fields.length
  · rw [List.rightpad, List.getElem?_append_left inside]
  · have behind := Nat.le_of_not_lt inside
    rw [List.rightpad, List.getElem?_append_right behind, List.getElem?_replicate,
      List.getElem?_eq_none behind]
    split <;> rfl

theorem apply_rightpad (target : Attribute) (fields : List String) (count : Nat) :
    apply target (fields.rightpad count "") = apply target fields := by
  simp only [apply, field_rightpad]

/-! ### The terminator in place of a field -/

/-- A reader to which the terminator says what a blank field says. -/
def Passes (read : String → α) : Prop := read (trimString terminator) = read ""

theorem readClass_passes : Passes readClass := rfl

theorem readColor_passes : Passes readColor := rfl

theorem readFont_passes : Passes readFont := rfl

theorem readFlag_terminator : readFlag (trimString terminator) = some true := rfl

theorem Passes.read_append {read : String → α} (passes : Passes read) (fields : List String)
    (index : Nat) :
    read (field (fields ++ [terminator]) index) = read (field fields index) := by
  rw [field_append]
  split
  case isTrue same =>
    rw [passes, field_beyond (Nat.le_of_eq same.symm)]
  case isFalse => rfl

theorem readFlag_append (fields : List String) (index : Nat) :
    readFlag (field (fields ++ [terminator]) index) =
      if fields.length = index then some true else readFlag (field fields index) := by
  rw [field_append]
  by_cases same : index = fields.length
  · rw [if_pos same, if_pos same.symm, readFlag_terminator]
  · rw [if_neg same, if_neg (Ne.symm same)]

end Override

/-- The attribute with the flag set that stands at an index of the fields, if one does. -/
def Attribute.flagged (attr : Attribute) (index : Nat) : Attribute :=
  { attr with
    style :=
      { attr.style with
        bold := if index = 3 then some true else attr.style.bold
        italic := if index = 4 then some true else attr.style.italic
        strikeout := if index = 5 then some true else attr.style.strikeout
        underline := if index = 6 then some true else attr.style.underline } }

theorem Attribute.flagged_of_outside (attr : Attribute) {index : Nat}
    (outside : index < 3 ∨ 6 < index) : attr.flagged index = attr := by
  unfold flagged
  rw [if_neg (by omega), if_neg (by omega), if_neg (by omega), if_neg (by omega)]

namespace Override

theorem apply_append_terminator (target : Attribute) (fields : List String) :
    apply target (fields ++ [terminator]) = (apply target fields).flagged fields.length := by
  simp only [apply, Attribute.flagged, readFlag_append, readClass_passes.read_append,
    readColor_passes.read_append, readFont_passes.read_append]

theorem readFlag_beyond {fields : List String} {index : Nat} (beyond : index = fields.length) :
    readFlag (field fields index) = none := by
  rw [field_beyond (Nat.le_of_eq beyond.symm)]
  rfl

/-- Where fields end no flag is set, so one that is set there makes a difference. -/
theorem apply_append_terminator_eq_iff (target : Attribute) (fields : List String) :
    apply target (fields ++ [terminator]) = apply target fields ↔
      fields.length < 3 ∨ 6 < fields.length := by
  rw [apply_append_terminator]
  constructor
  · intro same
    by_contra between
    have styles := congrArg Attribute.style same
    dsimp only [Attribute.flagged, apply] at styles
    obtain next | next | next | next : 3 = fields.length ∨ 4 = fields.length ∨
        5 = fields.length ∨ 6 = fields.length := by omega
    · simpa [← next, readFlag_beyond next] using congrArg TextStyle.bold styles
    · simpa [← next, readFlag_beyond next] using congrArg TextStyle.italic styles
    · simpa [← next, readFlag_beyond next] using congrArg TextStyle.strikeout styles
    · simpa [← next, readFlag_beyond next] using congrArg TextStyle.underline styles
  · exact fun outside => Attribute.flagged_of_outside _ outside

/-- When only the first fields of an attribute are followed by the terminator, the attribute is the
one that these fields give with blank ones behind them, but for the flag that would have come next.
So the terminator is passed over if and only if the next field is none of the four flags. -/
theorem apply_take_terminator (target attr : Attribute) (schema : Schema) (withDefaults : Bool)
    (count : Nat) :
    apply target ((encode attr schema withDefaults).take count ++ [terminator]) =
        (apply target (((encode attr schema withDefaults).take count).rightpad fieldCount "")).flagged
          count ∧
      (apply target ((encode attr schema withDefaults).take count ++ [terminator]) =
          apply target (((encode attr schema withDefaults).take count).rightpad fieldCount "") ↔
        count < 3 ∨ 6 < count) := by
  have length : ((encode attr schema withDefaults).take count).length = min count 11 := by
    rw [List.length_take, length_encode]
    rfl
  generalize (encode attr schema withDefaults).take count = known at length ⊢
  rw [apply_rightpad, apply_append_terminator_eq_iff, apply_append_terminator]
  refine ⟨?_, by omega⟩
  by_cases inside : count ≤ 11
  · rw [length, Nat.min_eq_left inside]
  · rw [Attribute.flagged_of_outside _ (by omega), Attribute.flagged_of_outside _ (by omega)]

/-- Behind the class and the colors of text the terminator makes it bold. -/
theorem apply_take_terminator_ne_keyword :
    apply { name := "Keyword", styleClass := .keyword }
        ((encode { name := "Keyword", styleClass := .keyword } .normal false).take 3 ++
          [terminator]) ≠
      apply { name := "Keyword", styleClass := .keyword }
        (((encode { name := "Keyword", styleClass := .keyword } .normal false).take 3).rightpad
          fieldCount "") := by
  intro same
  have bold := congrArg (fun attr => attr.style.bold) same
  cases bold

end Override

end SyntaxHighlight
