/-
Fields that are read, written and read again. Whatever a list of fields says, what is read from it
is a style for which stores have room. So an attribute that is written loses once what stores have
no room for, and nothing after that.
-/

import SyntaxHighlight.Proofs.Override.Fields

namespace SyntaxHighlight

open SyntaxHighlight.Text

namespace Override

variable {text font : String} {color : Color}

/-! ### What is read -/

theorem readColor_lt (read : readColor text = some color) : color.code.toNat < 2 ^ 24 := by
  unfold readColor at read
  split at read
  · cases read
  · obtain ⟨code, _, same⟩ := Option.map_eq_some_iff.mp read
    rw [← same, Color.toNat_masked]
    exact Nat.mod_lt _ (by decide)

theorem readFont_eq_filter (text : String) :
    readFont text = (some text).filter fun font => font != "" && font != terminator := by
  simp only [readFont, Option.filter_some]
  by_cases blank : text = ""
  · simp [blank]
  · by_cases terminates : text = terminator
    · simp [terminates]
    · simp [blank, terminates]

theorem readFont_eq_some (read : readFont text = some font) :
    font = text ∧ font ≠ "" ∧ font ≠ terminator := by
  rw [readFont_eq_filter, Option.filter_eq_some_iff] at read
  obtain ⟨same, named⟩ := read
  cases same
  simpa using named

theorem apply_isStorable (target : Attribute) (fields : List String) :
    (apply target fields).style.IsStorable := by
  unfold apply
  constructor <;> dsimp only
  · exact fun _ => readColor_lt
  · exact fun _ => readColor_lt
  · exact fun _ => readColor_lt
  · exact fun _ => readColor_lt
  · intro font read
    obtain ⟨rfl, named, apart⟩ := readFont_eq_some read
    exact ⟨trimString_trimString _, named, apart⟩

/-! ### What is written and read -/

theorem stored_fontFamily (style : TextStyle) :
    style.stored.fontFamily =
      (style.fontFamily.map trimString).filter fun font => font != "" && font != terminator := by
  unfold TextStyle.stored
  cases style.fontFamily with
  | none => rfl
  | some font => rw [Option.bind_some, readFont_eq_filter, Option.map_some]

/-- An attribute that is written and read again has colors of three parts and a font without white
space around it, unless nothing is left of that or it is called like the terminator. What is read
from a list of fields, whatever these are, is read again when it is written. -/
theorem apply_encode_normalizes (schema : Schema) (target : Attribute) :
    (∀ attr, apply target (encode attr schema false) =
        { name := target.name
          styleClass := attr.styleClass
          style :=
            { foreground := attr.style.foreground.map Color.masked
              selectedForeground := attr.style.selectedForeground.map Color.masked
              background := attr.style.background.map Color.masked
              selectedBackground := attr.style.selectedBackground.map Color.masked
              bold := attr.style.bold
              italic := attr.style.italic
              underline := attr.style.underline
              strikeout := attr.style.strikeout
              fontFamily := (attr.style.fontFamily.map trimString).filter fun font =>
                font != "" && font != terminator }
          skipsSpellChecking := target.skipsSpellChecking }) ∧
      ∀ fields,
        apply target (encode (apply target fields) schema false) = apply target fields ∧
          apply (apply target fields) (encode (apply target fields) schema false) =
            apply target fields := by
  constructor
  · intro attr
    rw [apply_encode, ← stored_fontFamily]
    rfl
  · intro fields
    have kept := (apply_isStorable target fields).stored_eq_self
    constructor
    · rw [apply_encode, kept]
      dsimp only [apply]
    · rw [apply_encode, kept]

end Override

end SyntaxHighlight
