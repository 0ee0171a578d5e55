/-
Overrides that are written as fields and read again. Each kind of field gives back what it was
written from, up to what it has no room for: parts of a color beyond the lowest three, white space
around the name of a font, and a font that is called like the terminator.
-/

import SyntaxHighlight.Override.Fields
import SyntaxHighlight.Proofs.Text.Numeral
import SyntaxHighlight.Proofs.Text.Trimming

namespace SyntaxHighlight

open SyntaxHighlight.Text

/-! ### Colors -/

namespace Color

theorem toNat_masked (color : Color) : color.masked.code.toNat = color.code.toNat % 2 ^ 24 := by
  have mask : (0xFFFFFF : UInt32).toNat = 2 ^ 24 - 1 := rfl
  rw [masked, UInt32.toNat_and, mask, Nat.and_two_pow_sub_one_eq_mod]

theorem masked_eq_self {color : Color} (fits : color.code.toNat < 2 ^ 24) :
    color.masked = color := by
  have same : color.masked.code.toNat = color.code.toNat := by
    rw [toNat_masked, Nat.mod_eq_of_lt fits]
  cases color
  exact congrArg Color.mk (UInt32.toNat_inj.mp same)

theorem opaqueText_toList (color : Color) :
    color.opaqueText.toList = 'f' :: 'f' :: hexDigits 6 color.masked.code.toNat := by
  rw [opaqueText, String.toList_ofList]
  rfl

theorem isWhitespace_opaqueText (color : Color) :
    ∀ char ∈ color.opaqueText.toList, isWhitespace char = false := by
  intro char member
  rw [opaqueText_toList] at member
  rcases List.mem_cons.mp member with rfl | behind
  · rfl
  · rcases List.mem_cons.mp behind with rfl | digits
    · rfl
    · obtain ⟨digit, below, rfl⟩ := mem_hexDigits digits
      exact isWhitespace_hexDigit digit below

theorem readUnsigned?_opaqueText (color : Color) :
    readUnsigned? 16 color.opaqueText.toList = some (255 * 2 ^ 24 + color.masked.code.toNat) := by
  have below : color.masked.code.toNat < 2 ^ 24 := by
    rw [toNat_masked]
    exact Nat.mod_lt _ (by decide)
  -- The two digits of the alpha part are read first.
  have digits := readDigitsFrom_hexDigits 6 255 color.masked.code.toNat
  rw [show 16 ^ 6 = 2 ^ 24 from rfl, Nat.mod_eq_of_lt below] at digits
  rw [opaqueText_toList]
  exact digits

theorem masked_ofNat (color : Color) :
    masked ⟨UInt32.ofNat (255 * 2 ^ 24 + color.masked.code.toNat)⟩ = color.masked := by
  have same : (masked ⟨UInt32.ofNat (255 * 2 ^ 24 + color.masked.code.toNat)⟩).code.toNat =
      color.masked.code.toNat := by
    rw [toNat_masked, toNat_masked, UInt32.toNat_ofNat']
    omega
  exact congrArg mk (UInt32.toNat_inj.mp same)

/-- A color comes back from a store without anything above its three parts. -/
theorem ofOpaqueText?_opaqueText (color : Color) :
    ofOpaqueText? color.opaqueText = some color.masked := by
  have below : color.masked.code.toNat < 2 ^ 24 := by
    rw [toNat_masked]
    exact Nat.mod_lt _ (by decide)
  have word : 255 * 2 ^ 24 + color.masked.code.toNat < wordRange 32 := by
    change _ < 2 ^ 32
    omega
  have trimmed := trim_eq_self (isWhitespace_opaqueText color)
  have read : ofOpaqueText? color.opaqueText =
      (((readUnsigned? 16 (trim color.opaqueText.toList)).filter
        (· < wordRange 32)).map UInt32.ofNat).map fun code => masked ⟨code⟩ := rfl
  rw [read, trimmed, readUnsigned?_opaqueText, Option.filter_some, if_pos (decide_eq_true word),
    Option.map_some, Option.map_some, masked_ofNat]

end Color

/-! ### Styles -/

/-- A style as it comes back from a store. -/
def TextStyle.stored (style : TextStyle) : TextStyle where
  foreground := style.foreground.map Color.masked
  selectedForeground := style.selectedForeground.map Color.masked
  background := style.background.map Color.masked
  selectedBackground := style.selectedBackground.map Color.masked
  bold := style.bold
  italic := style.italic
  underline := style.underline
  strikeout := style.strikeout
  fontFamily := style.fontFamily.bind fun font => Override.readFont (trimString font)

/-- A style for which stores have room: colors of three parts, and a font with a name that has no
white space around it and is not blank nor the terminator. -/
structure TextStyle.IsStorable (style : TextStyle) : Prop where
  foreground : ∀ color, style.foreground = some color → color.code.toNat < 2 ^ 24
  selectedForeground : ∀ color, style.selectedForeground = some color → color.code.toNat < 2 ^ 24
  background : ∀ color, style.background = some color → color.code.toNat < 2 ^ 24
  selectedBackground : ∀ color, style.selectedBackground = some color → color.code.toNat < 2 ^ 24
  font : ∀ font, style.fontFamily = some font →
    trimString font = font ∧ font ≠ "" ∧ font ≠ Override.terminator

theorem map_masked_eq_self {color? : Option Color}
    (fits : ∀ color, color? = some color → color.code.toNat < 2 ^ 24) :
    color?.map Color.masked = color? := by
  cases color? with
  | none => rfl
  | some color => rw [Option.map_some, Color.masked_eq_self (fits color rfl)]

theorem TextStyle.IsStorable.stored_eq_self {style : TextStyle} (storable : style.IsStorable) :
    style.stored = style := by
  have font : (style.fontFamily.bind fun font => Override.readFont (trimString font)) =
      style.fontFamily := by
    cases named : style.fontFamily with
    | none => rfl
    | some font =>
        obtain ⟨trimmed, nonempty, apart⟩ := storable.font font named
        rw [Option.bind_some, trimmed, Override.readFont, String.isEmpty_eq_false_iff.mpr nonempty,
          beq_eq_false_iff_ne.mpr apart]
        rfl
  unfold TextStyle.stored
  rw [map_masked_eq_self storable.foreground, map_masked_eq_self storable.selectedForeground,
    map_masked_eq_self storable.background, map_masked_eq_self storable.selectedBackground, font]

/-! ### Fields -/

namespace Override

theorem readClass_index (styleClass : StyleClass) :
    readClass (trimString (toString styleClass.index)) = styleClass := by
  cases styleClass <;> rfl

theorem readColor_encodeProperty (color? default : Option Color) :
    readColor (trimString (encodeProperty Color.opaqueText false color? default)) =
      color?.map Color.masked := by
  cases color? with
  | none => rfl
  | some color =>
      have trimmed : trimString color.opaqueText = color.opaqueText := by
        rw [trimString, trim_eq_self color.isWhitespace_opaqueText, String.ofList_toList]
      have nonempty : color.opaqueText.isEmpty = false := by
        apply String.isEmpty_eq_false_iff.mpr
        intro empty
        have chars := color.opaqueText_toList
        rw [empty] at chars
        cases chars
      change readColor (trimString color.opaqueText) = some color.masked
      rw [trimmed, readColor, nonempty, if_neg Bool.false_ne_true, color.ofOpaqueText?_opaqueText]

theorem readFlag_encodeProperty (flag? default : Option Bool) :
    readFlag (trimString (encodeProperty flagText false flag? default)) = flag? := by
  cases flag? with
  | none => rfl
  | some flag =>
      change readFlag (trimString (flagText flag)) = some flag
      cases flag with
      | false => rfl
      | true => rfl

theorem readFont_encodeProperty (font? default : Option String) :
    readFont (trimString (encodeProperty id false font? default)) =
      font?.bind fun font => readFont (trimString font) := by
  cases font? with
  | none => rfl
  | some font => rw [encodeProperty, id, Option.bind_some]

/-- Fields that are written of an attribute without defaults give its class and its style to any
other attribute. -/
theorem apply_encode (target attr : Attribute) (schema : Schema) :
    apply target (encode attr schema false) =
      { target with styleClass := attr.styleClass, style := attr.style.stored } := by
  have styleClass : readClass (field (encode attr schema false) 0) = attr.styleClass :=
    readClass_index attr.styleClass
  have foreground : readColor (field (encode attr schema false) 1) =
      attr.style.foreground.map Color.masked := readColor_encodeProperty _ _
  have selectedForeground : readColor (field (encode attr schema false) 2) =
      attr.style.selectedForeground.map Color.masked := readColor_encodeProperty _ _
  have bold : readFlag (field (encode attr schema false) 3) = attr.style.bold :=
    readFlag_encodeProperty _ _
  have italic : readFlag (field (encode attr schema false) 4) = attr.style.italic :=
    readFlag_encodeProperty _ _
  have strikeout : readFlag (field (encode attr schema false) 5) = attr.style.strikeout :=
    readFlag_encodeProperty _ _
  have underline : readFlag (field (encode attr schema false) 6) = attr.style.underline :=
    readFlag_encodeProperty _ _
  have background : readColor (field (encode attr schema false) 7) =
      attr.style.background.map Color.masked := readColor_encodeProperty _ _
  have selectedBackground : readColor (field (encode attr schema false) 8) =
      attr.style.selectedBackground.map Color.masked := readColor_encodeProperty _ _
  have font : readFont (field (encode attr schema false) 9) =
      attr.style.fontFamily.bind fun font => readFont (trimString font) :=
    readFont_encodeProperty _ _
  unfold apply TextStyle.stored
  rw [styleClass, foreground, selectedForeground, bold, italic, strikeout, underline, background,
    selectedBackground, font]

theorem length_encode (attr : Attribute) (schema : Schema) (withDefaults : Bool) :
    (encode attr schema withDefaults).length = fieldCount + 1 :=
  rfl

end Override

end SyntaxHighlight
