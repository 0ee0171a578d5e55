/-
The texts that colors are written in. A color that people write has six hexadecimal digits; its
length is counted with a plus sign, which may stand in the place of the first digit. Whatever word
a color is, both of its texts give back its three parts.
-/

import Mathlib
import SyntaxHighlight.Proofs.Override.Fields

namespace SyntaxHighlight

open SyntaxHighlight.Text

/-! ### Characters of numerals -/

namespace Text

variable {text : List Char} {value : Nat}

theorem hexDigit_isPlain : ∀ value, value < 16 →
    ∀ char, char = hexDigit value ∨ char = (hexDigit value).toUpper →
      isWhitespace char = false ∧ char ≠ '#' ∧ char ≠ '+' ∧ char.utf8Size = 1 := by
  simp only [forall_eq_or_imp, forall_eq]
  decide

theorem IsHexNumeral.isPlain (numeral : IsHexNumeral text value) :
    ∀ char ∈ text, isWhitespace char = false ∧ char ≠ '#' ∧ char ≠ '+' ∧ char.utf8Size = 1 := by
  obtain ⟨digits, all, -⟩ := numeral
  induction all with
  | nil =>
      intro char impossible
      cases impossible
  | cons first _ ih =>
      exact List.forall_mem_cons.mpr ⟨hexDigit_isPlain _ first.below _ first.written, ih⟩

theorem utf8Len_eq_length {text : List Char} (narrow : ∀ char ∈ text, char.utf8Size = 1) :
    String.utf8Len text = text.length := by
  induction text with
  | nil => rfl
  | cons char rest ih =>
      obtain ⟨first, later⟩ := List.forall_mem_cons.mp narrow
      rw [String.utf8Len_cons, ih later, first, List.length_cons]

theorem IsHexNumeral.utf8Len_eq (numeral : IsHexNumeral text value) :
    String.utf8Len text = text.length :=
  utf8Len_eq_length fun char member => (numeral.isPlain char member).2.2.2

end Text

/-! ### Texts for people -/

namespace Color

/-- Six hexadecimal digits, or a plus sign and five. -/
inductive IsSpelledBy (color : Color) : List Char → Prop where
  | digits {digits : List Char} (six : digits.length = 6)
      (numeral : IsHexNumeral digits color.code.toNat) : IsSpelledBy color digits
  | signed {digits : List Char} (five : digits.length = 5)
      (numeral : IsHexNumeral digits color.code.toNat) : IsSpelledBy color ('+' :: digits)

/-- A text is white space, number signs, the given characters and white space again. -/
def Encloses (text : String) (chars : List Char) : Prop :=
  ∃ front marks behind, IsBlank front ∧ (∀ mark ∈ marks, mark = '#') ∧ IsBlank behind ∧
    text.toList = front ++ (marks ++ chars) ++ behind

variable {text : String} {color : Color} {chars digits : List Char}

theorem IsSpelledBy.isPlain (spelled : color.IsSpelledBy chars) :
    (∀ char ∈ chars, isWhitespace char = false) ∧ (∀ char ∈ chars, char ≠ '#') ∧
      String.utf8Len chars = 6 := by
  cases spelled with
  | digits six numeral =>
      exact ⟨fun char member => (numeral.isPlain char member).1,
        fun char member => (numeral.isPlain char member).2.1, numeral.utf8Len_eq.trans six⟩
  | signed five numeral =>
      refine ⟨List.forall_mem_cons.mpr ⟨rfl, fun char member => (numeral.isPlain char member).1⟩,
        List.forall_mem_cons.mpr ⟨by decide, fun char member => (numeral.isPlain char member).2.1⟩,
        ?_⟩
      rw [String.utf8Len_cons, numeral.utf8Len_eq, five]
      rfl

/-- A color is read from what is left without white space around it and number signs before it. -/
theorem read_eq_ok_iff_readUnsigned? :
    read text = .ok color ↔
      let chars := (trim text.toList).dropWhile (· == '#')
      String.utf8Len chars = 6 ∧ ∃ value, readUnsigned? 16 chars = some value ∧
        value < 2 ^ 32 ∧ UInt32.ofNat value = color.code := by
  unfold read
  dsimp only
  generalize (trim text.toList).dropWhile (· == '#') = chars
  rw [String.utf8ByteSize_ofList]
  unfold readWord?
  constructor
  · intro accepted
    split at accepted
    · cases accepted
    · rename_i length
      split at accepted
      · rename_i code found
        cases accepted
        obtain ⟨value, kept, same⟩ := Option.map_eq_some_iff.mp found
        obtain ⟨read, small⟩ := Option.filter_eq_some_iff.mp kept
        exact ⟨not_not.mp length, value, read, of_decide_eq_true small, same⟩
      · cases accepted
  · rintro ⟨length, value, read, small, same⟩
    have word : value < wordRange 32 := small
    rw [if_neg (not_not.mpr length), read, Option.filter_some, if_pos (decide_eq_true word),
      Option.map_some, same]

theorem readUnsigned?_eq_some_iff_isSpelledBy (length : String.utf8Len chars = 6) :
    (∃ value, readUnsigned? 16 chars = some value ∧ value < 2 ^ 32 ∧
      UInt32.ofNat value = color.code) ↔ color.IsSpelledBy chars := by
  have coded {digits : List Char} {value : Nat} (numeral : IsHexNumeral digits value)
      (short : digits.length ≤ 6) : value < 2 ^ 32 ∧
        (UInt32.ofNat value = color.code ↔ value = color.code.toNat) := by
    have bound : value < 2 ^ 32 := by
      have wide : 16 ^ digits.length ≤ 16 ^ 6 := Nat.pow_le_pow_right (by decide) short
      have below := numeral.lt
      omega
    refine ⟨bound, ?_⟩
    rw [← UInt32.toNat_inj, UInt32.toNat_ofNat', Nat.mod_eq_of_lt bound]
  constructor
  · rintro ⟨value, read, -, same⟩
    unfold readUnsigned? at read
    split at read
    · rename_i digits
      have nonempty : digits ≠ [] := by
        rintro rfl
        cases length
      have numeral := (readDigits?_eq_some_iff nonempty).mp read
      have five : digits.length = 5 := by
        rw [String.utf8Len_cons, numeral.utf8Len_eq] at length
        exact Nat.succ.inj length
      rw [(coded numeral (by omega)).2] at same
      exact .signed five (same ▸ numeral)
    · have nonempty : chars ≠ [] := by
        rintro rfl
        cases length
      have numeral := (readDigits?_eq_some_iff nonempty).mp read
      have six : chars.length = 6 := numeral.utf8Len_eq.symm.trans length
      rw [(coded numeral (by omega)).2] at same
      exact .digits six (same ▸ numeral)
  · intro spelled
    refine ⟨color.code.toNat, ?_, color.code.toNat_lt, UInt32.ofNat_toNat⟩
    cases spelled with
    | digits six numeral =>
        have nonempty : chars ≠ [] := List.ne_nil_of_length_pos (by omega)
        have unsigned : readUnsigned? 16 chars = readDigits? 16 chars := by
          unfold readUnsigned?
          split
          · exact absurd rfl (numeral.isPlain '+' List.mem_cons_self).2.2.1
          · rfl
        rw [unsigned, readDigits?_eq_some_iff nonempty]
        exact numeral
    | signed five numeral =>
        have nonempty := List.ne_nil_of_length_pos (Nat.lt_of_lt_of_eq (by decide) five.symm)
        exact (readDigits?_eq_some_iff nonempty).mpr numeral

/-- What spells a color is what is left of a text that encloses it. -/
theorem dropWhile_trim_eq_of_isSpelledBy (spelled : color.IsSpelledBy chars)
    (enclosed : Encloses text chars) : (trim text.toList).dropWhile (· == '#') = chars := by
  obtain ⟨front, marks, behind, frontBlank, isMark, behindBlank, parts⟩ := enclosed
  obtain ⟨notBlank, notMark, -⟩ := spelled.isPlain
  have bare : trim (marks ++ chars) = marks ++ chars := by
    refine trim_eq_self fun char member => ?_
    rcases List.mem_append.mp member with mark | own
    · rw [isMark char mark]
      rfl
    · exact notBlank char own
  rw [parts, trim_append_right behindBlank, trim_append_left frontBlank, bare,
    List.dropWhile_append_of_pos fun mark member => beq_iff_eq.mpr (isMark mark member)]
  exact dropWhile_eq_self fun char member => beq_eq_false_iff_ne.mpr (notMark char member)

theorem encloses_dropWhile_trim (text : String) :
    Encloses text ((trim text.toList).dropWhile (· == '#')) := by
  obtain ⟨front, behind, frontBlank, behindBlank, parts⟩ := exists_blank_trim text.toList
  refine ⟨front, (trim text.toList).takeWhile (· == '#'), behind, frontBlank, ?_, behindBlank, ?_⟩
  · intro mark member
    have equal := List.mem_takeWhile_imp member
    exact beq_iff_eq.mp equal
  · rw [List.takeWhile_append_dropWhile, List.append_assoc]
    exact parts

theorem read_eq_ok_iff_isSpelledBy :
    read text = .ok color ↔ ∃ chars, Encloses text chars ∧ color.IsSpelledBy chars := by
  rw [read_eq_ok_iff_readUnsigned?]
  dsimp only
  constructor
  · rintro ⟨length, read⟩
    exact ⟨_, encloses_dropWhile_trim text,
      (readUnsigned?_eq_some_iff_isSpelledBy length).mp read⟩
  · rintro ⟨chars, enclosed, spelled⟩
    obtain ⟨-, -, length⟩ := spelled.isPlain
    rw [dropWhile_trim_eq_of_isSpelledBy spelled enclosed]
    exact ⟨length, (readUnsigned?_eq_some_iff_isSpelledBy length).mpr spelled⟩

/-- No text encloses a color both with and without a sign. -/
theorem not_encloses_signed (digitsEnclosed : Encloses text digits) (six : digits.length = 6)
    (numeral : IsHexNumeral digits color.code.toNat) {signed : List Char}
    (five : signed.length = 5) (signedNumeral : IsHexNumeral signed color.code.toNat) :
    ¬Encloses text ('+' :: signed) := by
  intro enclosed
  have same : digits = '+' :: signed :=
    (dropWhile_trim_eq_of_isSpelledBy (.digits six numeral) digitsEnclosed).symm.trans
      (dropWhile_trim_eq_of_isSpelledBy (.signed five signedNumeral) enclosed)
  rw [same] at numeral
  exact (numeral.isPlain '+' List.mem_cons_self).2.2.1 rfl

theorem text_toList (color : Color) :
    color.text.toList = '#' :: hexDigits 6 color.masked.code.toNat := by
  rw [Color.text, String.toList_ofList]
  rfl

theorem masked_isSpelledBy (color : Color) :
    color.masked.IsSpelledBy (hexDigits 6 color.masked.code.toNat) := by
  have below : color.masked.code.toNat < 16 ^ 6 := by
    rw [toNat_masked]
    exact Nat.mod_lt _ (by decide)
  have six := length_hexDigits 6 color.masked.code.toNat
  exact .digits six (isHexNumeral_hexDigits below)

theorem read_text (color : Color) : read color.text = .ok color.masked := by
  refine read_eq_ok_iff_isSpelledBy.mpr ⟨_, ⟨[], ['#'], [], ?_, ?_, ?_, ?_⟩,
    color.masked_isSpelledBy⟩
  · exact List.forall_mem_nil _
  · exact fun mark member => List.mem_singleton.mp member
  · exact List.forall_mem_nil _
  · rw [text_toList, List.nil_append, List.append_nil, List.singleton_append]

/-- A text is read as a color exactly if six hexadecimal digits, or a plus sign and five, are left
of it without white space around it and number signs before it, and the color is their number; so
only a sign lets a text pass that has no six digits. Each text that is made of a color gives back
its lowest 24 bits. -/
theorem texts_spellColors (text : String) (color : Color) :
    (read text = .ok color ↔ ∃ chars, Encloses text chars ∧ color.IsSpelledBy chars) ∧
      ((read text = .ok color ↔ ∃ digits, Encloses text digits ∧ digits.length = 6 ∧
          IsHexNumeral digits color.code.toNat) ↔
        ¬∃ digits, Encloses text ('+' :: digits) ∧ digits.length = 5 ∧
          IsHexNumeral digits color.code.toNat) ∧
      read color.text = .ok color.masked ∧
      ofOpaqueText? color.opaqueText = some color.masked ∧
      color.masked.code.toNat = color.code.toNat % 2 ^ 24 := by
  refine ⟨read_eq_ok_iff_isSpelledBy, ?_, read_text color, ofOpaqueText?_opaqueText color,
    toNat_masked color⟩
  rw [read_eq_ok_iff_isSpelledBy]
  constructor
  · rintro agrees ⟨signed, enclosed, five, signedNumeral⟩
    obtain ⟨digits, digitsEnclosed, six, numeral⟩ :=
      agrees.mp ⟨_, enclosed, .signed five signedNumeral⟩
    exact not_encloses_signed digitsEnclosed six numeral five signedNumeral enclosed
  · intro unsigned
    constructor
    · rintro ⟨chars, enclosed, spelled⟩
      cases spelled with
      | digits six numeral => exact ⟨chars, enclosed, six, numeral⟩
      | signed five numeral => exact absurd ⟨_, enclosed, five, numeral⟩ unsigned
    · rintro ⟨digits, enclosed, six, numeral⟩
      exact ⟨digits, enclosed, .digits six numeral⟩

/-- A color is read although there is a sign among its six characters. -/
theorem read_signedText :
    read "#+12345" = .ok ⟨0x12345⟩ ∧ ¬∃ digits value, Encloses "#+12345" digits ∧
      digits.length = 6 ∧ IsHexNumeral digits value := by
  refine ⟨by rfl, ?_⟩
  rintro ⟨digits, value, ⟨front, marks, behind, frontBlank, isMark, behindBlank, parts⟩, -,
    numeral⟩
  have sign : '+' ∈ front ++ (marks ++ digits) ++ behind := by
    rw [← parts]
    decide
  rcases List.mem_append.mp sign with before | after
  · rcases List.mem_append.mp before with inFront | inside
    · cases frontBlank '+' inFront
    · rcases List.mem_append.mp inside with mark | digit
      · cases isMark '+' mark
      · exact (numeral.isPlain '+' digit).2.2.1 rfl
  · cases behindBlank '+' after

end Color

end SyntaxHighlight
