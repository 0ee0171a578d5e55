/-
Hexadecimal digits that are written and read again. Digits that follow others count as if these had
been read before them, so a numeral of some width gives back the lowest digits of its value. What is
read is a numeral in either case, and its value that of its digits at their places.
-/

import Mathlib
import SyntaxHighlight.Text.Numeral
import SyntaxHighlight.Text.Whitespace

namespace SyntaxHighlight.Text

/-! ### Digits -/

theorem digitValue?_hexDigit :
    ∀ value, value < 16 → digitValue? 16 (hexDigit value) = some value := by
  decide

theorem isWhitespace_hexDigit : ∀ value, value < 16 → isWhitespace (hexDigit value) = false := by
  decide

theorem length_hexDigits (width value : Nat) : (hexDigits width value).length = width := by
  induction width generalizing value with
  | zero => rfl
  | succ width ih => rw [hexDigits, List.length_append, ih, List.length_singleton]

theorem mem_hexDigits {width value : Nat} {char : Char} (member : char ∈ hexDigits width value) :
    ∃ digit, digit < 16 ∧ char = hexDigit digit := by
  induction width generalizing value with
  | zero => cases member
  | succ width ih =>
      rw [hexDigits] at member
      rcases List.mem_append.mp member with before | last
      · exact ih before
      · exact ⟨value % 16, Nat.mod_lt value (by decide), List.mem_singleton.mp last⟩

/-! ### Numerals -/

theorem readDigitsFrom_append (base value : Nat) (one other : List Char) :
    readDigitsFrom base value (one ++ other) =
      (readDigitsFrom base value one).bind fun read => readDigitsFrom base read other := by
  induction one generalizing value with
  | nil => rfl
  | cons char rest ih =>
      rw [List.cons_append, readDigitsFrom, readDigitsFrom]
      cases digitValue? base char with
      | none => rfl
      | some digit => exact ih (value * base + digit)

theorem readDigitsFrom_hexDigits (width start value : Nat) :
    readDigitsFrom 16 start (hexDigits width value) =
      some (start * 16 ^ width + value % 16 ^ width) := by
  induction width generalizing value with
  | zero =>
      rw [hexDigits, readDigitsFrom, Nat.pow_zero, Nat.mul_one, Nat.mod_one]
      rfl
  | succ width ih =>
      have last : value % 16 < 16 := Nat.mod_lt value (by decide)
      have split : value % 16 ^ (width + 1) = value % 16 + 16 * (value / 16 % 16 ^ width) := by
        rw [Nat.pow_succ, Nat.mul_comm, Nat.mod_mul]
      rw [hexDigits, readDigitsFrom_append, ih, Option.bind_some, readDigitsFrom,
        digitValue?_hexDigit _ last]
      change some _ = some _
      congr 1
      rw [split, Nat.pow_succ, ← Nat.mul_assoc]
      omega

/-! ### Numerals as they are written -/

/-- A character stands for a value below sixteen, in either case. -/
structure IsHexDigitFor (char : Char) (value : Nat) : Prop where
  below : value < 16
  written : char = hexDigit value ∨ char = (hexDigit value).toUpper

/-- A text is a hexadecimal numeral without a sign; its digits count by their places. -/
def IsHexNumeral (text : List Char) (value : Nat) : Prop :=
  ∃ digits, List.Forall₂ IsHexDigitFor text digits ∧ value = Nat.ofDigits 16 digits.reverse

theorem toNat_hexDigit : ∀ value, value < 16 →
    (hexDigit value).toNat = (if value < 10 then value + 48 else value + 87) ∧
      (hexDigit value).toUpper.toNat = (if value < 10 then value + 48 else value + 55) := by
  decide

theorem digitValue?_eq_some_iff {char : Char} {value : Nat} :
    digitValue? 16 char = some value ↔ IsHexDigitFor char value := by
  constructor
  · intro read
    obtain ⟨found, small⟩ := Option.filter_eq_some_iff.mp read
    have below : value < 16 := of_decide_eq_true small
    obtain ⟨lower, upper⟩ := toNat_hexDigit value below
    refine ⟨below, ?_⟩
    rw [← Char.toNat_inj, ← Char.toNat_inj, lower, upper]
    -- In each of the three ranges the value tells the character.
    split at found
    · rename_i range
      have least : 48 ≤ char.toNat := range.1
      have greatest : char.toNat ≤ 57 := range.2
      have value := Option.some.inj found
      change char.toNat - 48 = _ at value
      split <;> omega
    · split at found
      · rename_i range
        have least : 97 ≤ char.toNat := range.1
        have value := Option.some.inj found
        change char.toNat - 97 + 10 = _ at value
        split <;> omega
      · split at found
        · rename_i range
          have least : 65 ≤ char.toNat := range.1
          have value := Option.some.inj found
          change char.toNat - 65 + 10 = _ at value
          split <;> omega
        · cases found
  · rintro ⟨below, rfl | rfl⟩
    · exact digitValue?_hexDigit value below
    · revert value
      decide

theorem ofDigits_reverse_cons (base digit : Nat) (digits : List Nat) :
    Nat.ofDigits base (digit :: digits).reverse =
      digit * base ^ digits.length + Nat.ofDigits base digits.reverse := by
  rw [List.reverse_cons, Nat.ofDigits_append, Nat.ofDigits_singleton, List.length_reverse,
    Nat.mul_comm, Nat.add_comm]

/-- Digits are read exactly if all characters are digits, whatever was read before them. -/
theorem readDigitsFrom_eq_some_iff {start value : Nat} {text : List Char} :
    readDigitsFrom 16 start text = some value ↔
      ∃ digits, List.Forall₂ IsHexDigitFor text digits ∧
        value = start * 16 ^ digits.length + Nat.ofDigits 16 digits.reverse := by
  induction text generalizing start with
  | nil =>
      rw [readDigitsFrom, Option.some.injEq]
      constructor
      · rintro rfl
        exact ⟨[], List.Forall₂.nil, by simp⟩
      · rintro ⟨digits, none, same⟩
        cases none
        simpa using same.symm
  | cons char rest ih =>
      have moved (digit : Nat) (digits : List Nat) :
          (start * 16 + digit) * 16 ^ digits.length + Nat.ofDigits 16 digits.reverse =
            start * 16 ^ (digit :: digits).length + Nat.ofDigits 16 (digit :: digits).reverse := by
        rw [ofDigits_reverse_cons, List.length_cons, Nat.pow_succ]
        ring
      rw [readDigitsFrom]
      constructor
      · intro read
        cases first : digitValue? 16 char with
        | none =>
            rw [first] at read
            cases read
        | some digit =>
            rw [first] at read
            obtain ⟨digits, behind, rfl⟩ := ih.mp read
            exact ⟨digit :: digits, List.Forall₂.cons (digitValue?_eq_some_iff.mp first) behind,
              moved digit digits⟩
      · rintro ⟨digits, all, rfl⟩
        cases all with
        | @cons _ digit _ digits first behind =>
            rw [digitValue?_eq_some_iff.mpr first]
            exact ih.mpr ⟨digits, behind, (moved digit digits).symm⟩

/-- A nonempty text is read as digits exactly if it is a numeral, with its value. -/
theorem readDigits?_eq_some_iff {text : List Char} {value : Nat} (nonempty : text ≠ []) :
    readDigits? 16 text = some value ↔ IsHexNumeral text value := by
  cases text with
  | nil => exact absurd rfl nonempty
  | cons char rest =>
      have read := @readDigitsFrom_eq_some_iff 0 value (char :: rest)
      simp only [Nat.zero_mul, Nat.zero_add] at read
      exact read

theorem isHexNumeral_hexDigits {width value : Nat} (fits : value < 16 ^ width) :
    IsHexNumeral (hexDigits width value) value := by
  have read := readDigitsFrom_hexDigits width 0 value
  rw [Nat.zero_mul, Nat.zero_add, Nat.mod_eq_of_lt fits] at read
  obtain ⟨digits, all, same⟩ := readDigitsFrom_eq_some_iff.mp read
  rw [Nat.zero_mul, Nat.zero_add] at same
  exact ⟨digits, all, same⟩

theorem IsHexNumeral.lt {text : List Char} {value : Nat} (numeral : IsHexNumeral text value) :
    value < 16 ^ text.length := by
  obtain ⟨digits, all, rfl⟩ := numeral
  have below : ∀ digit ∈ digits, digit < 16 := by
    induction all with
    | nil =>
        intro digit impossible
        cases impossible
    | cons first _ ih => exact List.forall_mem_cons.mpr ⟨first.below, ih⟩
  have bound := Nat.ofDigits_lt_base_pow_length (by decide)
    fun digit member => below digit (List.mem_reverse.mp member)
  rwa [List.length_reverse, ← all.length_eq] at bound

end SyntaxHighlight.Text
