/-
White space around texts. Blank texts in front of and behind a text are lost when it is trimmed;
what is left has none of its own, so that it is not trimmed any further.
-/

import Mathlib.Data.List.TakeWhile
import SyntaxHighlight.Text.Whitespace

namespace SyntaxHighlight

open SyntaxHighlight.Text

def IsBlank (text : List Char) : Prop := ∀ char ∈ text, isWhitespace char = true

section Blank

variable {front behind text : List Char}

theorem exists_blank_trim (text : List Char) :
    ∃ front behind, IsBlank front ∧ IsBlank behind ∧ text = front ++ (trim text ++ behind) := by
  have front := List.takeWhile_append_dropWhile (p := isWhitespace) (l := text)
  have back := List.takeWhile_append_dropWhile (p := isWhitespace)
    (l := (text.dropWhile isWhitespace).reverse)
  refine ⟨text.takeWhile isWhitespace,
    ((text.dropWhile isWhitespace).reverse.takeWhile isWhitespace).reverse, ?_, ?_, ?_⟩
  · exact fun char member => List.mem_takeWhile_imp member
  · exact fun char member => List.mem_takeWhile_imp (List.mem_reverse.mp member)
  · rw [trim, dropTrailing, ← List.reverse_append, back, List.reverse_reverse, front]

theorem dropTrailing_append_blank (blank : IsBlank behind) (text : List Char) :
    dropTrailing isWhitespace (text ++ behind) = dropTrailing isWhitespace text := by
  rw [dropTrailing, dropTrailing, List.reverse_append, List.dropWhile_append_of_pos]
  exact fun char member => blank char (List.mem_reverse.mp member)

theorem trim_append_left (blank : IsBlank front) (text : List Char) :
    trim (front ++ text) = trim text := by
  rw [trim, trim, List.dropWhile_append_of_pos blank]

theorem trim_append_right (blank : IsBlank behind) (text : List Char) :
    trim (text ++ behind) = trim text := by
  rw [trim, trim, List.dropWhile_append]
  split
  · rename_i none
    have gone : behind.dropWhile isWhitespace = [] := List.dropWhile_eq_nil_iff.mpr blank
    rw [List.isEmpty_iff.mp none, gone]
  · exact dropTrailing_append_blank blank _

@[simp] theorem trim_trim (text : List Char) : trim (trim text) = trim text := by
  obtain ⟨front, behind, frontBlank, behindBlank, parts⟩ := exists_blank_trim text
  have whole : trim text = trim (front ++ (trim text ++ behind)) := congrArg trim parts
  rw [trim_append_left frontBlank, trim_append_right behindBlank] at whole
  exact whole.symm

@[simp] theorem trimString_trimString (text : String) :
    trimString (trimString text) = trimString text := by
  simp [trimString]

end Blank

namespace Text

theorem dropWhile_eq_self {p : Char → Bool} {text : List Char}
    (none : ∀ char ∈ text, p char = false) : text.dropWhile p = text := by
  cases text with
  | nil => rfl
  | cons char rest => rw [List.dropWhile_cons, none char List.mem_cons_self]; rfl

/-- A text without white space is not trimmed. -/
theorem trim_eq_self {text : List Char} (none : ∀ char ∈ text, isWhitespace char = false) :
    trim text = text := by
  have reversed : ∀ char ∈ text.reverse, isWhitespace char = false :=
    fun char member => none char (List.mem_reverse.mp member)
  rw [trim, dropTrailing, dropWhile_eq_self none, dropWhile_eq_self reversed, List.reverse_reverse]

end Text

end SyntaxHighlight
