/-
Matches lie within the line: no matcher takes more characters than there are behind the place
where it is tried.
-/

import SyntaxHighlight.Mode.Context

namespace SyntaxHighlight

open SyntaxHighlight.Text

theorem lengthIf_eq_some {condition : Bool} {length found : Nat}
    (matched : lengthIf condition length = some found) : condition = true ∧ length = found := by
  cases condition with
  | false => cases matched
  | true => exact ⟨rfl, Option.some.inj matched⟩

theorem countWhile_le (p : Char → Bool) (text : List Char) : countWhile p text ≤ text.length :=
  (List.takeWhile_sublist p).length_le

/-! ### Literals -/

theorem beginsWith_length_le (insensitive : Bool) (start text : List Char)
    (begins : beginsWith insensitive start text = true) : start.length ≤ text.length := by
  induction start generalizing text with
  | nil => exact Nat.zero_le _
  | cons one start ih =>
      cases text with
      | nil => cases begins
      | cons other text =>
          rw [beginsWith, Bool.and_eq_true] at begins
          exact Nat.succ_le_succ (ih text begins.2)

theorem integerLength?_le (text : List Char) (length : Nat)
    (matched : integerLength? text = some length) : length ≤ text.length := by
  unfold integerLength? at matched
  dsimp only at matched
  split at matched
  · cases matched
  · cases matched
    exact countWhile_le isDigit text

theorem signLength_le (text : List Char) : signLength text ≤ text.length := by
  unfold signLength
  split
  · exact Nat.succ_le_succ (Nat.zero_le _)
  · exact Nat.succ_le_succ (Nat.zero_le _)
  · exact Nat.zero_le _

theorem exponentLength?_le (text : List Char) (length : Nat)
    (matched : exponentLength? text = some length) : length ≤ text.length := by
  have bound (rest : List Char) (matched : (if digitCount (rest.drop (signLength rest)) = 0
      then none else some (1 + signLength rest + digitCount (rest.drop (signLength rest)))) =
        some length) : length ≤ rest.length + 1 := by
    split at matched
    · cases matched
    · cases matched
      have sign := signLength_le rest
      have digits := countWhile_le isDigit (rest.drop (signLength rest))
      rw [List.length_drop] at digits
      unfold digitCount
      omega
  unfold exponentLength? at matched
  split at matched
  · exact bound _ matched
  · exact bound _ matched
  · cases matched

theorem floatLength?_le (text : List Char) (length : Nat)
    (matched : floatLength? text = some length) : length ≤ text.length := by
  have whole := countWhile_le isDigit text
  have left : (text.drop (countWhile isDigit text)).length =
      text.length - countWhile isDigit text := List.length_drop
  unfold floatLength? digitCount at matched
  dsimp only at matched
  split at matched
  · rename_i rest behind
    rw [behind, List.length_cons] at left
    have fraction := countWhile_le isDigit rest
    split at matched
    · cases matched
    · cases matched
      cases exponent : exponentLength? (rest.drop (countWhile isDigit rest)) with
      | none =>
          rw [Option.getD_none]
          omega
      | some more =>
          have bound := exponentLength?_le _ more exponent
          rw [List.length_drop] at bound
          rw [Option.getD_some]
          omega
  · split at matched
    · cases matched
    · obtain ⟨more, exponent, rfl⟩ := Option.map_eq_some_iff.mp matched
      have bound := exponentLength?_le _ more exponent
      rw [List.length_drop] at bound
      omega

theorem escapeLength?_le (text : List Char) (length : Nat)
    (matched : escapeLength? text = some length) : length ≤ text.length := by
  unfold escapeLength? at matched
  split at matched
  · rename_i rest
    have digits := countWhile_le isHexDigit rest
    dsimp only at matched
    split at matched
    · cases matched
    · cases matched
      simp only [List.length_cons]
      omega
  · rename_i char rest _notHexadecimal
    split at matched
    · cases matched
      simp only [List.length_cons]
      omega
    · split at matched
      · cases matched
        have digits := countWhile_le isOctalDigit (char :: rest)
        simp only [List.length_cons] at digits ⊢
        omega
      · cases matched
  · cases matched

theorem identifierLength?_le (text : List Char) (length : Nat)
    (matched : identifierLength? text = some length) : length ≤ text.length := by
  cases text with
  | nil => cases matched
  | cons first rest =>
      obtain ⟨_, rfl⟩ := lengthIf_eq_some matched
      have part := countWhile_le isIdentifierPart rest
      rw [List.length_cons]
      omega

theorem rangeLength?_le (first last : Char) (text : List Char) (length : Nat)
    (matched : rangeLength? first last text = some length) : length ≤ text.length := by
  cases text with
  | nil => cases matched
  | cons char rest =>
      rw [rangeLength?] at matched
      split at matched
      · obtain ⟨index, found, rfl⟩ := Option.map_eq_some_iff.mp matched
        obtain ⟨inRange, _matches⟩ := List.findIdx?_eq_some_iff_getElem.mp found
        rw [List.length_cons]
        omega
      · cases matched

/-! ### Matchers -/

theorem Matcher.matchLength?_le (matcher : Matcher) (isDelimiter : Char → Bool) (place : Place)
    (engine : Pattern.Engine) (length : Nat)
    (matched : matcher.matchLength? isDelimiter place engine = some length) :
    length ≤ place.after.length := by
  cases matcher with
  | char wanted =>
      obtain ⟨found, rfl⟩ := lengthIf_eq_some matched
      cases behind : place.after with
      | nil =>
          rw [behind] at found
          cases found
      | cons first rest => exact Nat.succ_le_succ (Nat.zero_le _)
  | charPair first second =>
      obtain ⟨found, rfl⟩ := lengthIf_eq_some matched
      exact (List.isPrefixOf_iff_prefix.mp found).length_le
  | anyChar chars =>
      obtain ⟨found, rfl⟩ := lengthIf_eq_some matched
      cases behind : place.after with
      | nil =>
          rw [behind] at found
          cases found
      | cons first rest => exact Nat.succ_le_succ (Nat.zero_le _)
  | literal text insensitive =>
      obtain ⟨found, rfl⟩ := lengthIf_eq_some matched
      exact beginsWith_length_le insensitive text place.after found
  | word text insensitive =>
      obtain ⟨found, rfl⟩ := lengthIf_eq_some matched
      rw [Bool.and_eq_true, Bool.and_eq_true] at found
      exact beginsWith_length_le insensitive text place.after found.1.2
  | regex pattern => exact engine.length?_le pattern place length matched
  | keyword words insensitive =>
      obtain ⟨_, rfl⟩ := lengthIf_eq_some matched
      exact (List.takeWhile_sublist _).length_le
  | integer =>
      unfold Matcher.matchLength? at matched
      dsimp only at matched
      split at matched
      · exact integerLength?_le place.after length matched
      · cases matched
  | real =>
      unfold Matcher.matchLength? at matched
      dsimp only at matched
      split at matched
      · exact floatLength?_le place.after length matched
      · cases matched
  | escape => exact escapeLength?_le place.after length matched
  | range first last => exact rangeLength?_le first last place.after length matched
  | lineContinue mark =>
      obtain ⟨found, rfl⟩ := lengthIf_eq_some matched
      rw [eq_of_beq found]
      exact Nat.le_refl _
  | spaces =>
      unfold Matcher.matchLength? at matched
      dsimp only at matched
      split at matched
      · cases matched
      · cases matched
        exact countWhile_le isWhitespace place.after
  | identifier => exact identifierLength?_le place.after length matched

/-- The rule of a context that matches at a place is one of its rules, and its match lies within
the line. -/
theorem Context.findRule?_eq_some {context : Context} {place : Place} {engine : Pattern.Engine}
    {rule : Rule} {length : Nat} (found : context.findRule? place engine = some (rule, length)) :
    rule ∈ context.rules ∧ length ≤ place.after.length := by
  obtain ⟨before, candidate, behind, parts, matched, _unmatched⟩ :=
    List.findSome?_eq_some_iff.mp found
  split at matched
  · obtain ⟨own, ownMatched, same⟩ := Option.map_eq_some_iff.mp matched
    cases same
    constructor
    · rw [parts]
      exact List.mem_append_right before List.mem_cons_self
    · exact rule.matcher.matchLength?_le _ place engine length ownMatched
  · cases matched

end SyntaxHighlight
