/-
Matchers that go by the indices of a line. Single characters are asked for, and may be missing; a
part of the line must be there, or the attempt is left without an answer. At a place of the line
such an attempt always has an answer, and it is the one that the text behind the place gives.
-/

import SyntaxHighlight.Proofs.Mode.Literal
import SyntaxHighlight.Proofs.Mode.MatchLength
import SyntaxHighlight.Proofs.Text.ByteOffsets
import SyntaxHighlight.Proofs.Text.Place

namespace SyntaxHighlight

open SyntaxHighlight.Text

/-! ### Parts of a line -/

/-- The rest of a line from an index on, which must not be beyond the end. -/
def restAt? (chars : List Char) (index : Nat) : Option (List Char) :=
  if index ≤ chars.length then some (chars.drop index) else none

/-- The part of a line between two indices, which must be in order and within the line. -/
def partAt? (chars : List Char) (first last : Nat) : Option (List Char) :=
  if first ≤ last ∧ last ≤ chars.length then some ((chars.drop first).take (last - first)) else none

/-- How many characters satisfy a predicate, one after the other from an index on. -/
def countAt? (chars : List Char) (index : Nat) (p : Char → Bool) : Option Nat :=
  (restAt? chars (min index chars.length)).map (countWhile p)

def startsWordAt (isDelimiter : Char → Bool) (chars : List Char) (index : Nat) : Bool :=
  index == 0 || chars[index - 1]?.any isDelimiter

/-- Whether a text stands in a line at an index. -/
def beginsAt? (insensitive : Bool) (text chars : List Char) (index : Nat) : Option Bool :=
  if index + text.length ≤ chars.length then do
    let rest ← restAt? chars index
    some ((text.zip rest).all fun (one, other) => sameChar insensitive one other)
  else some false

/-! ### Attempts

The outer option is about the accesses, the inner one about the match, which is told by the index
behind its last character. -/

def exponentAt? (chars : List Char) (index : Nat) : Option (Option Nat) :=
  if chars[index]? = some 'e' ∨ chars[index]? = some 'E' then do
    let signed := chars[index + 1]? = some '+' ∨ chars[index + 1]? = some '-'
    let first := if signed then index + 2 else index + 1
    let digits ← countAt? chars first isDigit
    some (lengthIf (0 < digits) (first + digits))
  else some none

def floatAt? (chars : List Char) (index : Nat) : Option (Option Nat) := do
  let whole ← countAt? chars index isDigit
  let point := index + whole
  if chars[point]? = some '.' then do
    let fraction ← countAt? chars (point + 1) isDigit
    if whole + fraction = 0 then some none
    else do
      let exponent? ← exponentAt? chars (point + 1 + fraction)
      some (some (exponent?.getD (point + 1 + fraction)))
  else if whole = 0 then some none
  else exponentAt? chars point

def escapeAt? (chars : List Char) (index : Nat) : Option (Option Nat) :=
  if chars[index]? = some '\\' then
    match chars[index + 1]? with
    | none => some none
    | some char =>
        if simpleEscapes.contains char then some (some (index + 2))
        else if char = 'x' then do
          let digits ← countAt? chars (index + 2) isHexDigit
          some (lengthIf (0 < digits) (index + 2 + digits))
        else if isOctalDigit char then do
          let digits ← countAt? chars (index + 1) isOctalDigit
          some (some (index + 1 + min digits 3))
        else some none
  else some none

def rangeAt? (first last : Char) (chars : List Char) (index : Nat) : Option (Option Nat) :=
  if chars[index]? = some first then do
    let rest ← restAt? chars (index + 1)
    some ((rest.findIdx? (· == last)).map fun inner => index + 1 + inner + 1)
  else some none

def identifierAt? (chars : List Char) (index : Nat) : Option (Option Nat) :=
  match chars[index]? with
  | none => some none
  | some first =>
      if isIdentifierStart first then do
        let count ← countAt? chars (index + 1) isIdentifierPart
        some (some (index + 1 + count))
      else some none

def wordAt? (isDelimiter : Char → Bool) (insensitive : Bool) (text chars : List Char)
    (index : Nat) : Option (Option Nat) :=
  if startsWordAt isDelimiter chars index then do
    let begins ← beginsAt? insensitive text chars index
    let ends := chars[index + text.length]?.all isDelimiter
    some (lengthIf (begins && ends) (index + text.length))
  else some none

def keywordAt? (isDelimiter : Char → Bool) (insensitive : Bool) (words : List (List Char))
    (chars : List Char) (index : Nat) : Option (Option Nat) :=
  if startsWordAt isDelimiter chars index then do
    let length ← countAt? chars index fun char => !isDelimiter char
    if length = 0 then some none
    else do
      let word ← partAt? chars index (index + length)
      let key := if insensitive then lowercaseText word else word
      some (lengthIf (words.contains key) (index + length))
  else some none

/-- An engine for patterns: the number of bytes that a pattern matches in a line from a byte on. -/
abbrev PatternSearch := Pattern → List Char → Nat → Option Nat

/-- The match of a pattern is told in bytes, of which the index of a character is looked up. -/
def PatternSearch.matchAt? (search : PatternSearch) (pattern : Pattern) (chars : List Char)
    (index : Nat) : Option (Option Nat) := do
  let start ← (byteOffsets chars)[index]?
  match search pattern chars start with
  | none => some none
  | some length => binarySearch? (byteOffsets chars) (start + length)

def Matcher.matchAt? (search : PatternSearch) (isDelimiter : Char → Bool) (chars : List Char)
    (index : Nat) : Matcher → Option (Option Nat)
  | char wanted => some (lengthIf (chars[index]? == some wanted) (index + 1))
  | charPair first second =>
      some (lengthIf (chars[index]? == some first && chars[index + 1]? == some second) (index + 2))
  | anyChar wanted => some (lengthIf (chars[index]?.any wanted.contains) (index + 1))
  | literal text insensitive => do
      let begins ← beginsAt? insensitive text chars index
      some (lengthIf begins (index + text.length))
  | word text insensitive => wordAt? isDelimiter insensitive text chars index
  | regex pattern => search.matchAt? pattern chars index
  | keyword words insensitive => keywordAt? isDelimiter insensitive words chars index
  | integer =>
      if startsWordAt isDelimiter chars index then do
        let digits ← countAt? chars index isDigit
        some (lengthIf (0 < digits) (index + digits))
      else some none
  | real => if startsWordAt isDelimiter chars index then floatAt? chars index else some none
  | escape => escapeAt? chars index
  | range first last => rangeAt? first last chars index
  | lineContinue mark =>
      some (lengthIf (chars[index]? == some mark && index + 1 == chars.length) (index + 1))
  | spaces => do
      let count ← countAt? chars index isWhitespace
      some (lengthIf (0 < count) (index + count))
  | identifier => identifierAt? chars index

/-! ### Accesses -/

section Accesses

variable {chars rest : List Char} {index : Nat} {first : Char}

theorem restAt?_eq (inLine : index ≤ chars.length) :
    restAt? chars index = some (chars.drop index) :=
  if_pos inLine

theorem countAt?_eq (p : Char → Bool) :
    countAt? chars index p = some (countWhile p (chars.drop index)) := by
  rw [countAt?, restAt?_eq (Nat.min_le_right _ _), Option.map_some, ← List.drop_eq_drop_min]

theorem getElem?_of_drop (behind : chars.drop index = first :: rest) :
    chars[index]? = some first := by
  rw [← List.head?_drop, behind]
  rfl

theorem getElem?_of_drop_nil (behind : chars.drop index = []) : chars[index]? = none :=
  List.getElem?_eq_none (List.drop_eq_nil_iff.mp behind)

theorem drop_succ_of_drop (behind : chars.drop index = first :: rest) :
    chars.drop (index + 1) = rest := by
  rw [List.drop_add_one_eq_tail_drop, behind]
  rfl

theorem getElem?_succ_of_drop (behind : chars.drop index = first :: rest) :
    chars[index + 1]? = rest.head? := by
  rw [← List.head?_drop, drop_succ_of_drop behind]

theorem lt_length_of_drop (behind : chars.drop index = first :: rest) : index < chars.length :=
  (List.getElem?_eq_some_iff.mp (getElem?_of_drop behind)).1

end Accesses

/-! ### Literals -/

theorem map_lengthIf (condition : Bool) (length first : Nat) :
    (lengthIf condition length).map (first + ·) = lengthIf condition (first + length) := by
  cases condition <;> rfl

theorem lengthIf_pos (count length : Nat) :
    lengthIf (0 < count) length = if count = 0 then none else some length := by
  cases count <;> rfl

theorem signLength_eq (text : List Char) :
    signLength text = if text.head? = some '+' ∨ text.head? = some '-' then 1 else 0 := by
  unfold signLength
  split
  · rfl
  · rfl
  · rename_i noPlus noMinus
    rw [if_neg]
    rintro (plus | minus)
    · obtain ⟨rest, rfl⟩ := List.head?_eq_some_iff.mp plus
      exact noPlus rest rfl
    · obtain ⟨rest, rfl⟩ := List.head?_eq_some_iff.mp minus
      exact noMinus rest rfl

theorem exponentLength?_eq_none {letter : Char} (unknown : ¬(letter = 'e' ∨ letter = 'E'))
    (rest : List Char) : exponentLength? (letter :: rest) = none := by
  unfold exponentLength?
  split
  · rename_i same
    exact absurd (Or.inl (List.cons.inj same).1) unknown
  · rename_i same
    exact absurd (Or.inr (List.cons.inj same).1) unknown
  · rfl

theorem escapeLength?_eq_none {first : Char} (plain : first ≠ '\\') (rest : List Char) :
    escapeLength? (first :: rest) = none := by
  unfold escapeLength?
  split
  · rename_i same
    exact absurd (List.cons.inj same).1 plain
  · rename_i same
    exact absurd (List.cons.inj same).1 plain
  · rfl

section Literals

variable (chars : List Char) (index : Nat)

theorem exponentAt?_eq :
    exponentAt? chars index = some ((exponentLength? (chars.drop index)).map (index + ·)) := by
  unfold exponentAt?
  cases behind : chars.drop index with
  | nil =>
      rw [getElem?_of_drop_nil behind]
      rfl
  | cons letter rest =>
      have digits (sign : Nat) : countAt? chars (index + 1 + sign) isDigit =
          some (digitCount (rest.drop sign)) := by
        rw [countAt?_eq, ← List.drop_drop, drop_succ_of_drop behind]
        rfl
      rw [getElem?_of_drop behind, getElem?_succ_of_drop behind]
      simp only [Option.some.injEq]
      split
      · rename_i known
        rw [exponentLength?_cons known, ← lengthIf_pos, map_lengthIf, signLength_eq]
        by_cases signed : rest.head? = some '+' ∨ rest.head? = some '-'
        · simp only [signed, if_true]
          rw [digits 1]
          simp [Nat.add_assoc]
        · simp [signed, digits 0, Nat.add_assoc]
      · rename_i unknown
        rw [exponentLength?_eq_none unknown]
        rfl

theorem floatAt?_eq :
    floatAt? chars index = some ((floatLength? (chars.drop index)).map (index + ·)) := by
  obtain ⟨whole, rest, parts, count, _digits⟩ := begins_run isDigit (chars.drop index)
  have behind : chars.drop (index + whole.length) = rest := by
    rw [← List.drop_drop, parts, List.drop_left]
  unfold floatAt?
  rw [countAt?_eq, ← count, Option.bind_eq_bind, Option.bind_some]
  rw [parts] at count ⊢
  by_cases point : ∃ fraction, rest = '.' :: fraction
  · obtain ⟨fraction, rfl⟩ := point
    have fractionCount : countAt? chars (index + whole.length + 1) isDigit =
        some (digitCount fraction) := by
      rw [countAt?_eq, drop_succ_of_drop behind]
      rfl
    dsimp only
    rw [if_pos (getElem?_of_drop behind), fractionCount, Option.bind_eq_bind, Option.bind_some,
      exponentAt?_eq, ← List.drop_drop, drop_succ_of_drop behind, floatLength?_point count.symm]
    split
    · rfl
    · cases exponentLength? (fraction.drop (digitCount fraction)) <;> simp [Nat.add_assoc]
  · have noPoint : chars[index + whole.length]? ≠ some '.' := by
      intro found
      rw [← List.head?_drop, behind] at found
      obtain ⟨fraction, same⟩ := List.head?_eq_some_iff.mp found
      exact point ⟨fraction, same⟩
    dsimp only
    rw [if_neg noPoint, exponentAt?_eq, behind,
      floatLength?_noPoint count.symm (not_exists.mp point)]
    split
    · rfl
    · rw [Option.map_map]
      simp [Function.comp_def, Nat.add_assoc]

theorem escapeAt?_eq :
    escapeAt? chars index = some ((escapeLength? (chars.drop index)).map (index + ·)) := by
  unfold escapeAt?
  cases behind : chars.drop index with
  | nil =>
      rw [getElem?_of_drop_nil behind]
      rfl
  | cons first rest =>
      rw [getElem?_of_drop behind, getElem?_succ_of_drop behind]
      by_cases backslash : first = '\\'
      · subst backslash
        rw [if_pos rfl]
        cases rest with
        | nil => rfl
        | cons char rest =>
            have hexadecimal : countAt? chars (index + 2) isHexDigit =
                some (countWhile isHexDigit rest) := by
              rw [countAt?_eq, drop_succ_of_drop (drop_succ_of_drop behind)]
            have octal : countAt? chars (index + 1) isOctalDigit =
                some (countWhile isOctalDigit (char :: rest)) := by
              rw [countAt?_eq, drop_succ_of_drop behind]
            rw [hexadecimal, octal]
            dsimp only [List.head?_cons]
            by_cases isX : char = 'x'
            · subst isX
              rw [escapeLength?_hexadecimal, ← isHexDigit_eq, ← lengthIf_pos, map_lengthIf,
                ← Nat.add_assoc]
              rfl
            · rw [escapeLength?_cons isX, if_neg isX]
              split
              · rfl
              · split
                · rw [Option.bind_eq_bind, Option.bind_some, Option.map_some, Nat.min_comm,
                    Nat.add_assoc]
                · rfl
      · rw [escapeLength?_eq_none backslash, if_neg (backslash ∘ Option.some.inj)]
        rfl

theorem rangeAt?_eq (first last : Char) :
    rangeAt? first last chars index =
      some ((rangeLength? first last (chars.drop index)).map (index + ·)) := by
  unfold rangeAt?
  cases behind : chars.drop index with
  | nil =>
      rw [getElem?_of_drop_nil behind]
      rfl
  | cons char rest =>
      rw [getElem?_of_drop behind, rangeLength?]
      by_cases opened : char = first
      · rw [if_pos (congrArg some opened), if_pos opened, restAt?_eq (lt_length_of_drop behind),
          drop_succ_of_drop behind, Option.bind_eq_bind, Option.bind_some, Option.map_map]
        simp [Function.comp_def, Nat.add_assoc, Nat.add_comm 1]
      · rw [if_neg (opened ∘ Option.some.inj), if_neg opened]
        rfl

theorem identifierAt?_eq :
    identifierAt? chars index = some ((identifierLength? (chars.drop index)).map (index + ·)) := by
  unfold identifierAt?
  cases behind : chars.drop index with
  | nil =>
      rw [getElem?_of_drop_nil behind]
      rfl
  | cons first rest =>
      rw [getElem?_of_drop behind, countAt?_eq, drop_succ_of_drop behind, identifierLength?,
        map_lengthIf]
      dsimp only
      cases isIdentifierStart first with
      | false => rfl
      | true => exact congrArg (some ∘ some) (Nat.add_assoc index 1 _)

end Literals

/-! ### Words -/

section Words

variable {chars : List Char} {index : Nat}

theorem beginsWith_eq_zip (insensitive : Bool) (text rest : List Char) :
    beginsWith insensitive text rest = (decide (text.length ≤ rest.length) &&
      (text.zip rest).all fun (one, other) => sameChar insensitive one other) := by
  induction text generalizing rest with
  | nil => simp [beginsWith]
  | cons one text ih =>
      cases rest with
      | nil => simp [beginsWith]
      | cons other rest =>
          rw [beginsWith, ih, List.zip_cons_cons, List.all_cons, Bool.and_left_comm]
          simp

theorem beginsAt?_eq (inLine : index ≤ chars.length) (insensitive : Bool) (text : List Char) :
    beginsAt? insensitive text chars index =
      some (beginsWith insensitive text (chars.drop index)) := by
  have fits : index + text.length ≤ chars.length ↔ text.length ≤ (chars.drop index).length := by
    rw [List.length_drop]
    omega
  unfold beginsAt?
  rw [beginsWith_eq_zip]
  split
  · rename_i short
    rw [restAt?_eq inLine, decide_eq_true (fits.mp short)]
    rfl
  · rename_i long
    rw [decide_eq_false (fits.not.mp long)]
    rfl

theorem partAt?_countWhile (inLine : index ≤ chars.length) (p : Char → Bool) :
    partAt? chars index (index + countWhile p (chars.drop index)) =
      some ((chars.drop index).takeWhile p) := by
  have within := countWhile_le p (chars.drop index)
  rw [List.length_drop] at within
  have inside : index ≤ index + countWhile p (chars.drop index) ∧
      index + countWhile p (chars.drop index) ≤ chars.length := by omega
  rw [partAt?, if_pos inside, Nat.add_sub_cancel_left]
  exact congrArg some (List.prefix_iff_eq_take.mp (List.takeWhile_prefix p)).symm

end Words

/-! ### Places -/

section Places

variable (place : Place) (isDelimiter : Char → Bool) (insensitive : Bool)

theorem startsWordAt_line :
    startsWordAt isDelimiter place.line place.index = atWordStart isDelimiter place := by
  obtain ⟨before, after⟩ := place
  cases before with
  | nil => rfl
  | cons char before => simp [startsWordAt, atWordStart, Place.line, Place.index]

theorem wordAt?_line (text : List Char) :
    wordAt? isDelimiter insensitive text place.line place.index =
      some ((wordLength? isDelimiter insensitive text place).map (place.index + ·)) := by
  have ends : place.line[place.index + text.length]?.all isDelimiter =
      atWordEnd isDelimiter (place.after.drop text.length) := by
    rw [← List.head?_drop, ← List.drop_drop, place.drop_line]
    cases place.after.drop text.length <;> rfl
  rw [wordAt?, wordLength?, map_lengthIf, startsWordAt_line,
    beginsAt?_eq place.index_le_length_line, place.drop_line, ends]
  cases atWordStart isDelimiter place <;> rfl

theorem keywordAt?_line (words : List (List Char)) :
    keywordAt? isDelimiter insensitive words place.line place.index =
      some ((keywordLength? isDelimiter insensitive words place).map (place.index + ·)) := by
  have word := partAt?_countWhile place.index_le_length_line fun char => !isDelimiter char
  rw [place.drop_line] at word
  rw [keywordAt?, keywordLength?, map_lengthIf, startsWordAt_line, countAt?_eq, place.drop_line]
  cases atWordStart isDelimiter place with
  | false => rfl
  | true =>
      rw [if_pos rfl, Option.bind_eq_bind, Option.bind_some, word, countWhile]
      cases place.after.takeWhile fun char => !isDelimiter char <;> rfl

/-- An attempt at a place has an answer, and tells what the text behind the place tells. -/
theorem Matcher.matchAt?_line (search : PatternSearch) (engine : Pattern.Engine) (matcher : Matcher)
    (notRegex : ∀ pattern, matcher ≠ .regex pattern) :
    matcher.matchAt? search isDelimiter place.line place.index =
      some ((matcher.matchLength? isDelimiter place engine).map (place.index + ·)) := by
  have head : place.line[place.index]? = place.after.head? := by
    rw [← List.head?_drop, place.drop_line]
  cases matcher with
  | char wanted => rw [matchAt?, matchLength?, head, map_lengthIf]
  | charPair first second =>
      have next : place.line[place.index + 1]? = place.after.tail.head? := by
        rw [← List.head?_drop, List.drop_add_one_eq_tail_drop, place.drop_line]
      have pair : (place.after.head? == some first && place.after.tail.head? == some second) =
          [first, second].isPrefixOf place.after := by
        rcases place.after with - | ⟨one, - | ⟨other, rest⟩⟩
        · rfl
        · simp [List.isPrefixOf]
        · simp [List.isPrefixOf, Bool.beq_comm]
      rw [matchAt?, matchLength?, head, next, pair, map_lengthIf]
  | anyChar chars => rw [matchAt?, matchLength?, head, map_lengthIf]
  | literal text insensitive =>
      rw [matchAt?, matchLength?, beginsAt?_eq place.index_le_length_line, place.drop_line,
        map_lengthIf]
      rfl
  | word text insensitive => exact wordAt?_line place isDelimiter insensitive text
  | regex pattern => exact absurd rfl (notRegex pattern)
  | keyword words insensitive => exact keywordAt?_line place isDelimiter insensitive words
  | integer =>
      rw [matchAt?, matchLength?, startsWordAt_line, countAt?_eq, place.drop_line]
      split
      · rw [integerLength?, ← lengthIf_pos, map_lengthIf]
        rfl
      · rfl
  | real =>
      rw [matchAt?, matchLength?, startsWordAt_line, floatAt?_eq, place.drop_line]
      split <;> rfl
  | escape => rw [matchAt?, matchLength?, escapeAt?_eq, place.drop_line]
  | range first last => rw [matchAt?, matchLength?, rangeAt?_eq, place.drop_line]
  | lineContinue mark =>
      have atEnd : (place.after.head? == some mark &&
          place.index + 1 == place.line.length) = (place.after == [mark]) := by
        rw [place.length_line]
        rcases place.after with - | ⟨one, - | ⟨other, rest⟩⟩
        · rfl
        · simp
        · simp
      rw [matchAt?, matchLength?, head, atEnd, map_lengthIf]
  | spaces =>
      rw [matchAt?, matchLength?, countAt?_eq, place.drop_line, ← lengthIf_pos, map_lengthIf]
      rfl
  | identifier => rw [matchAt?, matchLength?, identifierAt?_eq, place.drop_line]

end Places

end SyntaxHighlight
