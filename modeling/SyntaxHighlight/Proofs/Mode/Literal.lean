/-
The forms of number and character literals. What is found at a place is the longest literal that
begins there, and nothing is found only where none begins. Digits are taken as far as they go and
never given back: no form goes on with a digit behind a run of digits that it could have ended
earlier.
-/

import Mathlib.Data.List.TakeWhile
import SyntaxHighlight.Mode.Literal

namespace SyntaxHighlight

open SyntaxHighlight.Text

/-! ### Forms -/

/-- Some characters, all of which satisfy a predicate. -/
structure IsRun (p : Char → Bool) (text : List Char) : Prop where
  nonempty : text ≠ []
  all : ∀ char ∈ text, p char = true

inductive IsSign : List Char → Prop where
  | none : IsSign []
  | plus : IsSign ['+']
  | minus : IsSign ['-']

/-- A letter, perhaps a sign, and digits. -/
inductive IsExponent : List Char → Prop where
  | mk {letter : Char} {sign digits : List Char} (known : letter = 'e' ∨ letter = 'E')
      (signed : IsSign sign) (run : IsRun isDigit digits) : IsExponent (letter :: (sign ++ digits))

/-- A number with a point, with an exponent or with both. The point has digits on one side of it
at least. -/
inductive IsFloat : List Char → Prop where
  | whole {whole fraction exponent : List Char} (run : IsRun isDigit whole)
      (digits : ∀ char ∈ fraction, isDigit char = true)
      (ends : exponent = [] ∨ IsExponent exponent) :
      IsFloat (whole ++ '.' :: (fraction ++ exponent))
  | fraction {fraction exponent : List Char} (run : IsRun isDigit fraction)
      (ends : exponent = [] ∨ IsExponent exponent) : IsFloat ('.' :: (fraction ++ exponent))
  | exponent {whole exponent : List Char} (run : IsRun isDigit whole)
      (ends : IsExponent exponent) : IsFloat (whole ++ exponent)

/-- A digit of base sixteen, for which letters from a to f may stand in either case. -/
def isHexadecimal (char : Char) : Bool :=
  isDigit char || ('a' ≤ char && char ≤ 'f') || ('A' ≤ char && char ≤ 'F')

/-- A backslash and a letter or sign, an x and hexadecimal digits, or up to three octal digits. -/
inductive IsEscape : List Char → Prop where
  | simple {char : Char}
      (known : char ∈ ['a', 'b', 'e', 'f', 'n', 'r', 't', 'v', '"', '\'', '?', '\\']) :
      IsEscape ['\\', char]
  | hexadecimal {digits : List Char} (run : IsRun isHexadecimal digits) :
      IsEscape ('\\' :: 'x' :: digits)
  | octal {digits : List Char} (run : IsRun isOctalDigit digits) (short : digits.length ≤ 3) :
      IsEscape ('\\' :: digits)

/-! ### Longest texts -/

/-- The text of a line from one column up to another. -/
def textFrom (chars : List Char) (first last : Nat) : List Char :=
  (chars.drop first).take (last - first)

/-- The end of the longest text with a form that begins at a column. -/
structure EndsLongest (form : List Char → Prop) (chars : List Char) (first last : Nat) : Prop where
  ordered : first ≤ last
  inside : last ≤ chars.length
  formed : form (textFrom chars first last)
  longest : ∀ other, last < other → other ≤ chars.length → ¬form (textFrom chars first other)

/-- A measure of texts by which the longest one with a form is found at every column of every
line. -/
structure FindsLongest (length? : List Char → Option Nat) (form : List Char → Prop) : Prop where
  finds : ∀ chars first last, (length? (chars.drop first)).map (first + ·) = some last ↔
    EndsLongest form chars first last
  misses : ∀ chars first, length? (chars.drop first) = none ↔
    ∀ last, first ≤ last → last ≤ chars.length → ¬form (textFrom chars first last)

theorem EndsLongest.eq {form : List Char → Prop} {chars : List Char} {first last other : Nat}
    (ends : EndsLongest form chars first last) (otherEnds : EndsLongest form chars first other) :
    last = other := by
  rcases Nat.lt_trichotomy last other with less | same | more
  · exact absurd otherEnds.formed (ends.longest other less otherEnds.inside)
  · exact same
  · exact absurd ends.formed (otherEnds.longest last more ends.inside)

/-- A text begins with one of a form and a length. -/
@[reducible] def Begins (form : List Char → Prop) (text : List Char) (length : Nat) : Prop :=
  ∃ literal rest, text = literal ++ rest ∧ literal.length = length ∧ form literal

/-- It is enough that every measured text begins with one of the form and of that length, and that
every text that begins with one of the form has a length not below it. -/
theorem FindsLongest.of_append {length? : List Char → Option Nat} {form : List Char → Prop}
    (sound : ∀ text length, length? text = some length → Begins form text length)
    (complete : ∀ literal rest, form literal →
      ∃ length, length? (literal ++ rest) = some length ∧ literal.length ≤ length)
    (nonempty : ¬form []) : FindsLongest length? form := by
  have reaches (chars : List Char) (first last : Nat) (inside : last ≤ chars.length)
      (formed : form (textFrom chars first last)) :
      ∃ length, length? (chars.drop first) = some length ∧ last - first ≤ length := by
    obtain ⟨length, found, bound⟩ :=
      complete (textFrom chars first last) ((chars.drop first).drop (last - first)) formed
    rw [textFrom, List.take_append_drop] at found
    rw [textFrom, List.length_take, List.length_drop] at bound
    exact ⟨length, found, by omega⟩
  have ends (chars : List Char) (first length : Nat)
      (found : length? (chars.drop first) = some length) :
      EndsLongest form chars first (first + length) := by
    obtain ⟨literal, rest, parts, rfl, formed⟩ := sound (chars.drop first) length found
    have lengths := congrArg List.length parts
    rw [List.length_drop, List.length_append] at lengths
    have positive : 0 < literal.length := by
      apply List.length_pos_iff.mpr
      rintro rfl
      exact nonempty formed
    refine ⟨Nat.le_add_right _ _, by omega, ?_, ?_⟩
    · rwa [textFrom, parts, List.take_left' (Nat.add_sub_cancel_left _ _).symm]
    · intro other further inside otherFormed
      obtain ⟨longer, longerFound, bound⟩ := reaches chars first other inside otherFormed
      cases found.symm.trans longerFound
      omega
  refine ⟨?_, ?_⟩
  · intro chars first last
    rw [Option.map_eq_some_iff]
    constructor
    · rintro ⟨length, found, rfl⟩
      exact ends chars first length found
    · intro longest
      obtain ⟨length, found, _⟩ := reaches chars first last longest.inside longest.formed
      exact ⟨length, found, (ends chars first length found).eq longest⟩
  · intro chars first
    constructor
    · intro missing last _ inside formed
      obtain ⟨length, found, _⟩ := reaches chars first last inside formed
      rw [missing] at found
      cases found
    · intro none
      apply Option.eq_none_iff_forall_ne_some.mpr
      intro length found
      have longest := ends chars first length found
      exact none _ longest.ordered longest.inside longest.formed

/-! ### Runs at the start of a text -/

section Runs

variable {p : Char → Bool} {run rest text : List Char}

theorem countWhile_append (all : ∀ char ∈ run, p char = true) (rest : List Char) :
    countWhile p (run ++ rest) = run.length + countWhile p rest := by
  unfold countWhile
  rw [List.takeWhile_append_of_pos all, List.length_append]

theorem countWhile_cons_of_neg {char : Char} (stops : p char = false) (rest : List Char) :
    countWhile p (char :: rest) = 0 := by
  unfold countWhile
  rw [List.takeWhile_cons_of_neg (by rw [stops]; exact Bool.false_ne_true)]
  rfl

theorem begins_run (p : Char → Bool) (text : List Char) :
    Begins (fun run => ∀ char ∈ run, p char = true) text (countWhile p text) :=
  ⟨text.takeWhile p, text.dropWhile p, List.takeWhile_append_dropWhile.symm, rfl,
    fun _ member => List.mem_takeWhile_imp member⟩

theorem IsRun.of_length {run : List Char} (all : ∀ char ∈ run, p char = true)
    (some : run.length ≠ 0) : IsRun p run :=
  ⟨fun empty => some (congrArg List.length empty), all⟩

end Runs

/-! ### Numbers -/

theorem begins_sign (text : List Char) : Begins IsSign text (signLength text) := by
  unfold signLength
  split
  · exact ⟨['+'], _, rfl, rfl, .plus⟩
  · exact ⟨['-'], _, rfl, rfl, .minus⟩
  · exact ⟨[], _, rfl, rfl, .none⟩

theorem signLength_append {sign digits : List Char} (signed : IsSign sign)
    (run : IsRun isDigit digits) (rest : List Char) :
    signLength (sign ++ (digits ++ rest)) = sign.length := by
  cases signed with
  | plus => rfl
  | minus => rfl
  | none =>
      obtain ⟨first, others, rfl⟩ := List.exists_cons_of_ne_nil run.nonempty
      have digit := run.all first List.mem_cons_self
      rw [List.nil_append, List.cons_append]
      unfold signLength
      split
      · rename_i same
        cases same
        exact absurd digit (by decide)
      · rename_i same
        cases same
        exact absurd digit (by decide)
      · rfl

/-- What stands behind the letter of an exponent. -/
theorem exponentLength?_cons {letter : Char} (known : letter = 'e' ∨ letter = 'E')
    (rest : List Char) :
    exponentLength? (letter :: rest) =
      if digitCount (rest.drop (signLength rest)) = 0 then none
      else some (1 + signLength rest + digitCount (rest.drop (signLength rest))) := by
  rcases known with rfl | rfl
  · rfl
  · rfl

theorem exponentLength?_sound {text : List Char} {length : Nat}
    (found : exponentLength? text = some length) : Begins IsExponent text length := by
  have read (letter : Char) (behind : List Char) (known : letter = 'e' ∨ letter = 'E')
      (found : exponentLength? (letter :: behind) = some length) :
      Begins IsExponent (letter :: behind) length := by
    obtain ⟨sign, unsigned, rfl, signCount, signed⟩ := begins_sign behind
    rw [exponentLength?_cons known, ← signCount, List.drop_left] at found
    obtain ⟨digits, rest, rfl, digitsCount, all⟩ := begins_run isDigit unsigned
    rw [digitCount, ← digitsCount] at found
    split at found
    · cases found
    · rename_i some
      cases found
      refine ⟨letter :: (sign ++ digits), rest, ?_, ?_, .mk known signed (.of_length all some)⟩
      · rw [List.cons_append, List.append_assoc]
      · rw [List.length_cons, List.length_append]
        omega
  unfold exponentLength? at found
  split at found
  · exact read 'e' _ (.inl rfl) found
  · exact read 'E' _ (.inr rfl) found
  · cases found

theorem exponentLength?_complete {exponent : List Char} (formed : IsExponent exponent)
    (rest : List Char) :
    ∃ length, exponentLength? (exponent ++ rest) = some length ∧ exponent.length ≤ length := by
  obtain ⟨known, signed, run⟩ := formed
  rename_i letter sign digits
  have positive := List.length_pos_iff.mpr run.nonempty
  rw [List.cons_append, List.append_assoc, exponentLength?_cons known,
    signLength_append signed run, List.drop_left, digitCount, countWhile_append run.all,
    if_neg (by omega)]
  refine ⟨_, rfl, ?_⟩
  rw [List.length_cons, List.length_append]
  omega

/-- What of a text is an exponent, perhaps nothing of it. -/
theorem begins_exponent (text : List Char) :
    Begins (fun exponent => exponent = [] ∨ IsExponent exponent) text
      ((exponentLength? text).getD 0) := by
  cases found : exponentLength? text with
  | none => exact ⟨[], text, rfl, rfl, .inl rfl⟩
  | some length =>
      obtain ⟨exponent, rest, parts, count, formed⟩ := exponentLength?_sound found
      exact ⟨exponent, rest, parts, count, .inr formed⟩

theorem IsExponent.countWhile_eq {exponent : List Char} (formed : IsExponent exponent)
    (rest : List Char) : countWhile isDigit (exponent ++ rest) = 0 := by
  obtain ⟨known, signed, run⟩ := formed
  rcases known with rfl | rfl
  · exact countWhile_cons_of_neg (by decide) _
  · exact countWhile_cons_of_neg (by decide) _

/-- Behind the digits in front, a point decides that there need not be an exponent. -/
theorem floatLength?_point {whole rest : List Char}
    (count : countWhile isDigit (whole ++ '.' :: rest) = whole.length) :
    floatLength? (whole ++ '.' :: rest) =
      if whole.length + digitCount rest = 0 then none
      else some (whole.length + 1 + digitCount rest +
        (exponentLength? (rest.drop (digitCount rest))).getD 0) := by
  unfold floatLength?
  rw [digitCount, count]
  dsimp only
  rw [List.drop_left]
  rfl

theorem floatLength?_noPoint {whole rest : List Char}
    (count : countWhile isDigit (whole ++ rest) = whole.length)
    (noPoint : ∀ behind, rest ≠ '.' :: behind) :
    floatLength? (whole ++ rest) =
      if whole.length = 0 then none else (exponentLength? rest).map (whole.length + ·) := by
  unfold floatLength?
  rw [digitCount, count]
  dsimp only
  rw [List.drop_left]
  split
  · rename_i behind
    exact absurd rfl (noPoint behind)
  · rfl

theorem floatLength?_sound {text : List Char} {length : Nat}
    (found : floatLength? text = some length) : Begins IsFloat text length := by
  obtain ⟨whole, rest, rfl, count, all⟩ := begins_run isDigit text
  by_cases point : ∃ behind, rest = '.' :: behind
  · obtain ⟨behind, rfl⟩ := point
    rw [floatLength?_point count.symm] at found
    obtain ⟨fraction, unread, rfl, fractionCount, digits⟩ := begins_run isDigit behind
    rw [digitCount, ← fractionCount, List.drop_left] at found
    split at found
    · cases found
    · rename_i some
      cases found
      obtain ⟨exponent, after, rfl, exponentCount, ends⟩ := begins_exponent unread
      refine ⟨whole ++ '.' :: (fraction ++ exponent), after, ?_, ?_, ?_⟩
      · rw [List.append_assoc, List.cons_append, List.append_assoc]
      · rw [← exponentCount, List.length_append, List.length_cons, List.length_append]
        omega
      · by_cases empty : whole.length = 0
        · cases List.length_eq_zero_iff.mp empty
          exact .fraction (.of_length digits (by omega)) ends
        · exact .whole (.of_length all empty) digits ends
  · rw [floatLength?_noPoint count.symm (not_exists.mp point)] at found
    split at found
    · cases found
    · rename_i some
      obtain ⟨more, exponentFound, rfl⟩ := Option.map_eq_some_iff.mp found
      obtain ⟨exponent, after, rfl, exponentCount, formed⟩ := exponentLength?_sound exponentFound
      refine ⟨whole ++ exponent, after, (List.append_assoc _ _ _).symm, ?_,
        .exponent (.of_length all some) formed⟩
      rw [List.length_append, exponentCount]

/-- Behind a point, no fraction with an exponent reaches further than what is taken. -/
theorem fraction_le {fraction exponent : List Char}
    (digits : ∀ char ∈ fraction, isDigit char = true) (ends : exponent = [] ∨ IsExponent exponent)
    (rest : List Char) :
    fraction.length + exponent.length ≤ digitCount (fraction ++ (exponent ++ rest)) +
      (exponentLength? ((fraction ++ (exponent ++ rest)).drop
        (digitCount (fraction ++ (exponent ++ rest))))).getD 0 := by
  rw [digitCount, countWhile_append digits]
  rcases ends with rfl | formed
  · rw [List.length_nil]
    omega
  · obtain ⟨length, found, bound⟩ := exponentLength?_complete formed rest
    rw [formed.countWhile_eq, Nat.add_zero, List.drop_left, found, Option.getD_some]
    omega

theorem floatLength?_complete {literal : List Char} (formed : IsFloat literal) (rest : List Char) :
    ∃ length, floatLength? (literal ++ rest) = some length ∧ literal.length ≤ length := by
  cases formed with
  | @whole whole fraction exponent run digits ends =>
      have positive := List.length_pos_iff.mpr run.nonempty
      have bound := fraction_le digits ends rest
      have count : countWhile isDigit (whole ++ '.' :: (fraction ++ (exponent ++ rest))) =
          whole.length := by
        rw [countWhile_append run.all, countWhile_cons_of_neg (by decide), Nat.add_zero]
      rw [List.append_assoc, List.cons_append, List.append_assoc, floatLength?_point count,
        if_neg (by omega)]
      refine ⟨_, rfl, ?_⟩
      rw [List.length_append, List.length_cons, List.length_append]
      omega
  | @fraction fraction exponent run ends =>
      have positive := List.length_pos_iff.mpr run.nonempty
      have bound := fraction_le run.all ends rest
      have none : countWhile isDigit ('.' :: (fraction ++ (exponent ++ rest))) = 0 :=
        countWhile_cons_of_neg (by decide) _
      have some : digitCount (fraction ++ (exponent ++ rest)) ≠ 0 := by
        rw [digitCount, countWhile_append run.all]
        omega
      have point := @floatLength?_point [] _ none
      rw [List.nil_append, List.length_nil, Nat.zero_add, if_neg some] at point
      rw [List.cons_append, List.append_assoc, point]
      refine ⟨_, rfl, ?_⟩
      rw [List.length_cons, List.length_append]
      omega
  | @exponent whole exponent run ends =>
      have positive := List.length_pos_iff.mpr run.nonempty
      obtain ⟨length, found, bound⟩ := exponentLength?_complete ends rest
      refine ⟨whole.length + length, ?_, ?_⟩
      · have count : countWhile isDigit (whole ++ (exponent ++ rest)) = whole.length := by
          rw [countWhile_append run.all, ends.countWhile_eq, Nat.add_zero]
        have noPoint : ∀ behind, exponent ++ rest ≠ '.' :: behind := by
          intro behind same
          rw [same] at found
          cases found
        rw [List.append_assoc, floatLength?_noPoint count noPoint, if_neg (Nat.ne_of_gt positive),
          found, Option.map_some]
      · rw [List.length_append]
        omega

theorem IsFloat.ne_nil {literal : List Char} (formed : IsFloat literal) : literal ≠ [] := by
  cases formed with
  | whole run digits ends => exact List.append_ne_nil_of_left_ne_nil run.nonempty _
  | fraction run ends => exact List.cons_ne_nil _ _
  | exponent run ends => exact List.append_ne_nil_of_left_ne_nil run.nonempty _

/-! ### Characters -/

theorem isHexDigit_eq : isHexDigit = isHexadecimal := by
  funext char
  have order (one other : Char) : one ≤ other ↔ one.toNat ≤ other.toNat := Iff.rfl
  have isSome_filter (value : Nat) :
      ((some value).filter (· < 16)).isSome = decide (value < 16) := by
    by_cases small : value < 16 <;> simp [Option.filter, small]
  unfold isHexDigit digitValue? isHexadecimal isDigit
  dsimp only
  rw [Bool.eq_iff_iff]
  simp only [order, Char.reduceToNat, Bool.or_eq_true, Bool.and_eq_true, decide_eq_true_eq]
  split
  · rw [isSome_filter, decide_eq_true_eq]
    omega
  · split
    · rw [isSome_filter, decide_eq_true_eq]
      omega
    · split
      · rw [isSome_filter, decide_eq_true_eq]
        omega
      · simp only [Option.filter_none, Option.isSome_none, Bool.false_eq_true, false_iff]
        omega

theorem simpleEscapes_contains_eq_false {char : Char} (octal : isOctalDigit char = true) :
    simpleEscapes.contains char = false := by
  cases known : simpleEscapes.contains char with
  | false => rfl
  | true =>
      have member := List.contains_iff_mem.mp known
      have apart : simpleEscapes.all (fun known => !isOctalDigit known) = true := by decide
      rw [List.all_eq_true] at apart
      have different := apart char member
      rw [octal] at different
      cases different

theorem escapeLength?_hexadecimal (rest : List Char) :
    escapeLength? ('\\' :: 'x' :: rest) =
      if countWhile isHexadecimal rest = 0 then none
      else some (2 + countWhile isHexadecimal rest) := by
  rw [← isHexDigit_eq]
  rfl

theorem escapeLength?_cons {char : Char} (notX : char ≠ 'x') (rest : List Char) :
    escapeLength? ('\\' :: char :: rest) =
      if simpleEscapes.contains char then some 2
      else if isOctalDigit char then some (1 + min 3 (countWhile isOctalDigit (char :: rest)))
      else none := by
  rw [escapeLength?]
  exact fun same => notX same

theorem escapeLength?_sound {text : List Char} {length : Nat}
    (found : escapeLength? text = some length) : Begins IsEscape text length := by
  obtain ⟨char, behind, rfl⟩ : ∃ char behind, text = '\\' :: char :: behind := by
    unfold escapeLength? at found
    split at found
    · exact ⟨_, _, rfl⟩
    · exact ⟨_, _, rfl⟩
    · cases found
  by_cases isX : char = 'x'
  · subst isX
    obtain ⟨digits, rest, rfl, count, all⟩ := begins_run isHexadecimal behind
    rw [escapeLength?_hexadecimal, ← count] at found
    split at found
    · cases found
    · rename_i some
      cases found
      refine ⟨'\\' :: 'x' :: digits, rest, rfl, ?_, .hexadecimal (.of_length all some)⟩
      rw [List.length_cons, List.length_cons]
      omega
  · rw [escapeLength?_cons isX] at found
    split at found
    · rename_i known
      cases found
      exact ⟨['\\', char], behind, rfl, rfl, .simple (List.contains_iff_mem.mp known)⟩
    · split at found
      · rename_i octal
        cases found
        obtain ⟨digits, rest, parts, count, all⟩ := begins_run isOctalDigit (char :: behind)
        have positive : 0 < digits.length := by
          rw [count, countWhile, List.takeWhile_cons_of_pos octal]
          exact Nat.succ_pos _
        have length : (digits.take 3).length = min 3 digits.length := List.length_take
        refine ⟨'\\' :: digits.take 3, digits.drop 3 ++ rest, ?_, ?_,
          .octal (.of_length (fun digit member => all digit (List.mem_of_mem_take member)) ?_) ?_⟩
        · rw [List.cons_append, ← List.append_assoc, List.take_append_drop, ← parts]
        · rw [← count, List.length_cons, length, Nat.add_comm]
        · omega
        · omega
      · cases found

theorem escapeLength?_complete {literal : List Char} (formed : IsEscape literal)
    (rest : List Char) :
    ∃ length, escapeLength? (literal ++ rest) = some length ∧ literal.length ≤ length := by
  cases formed with
  | @simple char known =>
      have notX : char ≠ 'x' := by
        rintro rfl
        exact absurd known (by decide)
      have member : simpleEscapes.contains char = true := List.contains_iff_mem.mpr known
      exact ⟨2, (escapeLength?_cons notX rest).trans (if_pos member), Nat.le_refl 2⟩
  | @hexadecimal digits run =>
      have positive := List.length_pos_iff.mpr run.nonempty
      have count := countWhile_append run.all rest
      rw [List.cons_append, List.cons_append, escapeLength?_hexadecimal, if_neg (by omega)]
      refine ⟨_, rfl, ?_⟩
      rw [List.length_cons, List.length_cons]
      omega
  | @octal digits run short =>
      obtain ⟨first, others, rfl⟩ := List.exists_cons_of_ne_nil run.nonempty
      have octal := run.all first List.mem_cons_self
      have notX : first ≠ 'x' := by
        rintro rfl
        exact absurd octal (by decide)
      have count := countWhile_append run.all rest
      rw [List.cons_append] at count
      rw [List.cons_append, List.cons_append, escapeLength?_cons notX,
        simpleEscapes_contains_eq_false octal, if_neg Bool.false_ne_true, if_pos octal]
      refine ⟨_, rfl, ?_⟩
      rw [count, List.length_cons]
      omega

/-- Numbers and characters are recognised by the longest literals at every place of every line. -/
theorem literals_areLongest :
    FindsLongest floatLength? IsFloat ∧ FindsLongest escapeLength? IsEscape := by
  constructor
  · exact .of_append (fun _ _ => floatLength?_sound) (fun _ rest formed =>
      floatLength?_complete formed rest) (fun formed => formed.ne_nil rfl)
  · exact .of_append (fun _ _ => escapeLength?_sound) (fun _ rest formed =>
      escapeLength?_complete formed rest) (fun formed => nomatch formed)

/-- An exponent without digits is left, and the number ends before it. -/
example : floatLength? "1.5e+x".toList = some 3 := by decide

end SyntaxHighlight
