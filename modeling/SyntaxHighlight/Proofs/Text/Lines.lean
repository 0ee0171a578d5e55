/-
The lines of texts that are put together. Where one text ends and the other one begins their
lines become one, unless a carriage return meets a line feed there: then the two are one line
break, and the empty lines on both sides of the seam are gone.
-/

import SyntaxHighlight.Text.LineBreak

namespace SyntaxHighlight.Text

/-- The lines of a text without their line breaks. -/
def lineTexts (text : List Char) : List (List Char) := (splitLines text).map (·.chars)

/-- A carriage return at the end of one text and a line feed at the start of the other one. -/
def Meets (one other : List Char) : Prop := one.getLast? = some '\r' ∧ other.head? = some '\n'

instance (one other : List Char) : Decidable (Meets one other) :=
  inferInstanceAs (Decidable (_ ∧ _))

theorem meets_singleton {char : Char} {rest : List Char} (meets : Meets [char] rest) :
    char = '\r' ∧ ∃ after, rest = '\n' :: after := by
  obtain ⟨carriage, feed⟩ := meets
  exact ⟨Option.some.inj carriage, List.head?_eq_some_iff.mp feed⟩

/-! ### Lines by the first character -/

theorem lineTexts_nil : lineTexts [] = [[]] := rfl

theorem lineTexts_feed (rest : List Char) : lineTexts ('\n' :: rest) = [] :: lineTexts rest := rfl

theorem splitLines_cons (char : Char) (rest : List Char) (apart : ¬Meets [char] rest) :
    splitLines (char :: rest) =
      if isLineBreak char then ⟨[], [char]⟩ :: splitLines rest
      else prependChar char (splitLines rest) := by
  rw [splitLines]
  rintro after rfl rfl
  exact apart ⟨rfl, rfl⟩

theorem lineTexts_break {char : Char} {rest : List Char} (breaks : isLineBreak char = true)
    (apart : ¬Meets [char] rest) : lineTexts (char :: rest) = [] :: lineTexts rest := by
  unfold lineTexts
  rw [splitLines_cons char rest apart, if_pos breaks]
  rfl

theorem lineTexts_char {char : Char} {rest first : List Char} {others : List (List Char)}
    (plain : isLineBreak char = false) (known : lineTexts rest = first :: others) :
    lineTexts (char :: rest) = (char :: first) :: others := by
  have apart : ¬Meets [char] rest := by
    rintro ⟨carriage, _⟩
    cases Option.some.inj carriage
    cases plain
  unfold lineTexts at known ⊢
  rw [splitLines_cons char rest apart, if_neg (by rw [plain]; exact Bool.false_ne_true)]
  cases split : splitLines rest with
  | nil =>
      rw [split] at known
      cases known
  | cons line lines =>
      rw [split] at known
      cases known
      rfl

/-- Every text has a first line. -/
theorem lineTexts_eq_cons (text : List Char) :
    ∃ first others, lineTexts text = first :: others := by
  induction text with
  | nil => exact ⟨[], [], rfl⟩
  | cons char rest ih =>
      obtain ⟨first, others, known⟩ := ih
      by_cases meets : Meets [char] rest
      · obtain ⟨rfl, after, rfl⟩ := meets_singleton meets
        exact ⟨first, others, known⟩
      · cases breaks : isLineBreak char with
        | true => exact ⟨[], lineTexts rest, lineTexts_break breaks meets⟩
        | false => exact ⟨char :: first, others, lineTexts_char breaks known⟩

theorem lineTexts_ne_nil (text : List Char) : lineTexts text ≠ [] := by
  obtain ⟨first, others, known⟩ := lineTexts_eq_cons text
  rw [known]
  exact List.cons_ne_nil first others

theorem length_lineTexts_pos (text : List Char) : 0 < (lineTexts text).length :=
  List.length_pos_iff.mpr (lineTexts_ne_nil text)

theorem length_splitLines (text : List Char) :
    (splitLines text).length = (lineTexts text).length := by
  rw [lineTexts, List.length_map]

theorem length_lineTexts_char {char : Char} (plain : isLineBreak char = false)
    (rest : List Char) : (lineTexts (char :: rest)).length = (lineTexts rest).length := by
  obtain ⟨first, others, known⟩ := lineTexts_eq_cons rest
  rw [lineTexts_char plain known, known]
  rfl

theorem length_lineTexts_le_cons (char : Char) (rest : List Char) :
    (lineTexts rest).length ≤ (lineTexts (char :: rest)).length := by
  by_cases meets : Meets [char] rest
  · obtain ⟨rfl, after, rfl⟩ := meets_singleton meets
    exact Nat.le_refl _
  · cases breaks : isLineBreak char with
    | true =>
        rw [lineTexts_break breaks meets]
        exact Nat.le_succ _
    | false => exact Nat.le_of_eq (length_lineTexts_char breaks rest).symm

theorem two_le_length_of_return {text : List Char} (carriage : text.getLast? = some '\r') :
    2 ≤ (lineTexts text).length := by
  induction text with
  | nil => cases carriage
  | cons char rest ih =>
      cases rest with
      | nil =>
          cases Option.some.inj carriage
          exact Nat.le_refl 2
      | cons next rest =>
          rw [List.getLast?_cons_cons] at carriage
          exact Nat.le_trans (ih carriage) (length_lineTexts_le_cons char (next :: rest))

/-- A text holds the line breaks that may meet others at its ends. -/
theorem lt_length_lineTexts (text : List Char) :
    (if text.head? = some '\n' then 1 else 0) + (if text.getLast? = some '\r' then 1 else 0) <
      (lineTexts text).length := by
  by_cases feed : text.head? = some '\n'
  · obtain ⟨rest, rfl⟩ := List.head?_eq_some_iff.mp feed
    rw [if_pos feed, lineTexts_feed, List.length_cons]
    have positive := length_lineTexts_pos rest
    split
    · rename_i carriage
      cases rest with
      | nil => cases carriage
      | cons next rest =>
          rw [List.getLast?_cons_cons] at carriage
          have many := two_le_length_of_return carriage
          omega
    · omega
  · rw [if_neg feed]
    split
    · rename_i carriage
      have many := two_le_length_of_return carriage
      omega
    · exact length_lineTexts_pos text

/-! ### Texts put together -/

/-- The lines of two texts stay as they are, apart from the last one of the first text and the
first one of the other. These are one line, or none if a line break forms between them. -/
theorem lineTexts_append (one other : List Char) :
    ∃ seam, lineTexts (one ++ other) =
        (lineTexts one).dropLast ++ (seam ++ (lineTexts other).tail) ∧
      seam.length = if Meets one other then 0 else 1 := by
  induction one with
  | nil =>
      obtain ⟨first, others, known⟩ := lineTexts_eq_cons other
      refine ⟨[first], ?_, ?_⟩
      · rw [List.nil_append, known]
        rfl
      · rw [if_neg (fun meets => by cases meets.1)]
        rfl
  | cons char rest ih =>
      obtain ⟨seam, joined, length⟩ := ih
      cases rest with
      | nil =>
          by_cases meets : Meets [char] other
          · obtain ⟨rfl, after, rfl⟩ := meets_singleton meets
            exact ⟨[], rfl, rfl⟩
          · obtain ⟨first, others, known⟩ := lineTexts_eq_cons other
            rw [if_neg meets]
            cases breaks : isLineBreak char with
            | true =>
                refine ⟨[first], ?_, rfl⟩
                rw [List.singleton_append, lineTexts_break breaks meets, known,
                  lineTexts_break breaks (fun both => by cases both.2)]
                rfl
            | false =>
                refine ⟨[char :: first], ?_, rfl⟩
                rw [List.singleton_append, lineTexts_char breaks known,
                  lineTexts_char breaks lineTexts_nil, known]
                rfl
      | cons next rest =>
          have meetsRest : Meets (char :: next :: rest) other ↔ Meets (next :: rest) other := by
            rw [Meets, Meets, List.getLast?_cons_cons]
          simp only [meetsRest]
          by_cases meets : Meets [char] (next :: rest)
          · obtain ⟨rfl, after, same⟩ := meets_singleton meets
            cases same
            exact ⟨seam, joined, length⟩
          · cases breaks : isLineBreak char with
            | true =>
                have apart : ¬Meets [char] (next :: rest ++ other) := meets
                refine ⟨seam, ?_, length⟩
                rw [lineTexts_break breaks meets,
                  List.dropLast_cons_of_ne_nil (lineTexts_ne_nil _)]
                exact (lineTexts_break breaks apart).trans (congrArg (List.cons []) joined)
            | false =>
                obtain ⟨first, others, known⟩ := lineTexts_eq_cons (next :: rest)
                rw [known] at joined
                rw [lineTexts_char breaks known]
                cases others with
                | cons line lines =>
                    exact ⟨seam, lineTexts_char breaks joined, length⟩
                | nil =>
                    have apart : ¬Meets (next :: rest) other := by
                      intro both
                      have many := two_le_length_of_return both.1
                      rw [known] at many
                      exact Nat.lt_irrefl 1 many
                    rw [if_neg apart] at length ⊢
                    obtain ⟨line, rfl⟩ := List.length_eq_one_iff.mp length
                    exact ⟨[char :: line], lineTexts_char breaks joined, rfl⟩

example : lineTexts (['a', '\r'] ++ ['\n', 'b']) = [['a'], ['b']] := rfl

theorem length_lineTexts_le_append (one other : List Char) :
    (lineTexts one).length ≤ (lineTexts (one ++ other)).length := by
  obtain ⟨seam, joined, length⟩ := lineTexts_append one other
  have positive := length_lineTexts_pos one
  have ends := lt_length_lineTexts other
  rw [joined, List.length_append, List.length_append, List.length_dropLast, List.length_tail,
    length]
  split
  · rename_i meets
    rw [if_pos meets.2] at ends
    omega
  · omega

/-- What stands between two parts of a text decides about the lines between theirs only. There are
such lines, unless nothing stands there and a line break forms. -/
theorem lineTexts_between (one text other : List Char) :
    ∃ lines, lineTexts (one ++ text ++ other) =
        (lineTexts one).dropLast ++ (lines ++ (lineTexts other).tail) ∧
      (lines = [] ↔ text = [] ∧ Meets one other) := by
  obtain ⟨outer, joinedOuter, lengthOuter⟩ := lineTexts_append one (text ++ other)
  obtain ⟨inner, joinedInner, lengthInner⟩ := lineTexts_append text other
  have ends := lt_length_lineTexts text
  have whole : (lineTexts text).dropLast ++ inner ≠ [] := by
    intro none
    have length := congrArg List.length none
    rw [List.length_append, List.length_dropLast, lengthInner, List.length_nil] at length
    split at length
    · rename_i meets
      rw [if_pos meets.1] at ends
      omega
    · omega
  obtain ⟨head, rest, parts⟩ := List.exists_cons_of_ne_nil whole
  have lengths := congrArg List.length parts
  rw [List.length_append, List.length_dropLast, List.length_cons] at lengths
  refine ⟨outer ++ rest, ?_, ?_⟩
  · rw [List.append_assoc one, joinedOuter, joinedInner, ← List.append_assoc _ inner, parts,
      List.cons_append, List.tail_cons, List.append_assoc outer]
  · rw [List.append_eq_nil_iff, ← List.length_eq_zero_iff, ← List.length_eq_zero_iff, lengthOuter]
    rw [lengthInner] at lengths
    by_cases empty : text = []
    · subst empty
      have apart : ¬Meets [] other := fun meets => by cases meets.1
      rw [if_neg apart, lineTexts_nil, List.length_singleton] at lengths
      rw [List.nil_append]
      split
      · rename_i meets
        exact ⟨fun _ => ⟨rfl, meets⟩, fun _ => ⟨rfl, by omega⟩⟩
      · rename_i apart
        exact ⟨fun none => by omega, fun both => absurd both.2 apart⟩
    · constructor
      · rintro ⟨outerNone, restNone⟩
        have feed : text.head? = some '\n' := by
          split at outerNone
          · rename_i meets
            obtain ⟨next, others, rfl⟩ := List.exists_cons_of_ne_nil empty
            exact meets.2
          · omega
        rw [if_pos feed] at ends
        split at lengths
        · rename_i meets
          rw [if_pos meets.1] at ends
          omega
        · omega
      · intro both
        exact absurd both.1 empty

/-! ### Texts cut in two -/

theorem not_meets_cons {char : Char} {one other : List Char} (apart : ¬Meets [char] (one ++ other))
    (apartRest : ¬Meets one other) : ¬Meets (char :: one) other := by
  cases one with
  | nil => exact apart
  | cons next rest =>
      rw [Meets, List.getLast?_cons_cons]
      exact apartRest

theorem not_meets_take {char : Char} {rest : List Char} (apart : ¬Meets [char] rest)
    (count : Nat) : ¬Meets [char] (rest.take count) := by
  rintro ⟨carriage, feed⟩
  rw [List.head?_take] at feed
  split at feed
  · cases feed
  · exact apart ⟨carriage, feed⟩

/-- An index cuts a text within a line: the lines of the first part are those up to this line, and
no carriage return is parted from a line feed. -/
def Cuts (text : List Char) (line index : Nat) : Prop :=
  (lineTexts (text.take index)).length = line + 1 ∧ ¬Meets (text.take index) (text.drop index)

theorem cuts_start (text : List Char) : Cuts text 0 0 :=
  ⟨rfl, fun meets => by cases meets.1⟩

section Cons

variable {char : Char} {rest : List Char} {line index : Nat}

theorem not_meets_cons_take (apart : ¬Meets [char] rest)
    (apartRest : ¬Meets (rest.take index) (rest.drop index)) :
    ¬Meets ((char :: rest).take (index + 1)) ((char :: rest).drop (index + 1)) := by
  rw [← List.take_append_drop index rest] at apart
  exact not_meets_cons apart apartRest

theorem cuts_cons_break (breaks : isLineBreak char = true) (apart : ¬Meets [char] rest)
    (cuts : Cuts rest line index) : Cuts (char :: rest) (line + 1) (index + 1) := by
  refine ⟨?_, not_meets_cons_take apart cuts.2⟩
  rw [List.take_succ_cons, lineTexts_break breaks (not_meets_take apart index), List.length_cons,
    cuts.1]

theorem cuts_cons_char (plain : isLineBreak char = false) (apart : ¬Meets [char] rest)
    (cuts : Cuts rest line index) : Cuts (char :: rest) line (index + 1) := by
  refine ⟨?_, not_meets_cons_take apart cuts.2⟩
  rw [List.take_succ_cons, length_lineTexts_char plain, cuts.1]

/-- A carriage return before a line feed begins no further line. -/
theorem cuts_cons_return (cuts : Cuts ('\n' :: rest) line (index + 1)) :
    Cuts ('\r' :: '\n' :: rest) line (index + 2) := by
  obtain ⟨length, apart⟩ := cuts
  refine ⟨length, ?_⟩
  rw [Meets, List.take_succ_cons, List.take_succ_cons, List.getLast?_cons_cons]
  exact apart

theorem lineStart_cons_break (breaks : isLineBreak char = true) (apart : ¬Meets [char] rest) :
    lineStart (splitLines (char :: rest)) (line + 1) =
      lineStart (splitLines rest) line + 1 := by
  rw [splitLines_cons char rest apart, if_pos breaks]
  exact Nat.add_comm 1 _

theorem lineStart_cons_char (plain : isLineBreak char = false) (apart : ¬Meets [char] rest) :
    lineStart (splitLines (char :: rest)) (line + 1) =
      lineStart (splitLines rest) (line + 1) + 1 := by
  obtain ⟨first, others, known⟩ := lineTexts_eq_cons rest
  rw [splitLines_cons char rest apart, if_neg (by rw [plain]; exact Bool.false_ne_true)]
  cases split : splitLines rest with
  | nil =>
      rw [lineTexts, split] at known
      cases known
  | cons top below =>
      change (top.chars.length + 1 + top.lineBreak.length) + lineStart below line =
        (top.chars.length + top.lineBreak.length) + lineStart below line + 1
      omega

theorem lineStart_zero (lines : List TextLine) : lineStart lines 0 = 0 := by
  rw [lineStart]

end Cons

theorem cuts_at {text chars : List Char} {line column : Nat}
    (found : (lineTexts text)[line]? = some chars) (bound : column ≤ chars.length) :
    Cuts text line (lineStart (splitLines text) line + column) := by
  induction text generalizing line column chars with
  | nil =>
      cases line with
      | zero =>
          cases found
          cases Nat.le_zero.mp bound
          exact cuts_start []
      | succ line => cases found
  | cons char rest ih =>
      by_cases meets : Meets [char] rest
      · obtain ⟨rfl, after, rfl⟩ := meets_singleton meets
        cases line with
        | zero =>
            cases found
            cases Nat.le_zero.mp bound
            exact cuts_start _
        | succ line =>
            have cuts := @ih chars (line + 1) column found bound
            change Cuts _ _ (1 + lineStart (splitLines after) line + column) at cuts
            change Cuts _ _ (2 + lineStart (splitLines after) line + column)
            rw [show 1 + lineStart (splitLines after) line + column =
              lineStart (splitLines after) line + column + 1 by omega] at cuts
            rw [show 2 + lineStart (splitLines after) line + column =
              lineStart (splitLines after) line + column + 2 by omega]
            exact cuts_cons_return cuts
      · cases breaks : isLineBreak char with
        | true =>
            rw [lineTexts_break breaks meets] at found
            cases line with
            | zero =>
                cases found
                cases Nat.le_zero.mp bound
                rw [lineStart_zero]
                exact cuts_start _
            | succ line =>
                rw [lineStart_cons_break breaks meets, Nat.add_right_comm]
                exact cuts_cons_break breaks meets (ih found bound)
        | false =>
            obtain ⟨first, others, known⟩ := lineTexts_eq_cons rest
            rw [lineTexts_char breaks known] at found
            rw [known] at ih
            cases line with
            | zero =>
                cases found
                rw [lineStart_zero]
                cases column with
                | zero => exact cuts_start _
                | succ column =>
                    have cuts := @ih first 0 column rfl (Nat.le_of_succ_le_succ bound)
                    rw [lineStart_zero] at cuts
                    exact cuts_cons_char breaks meets cuts
            | succ line =>
                rw [lineStart_cons_char breaks meets, Nat.add_right_comm]
                exact cuts_cons_char breaks meets (@ih chars (line + 1) column found bound)

section Cut

variable {text : List Char} {line index : Nat}

theorem lineTexts_take (cuts : Cuts text line index) :
    (lineTexts (text.take index)).dropLast = (lineTexts text).take line := by
  obtain ⟨seam, joined, _⟩ := lineTexts_append (text.take index) (text.drop index)
  rw [List.take_append_drop] at joined
  rw [joined, List.take_left' (by rw [List.length_dropLast, cuts.1]; rfl)]

theorem lineTexts_drop (cuts : Cuts text line index) :
    (lineTexts (text.drop index)).tail = (lineTexts text).drop (line + 1) := by
  obtain ⟨seam, joined, seamLength⟩ := lineTexts_append (text.take index) (text.drop index)
  rw [List.take_append_drop, ← List.append_assoc] at joined
  rw [if_neg cuts.2] at seamLength
  rw [joined, List.drop_left' (by
    rw [List.length_append, List.length_dropLast, cuts.1, seamLength]
    rfl)]

end Cut

end SyntaxHighlight.Text
