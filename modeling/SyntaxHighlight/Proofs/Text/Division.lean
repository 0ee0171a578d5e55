/-
The division of a text into lines. There is only one into lines without breaks of which all but the
last end with a line break, such that no line break goes on where the next line begins. So the lines
of a text that is made from lines are these lines, as long as no two breaks meet.
-/

import SyntaxHighlight.Proofs.Text.Index

namespace SyntaxHighlight.Text

/-! ### Texts that meet -/

section Meets

variable {one other rest : List Char}

theorem not_meets_nil_left : ¬Meets [] other := fun meets => by cases meets.1

theorem not_meets_nil_right : ¬Meets one [] := fun meets => by cases meets.2

theorem meets_append_left (some : other ≠ []) : Meets (one ++ other) rest ↔ Meets other rest := by
  rw [Meets, Meets, List.getLast?_append, List.getLast?_eq_some_getLast some, Option.some_or]

theorem meets_append_right (some : other ≠ []) : Meets one (other ++ rest) ↔ Meets one other := by
  obtain ⟨char, chars, rfl⟩ := List.exists_cons_of_ne_nil some
  exact Iff.rfl

end Meets

/-! ### Lines that make up a text -/

/-- A carriage return before a line feed, or a break character alone. -/
def EndsLine (lineBreak : List Char) : Prop :=
  lineBreak = ['\r', '\n'] ∨ ∃ char, isLineBreak char = true ∧ lineBreak = [char]

def IsPlain (chars : List Char) : Prop := ∀ char ∈ chars, isLineBreak char = false

def joinLines (lines : List TextLine) : List Char := lines.flatMap TextLine.toList

/-- Lines without breaks of their own. All but the last one end with a line break that does not go
on in the text behind. -/
inductive AreLines : List TextLine → Prop
  | last (chars : List Char) (plain : IsPlain chars) : AreLines [⟨chars, []⟩]
  | cons (chars lineBreak : List Char) (rest : List TextLine) (plain : IsPlain chars)
      (ends : EndsLine lineBreak) (apart : ¬Meets lineBreak (joinLines rest))
      (behind : AreLines rest) : AreLines (⟨chars, lineBreak⟩ :: rest)

section Lines

variable {char : Char} {chars lineBreak text : List Char} {line : TextLine}
  {lines before behind old new : List TextLine}

theorem joinLines_cons (line : TextLine) (rest : List TextLine) :
    joinLines (line :: rest) = line.chars ++ (line.lineBreak ++ joinLines rest) := by
  rw [joinLines, List.flatMap_cons, TextLine.toList, List.append_assoc]
  rfl

theorem joinLines_append (before behind : List TextLine) :
    joinLines (before ++ behind) = joinLines before ++ joinLines behind :=
  List.flatMap_append

theorem joinLines_last (before : List TextLine) (last : List Char) :
    joinLines (before ++ [⟨last, []⟩]) = joinLines before ++ last := by
  rw [joinLines_append, joinLines_cons]
  exact congrArg _ (List.append_nil last)

theorem EndsLine.ne_nil (ends : EndsLine lineBreak) : lineBreak ≠ [] := by
  rcases ends with rfl | ⟨char, _, rfl⟩ <;> simp

/-- Of all line breaks only a carriage return may go on. -/
theorem EndsLine.eq_return (ends : EndsLine lineBreak) (meets : Meets lineBreak text) :
    lineBreak = ['\r'] := by
  obtain ⟨carriage, _⟩ := meets
  rcases ends with rfl | ⟨char, _, rfl⟩
  · cases carriage
  · cases Option.some.inj carriage
    rfl

theorem EndsLine.eq_feed (ends : EndsLine lineBreak) (feed : lineBreak.head? = some '\n') :
    lineBreak = ['\n'] := by
  rcases ends with rfl | ⟨char, _, rfl⟩
  · cases feed
  · cases Option.some.inj feed
    rfl

theorem IsPlain.head?_ne (plain : IsPlain chars) : chars.head? ≠ some '\n' := by
  intro feed
  have breaks := plain '\n' (List.mem_of_mem_head? feed)
  cases breaks

theorem IsPlain.not_meets_left (plain : IsPlain chars) : ¬Meets chars text := by
  rintro ⟨carriage, _⟩
  have breaks := plain '\r' (List.mem_of_mem_getLast? carriage)
  cases breaks

theorem IsPlain.not_meets_right (plain : IsPlain chars) : ¬Meets text chars :=
  fun meets => plain.head?_ne meets.2

theorem IsPlain.append {others : List Char} (plain : IsPlain chars) (otherPlain : IsPlain others) :
    IsPlain (chars ++ others) :=
  List.forall_mem_append.mpr ⟨plain, otherPlain⟩

theorem IsPlain.take (plain : IsPlain chars) (count : Nat) : IsPlain (chars.take count) :=
  fun char member => plain char (List.mem_of_mem_take member)

/-! ### The lines of a text -/

theorem splitLines_char (plain : isLineBreak char = false) (rest : List Char) :
    splitLines (char :: rest) = prependChar char (splitLines rest) := by
  have alone : IsPlain [char] := by simpa [IsPlain] using plain
  rw [splitLines_cons char rest alone.not_meets_left, plain, if_neg Bool.false_ne_true]

theorem splitLines_plain (plain : IsPlain chars) : splitLines chars = [⟨chars, []⟩] := by
  induction chars with
  | nil => rfl
  | cons char rest ih =>
      obtain ⟨charPlain, restPlain⟩ := List.forall_mem_cons.mp plain
      rw [splitLines_char charPlain, ih restPlain, prependChar]

theorem splitLines_append (plain : IsPlain chars) (ends : EndsLine lineBreak)
    (apart : ¬Meets lineBreak text) :
    splitLines (chars ++ (lineBreak ++ text)) = ⟨chars, lineBreak⟩ :: splitLines text := by
  induction chars with
  | nil =>
      rcases ends with rfl | ⟨char, breaks, rfl⟩
      · rfl
      · exact (splitLines_cons char text apart).trans (if_pos breaks)
  | cons char rest ih =>
      obtain ⟨charPlain, restPlain⟩ := List.forall_mem_cons.mp plain
      rw [List.cons_append, splitLines_char charPlain, ih restPlain, prependChar]

/-- The lines of a text that is made from lines are these lines. -/
theorem AreLines.splitLines_joinLines (areLines : AreLines lines) :
    splitLines (joinLines lines) = lines := by
  induction areLines with
  | last chars plain =>
      rw [joinLines_cons]
      exact (congrArg splitLines (List.append_nil chars)).trans (splitLines_plain plain)
  | cons chars lineBreak rest plain ends apart behind ih =>
      rw [joinLines_cons, splitLines_append plain ends apart, ih]

theorem joinLines_prependChar (char : Char) (some : lines ≠ []) :
    joinLines (prependChar char lines) = char :: joinLines lines := by
  obtain ⟨line, rest, rfl⟩ := List.exists_cons_of_ne_nil some
  rw [prependChar, joinLines_cons, joinLines_cons]
  rfl

theorem joinLines_splitLines (text : List Char) : joinLines (splitLines text) = text := by
  fun_induction splitLines text with
  | case1 => rfl
  | case2 rest ih => rw [joinLines_cons, ih]; rfl
  | case3 char rest apart breaks ih => rw [joinLines_cons, ih]; rfl
  | case4 char rest apart plain ih =>
      rw [joinLines_prependChar char (splitLines_ne_nil rest), ih]

theorem AreLines.prependChar (areLines : AreLines lines) (plain : isLineBreak char = false) :
    AreLines (prependChar char lines) := by
  cases areLines with
  | last chars others => exact .last _ (List.forall_mem_cons.mpr ⟨plain, others⟩)
  | cons chars lineBreak rest others ends apart behind =>
      exact .cons _ _ _ (List.forall_mem_cons.mpr ⟨plain, others⟩) ends apart behind

theorem areLines_splitLines (text : List Char) : AreLines (splitLines text) := by
  have none : IsPlain [] := by simp [IsPlain]
  fun_induction splitLines text with
  | case1 => exact .last [] none
  | case2 rest ih => exact .cons _ _ _ none (.inl rfl) (fun meets => by cases meets.1) ih
  | case3 char rest apart breaks ih =>
      refine .cons _ _ _ none (.inr ⟨char, breaks, rfl⟩) ?_ ih
      rw [joinLines_splitLines]
      intro meets
      obtain ⟨rfl, after, rfl⟩ := meets_singleton meets
      exact apart after rfl rfl
  | case4 char rest apart plain ih => exact ih.prependChar (Bool.eq_false_iff.mpr plain)

/-! ### Lines in the place of others -/

theorem AreLines.ne_nil (areLines : AreLines lines) : lines ≠ [] := by
  cases areLines <;> exact List.cons_ne_nil _ _

theorem areLines_cons (some : behind ≠ []) :
    AreLines (line :: behind) ↔
      IsPlain line.chars ∧ EndsLine line.lineBreak ∧ ¬Meets line.lineBreak (joinLines behind) ∧
        AreLines behind := by
  constructor
  · intro areLines
    cases areLines with
    | last chars plain => exact absurd rfl some
    | cons chars lineBreak rest plain ends apart areBehind => exact ⟨plain, ends, apart, areBehind⟩
  · rintro ⟨plain, ends, apart, areBehind⟩
    exact .cons _ _ _ plain ends apart areBehind

theorem AreLines.plain (areLines : AreLines (line :: behind)) : IsPlain line.chars := by
  cases areLines with
  | last chars plain => exact plain
  | cons chars lineBreak rest plain ends apart areRest => exact plain

theorem EndsLine.toList_ne_nil (ends : EndsLine line.lineBreak) : line.toList ≠ [] :=
  List.append_ne_nil_of_right_ne_nil _ ends.ne_nil

theorem EndsLine.meets_iff (ends : EndsLine line.lineBreak) :
    Meets (joinLines [line]) text ↔ Meets line.lineBreak text := by
  rw [joinLines_cons, joinLines, List.flatMap_nil, List.append_nil, meets_append_left ends.ne_nil]

theorem AreLines.of_append (areLines : AreLines (before ++ old)) (some : old ≠ []) :
    AreLines old := by
  induction before with
  | nil => exact areLines
  | cons line rest ih =>
      obtain ⟨_, _, _, areRest⟩ :=
        (areLines_cons (List.append_ne_nil_of_right_ne_nil rest some)).mp areLines
      exact ih areRest

theorem AreLines.joinLines_ne_nil (areLines : AreLines (line :: behind ++ old))
    (some : old ≠ []) : joinLines (line :: behind) ≠ [] := by
  obtain ⟨_, ends, _, _⟩ :=
    (areLines_cons (List.append_ne_nil_of_right_ne_nil behind some)).mp areLines
  rw [joinLines, List.flatMap_cons]
  exact List.append_ne_nil_of_left_ne_nil ends.toList_ne_nil _

/-- Between lines of a text there is no break that goes on. -/
theorem AreLines.not_meets (areLines : AreLines (before ++ old)) (some : old ≠ []) :
    ¬Meets (joinLines before) (joinLines old) := by
  induction before with
  | nil => exact not_meets_nil_left
  | cons line rest ih =>
      obtain ⟨_, ends, apart, areRest⟩ :=
        (areLines_cons (List.append_ne_nil_of_right_ne_nil rest some)).mp areLines
      cases rest with
      | nil =>
          rw [ends.meets_iff]
          exact apart
      | cons next rest =>
          rw [joinLines, List.flatMap_cons, ← joinLines,
            meets_append_left (areRest.joinLines_ne_nil some)]
          exact ih areRest

/-- A break that forms behind lines of a text goes on a carriage return at their end. -/
theorem AreLines.exists_return (areLines : AreLines (before ++ old)) (some : old ≠ [])
    (meets : Meets (joinLines before) text) :
    ∃ earlier chars, before = earlier ++ [⟨chars, ['\r']⟩] := by
  rcases List.eq_nil_or_concat before with rfl | ⟨earlier, ⟨chars, lineBreak⟩, rfl⟩
  · exact absurd meets not_meets_nil_left
  · rw [List.concat_eq_append, List.append_assoc, List.singleton_append] at areLines
    obtain ⟨_, ends, _, _⟩ :=
      (areLines_cons some).mp (areLines.of_append (List.cons_ne_nil _ _))
    have nonempty : joinLines [⟨chars, lineBreak⟩] ≠ [] :=
      List.append_ne_nil_of_left_ne_nil ends.toList_ne_nil []
    rw [List.concat_eq_append, joinLines_append, meets_append_left nonempty,
      ends.meets_iff] at meets
    cases ends.eq_return meets
    exact ⟨earlier, chars, List.concat_eq_append⟩

/-- The last lines of a text can be replaced by others, unless a break forms in front of these. -/
theorem AreLines.replace (areLines : AreLines (before ++ old)) (some : old ≠ [])
    (newAreLines : AreLines new) (apart : ¬Meets (joinLines before) (joinLines new)) :
    AreLines (before ++ new) := by
  induction before with
  | nil => exact newAreLines
  | cons line rest ih =>
      obtain ⟨plain, ends, lineApart, areRest⟩ :=
        (areLines_cons (List.append_ne_nil_of_right_ne_nil rest some)).mp areLines
      refine (areLines_cons (List.append_ne_nil_of_right_ne_nil rest newAreLines.ne_nil)).mpr
        ⟨plain, ends, ?_, ih areRest ?_⟩
      · cases rest with
        | nil =>
            rw [ends.meets_iff] at apart
            exact apart
        | cons next rest =>
            -- The break of the line stands before the next one, which stays.
            have nonempty := areRest.joinLines_ne_nil some
            rw [joinLines_append, meets_append_right nonempty] at lineApart ⊢
            exact lineApart
      · cases rest with
        | nil => exact not_meets_nil_left
        | cons next rest =>
            rw [joinLines, List.flatMap_cons, ← joinLines,
              meets_append_left (areRest.joinLines_ne_nil some)] at apart
            exact apart

/-! ### Lines of texts that are put together -/

/-- Where no break forms, the last line of one text and the first one of the other become one. -/
theorem splitLines_append_of_not_meets {one other last first : List Char}
    (oneLines : splitLines one = before ++ [⟨last, []⟩])
    (otherLines : splitLines other = ⟨first, lineBreak⟩ :: behind) (apart : ¬Meets one other) :
    splitLines (one ++ other) = before ++ ⟨last ++ first, lineBreak⟩ :: behind := by
  have oneAreLines := areLines_splitLines one
  have otherAreLines := areLines_splitLines other
  have oneText := joinLines_splitLines one
  have otherText := joinLines_splitLines other
  rw [oneLines] at oneAreLines oneText
  rw [otherLines] at otherAreLines otherText
  have lastPlain := (oneAreLines.of_append (List.cons_ne_nil _ _)).plain
  rw [joinLines_last] at oneText
  have joined : AreLines (⟨last ++ first, lineBreak⟩ :: behind) := by
    cases otherAreLines with
    | last _ plain => exact .last _ (lastPlain.append plain)
    | cons _ _ _ plain ends goesOn areBehind =>
        exact .cons _ _ _ (lastPlain.append plain) ends goesOn areBehind
  have text : joinLines (⟨last ++ first, lineBreak⟩ :: behind) = last ++ other := by
    rw [joinLines_cons, List.append_assoc, ← joinLines_cons ⟨first, lineBreak⟩, otherText]
  have whole : joinLines (before ++ ⟨last ++ first, lineBreak⟩ :: behind) = one ++ other := by
    rw [joinLines_append, text, ← List.append_assoc, oneText]
  -- The text is made from these lines, and there is no other division.
  rw [← whole]
  refine (oneAreLines.replace (List.cons_ne_nil _ _) joined ?_).splitLines_joinLines
  rw [text]
  by_cases empty : last = []
  · rw [empty, List.append_nil] at oneText
    rwa [empty, oneText]
  · rw [meets_append_right empty]
    exact lastPlain.not_meets_right

/-- Where a break forms, a line that ended with a carriage return ends with both, and the line
between the two is gone. -/
theorem splitLines_append_of_meets {one other last : List Char}
    (oneLines : splitLines one = before ++ [⟨last, []⟩]) (meets : Meets one ('\n' :: other)) :
    last = [] ∧ ∃ earlier chars, before = earlier ++ [⟨chars, ['\r']⟩] ∧
      splitLines (one ++ '\n' :: other) =
        earlier ++ ⟨chars, ['\r', '\n']⟩ :: splitLines other := by
  have oneAreLines := areLines_splitLines one
  have oneText := joinLines_splitLines one
  rw [oneLines] at oneAreLines oneText
  rw [joinLines_last] at oneText
  have empty : last = [] := by
    refine Decidable.byContradiction fun some => ?_
    have lastPlain := (oneAreLines.of_append (List.cons_ne_nil _ _)).plain
    rw [← oneText, meets_append_left some] at meets
    exact lastPlain.not_meets_left meets
  refine ⟨empty, ?_⟩
  rw [empty, List.append_nil] at oneText
  have meetsLines := meets
  rw [← oneText] at meetsLines
  obtain ⟨earlier, chars, rfl⟩ := oneAreLines.exists_return (List.cons_ne_nil _ _) meetsLines
  refine ⟨earlier, chars, rfl, ?_⟩
  rw [List.append_assoc, List.singleton_append] at oneAreLines
  have plain := (oneAreLines.of_append (List.cons_ne_nil _ _)).plain
  have joined : AreLines (⟨chars, ['\r', '\n']⟩ :: splitLines other) :=
    .cons _ _ _ plain (.inl rfl) (fun both => by cases both.1) (areLines_splitLines other)
  have whole : joinLines (earlier ++ ⟨chars, ['\r', '\n']⟩ :: splitLines other) =
      one ++ '\n' :: other := by
    rw [joinLines_append, joinLines_cons, joinLines_splitLines, ← oneText, joinLines_append,
      joinLines_cons]
    simp [joinLines]
  rw [← whole]
  refine (oneAreLines.replace (List.cons_ne_nil _ _) joined ?_).splitLines_joinLines
  have apart := oneAreLines.not_meets (List.cons_ne_nil _ _)
  rwa [joinLines_cons, Meets, List.head?_append] at apart ⊢

/-! ### Characters on lines -/

theorem length_joinLines_cons (line : TextLine) (rest : List TextLine) :
    (joinLines (line :: rest)).length = line.width + (joinLines rest).length := by
  rw [joinLines_cons, ← List.append_assoc, List.length_append, List.length_append, TextLine.width]

theorem lineStart_append (before behind : List TextLine) (line : Nat) :
    lineStart (before ++ behind) (before.length + line) =
      (joinLines before).length + lineStart behind line := by
  induction before with
  | nil =>
      rw [List.nil_append, List.length_nil, Nat.zero_add]
      exact (Nat.zero_add _).symm
  | cons first rest ih =>
      rw [List.length_cons, Nat.add_right_comm, List.cons_append, lineStart, ih,
        length_joinLines_cons, Nat.add_assoc]

/-- An index within a text lies on one of its lines, in front of the end of its line break unless
that is the last one. -/
theorem locate_parts (some : lines ≠ []) {index : Nat} (inside : index ≤ (joinLines lines).length) :
    ∃ before line behind, lines = before ++ line :: behind ∧
      (locate lines index).1 = before.length ∧
      index = (joinLines before).length + (locate lines index).2 ∧
      (locate lines index).2 ≤ line.width ∧
      (behind ≠ [] → (locate lines index).2 < line.width) := by
  fun_induction locate lines index with
  | case1 index => exact absurd rfl some
  | case2 line index =>
      rw [length_joinLines_cons] at inside
      exact ⟨[], line, [], rfl, rfl, (Nat.zero_add index).symm, inside, fun none => absurd rfl none⟩
  | case3 line next rest index within =>
      exact ⟨[], line, next :: rest, rfl, rfl, (Nat.zero_add index).symm, Nat.le_of_lt within,
        fun _ => within⟩
  | case4 line next rest index beyond number column found ih =>
      rw [length_joinLines_cons] at inside
      obtain ⟨before, other, behind, parts, same, sum, bound, strict⟩ :=
        ih (List.cons_ne_nil next rest) (by omega)
      rw [found] at same sum bound strict
      refine ⟨line :: before, other, behind, by rw [parts]; rfl, ?_, ?_, bound, strict⟩
      · rw [List.length_cons, ← same]
      · rw [length_joinLines_cons]
        dsimp only at sum ⊢
        omega

end Lines

end SyntaxHighlight.Text
