/-
Another text in the place of that of one line. The line breaks stay, and so do the other lines,
unless a line between a carriage return and a line feed is emptied: then these two are one line
break, and the line is gone.
-/

import SyntaxHighlight.Proofs.Document.Editing

namespace SyntaxHighlight.Document

open SyntaxHighlight.Text

variable {document : Document} {position : Position} {before behind : List TextLine}
  {line : TextLine} {number : Nat} {text : List Char}

/-- A line with only a carriage return in front of it and only a line feed behind. -/
def StandsBetween (document : Document) (number : Nat) : Prop :=
  ∃ before, number = before + 1 ∧
    (document.lines[before]?).map (·.lineBreak) = some ['\r'] ∧
    (document.lines[number]?).map (·.lineBreak) = some ['\n']

theorem getElem?_lines (lies : document.Lies position before line behind) :
    document.lines[position.line]? = some line := by
  rw [lies.lines, ← lies.number, List.getElem?_append_right (Nat.le_refl _), Nat.sub_self]
  rfl

theorem standsBetween_iff (lies : document.Lies position before line behind) :
    document.StandsBetween position.line ↔
      line.lineBreak = ['\n'] ∧
        ∃ earlier chars, before = earlier ++ [⟨chars, ['\r']⟩] := by
  constructor
  · rintro ⟨previous, next, carriage, feed⟩
    rw [getElem?_lines lies, Option.map_some, Option.some.injEq] at feed
    refine ⟨feed, ?_⟩
    rcases List.eq_nil_or_concat before with rfl | ⟨earlier, ⟨chars, lineBreak⟩, rfl⟩
    · have none := lies.number
      rw [next] at none
      cases none
    · have length := lies.number
      rw [List.length_concat, next] at length
      obtain rfl := Nat.succ.inj length
      rw [lies.lines, List.concat_eq_append, List.append_assoc,
        List.getElem?_append_right (Nat.le_refl _), Nat.sub_self] at carriage
      cases Option.some.inj carriage
      exact ⟨earlier, chars, List.concat_eq_append⟩
  · rintro ⟨feed, earlier, chars, rfl⟩
    refine ⟨earlier.length, ?_, ?_, ?_⟩
    · rw [← lies.number, List.length_append]
      rfl
    · rw [lies.lines, List.append_assoc, List.getElem?_append_right (Nat.le_refl _), Nat.sub_self]
      rfl
    · rw [getElem?_lines lies, Option.map_some, feed]

/-- The replaced text forms a line break with what stands around it only if there is nothing left
between a carriage return and a line feed. -/
theorem meets_replaced_iff (lies : document.Lies position before line behind)
    (plain : IsPlain text) :
    Meets (joinLines before) (joinLines (⟨text, line.lineBreak⟩ :: behind)) ↔
      text = [] ∧ document.StandsBetween position.line := by
  rw [standsBetween_iff lies]
  constructor
  · intro meets
    -- What is left of the line keeps the carriage return and the line feed apart.
    have empty : text = [] := by
      by_cases some : text = []
      · exact some
      · rw [joinLines_cons, meets_append_right some] at meets
        exact absurd meets plain.not_meets_right
    refine ⟨empty, ?_, lies.areLines.exists_return (List.cons_ne_nil _ _) meets⟩
    rw [empty, joinLines_cons, List.nil_append] at meets
    cases lies.areLines.of_append (List.cons_ne_nil _ _) with
    | last chars _ => exact absurd meets not_meets_nil_right
    | cons chars lineBreak rest _ ends _ _ =>
        rw [meets_append_right ends.ne_nil] at meets
        exact ends.eq_feed meets.2
  · rintro ⟨rfl, feed, earlier, chars, rfl⟩
    have carriage : joinLines (earlier ++ [⟨chars, ['\r']⟩]) =
        joinLines earlier ++ chars ++ ['\r'] := by
      rw [joinLines_append, joinLines_cons, List.append_assoc]
      rfl
    rw [carriage, joinLines_cons, feed]
    exact ⟨List.getLast?_concat, rfl⟩

theorem setLineText?_text (lies : document.Lies ⟨number, 0⟩ before line behind)
    (text : List Char) :
    ∃ after, document.setLineText? number text = some after ∧
      after.text = joinLines (before ++ ⟨text, line.lineBreak⟩ :: behind) := by
  have inside : number < document.lineCount := by
    rw [lineCount_eq]
    exact lies.holds.line_lt
  have length : document.lineLength number = line.chars.length := by
    rw [lineLength, lies.line?_eq]
    rfl
  have atEnd : document.Lies ⟨number, document.lineLength number⟩ before line behind :=
    ⟨lies.lines, lies.number, Nat.le_of_eq length⟩
  have ordered : document.charIndex ⟨number, 0⟩ ≤
      document.charIndex ⟨number, document.lineLength number⟩ := Nat.le_add_right _ _
  obtain ⟨after, made, result⟩ := replace?_text ordered text
  refine ⟨after, ?_, ?_⟩
  · rw [setLineText?, if_neg (Nat.not_le_of_lt inside), made, Option.map_some]
  · rw [result, lies.take, atEnd.drop, length, List.drop_length, List.take_zero, List.append_nil,
      List.nil_append, joinLines_append, joinLines_cons, List.append_assoc]

theorem lines_of_not_meets (lies : document.Lies position before line behind)
    (plain : IsPlain text)
    (apart : ¬Meets (joinLines before) (joinLines (⟨text, line.lineBreak⟩ :: behind))) :
    splitLines (joinLines (before ++ ⟨text, line.lineBreak⟩ :: behind)) =
      before ++ ⟨text, line.lineBreak⟩ :: behind := by
  have areNew : AreLines (⟨text, line.lineBreak⟩ :: behind) := by
    cases lies.areLines.of_append (List.cons_ne_nil _ _) with
    | last chars _ => exact .last text plain
    | cons chars lineBreak rest _ ends apart areRest => exact .cons _ _ _ plain ends apart areRest
  exact (lies.areLines.replace (List.cons_ne_nil _ _) areNew apart).splitLines_joinLines

theorem lineTexts_of_standsBetween (lies : document.Lies ⟨number, 0⟩ before line behind)
    (stands : document.StandsBetween number) :
    lineTexts (joinLines (before ++ ⟨[], line.lineBreak⟩ :: behind)) =
      (lineTexts document.text).eraseIdx number := by
  have plain : IsPlain [] := fun _ none => nomatch none
  have meets := (meets_replaced_iff lies plain).mpr ⟨rfl, stands⟩
  obtain ⟨feed, _⟩ := (standsBetween_iff lies).mp stands
  have front := lies.splitLines_take
  rw [lies.take, List.take_zero, List.append_nil] at front
  have fed : joinLines (⟨[], ['\n']⟩ :: behind) = '\n' :: joinLines behind := joinLines_cons _ _
  rw [feed, fed] at meets
  obtain ⟨_, earlier, chars, rfl, joined⟩ := splitLines_append_of_meets front meets
  have areLines := lies.areLines.of_append (List.cons_ne_nil _ _)
  have some : behind ≠ [] := by
    rintro rfl
    cases areLines with
    | last chars _ => cases feed
    | cons _ _ _ _ _ _ areRest => exact areRest.ne_nil rfl
  obtain ⟨_, _, _, areBehind⟩ := (areLines_cons some).mp areLines
  have same := areBehind.splitLines_joinLines
  have length : number = (earlier.map (·.chars)).length + 1 := by
    have counted := lies.number
    rw [List.length_append] at counted
    rw [List.length_map]
    exact counted.symm
  have old : lineTexts document.text =
      earlier.map (·.chars) ++ chars :: line.chars :: behind.map (·.chars) := by
    rw [lineTexts, ← Document.lines, lies.lines, List.map_append, List.map_append,
      List.append_assoc]
    rfl
  have new : lineTexts (joinLines (earlier ++ [⟨chars, ['\r']⟩] ++
      ⟨[], line.lineBreak⟩ :: behind)) =
        earlier.map (·.chars) ++ chars :: behind.map (·.chars) := by
    rw [joinLines_append, feed, fed, lineTexts, joined, same, List.map_append, List.map_cons]
  rw [new, old, length, List.eraseIdx_append_of_length_le (Nat.le_succ _),
    Nat.succ_sub (Nat.le_refl _), Nat.sub_self]
  rfl

theorem lineTexts_of_not_standsBetween (lies : document.Lies ⟨number, 0⟩ before line behind)
    (plain : IsPlain text) (apart : ¬(text = [] ∧ document.StandsBetween number)) :
    lineTexts (joinLines (before ++ ⟨text, line.lineBreak⟩ :: behind)) =
        (lineTexts document.text).set number text ∧
      (splitLines (joinLines (before ++ ⟨text, line.lineBreak⟩ :: behind))).map (·.lineBreak) =
        document.lines.map (·.lineBreak) := by
  rw [← meets_replaced_iff lies plain] at apart
  have lines := lines_of_not_meets lies plain apart
  have length : number = (before.map (·.chars)).length := by
    rw [List.length_map]
    exact lies.number.symm
  constructor
  · rw [lineTexts, lineTexts, lines, ← Document.lines, lies.lines, List.map_append,
      List.map_append, length, List.set_append_right _ _ (Nat.le_refl _), Nat.sub_self]
    rfl
  · rw [lines, lies.lines, List.map_append, List.map_append]
    rfl

/-- Another text in the place of that of a line changes nothing else, unless the line stands alone
between a carriage return and a line feed and is emptied. -/
theorem setLineText?_replacesLine (document : Document) (number : Nat) (text : List Char)
    (inside : number < document.lineCount) (plain : IsPlain text) :
    ∃ after, document.setLineText? number text = some after ∧
      (¬(text = [] ∧ document.StandsBetween number) →
        lineTexts after.text = (lineTexts document.text).set number text ∧
          after.lines.map (·.lineBreak) = document.lines.map (·.lineBreak)) ∧
      (text = [] ∧ document.StandsBetween number →
        lineTexts after.text = (lineTexts document.text).eraseIdx number) ∧
      ((after.line? number = some text ∧ after.lineCount = document.lineCount ∧
          ∀ other, other ≠ number → after.line? other = document.line? other) ↔
        ¬(text = [] ∧ document.StandsBetween number)) := by
  obtain ⟨before, line, behind, lies⟩ := (lineStart_holds inside).lies
  obtain ⟨after, made, result⟩ := setLineText?_text lies text
  have others : ¬(text = [] ∧ document.StandsBetween number) →
      lineTexts after.text = (lineTexts document.text).set number text ∧
        after.lines.map (·.lineBreak) = document.lines.map (·.lineBreak) := by
    rw [lines, result]
    exact lineTexts_of_not_standsBetween lies plain
  have gone : text = [] ∧ document.StandsBetween number →
      lineTexts after.text = (lineTexts document.text).eraseIdx number := by
    rintro ⟨rfl, stands⟩
    rw [result]
    exact lineTexts_of_standsBetween lies stands
  refine ⟨after, made, others, gone, ?_⟩
  rw [lineCount_eq] at inside
  simp only [line?_eq, lineCount_eq]
  constructor
  · rintro ⟨_, count, _⟩ stands
    rw [gone stands, List.length_eraseIdx_of_lt inside] at count
    omega
  · intro apart
    rw [(others apart).1]
    refine ⟨List.getElem?_set_self inside, List.length_set, ?_⟩
    intro other different
    exact List.getElem?_set_ne (Ne.symm different)

theorem setLineText?_replacesLine_emptied :
    ∃ after, (ofText ['a', '\r', 'b', '\r', '\n', 'c'] .plain).setLineText? 1 [] = some after ∧
      lineTexts after.text = [['a'], [], ['c']] := by
  obtain ⟨after, made, others, _⟩ := setLineText?_replacesLine
    (ofText ['a', '\r', 'b', '\r', '\n', 'c'] .plain) 1 [] (by decide) (by simp [IsPlain])
  refine ⟨after, made, (others ?_).1⟩
  rintro ⟨_, before, next, carriage, feed⟩
  cases next
  exact absurd feed (by decide)

/-- A line between a carriage return and a line feed that is emptied is gone. -/
theorem setLineText?_removesLine_returnFeed :
    ∃ after, (ofText ['a', '\r', 'b', '\n', 'c'] .plain).setLineText? 1 [] = some after ∧
      (ofText ['a', '\r', 'b', '\n', 'c'] .plain).lineCount = 3 ∧ after.lineCount = 2 ∧
      after.line? 1 = some ['c'] := by
  have made : (ofText ['a', '\r', 'b', '\n', 'c'] .plain).setLineText? 1 [] =
      some { ofText ['a', '\r', '\n', 'c'] .plain with lastCascade := { firstLine := 1 } } := by
    cbv
  exact ⟨_, made, by decide, by decide, by decide⟩

end SyntaxHighlight.Document
