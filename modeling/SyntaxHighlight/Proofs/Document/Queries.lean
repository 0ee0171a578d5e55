/-
Questions to documents of which more or fewer lines are highlighted. Every question sees to it that
the lines are known from which its answer is read, so answers do not depend on what was known
before. Only the next word behind the last line number there is has no answer, whatever is known.
-/

import SyntaxHighlight.Proofs.Document.Run
import SyntaxHighlight.Proofs.Mode.Closure

namespace SyntaxHighlight

open SyntaxHighlight.Text

/-! ### Word motion -/

namespace WordSource

/-- Lines that are the same text, and the same words on one of them. -/
structure AgreesOn (one other : WordSource) (line : Nat) : Prop where
  lineCount : one.lineCount = other.lineCount
  chars : one.chars = other.chars
  words : one.isWordChar line = other.isWordChar line

namespace AgreesOn

variable {one other : WordSource} {line : Nat} {start : Position}

theorem isOther (agree : one.AgreesOn other line) : one.isOther line = other.isOther line := by
  funext column char
  unfold WordSource.isOther
  rw [agree.words]

theorem wordEnd (agree : one.AgreesOn other line) : one.wordEnd line = other.wordEnd line := by
  funext column
  unfold WordSource.wordEnd
  rw [agree.chars, agree.words, agree.isOther]

theorem wordStart (agree : one.AgreesOn other line) :
    one.wordStart line = other.wordStart line := by
  funext column
  unfold WordSource.wordStart charsBefore
  rw [agree.chars, agree.words, agree.isOther]

theorem lastLine (agree : one.AgreesOn other line) : one.lastLine = other.lastLine :=
  congrArg (· - 1) agree.lineCount

theorem wordRight (agree : one.AgreesOn other (min start.line other.lastLine)) :
    one.wordRight start = other.wordRight start := by
  have space : one.skipSpace = other.skipSpace := by
    funext line column
    unfold skipSpace
    rw [agree.chars]
  unfold WordSource.wordRight
  dsimp only
  rw [agree.lastLine, agree.chars, space, agree.wordEnd]

theorem wordLeft (agree : one.AgreesOn other (min start.line other.lastLine)) :
    one.wordLeft start = other.wordLeft start := by
  have space : one.skipSpaceLeft = other.skipSpaceLeft := by
    funext line column
    unfold skipSpaceLeft charsBefore
    rw [agree.chars]
  unfold WordSource.wordLeft
  dsimp only
  rw [agree.lastLine, agree.chars, space, agree.wordStart]

end AgreesOn

end WordSource

namespace Document

variable {one other document : Document} {line column : Nat} {position : Position}

/-! ### Documents of which the same is known -/

/-- Documents with one text in one mode in which the same is known of the lines up to one. -/
structure AgreesUpTo (one other : Document) (line : Nat) : Prop where
  text : one.text = other.text
  mode : one.mode = other.mode
  entries : ∀ before, before ≤ line → cached? one.cache before = cached? other.cache before

namespace AgreesUpTo

theorem lines (agree : one.AgreesUpTo other line) : one.lines = other.lines :=
  congrArg splitLines agree.text

theorem cachedFormatAt {before : Nat} (agree : one.AgreesUpTo other line) (inside : before ≤ line)
    (column : Nat) : one.cachedFormatAt before column = other.cachedFormatAt before column := by
  unfold Document.cachedFormatAt
  rw [agree.entries before inside, agree.mode]

theorem contextAt? (agree : one.AgreesUpTo other line) (column : Nat) :
    one.mode.contextAt? one.source line column =
      other.mode.contextAt? other.source line column := by
  have start : one.source.startState line = other.source.startState line := by
    cases line with
    | zero => rfl
    | succ line =>
        change ((cached? one.cache line).map _).getD _ = ((cached? other.cache line).map _).getD _
        rw [agree.entries line (Nat.le_succ line)]
  have texts : one.source.line? = other.source.line? := by
    unfold source
    rw [agree.lines]
  unfold Mode.contextAt?
  rw [agree.mode, start, texts]

theorem wordSource {before : Nat} (agree : one.AgreesUpTo other line) (inside : before ≤ line) :
    one.wordSource.AgreesOn other.wordSource before where
  lineCount := congrArg List.length agree.lines
  chars := by
    unfold Document.wordSource
    rw [agree.lines]
  words := by
    funext column char
    change one.mode.isInWord char _ = other.mode.isInWord char _
    rw [agree.mode, agree.cachedFormatAt inside]

end AgreesUpTo

/-! ### Lines that a question highlights -/

/-- What asks for something and changes neither the text nor the mode. -/
def Operation.IsQuestion : Operation → Prop
  | .insertText _ _ | .removeText _ _ | .setLineText _ _ | .setMode _ | .ensureHighlighted _ => False
  | _ => True

theorem cache_ext {cache other : List (Option LineHighlight)} (length : cache.length = other.length)
    (entries : ∀ line, line < cache.length → cached? cache line = cached? other line) :
    cache = other := by
  apply List.ext_getElem length
  intro line inside otherInside
  have same := entries line inside
  rw [cached?, cached?, List.getElem?_eq_getElem inside, List.getElem?_eq_getElem otherInside]
    at same
  exact same

theorem lineCount_ensureHighlighted (document : Document) (line : Nat) :
    (document.ensureHighlighted line).lineCount = document.lineCount := by
  rw [lineCount_eq, lineCount_eq, ensureHighlighted_text]

theorem allHighlights_congr (text : one.text = other.text) (mode : one.mode = other.mode) :
    one.allHighlights = other.allHighlights := by
  unfold allHighlights
  rw [text, mode]

theorem cached?_ensureHighlighted (orderly : document.IsOrderly) (agrees : document.Agrees)
    {line before : Nat} (inside : before ≤ line) :
    cached? (document.ensureHighlighted line).cache before = document.allHighlights[before]? := by
  have after := ensureHighlighted_isOrderly orderly line
  -- Behind the last line there is nothing to know.
  by_cases beyond : document.lineCount ≤ before
  · have length := after.length
    rw [lineCount_ensureHighlighted] at length
    rw [cached?_of_length_le (by omega), List.getElem?_eq_none]
    rw [length_allHighlights]
    exact beyond
  · have known : before < (document.ensureHighlighted line).highlightedUntil := by
      rcases ensureHighlighted_cases orderly line with ⟨known, same⟩ | ⟨_, reached, _⟩
      · rw [same]
        omega
      · rw [reached]
        omega
    rw [ensureHighlighted_agrees orderly agrees line before known]
    exact congrArg (·[before]?) (allHighlights_congr (ensureHighlighted_text document line)
      (ensureHighlighted_mode document line))

/-- A document that keeps one entry a line, of the first lines only and with their highlights. -/
structure IsSound (document : Document) : Prop where
  orderly : document.IsOrderly
  agrees : document.Agrees

theorem IsSound.ensureHighlighted (sound : document.IsSound) (line : Nat) :
    (document.ensureHighlighted line).IsSound where
  orderly := ensureHighlighted_isOrderly sound.orderly line
  agrees := ensureHighlighted_agrees sound.orderly sound.agrees line

section Same

variable (soundOne : one.IsSound) (soundOther : other.IsSound) (text : one.text = other.text)
  (mode : one.mode = other.mode)

include soundOne soundOther text mode

theorem ensureHighlighted_agreesUpTo (line : Nat) :
    (one.ensureHighlighted line).AgreesUpTo (other.ensureHighlighted line) line where
  text := by
    rw [ensureHighlighted_text, ensureHighlighted_text, text]
  mode := by
    rw [ensureHighlighted_mode, ensureHighlighted_mode, mode]
  entries := by
    intro before inside
    rw [cached?_ensureHighlighted soundOne.orderly soundOne.agrees inside,
      cached?_ensureHighlighted soundOther.orderly soundOther.agrees inside,
      allHighlights_congr text mode]

theorem lineHighlight?_eq (line : Nat) :
    (one.lineHighlight? line).2 = (other.lineHighlight? line).2 := by
  have count : one.lineCount = other.lineCount := by
    rw [lineCount_eq, lineCount_eq, text]
  unfold lineHighlight?
  rw [count]
  split
  · rfl
  · exact (ensureHighlighted_agreesUpTo soundOne soundOther text mode line).entries line
      (Nat.le_refl line)

theorem formatAt_eq (position : Position) :
    (one.formatAt position).2 = (other.formatAt position).2 :=
  (ensureHighlighted_agreesUpTo soundOne soundOther text mode position.line).cachedFormatAt
    (Nat.le_refl _) position.column

theorem contextAt?_eq (position : Position) :
    (one.contextAt? position).2 = (other.contextAt? position).2 := by
  have agree := ensureHighlighted_agreesUpTo soundOne soundOther text mode position.line
  unfold contextAt?
  dsimp only
  rw [agree.contextAt?]

theorem isEmptyLine_eq (line : Nat) : (one.isEmptyLine line).2 = (other.isEmptyLine line).2 := by
  have agree := ensureHighlighted_agreesUpTo soundOne soundOther text mode line
  have chars : one.line? line = other.line? line := by
    rw [line?_eq, line?_eq, text]
  unfold isEmptyLine
  rw [chars]
  split
  · rfl
  · unfold formatAt
    dsimp only
    rw [agree.mode, agree.cachedFormatAt (Nat.le_refl line)]

theorem wordLeft_eq (position : Position) :
    (one.wordLeft position).2 = (other.wordLeft position).2 := by
  have agree := ensureHighlighted_agreesUpTo soundOne soundOther text mode position.line
  exact (agree.wordSource (Nat.min_le_left _ _)).wordLeft

theorem wordRight?_eq (position : Position) :
    (one.wordRight? position).map Prod.snd = (other.wordRight? position).map Prod.snd := by
  have agree := ensureHighlighted_agreesUpTo soundOne soundOther text mode (position.line + 1)
  unfold wordRight?
  split
  · exact congrArg some (agree.wordSource (by omega)).wordRight
  · rfl

theorem foldRegions_eq : one.foldRegions.2 = other.foldRegions.2 := by
  have count : one.lineCount = other.lineCount := by
    rw [lineCount_eq, lineCount_eq, text]
  have agree := ensureHighlighted_agreesUpTo soundOne soundOther text mode other.lineCount
  have lengthOne := (ensureHighlighted_isOrderly soundOne.orderly other.lineCount).length
  have lengthOther := (ensureHighlighted_isOrderly soundOther.orderly other.lineCount).length
  rw [lineCount_ensureHighlighted] at lengthOne lengthOther
  have caches : (one.ensureHighlighted other.lineCount).cache =
      (other.ensureHighlighted other.lineCount).cache := by
    apply cache_ext (by rw [lengthOne, lengthOther, count])
    intro line inside
    exact agree.entries line (by omega)
  unfold foldRegions
  dsimp only
  rw [count, caches]

theorem carryOut?_eq {question : Operation} (asks : question.IsQuestion) :
    (one.carryOut? question).map Prod.snd = (other.carryOut? question).map Prod.snd := by
  cases question with
  | insertText | removeText | setLineText | setMode | ensureHighlighted => exact absurd asks id
  | lineHighlight line =>
      exact congrArg (fun found => some (Answer.highlight found))
        (lineHighlight?_eq soundOne soundOther text mode line)
  | formatAt position =>
      exact congrArg (fun found => some (Answer.format found))
        (formatAt_eq soundOne soundOther text mode position)
  | contextAt position =>
      exact congrArg (fun found => some (Answer.context found))
        (contextAt?_eq soundOne soundOther text mode position)
  | isEmptyLine line =>
      exact congrArg (fun found => some (Answer.isEmpty found))
        (isEmptyLine_eq soundOne soundOther text mode line)
  | foldRegions =>
      exact congrArg (fun found => some (Answer.regions found))
        (foldRegions_eq soundOne soundOther text mode)
  | wordRight position =>
      have parts (document : Document) : (document.carryOut? (.wordRight position)).map Prod.snd =
          ((document.wordRight? position).map Prod.snd).map .position := by
        rw [carryOut?, Option.map_map, Option.map_map]
        rfl
      rw [parts, parts, wordRight?_eq soundOne soundOther text mode position]
  | wordLeft position =>
      exact congrArg (fun found => some (Answer.position found))
        (wordLeft_eq soundOne soundOther text mode position)

end Same

/-! ### Questions without an answer -/

theorem answer?_eq_carryOut? (able : document.mode.canHighlight = true) (operation : Operation) :
    document.answer? operation = document.carryOut? operation := by
  apply if_pos
  rw [Option.all_eq_true]
  intro line _
  rw [canReach, able, Bool.true_or]

/-- All questions have an answer but the one for the next word behind the last line number. -/
theorem carryOut?_eq_none_iff {question : Operation} (asks : question.IsQuestion) :
    document.carryOut? question = none ↔
      ∃ position, question = .wordRight position ∧ wordRange 64 ≤ position.line + 1 := by
  cases question with
  | insertText | removeText | setLineText | setMode | ensureHighlighted => exact absurd asks id
  | lineHighlight | formatAt | contextAt | isEmptyLine | foldRegions | wordLeft =>
      apply iff_of_false (Option.some_ne_none _)
      rintro ⟨_, same, _⟩
      cases same
  | wordRight position =>
      rw [carryOut?, Option.map_eq_none_iff, wordRight?, ite_eq_right_iff]
      constructor
      · intro unanswered
        exact ⟨position, rfl, Nat.le_of_not_lt fun room => Option.some_ne_none _ (unanswered room)⟩
      · rintro ⟨_, same, tooLarge⟩ room
        cases same
        exact absurd room (Nat.not_lt_of_le tooLarge)

theorem perform?_ensureHighlighted (document : Document) (line : Nat) :
    document.perform? (.ensureHighlighted line) =
      if document.canReach line then some (document.ensureHighlighted line) else none := by
  rw [perform?, answer?, Operation.lineNeeded?, Option.all_some]
  split <;> rfl

/-- In whatever way a document was made, if the highlights that it keeps are those of its text then
every question has the answer that it has when all lines are highlighted, and has one unless it is
about the word behind the last line number. Lines cannot be highlighted in a mode that cannot
highlight any. -/
theorem run?_answers (text : List Char) (mode : Mode) (operations : List Operation)
    (document : Document) (ran : (ofText text mode).run? operations = some document)
    (faithful : document.IsFaithful) :
    (document.perform? (.ensureHighlighted (document.lineCount - 1)) = none ↔
        document.mode.canHighlight = false) ∧
      ∀ full, document.perform? (.ensureHighlighted (document.lineCount - 1)) = some full →
        ∀ question : Operation, question.IsQuestion →
          (document.answer? question).map Prod.snd = (full.answer? question).map Prod.snd ∧
            (document.answer? question = none ↔
              ∃ position, question = .wordRight position ∧ wordRange 64 ≤ position.line + 1) := by
  have orderly := isOrderly_of_run? ran
  have sound : document.IsSound := ⟨orderly, (isFaithful_iff orderly).mp faithful⟩
  have unreached : document.canReach (document.lineCount - 1) = false ↔
      document.mode.canHighlight = false := by
    rw [canReach, Bool.or_eq_false_iff, decide_eq_false_iff_not, and_iff_left_iff_imp]
    intro unable
    rw [isIdle_of_run? ran unable]
    exact Nat.not_lt_zero _
  rw [perform?_ensureHighlighted]
  constructor
  · rw [← unreached]
    split
    case isTrue reached =>
      exact iff_of_false (Option.some_ne_none _) (Bool.eq_false_iff.not.mpr (not_not.mpr reached))
    case isFalse beyond => exact iff_of_true rfl (Bool.eq_false_iff.mpr beyond)
  · intro full filled question asks
    split at filled
    case isFalse => cases filled
    case isTrue reached =>
      cases filled
      have able : document.mode.canHighlight = true := by
        rw [← Bool.not_eq_false, ← unreached, reached]
        exact Bool.noConfusion
      have sameMode := ensureHighlighted_mode document (document.lineCount - 1)
      rw [answer?_eq_carryOut? able, answer?_eq_carryOut? (by rw [sameMode, able])]
      exact ⟨carryOut?_eq sound (sound.ensureHighlighted (document.lineCount - 1))
        (ensureHighlighted_text document (document.lineCount - 1)).symm sameMode.symm asks,
        carryOut?_eq_none_iff asks⟩

/-- A language that goes over to another one behind an angle bracket. -/
def hostLanguage : Definition where
  name := "Host"
  contexts :=
    [{ name := "Normal", format := "Text"
       rules := [{ kind := .char '<', switch := some "##Guest" }] }]
  formats := [{ name := "Text" }]

/-- A language in which hyphens belong to words. -/
def guestLanguage : Definition where
  name := "Guest"
  contexts := [{ name := "Normal", format := "Name" }]
  formats := [{ name := "Name" }]
  keywords := { weakDelimiters := "-" }

/-- To find the end of a word of the other language its line has to be highlighted. -/
theorem run?_answers_hostLanguage :
    ∃ mode full, Mode.ofDefinitions hostLanguage [guestLanguage] 8 = .ok mode ∧
      (ofText ['<', '\n', 'a', '-', 'b'] mode).perform? (.ensureHighlighted 1) = some full ∧
      ((ofText ['<', '\n', 'a', '-', 'b'] mode).answer? (.wordRight ⟨1, 0⟩)).map Prod.snd =
        (full.answer? (.wordRight ⟨1, 0⟩)).map Prod.snd ∧
      (full.answer? (.wordRight ⟨1, 0⟩)).map Prod.snd = some (.position ⟨1, 3⟩) ∧
      (ofText ['<', '\n', 'a', '-', 'b'] mode).answer? (.wordRight ⟨18446744073709551615, 0⟩) =
        none := by
  have evaluated : (Mode.ofDefinitions hostLanguage [guestLanguage] 8).toOption.any (fun mode =>
      ((ofText ['<', '\n', 'a', '-', 'b'] mode).perform? (.ensureHighlighted 1)).any fun full =>
        decide ((full.answer? (.wordRight ⟨1, 0⟩)).map Prod.snd = some (.position ⟨1, 3⟩))) =
          true := by
    cbv
  obtain ⟨mode, accepted, facts⟩ := (Option.any_eq_true _ _).mp evaluated
  obtain ⟨full, filled, behind⟩ := (Option.any_eq_true _ _).mp facts
  obtain ⟨_, answers⟩ := run?_answers ['<', '\n', 'a', '-', 'b'] mode [] _ rfl
    (ofText_isFaithful ['<', '\n', 'a', '-', 'b'] mode)
  have same := answers full filled
  exact ⟨mode, full, Mode.ofDefinitions_of_toOption accepted, filled,
    (same (.wordRight ⟨1, 0⟩) trivial).1, of_decide_eq_true behind,
    (same (.wordRight ⟨18446744073709551615, 0⟩) trivial).2.mpr ⟨_, rfl, by decide⟩⟩

end Document

end SyntaxHighlight
