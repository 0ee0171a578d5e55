/-
Lists of words and single words. The matcher of a list takes the characters up to the next
delimiter and looks them up; the matcher of a word compares it with what stands there and then
looks for a delimiter. They agree on every match that has no delimiter in it. If case matters all
matches are of this kind; otherwise a word may match letters of which the other case is a
delimiter.
-/

import Mathlib.Data.List.Basic
import Mathlib.Data.List.TakeWhile
import SyntaxHighlight.Mode.Compile
import SyntaxHighlight.Proofs.Mode.MatchLength

namespace SyntaxHighlight

open SyntaxHighlight.Text

/-! ### Case -/

/-- Only characters of ASCII. -/
def IsAscii (text : List Char) : Prop := ∀ char ∈ text, char.toNat < 0x80

instance (text : List Char) : Decidable (IsAscii text) :=
  List.decidableBAll (fun char : Char => char.toNat < 0x80) text

/-- What of a character counts for a comparison. -/
def caseForm (insensitive : Bool) (char : Char) : List Char :=
  if insensitive then lowercaseChar char else [char]

/-- What of a text counts when it is looked up in a list. -/
def caseKey (insensitive : Bool) (text : List Char) : List Char :=
  if insensitive then lowercaseText text else text

theorem caseForm_true : caseForm true = lowercaseChar := by
  funext char
  rw [caseForm, if_pos rfl]

theorem caseKey_true : caseKey true = lowercaseText := by
  funext text
  rw [caseKey, if_pos rfl]

theorem lowercaseChar_ascii {char : Char} (ascii : char.toNat < 0x80) :
    lowercaseChar char = [char.toLower] := by
  rw [lowercaseChar, if_pos ascii]

theorem lowercaseAfter_ascii (before : List Char) {text : List Char} (ascii : IsAscii text) :
    lowercaseAfter before text = text.map Char.toLower := by
  induction text generalizing before with
  | nil => rfl
  | cons char rest ih =>
      have small := ascii char List.mem_cons_self
      have noSigma : char ≠ 'Σ' := by
        rintro rfl
        exact absurd small (by decide)
      rw [lowercaseAfter, if_neg noSigma, lowercaseChar_ascii small,
        ih _ fun other member => ascii other (List.mem_cons_of_mem char member)]
      rfl

theorem sameChar_eq_true_iff {insensitive : Bool} {one other : Char} :
    sameChar insensitive one other = true ↔
      caseForm insensitive one = caseForm insensitive other := by
  unfold sameChar caseForm
  cases insensitive with
  | false => simp
  | true =>
      simp only [Bool.true_and, Bool.or_eq_true, beq_iff_eq, if_true, or_iff_right_iff_imp]
      exact congrArg lowercaseChar

/-- A text begins with another one if it is as long at least and the same up to case so far. -/
theorem beginsWith_eq_true_iff {insensitive : Bool} {start text : List Char} :
    beginsWith insensitive start text = true ↔ start.length ≤ text.length ∧
      (text.take start.length).map (caseForm insensitive) =
        start.map (caseForm insensitive) := by
  induction start generalizing text with
  | nil => simp [beginsWith]
  | cons one start ih =>
      cases text with
      | nil => simp [beginsWith]
      | cons other text =>
          rw [beginsWith, Bool.and_eq_true, sameChar_eq_true_iff, ih]
          simp only [List.length_cons, List.take_succ_cons, List.map_cons, List.cons.injEq,
            Nat.succ_le_succ_iff, eq_comm (a := caseForm insensitive one)]
          exact and_left_comm

/-- In texts of ASCII every character counts for itself, as what is looked up does as a whole. -/
theorem map_caseForm {insensitive : Bool} {text : List Char}
    (ascii : insensitive = true → IsAscii text) :
    text.map (caseForm insensitive) = (caseKey insensitive text).map fun char => [char] := by
  cases insensitive with
  | false => rfl
  | true =>
      have lowered : text.map (caseForm true) = text.map fun char => [char.toLower] := by
        apply List.map_congr_left
        intro char member
        rw [caseForm_true, lowercaseChar_ascii (ascii rfl char member)]
      rw [lowered, caseKey_true, lowercaseText, lowercaseAfter_ascii [] (ascii rfl), List.map_map]
      rfl

theorem caseKey_eq_iff {insensitive : Bool} {one other : List Char}
    (ascii : insensitive = true → IsAscii one) (otherAscii : insensitive = true → IsAscii other) :
    caseKey insensitive one = caseKey insensitive other ↔
      one.map (caseForm insensitive) = other.map (caseForm insensitive) := by
  have single : Function.Injective fun char : Char => [char] := fun _ _ => List.head_eq_of_cons_eq
  rw [map_caseForm ascii, map_caseForm otherAscii]
  exact ⟨congrArg _, fun same => List.map_injective_iff.mpr single same⟩

/-! ### Runs without delimiters -/

/-- A word that a list can hold: some characters and no delimiter among them. -/
structure IsKeyword (isDelimiter : Char → Bool) (word : String) : Prop where
  nonempty : word.toList ≠ []
  plain : ∀ char ∈ word.toList, isDelimiter char = false

instance (isDelimiter : Char → Bool) (word : String) : Decidable (IsKeyword isDelimiter word) :=
  letI := List.decidableBAll (fun char => isDelimiter char = false) word.toList
  decidable_of_iff (word.toList ≠ [] ∧ ∀ char ∈ word.toList, isDelimiter char = false)
    ⟨fun both => ⟨both.1, both.2⟩, fun keyword => ⟨keyword.nonempty, keyword.plain⟩⟩

section Matching

variable {isDelimiter : Char → Bool} {insensitive : Bool} {place : Place} {length : Nat}

/-- The characters up to the next delimiter. -/
def plainRun (isDelimiter : Char → Bool) (text : List Char) : List Char :=
  text.takeWhile fun char => !isDelimiter char

theorem plainRun_plain {text : List Char} :
    ∀ char ∈ plainRun isDelimiter text, isDelimiter char = false := by
  intro char member
  have plain := List.mem_takeWhile_imp member
  rwa [Bool.not_eq_true'] at plain

theorem take_length_plainRun (isDelimiter : Char → Bool) (text : List Char) :
    text.take (plainRun isDelimiter text).length = plainRun isDelimiter text :=
  (List.prefix_iff_eq_take.mp (List.takeWhile_prefix _)).symm

theorem atWordEnd_drop_plainRun (text : List Char) :
    atWordEnd isDelimiter (text.drop (plainRun isDelimiter text).length) = true := by
  unfold plainRun
  induction text with
  | nil => rfl
  | cons char rest ih =>
      cases delimiter : isDelimiter char with
      | false =>
          rw [List.takeWhile_cons_of_pos (by rw [delimiter]; rfl)]
          exact ih
      | true =>
          rw [List.takeWhile_cons_of_neg (by rw [delimiter]; decide)]
          exact delimiter

/-- Characters without a delimiter, behind which a word may end, are all up to the next one. -/
theorem take_eq_plainRun {text : List Char}
    (plain : ∀ char ∈ text.take length, isDelimiter char = false)
    (ends : atWordEnd isDelimiter (text.drop length) = true) :
    text.take length = plainRun isDelimiter text := by
  have parts := List.take_append_drop length text
  have stops : (text.drop length).takeWhile (fun char => !isDelimiter char) = [] := by
    cases behind : text.drop length with
    | nil => rfl
    | cons char rest =>
        rw [behind] at ends
        have delimiter : isDelimiter char = true := ends
        exact List.takeWhile_cons_of_neg (by rw [delimiter]; decide)
  have all : ∀ char ∈ text.take length, (!isDelimiter char) = true := by
    intro char member
    rw [plain char member]
    rfl
  calc
    text.take length
      = text.take length ++ (text.drop length).takeWhile (fun char => !isDelimiter char) := by
        rw [stops, List.append_nil]
    _ = plainRun isDelimiter text := by
        rw [← List.takeWhile_append_of_pos all, parts, plainRun]

/-! ### Matchers of lists and of words -/

theorem lengthIf_eq_some_iff {condition : Bool} {length found : Nat} :
    lengthIf condition length = some found ↔ condition = true ∧ length = found := by
  cases condition <;> simp [lengthIf]

/-- The matcher of a list of words, which is in lower case where case does not matter. -/
def Matcher.ofList (words : List String) (insensitive : Bool) : Matcher :=
  .keyword (keywordWords insensitive words) insensitive

def Matcher.ofWord (word : String) (insensitive : Bool) : Matcher :=
  .word word.toList insensitive

/-- A rule may name the lists of its language. They ignore case if the rule or the language
does. -/
theorem compileKeyword_eq_ok_iff {definition : Definition} {list : String} {matcher : Matcher} :
    compileKeyword definition list insensitive = .ok matcher ↔
      ∃ words, definition.lists.lookup list = some words ∧
        Matcher.ofList words (insensitive || !definition.keywords.caseSensitive) = matcher := by
  unfold compileKeyword
  cases definition.lists.lookup list with
  | none => exact ⟨fun failed => (nomatch failed), fun ⟨_, missing, _⟩ => (nomatch missing)⟩
  | some words =>
      constructor
      · intro compiled
        exact ⟨words, rfl, Except.ok.inj compiled⟩
      · rintro ⟨_, ⟨⟩, rfl⟩
        rfl

/-- A declaration of a rule, wherever it stands in a language, is compiled to a rule with this
matcher. -/
def RuleDeclaration.HasMatcher (declaration : RuleDeclaration) (definition : Definition)
    (matcher : Matcher) : Prop :=
  ∀ numbering context, ∃ rule diagnostics,
    compileEntry numbering definition context declaration = .ok ([.rule rule], diagnostics) ∧
      rule.matcher = matcher

theorem RuleDeclaration.hasMatcher_of_compileEntry {declaration : RuleDeclaration}
    {definition : Definition} {matcher : Matcher}
    (compiled : ∀ numbering context, compileEntry numbering definition context declaration =
      .ok ([.rule (compileRule numbering definition context declaration matcher).1],
        (compileRule numbering definition context declaration matcher).2)) :
    declaration.HasMatcher definition matcher :=
  fun numbering context => ⟨_, _, compiled numbering context, rfl⟩

theorem RuleDeclaration.hasMatcher_ofList {declaration : RuleDeclaration} {definition : Definition}
    {words : List String} {list : String} (kind : declaration.kind = .keyword list)
    (listed : definition.lists.lookup list = some words) :
    declaration.HasMatcher definition
      (.ofList words (declaration.insensitive || !definition.keywords.caseSensitive)) := by
  have compiled : compileKeyword definition list declaration.insensitive = .ok _ :=
    compileKeyword_eq_ok_iff.mpr ⟨words, listed, rfl⟩
  apply hasMatcher_of_compileEntry
  intro numbering context
  unfold compileEntry
  simp only [kind, compiled]
  rfl

theorem RuleDeclaration.hasMatcher_ofWord {declaration : RuleDeclaration} {definition : Definition}
    {word : String} (kind : declaration.kind = .word word) :
    declaration.HasMatcher definition (.ofWord word declaration.insensitive) := by
  apply hasMatcher_of_compileEntry
  intro numbering context
  unfold compileEntry
  simp only [kind]
  rfl

theorem mem_keywordWords {words : List String} {key : List Char} :
    key ∈ keywordWords insensitive words ↔
      ∃ word ∈ words, caseKey insensitive word.toList = key := by
  rw [keywordWords, mem_firstOfEach, List.mem_map]
  rfl

theorem Matcher.ofList_matches_iff {words : List String} :
    (Matcher.ofList words insensitive).matchLength? isDelimiter place = some length ↔
      atWordStart isDelimiter place = true ∧ plainRun isDelimiter place.after ≠ [] ∧
        (∃ word ∈ words, caseKey insensitive word.toList =
          caseKey insensitive (plainRun isDelimiter place.after)) ∧
        (plainRun isDelimiter place.after).length = length := by
  change keywordLength? isDelimiter insensitive (keywordWords insensitive words) place = _ ↔ _
  unfold keywordLength?
  rw [lengthIf_eq_some_iff, Bool.and_eq_true, Bool.and_eq_true, List.contains_iff_mem,
    Bool.not_eq_true', List.isEmpty_eq_false_iff]
  change (_ ∧ caseKey insensitive (plainRun isDelimiter place.after) ∈ _) ∧ _ ↔ _
  rw [mem_keywordWords]
  simp only [and_assoc]
  rfl

theorem Matcher.ofWord_matches_iff {word : String} :
    (Matcher.ofWord word insensitive).matchLength? isDelimiter place = some length ↔
      atWordStart isDelimiter place = true ∧ beginsWith insensitive word.toList place.after = true ∧
        atWordEnd isDelimiter (place.after.drop length) = true ∧ word.toList.length = length := by
  change wordLength? isDelimiter insensitive word.toList place = _ ↔ _
  unfold wordLength?
  rw [lengthIf_eq_some_iff, Bool.and_eq_true, Bool.and_eq_true, and_assoc, and_assoc]
  constructor
  · rintro ⟨starts, begins, ends, rfl⟩
    exact ⟨starts, begins, ends, rfl⟩
  · rintro ⟨starts, begins, ends, rfl⟩
    exact ⟨starts, begins, ends, rfl⟩

/-- A list matches what one of its words matches without a delimiter in it. -/
theorem Matcher.ofList_matches_iff_ofWord {words : List String}
    (keywords : ∀ word ∈ words, IsKeyword isDelimiter word)
    (ascii : insensitive = true → IsAscii place.after)
    (asciiWords : insensitive = true → ∀ word ∈ words, IsAscii word.toList) :
    (Matcher.ofList words insensitive).matchLength? isDelimiter place = some length ↔
      (∃ word ∈ words,
        (Matcher.ofWord word insensitive).matchLength? isDelimiter place = some length) ∧
      ∀ char ∈ place.after.take length, isDelimiter char = false := by
  have asciiTake (count : Nat) : insensitive = true → IsAscii (place.after.take count) :=
    fun ignored char member => ascii ignored char (List.mem_of_mem_take member)
  have run := take_length_plainRun isDelimiter place.after
  constructor
  · intro matched
    obtain ⟨starts, _, ⟨word, member, same⟩, rfl⟩ := ofList_matches_iff.mp matched
    have asciiRun := asciiTake (plainRun isDelimiter place.after).length
    rw [run] at asciiRun
    rw [caseKey_eq_iff (fun ignored => asciiWords ignored word member) asciiRun] at same
    have count : word.toList.length = (plainRun isDelimiter place.after).length := by
      simpa using congrArg List.length same
    refine ⟨⟨word, member, ofWord_matches_iff.mpr
      ⟨starts, beginsWith_eq_true_iff.mpr ⟨?_, ?_⟩, atWordEnd_drop_plainRun _, count⟩⟩, ?_⟩
    · rw [count]
      exact (List.takeWhile_prefix _).length_le
    · rw [count, run, same]
    · rw [run]
      exact plainRun_plain
  · rintro ⟨⟨word, member, matched⟩, plain⟩
    obtain ⟨starts, begins, ends, rfl⟩ := ofWord_matches_iff.mp matched
    obtain ⟨bound, same⟩ := beginsWith_eq_true_iff.mp begins
    have taken := take_eq_plainRun plain ends
    have count : (plainRun isDelimiter place.after).length = word.toList.length := by
      rw [← taken, List.length_take, Nat.min_eq_left bound]
    refine ofList_matches_iff.mpr ⟨starts, ?_, ⟨word, member, ?_⟩, count⟩
    · intro empty
      rw [empty] at count
      exact (keywords word member).nonempty (List.length_eq_zero_iff.mp count.symm)
    · rw [← taken]
      exact (caseKey_eq_iff (fun ignored => asciiWords ignored word member) (asciiTake _)).mpr
        same.symm

/-- Where case matters, what a word matches is that word. -/
theorem Matcher.take_of_ofWord {word : String}
    (matched : (Matcher.ofWord word false).matchLength? isDelimiter place = some length) :
    place.after.take length = word.toList := by
  obtain ⟨_, begins, _, rfl⟩ := ofWord_matches_iff.mp matched
  obtain ⟨_, same⟩ := beginsWith_eq_true_iff.mp begins
  have sensitive {statement : Prop} : false = true → statement := fun ignored => nomatch ignored
  exact (caseKey_eq_iff sensitive sensitive).mpr same

end Matching

/-! ### Agreement -/

/-- Delimiters of which the case does not matter within ASCII. -/
def IgnoresCase (isDelimiter : Char → Bool) : Prop :=
  ∀ char other, char.toNat < 0x80 → other.toNat < 0x80 →
    lowercaseChar char = lowercaseChar other → isDelimiter char = isDelimiter other

/-- What the matchers of a list and of its words have in common at a place. -/
structure AgreesAt (isDelimiter : Char → Bool) (words : List String) (place : Place) : Prop where
  /-- Where case matters, the list matches what one of the words matches. -/
  exact : ∀ length, (Matcher.ofList words false).matchLength? isDelimiter place = some length ↔
    ∃ word ∈ words, (Matcher.ofWord word false).matchLength? isDelimiter place = some length
  unique : ∀ length, (Matcher.ofList words false).matchLength? isDelimiter place = some length →
    ∃! word, word ∈ words ∧
      ((Matcher.ofWord word false).matchLength? isDelimiter place).isSome = true
  /-- Where it does not, the list matches what one of the words matches without a delimiter. -/
  folded : IsAscii place.after → (∀ word ∈ words, IsAscii word.toList) →
    ∀ length, (Matcher.ofList words true).matchLength? isDelimiter place = some length ↔
      (∃ word ∈ words, (Matcher.ofWord word true).matchLength? isDelimiter place = some length) ∧
      ∀ char ∈ place.after.take length, isDelimiter char = false
  /-- The words that match are those that are the matched text up to case. -/
  sameUpToCase : IsAscii place.after → (∀ word ∈ words, IsAscii word.toList) →
    ∀ length, (Matcher.ofList words true).matchLength? isDelimiter place = some length →
      ∀ word ∈ words,
        ((Matcher.ofWord word true).matchLength? isDelimiter place = some length ↔
          lowercaseText word.toList = lowercaseText (place.after.take length))
  caseless : IgnoresCase isDelimiter → IsAscii place.after →
    (∀ word ∈ words, IsAscii word.toList) →
    ∀ length, (Matcher.ofList words true).matchLength? isDelimiter place = some length ↔
      ∃ word ∈ words, (Matcher.ofWord word true).matchLength? isDelimiter place = some length

section Agreement

variable {isDelimiter : Char → Bool} {words : List String} {place : Place} {length : Nat}
  {word : String}

theorem Matcher.ofList_matches_iff_of_sensitive
    (keywords : ∀ word ∈ words, IsKeyword isDelimiter word) :
    (Matcher.ofList words false).matchLength? isDelimiter place = some length ↔
      ∃ word ∈ words,
        (Matcher.ofWord word false).matchLength? isDelimiter place = some length := by
  have sensitive {statement : Prop} : false = true → statement := fun ignored => nomatch ignored
  rw [ofList_matches_iff_ofWord keywords sensitive sensitive, and_iff_left_iff_imp]
  rintro ⟨word, member, matched⟩
  rw [take_of_ofWord matched]
  exact (keywords word member).plain

/-- Letters that words match are no delimiters, if they are none in the other case. -/
theorem Matcher.plain_of_ignoresCase (ignores : IgnoresCase isDelimiter)
    (ascii : IsAscii place.after) (asciiWord : IsAscii word.toList)
    (plain : ∀ char ∈ word.toList, isDelimiter char = false)
    (matched : (Matcher.ofWord word true).matchLength? isDelimiter place = some length) :
    ∀ char ∈ place.after.take length, isDelimiter char = false := by
  obtain ⟨_, begins, _, rfl⟩ := ofWord_matches_iff.mp matched
  obtain ⟨_, same⟩ := beginsWith_eq_true_iff.mp begins
  intro char member
  have form : lowercaseChar char ∈ word.toList.map lowercaseChar := by
    rw [caseForm_true] at same
    rw [← same]
    exact List.mem_map_of_mem member
  obtain ⟨letter, letterMember, sameForm⟩ := List.mem_map.mp form
  rw [← plain letter letterMember]
  exact ignores char letter (ascii char (List.mem_of_mem_take member))
    (asciiWord letter letterMember) sameForm.symm

theorem Matcher.ofWord_matches_iff_of_ofList (ascii : IsAscii place.after)
    (asciiWord : IsAscii word.toList)
    (found : (Matcher.ofList words true).matchLength? isDelimiter place = some length) :
    (Matcher.ofWord word true).matchLength? isDelimiter place = some length ↔
      lowercaseText word.toList = lowercaseText (place.after.take length) := by
  obtain ⟨starts, _, _, rfl⟩ := ofList_matches_iff.mp found
  have inside : (plainRun isDelimiter place.after).length ≤ place.after.length :=
    (List.takeWhile_prefix _).length_le
  have asciiTake : IsAscii (place.after.take (plainRun isDelimiter place.after).length) :=
    fun char member => ascii char (List.mem_of_mem_take member)
  have inLowerCase : lowercaseText = caseKey true := caseKey_true.symm
  rw [inLowerCase, caseKey_eq_iff (fun _ => asciiWord) (fun _ => asciiTake), ofWord_matches_iff,
    beginsWith_eq_true_iff]
  constructor
  · rintro ⟨_, ⟨_, same⟩, _, count⟩
    rw [← count]
    exact same.symm
  · intro same
    have count : word.toList.length = (plainRun isDelimiter place.after).length := by
      simpa [inside] using congrArg List.length same
    refine ⟨starts, ⟨?_, ?_⟩, atWordEnd_drop_plainRun _, count⟩
    · rwa [count]
    · rw [count, same]

theorem agreesAt_of_keywords (keywords : ∀ word ∈ words, IsKeyword isDelimiter word) :
    AgreesAt isDelimiter words place where
  exact := fun _ => Matcher.ofList_matches_iff_of_sensitive keywords
  unique := by
    intro length found
    obtain ⟨word, member, matched⟩ := (Matcher.ofList_matches_iff_of_sensitive keywords).mp found
    refine ⟨word, ⟨member, by rw [matched]; rfl⟩, ?_⟩
    rintro other ⟨otherMember, otherMatched⟩
    obtain ⟨otherLength, otherFound⟩ := Option.isSome_iff_exists.mp otherMatched
    have listFound :=
      (Matcher.ofList_matches_iff_of_sensitive keywords).mpr ⟨other, otherMember, otherFound⟩
    cases found.symm.trans listFound
    exact String.toList_inj.mp
      ((Matcher.take_of_ofWord otherFound).symm.trans (Matcher.take_of_ofWord matched))
  folded := fun ascii asciiWords _ =>
    Matcher.ofList_matches_iff_ofWord keywords (fun _ => ascii) (fun _ => asciiWords)
  sameUpToCase := fun ascii asciiWords _ found word member =>
    Matcher.ofWord_matches_iff_of_ofList ascii (asciiWords word member) found
  caseless := by
    intro ignores ascii asciiWords length
    rw [Matcher.ofList_matches_iff_ofWord keywords (fun _ => ascii) (fun _ => asciiWords),
      and_iff_left_iff_imp]
    rintro ⟨word, member, matched⟩
    exact Matcher.plain_of_ignoresCase ignores ascii (asciiWords word member)
      (keywords word member).plain matched

end Agreement

/-- A list of words and the words themselves match the same at every place. Where case does not
matter this holds of the matches without a delimiter, which are all if the delimiters ignore case
as well. A rule for the list has the matcher of these words, whether it or its language ignores
case, and a rule for a word has the matcher of the word. -/
theorem keywords_agreeWithWords (isDelimiter : Char → Bool) (words : List String) (place : Place)
    (keywords : ∀ word ∈ words, IsKeyword isDelimiter word) :
    AgreesAt isDelimiter words place ∧
      ∀ (definition : Definition) (declaration : RuleDeclaration),
        (∀ list, declaration.kind = .keyword list → definition.lists.lookup list = some words →
          declaration.HasMatcher definition
            (.ofList words (declaration.insensitive || !definition.keywords.caseSensitive))) ∧
        ∀ word, declaration.kind = .word word →
          declaration.HasMatcher definition (.ofWord word declaration.insensitive) := by
  refine ⟨agreesAt_of_keywords keywords, fun definition declaration => ⟨?_, ?_⟩⟩
  · exact fun _ kind listed => RuleDeclaration.hasMatcher_ofList kind listed
  · exact fun _ kind => RuleDeclaration.hasMatcher_ofWord kind

/-- Words of which two differ only in case and one begins with another one. -/
def endWords : List String := ["end", "END", "endif"]

/-- A language in which case does not matter. -/
def endLanguage : Definition where
  name := "End"
  lists := [("ends", endWords)]
  keywords := { caseSensitive := false }

theorem keywords_agreeWithWords_endWords :
    (∀ word ∈ endWords, IsKeyword standardDelimiters.contains word) ∧
    (Matcher.ofList endWords false).matchLength? standardDelimiters.contains
      ⟨['.'], "endif".toList⟩ = some 5 ∧
    (Matcher.ofList endWords true).matchLength? standardDelimiters.contains
      ⟨['.'], "End;".toList⟩ = some 3 ∧
    RuleDeclaration.HasMatcher { kind := .keyword "ends" } endLanguage (.ofList endWords true) := by
  have keywords : ∀ word ∈ endWords, IsKeyword standardDelimiters.contains word := by decide
  have asciiWords : ∀ word ∈ endWords, IsAscii word.toList := by decide
  obtain ⟨agree, _⟩ := keywords_agreeWithWords _ endWords ⟨['.'], "endif".toList⟩ keywords
  obtain ⟨agreeFolded, compiled⟩ :=
    keywords_agreeWithWords _ endWords ⟨['.'], "End;".toList⟩ keywords
  have folded := agreeFolded.folded (by decide) asciiWords 3
  have plain : ("End;".toList.take 3).all fun char => !standardDelimiters.contains char := by
    decide
  refine ⟨keywords, (agree.exact 5).mpr ⟨"endif", by decide, by decide⟩,
    folded.mpr ⟨⟨"end", by decide, by decide⟩, ?_⟩, (compiled endLanguage _).1 "ends" rfl rfl⟩
  intro char member
  rw [← Bool.not_eq_true']
  exact List.all_eq_true.mp plain char member

/-- A letter that is a delimiter in upper case only is matched by a word, but not by a list. -/
theorem keywords_disagreeWithWords_upperDelimiter :
    (∀ word ∈ ["a"], IsKeyword (standardDelimiters ++ ['A']).contains word) ∧
    IsAscii ['A'] ∧ (∀ word ∈ ["a"], IsAscii word.toList) ∧
    ¬∀ length, (Matcher.ofList ["a"] true).matchLength? (standardDelimiters ++ ['A']).contains
        (.start ['A']) = some length ↔
      ∃ word ∈ ["a"], (Matcher.ofWord word true).matchLength?
        (standardDelimiters ++ ['A']).contains (.start ['A']) = some length := by
  refine ⟨by decide, by decide, by decide, ?_⟩
  intro agree
  have missed : (Matcher.ofList ["a"] true).matchLength? (standardDelimiters ++ ['A']).contains
      (.start ['A']) = none := by
    decide
  have found := (agree 1).mpr ⟨"a", by decide, by decide⟩
  rw [missed] at found
  cases found

end SyntaxHighlight
