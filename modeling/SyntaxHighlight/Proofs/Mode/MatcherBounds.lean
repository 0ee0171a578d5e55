/-
Attempts to match stay in their line. Wherever in a line a rule of a definition is tried, no access
to the line fails, and a match ends behind the place where it was tried and within the line; only
what a pattern matches may be empty. An engine that finds patterns counts in bytes, and all that is
relied on is that its matches end where a character begins or the line ends.
-/

import SyntaxHighlight.Proofs.Grammar.Arguments
import SyntaxHighlight.Proofs.Mode.CheckedMatcher
import SyntaxHighlight.Proofs.Mode.Origins

namespace SyntaxHighlight

open SyntaxHighlight.Text

/-! ### Matches that are not empty -/

/-- Whether the text that a matcher looks for, if there is one, is not empty. -/
def Matcher.HasText : Matcher → Prop
  | .literal text _ | .word text _ => text ≠ []
  | _ => True

/-- The matcher of a rule has a text where the declaration of the rule has its argument. -/
theorem Rule.IsCompiledFrom.hasText {numbering : Numbering} {definition : Definition}
    {context : String} {declaration : RuleDeclaration} {rule : Rule}
    (compiled : rule.IsCompiledFrom numbering definition context declaration)
    (argument : declaration.kind.HasArgument) : rule.matcher.HasText := by
  obtain ⟨entries, accepted, member⟩ := compiled
  have ofMatcher {matcher : Matcher}
      (same : entries = ([.rule (compileRule numbering definition context declaration matcher).1],
        (compileRule numbering definition context declaration matcher).2))
      (text : matcher.HasText) : rule.matcher.HasText := by
    rw [same] at member
    cases List.mem_singleton.mp member
    exact text
  unfold compileEntry at accepted
  cases kind : declaration.kind with
  | literal text | word text =>
      rw [kind] at accepted argument
      refine ofMatcher (Except.ok.inj accepted).symm ?_
      exact fun empty => argument (String.toList_eq_nil_iff.mp empty)
  | regex pattern =>
      rw [kind] at accepted
      obtain ⟨matcher, compiled, same⟩ := map_eq_ok.mp accepted
      refine ofMatcher same.symm ?_
      unfold compileRegex at compiled
      split at compiled
      · cases compiled
        exact trivial
      · cases compiled
  | keyword list =>
      rw [kind] at accepted
      obtain ⟨matcher, compiled, same⟩ := map_eq_ok.mp accepted
      refine ofMatcher same.symm ?_
      unfold compileKeyword at compiled
      split at compiled
      · cases compiled
      · cases compiled
        exact trivial
  | includeRules target =>
      rw [kind] at accepted
      cases accepted
      unfold compileInclude at member
      split at member
      · cases List.mem_singleton.mp member
      · cases member
  | _ =>
      rw [kind] at accepted
      exact ofMatcher (Except.ok.inj accepted).symm trivial

theorem pos_of_nonempty {count length : Nat}
    (matched : (if count = 0 then none else some count) = some length) : 0 < length := by
  split at matched
  · cases matched
  · rename_i nonempty
    cases matched
    exact Nat.pos_of_ne_zero nonempty

theorem floatLength?_pos {text : List Char} {length : Nat}
    (matched : floatLength? text = some length) : 0 < length := by
  obtain ⟨literal, _, _, rfl, formed⟩ := floatLength?_sound matched
  exact List.length_pos_iff.mpr formed.ne_nil

theorem escapeLength?_pos {text : List Char} {length : Nat}
    (matched : escapeLength? text = some length) : 0 < length := by
  obtain ⟨literal, _, _, rfl, formed⟩ := escapeLength?_sound matched
  cases formed <;> exact Nat.succ_pos _

theorem identifierLength?_pos {text : List Char} {length : Nat}
    (matched : identifierLength? text = some length) : 0 < length := by
  cases text with
  | nil => cases matched
  | cons first rest =>
      obtain ⟨_, rfl⟩ := lengthIf_eq_some matched
      omega

theorem rangeLength?_pos {first last : Char} {text : List Char} {length : Nat}
    (matched : rangeLength? first last text = some length) : 0 < length := by
  cases text with
  | nil => cases matched
  | cons char rest =>
      rw [rangeLength?] at matched
      split at matched
      · obtain ⟨inner, _, rfl⟩ := Option.map_eq_some_iff.mp matched
        exact Nat.succ_pos _
      · cases matched

/-- Only a pattern matches no characters. -/
theorem Matcher.matchLength?_pos {matcher : Matcher} {isDelimiter : Char → Bool} {place : Place}
    {length : Nat} (hasText : matcher.HasText) (notRegex : ∀ pattern, matcher ≠ .regex pattern)
    (matched : matcher.matchLength? isDelimiter place = some length) : 0 < length := by
  cases matcher with
  | char wanted | charPair first second | anyChar chars | lineContinue mark =>
      obtain ⟨_, rfl⟩ := lengthIf_eq_some matched
      exact Nat.succ_pos _
  | literal text insensitive | word text insensitive =>
      obtain ⟨_, rfl⟩ := lengthIf_eq_some matched
      exact List.length_pos_iff.mpr hasText
  | regex pattern => exact absurd rfl (notRegex pattern)
  | keyword words insensitive =>
      obtain ⟨found, rfl⟩ := lengthIf_eq_some matched
      rw [Bool.and_eq_true, Bool.and_eq_true, Bool.not_eq_true', List.isEmpty_eq_false_iff] at found
      exact List.length_pos_iff.mpr found.1.2
  | integer =>
      rw [matchLength?] at matched
      split at matched
      · exact pos_of_nonempty matched
      · cases matched
  | real =>
      rw [matchLength?] at matched
      split at matched
      · exact floatLength?_pos matched
      · cases matched
  | escape => exact escapeLength?_pos matched
  | range first last => exact rangeLength?_pos matched
  | spaces => exact pos_of_nonempty matched
  | identifier => exact identifierLength?_pos matched

/-! ### Patterns -/

section Patterns

variable {search : PatternSearch} {pattern : Pattern} {line : List Char} {index start : Nat}

/-- What is relied on of an engine: a match ends where a character begins or where the line ends. -/
def PatternSearch.EndsOnBoundaries (search : PatternSearch) (line : List Char) : Prop :=
  ∀ pattern start length, start ∈ byteOffsets line → search pattern line start = some length →
    start + length ∈ byteOffsets line

/-- The lookup of a byte has an answer, which is the character that begins there. -/
theorem binarySearch?_byteOffsets (line : List Char) (offset : Nat) :
    ∃ found?, binarySearch? (byteOffsets line) offset = some found? ∧
      ∀ index, found? = some index ↔ (byteOffsets line)[index]? = some offset :=
  binarySearch?_spec (byteOffsets_pairwise line) offset

/-- An attempt of a pattern has an answer, which is the index behind the bytes of the match. -/
theorem PatternSearch.matchAt?_spec (search : PatternSearch) (pattern : Pattern)
    (found : (byteOffsets line)[index]? = some start) :
    ∃ stop?, search.matchAt? pattern line index = some stop? ∧
      ∀ stop, stop? = some stop ↔ ∃ length, search pattern line start = some length ∧
        (byteOffsets line)[stop]? = some (start + length) := by
  rw [matchAt?, found, Option.bind_eq_bind, Option.bind_some]
  cases searched : search pattern line start with
  | none => exact ⟨none, rfl, by simp⟩
  | some length =>
      obtain ⟨stop?, looked, finds⟩ := binarySearch?_byteOffsets line (start + length)
      refine ⟨stop?, looked, ?_⟩
      intro stop
      simp [finds]

/-- The engine that goes by places, with its lengths told in bytes. -/
def Pattern.byteLength? : PatternSearch := fun pattern line start => do
  let index ← (binarySearch? (byteOffsets line) start).join
  let length ← pattern.matchLength? ((Place.start line).forward index)
  let stop ← (byteOffsets line)[index + length]?
  some (stop - start)

theorem Pattern.byteLength?_eq_some_iff {length : Nat}
    (found : (byteOffsets line)[index]? = some start) :
    pattern.byteLength? line start = some length ↔
      ∃ count, pattern.matchLength? ((Place.start line).forward index) = some count ∧
        (byteOffsets line)[index + count]? = some (start + length) := by
  obtain ⟨found?, looked, finds⟩ := binarySearch?_byteOffsets line start
  rw [(finds index).mpr found] at looked
  simp only [byteLength?, looked, Option.join_some, Option.bind_eq_bind, Option.bind_some,
    Option.bind_eq_some_iff]
  refine exists_congr fun count => and_congr_right fun _ => ?_
  constructor
  · rintro ⟨stop, stopFound, same⟩
    have behind := (byteOffset_le_iff found stopFound).mpr (Nat.le_add_right index count)
    cases same
    rw [stopFound, Nat.add_sub_cancel' behind]
  · intro stopFound
    exact ⟨start + length, stopFound, congrArg some (Nat.add_sub_cancel_left start length)⟩

theorem Pattern.byteLength?_endsOnBoundaries (line : List Char) :
    PatternSearch.EndsOnBoundaries byteLength? line := by
  intro pattern start length member matched
  obtain ⟨index, found⟩ := List.mem_iff_getElem?.mp member
  obtain ⟨count, _, stop⟩ := (byteLength?_eq_some_iff found).mp matched
  exact List.mem_of_getElem? stop

/-- With that engine an attempt tells what the pattern itself tells of the place. -/
theorem PatternSearch.matchAt?_of_byteLength
    (agrees : search pattern line = pattern.byteLength? line) (inLine : index ≤ line.length) :
    search.matchAt? pattern line index =
      some ((pattern.matchLength? ((Place.start line).forward index)).map (index + ·)) := by
  obtain ⟨start, found⟩ := exists_byteOffset inLine
  obtain ⟨stop?, answered, finds⟩ := search.matchAt?_spec pattern found
  rw [answered, Option.some.injEq]
  ext stop
  rw [finds stop, agrees, Option.map_eq_some_iff]
  constructor
  · rintro ⟨length, searched, stopFound⟩
    obtain ⟨count, matched, other⟩ := (Pattern.byteLength?_eq_some_iff found).mp searched
    exact ⟨count, matched, byteOffset_inj other stopFound⟩
  · rintro ⟨count, matched, rfl⟩
    have within := pattern.matchLength?_le _ count matched
    rw [Place.forward_after, List.length_drop] at within
    have inside : index + count ≤ line.length := Nat.add_le_of_le_sub' inLine within
    obtain ⟨offset, stopFound⟩ := exists_byteOffset inside
    have behind := (byteOffset_le_iff found stopFound).mpr (Nat.le_add_right index count)
    have parts : start + (offset - start) = offset := Nat.add_sub_cancel' behind
    rw [← parts] at stopFound
    exact ⟨offset - start, (Pattern.byteLength?_eq_some_iff found).mpr ⟨count, matched, stopFound⟩,
      stopFound⟩

/-- What highlighting makes of an engine that goes by bytes. -/
def PatternSearch.toEngine (search : PatternSearch) : Pattern.Engine where
  length? pattern place :=
    (search.matchAt? pattern place.line place.index).join.map fun stop => stop - place.index
  length?_le := by
    intro pattern place length matched
    obtain ⟨stop, attempt, rfl⟩ := Option.map_eq_some_iff.mp matched
    obtain ⟨start, found⟩ := exists_byteOffset place.index_le_length_line
    obtain ⟨stop?, answered, ends⟩ := search.matchAt?_spec pattern found
    rw [answered, Option.join_some] at attempt
    obtain ⟨_, _, stopFound⟩ := (ends stop).mp attempt
    have inLine := le_length_of_byteOffset stopFound
    rw [place.length_line] at inLine
    exact Nat.sub_le_of_le_add (Nat.add_comm _ _ ▸ inLine)
  readLine? := Pattern.Engine.backtracking.readLine?

end Patterns

/-! ### Attempts -/

/-- The offsets of a line begin with zero, grow, and end with the number of bytes of the line. -/
structure AreOffsetsOf (line : List Char) (offsets : List Nat) : Prop where
  length_eq : offsets.length = line.length + 1
  first : offsets[0]? = some 0
  last : offsets[line.length]? = some (String.ofList line).utf8ByteSize
  growing : offsets.Pairwise (· < ·)

theorem byteOffsets_areOffsets (line : List Char) : AreOffsetsOf line (byteOffsets line) where
  length_eq := length_byteOffsets line
  first := offsetsFrom_getElem?_zero 0 line
  last := byteOffsets_getElem?_length line
  growing := byteOffsets_pairwise line

/-- An attempt at an index stays in its line. -/
structure Matcher.StaysInLine (search : PatternSearch) (isDelimiter : Char → Bool)
    (line : List Char) (index : Nat) (matcher : Matcher) : Prop where
  /-- No access to the line fails. -/
  answers : ∃ stop?, matcher.matchAt? search isDelimiter line index = some stop?
  bounds : ∀ stop, matcher.matchAt? search isDelimiter line index = some (some stop) →
    index ≤ stop ∧ stop ≤ line.length
  /-- Only a pattern matches no characters. -/
  consumes : matcher.matchAt? search isDelimiter line index = some (some index) →
    ∃ pattern, matcher = .regex pattern
  /-- The match of a pattern ends with the character behind which its bytes end. -/
  inBytes : ∀ pattern start stop, matcher = .regex pattern →
    (byteOffsets line)[index]? = some start →
    matcher.matchAt? search isDelimiter line index = some (some stop) →
      ∃ length, search pattern line start = some length ∧
        (byteOffsets line)[stop]? = some (start + length)
  /-- No match of a pattern is lost on the way from bytes to characters. -/
  finds : ∀ pattern start length, matcher = .regex pattern →
    (byteOffsets line)[index]? = some start → search pattern line start = some length →
      ∃ stop, matcher.matchAt? search isDelimiter line index = some (some stop)
  /-- With the engine that goes by places the attempt tells what highlighting makes of the place. -/
  agrees : (∀ pattern, matcher = .regex pattern → search pattern line = pattern.byteLength? line) →
    matcher.matchAt? search isDelimiter line index =
      some ((matcher.matchLength? isDelimiter ((Place.start line).forward index)).map (index + ·))

  /-- The attempt tells what highlighting with the engine makes of the place. -/
  highlights : matcher.matchAt? search isDelimiter line index =
    some ((matcher.matchLength? isDelimiter ((Place.start line).forward index)
      search.toEngine).map (index + ·))

section Attempts

variable {search : PatternSearch} {isDelimiter : Char → Bool} {line : List Char} {index : Nat}

theorem Matcher.regex_staysInLine (engine : search.EndsOnBoundaries line)
    (inLine : index ≤ line.length) (pattern : Pattern) :
    (Matcher.regex pattern).StaysInLine search isDelimiter line index := by
  obtain ⟨start, found⟩ := exists_byteOffset inLine
  obtain ⟨stop?, answered, ends⟩ := search.matchAt?_spec pattern found
  have attempt : (Matcher.regex pattern).matchAt? search isDelimiter line index = some stop? :=
    answered
  have bounds (stop : Nat) (matched : stop? = some stop) : index ≤ stop ∧ stop ≤ line.length := by
    obtain ⟨length, _, stopFound⟩ := (ends stop).mp matched
    exact ⟨(byteOffset_le_iff found stopFound).mp (Nat.le_add_right start length),
      le_length_of_byteOffset stopFound⟩
  refine ⟨⟨stop?, attempt⟩, ?_, fun _ => ⟨pattern, rfl⟩, ?_, ?_, ?_, ?_⟩
  · intro stop matched
    exact bounds stop (Option.some.inj (attempt.symm.trans matched))
  · intro other first stop same firstFound matched
    cases same
    cases found.symm.trans firstFound
    exact (ends stop).mp (Option.some.inj (attempt.symm.trans matched))
  · intro other first length same firstFound searched
    cases same
    cases found.symm.trans firstFound
    have boundary := engine pattern start length (List.mem_of_getElem? found) searched
    obtain ⟨stop, stopFound⟩ := List.mem_iff_getElem?.mp boundary
    exact ⟨stop, attempt.trans (congrArg some ((ends stop).mpr ⟨length, searched, stopFound⟩))⟩
  · intro agrees
    exact PatternSearch.matchAt?_of_byteLength (agrees pattern rfl) inLine
  · obtain ⟨sameLine, sameIndex⟩ := Place.start_forward inLine
    have length : (Matcher.regex pattern).matchLength? isDelimiter ((Place.start line).forward index)
        search.toEngine = stop?.map fun stop => stop - index := by
      rw [Matcher.matchLength?, PatternSearch.toEngine]
      dsimp only
      rw [sameLine, sameIndex, answered, Option.join_some]
    rw [attempt, length]
    cases stop? with
    | none => rfl
    | some stop =>
        rw [Option.map_some, Option.map_some, Nat.add_sub_cancel' (bounds stop rfl).1]

theorem Matcher.staysInLine (engine : search.EndsOnBoundaries line) (inLine : index ≤ line.length)
    {matcher : Matcher} (hasText : matcher.HasText) :
    matcher.StaysInLine search isDelimiter line index := by
  by_cases isRegex : ∃ pattern, matcher = .regex pattern
  · obtain ⟨pattern, rfl⟩ := isRegex
    exact regex_staysInLine engine inLine pattern
  · have notRegex := not_exists.mp isRegex
    have told (engine : Pattern.Engine) := matchAt?_line ((Place.start line).forward index)
      isDelimiter search engine matcher notRegex
    obtain ⟨sameLine, sameIndex⟩ := Place.start_forward inLine
    rw [sameLine, sameIndex] at told
    have attempt := told .backtracking
    have ends (stop : Nat)
        (matched : matcher.matchAt? search isDelimiter line index = some (some stop)) :
        index < stop ∧ stop ≤ line.length := by
      rw [attempt, Option.some.injEq] at matched
      obtain ⟨length, measured, rfl⟩ := Option.map_eq_some_iff.mp matched
      have positive := matchLength?_pos hasText notRegex measured
      have within := matcher.matchLength?_le isDelimiter _ _ length measured
      rw [Place.forward_after, List.length_drop] at within
      exact ⟨Nat.lt_add_of_pos_right positive, Nat.add_le_of_le_sub' inLine within⟩
    refine ⟨⟨_, attempt⟩, ?_, ?_, ?_, ?_, fun _ => attempt, told search.toEngine⟩
    · intro stop matched
      exact ⟨(ends stop matched).1.le, (ends stop matched).2⟩
    · intro matched
      exact absurd (ends index matched).1 (Nat.lt_irrefl index)
    · intro pattern _ _ same
      exact absurd same (notRegex pattern)
    · intro pattern _ _ same
      exact absurd same (notRegex pattern)

end Attempts

/-- Whatever rule of a definition is tried, with the delimiters of whatever context and wherever in
a line, the attempt stays in the line. -/
theorem Rule.attempts_stayInLine {text : String} {definition : Definition} {numbering : Numbering}
    {declared : ContextDeclaration} {declaration : RuleDeclaration} {rule : Rule}
    {search : PatternSearch} {line : List Char} {index : Nat}
    (accepted : Definition.read text = .ok definition) (isContext : declared ∈ definition.contexts)
    (isDeclaration : declaration ∈ declared.rules)
    (compiled : rule.IsCompiledFrom numbering definition declared.name declaration)
    (engine : search.EndsOnBoundaries line) (inLine : index < line.length) (context : Context) :
    AreOffsetsOf line (byteOffsets line) ∧
      rule.matcher.StaysInLine search context.isDelimiter line index := by
  have argument := decodeDefinition_gives.document accepted declared isContext declaration
    isDeclaration
  exact ⟨byteOffsets_areOffsets line,
    Matcher.staysInLine engine inLine.le (compiled.hasText argument)⟩

/-! ### Accented letters -/

/-- A language with one rule, whose pattern may match nothing. -/
def accentText : String :=
  "name: X\ncontexts:\n- name: N\n  attribute: T\n  rules:\n  - 'regex': 'é*'\n"

def accentDeclaration : RuleDeclaration where
  kind := .regex "é*"

def accentContext : ContextDeclaration where
  name := "N"
  format := "T"
  rules := [accentDeclaration]

def accentLanguage : Definition where
  name := "X"
  contexts := [accentContext]

theorem read_accentText : Definition.read accentText = .ok accentLanguage := by
  have evaluated :
      decide ((Definition.read accentText).toOption = some accentLanguage) = true := by
    cbv
  exact eq_ok_of_toOption (of_decide_eq_true evaluated)

def accentMatcher : Matcher := .regex (.loop 0 none false (.literal ['é'] false))

theorem exists_accentRule (numbering : Numbering) : ∃ rule : Rule, rule.matcher = accentMatcher ∧
    rule.IsCompiledFrom numbering accentLanguage accentContext.name accentDeclaration :=
  ⟨(compileRule numbering accentLanguage accentContext.name accentDeclaration accentMatcher).1, rfl,
    _, rfl, List.mem_singleton_self _⟩

theorem Rule.attempts_stayInLine_accents :
    ∃ rule : Rule, Definition.read accentText = .ok accentLanguage ∧
      rule.matcher = accentMatcher ∧
      AreOffsetsOf "aéé b".toList (byteOffsets "aéé b".toList) ∧
      rule.matcher.StaysInLine Pattern.byteLength?
        (Context.fallback "X" [' '] true).isDelimiter "aéé b".toList 1 := by
  obtain ⟨rule, isMatcher, compiled⟩ := exists_accentRule ⟨[], [], [], []⟩
  exact ⟨rule, read_accentText, isMatcher,
    Rule.attempts_stayInLine read_accentText (List.mem_singleton_self accentContext)
      (List.mem_singleton_self accentDeclaration) compiled
      (Pattern.byteLength?_endsOnBoundaries _) (by decide) _⟩

/-- Two letters are four bytes, and where there is none the pattern matches nothing. -/
example : [1, 0].map (accentMatcher.matchAt? Pattern.byteLength? (· == ' ') "aéé b".toList) =
    [some (some 3), some (some 0)] := by
  cbv

end SyntaxHighlight
