/-
Reading patterns of whole lines from their text. A text that is no such pattern is told by giving
none. How deeply patterns nest and how large they are is not limited.
-/

import SyntaxHighlight.Pattern.LineClass

namespace SyntaxHighlight.LinePattern

open SyntaxHighlight.Text
open SyntaxHighlight.Pattern (CharKind)

private structure Draft where
  rest : List Char
  flags : Flags := {}
  names : List String := []

private abbrev Reader := StateT Draft Option

private def give {α : Type} (value? : Option α) : Reader α := fun draft =>
  value?.map fun value => (value, draft)

private def setRest (rest : List Char) : Reader Unit := modify fun draft => { draft with rest }

private def setFlags (flags : Flags) : Reader Unit := modify fun draft => { draft with flags }

/-- What is left to read. -/
private def rest : Reader (List Char) := do
  let draft ← get
  return draft.flags.skip draft.rest

/-! ### Repetition -/

private def readNumber? (flags : Flags) (text : List Char) : Option (Nat × List Char) := do
  let text := (flags.skip text).dropWhile isWhitespace
  let (digits, rest) := flags.spanWanted isDigit text.length text
  let number ← readDigits? 10 digits
  if number < wordRange 32 then some (number, rest.dropWhile isWhitespace) else none

private def dropLazyMark : List Char → List Char
  | '?' :: rest => rest
  | rest => rest

/-- Reads bounds behind the brace that opens them. -/
private def readBounds? (flags : Flags) (text : List Char) :
    Option ((LinePattern → LinePattern) × List Char) := do
  let (least, text) ← readNumber? flags text
  let behind := fun (rest : List Char) => dropLazyMark (flags.skip rest)
  match text with
  | '\x7d' :: rest => return (.loop least (some least), behind rest)
  | ',' :: text =>
      match flags.skip text with
      | '\x7d' :: rest => return (.loop least none, behind rest)
      | text =>
          let (greatest, text) ← readNumber? flags text
          match text with
          | '\x7d' :: rest =>
              if greatest < least then none
              else return (.loop least (some greatest), behind rest)
          | _ => none
  | _ => none

/-- A repetition, if one stands in front of a text. -/
private def readRepeat? (flags : Flags) (text : List Char) :
    Option (Option ((LinePattern → LinePattern) × List Char)) :=
  match text with
  | '*' :: rest => some (some (.loop 0 none, dropLazyMark rest))
  | '+' :: rest => some (some (.loop 1 none, dropLazyMark rest))
  | '?' :: rest => some (some (.loop 0 (some 1), dropLazyMark rest))
  | '\x7b' :: text => (readBounds? flags text).map some
  | _ => some none

private def readRepeats : Nat → LinePattern → Reader LinePattern
  | 0, pattern => return pattern
  | fuel + 1, pattern => do
      match ← give (readRepeat? (← get).flags (← rest)) with
      | none => return pattern
      | some (repeats, rest) =>
          setRest rest
          readRepeats fuel (repeats pattern)

/-! ### Flags and names of groups -/

private def Flags.set? (flags : Flags) (on : Bool) : Char → Option Flags
  | 'i' => some { flags with ignoreCase := on }
  | 'm' => some { flags with multiLine := on }
  | 's' => some { flags with dotMatchesAll := on }
  | 'x' => some { flags with extended := on }
  | 'R' => some { flags with carriageReturns := on }
  | 'u' => some { flags with inAscii := !on }
  -- which of several matches is preferred does not count for lines as a whole
  | 'U' => some flags
  | _ => none

/-- Reads flags up to the mark that ends them, and tells whether they are for the rest of the
enclosing group. The letters and the hyphen so far are given, the last one first: none of them
may come again. -/
private def readFlags? (on : Bool) (seen : List Char) (flags : Flags) :
    List Char → Option (Bool × Flags × List Char)
  | [] => none
  | ')' :: rest =>
      if seen.isEmpty || seen.head? == some '-' then none else some (true, flags, rest)
  | ':' :: rest => if seen.head? == some '-' then none else some (false, flags, rest)
  | char :: rest =>
      if seen.contains char then none
      else if char == '-' then readFlags? false (char :: seen) flags rest
      else do readFlags? on (char :: seen) (← flags.set? on char) rest

private def isNameStart (char : Char) : Bool := char == '_' || Pattern.isLetter char

private def isNamePart (char : Char) : Bool :=
  isNameStart char || CharKind.alphanumeric.contains false char ||
    letterNumber.contains char.toNat || otherNumber.contains char.toNat ||
    char == '.' || char == '[' || char == ']'

/-- Reads a name that no group has yet. -/
private def readName? (names : List String) (text : List Char) : Option (String × List Char) :=
  match text.span (· != '>') with
  | (first :: others, '>' :: rest) =>
      let name := String.ofList (first :: others)
      if isNameStart first && others.all isNamePart && !names.contains name then some (name, rest)
      else none
  | _ => none

private def readNewName (text : List Char) : Reader (List Char) := do
  let (name, rest) ← give (readName? (← get).names text)
  modify fun draft => { draft with names := name :: draft.names }
  return rest

/-! ### Patterns -/

/-- A single character. Beyond ASCII it can be told from others by its bytes alone. -/
private def oneChar (flags : Flags) (char : Char) : LinePattern :=
  if flags.inAscii && 0x80 ≤ char.toNat then .one (.char char) else .one (flags.fold (.char char))

/-- Any character; in ASCII it would be any byte, which is refused. -/
private def anyChar? (flags : Flags) : Option LinePattern :=
  if flags.inAscii then none
  else if flags.dotMatchesAll then some (.one .everything)
  else if flags.carriageReturns then some (.one (.except (.either (.char '\n') (.char '\r'))))
  else some (.one (.except (.char '\n')))

private def startCondition (flags : Flags) : Assertion :=
  if !flags.multiLine then .textStart
  else if flags.carriageReturns then .brokenLineStart
  else .lineStart

private def endCondition (flags : Flags) : Assertion :=
  if !flags.multiLine then .textEnd
  else if flags.carriageReturns then .brokenLineEnd
  else .lineEnd

private def ofEscape (flags : Flags) : Escape → LinePattern
  | .single char => oneChar flags char
  | .many members => .one members
  | .condition condition => .assertion condition flags.inAscii

/-- Reads what stands for one character or for none, groups apart. -/
private def readAtom? (flags : Flags) : List Char → Option (LinePattern × List Char)
  | [] => none
  | '\\' :: text => (readEscape? flags text).map fun (item, rest) => (ofEscape flags item, rest)
  | '[' :: text =>
      let members? := readClass? flags (2 * (text.length + 1)) text
      members?.map fun (members, rest) => (.one members, rest)
  | '.' :: rest => (anyChar? flags).map (·, rest)
  | '^' :: rest => some (.assertion (startCondition flags) flags.inAscii, rest)
  | '$' :: rest => some (.assertion (endCondition flags) flags.inAscii, rest)
  | char :: rest => some (oneChar flags char, rest)

private def expectClose : Reader Unit := do
  match ← rest with
  | ')' :: rest => setRest rest
  | _ => failure

mutual

private def readAlternatives : Nat → Reader LinePattern
  | 0 => failure
  | fuel + 1 => do
      let first ← readBranch fuel
      match ← rest with
      | '|' :: rest =>
          setRest rest
          return .either first (← readAlternatives fuel)
      | _ => return first

private def readBranch : Nat → Reader LinePattern
  | 0 => failure
  | fuel + 1 => do
      match ← rest with
      | [] | '|' :: _ | ')' :: _ => return .empty
      | text =>
          let first ← readPiece fuel text
          return .sequence first (← readBranch fuel)

private def readPiece : Nat → List Char → Reader LinePattern
  | 0, _ => failure
  | fuel + 1, text => do
      let flags := (← get).flags
      -- a repetition needs something in front of it
      if (← give (readRepeat? flags text)).isSome then failure
      match text with
      | '(' :: text => readGroup fuel (flags.skip text)
      | text =>
          let (pattern, rest) ← give (readAtom? flags text)
          setRest rest
          readRepeats text.length pattern

/-- Reads a group behind its opening parenthesis, or flags for the rest of the enclosing one. -/
private def readGroup : Nat → List Char → Reader LinePattern
  | 0, _ => failure
  | fuel + 1, text => do
      let outer := (← get).flags
      let body (rest : List Char) : Reader LinePattern := do
        setRest rest
        let pattern ← readAlternatives fuel
        expectClose
        setFlags outer
        readRepeats text.length pattern
      match text with
      | '?' :: '=' :: _ | '?' :: '!' :: _ => failure
      | '?' :: '<' :: '=' :: _ | '?' :: '<' :: '!' :: _ => failure
      | '?' :: 'P' :: '<' :: text => body (← readNewName text)
      | '?' :: '<' :: text => body (← readNewName text)
      | '?' :: text =>
          let (isDirective, flags, rest) ← give (readFlags? true [] outer text)
          setFlags flags
          if !isDirective then body rest
          else
            setRest rest
            -- flags are nothing that can be repeated
            match ← give (readRepeat? flags (flags.skip rest)) with
            | some _ => failure
            | none => return .empty
      | text => body text

end

/-- Reads a pattern that must match a line as a whole. It is read together with what ties it to
the ends of the line. -/
def read? (text : String) : Option LinePattern := do
  let whole := "\\A(?:".toList ++ text.toList ++ ")\\z".toList
  let (pattern, draft) ← (readAlternatives (8 * whole.length)).run { rest := whole }
  if draft.rest.isEmpty then some pattern else none

end SyntaxHighlight.LinePattern
