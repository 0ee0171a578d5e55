/-
Reading patterns from their text. Groups are numbered by their opening parentheses; where groups
have names, those without one only hold together what they enclose.
-/

import SyntaxHighlight.Pattern.ClassReading

namespace SyntaxHighlight.Pattern

open SyntaxHighlight.Text

/-- What is left to read, and what is known of the groups so far. -/
structure Source where
  rest : List Char
  /-- The number of groups opened so far. -/
  groups : Nat := 0
  /-- The named groups, the latest first. -/
  names : List (String × Nat) := []
  /-- The greatest number by which a group is referred to. -/
  greatestReference : Nat := 0
  /-- Whether a group is referred to by number. -/
  refersByNumber : Bool := false
  /-- The numbers of the groups that are called, as they are written and as they are meant. -/
  calls : List (String × Nat) := []
deriving Repr

abbrev Reader := StateT Source (Except ReadError)

namespace Reader

private def rest : Reader (List Char) := return (← get).rest

private def setRest (rest : List Char) : Reader Unit := modify fun source => { source with rest }

private def openGroup (name? : Option String) : Reader Nat := do
  let number := (← get).groups + 1
  modify fun source =>
    { source with
      groups := number
      names := (name?.map fun name => (name, number)).toList ++ source.names }
  return number

private def noteCall (written : String) (number : Nat) : Reader Unit :=
  modify fun source =>
    { source with calls := source.calls ++ [(written, number)], refersByNumber := true }

private def noteReference (number : Nat) : Reader Unit :=
  modify fun source =>
    { source with
      greatestReference := max number source.greatestReference
      refersByNumber := true }

end Reader

open Reader

/-! ### What says nothing -/

private def afterComment : List Char → Option (List Char)
  | [] => none
  | '\\' :: _ :: rest => afterComment rest
  | ')' :: rest => some rest
  | _ :: rest => afterComment rest

private def isSkipped (char : Char) : Bool :=
  char == ' ' || char == '\t' || char == '\n' || char == '\r' || char == '\x0c'

/-- Drops comments, and in extended patterns white space. -/
private def dropIgnored (options : Options) : Nat → List Char → Except ReadError (List Char)
  | 0, text => .ok text
  | fuel + 1, '(' :: '?' :: '#' :: text =>
      match afterComment text with
      | some rest => dropIgnored options fuel rest
      | none => .error .endInGroup
  | fuel + 1, char :: text =>
      if options.extended && isSkipped char then dropIgnored options fuel text
      else if options.extended && char == '#' then
        dropIgnored options fuel (text.dropWhile (· != '\n'))
      else .ok (char :: text)
  | _ + 1, [] => .ok []

private def skipIgnored (options : Options) : Reader Unit := do
  let text ← rest
  match dropIgnored options (text.length + 1) text with
  | .ok text => setRest text
  | .error error => throw error

/-! ### Repetition -/

def maxRepeat : Nat := 100000

/-- How often an interval repeats. -/
private structure Interval where
  least : Nat
  greatest : Option Nat
  /-- Only one number is given. -/
  isFixed : Bool := false
  /-- The bounds are given in the wrong order. -/
  isSwapped : Bool := false

private def spanNumber (text : List Char) : Except ReadError (Option Nat × List Char) :=
  let (digits, rest) := text.span isDigit
  match readDigits? 10 digits with
  | none => .ok (none, rest)
  | some number => if maxRepeat < number then .error .repeatTooLarge else .ok (some number, rest)

/-- The interval behind an opening brace; nothing when the brace stands for itself. -/
private def readInterval? (text : List Char) : Except ReadError (Option (Interval × List Char)) := do
  let (least?, text) ← spanNumber text
  match least?, text with
  | some least, '\x7d' :: rest => return some (⟨least, some least, true, false⟩, rest)
  | _, ',' :: text =>
      let (greatest?, text) ← spanNumber text
      match least?, greatest?, text with
      | none, none, _ => return none
      | _, none, '\x7d' :: rest => return some (⟨least?.getD 0, none, false, false⟩, rest)
      | _, some greatest, '\x7d' :: rest =>
          let least := least?.getD 0
          if greatest < least then
            return some (⟨greatest, some least, false, true⟩, rest)
          else return some (⟨least, some greatest, false, false⟩, rest)
      | _, _, _ => return none
  | _, _ => return none

/-- How a repetition goes on when it could also stop. -/
private inductive Manner where
  | greedy
  | reluctant
  | possessive

private def repeated (least : Nat) (greatest : Option Nat) (manner : Manner) (body : Pattern) :
    Pattern :=
  match manner with
  | .greedy => .loop least greatest false body
  | .reluctant => .loop least greatest true body
  | .possessive => .atomic (.loop least greatest false body)

private def spanManner : List Char → Manner × List Char
  | '?' :: rest => (.reluctant, rest)
  | '+' :: rest => (.possessive, rest)
  | rest => (.greedy, rest)

private def intervalManner (interval : Interval) (text : List Char) : Manner × List Char :=
  match interval.isFixed, text with
  | false, '?' :: rest => (.reluctant, rest)
  | _, _ => (if interval.isSwapped then .possessive else .greedy, text)

/-- A repetition mark at the start of a text: what it makes of a pattern, and what follows. -/
private def readRepeat? (text : List Char) :
    Except ReadError (Option ((Pattern → Pattern) × List Char)) :=
  let simple (least : Nat) (greatest : Option Nat) (rest : List Char) :=
    let (manner, rest) := spanManner rest
    .ok (some (repeated least greatest manner, rest))
  match text with
  | '*' :: rest => simple 0 none rest
  | '+' :: rest => simple 1 none rest
  | '?' :: rest => simple 0 (some 1) rest
  | '\x7b' :: rest => do
      match ← readInterval? rest with
      | none => return none
      | some (interval, rest) =>
          let (manner, rest) := intervalManner interval rest
          return some (repeated interval.least interval.greatest manner, rest)
  | _ => .ok none

private def readRepeats (options : Options) : Nat → Pattern → Reader Pattern
  | 0, pattern => return pattern
  | fuel + 1, pattern => do
      skipIgnored options
      match ← readRepeat? (← rest) with
      | none => return pattern
      | some (repeats, rest) =>
          setRest rest
          readRepeats options fuel (repeats pattern)

/-! ### Names of groups -/

/-- The text of a faulty name reaches to the mark that closes it, or to the end of the pattern. -/
private def faultyName (close : Char) (text : List Char) : String :=
  let (name, rest) := text.span fun char => char != close && char != ')'
  String.ofList (if rest.length ≤ 1 then text else name)

/-- The name of a group, and what follows it. -/
private def readGroupName (close : Char) (text : List Char) :
    Except ReadError (String × List Char) :=
  match text with
  | [] => .error .emptyGroupName
  | first :: _ =>
      if first == close then .error .emptyGroupName
      else if isDigit first || first == '-' || first == '+' then
        .error (.invalidGroupName (faultyName close text))
      else
        let (name, rest) := text.span isWord
        match rest with
        | [] => .error (.invalidGroupName (String.ofList name.dropLast))
        | mark :: rest =>
            if mark == close then .ok (String.ofList name, rest)
            else if mark == ')' then .error (.invalidGroupName (String.ofList name))
            else .error (.invalidGroupChar (faultyName close text))

/-- How a reference calls a group. -/
private inductive GroupName where
  | number (number : Nat)
  | behind (distance : Nat)
  | ahead (distance : Nat)
  | named (name : String)

private def readNumberName (close : Char) (make : Nat → GroupName) (whole digits : List Char) :
    Except ReadError (GroupName × List Char) :=
  let (number, rest) := digits.span isDigit
  match readDigits? 10 number, rest with
  | some number, mark :: rest =>
      if mark == close then .ok (make number, rest)
      else .error (.invalidGroupName (faultyName close whole))
  | _, _ => .error (.invalidGroupName (faultyName close whole))

private def readReferenceName (close : Char) (text : List Char) :
    Except ReadError (GroupName × List Char) :=
  match text with
  | '-' :: digits => readNumberName close .behind text digits
  | '+' :: digits => readNumberName close .ahead text digits
  | first :: _ =>
      if isDigit first then readNumberName close .number text text
      else do
        let (name, rest) ← readGroupName close text
        return (.named name, rest)
  | [] => .error .emptyGroupName

/-- The groups that a reference means; a name means all groups of that name so far. -/
private def referredGroups (name : GroupName) : Reader (List Nat) := do
  let source ← get
  let numbered (number : Nat) : Reader (List Nat) := do
    noteReference number
    return [number]
  match name with
  | .number number => numbered number
  | .behind distance =>
      if distance = 0 || source.groups < distance then throw .invalidReference
      else numbered (source.groups + 1 - distance)
  | .ahead distance => numbered (source.groups + distance)
  | .named name =>
      match source.names.filterMap fun (other, number) => if other = name then some number else none with
      | [] => throw (.undefinedName name)
      | numbers => return numbers

/-! ### Escapes -/

private def escapedAssertion? (options : Options) : Char → Option Assertion
  | 'A' => some .textStart
  | 'z' => some .textEnd
  | 'Z' => some .lastLineEnd
  | 'G' => some .matchStart
  | 'b' => some (.wordBoundary options.wordInAscii)
  | 'B' => some (.noWordBoundary options.wordInAscii)
  | 'y' => some .clusterBoundary
  | 'Y' => some .noClusterBoundary
  | _ => none

private def escapedPattern? (options : Options) : Char → Option Pattern
  | 'R' => some .lineBreak
  | 'X' => some .cluster
  | 'N' => some (.one (.except (.char '\n')))
  | 'O' => some (.one .everything)
  | 'K' => some .empty
  | char =>
      match escapedAssertion? options char with
      | some condition => some (.assertion condition)
      | none => (kindOfLetter? options char).map .one

private def charLiteral (options : Options) (char : Char) : Pattern :=
  .literal [char] options.ignoreCase

private def readCharEscape (options : Options) (text : List Char) : Reader Pattern := do
  let (char, rest) ← escapedChar text
  setRest rest
  return charLiteral options char

/-- A number behind a backslash: a reference when there may be such a group, else an octal code. -/
private def readNumberEscape (options : Options) (text : List Char) : Reader Pattern := do
  let (digits, rest) := text.span isDigit
  let number := (readDigits? 10 digits).getD 0
  if number ≤ 9 || number ≤ (← get).groups then
    setRest rest
    noteReference number
    return .backreference [number] options.ignoreCase
  else if text.head?.any isOctalDigit then
    let (char, rest) ← octalEscape 3 text
    setRest rest
    return charLiteral options char
  else readCharEscape options text

private def readCall (close : Char) (text : List Char) : Reader Pattern := do
  let (name, rest) ← readReferenceName close text
  setRest rest
  let groups := (← get).groups
  let written := String.ofList (text.takeWhile (· != close))
  let numbered (number : Nat) : Reader Pattern := do
    if number ≠ 0 then noteCall written number
    return .call number
  match name with
  | .number number => numbered number
  | .behind distance =>
      if distance = 0 || groups < distance then throw .invalidReference
      else numbered (groups + 1 - distance)
  | .ahead distance => numbered (groups + distance)
  | .named name => return .callNamed name

private def closingMark (mark : Char) : Char := if mark = '<' then '>' else mark

/-- Reads what stands behind a backslash. -/
private def readEscape (options : Options) (text : List Char) : Reader Pattern := do
  match text with
  | [] => throw .endAtEscape
  | 'p' :: '\x7b' :: name =>
      let (members, rest) ← bracedProperty options false name
      setRest rest
      return .one members
  | 'P' :: '\x7b' :: name =>
      let (members, rest) ← bracedProperty options true name
      setRest rest
      return .one members
  | 'k' :: '<' :: name | 'k' :: '\'' :: name =>
      let (name, rest) ← readReferenceName (closingMark (text.getD 1 '<')) name
      setRest rest
      return .backreference (← referredGroups name) options.ignoreCase
  | 'g' :: '<' :: name | 'g' :: '\'' :: name => readCall (closingMark (text.getD 1 '<')) name
  | '0' :: rest =>
      let (char, rest) ← octalEscape 2 rest
      setRest rest
      return charLiteral options char
  | char :: rest =>
      if isDigit char then readNumberEscape options text
      else
        match escapedPattern? options char with
        | some pattern =>
            setRest rest
            return pattern
        | none => readCharEscape options text

/-! ### Options -/

/-- What the letters behind the question mark of a group amount to. -/
private inductive OptionGroup where
  /-- Options for the rest of the enclosing group. -/
  | forRest (options : Options)
  | forGroup (options : Options)

private def setOption? (on : Bool) (options : Options) : Char → Option Options
  | 'x' => some { options with extended := on }
  | 'i' => some { options with ignoreCase := on }
  | 'm' => some { options with dotMatchesAll := on }
  | 'W' => some { options with asciiWord := on }
  | 'D' => some { options with asciiDigit := on }
  | 'S' => some { options with asciiSpace := on }
  | 'P' => some { options with asciiKinds := on }
  | _ => none

private def readOptionsFrom :
    (on : Bool) → Options → List Char → Except ReadError (OptionGroup × List Char)
  | _, _, [] => .error .endInGroup
  | _, options, ')' :: rest => .ok (.forRest options, rest)
  | _, options, ':' :: rest => .ok (.forGroup options, rest)
  | _, options, '-' :: rest => readOptionsFrom false options rest
  | true, options, 'y' :: '\x7b' :: 'g' :: '\x7d' :: rest => readOptionsFrom true options rest
  | true, options, 'y' :: '\x7b' :: 'w' :: '\x7d' :: rest => readOptionsFrom true options rest
  | on, options, char :: rest =>
      match setOption? on options char with
      | some options => readOptionsFrom on options rest
      | none => .error .undefinedOption

/-- Reads option letters, at least one of them. -/
private def readOptions (options : Options) (text : List Char) :
    Except ReadError (OptionGroup × List Char) :=
  if text.head? = some ')' then .error .undefinedOption else readOptionsFrom true options text

/-! ### Groups and alternatives -/

/-- Whether a pattern has groups of its own. -/
def hasCapture : Pattern → Bool
  | .capture _ _ => true
  | .sequence first second | .either first second | .ifMatched _ first second =>
      hasCapture first || hasCapture second
  | .ifMatches condition yes no => hasCapture condition || hasCapture yes || hasCapture no
  | .loop _ _ _ body | .atomic body | .lookAhead _ body | .lookBehind _ body | .absent body =>
      hasCapture body
  | _ => false

private def alternatives : List Pattern → Pattern
  | [] => .empty
  | [only] => only
  | first :: others => .either first (alternatives others)

private def expectClose : Reader Unit := do
  match ← rest with
  | ')' :: rest => setRest rest
  | _ => throw .unmatchedOpen

mutual

/-- Reads alternatives up to the parenthesis that closes them, or the end of the pattern. -/
private def readAlternatives (plainGroups : Bool) :
    Nat → Options → Reader (List Pattern)
  | 0, _ => throw .unmatchedOpen
  | fuel + 1, options => do
      let first ← readBranch plainGroups fuel options
      match ← rest with
      | '|' :: rest =>
          setRest rest
          return first :: (← readAlternatives plainGroups fuel options)
      | _ => return [first]

private def readBranch (plainGroups : Bool) : Nat → Options → Reader Pattern
  | 0, _ => throw .unmatchedOpen
  | fuel + 1, options => do
      skipIgnored options
      match ← rest with
      | [] | '|' :: _ | ')' :: _ => return .empty
      | text =>
          let first ← readPiece plainGroups fuel options text
          let repeated ← readRepeats options text.length first
          let others ← readBranch plainGroups fuel options
          return followedBy repeated others

/-- Reads one piece of a branch, whose text is not empty. -/
private def readPiece (plainGroups : Bool) : Nat → Options → List Char → Reader Pattern
  | 0, _, _ => throw .unmatchedOpen
  | fuel + 1, options, text => do
      if (← readRepeat? text).isSome then throw .nothingToRepeat
      match text with
      | [] => return .empty
      | '\\' :: rest => readEscape options rest
      | '[' :: rest =>
          let (pattern, rest) ← readClass options rest
          setRest rest
          return pattern
      | '.' :: rest =>
          setRest rest
          return .one (if options.dotMatchesAll then .everything else .except (.char '\n'))
      | '^' :: rest =>
          setRest rest
          return .assertion .lineStart
      | '$' :: rest =>
          setRest rest
          return .assertion .lineEnd
      | '(' :: '?' :: rest => readSpecialGroup plainGroups fuel options rest
      | '(' :: '*' :: _ => throw .invalidCallout
      | '(' :: rest =>
          setRest rest
          if plainGroups then
            let number ← openGroup none
            return .capture number (← readBody plainGroups fuel options)
          else readBody plainGroups fuel options
      | char :: rest =>
          setRest rest
          return charLiteral options char

/-- Reads the alternatives of a group and the parenthesis behind them. -/
private def readBody (plainGroups : Bool) : Nat → Options → Reader Pattern
  | 0, _ => throw .unmatchedOpen
  | fuel + 1, options => do
      let branches ← readAlternatives plainGroups fuel options
      expectClose
      return alternatives branches

private def readNamedGroup (plainGroups : Bool) :
    Nat → Options → Char → List Char → Reader Pattern
  | 0, _, _, _ => throw .unmatchedOpen
  | fuel + 1, options, close, text => do
      let (name, rest) ← readGroupName close text
      setRest rest
      let number ← openGroup (some name)
      return .capture number (← readBody plainGroups fuel options)

/-- Reads a group behind its parenthesis and question mark. -/
private def readSpecialGroup (plainGroups : Bool) : Nat → Options → List Char → Reader Pattern
  | 0, _, _ => throw .unmatchedOpen
  | fuel + 1, options, text => do
      let body (rest : List Char) (make : Pattern → Pattern) : Reader Pattern := do
        setRest rest
        return make (← readBody plainGroups fuel options)
      match text with
      | [] => throw .endInGroup
      | ':' :: rest => body rest id
      | '=' :: rest => body rest (.lookAhead false)
      | '!' :: rest => body rest (.lookAhead true)
      | '>' :: rest => body rest .atomic
      | ['~'] => throw .endInGroup
      | '~' :: rest => body rest .absent
      | ['<'] => throw .unmatchedOpen
      | '<' :: '=' :: rest => body rest (.lookBehind false)
      | '<' :: '!' :: rest => do
          let pattern ← body rest (.lookBehind true)
          if hasCapture pattern then throw .invalidLookBehind
          return pattern
      | '<' :: rest => readNamedGroup plainGroups fuel options '>' rest
      | '\'' :: rest => readNamedGroup plainGroups fuel options '\'' rest
      | '(' :: rest => readConditional plainGroups fuel options rest
      | '\x7b' :: _ => throw .invalidCallout
      | rest =>
          match ← readOptions options rest with
          | (.forRest options, rest) =>
              setRest rest
              return alternatives (← readAlternatives plainGroups fuel options)
          | (.forGroup options, rest) =>
              setRest rest
              readBody plainGroups fuel options

/-- Reads a choice behind the parenthesis that opens its condition. A choice by a group that has
nothing to choose from fails unless the group took part. -/
private def readConditional (plainGroups : Bool) : Nat → Options → List Char → Reader Pattern
  | 0, _, _ => throw .unmatchedOpen
  | fuel + 1, options, text => do
      let choose (make : Pattern → Pattern → Pattern) : Reader Pattern := do
        if (← rest).isEmpty then throw .endInGroup
        let branches ← readAlternatives plainGroups fuel options
        expectClose
        return make (branches.headD .empty) (alternatives branches.tail)
      let onGroup (name : GroupName) (text : List Char) : Reader Pattern := do
        let groups ← referredGroups name
        match text with
        | ')' :: ')' :: rest =>
            setRest rest
            return .ifMatched groups .empty never
        | ')' :: rest =>
            setRest rest
            choose (.ifMatched groups)
        | _ => throw .endInGroup
      let onPattern : Reader Pattern := do
        setRest text
        let condition := alternatives (← readAlternatives plainGroups fuel options)
        expectClose
        if (← rest).head? = some ')' then throw .invalidCondition
        choose (.ifMatches condition)
      match text with
      | [] => throw .endInGroup
      | ')' :: _ => throw .invalidCondition
      | '<' :: name | '\'' :: name =>
          let (name, rest) ← readReferenceName (closingMark (text.headD '<')) name
          onGroup name rest
      | first :: _ =>
          if isDigit first || first == '-' || first == '+' then
            match readReferenceName ')' text with
            | .ok (name, rest) => onGroup name (')' :: rest)
            | .error _ => onPattern
          else onPattern

end

/-! ### Whole patterns -/

/-- Replaces calls by name by calls by number. -/
def resolveCalls (names : List (String × Nat)) : Pattern → Except ReadError Pattern
  | .callNamed name =>
      match names.filter fun (other, _) => other = name with
      | [] => .error (.undefinedName name)
      | [(_, number)] => .ok (.call number)
      | _ => .error (.ambiguousCall name)
  | .sequence first second =>
      return .sequence (← resolveCalls names first) (← resolveCalls names second)
  | .either first second =>
      return .either (← resolveCalls names first) (← resolveCalls names second)
  | .loop least greatest isLazy body =>
      return .loop least greatest isLazy (← resolveCalls names body)
  | .capture group body => return .capture group (← resolveCalls names body)
  | .atomic body => return .atomic (← resolveCalls names body)
  | .lookAhead negated body => return .lookAhead negated (← resolveCalls names body)
  | .lookBehind negated body => return .lookBehind negated (← resolveCalls names body)
  | .ifMatched groups yes no =>
      return .ifMatched groups (← resolveCalls names yes) (← resolveCalls names no)
  | .ifMatches condition yes no =>
      return .ifMatches (← resolveCalls names condition) (← resolveCalls names yes)
        (← resolveCalls names no)
  | .absent body => return .absent (← resolveCalls names body)
  | pattern => .ok pattern

private def readWith (plainGroups : Bool) (options : Options) (text : List Char) :
    Except ReadError (Pattern × Source) := do
  let fuel := 8 * text.length + 8
  let (branches, source) ← (readAlternatives plainGroups fuel options).run { rest := text }
  if source.rest.isEmpty then return (alternatives branches, source)
  else throw .unmatchedClose

/-- Reads a pattern. -/
def read (text : String) (ignoreCase : Bool) : Except ReadError Pattern := do
  let options : Options := { ignoreCase }
  let first ← readWith true options text.toList
  let isNamed := !first.2.names.isEmpty
  if isNamed && first.2.refersByNumber then throw .numberedReference
  let (pattern, source) ← if isNamed then readWith false options text.toList else pure first
  match source.calls.find? fun (_, number) => source.groups < number with
  | some (written, _) => throw (.undefinedGroup written)
  | none =>
      let pattern ← resolveCalls source.names pattern
      if source.groups < source.greatestReference then throw .invalidReference
      return pattern

end SyntaxHighlight.Pattern
