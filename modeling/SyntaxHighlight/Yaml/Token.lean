/-
The tokens of a YAML text. Indentation shows as tokens that open and close block collections,
and a key token stands before every mapping key, also where the text marks the key only by the
colon behind it: such a simple key is remembered while it may still turn out to be one, and its
key token is inserted when the colon is met. Anchors are numbered: an anchor gets the number of
different names that were given before it.
-/

import SyntaxHighlight.Yaml.ScalarText

namespace SyntaxHighlight.Yaml

open SyntaxHighlight.Text

inductive Token where
  | streamEnd
  | versionDirective (major minor : Nat)
  | tagDirective (handle replacement : String)
  | documentStart
  | documentEnd
  | blockSequenceStart
  | blockMappingStart
  | blockEnd
  | flowSequenceStart
  | flowSequenceEnd
  | flowMappingStart
  | flowMappingEnd
  | blockEntry
  | flowEntry
  | key
  | value
  | alias (number : Nat)
  | anchor (number : Nat)
  | tag (handle suffix : String)
  | scalar (text : String) (style : ScalarStyle)
deriving Repr, DecidableEq

/-- A place where a simple key may have begun. It has to be one when nothing else can stand at
its column. -/
structure KeyCandidate where
  required : Bool
  position : Nat
  line : Nat
  column : Nat
  index : Nat

/-- What has been read so far. The tokens are kept newest first; there is one possible simple
key for the block context and one for every open flow collection, innermost first. -/
structure Reading where
  cursor : Cursor
  indent : Int
  outerIndents : List Int
  keyAllowed : Bool
  blockCandidate : Option KeyCandidate
  flowCandidates : List (Option KeyCandidate)
  anchors : List (String × Nat)
  tokens : List Token
  count : Nat

namespace Reading

def start (text : List Char) : Reading :=
  { cursor := Cursor.start text
    indent := -1
    outerIndents := []
    keyAllowed := true
    blockCandidate := none
    flowCandidates := []
    anchors := []
    tokens := []
    count := 0 }

def inFlow (reading : Reading) : Bool := !reading.flowCandidates.isEmpty

def emit (reading : Reading) (token : Token) : Reading :=
  { reading with tokens := token :: reading.tokens, count := reading.count + 1 }

/-- Inserts a token so that it becomes the one at the given position. -/
def insertAt (reading : Reading) (position : Nat) (token : Token) : Reading :=
  let (newer, older) := reading.tokens.splitAt (reading.count - position)
  { reading with tokens := newer ++ token :: older, count := reading.count + 1 }

def candidate (reading : Reading) : Option KeyCandidate :=
  match reading.flowCandidates with
  | [] => reading.blockCandidate
  | innermost :: _ => innermost

def setCandidate (reading : Reading) (candidate : Option KeyCandidate) : Reading :=
  match reading.flowCandidates with
  | [] => { reading with blockCandidate := candidate }
  | _ :: outer => { reading with flowCandidates := candidate :: outer }

/-- Gives up the possible simple key. -/
def dropCandidate (reading : Reading) : Except SyntaxError Reading :=
  match reading.candidate with
  | some candidate => if candidate.required then .error .missingColon else .ok (reading.setCandidate none)
  | none => .ok reading

/-- Remembers that a simple key may begin here. -/
def noteCandidate (reading : Reading) : Except SyntaxError Reading :=
  if reading.keyAllowed then do
    let cleared ← reading.dropCandidate
    return cleared.setCandidate (some
      { required := !reading.inFlow && reading.indent == reading.cursor.column
        position := reading.count
        line := reading.cursor.line
        column := reading.cursor.column
        index := reading.cursor.index })
  else .ok reading

/-- The possible simple key, if it is on the same line and not too far behind. -/
def liveCandidate? (reading : Reading) : Except SyntaxError (Option KeyCandidate) :=
  match reading.candidate with
  | some candidate =>
      if candidate.line < reading.cursor.line || candidate.index + 1024 < reading.cursor.index then
        if candidate.required then .error .missingColon else .ok none
      else .ok (some candidate)
  | none => .ok none

/-- Closes the block collections that are indented more than the column. -/
def closeBlocks (reading : Reading) (column : Int) : Reading :=
  if reading.inFlow then reading
  else go reading.outerIndents reading.indent reading
where
  go : List Int → Int → Reading → Reading
    | [], indent, reading => { reading with indent, outerIndents := [] }
    | outer :: more, indent, reading =>
        if column < indent then go more outer (reading.emit .blockEnd)
        else { reading with indent, outerIndents := outer :: more }

/-- Opens a block collection at the column, unless one is open there already; its token takes
the given position. -/
def openBlock (reading : Reading) (column position : Nat) (token : Token) : Reading :=
  if reading.inFlow || (column : Int) ≤ reading.indent then reading
  else
    { reading.insertAt position token with
      indent := column, outerIndents := reading.indent :: reading.outerIndents }

def skip (reading : Reading) (count : Nat) : Reading :=
  { reading with cursor := reading.cursor.skip count }

def allowKey (reading : Reading) (allowed : Bool) : Reading := { reading with keyAllowed := allowed }

/-! ### White space and comments -/

private def skipSpaceUpTo : Nat → Reading → Reading
  | 0, reading => reading
  | fuel + 1, reading =>
      let tabsAllowed := reading.inFlow || !reading.keyAllowed
      let cursor := reading.cursor.skipWhile fun char => char == ' ' || (tabsAllowed && char == '\t')
      let cursor := if cursor.headIs '#' then cursor.skipWhile (fun char => !isBreak char) else cursor
      if cursor.headSatisfies isBreak then
        skipSpaceUpTo fuel
          { reading with
            cursor := cursor.skipBreak
            keyAllowed := reading.keyAllowed || !reading.inFlow }
      else { reading with cursor }

/-- Passes over blanks, comments and line breaks. A simple key may begin on a new line of the
block context, where tabs are then no indentation. -/
def skipSpace (reading : Reading) : Reading :=
  skipSpaceUpTo (reading.cursor.rest.length + 1) reading

/-! ### Directives -/

private def isTagUriChar (verbatim : Bool) (char : Char) : Bool :=
  isWordChar char || ";/?:@&=+$.!~*'()".toList.contains char ||
    (verbatim && (char == ',' || char == '[' || char == ']'))

/-- The bytes of the escapes `%XX` at the front of a text. -/
private def readEscapedBytes : Nat → List Char → Option (List UInt8)
  | 0, _ => some []
  | count + 1, '%' :: high :: low :: rest => do
      let value ← readDigits? 16 [high, low]
      let bytes ← readEscapedBytes count rest
      return value.toUInt8 :: bytes
  | _ + 1, _ => none

/-- One character of a tag that is written as escaped bytes. -/
private def readEscapedChar? (text : List Char) : Option (Char × Nat) := do
  let lead ← (← readEscapedBytes 1 text).head?
  let width := if lead < 0x80 then 1 else if lead &&& 0xE0 == 0xC0 then 2
    else if lead &&& 0xF0 == 0xE0 then 3 else if lead &&& 0xF8 == 0xF0 then 4 else 0
  if width = 0 then none
  let bytes ← readEscapedBytes width text
  let decoded ← String.fromUTF8? ⟨bytes.toArray⟩
  match decoded.toList with
  | [char] => some (char, 3 * width)
  | _ => none

private def tagUriFrom (verbatim : Bool) :
    Nat → List Char → Cursor → Except SyntaxError (List Char × Cursor)
  | 0, text, cursor => .ok (text, cursor)
  | fuel + 1, text, cursor =>
      match cursor.head? with
      | some char =>
          if char == '%' then
            match readEscapedChar? cursor.rest with
            | some (decoded, width) => tagUriFrom verbatim fuel (text ++ [decoded]) (cursor.skip width)
            | none => .error .malformedTag
          else if isTagUriChar verbatim char then
            tagUriFrom verbatim fuel (text ++ [char]) (cursor.skip 1)
          else .ok (text, cursor)
      | none => .ok (text, cursor)

private def readTagUri (verbatim : Bool) (cursor : Cursor) : Except SyntaxError (List Char × Cursor) :=
  tagUriFrom verbatim (cursor.rest.length + 1) [] cursor

/-- Reads `!`, `!!` or `!name!`; without a second mark the name is read all the same. -/
private def readTagHandle (cursor : Cursor) : Except SyntaxError (List Char × Cursor) :=
  if cursor.headIs '!' then
    let (name, cursor) := (cursor.skip 1).takeWhile isWordChar
    if cursor.headIs '!' then .ok ('!' :: name ++ ['!'], cursor.skip 1)
    else .ok ('!' :: name, cursor)
  else .error .malformedTag

private def readVersionNumber (cursor : Cursor) : Except SyntaxError (Nat × Cursor) :=
  let (digits, next) := cursor.takeWhile isDigit
  match (if digits.length ≤ 9 then readDigits? 10 digits else none) with
  | some value => .ok (value, next)
  | none => .error .malformedDirective

private def readDirective (cursor : Cursor) : Except SyntaxError (Token × Cursor) := do
  let (name, cursor) := (cursor.skip 1).takeWhile isWordChar
  if name.isEmpty || !atBlankOrEnd cursor.rest then throw .malformedDirective
  let cursor := cursor.skipWhile isBlank
  let (token, cursor) ←
    if name == "YAML".toList then do
      let (major, cursor) ← readVersionNumber cursor
      if !cursor.headIs '.' then throw .malformedDirective
      let (minor, cursor) ← readVersionNumber (cursor.skip 1)
      pure (Token.versionDirective major minor, cursor)
    else if name == "TAG".toList then do
      let (handle, cursor) ← readTagHandle cursor
      if handle.getLast? ≠ some '!' then throw SyntaxError.malformedTag
      if !cursor.headSatisfies isBlank then throw .malformedDirective
      let (replacement, cursor) ← readTagUri true (cursor.skipWhile isBlank)
      if replacement.isEmpty then throw .malformedTag
      if !atBlankOrEnd cursor.rest then throw .malformedDirective
      pure (Token.tagDirective (String.ofList handle) (String.ofList replacement), cursor)
    else throw (SyntaxError.unknownDirective (String.ofList name))
  let cursor ← skipToLineEnd cursor .malformedDirective
  return (token, cursor)

/-! ### Node properties -/

/-- Reads the name of an anchor or alias from behind its mark. -/
private def readAnchorName (cursor : Cursor) : Except SyntaxError (String × Cursor) :=
  let (name, cursor) := (cursor.skip 1).takeWhile isWordChar
  let ends := atBlankOrEnd cursor.rest || cursor.headSatisfies "?:,]\x7d%@`".toList.contains
  if name.isEmpty || !ends then .error .malformedAnchor else .ok (String.ofList name, cursor)

private def readTag (inFlow : Bool) (cursor : Cursor) : Except SyntaxError (Token × Cursor) := do
  let (token, cursor) ←
    if cursor.rest[1]? == some '<' then do
      let (uri, cursor) ← readTagUri true (cursor.skip 2)
      if uri.isEmpty || !cursor.headIs '>' then throw SyntaxError.malformedTag
      pure (Token.tag "" (String.ofList uri), cursor.skip 1)
    else do
      let (handle, cursor) ← readTagHandle cursor
      if 2 ≤ handle.length && handle.getLast? == some '!' then
        let (suffix, cursor) ← readTagUri false cursor
        if suffix.isEmpty then throw SyntaxError.malformedTag
        pure (Token.tag (String.ofList handle) (String.ofList suffix), cursor)
      else
        let (more, cursor) ← readTagUri false cursor
        let suffix := handle.drop 1 ++ more
        if suffix.isEmpty then pure (Token.tag "" "!", cursor)
        else pure (Token.tag "!" (String.ofList suffix), cursor)
  if atBlankOrEnd cursor.rest || (inFlow && cursor.headIs ',') then return (token, cursor)
  else throw .malformedTag

/-! ### One token -/

private def finish (reading : Reading) : Except SyntaxError Reading := do
  let reading ← (reading.closeBlocks (-1)).dropCandidate
  return (reading.allowKey false).emit .streamEnd

private def readDocumentMarker (reading : Reading) (token : Token) : Except SyntaxError Reading := do
  let reading ← (reading.closeBlocks (-1)).dropCandidate
  return ((reading.allowKey false).skip 3).emit token

private def openFlow (reading : Reading) (token : Token) : Except SyntaxError Reading := do
  let reading ← reading.noteCandidate
  let opened := { reading with flowCandidates := none :: reading.flowCandidates }
  return ((opened.allowKey true).skip 1).emit token

private def closeFlow (reading : Reading) (token : Token) : Except SyntaxError Reading := do
  let reading ← reading.dropCandidate
  let closed := { reading with flowCandidates := reading.flowCandidates.drop 1 }
  return ((closed.allowKey false).skip 1).emit token

private def readFlowEntry (reading : Reading) : Except SyntaxError Reading := do
  let reading ← reading.dropCandidate
  return ((reading.allowKey true).skip 1).emit .flowEntry

private def readBlockEntry (reading : Reading) : Except SyntaxError Reading := do
  if !reading.inFlow && !reading.keyAllowed then throw .misplacedEntry
  let opened := reading.openBlock reading.cursor.column reading.count .blockSequenceStart
  let reading ← opened.dropCandidate
  return ((reading.allowKey true).skip 1).emit .blockEntry

private def readKey (reading : Reading) : Except SyntaxError Reading := do
  if !reading.inFlow && !reading.keyAllowed then throw .misplacedKey
  let opened := reading.openBlock reading.cursor.column reading.count .blockMappingStart
  let reading ← opened.dropCandidate
  return ((reading.allowKey (!reading.inFlow)).skip 1).emit .key

private def readValue (reading : Reading) : Except SyntaxError Reading := do
  match ← reading.liveCandidate? with
  | some candidate =>
      let keyed := reading.insertAt candidate.position .key
      let opened := keyed.openBlock candidate.column candidate.position .blockMappingStart
      return (((opened.setCandidate none).allowKey false).skip 1).emit .value
  | none =>
      if !reading.inFlow && !reading.keyAllowed then throw .misplacedValue
      let opened := reading.openBlock reading.cursor.column reading.count .blockMappingStart
      return (((opened.setCandidate none).allowKey (!reading.inFlow)).skip 1).emit .value

private def readProperty (reading : Reading) (token : Token) (cursor : Cursor) : Reading :=
  { (reading.allowKey false).emit token with cursor }

private def readAlias (reading : Reading) : Except SyntaxError Reading := do
  let reading ← reading.noteCandidate
  let (name, cursor) ← readAnchorName reading.cursor
  match reading.anchors.lookup name with
  | some number => return readProperty reading (.alias number) cursor
  | none => throw (.unknownAlias name)

private def readAnchor (reading : Reading) : Except SyntaxError Reading := do
  let reading ← reading.noteCandidate
  let (name, cursor) ← readAnchorName reading.cursor
  let number := reading.anchors.length
  let anchors := (name, number) :: reading.anchors.filter (·.1 ≠ name)
  return { readProperty reading (.anchor number) cursor with anchors }

private def readBlockScalar (reading : Reading) (foldLines : Bool) : Except SyntaxError Reading := do
  let reading ← reading.dropCandidate
  let (text, cursor) ← readBlock foldLines reading.indent (reading.cursor.skip 1)
  let token := Token.scalar (String.ofList text) (if foldLines then .folded else .literal)
  return { (reading.allowKey true).emit token with cursor }

private def readQuotedScalar (reading : Reading) (single : Bool) : Except SyntaxError Reading := do
  let reading ← reading.noteCandidate
  let (text, cursor) ← readQuoted single (reading.cursor.skip 1)
  let token := Token.scalar (String.ofList text) (if single then .singleQuoted else .doubleQuoted)
  return readProperty reading token cursor

private def readPlainScalar (reading : Reading) : Except SyntaxError Reading := do
  let reading ← reading.noteCandidate
  let scalar ← readPlain reading.inFlow (reading.indent + 1).toNat reading.cursor
  let read := readProperty reading (.scalar (String.ofList scalar.text) .plain) scalar.cursor
  return read.allowKey scalar.endsLine

/-- The characters that cannot begin a plain scalar. -/
private def isIndicator (char : Char) : Bool :=
  "-?:,[]\x7b\x7d#&*!|>'\"%@`".toList.contains char

/-- Reads the next token, and the tokens that indentation adds to it. Nothing when the text has
come to its end. -/
private def next (reading : Reading) : Except SyntaxError (Option Reading) := do
  let reading := reading.skipSpace
  let reading := reading.closeBlocks reading.cursor.column
  match reading.cursor.rest with
  | [] => return none
  | char :: rest =>
    let cursor := reading.cursor
    if cursor.column == 0 && char == '%' then
      let reading ← (reading.closeBlocks (-1)).dropCandidate
      let (token, cursor) ← readDirective cursor
      return some (readProperty reading token cursor)
    if cursor.atMarker '-' then return some (← reading.readDocumentMarker .documentStart)
    if cursor.atMarker '.' then return some (← reading.readDocumentMarker .documentEnd)
    let read : Except SyntaxError Reading :=
      match char with
      | '[' => reading.openFlow .flowSequenceStart
      | '{' => reading.openFlow .flowMappingStart
      | ']' => reading.closeFlow .flowSequenceEnd
      | '}' => reading.closeFlow .flowMappingEnd
      | ',' => reading.readFlowEntry
      | '*' => reading.readAlias
      | '&' => reading.readAnchor
      | '!' => do
          let reading ← reading.noteCandidate
          let (token, cursor) ← readTag reading.inFlow cursor
          return readProperty reading token cursor
      | '\'' => reading.readQuotedScalar true
      | '"' => reading.readQuotedScalar false
      | _ =>
          if char == '-' && atBlankOrEnd rest then reading.readBlockEntry
          else if char == '?' && (reading.inFlow || atBlankOrEnd rest) then reading.readKey
          else if char == ':' && (reading.inFlow || atBlankOrEnd rest) then reading.readValue
          else if char == '|' && !reading.inFlow then reading.readBlockScalar false
          else if char == '>' && !reading.inFlow then reading.readBlockScalar true
          else
            let blank := isBlank char || isBreak char
            let startsPlain := (!blank && !isIndicator char) ||
              (char == '-' && !rest.head?.any isBlank) ||
              (!reading.inFlow && (char == '?' || char == ':') && !atBlankOrEnd rest)
            if startsPlain then reading.readPlainScalar else .error (.unexpectedCharacter char)
    return some (← read)

private def readAll : Nat → Reading → Except SyntaxError Reading
  | 0, reading => finish reading
  | fuel + 1, reading => do
      match ← reading.next with
      | some reading => readAll fuel reading
      | none => finish reading.skipSpace

end Reading

/-- The tokens of a text, the end of the stream last. -/
def tokens (text : String) : Except SyntaxError (List Token) := do
  let chars := match text.toList with
    | '\uFEFF' :: rest => rest
    | chars => chars
  match chars.find? (fun char => !isPrintable char) with
  | some char => throw (.forbiddenCharacter char)
  | none =>
      let reading ← Reading.readAll (chars.length + 1) (Reading.start chars)
      return reading.tokens.reverse

end SyntaxHighlight.Yaml
