/-
Reading the bracketed character classes of patterns: single characters, ranges, kinds of
characters, nested classes, and intersections.
-/

import SyntaxHighlight.Pattern.Escape

namespace SyntaxHighlight.Pattern

open SyntaxHighlight.Text

/-- Whether a bracket that closes a class follows somewhere, escaped brackets apart. -/
def hasClosingBracket : List Char → Bool
  | [] => false
  | '\\' :: _ :: rest => hasClosingBracket rest
  | char :: rest => char == ']' || hasClosingBracket rest

private def hasKindEnd : List Char → Bool
  | '\\' :: _ :: rest => hasKindEnd rest
  | ':' :: ']' :: _ => true
  | ']' :: _ => false
  | _ :: rest => hasKindEnd rest
  | [] => false

private def dropText? (start text : List Char) : Option (List Char) :=
  if start.isPrefixOf text then some (text.drop start.length) else none

private def findKind? (text : List Char) : Option (CharKind × List Char) :=
  CharKind.named.findSome? fun (name, kind) =>
    (dropText? (name.toList ++ [':', ']']) text).map fun rest => (kind, rest)

private def misnamesKind (text : List Char) : Bool :=
  let (name, rest) := text.span fun char => char != ':' && char != ']'
  name.length ≤ 20 && (dropText? [':', ']'] rest).isSome

/-- What stands for one kind of characters between brackets and colons, behind the first colon;
nothing when the bracket stands for itself. -/
private def bracketedKind? (options : Options) (text : List Char) :
    Except ReadError (Option (CharClass × List Char)) :=
  let (negated, name) := match text with
    | '^' :: rest => (true, rest)
    | text => (false, text)
  match findKind? name with
  | some (kind, rest) =>
      let members := CharClass.kind kind options.asciiKinds
      .ok (some (if negated then .except members else members, rest))
  | none => if misnamesKind name then .error .unknownClassName else .ok none

/-- One element of a class. -/
private inductive Element where
  | single (char : Char)
  | many (members : CharClass)

/-- What an escape stands for in a class. -/
private def escapedElement (options : Options) (text : List Char) :
    Except ReadError (Element × List Char) :=
  match text with
  | [] => .error .endAtEscape
  | 'b' :: rest => .ok (.single '\x08', rest)
  | 'p' :: '\x7b' :: rest => do
      let (members, rest) ← bracedProperty options false rest
      return (.many members, rest)
  | 'P' :: '\x7b' :: rest => do
      let (members, rest) ← bracedProperty options true rest
      return (.many members, rest)
  | char :: rest =>
      match kindOfLetter? options char with
      | some members => .ok (.many members, rest)
      | none => do
          let (char, rest) ←
            if isOctalDigit char then octalEscape 3 text else escapedChar text
          return (.single char, rest)

/-- What has been read of a class: the operands of intersections before the current one. -/
private structure ClassDraft where
  operands : Option CharClass := none
  current : CharClass := .nothing

private def ClassDraft.add (draft : ClassDraft) (members : CharClass) : ClassDraft :=
  { draft with current := .either draft.current members }

private def ClassDraft.members (draft : ClassDraft) : CharClass :=
  match draft.operands with
  | none => draft.current
  | some operands => .both operands draft.current

private def ClassDraft.intersect (draft : ClassDraft) : ClassDraft :=
  { operands := some draft.members, current := .nothing }

/-- Whether a hyphen at this place, whose rest is given, is just a hyphen. -/
private def endsOperand : List Char → Bool
  | ']' :: _ => true
  | '&' :: '&' :: _ => true
  | _ => false

private def rangeEnd (options : Options) (text : List Char) :
    Except ReadError (Option (Char × List Char)) :=
  match text with
  | [] => .error .classUnclosed
  | '\\' :: rest => do
      match ← escapedElement options rest with
      | (.single char, rest) => return some (char, rest)
      | (.many _, _) => throw .classEndsRange
  | '[' :: ':' :: rest =>
      if hasKindEnd rest then .error .classEndsRange else .ok none
  | '[' :: _ => .ok none
  | char :: rest => .ok (some (char, rest))

/-- Adds a character, or the range that begins with it. -/
private def addFrom (options : Options) (draft : ClassDraft) (first : Char) (text : List Char) :
    Except ReadError (ClassDraft × List Char) :=
  let alone := (draft.add (.char first), text)
  match text with
  | '-' :: rest =>
      if endsOperand rest then .ok alone
      else do
        match ← rangeEnd options rest with
        | none => return (draft.add (.char first) |>.add (.char '-'), rest)
        | some (last, rest) =>
            if last < first then throw .emptyRange
            return (draft.add (.range first last), rest)
  | _ => .ok alone

/-- Adds characters that cannot begin a range. -/
private def addMany (draft : ClassDraft) (members : CharClass) (text : List Char) :
    Except ReadError (ClassDraft × List Char) :=
  match text with
  | '-' :: rest =>
      if rest.isEmpty || endsOperand rest then .ok (draft.add members, text)
      else .error .classStartsRange
  | _ => .ok (draft.add members, text)

mutual

/-- Reads the elements of a class up to the bracket that closes it. -/
private def readElements (options : Options) :
    Nat → ClassDraft → List Char → Except ReadError (CharClass × List Char)
  | 0, _, _ => .error .classUnclosed
  | _ + 1, _, [] => .error .classUnclosed
  | _ + 1, draft, ']' :: rest => .ok (draft.members, rest)
  | fuel + 1, draft, '&' :: '&' :: rest => readElements options fuel draft.intersect rest
  | fuel + 1, draft, '[' :: ':' :: rest => do
      let kind? ← if hasKindEnd rest then bracketedKind? options rest else pure none
      match kind? with
      | some (members, rest) =>
          let (draft, rest) ← addMany draft members rest
          readElements options fuel draft rest
      | none =>
          if hasKindEnd rest then
            let (draft, rest) ← addFrom options draft '[' (':' :: rest)
            readElements options fuel draft rest
          else
            let (members, rest) ← readBracketed options fuel (':' :: rest)
            readElements options fuel (draft.add members) rest
  | fuel + 1, draft, '[' :: rest => do
      let (members, rest) ← readBracketed options fuel rest
      readElements options fuel (draft.add members) rest
  | fuel + 1, draft, '\\' :: rest => do
      let (draft, rest) ← match ← escapedElement options rest with
        | (.single char, rest) => addFrom options draft char rest
        | (.many members, rest) => addMany draft members rest
      readElements options fuel draft rest
  | fuel + 1, draft, char :: rest => do
      let (draft, rest) ← addFrom options draft char rest
      readElements options fuel draft rest

/-- Reads a class behind the bracket that opens it. -/
private def readBracketed (options : Options) :
    Nat → List Char → Except ReadError (CharClass × List Char)
  | 0, _ => .error .classUnclosed
  | fuel + 1, text => do
      let (negated, text) := match text with
        | '^' :: rest => (true, rest)
        | text => (false, text)
      let (draft, text) ← match text with
        | ']' :: rest =>
            if hasClosingBracket rest then addFrom options {} ']' rest
            else throw ReadError.classEmpty
        | text => pure ({}, text)
      let (members, rest) ← readElements options fuel draft text
      return (if negated then .except members else members, rest)

end

/-- The members of a class, whatever their case. -/
private def foldedMembers : CharClass → CharClass
  | .except members => .except (.anyCase members)
  | members => .anyCase members

/-- Texts that differ in case only from a single member of a class. -/
private def expansions (members : CharClass) : List (List Char) :=
  match members with
  | .except _ => []
  | members =>
      expandingSources.filterMap fun (source, folded) =>
        if members.contains source then some folded else none

/-- The pattern for a class. A class of one written character is a text. -/
private def ofClass (options : Options) (members : CharClass) : Pattern :=
  match members.single? with
  | some char => .literal [char] options.ignoreCase
  | none =>
      if options.ignoreCase then
        (expansions members).foldl (fun pattern folded => .either pattern (.literal folded true))
          (.one (foldedMembers members))
      else .one members

/-- Reads a bracketed class behind its opening bracket, and what follows it. -/
def readClass (options : Options) (text : List Char) : Except ReadError (Pattern × List Char) := do
  let (members, rest) ← readBracketed options (2 * text.length + 2) text
  return (ofClass options members, rest)

end SyntaxHighlight.Pattern
