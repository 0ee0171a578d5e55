/-
The nodes of a YAML document, composed from the tokens of the text. A mapping keeps its entries
in order, repeated keys included. An alias stands for the node that carries its anchor.
-/

import SyntaxHighlight.Yaml.Token

namespace SyntaxHighlight.Yaml

/-- A node with numbered anchors and aliases, as it is written. -/
inductive Draft where
  | alias (number : Nat)
  | scalar (anchor? : Option Nat) (tag? : Option String) (text : String) (style : ScalarStyle)
  | sequence (anchor? : Option Nat) (tag? : Option String) (items : List Draft)
  | mapping (anchor? : Option Nat) (tag? : Option String) (entries : List (Draft × Draft))
deriving Repr

/-- The node that stands where nothing is written. -/
def Draft.empty : Draft := .scalar none none "" .plain

/-- A node without anchors, every alias replaced by what it stands for. -/
inductive Node where
  | scalar (tag? : Option String) (text : String) (style : ScalarStyle)
  | sequence (tag? : Option String) (items : List Node)
  | mapping (tag? : Option String) (entries : List (Node × Node))
deriving Repr

/-- What the tag handles stand for. -/
abbrev TagHandles := List (String × String)

def defaultTagHandles : TagHandles := [("!", "!"), ("!!", "tag:yaml.org,2002:")]

private structure Properties where
  anchor? : Option Nat
  tag? : Option String

private def resolveTag (handles : TagHandles) (handle suffix : String) : Except SyntaxError String :=
  if handle.isEmpty then .ok suffix
  else match handles.lookup handle with
    | some replacement => .ok (replacement ++ suffix)
    | none => .error (.undefinedTagHandle handle)

/-- Reads an anchor and a tag, in either order, at most one of each. -/
private def readProperties (handles : TagHandles) :
    List Token → Except SyntaxError (Properties × List Token)
  | .anchor number :: .tag handle suffix :: rest
  | .tag handle suffix :: .anchor number :: rest => do
      return (⟨some number, some (← resolveTag handles handle suffix)⟩, rest)
  | .anchor number :: rest => .ok (⟨some number, none⟩, rest)
  | .tag handle suffix :: rest => do
      return (⟨none, some (← resolveTag handles handle suffix)⟩, rest)
  | rest => .ok (⟨none, none⟩, rest)

/-- The tag of a written scalar, for which the bare tag `!` says nothing. -/
private def scalarTag (tag? : Option String) : Option String := tag?.filter (· ≠ "!")

private def endsItem : List Token → Bool
  | .blockEntry :: _ => true
  | .blockEnd :: _ => true
  | _ => false

private def endsIndentlessItem : List Token → Bool
  | .blockEntry :: _ => true
  | .key :: _ => true
  | .value :: _ => true
  | .blockEnd :: _ => true
  | _ => false

private def endsBlockPart : List Token → Bool
  | .key :: _ => true
  | .value :: _ => true
  | .blockEnd :: _ => true
  | _ => false

private def endsPairKey : List Token → Bool
  | .value :: _ => true
  | .flowEntry :: _ => true
  | .flowSequenceEnd :: _ => true
  | _ => false

private def endsPairValue : List Token → Bool
  | .flowEntry :: _ => true
  | .flowSequenceEnd :: _ => true
  | _ => false

private def endsFlowKey : List Token → Bool
  | .value :: _ => true
  | .flowEntry :: _ => true
  | .flowMappingEnd :: _ => true
  | _ => false

private def endsFlowValue : List Token → Bool
  | .flowEntry :: _ => true
  | .flowMappingEnd :: _ => true
  | _ => false

/-- Where a node stands: a block node may be a block collection, and the value of a block
mapping may be a sequence without an indentation of its own. -/
private inductive Place where
  | block
  | blockPart
  | flow
deriving DecidableEq

/-- A node of which only the properties are written is an empty scalar. -/
private def composeMissing (properties : Properties) (tokens : List Token) : Except SyntaxError (Draft × List Token) :=
  if properties.anchor?.isSome || properties.tag?.isSome then
    .ok (.scalar properties.anchor? properties.tag? "" .plain, tokens)
  else .error .missingContent

mutual

private def composeNode (handles : TagHandles) :
    Nat → Place → List Token → Except SyntaxError (Draft × List Token)
  | 0, _, _ => .error .nestedTooDeeply
  | _ + 1, _, .alias number :: rest => .ok (.alias number, rest)
  | fuel + 1, place, tokens => do
      let (properties, tokens) ← readProperties handles tokens
      let anchor? := properties.anchor?
      let tag? := properties.tag?
      match tokens with
      | .blockEntry :: _ =>
          if place = .blockPart then
            let (items, rest) ← composeIndentless handles fuel tokens
            return (.sequence anchor? tag? items, rest)
          else composeMissing properties tokens
      | .scalar text style :: rest =>
          return (.scalar anchor? (scalarTag tag?) text style, rest)
      | .flowSequenceStart :: rest =>
          let (items, rest) ← composeFlowItems handles fuel true rest
          return (.sequence anchor? tag? items, rest)
      | .flowMappingStart :: rest =>
          let (entries, rest) ← composeFlowEntries handles fuel true rest
          return (.mapping anchor? tag? entries, rest)
      | .blockSequenceStart :: rest =>
          if place = .flow then throw .missingContent
          let (items, rest) ← composeBlockItems handles fuel rest
          return (.sequence anchor? tag? items, rest)
      | .blockMappingStart :: rest =>
          if place = .flow then throw .missingContent
          let (entries, rest) ← composeBlockEntries handles fuel rest
          return (.mapping anchor? tag? entries, rest)
      | _ => composeMissing properties tokens

private def composeBlockItems (handles : TagHandles) : Nat → List Token → Except SyntaxError (List Draft × List Token)
  | 0, _ => .error .nestedTooDeeply
  | fuel + 1, .blockEntry :: rest => do
      let (item, rest) ←
        if endsItem rest then pure (Draft.empty, rest) else composeNode handles fuel .block rest
      let (items, rest) ← composeBlockItems handles fuel rest
      return (item :: items, rest)
  | _ + 1, .blockEnd :: rest => .ok ([], rest)
  | _ + 1, _ => .error .missingEntry

private def composeIndentless (handles : TagHandles) : Nat → List Token → Except SyntaxError (List Draft × List Token)
  | 0, _ => .error .nestedTooDeeply
  | fuel + 1, .blockEntry :: rest => do
      let (item, rest) ←
        if endsIndentlessItem rest then pure (Draft.empty, rest)
        else composeNode handles fuel .block rest
      let (items, rest) ← composeIndentless handles fuel rest
      return (item :: items, rest)
  | _ + 1, rest => .ok ([], rest)

private def composeBlockEntries (handles : TagHandles) :
    Nat → List Token → Except SyntaxError (List (Draft × Draft) × List Token)
  | 0, _ => .error .nestedTooDeeply
  | _ + 1, .blockEnd :: rest => .ok ([], rest)
  | fuel + 1, .key :: rest => do
      let (key, rest) ←
        if endsBlockPart rest then pure (Draft.empty, rest)
        else composeNode handles fuel .blockPart rest
      let (value, rest) ← composeBlockValue handles fuel rest
      let (entries, rest) ← composeBlockEntries handles fuel rest
      return ((key, value) :: entries, rest)
  | _ + 1, _ => .error .missingKey

private def composeBlockValue (handles : TagHandles) : Nat → List Token → Except SyntaxError (Draft × List Token)
  | 0, _ => .error .nestedTooDeeply
  | fuel + 1, .value :: rest =>
      if endsBlockPart rest then .ok (Draft.empty, rest)
      else composeNode handles fuel .blockPart rest
  | _ + 1, rest => .ok (Draft.empty, rest)

/-- The items of a flow sequence; a key among them begins a mapping with a single entry. -/
private def composeFlowItems (handles : TagHandles) :
    Nat → (first : Bool) → List Token → Except SyntaxError (List Draft × List Token)
  | 0, _, _ => .error .nestedTooDeeply
  | _ + 1, _, .flowSequenceEnd :: rest => .ok ([], rest)
  | fuel + 1, first, tokens => do
      let tokens ←
        if first then pure tokens
        else match tokens with
          | .flowEntry :: rest => pure rest
          | _ => throw SyntaxError.missingSeparator
      match tokens with
      | .flowSequenceEnd :: rest => return ([], rest)
      | .key :: rest =>
          let (entry, rest) ← composePair handles fuel rest
          let (items, rest) ← composeFlowItems handles fuel false rest
          return (.mapping none none [entry] :: items, rest)
      | _ =>
          let (item, rest) ← composeNode handles fuel .flow tokens
          let (items, rest) ← composeFlowItems handles fuel false rest
          return (item :: items, rest)

private def composePair (handles : TagHandles) : Nat → List Token → Except SyntaxError ((Draft × Draft) × List Token)
  | 0, _ => .error .nestedTooDeeply
  | fuel + 1, tokens => do
      let (key, rest) ←
        if endsPairKey tokens then pure (Draft.empty, tokens.drop 1)
        else composeNode handles fuel .flow tokens
      match rest with
      | .value :: rest =>
          if endsPairValue rest then return ((key, Draft.empty), rest)
          let (value, rest) ← composeNode handles fuel .flow rest
          return ((key, value), rest)
      | _ => return ((key, Draft.empty), rest)

private def composeFlowEntries (handles : TagHandles) :
    Nat → (first : Bool) → List Token → Except SyntaxError (List (Draft × Draft) × List Token)
  | 0, _, _ => .error .nestedTooDeeply
  | _ + 1, _, .flowMappingEnd :: rest => .ok ([], rest)
  | fuel + 1, first, tokens => do
      let tokens ←
        if first then pure tokens
        else match tokens with
          | .flowEntry :: rest => pure rest
          | _ => throw SyntaxError.missingSeparator
      match tokens with
      | .flowMappingEnd :: rest => return ([], rest)
      | .key :: rest =>
          let (key, rest) ←
            if endsFlowKey rest then pure (Draft.empty, rest)
            else composeNode handles fuel .flow rest
          let (value, rest) ← composeFlowValue handles fuel rest
          let (entries, rest) ← composeFlowEntries handles fuel false rest
          return ((key, value) :: entries, rest)
      | _ =>
          let (key, rest) ← composeNode handles fuel .flow tokens
          let (entries, rest) ← composeFlowEntries handles fuel false rest
          return ((key, Draft.empty) :: entries, rest)

private def composeFlowValue (handles : TagHandles) : Nat → List Token → Except SyntaxError (Draft × List Token)
  | 0, _ => .error .nestedTooDeeply
  | fuel + 1, .value :: rest =>
      if endsFlowValue rest then .ok (Draft.empty, rest) else composeNode handles fuel .flow rest
  | _ + 1, rest => .ok (Draft.empty, rest)

end

/-! ### Documents -/

/-- Reads the directives before a document. Handles that a document does not declare have their
usual meaning. -/
private def readDirectives :
    (versioned : Bool) → TagHandles → List Token → Except SyntaxError (TagHandles × List Token)
  | versioned, handles, .versionDirective major minor :: rest =>
      if versioned then .error .repeatedDirective
      else if major ≠ 1 || (minor ≠ 1 && minor ≠ 2) then .error (.unsupportedVersion major minor)
      else readDirectives true handles rest
  | versioned, handles, .tagDirective handle replacement :: rest =>
      if (handles.lookup handle).isSome then .error .repeatedDirective
      else readDirectives versioned (handles ++ [(handle, replacement)]) rest
  | _, handles, rest => .ok (handles ++ defaultTagHandles, rest)

private def endsDocument : List Token → Bool
  | .versionDirective _ _ :: _ => true
  | .tagDirective _ _ :: _ => true
  | .documentStart :: _ => true
  | .documentEnd :: _ => true
  | .streamEnd :: _ => true
  | _ => false

private def composeRoot (handles : TagHandles) (tokens : List Token) : Except SyntaxError (Draft × List Token) :=
  composeNode handles (2 * tokens.length + 2) .block tokens

/-- The node of a document with an explicit start. -/
private def composeMarked (tokens : List Token) : Except SyntaxError (Draft × List Token) := do
  let (handles, tokens) ← readDirectives false [] tokens
  match tokens with
  | .documentStart :: rest =>
      if endsDocument rest then return (Draft.empty, rest) else composeRoot handles rest
  | _ => throw .missingDocumentStart

private def dropDocumentEnds : List Token → List Token
  | .documentEnd :: rest => dropDocumentEnds rest
  | rest => rest

/-- The only document of a text; nothing when the text holds none. -/
private def draft? (text : String) : Except SyntaxError (Option Draft) := do
  let tokens ← tokens text
  if tokens = [.streamEnd] then return none
  let begins := endsDocument tokens && tokens.head? ≠ some .documentEnd
  let (draft, rest) ← if begins then composeMarked tokens else composeRoot defaultTagHandles tokens
  match dropDocumentEnds rest with
  | [.streamEnd] => return some draft
  | rest => if endsDocument rest then throw .severalDocuments else throw .missingDocumentStart

/-! ### Aliases -/

mutual

/-- The anchored nodes in the order of the text. -/
private def Draft.anchored : Draft → List (Nat × Draft)
  | .alias _ => []
  | .scalar anchor? tag? text style =>
      (anchor?.map (·, .scalar none tag? text style)).toList
  | .sequence anchor? tag? items =>
      (anchor?.map (·, .sequence none tag? items)).toList ++ anchoredItems items
  | .mapping anchor? tag? entries =>
      (anchor?.map (·, .mapping none tag? entries)).toList ++ anchoredEntries entries

private def anchoredItems : List Draft → List (Nat × Draft)
  | [] => []
  | item :: rest => item.anchored ++ anchoredItems rest

private def anchoredEntries : List (Draft × Draft) → List (Nat × Draft)
  | [] => []
  | (key, value) :: rest => key.anchored ++ value.anchored ++ anchoredEntries rest

end

/-- Replaces aliases by the nodes they stand for, down to a depth of nesting. Of several anchors
with one number the last in the text counts. -/
private def Draft.resolve (anchors : List (Nat × Draft)) : Nat → Draft → Except SyntaxError Node
  | 0, _ => .error .nestedTooDeeply
  | depth + 1, draft =>
      match draft with
      | .alias number =>
          match anchors.lookup number with
          | some target => target.resolve anchors depth
          | none => .error (.unknownAlias (toString number))
      | .scalar _ tag? text style => .ok (.scalar tag? text style)
      | .sequence _ tag? items => do
          return .sequence tag? (← items.mapM (·.resolve anchors depth))
      | .mapping _ tag? entries => do
          let entries ← entries.mapM fun (key, value) => do
            return (← key.resolve anchors depth, ← value.resolve anchors depth)
          return .mapping tag? entries

/-- The depth of nesting up to which documents are read. -/
def maxNesting : Nat := 128

/-- The root node of the only document of a text; nothing when the text holds none. -/
def document? (text : String) : Except SyntaxError (Option Node) := do
  match ← draft? text with
  | some draft => return some (← draft.resolve draft.anchored.reverse (maxNesting + 1))
  | none => return none

end SyntaxHighlight.Yaml
