/-
The generic value of a YAML document, with every plain scalar read for what it stands for. A
mapping that repeats a key, a whole number wider than 64 bits and a scalar that contradicts its
tag have no value.
-/

import SyntaxHighlight.Yaml.Node
import SyntaxHighlight.Yaml.Scalar

namespace SyntaxHighlight.Yaml

inductive Value where
  | null
  | bool (value : Bool)
  | number (value : Number)
  | text (value : String)
  | sequence (items : List Value)
  | mapping (entries : List (Value × Value))
  | tagged (tag : String) (content : Value)
deriving Repr

mutual

/-- Whether two values are the same. The entries of mappings are compared in their order. -/
def Value.isSame : Value → Value → Bool
  | .null, .null => true
  | .bool one, .bool other => one == other
  | .number one, .number other => one == other
  | .text one, .text other => one == other
  | .sequence items, .sequence others => areSameItems items others
  | .mapping entries, .mapping others => areSameEntries entries others
  | .tagged tag content, .tagged otherTag other => tag == otherTag && content.isSame other
  | _, _ => false

private def Value.areSameItems : List Value → List Value → Bool
  | [], [] => true
  | item :: rest, other :: others => item.isSame other && areSameItems rest others
  | _, _ => false

private def Value.areSameEntries : List (Value × Value) → List (Value × Value) → Bool
  | [], [] => true
  | (key, value) :: rest, (otherKey, other) :: others =>
      key.isSame otherKey && value.isSame other && areSameEntries rest others
  | _, _ => false

end

instance : BEq Value := ⟨Value.isSame⟩

/-! ### Tags -/

private def coreTag (name : String) : String := "tag:yaml.org,2002:" ++ name

def boolTag : String := coreTag "bool"
def integerTag : String := coreTag "int"
def realTag : String := coreTag "float"
def nullTag : String := coreTag "null"

/-- The name of a tag that a document uses for its own purposes. -/
def localTag? (tag? : Option String) : Option String :=
  tag?.bind fun tag =>
    match tag.toList with
    | '!' :: name => some (String.ofList name)
    | _ => none

namespace Scalar

private def readInteger (text : String) : Option Scalar :=
  match ofPlain text with
  | .number (.whole value) => some (.number (.whole value))
  | .wideNumber value => some (.wideNumber value)
  | _ => none

/-- What a scalar stands for, or what its tag asks for in vain. -/
def ofNode (tag? : Option String) (text : String) (style : ScalarStyle) : Except String Scalar :=
  match tag? with
  | none => .ok (if style = .plain then ofPlain text else .text text)
  | some tag =>
      if tag == boolTag then
        match readBool? text with
        | some value => .ok (.bool value)
        | none => .error "a boolean"
      else if tag == integerTag then
        match readInteger text with
        | some scalar => .ok scalar
        | none => .error "an integer"
      else if tag == realTag then
        match readReal? text with
        | some value => .ok (.number (.real value))
        | none => .error "a float"
      else if tag == nullTag then
        if isNull text then .ok .null else .error "null"
      else .ok (.text text)

end Scalar

namespace Value

private def ofScalar? (tag? : Option String) (text : String) (style : ScalarStyle) : Option Value :=
  let content? (tag? : Option String) : Option Value :=
    match Scalar.ofNode tag? text style with
    | .ok .null => some .null
    | .ok (.bool value) => some (.bool value)
    | .ok (.number value) => some (.number value)
    | .ok (.wideNumber _) => none
    | .ok (.text value) => some (.text value)
    | .error _ => none
  match localTag? tag? with
  | some name => (content? none).map (.tagged name)
  | none => content? tag?

private def withTag (tag? : Option String) (content : Value) : Value :=
  match localTag? tag? with
  | some name => .tagged name content
  | none => content

private def repeatsKey : List (Value × Value) → Bool
  | [] => false
  | (key, _) :: rest => rest.any (fun (other, _) => other == key) || repeatsKey rest

mutual

/-- The value of a node, if it has one. -/
def ofNode? : Node → Option Value
  | .scalar tag? content style => ofScalar? tag? content style
  | .sequence tag? items => (ofItems? items).map fun items => withTag tag? (.sequence items)
  | .mapping tag? entries => do
      let entries ← ofEntries? entries
      if repeatsKey entries then none else some (withTag tag? (.mapping entries))

private def ofItems? : List Node → Option (List Value)
  | [] => some []
  | item :: rest => do
      let item ← ofNode? item
      let rest ← ofItems? rest
      return item :: rest

private def ofEntries? : List (Node × Node) → Option (List (Value × Value))
  | [] => some []
  | (key, value) :: rest => do
      let key ← ofNode? key
      let value ← ofNode? value
      let rest ← ofEntries? rest
      return (key, value) :: rest

end

/-- The value below all tags. -/
def untagged : Value → Value
  | .tagged _ content => content.untagged
  | value => value

/-- The value of the first entry under a key. -/
def find? (key : String) (entries : List (Value × Value)) : Option Value :=
  (entries.find? fun (other, _) => other == .text key).map Prod.snd

end Value

/-- The node that a text without any document amounts to. -/
def Node.blank : Node := .scalar none "" .plain

/-- Whether a text holds one document that has a value. -/
def isReadable (text : String) : Bool :=
  match document? text with
  | .ok (some node) => (Value.ofNode? node).isSome
  | .ok none => true
  | .error _ => false

end SyntaxHighlight.Yaml
