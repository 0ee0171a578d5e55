/-
Reading records, lists and maps of known shape out of YAML nodes. A failure tells where in the
document it arose and why. A record is read in the order of the document; only then are its
missing fields looked for, in the order in which the record declares them.
-/

import SyntaxHighlight.Yaml.Value
import SyntaxHighlight.Text.Quoted

namespace SyntaxHighlight.Yaml

open SyntaxHighlight.Text

/-! ### Failures -/

inductive PathStep where
  | field (name : String)
  | item (index : Nat)
deriving Repr, DecidableEq

/-- The way from the root of a document to a node, last step first. -/
abbrev Path := List PathStep

/-- The text of a path; a list at the root is written as a point. -/
def Path.text : Path → String
  | [] => "."
  | .item index :: path => Path.text path ++ "[" ++ toString index ++ "]"
  | [.field name] => name
  | .field name :: path => Path.text path ++ "." ++ name

/-- What was found where something else was expected. -/
inductive Found where
  | unit
  | bool (value : Bool)
  | number (value : Number)
  | wideNumber (value : Int)
  | text (value : String)
  | sequence
  | mapping
deriving Repr, DecidableEq

def Found.describe : Found → String
  | unit => "unit value"
  | bool value => s!"boolean `{value}`"
  | number (.whole value) => s!"integer `{value}`"
  | number (.real value) => s!"floating point `{value.plainText}`"
  | wideNumber value => s!"integer `{value}` as " ++ if value < 0 then "i128" else "u128"
  | text value => "string " ++ quoted value
  | sequence => "sequence"
  | mapping => "map"

inductive Cause where
  | wrongType (found : Found) (expected : String)
  | wrongValue (found : Found) (expected : String)
  | missingField (name : String)
  | repeatedField (name : String)
  | unknownVariant (name : String) (known : List String)
  | rejected (reason : String)
deriving Repr, DecidableEq

private def alternatives : List String → String
  | [] => "there are no variants"
  | [only] => s!"expected `{only}`"
  | [one, other] => s!"expected `{one}` or `{other}`"
  | many => "expected one of " ++ ", ".intercalate (many.map fun name => s!"`{name}`")

def Cause.message : Cause → String
  | wrongType found expected => s!"invalid type: {found.describe}, expected {expected}"
  | wrongValue found expected => s!"invalid value: {found.describe}, expected {expected}"
  | missingField name => s!"missing field `{name}`"
  | repeatedField name => s!"duplicate field `{name}`"
  | unknownVariant name known => s!"unknown variant `{name}`, " ++ alternatives known
  | rejected reason => reason

structure Failure where
  path : Path
  cause : Cause
deriving Repr, DecidableEq

/-- A failure at the root is told without its path. -/
def Failure.message (failure : Failure) : String :=
  if failure.path.isEmpty then failure.cause.message
  else failure.path.text ++ ": " ++ failure.cause.message

/-- Why a text could not be read as what it should hold. -/
inductive ReadError where
  | malformed (error : SyntaxError)
  | unfit (failure : Failure)
deriving Repr, DecidableEq

/-- A reader of nodes, which is told the path of the node. -/
abbrev Decoder (α : Type) := Path → Node → Except Failure α

private def fail {α : Type} (path : Path) (cause : Cause) : Except Failure α := .error ⟨path, cause⟩

/-! ### Scalars -/

private def Found.ofScalar : Scalar → Found
  | .null => .unit
  | .bool value => .bool value
  | .number value => .number value
  | .wideNumber value => .wideNumber value
  | .text value => .text value

/-- The cause of failure where a node is not of the expected kind. -/
def mismatch (expected : String) : Node → Cause
  | .scalar tag? text style =>
      match Scalar.ofNode tag? text style with
      | .ok scalar => .wrongType (.ofScalar scalar) expected
      | .error demanded => .wrongValue (.text text) demanded
  | .sequence _ _ => .wrongType .sequence expected
  | .mapping _ _ => .wrongType .mapping expected

/-- The text of any scalar, as it is written. -/
def decodeTextAs (expected : String) : Decoder String := fun path node =>
  match node with
  | .scalar _ text _ => .ok text
  | node => fail path (mismatch expected node)

def decodeText : Decoder String := decodeTextAs "a string"

/-- Whether a scalar is written as a literal of its own or of a tag. -/
private def isLiteral (tag : String) (tag? : Option String) (style : ScalarStyle) : Bool :=
  style = .plain || (style = .literal && tag? == some tag)

def decodeBool : Decoder Bool := fun path node =>
  match node with
  | .scalar tag? text style =>
      match if isLiteral boolTag tag? style then Scalar.readBool? text else none with
      | some value => .ok value
      | none => fail path (mismatch "a boolean" node)
  | node => fail path (mismatch "a boolean" node)

/-- A whole number that is not negative and fits into so many bits. -/
def decodeWhole (expected : String) (bits : Nat) : Decoder Nat := fun path node =>
  match node with
  | .scalar tag? text style =>
      match if isLiteral integerTag tag? style then Scalar.readUnsigned64? text else none with
      | some value =>
          if value < wordRange bits then .ok value
          else fail path (.wrongValue (.number (.whole value)) expected)
      | none => fail path (mismatch expected node)
  | node => fail path (mismatch expected node)

def decodeChar : Decoder Char := fun path node => do
  let text ← decodeTextAs "a character" path node
  match text.toList with
  | [char] => return char
  | _ => fail path (.wrongValue (.text text) "a character")

/-- One of a fixed set of names. The name may also be written as the tag of an empty node. -/
def decodeVariant {α : Type} (variants : List (String × α)) : Decoder α := fun path node =>
  let choose (name : String) : Except Failure α :=
    match variants.lookup name with
    | some value => .ok value
    | none => fail path (.unknownVariant name (variants.map Prod.fst))
  match node with
  | .scalar tag? text style =>
      match localTag? tag? with
      | none => choose text
      | some name => do
          let value ← choose name
          if style = .plain && (text.isEmpty || Scalar.isNull text) then return value
          else fail path (.wrongType (.text text) "unit")
  | .sequence tag? _ | .mapping tag? _ =>
      match localTag? tag? with
      | none => fail path (mismatch "a YAML tag starting with '!'" node)
      | some name => do
          let _ ← choose name
          fail path (mismatch "unit" node)

/-- Nothing for an empty scalar or one that spells nothing, otherwise what the reader gives. -/
def decodeOptional {α : Type} (decode : Decoder α) : Decoder (Option α) := fun path node =>
  match node with
  | .scalar none text .plain =>
      if text.isEmpty || Scalar.isNull text then .ok none else some <$> decode path node
  | .scalar (some tag) text .plain =>
      if tag == nullTag then
        if Scalar.isNull text then .ok none else fail path (.wrongValue (.text text) "null")
      else some <$> decode path node
  | node => some <$> decode path node

/-! ### Collections -/

private def isBlankNode : Node → Bool
  | .scalar _ text style => text.isEmpty && style = .plain
  | _ => false

def decodeItems {α : Type} (decode : Decoder α) (path : Path) :
    Nat → List Node → Except Failure (List α)
  | _, [] => .ok []
  | index, item :: rest => do
      let item ← decode (.item index :: path) item
      let rest ← decodeItems decode path (index + 1) rest
      return item :: rest

def decodeList {α : Type} (decode : Decoder α) : Decoder (List α) := fun path node =>
  match node with
  | .sequence _ items => decodeItems decode path 0 items
  | node => if isBlankNode node then .ok [] else fail path (mismatch "a sequence" node)

private def entriesOf (expected : String) : Decoder (List (Node × Node)) := fun path node =>
  match node with
  | .mapping _ entries => .ok entries
  | node => if isBlankNode node then .ok [] else fail path (mismatch expected node)

private def decodeMapEntries {α : Type} (decode : Decoder α) (path : Path) :
    List (Node × Node) → Except Failure (List (String × α))
  | [] => .ok []
  | (key, value) :: rest => do
      let key ← decodeText path key
      let value ← decode (.field key :: path) value
      let rest ← decodeMapEntries decode path rest
      return (key, value) :: rest

/-- The entries of a map from texts in the order of the document, repeated keys included. -/
def decodeMap {α : Type} (decode : Decoder α) : Decoder (List (String × α)) := fun path node => do
  decodeMapEntries decode path (← entriesOf "a map" path node)

/-! ### Records -/

/-- A field of a record: how its node changes the record. -/
structure RecordField (α : Type) where
  name : String
  required : Bool
  decode : Decoder (α → α)

namespace RecordField

private def fieldOf {α β : Type} (required : Bool) (name : String) (decode : Decoder β)
    (set : β → α → α) : RecordField α :=
  ⟨name, required, fun path node => do return set (← decode path node)⟩

/-- A field that a record must have. -/
def needed {α β : Type} (name : String) (decode : Decoder β) (set : β → α → α) : RecordField α :=
  fieldOf true name decode set

/-- A field that keeps its default when it is missing. -/
def defaulted {α β : Type} (name : String) (decode : Decoder β) (set : β → α → α) : RecordField α :=
  fieldOf false name decode set

end RecordField

def decodeFields {α : Type} (fields : List (RecordField α)) (path : Path) :
    (seen : List String) → α → List (Node × Node) → Except Failure α
  | seen, record, [] =>
      match fields.find? fun field => field.required && !seen.contains field.name with
      | some field => fail path (.missingField field.name)
      | none => .ok record
  | seen, record, (key, value) :: rest => do
      let key ← decodeTextAs "field identifier" path key
      match fields.find? fun field => field.name == key with
      | none => decodeFields fields path seen record rest
      | some field =>
          if seen.contains key then fail path (.repeatedField key)
          let change ← field.decode (.field key :: path) value
          decodeFields fields path (key :: seen) (change record) rest

/-- Reads a record from a mapping; entries that are no fields are passed over. -/
def decodeRecord {α : Type} (expected : String) (fields : List (RecordField α)) (blank : α) : Decoder α :=
  fun path node => do decodeFields fields path [] blank (← entriesOf expected path node)

/-- Rejects what a reader gives unless it passes a further check. The failure is told of the
collection or record around the node. -/
def decodeChecked {α β : Type} (decode : Decoder α) (check : α → Except String β) : Decoder β :=
  fun path node => do
    let value ← decode path node
    match check value with
    | .ok result => return result
    | .error reason => fail path.tail (.rejected reason)

/-- Reads the only document of a text. -/
def decodeDocument {α : Type} (decode : Decoder α) (text : String) : Except ReadError α :=
  match document? text with
  | .error error => .error (.malformed error)
  | .ok node? =>
      match decode [] (node?.getD .blank) with
      | .ok value => .ok value
      | .error failure => .error (.unfit failure)

end SyntaxHighlight.Yaml
