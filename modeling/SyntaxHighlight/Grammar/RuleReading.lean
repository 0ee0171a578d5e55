/-
Reading a rule from the value of a YAML mapping. Exactly one of the keys says what the rule looks
for; its argument may be a text, or a number or truth value in its place. The other keys are the
properties of the rule.
-/

import SyntaxHighlight.Grammar.Definition
import SyntaxHighlight.Yaml.Decode

namespace SyntaxHighlight

open SyntaxHighlight.Yaml

/-- The keys that say what a rule looks for. -/
def ruleKindKeys : List String :=
  ["detect_char", "detect_2chars", "any_char", "string", "word", "regex", "keyword", "int", "float",
    "hl_c_string_char", "range", "line_continue", "detect_spaces", "detect_identifier",
    "include_rules"]

/-- The ways in which a value can fail to be a rule. -/
inductive RuleError where
  | notMapping
  | noKind
  | severalKinds
  | argumentNotText (key : String)
  | argumentEmpty (key : String)
  | argumentNotOneChar (key text : String)
  | argumentNotTwoChars (key text : String)
  | property (cause : Cause)
deriving DecidableEq, Repr

def RuleError.message : RuleError → String
  | notMapping => "rules must be YAML mappings"
  | noKind => "rule has no rule kind (expected one of " ++ ", ".intercalate ruleKindKeys ++ ")"
  | severalKinds => "a rule must have exactly one rule kind"
  | argumentNotText key => s!"'{key}' expects a string argument"
  | argumentEmpty key => s!"'{key}' needs a non-empty argument"
  | argumentNotOneChar key text => s!"'{key}' expects exactly one character, got '{text}'"
  | argumentNotTwoChars key text => s!"'{key}' expects exactly two characters, got '{text}'"
  | property cause => cause.message

/-! ### Arguments -/

/-- The text of an argument: numbers and truth values stand for their usual spelling. -/
private def argumentText (key : String) : Value → Except RuleError String
  | .text text => .ok text
  | .number (.whole number) => .ok (toString number)
  | .number (.real number) => .ok number.compactText
  | .bool truth => .ok (if truth then "true" else "false")
  | _ => .error (.argumentNotText key)

def argumentNonempty (key : String) (argument : Value) : Except RuleError String := do
  let text ← argumentText key argument
  if text.isEmpty then .error (.argumentEmpty key) else .ok text

private def argumentChar (key : String) (argument : Value) : Except RuleError Char := do
  let text ← argumentText key argument
  match text.toList with
  | [char] => .ok char
  | _ => .error (.argumentNotOneChar key text)

private def argumentPair (key : String) (argument : Value) : Except RuleError (Char × Char) := do
  let text ← argumentText key argument
  match text.toList with
  | [first, second] => .ok (first, second)
  | _ => .error (.argumentNotTwoChars key text)

def readLineContinue (key : String) : Value → Except RuleError RuleKind
  | .null | .bool true => .ok (.lineContinue '\\')
  | argument => .lineContinue <$> argumentChar key argument

def readKind (key : String) (argument : Value) : Except RuleError RuleKind :=
  match key with
  | "detect_char" => .char <$> argumentChar key argument
  | "detect_2chars" => (fun (first, second) => .charPair first second) <$> argumentPair key argument
  | "any_char" => .anyChar <$> argumentNonempty key argument
  | "string" => .literal <$> argumentNonempty key argument
  | "word" => .word <$> argumentNonempty key argument
  | "regex" => .regex <$> argumentNonempty key argument
  | "keyword" => .keyword <$> argumentNonempty key argument
  | "include_rules" => .includeRules <$> argumentNonempty key argument
  | "range" => (fun (first, last) => .range first last) <$> argumentPair key argument
  | "line_continue" => readLineContinue key argument
  | "int" => .ok .integer
  | "float" => .ok .real
  | "hl_c_string_char" => .ok .escape
  | "detect_spaces" => .ok .spaces
  | "detect_identifier" => .ok .identifier
  | _ => .error .noKind

/-! ### Properties -/

private def foundValue (value : Value) : Found :=
  match value.untagged with
  | .null | .tagged _ _ => .unit
  | .bool truth => .bool truth
  | .number number => .number number
  | .text text => .text text
  | .sequence _ => .sequence
  | .mapping _ => .mapping

private def mismatched {α : Type} (expected : String) (value : Value) : Except RuleError α :=
  .error (.property (.wrongType (foundValue value) expected))

private def propertyText (value : Value) : Except RuleError String :=
  match value.untagged with
  | .text text => .ok text
  | _ => mismatched "a string" value

private def propertyBool (value : Value) : Except RuleError Bool :=
  match value.untagged with
  | .bool truth => .ok truth
  | _ => mismatched "a boolean" value

private def propertyWhole (value : Value) : Except RuleError Nat :=
  match value.untagged with
  | .number (.whole (.ofNat number)) => .ok number
  | .number (.whole number) =>
      .error (.property (.wrongValue (.number (.whole number)) "usize"))
  | _ => mismatched "usize" value

private def propertyOptional {α : Type} (read : Value → Except RuleError α) :
    Value → Except RuleError (Option α)
  | .null => .ok none
  | value => some <$> read value

def readProperty (rule : RuleDeclaration) (key : String) (value : Value) :
    Except RuleError RuleDeclaration :=
  match key with
  | "attribute" => return { rule with format := ← propertyOptional propertyText value }
  | "context" => return { rule with switch := ← propertyOptional propertyText value }
  | "lookahead" => return { rule with lookahead := ← propertyBool value }
  | "first_non_space" => return { rule with firstNonSpace := ← propertyBool value }
  | "column" => return { rule with column := ← propertyOptional propertyWhole value }
  | "begin_region" => return { rule with beginRegion := ← propertyOptional propertyText value }
  | "end_region" => return { rule with endRegion := ← propertyOptional propertyText value }
  | "insensitive" => return { rule with insensitive := ← propertyBool value }
  | _ => return rule

def readProperties (rule : RuleDeclaration) :
    List (Value × Value) → Except RuleError RuleDeclaration
  | [] => .ok rule
  | (key, value) :: rest =>
      match key.untagged with
      | .text key => do readProperties (← readProperty rule key value) rest
      | _ => mismatched "field identifier" key

/-- Reads a rule; what it looks for is judged before its properties. -/
def RuleDeclaration.ofValue : Value → Except RuleError RuleDeclaration
  | .mapping entries => do
      let found := ruleKindKeys.filterMap fun key =>
        (Value.find? key entries).map fun argument => (key, argument)
      match found with
      | [] => .error .noKind
      | [(key, argument)] => do
          let kind ← readKind key argument
          readProperties { kind } entries
      | _ => .error .severalKinds
  | _ => .error .notMapping

end SyntaxHighlight
