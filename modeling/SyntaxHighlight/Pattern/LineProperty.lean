/-
The properties of characters that line patterns name: binary properties, general categories, and
scripts. Ages, properties that only contribute to others, and those that divide texts into
clusters, words and sentences are not known.
-/

import SyntaxHighlight.Pattern.CharClass
import SyntaxHighlight.Text.BinaryProperty
import SyntaxHighlight.Text.Lowercase
import SyntaxHighlight.Text.ScriptExtension

namespace SyntaxHighlight.LinePattern

open SyntaxHighlight.Text
open SyntaxHighlight.Pattern (CharClass categoryClass? scriptClass?)

/-! ### Names -/

private def withoutPrefix : List Char → Bool × List Char
  | first :: second :: rest =>
      if first.toLower == 'i' && second.toLower == 's' then (true, rest)
      else (false, first :: second :: rest)
  | name => (false, name)

private def isKeyChar (char : Char) : Bool :=
  char.toNat < 0x80 && !(char == ' ' || char == '_' || char == '-')

/-- Names are told apart by their ASCII characters, marks between words apart, in either case and
without an "is" in front. -/
def nameKey (name : List Char) : String :=
  let (isPrefixed, name) := withoutPrefix name
  let key := (name.filter isKeyChar).map Char.toLower
  -- the short name of comments is no category behind a prefix
  if isPrefixed && key == ['c'] then "isc" else String.ofList key

/-- Scripts that have a second short name. -/
private def scriptAliases : List (String × String) := [("qaac", "copt"), ("qaai", "zinh")]

private def categoryAliases : List (String × String) :=
  [("cntrl", "cc"), ("combiningmark", "m"), ("digit", "nd"), ("punct", "p")]

private def unaliased (aliases : List (String × String)) (key : String) : String :=
  (aliases.lookup key).getD key

/-! ### Properties and their values -/

private def without (members others : CodeSet) : CharClass :=
  .both (.members members) (.except (.members others))

/-- Assigned characters that begin a cluster of their own. -/
private def graphemeBase : CharClass :=
  .both .assigned
    (.except (.members
      (control ++ format ++ privateUse ++ lineSeparator ++ paragraphSeparator ++ graphemeExtend)))

private def greaterProperties : List (List String × CharClass) :=
  [(["alpha", "alphabetic"], .members alphabetic), (["upper", "uppercase"], .members uppercase),
    (["lower", "lowercase"], .members lowercase), (["cased"], .members casedLetters),
    (["ci", "caseignorable"], .members caseIgnorableCharacters),
    (["space", "whitespace", "wspace"], .kind .space false), (["emoji"], .members emoji),
    (["epres", "emojipresentation"], .members emojiPresentation),
    (["extpict", "extendedpictographic"], .members extendedPictographic),
    (["ideo", "ideographic"], .members ideographic), (["math"], .members mathematical),
    (["dash"], .members dash), (["ids", "idstart"], .members identifierStart),
    (["idc", "idcontinue"], .members identifierContinue),
    (["xids", "xidstart"], without identifierStart incompatibleStart),
    (["xidc", "xidcontinue"], without identifierContinue incompatibleContinue),
    (["grbase", "graphemebase"], graphemeBase)]

private def binary? (key : String) : Option CharClass :=
  let named := fun (entry : List String × CharClass) => entry.1.contains key
  match greaterProperties.find? named with
  | some (_, members) => some members
  | none =>
      (lesserProperties.find? fun (names, _) => names.contains key).map fun (_, set) => .members set

/-- No character is a surrogate, so that there is no class of these. -/
private def category? (key : String) : Option CharClass :=
  match key with
  | "cs" | "surrogate" => none
  | "ascii" => some (.range '\x00' '\x7f')
  | _ => categoryClass? (unaliased categoryAliases key)

private def script? (key : String) : Option CharClass :=
  scriptClass? scripts (unaliased scriptAliases key)

private def scriptExtension? (key : String) : Option CharClass :=
  (scriptClass? scriptExtensions (unaliased scriptAliases key)).or (script? key)

/-- The characters that have the property, category or script of a name. -/
def namedProperty? (name : List Char) : Option CharClass :=
  let key := nameKey name
  (binary? key).or ((category? key).or (script? key))

/-- The characters for which a property has a value. -/
def valuedProperty? (property value : List Char) : Option CharClass :=
  let key := nameKey value
  match nameKey property with
  | "gc" | "generalcategory" => category? key
  | "sc" | "script" => script? key
  | "scx" | "scriptextensions" => scriptExtension? key
  | _ => none

/-! ### Texts between braces -/

/-- What stands in front of the first mark in a text and what stands behind it. -/
private def splitAtFirst? (mark : List Char) : List Char → Option (List Char × List Char)
  | [] => none
  | char :: rest =>
      if mark.isPrefixOf (char :: rest) then some ([], (char :: rest).drop mark.length)
      else (splitAtFirst? mark rest).map fun (front, back) => (char :: front, back)

/-- The characters that a text between braces describes, and whether it means all others. -/
def bracedProperty? (text : List Char) : Option (CharClass × Bool) :=
  match splitAtFirst? ['!', '='] text with
  | some (property, value) => (valuedProperty? property value).map (·, true)
  | none =>
      match (splitAtFirst? [':'] text).or (splitAtFirst? ['='] text) with
      | some (property, value) => (valuedProperty? property value).map (·, false)
      | none => (namedProperty? text).map (·, false)

end SyntaxHighlight.LinePattern
