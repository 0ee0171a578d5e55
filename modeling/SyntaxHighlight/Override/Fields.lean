/-
Overrides of attributes as lists of fields: the number of the style class, colors, marks for
truth values, and the family of the font, in a fixed order with a terminator behind them. A blank
field leaves its property to the schema.
-/

import SyntaxHighlight.Style.Schema

namespace SyntaxHighlight

open SyntaxHighlight.Text

namespace Override

/-- The number of fields before the terminator. -/
def fieldCount : Nat := 10

def terminator : String := "---"

/-- A field without the white space around it; missing fields are blank. -/
def field (fields : List String) (index : Nat) : String :=
  trimString ((fields[index]?).getD "")

def readClass (text : String) : StyleClass :=
  (((readUnsigned? 10 text.toList).filter (· < wordRange 64)).bind StyleClass.ofIndex?).getD .normal

def readColor (text : String) : Option Color := if text.isEmpty then none else Color.ofOpaqueText? text

def readFlag (text : String) : Option Bool := if text.isEmpty then none else some (text != "0")

def readFont (text : String) : Option String :=
  if text.isEmpty || text == terminator then none else some text

/-- The attribute with everything but its name and its spell checking taken from fields. -/
def apply (attr : Attribute) (fields : List String) : Attribute where
  name := attr.name
  styleClass := readClass (field fields 0)
  style :=
    { foreground := readColor (field fields 1)
      selectedForeground := readColor (field fields 2)
      bold := readFlag (field fields 3)
      italic := readFlag (field fields 4)
      strikeout := readFlag (field fields 5)
      underline := readFlag (field fields 6)
      background := readColor (field fields 7)
      selectedBackground := readColor (field fields 8)
      fontFamily := readFont (field fields 9) }
  skipsSpellChecking := attr.skipsSpellChecking

def flagText (flag : Bool) : String := if flag then "1" else "0"

/-- What is written for a property: its own value, or the default if that is asked for. -/
def encodeProperty {α : Type} (write : α → String) (withDefaults : Bool)
    (value default : Option α) : String :=
  match value with
  | some value => write value
  | none => if withDefaults then (default.map write).getD "" else ""

/-- The fields of an attribute, with the defaults of a schema in place of what is not set, if
that is asked for. -/
def encode (attr : Attribute) (schema : Schema) (withDefaults : Bool) : List String :=
  let style := attr.style
  let defaults := schema.resolve { name := "", styleClass := attr.styleClass }
  let color := encodeProperty Color.opaqueText withDefaults
  let flag (value : Option Bool) (default : Bool) :=
    encodeProperty flagText withDefaults value (some default)
  [ toString attr.styleClass.index,
    color style.foreground (some defaults.foreground),
    color style.selectedForeground (some defaults.selectedForeground),
    flag style.bold defaults.bold,
    flag style.italic defaults.italic,
    flag style.strikeout defaults.strikeout,
    flag style.underline defaults.underline,
    color style.background defaults.background,
    color style.selectedBackground defaults.selectedBackground,
    encodeProperty id withDefaults style.fontFamily defaults.fontFamily,
    terminator ]

end Override

end SyntaxHighlight
