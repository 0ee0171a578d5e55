/-
Color schemas: a style for every class of text, and two colors for text that sets none. Resolving
an attribute takes what it sets itself, then what the schema sets for its class.
-/

import SyntaxHighlight.Style.TextStyle

namespace SyntaxHighlight

/-- A style with nothing left to inherit. -/
structure ResolvedStyle where
  name : String
  styleClass : StyleClass
  foreground : Color
  selectedForeground : Color
  background : Option Color
  selectedBackground : Option Color
  bold : Bool
  italic : Bool
  underline : Bool
  strikeout : Bool
  fontFamily : Option String
  skipsSpellChecking : Bool
deriving DecidableEq, Repr

structure Schema where
  name : String
  foreground : Color
  selectedForeground : Color
  /-- The styles of classes; of several for one class the first counts. -/
  defaults : List (StyleClass × TextStyle) := []
deriving DecidableEq, Repr

namespace Schema

def renamed (schema : Schema) (name : String) : Schema := { schema with name }

def setDefault (schema : Schema) (styleClass : StyleClass) (style : TextStyle) : Schema :=
  { schema with defaults := (styleClass, style) :: schema.defaults }

/-- The style of a class, which is empty unless the schema sets it. -/
def default (schema : Schema) (styleClass : StyleClass) : TextStyle :=
  (schema.defaults.lookup styleClass).getD {}

def resolve (schema : Schema) (attr : Attribute) : ResolvedStyle :=
  let style := attr.style.inheriting (schema.default attr.styleClass)
  { name := attr.name
    styleClass := attr.styleClass
    foreground := style.foreground.getD schema.foreground
    selectedForeground := style.selectedForeground.getD schema.selectedForeground
    background := style.background
    selectedBackground := style.selectedBackground
    bold := style.bold.getD false
    italic := style.italic.getD false
    underline := style.underline.getD false
    strikeout := style.strikeout.getD false
    fontFamily := style.fontFamily
    skipsSpellChecking := attr.skipsSpellChecking }

/-! ### Built-in schemas -/

private def plain (code : UInt32) : TextStyle := { foreground := some ⟨code⟩ }

private def bold (code : UInt32) : TextStyle := { plain code with bold := some true }

private def italic (code : UInt32) : TextStyle := { plain code with italic := some true }

private def normalDefaults : List (StyleClass × TextStyle) :=
  [ (.normal, plain 0x1F1C1B), (.keyword, bold 0x1F1C1B), (.function, plain 0x644A9B),
    (.variableName, plain 0x0057AE), (.controlFlow, bold 0x1F1C1B), (.operator, plain 0x1F1C1B),
    (.builtIn, plain 0x644A9B), (.extension, bold 0x0095FF), (.preprocessor, plain 0x006E28),
    (.attributeName, plain 0x0057AE), (.char, plain 0x924C9D), (.specialChar, plain 0x3DAEE9),
    (.string, plain 0xBF0303), (.verbatimString, plain 0xBF0303), (.specialString, plain 0xFF5500),
    (.importName, plain 0xFF5500), (.dataType, plain 0x0057AE), (.decimal, plain 0xB08000),
    (.otherBase, plain 0xB08000), (.float, plain 0xB08000), (.constant, bold 0xAA5500),
    (.comment, italic 0x898887), (.documentation, plain 0x607880), (.annotated, plain 0xCA60CA),
    (.commentVariable, plain 0x0095FF),
    (.regionMarker, { plain 0x0057AE with background := some ⟨0xE0E9F8⟩ }),
    (.information, plain 0xB08000), (.warning, plain 0xBF0303),
    (.alert, { bold 0xBF0303 with background := some ⟨0xF7E6E6⟩ }), (.others, plain 0x006E28),
    (.error, { plain 0xBF0303 with underline := some true }) ]

private def darkDefaults : List (StyleClass × TextStyle) :=
  [ (.keyword, bold 0xCFCFC2), (.controlFlow, bold 0xFDBC4B), (.function, plain 0x8E44AD),
    (.variableName, plain 0x27AEAE), (.dataType, plain 0x2980B9), (.decimal, plain 0xF67400),
    (.otherBase, plain 0xF67400), (.float, plain 0xF67400), (.char, plain 0x3DAEE9),
    (.string, plain 0xF44F4F), (.preprocessor, plain 0x27AE60), (.others, plain 0x27AE60),
    (.comment, { plain 0x7A7C7D with italic := some true }),
    (.error, { plain 0xDA4453 with underline := some true }),
    (.alert, { bold 0x95DA4C with background := some ⟨0x4D1F24⟩ }) ]

/-- The light schema. -/
def normal : Schema where
  name := "Normal"
  foreground := ⟨0x1F1C1B⟩
  selectedForeground := ⟨0xFFFFFF⟩
  defaults := normalDefaults

def dark : Schema where
  name := "Dark"
  foreground := ⟨0xCFCFC2⟩
  selectedForeground := ⟨0xFFFFFF⟩
  defaults := darkDefaults

end Schema

end SyntaxHighlight
