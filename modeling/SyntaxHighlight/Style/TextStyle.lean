/-
Partial styles, of which only the properties that are set say anything, and the named attributes
that carry them.
-/

import SyntaxHighlight.Style.Color
import SyntaxHighlight.Style.StyleClass

namespace SyntaxHighlight

structure TextStyle where
  foreground : Option Color := none
  selectedForeground : Option Color := none
  background : Option Color := none
  selectedBackground : Option Color := none
  bold : Option Bool := none
  italic : Option Bool := none
  underline : Option Bool := none
  strikeout : Option Bool := none
  fontFamily : Option String := none
deriving DecidableEq, Repr

namespace TextStyle

/-- Properties that the style sets win, the others come from the base. -/
def inheriting (style base : TextStyle) : TextStyle where
  foreground := style.foreground.or base.foreground
  selectedForeground := style.selectedForeground.or base.selectedForeground
  background := style.background.or base.background
  selectedBackground := style.selectedBackground.or base.selectedBackground
  bold := style.bold.or base.bold
  italic := style.italic.or base.italic
  underline := style.underline.or base.underline
  strikeout := style.strikeout.or base.strikeout
  fontFamily := style.fontFamily.or base.fontFamily

def isEmpty (style : TextStyle) : Bool := style = {}

end TextStyle

/-- What can be edited of a format: its style class and the properties that it sets itself. -/
structure Attribute where
  name : String
  styleClass : StyleClass
  style : TextStyle := {}
  skipsSpellChecking : Bool := false
deriving DecidableEq, Repr

end SyntaxHighlight
