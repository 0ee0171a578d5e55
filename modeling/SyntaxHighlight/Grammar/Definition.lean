/-
Syntax definitions as they are declared: the contexts of a language with their rules, the formats
of its text, and what else an editor wants to know of it.
-/

import SyntaxHighlight.Style.TextStyle

namespace SyntaxHighlight

/-! ### Rules and contexts -/

/-- What a rule looks for. -/
inductive RuleKind where
  | char (char : Char)
  | charPair (first second : Char)
  /-- One of the characters of a text. -/
  | anyChar (chars : String)
  | literal (text : String)
  /-- A text with delimiters on both sides. -/
  | word (text : String)
  | regex (pattern : String)
  /-- A word of a list. -/
  | keyword (list : String)
  | integer
  | real
  /-- An escape sequence of a string literal. -/
  | escape
  /-- Everything from one character to another. -/
  | range (first last : Char)
  /-- A character at the very end of the line. -/
  | lineContinue (char : Char)
  | spaces
  | identifier
  /-- The rules of another context. -/
  | includeRules (target : String)
deriving DecidableEq, Repr

/-- The word by which definitions call a kind, and the characters or texts that it looks for. -/
def RuleKind.words : RuleKind → List String
  | char sign => ["detect_char", .singleton sign]
  | charPair first second => ["detect_2chars", .singleton first, .singleton second]
  | anyChar signs => ["any_char", signs]
  | literal text => ["string", text]
  | word text => ["word", text]
  | regex pattern => ["regex", pattern]
  | keyword list => ["keyword", list]
  | integer => ["int"]
  | real => ["float"]
  | escape => ["hl_c_string_char"]
  | range first last => ["range", .singleton first, .singleton last]
  | lineContinue sign => ["line_continue", .singleton sign]
  | spaces => ["detect_spaces"]
  | identifier => ["detect_identifier"]
  | includeRules target => ["include_rules", target]

structure RuleDeclaration where
  kind : RuleKind
  /-- The name of the format of the match; otherwise it is the one of the context. -/
  format : Option String := none
  /-- The switch after the match. -/
  switch : Option String := none
  lookahead : Bool := false
  /-- Whether the rule is tried only where a line has its first character that is not white
  space. -/
  firstNonSpace : Bool := false
  column : Option Nat := none
  beginRegion : Option String := none
  endRegion : Option String := none
  insensitive : Bool := false
deriving DecidableEq, Repr

structure ContextDeclaration where
  name : String := ""
  /-- The name of the format of text that no rule matches. -/
  format : String := ""
  lineEnd : String := "#stay"
  /-- The switch after an empty line; otherwise the one after any line. -/
  lineEmpty : Option String := none
  /-- The switch where no rule matches. -/
  fallthrough : Option String := none
  rules : List RuleDeclaration := []
deriving DecidableEq, Repr

/-! ### Formats -/

structure FormatDeclaration where
  name : String := ""
  id : Option String := none
  styleClass : StyleClass := .normal
  style : TextStyle := {}
  spellcheck : Bool := true
deriving DecidableEq, Repr

/-! ### Comments, keywords and encodings -/

/-- Where the marker of a single-line comment goes. -/
inductive MarkerPosition where
  | startOfLine
  | afterWhitespace
deriving DecidableEq, Repr

structure SingleLineComment where
  marker : String := ""
  position : MarkerPosition := .startOfLine
deriving DecidableEq, Repr

structure MultiLineComment where
  startMarker : String := ""
  endMarker : String := ""
  /-- The name of the folding region of a comment. -/
  region : Option String := none
deriving DecidableEq, Repr

structure CommentSettings where
  singleLine : Option SingleLineComment := none
  multiLine : Option MultiLineComment := none
deriving DecidableEq, Repr

structure KeywordSettings where
  caseSensitive : Bool := true
  /-- Characters that are no delimiters here. -/
  weakDelimiters : String := ""
  /-- Characters that are delimiters here. -/
  additionalDelimiters : String := ""
  /-- Characters behind which a line may be broken; otherwise the delimiters. -/
  wrapDelimiters : Option String := none
deriving DecidableEq, Repr

/-- Whether a character with an encoding is inserted as it is or encoded. -/
inductive InsertionPolicy where
  | literal
  | encode
deriving DecidableEq, Repr

structure EncodingEntry where
  char : Char := ' '
  text : String := ""
deriving DecidableEq, Repr

structure EncodingSettings where
  policy : InsertionPolicy := .literal
  entries : List EncodingEntry := []
deriving DecidableEq, Repr

/-! ### Definitions -/

structure Definition where
  name : String := ""
  translatedName : Option String := none
  menuSection : String := ""
  translatedMenuSection : Option String := none
  hidden : Bool := false
  version : Nat := 1
  style : Option String := none
  author : Option String := none
  license : Option String := none
  /-- Patterns of the names of files in this language. -/
  extensions : List String := []
  indentationSensitive : Bool := false
  /-- The keyword lists by name; of several with one name the first counts. -/
  lists : List (String × List String) := []
  contexts : List ContextDeclaration := []
  formats : List FormatDeclaration := []
  comments : CommentSettings := {}
  keywords : KeywordSettings := {}
  /-- Patterns of lines that count as empty. -/
  emptyLines : List String := []
  encodings : EncodingSettings := {}
  /-- The file from which the definition was read. -/
  file : Option String := none
deriving DecidableEq, Repr

end SyntaxHighlight
