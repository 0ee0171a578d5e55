/-
What an editor wants to know of a language besides its colors: delimiters of words, comment
markers, lines that count as empty, and characters with an encoding.
-/

import SyntaxHighlight.Grammar.Definition
import SyntaxHighlight.Pattern.Matching
import SyntaxHighlight.Text.Dictionary
import SyntaxHighlight.Text.PrefixStore

namespace SyntaxHighlight

open SyntaxHighlight.Text

/-- The delimiters of words where a definition says nothing else. -/
def standardDelimiters : List Char := " \t.():!+,-<=>%&*/;?[]^\x7b|\x7d~\\".toList

/-- The name of the traits that belong to no definition. -/
def defaultTraitsName : String := "none"

structure CommentMarkers where
  start : String := ""
  finish : String := ""
  singleLine : String := ""
  position : MarkerPosition := .startOfLine
deriving DecidableEq, Repr

namespace CommentMarkers

def hasSingleLine (markers : CommentMarkers) : Bool := !markers.singleLine.isEmpty

def hasMultiLine (markers : CommentMarkers) : Bool :=
  !markers.start.isEmpty && !markers.finish.isEmpty

end CommentMarkers

structure Traits where
  delimiters : List Char := standardDelimiters
  /-- Characters behind which a line may be broken. -/
  wrapDelimiters : List Char := standardDelimiters
  comments : CommentMarkers := {}
  /-- The number of the folding region of comments; zero is none. -/
  commentRegion : Int := 0
  /-- What each encoding stands for. -/
  charOf : Dictionary String Char := []
  /-- How each character is encoded. -/
  encodingOf : Dictionary Char String := []
  /-- The texts of all encodings. -/
  encodings : PrefixStore := {}
  policy : InsertionPolicy := .literal
  /-- The texts of the patterns of lines that count as empty. -/
  emptyLines : List String := []
deriving Repr

namespace Traits

/-- The standard delimiters without the weak ones, then the additional ones. -/
def delimitersOf (settings : KeywordSettings) : List Char :=
  let kept := standardDelimiters.filter fun char => !settings.weakDelimiters.toList.contains char
  settings.additionalDelimiters.toList.foldl
    (fun delimiters char => if delimiters.contains char then delimiters else delimiters ++ [char])
    kept

def commentMarkers (settings : CommentSettings) : CommentMarkers where
  start := (settings.multiLine.map (·.startMarker)).getD ""
  finish := (settings.multiLine.map (·.endMarker)).getD ""
  singleLine := (settings.singleLine.map (·.marker)).getD ""
  position := (settings.singleLine.map (·.position)).getD .startOfLine

def addEncoding (traits : Traits) (text : String) (char : Char) : Traits :=
  { traits with
    encodings := traits.encodings.add text.toList
    charOf := traits.charOf.set text char
    encodingOf := traits.encodingOf.set char text }

/-- The traits of a definition, given the numbers of folding regions. -/
def ofDefinition (definition : Definition) (region? : String → Option Int) : Traits :=
  let delimiters := delimitersOf definition.keywords
  let traits : Traits :=
    { delimiters
      wrapDelimiters := (definition.keywords.wrapDelimiters.map String.toList).getD delimiters
      comments := commentMarkers definition.comments
      commentRegion :=
        ((definition.comments.multiLine.bind (·.region)).bind region?).getD 0
      policy := definition.encodings.policy
      emptyLines := definition.emptyLines }
  definition.encodings.entries.foldl
    (fun traits entry => traits.addEncoding entry.text entry.char) traits

/-- The patterns of lines that count as empty. Texts that cannot be read are left out. -/
def linePatterns (traits : Traits) (engine : Pattern.Engine := .backtracking) :
    List (List Char → Bool) :=
  traits.emptyLines.filterMap engine.readLine?

/-- Whether a line matches one of the patterns of lines that count as empty. -/
def matchesEmptyLine (traits : Traits) (line : List Char)
    (engine : Pattern.Engine := .backtracking) : Bool :=
  (traits.linePatterns engine).any fun isMatch => isMatch line

end Traits

end SyntaxHighlight
