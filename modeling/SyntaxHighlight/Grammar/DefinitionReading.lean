/-
Reading a syntax definition from its YAML text: the fields of every record, which of them are
required, and what the others are without being written.
-/

import SyntaxHighlight.Grammar.RuleReading

namespace SyntaxHighlight

open SyntaxHighlight.Yaml

private def optionalText : Decoder (Option String) := decodeOptional decodeText

private def optionalBool : Decoder (Option Bool) := decodeOptional decodeBool

/-! ### Contexts -/

/-- Reads a rule; a rule without a value fails like one that is no mapping. -/
def decodeRule : Decoder RuleDeclaration :=
  decodeChecked (fun _ node => .ok node) fun node =>
    match Value.ofNode? node with
    | none => .error RuleError.notMapping.message
    | some value => (RuleDeclaration.ofValue value).mapError RuleError.message

def decodeContext : Decoder ContextDeclaration :=
  decodeRecord "struct RawContext"
    [ .needed "name" decodeText fun name context => { context with name },
      .needed "attribute" decodeText fun format context => { context with format },
      .defaulted "line_end" decodeText fun lineEnd context => { context with lineEnd },
      .defaulted "line_empty" optionalText fun lineEmpty context => { context with lineEmpty },
      .defaulted "fallthrough" optionalText fun fallthrough context =>
        { context with fallthrough },
      .defaulted "rules" (decodeList decodeRule) fun rules context => { context with rules } ]
    {}

/-! ### Formats -/

private def optionalColor : Decoder (Option Color) :=
  decodeOptional (decodeChecked decodeText fun text =>
    (Color.read text).mapError Color.ReadError.message)

private def styleField {α : Type} (name : String) (decode : Decoder α)
    (set : α → TextStyle → TextStyle) : RecordField FormatDeclaration :=
  .defaulted name decode fun value format => { format with style := set value format.style }

private def decodeFormat : Decoder FormatDeclaration :=
  decodeRecord "struct RawFormat"
    [ .needed "name" decodeText fun name format => { format with name },
      .defaulted "id" optionalText fun id format => { format with id },
      .defaulted "style" (decodeVariant StyleClass.named) fun styleClass format =>
        { format with styleClass },
      styleField "color" optionalColor fun foreground style => { style with foreground },
      styleField "selected_color" optionalColor fun selectedForeground style =>
        { style with selectedForeground },
      styleField "background_color" optionalColor fun background style =>
        { style with background },
      styleField "selected_background_color" optionalColor fun selectedBackground style =>
        { style with selectedBackground },
      styleField "bold" optionalBool fun bold style => { style with bold },
      styleField "italic" optionalBool fun italic style => { style with italic },
      styleField "underline" optionalBool fun underline style => { style with underline },
      styleField "strikeout" optionalBool fun strikeout style => { style with strikeout },
      styleField "font_family" optionalText fun fontFamily style => { style with fontFamily },
      .defaulted "spellcheck" decodeBool fun spellcheck format => { format with spellcheck } ]
    {}

/-! ### Comments, keywords and encodings -/

private def markerPositions : List (String × MarkerPosition) :=
  [("start_of_line", .startOfLine), ("after_whitespace", .afterWhitespace)]

private def decodeSingleLineComment : Decoder SingleLineComment :=
  decodeRecord "struct SingleLineComment"
    [ .needed "marker" decodeText fun marker comment => { comment with marker },
      .defaulted "position" (decodeVariant markerPositions) fun position comment =>
        { comment with position } ]
    {}

private def decodeMultiLineComment : Decoder MultiLineComment :=
  decodeRecord "struct MultiLineComment"
    [ .needed "start" decodeText fun startMarker comment => { comment with startMarker },
      .needed "end" decodeText fun endMarker comment => { comment with endMarker },
      .defaulted "region" optionalText fun region comment => { comment with region } ]
    {}

private def decodeComments : Decoder CommentSettings :=
  decodeRecord "struct CommentSettings"
    [ .defaulted "single_line" (decodeOptional decodeSingleLineComment) fun singleLine comments =>
        { comments with singleLine },
      .defaulted "multi_line" (decodeOptional decodeMultiLineComment) fun multiLine comments =>
        { comments with multiLine } ]
    {}

private def decodeKeywords : Decoder KeywordSettings :=
  decodeRecord "struct KeywordSettings"
    [ .defaulted "case_sensitive" decodeBool fun caseSensitive keywords =>
        { keywords with caseSensitive },
      .defaulted "weak_deliminator" decodeText fun weakDelimiters keywords =>
        { keywords with weakDelimiters },
      .defaulted "additional_deliminator" decodeText fun additionalDelimiters keywords =>
        { keywords with additionalDelimiters },
      .defaulted "word_wrap_deliminator" optionalText fun wrapDelimiters keywords =>
        { keywords with wrapDelimiters } ]
    {}

private def decodeEncodingEntry : Decoder EncodingEntry :=
  decodeRecord "struct CharacterEncoding"
    [ .needed "char" decodeChar fun char entry => { entry with char },
      .needed "string" decodeText fun text entry => { entry with text } ]
    {}

private def insertionPolicies : List (String × InsertionPolicy) :=
  [("literal", .literal), ("encode", .encode)]

private def decodeEncodings : Decoder EncodingSettings :=
  decodeRecord "struct EncodingSettings"
    [ .defaulted "policy" (decodeVariant insertionPolicies) fun policy encodings =>
        { encodings with policy },
      .defaulted "entries" (decodeList decodeEncodingEntry) fun entries encodings =>
        { encodings with entries } ]
    {}

/-! ### Definitions -/

/-- Entries of which each key is kept once, with its last value. -/
def lastOfEach {α : Type} (entries : List (String × α)) : List (String × α) :=
  entries.foldr (fun entry kept => if kept.any (·.1 == entry.1) then kept else entry :: kept) []

private def decodeLists : Decoder (List (String × List String)) := fun path node =>
  lastOfEach <$> decodeMap (decodeList decodeText) path node

private def textList : Decoder (List String) := decodeList decodeText

def decodeDefinition : Decoder Definition :=
  decodeRecord "struct SyntaxDefinition"
    [ .needed "name" decodeText fun name definition => { definition with name },
      .defaulted "translated_name" optionalText fun translatedName definition =>
        { definition with translatedName },
      .defaulted "section" decodeText fun menuSection definition =>
        { definition with menuSection },
      .defaulted "translated_section" optionalText fun translatedMenuSection definition =>
        { definition with translatedMenuSection },
      .defaulted "hidden" decodeBool fun hidden definition => { definition with hidden },
      .defaulted "version" (decodeWhole "u32" 32) fun version definition =>
        { definition with version },
      .defaulted "style" optionalText fun style definition => { definition with style },
      .defaulted "author" optionalText fun author definition => { definition with author },
      .defaulted "license" optionalText fun license definition => { definition with license },
      .defaulted "extensions" textList fun extensions definition =>
        { definition with extensions },
      .defaulted "indentation_sensitive" decodeBool fun indentationSensitive definition =>
        { definition with indentationSensitive },
      .defaulted "lists" decodeLists fun lists definition => { definition with lists },
      .needed "contexts" (decodeList decodeContext) fun contexts definition =>
        { definition with contexts },
      .defaulted "formats" (decodeList decodeFormat) fun formats definition =>
        { definition with formats },
      .defaulted "comments" decodeComments fun comments definition =>
        { definition with comments },
      .defaulted "keywords" decodeKeywords fun keywords definition =>
        { definition with keywords },
      .defaulted "empty_lines" textList fun emptyLines definition =>
        { definition with emptyLines },
      .defaulted "encodings" decodeEncodings fun encodings definition =>
        { definition with encodings } ]
    {}

/-- Reads a definition from its YAML text. -/
def Definition.read (text : String) : Except ReadError Definition :=
  decodeDocument decodeDefinition text

end SyntaxHighlight
