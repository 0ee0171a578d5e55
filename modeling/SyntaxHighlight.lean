import SyntaxHighlight.Decimal.Basic
import SyntaxHighlight.Decimal.Binary64
import SyntaxHighlight.Decimal.Real
import SyntaxHighlight.Document.Basic
import SyntaxHighlight.Document.Session
import SyntaxHighlight.Document.WordMotion
import SyntaxHighlight.File.Glob
import SyntaxHighlight.File.Path
import SyntaxHighlight.File.Tree
import SyntaxHighlight.Grammar.Definition
import SyntaxHighlight.Grammar.DefinitionReading
import SyntaxHighlight.Grammar.Reference
import SyntaxHighlight.Grammar.RuleReading
import SyntaxHighlight.Highlight.Folding
import SyntaxHighlight.Highlight.Line
import SyntaxHighlight.Highlight.Query
import SyntaxHighlight.Highlight.State
import SyntaxHighlight.Manager.Basic
import SyntaxHighlight.Manager.Config
import SyntaxHighlight.Manager.Repository
import SyntaxHighlight.Mode.Basic
import SyntaxHighlight.Mode.Compile
import SyntaxHighlight.Mode.Context
import SyntaxHighlight.Mode.Diagnostic
import SyntaxHighlight.Mode.Error
import SyntaxHighlight.Mode.Literal
import SyntaxHighlight.Mode.Pool
import SyntaxHighlight.Mode.Traits
import SyntaxHighlight.Override.Fields
import SyntaxHighlight.Override.FileStore
import SyntaxHighlight.Override.Persistence
import SyntaxHighlight.Override.Store
import SyntaxHighlight.Pattern.Basic
import SyntaxHighlight.Pattern.CharClass
import SyntaxHighlight.Pattern.ClassReading
import SyntaxHighlight.Pattern.Cluster
import SyntaxHighlight.Pattern.Escape
import SyntaxHighlight.Pattern.LineClass
import SyntaxHighlight.Pattern.LinePattern
import SyntaxHighlight.Pattern.LineProperty
import SyntaxHighlight.Pattern.LineReading
import SyntaxHighlight.Pattern.Matching
import SyntaxHighlight.Pattern.Reading
import SyntaxHighlight.Style.Color
import SyntaxHighlight.Style.Format
import SyntaxHighlight.Style.Schema
import SyntaxHighlight.Style.StyleClass
import SyntaxHighlight.Style.TextStyle
import SyntaxHighlight.Text.BinaryProperty
import SyntaxHighlight.Text.CaseFolding
import SyntaxHighlight.Text.Category
import SyntaxHighlight.Text.CodeRange
import SyntaxHighlight.Text.Dictionary
import SyntaxHighlight.Text.LineBreak
import SyntaxHighlight.Text.Lowercase
import SyntaxHighlight.Text.Numeral
import SyntaxHighlight.Text.Place
import SyntaxHighlight.Text.PrefixStore
import SyntaxHighlight.Text.Property
import SyntaxHighlight.Text.Quoted
import SyntaxHighlight.Text.Script
import SyntaxHighlight.Text.ScriptExtension
import SyntaxHighlight.Text.Whitespace
import SyntaxHighlight.Yaml.Block
import SyntaxHighlight.Yaml.Cursor
import SyntaxHighlight.Yaml.Decode
import SyntaxHighlight.Yaml.Node
import SyntaxHighlight.Yaml.Scalar
import SyntaxHighlight.Yaml.ScalarText
import SyntaxHighlight.Yaml.Token
import SyntaxHighlight.Yaml.Value
import SyntaxHighlight.Manager.Session
import SyntaxHighlight.Proofs.Mode.Closure
import SyntaxHighlight.Proofs.Highlight.Turn
import SyntaxHighlight.Proofs.Highlight.Tiling
import SyntaxHighlight.Proofs.Highlight.Reachable
import SyntaxHighlight.Proofs.Text.Lines
import SyntaxHighlight.Proofs.Document.Bookkeeping
import SyntaxHighlight.Proofs.Document.Faithful
import SyntaxHighlight.Proofs.Document.Run
import SyntaxHighlight.Proofs.Text.Dictionary
import SyntaxHighlight.Proofs.Override.Store
import SyntaxHighlight.Proofs.Manager.Styles
import SyntaxHighlight.Proofs.Manager.Instances
import SyntaxHighlight.Proofs.Manager.Freshness
import SyntaxHighlight.Proofs.Override.Group
import SyntaxHighlight.Proofs.Text.Numeral
import SyntaxHighlight.Proofs.Override.Fields
import SyntaxHighlight.Proofs.Override.RoundTrip
import SyntaxHighlight.Proofs.Document.Checked
import SyntaxHighlight.Proofs.Text.Index
import SyntaxHighlight.Proofs.Document.Queries
import SyntaxHighlight.Proofs.Highlight.Folding
import SyntaxHighlight.Proofs.Highlight.FoldingStart
import SyntaxHighlight.Proofs.Text.PrefixStore
import SyntaxHighlight.Proofs.Mode.Pool
import SyntaxHighlight.Proofs.Document.Cascade
import SyntaxHighlight.Proofs.Override.Isolation
import SyntaxHighlight.Proofs.Manager.Sharing
import SyntaxHighlight.Proofs.Manager.Lookup
import SyntaxHighlight.Proofs.Manager.Reload
import SyntaxHighlight.Proofs.Highlight.LineEnd
import SyntaxHighlight.Proofs.Highlight.Patience
import SyntaxHighlight.Proofs.Mode.Includes
import SyntaxHighlight.Proofs.Text.Division
import SyntaxHighlight.Proofs.Document.Position
import SyntaxHighlight.Proofs.Document.Editing
import SyntaxHighlight.Proofs.Document.LineReplacement
import SyntaxHighlight.Proofs.Grammar.ReferenceText
import SyntaxHighlight.Proofs.Mode.References
import SyntaxHighlight.Proofs.Text.Trimming
import SyntaxHighlight.Proofs.Override.Normalization
import SyntaxHighlight.Proofs.Override.Terminator
import SyntaxHighlight.Proofs.Override.Resolution
import SyntaxHighlight.Proofs.Highlight.ContextTrace
import SyntaxHighlight.Proofs.Document.EndOfLine
import SyntaxHighlight.Proofs.Highlight.DanglingReference
import SyntaxHighlight.Proofs.Mode.Encodings
import SyntaxHighlight.Proofs.Mode.Ownership
import SyntaxHighlight.Proofs.Mode.Regions
import SyntaxHighlight.Proofs.Document.WordMotion
import SyntaxHighlight.Proofs.Document.WordReturn
import SyntaxHighlight.Proofs.Mode.Literal
import SyntaxHighlight.Proofs.Mode.KeywordList
import SyntaxHighlight.Proofs.Style.Color
import SyntaxHighlight.Proofs.Style.FormatRegistry
import SyntaxHighlight.Proofs.Manager.Coherence
import SyntaxHighlight.Proofs.Mode.FormatNumbers
import SyntaxHighlight.Proofs.Mode.MatcherBounds
