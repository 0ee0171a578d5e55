/-
The settings of a highlighting manager.
-/

import SyntaxHighlight.File.Tree
import SyntaxHighlight.Mode.Basic
import SyntaxHighlight.Yaml.Decode

namespace SyntaxHighlight

open SyntaxHighlight.Yaml

structure Config where
  /-- The directories with syntax definitions. -/
  searchPaths : List String := []
  /-- The schema that stands in for unknown ones. -/
  defaultSchema : String := "Normal"
  maxDepth : Nat := defaultMaxDepth
  /-- The file with the overrides; without one they are kept in memory. -/
  storePath : Option String := none
deriving DecidableEq, Repr

namespace Config

private def decodePath : Decoder String := decodeTextAs "path string"

private def decodeConfig : Decoder Config :=
  decodeRecord "struct EngineConfig"
    [ .defaulted "search_paths" (decodeList decodePath) fun searchPaths config =>
        { config with searchPaths },
      .defaulted "default_schema" decodeText fun defaultSchema config =>
        { config with defaultSchema },
      .defaulted "max_context_depth" (decodeWhole "usize" 64) fun maxDepth config =>
        { config with maxDepth },
      .defaulted "override_store" (decodeOptional decodePath) fun storePath config =>
        { config with storePath } ]
    {}

/-- Reads settings from their YAML text. -/
def read (text : String) : Except HighlightError Config :=
  (decodeDocument decodeConfig text).mapError HighlightError.unreadable

def load (files : FileTree) (path : String) : Except HighlightError Config :=
  match files.read path with
  | .ok text => read text
  | .error error => .error (.file error)

end Config

end SyntaxHighlight
