/-
Making modes out of definitions: contexts, formats and folding regions are numbered, references
are resolved, and included rules are put in place.
-/

import SyntaxHighlight.Mode.Basic
import SyntaxHighlight.Mode.Error
import SyntaxHighlight.Mode.Pool

namespace SyntaxHighlight

open SyntaxHighlight.Text

/-! ### Numbers of contexts, formats and regions -/

/-- A context by its definition and its name there. -/
structure ContextName where
  definition : String
  context : String
deriving DecidableEq, Repr

/-- The names of all contexts, which are numbered from one on. -/
def contextNames (definitions : List Definition) : List ContextName :=
  definitions.flatMap fun definition =>
    definition.contexts.map fun context => ⟨definition.name, context.name⟩

/-- The numbers of the initial contexts of definitions, given the first number. -/
def initialContexts : (first : Nat) → List Definition → List (String × Nat)
  | _, [] => []
  | first, definition :: rest =>
      (definition.name, first) :: initialContexts (first + definition.contexts.length) rest

/-- What the parts of definitions are called by, with the numbers for which the names stand. -/
structure Numbering where
  contexts : List ContextName
  /-- The initial contexts; of several for one name the last counts. -/
  initials : List (String × Nat)
  /-- Formats by definition and name; of several the first counts. -/
  formats : List ((String × String) × Nat)
  /-- The names of folding regions, which are numbered from one on. -/
  regions : List String
deriving Repr

namespace Numbering

def context? (numbering : Numbering) (name : ContextName) : Option Nat :=
  (numbering.contexts.findIdx? (· = name)).map (· + 1)

def initial? (numbering : Numbering) (definition : String) : Option Nat :=
  numbering.initials.reverse.lookup definition

/-- The context to which a reference in a definition leads. -/
def resolve? (numbering : Numbering) (definition reference : String) : Option Nat :=
  match Reference.ofText reference with
  | .here context => numbering.context? ⟨definition, context⟩
  | .initial other => numbering.initial? other
  | .elsewhere context other => numbering.context? ⟨other, context⟩

/-- The number of a format; unknown formats are taken for the first one. -/
def format (numbering : Numbering) (definition name : String) : Nat :=
  (numbering.formats.lookup (definition, name)).getD 0

/-- The number of a folding region, of 16 bits. -/
def region? (numbering : Numbering) (name : String) : Option Nat :=
  (numbering.regions.findIdx? (· = name)).map fun index => (index + 1) % wordRange 16

end Numbering

def regionNames (definition : Definition) : List String :=
  (definition.contexts.flatMap fun context =>
      context.rules.flatMap fun rule => rule.beginRegion.toList ++ rule.endRegion.toList) ++
    (definition.comments.multiLine.bind (·.region)).toList

/-- Registers formats and notes the number of each name. -/
def registerFormats (definition : String) (registry : FormatRegistry)
    (numbers : List ((String × String) × Nat)) :
    List Format → FormatRegistry × List ((String × String) × Nat)
  | [] => (registry, numbers)
  | format :: rest =>
      let (registry, index) := registry.register format
      registerFormats definition registry (numbers ++ [((definition, format.name), index)]) rest

/-- The formats that a definition declares; the main definition has at least one. -/
def declaredFormats (isMain : Bool) (definition : Definition) : List Format :=
  if isMain && definition.formats.isEmpty then [.normalText definition.name]
  else definition.formats.map (.ofDeclaration definition.name)

def registerAll (main : Definition) (others : List Definition) :
    FormatRegistry × List ((String × String) × Nat) :=
  others.foldl
    (fun (registry, numbers) definition =>
      registerFormats definition.name registry numbers (declaredFormats false definition))
    (registerFormats main.name {} [] (declaredFormats true main))

/-! ### Switches -/

def dropStart? (start text : List Char) : Option (List Char) :=
  if start.isPrefixOf text then some (text.drop start.length) else none

/-- The pops at the start of a switch, and what follows them. -/
def countPops : (fuel : Nat) → List Char → Nat × List Char
  | 0, text => (0, text)
  | fuel + 1, text =>
      match dropStart? "#pop".toList text with
      | none => (0, text)
      | some rest =>
          let (pops, rest) := countPops fuel rest
          (pops + 1, rest)

def dropBang : List Char → List Char
  | '!' :: rest => rest
  | text => text

/-- Reads a switch of a context, and tells of a reference that leads nowhere. -/
def compileSwitch (numbering : Numbering) (definition context text : String) :
    Switch × List Diagnostic :=
  let text := trim text.toList
  let (pops, rest) := countPops text.length text
  let reference := String.ofList (dropBang rest)
  if reference.isEmpty || reference == "#stay" then ({ pops }, [])
  else
    match numbering.resolve? definition reference with
    | some id => ({ pops, target := some (.context id) }, [])
    | none =>
        ({ pops, target := some (.unresolved reference) },
          [.danglingReference context reference])

def compileOptional (compile : String → Switch × List Diagnostic) :
    Option String → Option Switch × List Diagnostic
  | none => (none, [])
  | some text =>
      let (switch, diagnostics) := compile text
      (some switch, diagnostics)

/-! ### Rules -/

/-- The words of a list, in lower case where case does not matter. -/
def keywordWords (insensitive : Bool) (words : List String) : List (List Char) :=
  firstOfEach <| words.map fun word =>
    if insensitive then lowercaseText word.toList else word.toList

def compileRegex (pattern : String) (insensitive : Bool) :
    Except HighlightError Matcher :=
  match Pattern.read pattern insensitive with
  | .ok pattern => .ok (.regex pattern)
  | .error error => .error (.regexInvalid pattern error)

def compileKeyword (definition : Definition) (list : String) (insensitive : Bool) :
    Except HighlightError Matcher :=
  match definition.lists.lookup list with
  | none => .error (.unknownKeywordList list)
  | some words =>
      let insensitive := insensitive || !definition.keywords.caseSensitive
      .ok (.keyword (keywordWords insensitive words) insensitive)

/-- One entry of the rules of a context before included rules are put in place. -/
inductive RuleEntry where
  | rule (rule : Rule)
  | included (context : Nat)
deriving Repr

def compileRule (numbering : Numbering) (definition : Definition) (context : String)
    (declaration : RuleDeclaration) (matcher : Matcher) : Rule × List Diagnostic :=
  let (switch, diagnostics) :=
    compileOptional (compileSwitch numbering definition.name context) declaration.switch
  ({ matcher
     format := declaration.format.map (numbering.format definition.name)
     switch := switch.getD {}
     lookahead := declaration.lookahead
     firstNonSpace := declaration.firstNonSpace
     column := declaration.column
     beginRegion := declaration.beginRegion.bind numbering.region?
     endRegion := declaration.endRegion.bind numbering.region? },
    diagnostics)

def compileInclude (numbering : Numbering) (definition context target : String) :
    List RuleEntry × List Diagnostic :=
  match numbering.resolve? definition target with
  | some id => ([.included id], [])
  | none => ([], [.danglingReference context target])

def compileEntry (numbering : Numbering) (definition : Definition) (context : String)
    (declaration : RuleDeclaration) : Except HighlightError (List RuleEntry × List Diagnostic) :=
  let withMatcher (matcher : Matcher) : List RuleEntry × List Diagnostic :=
    let (rule, diagnostics) := compileRule numbering definition context declaration matcher
    ([.rule rule], diagnostics)
  match declaration.kind with
  | .char char => .ok (withMatcher (.char char))
  | .charPair first second => .ok (withMatcher (.charPair first second))
  | .anyChar chars => .ok (withMatcher (.anyChar chars.toList))
  | .literal text => .ok (withMatcher (.literal text.toList declaration.insensitive))
  | .word text => .ok (withMatcher (.word text.toList declaration.insensitive))
  | .regex pattern => withMatcher <$> compileRegex pattern declaration.insensitive
  | .keyword list => withMatcher <$> compileKeyword definition list declaration.insensitive
  | .integer => .ok (withMatcher .integer)
  | .real => .ok (withMatcher .real)
  | .escape => .ok (withMatcher .escape)
  | .range first last => .ok (withMatcher (.range first last))
  | .lineContinue char => .ok (withMatcher (.lineContinue char))
  | .spaces => .ok (withMatcher .spaces)
  | .identifier => .ok (withMatcher .identifier)
  | .includeRules target => .ok (compileInclude numbering definition.name context target)

/-! ### Contexts -/

/-- A context whose included rules are not yet in place. -/
structure ContextDraft where
  context : Context
  entries : List RuleEntry
  diagnostics : List Diagnostic
deriving Repr

def compileContext (numbering : Numbering) (delimiters : List Char)
    (definition : Definition) (id : Nat) (declaration : ContextDeclaration) :
    Except HighlightError ContextDraft := do
  let compile := compileSwitch numbering definition.name declaration.name
  let (lineEnd, endDiagnostics) := compile declaration.lineEnd
  let (lineEmpty, emptyDiagnostics) := compileOptional compile declaration.lineEmpty
  let (fallthrough, fallthroughDiagnostics) := compileOptional compile declaration.fallthrough
  let compiled ← declaration.rules.mapM (compileEntry numbering definition declaration.name)
  return {
    context :=
      { id
        name := declaration.name
        definition := definition.name
        format := numbering.format definition.name declaration.format
        lineEnd
        lineEmpty
        fallthrough := fallthrough.filter fun switch => !switch.isStay
        delimiters
        caseSensitive := definition.keywords.caseSensitive }
    entries := compiled.flatMap Prod.fst
    diagnostics :=
      endDiagnostics ++ emptyDiagnostics ++ fallthroughDiagnostics ++ compiled.flatMap Prod.snd }

/-- Every context declaration with its definition. -/
def declaredContexts (definitions : List Definition) : List (Definition × ContextDeclaration) :=
  definitions.flatMap fun definition =>
    definition.contexts.map fun declaration => (definition, declaration)

def compileContexts (numbering : Numbering) (delimitersOf : String → List Char) :
    (id : Nat) → List (Definition × ContextDeclaration) →
      Except HighlightError (List ContextDraft)
  | _, [] => .ok []
  | id, (definition, declaration) :: rest => do
      let draft ←
        compileContext numbering (delimitersOf definition.name) definition id declaration
      return draft :: (← compileContexts numbering delimitersOf (id + 1) rest)

/-! ### Included rules -/

def cycleError (names : List ContextName) (id : Nat) : HighlightError :=
  match names[id]? with
  | some name => .includeCycle name.context name.definition
  | none => .includeCycle "" ""

mutual

/-- The rules of a context with all included ones in place. The contexts whose rules are being
put in place must not be included again; there are at most as many as the fuel. -/
def flattenRules (names : List ContextName) (entries : List (List RuleEntry)) :
    (fuel : Nat) → (visiting : List Nat) → (id : Nat) → Except HighlightError (List Rule)
  | 0, _, id => .error (cycleError names id)
  | fuel + 1, visiting, id =>
      if visiting.contains id then .error (cycleError names id)
      else flattenEntries names entries fuel (id :: visiting) ((entries[id]?).getD [])

def flattenEntries (names : List ContextName) (entries : List (List RuleEntry)) :
    (fuel : Nat) → (visiting : List Nat) → List RuleEntry → Except HighlightError (List Rule)
  | _, _, [] => .ok []
  | fuel, visiting, .rule rule :: rest => do
      return rule :: (← flattenEntries names entries fuel visiting rest)
  | fuel, visiting, .included id :: rest => do
      let rules ← flattenRules names entries fuel visiting id
      return rules ++ (← flattenEntries names entries fuel visiting rest)

end

def finishContexts (names : List ContextName) (entries : List (List RuleEntry)) :
    List Context → Except HighlightError (List Context)
  | [] => .ok []
  | context :: rest => do
      let rules ← flattenRules names entries (entries.length + 1) [] context.id
      return { context with rules } :: (← finishContexts names entries rest)

/-! ### Modes -/

/-- The traits of definitions by name, besides those that belong to none. -/
def traitsOf (numbering : Numbering) (definitions : List Definition) :
    Dictionary String Traits :=
  let region? (name : String) : Option Int :=
    (numbering.region? name).bind fun region => if region < 128 then some (region : Int) else none
  definitions.foldl
    (fun traits definition =>
      traits.setNew definition.name (Traits.ofDefinition definition region?))
    [(defaultTraitsName, {})]

/-- The numbers for everything that a main definition and others declare. -/
def Numbering.ofDefinitions (main : Definition) (others : List Definition) : Numbering where
  contexts := contextNames (main :: others)
  initials := initialContexts 1 (main :: others)
  formats := (registerAll main others).2
  regions := firstOfEach ((main :: others).flatMap regionNames)

/-- The delimiters of words in text of a definition. -/
def delimitersIn (traits : Dictionary String Traits) (definition : String) : List Char :=
  ((traits.get? definition).map (·.delimiters)).getD standardDelimiters

/-- Makes the mode of a main definition and the others to which it leads. -/
def Mode.ofDefinitions (main : Definition) (others : List Definition) (maxDepth : Nat)
    (engine : Pattern.Engine := .backtracking) : Except HighlightError Mode := do
  let definitions := main :: others
  match definitions.find? fun definition => definition.contexts.isEmpty with
  | some faulty => throw (.definitionInvalid faulty.name .noContexts)
  | none =>
      let numbering := Numbering.ofDefinitions main others
      let traits := traitsOf numbering definitions
      let drafts ←
        compileContexts numbering (delimitersIn traits) 1 (declaredContexts definitions)
      let names := ⟨main.name, "Normal Text"⟩ :: numbering.contexts
      let entries := [] :: drafts.map (·.entries)
      let declared ← finishContexts names entries (drafts.map (·.context))
      return {
        info := .ofDefinition main
        fallback :=
          .fallback main.name (delimitersIn traits main.name) main.keywords.caseSensitive
        declared
        registry := (registerAll main others).1
        traits
        embedded := (others.map (·.name)).filter (· ≠ main.name)
        diagnostics := drafts.flatMap (·.diagnostics)
        initial := 1
        maxDepth := max maxDepth 1
        engine }

/-- Makes the mode of a definition, taking others from a library. -/
def Mode.compile (library : List (String × Definition)) (main : Definition) (maxDepth : Nat) :
    Except HighlightError Mode :=
  Mode.ofDefinitions main (main.closure library) maxDepth

end SyntaxHighlight
