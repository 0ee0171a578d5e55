/-
What text is treated as. A format belongs to the definition that registered it first, and a context
to the one that declares it; both lead to the traits of this definition by its name. All names are
distinct where a lookup returns under a name the definition of that name, so no definition takes
the place of another one. The traits that belong to no definition have a name of their own, and
they are there first: a definition of that name never gets its traits.
-/

import Mathlib
import SyntaxHighlight.Highlight.Query
import SyntaxHighlight.Proofs.Mode.References
import SyntaxHighlight.Proofs.Text.Dictionary

namespace SyntaxHighlight

open SyntaxHighlight.Text

/-! ### Traits by name -/

/-- The number of a folding region as traits have it: none beyond those of a signed byte. -/
def Numbering.commentRegion? (numbering : Numbering) (name : String) : Option Int :=
  (numbering.region? name).bind fun region => if region < 128 then some (region : Int) else none

/-- The traits of text of a definition. One with the name of the default traits has these. -/
def Definition.traitsIn (numbering : Numbering) (definition : Definition) : Traits :=
  if definition.name = defaultTraitsName then {}
  else Traits.ofDefinition definition numbering.commentRegion?

section Traits

variable {numbering : Numbering} {definitions : List Definition} {own : Definition}

/-- Of several values for one key the first counts, and those that are there before all others. -/
theorem get?_foldl_setNew {α : Type} (value : Definition → α) (definitions : List Definition)
    (start : Dictionary String α) (name : String) :
    Dictionary.get? (definitions.foldl (fun values definition =>
      values.setNew definition.name (value definition)) start) name =
      (start.get? name).or ((definitions.find? (·.name = name)).map value) := by
  induction definitions generalizing start with
  | nil => rw [List.foldl_nil, List.find?_nil, Option.map_none, Option.or_none]
  | cons definition rest ih =>
      rw [List.foldl_cons, ih, Dictionary.get?_setNew, Option.or_assoc, List.find?_cons]
      by_cases same : definition.name = name <;> simp [same]

theorem traitsOf_get? (numbering : Numbering) (definitions : List Definition) (name : String) :
    (traitsOf numbering definitions).get? name =
      if name = defaultTraitsName then some {}
      else (definitions.find? (·.name = name)).map fun definition =>
        Traits.ofDefinition definition numbering.commentRegion? := by
  have found := get?_foldl_setNew
    (fun definition => Traits.ofDefinition definition numbering.commentRegion?) definitions
    [(defaultTraitsName, {})] name
  rw [Dictionary.get?_cons] at found
  refine (show _ = _ from found).trans ?_
  by_cases isDefault : name = defaultTraitsName
  · rw [if_pos isDefault, if_pos isDefault.symm, Option.some_or]
  · rw [if_neg isDefault, if_neg (Ne.symm isDefault)]
    rfl

theorem traitsOf_get?_name (first : definitions.find? (·.name = own.name) = some own) :
    (traitsOf numbering definitions).get? own.name = some (own.traitsIn numbering) := by
  rw [traitsOf_get?, Definition.traitsIn, first]
  split <;> rfl

theorem find?_name_of_nodup (distinct : (definitions.map (·.name)).Nodup)
    (member : own ∈ definitions) : definitions.find? (·.name = own.name) = some own := by
  cases found : definitions.find? (·.name = own.name) with
  | none =>
      have missing := List.find?_eq_none.mp found own member
      simp at missing
  | some other =>
      have named : other.name = own.name := by simpa using List.find?_some found
      rw [List.inj_on_of_nodup_map distinct (List.mem_of_find?_eq_some found) member named]

end Traits

/-! ### Owners of formats -/

/-- All formats belong to one of these definitions. -/
def FormatRegistry.IsOwned (registry : FormatRegistry) (definitions : List Definition) : Prop :=
  ∀ format ∈ registry.formats, ∃ own ∈ definitions, own.name = format.definition

section Formats

variable {definitions : List Definition} {own : Definition} {registry : FormatRegistry}

theorem FormatRegistry.IsOwned.register (owned : registry.IsOwned definitions) {format : Format}
    (member : own ∈ definitions) (named : own.name = format.definition) :
    (registry.register format).1.IsOwned definitions := by
  unfold FormatRegistry.register
  split
  · exact owned
  · intro other otherMember
    rcases List.mem_append.mp otherMember with old | new
    · exact owned other old
    · rw [List.mem_singleton.mp new]
      exact ⟨own, member, named⟩

theorem FormatRegistry.IsOwned.registerFormats (member : own ∈ definitions)
    {formats : List Format} (named : ∀ format ∈ formats, own.name = format.definition)
    (owned : registry.IsOwned definitions) (numbers : List ((String × String) × Nat)) :
    (registerFormats own.name registry numbers formats).1.IsOwned definitions := by
  induction formats generalizing registry numbers with
  | nil => exact owned
  | cons format rest ih =>
      obtain ⟨first, later⟩ := List.forall_mem_cons.mp named
      exact ih later (owned.register member first) _

theorem declaredFormats_definition (isMain : Bool) (own : Definition) :
    ∀ format ∈ declaredFormats isMain own, own.name = format.definition := by
  unfold declaredFormats
  split
  · intro format member
    rw [List.mem_singleton.mp member]
    rfl
  · intro format member
    obtain ⟨declaration, _, rfl⟩ := List.mem_map.mp member
    rfl

theorem registerAll_isOwned (main : Definition) (others : List Definition) :
    (registerAll main others).1.IsOwned (main :: others) := by
  have started : (registerFormats main.name {} [] (declaredFormats true main)).1.IsOwned
      (main :: others) := by
    refine FormatRegistry.IsOwned.registerFormats List.mem_cons_self
      (declaredFormats_definition true main) ?_ []
    intro format impossible
    cases impossible
  unfold registerAll
  generalize registerFormats main.name {} [] (declaredFormats true main) = start at started
  have among : ∀ own ∈ others, own ∈ main :: others := fun own => List.mem_cons_of_mem main
  generalize main :: others = definitions at started among
  induction others generalizing start with
  | nil => exact started
  | cons own rest ih =>
      obtain ⟨first, later⟩ := List.forall_mem_cons.mp among
      exact ih _ (started.registerFormats first (declaredFormats_definition false own) _) later

end Formats

/-! ### Owners of contexts -/

section Contexts

variable {main : Definition} {others : List Definition} {maxDepth : Nat} {mode : Mode}
  {engine : Pattern.Engine} {context : Context}

theorem Mode.traits_of_ofDefinitions
    (accepted : Mode.ofDefinitions main others maxDepth engine = .ok mode) :
    mode.traits = traitsOf (Numbering.ofDefinitions main others) (main :: others) ∧
      mode.fallback =
        .fallback main.name (delimitersIn mode.traits main.name) main.keywords.caseSensitive ∧
      mode.engine = engine := by
  obtain ⟨_, _, rfl, _⟩ := Mode.eq_ofContexts_of_ofDefinitions accepted
  exact ⟨rfl, rfl, rfl⟩

theorem compileContext_belongs {numbering : Numbering} {delimiters : List Char}
    {definition : Definition} {id : Nat} {declaration : ContextDeclaration} {draft : ContextDraft}
    (accepted : compileContext numbering delimiters definition id declaration = .ok draft) :
    draft.context.name = declaration.name ∧ draft.context.definition = definition.name ∧
      draft.context.delimiters = delimiters := by
  unfold compileContext at accepted
  obtain ⟨compiled, _, same⟩ := bind_eq_ok.mp accepted
  cases same
  exact ⟨rfl, rfl, rfl⟩

/-- The delimiters in a context are those of the definition to which it belongs. -/
theorem Mode.delimiters_of_mem_contexts
    (accepted : Mode.ofDefinitions main others maxDepth engine = .ok mode)
    (member : context ∈ mode.contexts) :
    context.delimiters = delimitersIn mode.traits context.definition := by
  obtain ⟨drafts, made⟩ := Mode.isMadeFrom_of_ofDefinitions accepted
  obtain ⟨traits, fallback, _⟩ := Mode.traits_of_ofDefinitions accepted
  rcases made.context_cases member with rfl | ⟨draft, draftMember, same⟩
  · rw [fallback]
    rfl
  · obtain ⟨own, _, declaration, _, compiled⟩ := compileContexts_mem made.drafted draftMember
    obtain ⟨_, named, delimiters⟩ := compileContext_belongs compiled
    rw [same, named, traits]
    exact delimiters

end Contexts

/-! ### Distinct names -/

section Search

variable {σ : Type} {lookup : String → StateM σ (Option Definition)} {valid : σ → Prop}

/-- A search finds no definition of a name that was seen, and none twice. -/
theorem followReferences_distinct
    (named : ∀ name state, valid state →
      (∀ definition, (lookup name state).1 = some definition → definition.name = name) ∧
        valid (lookup name state).2)
    (limit : Nat) (seen pending : List String) {start : σ} (startValid : valid start) :
    ((followReferences lookup limit seen pending start).1.map (·.name)).Nodup ∧
      ∀ definition ∈ (followReferences lookup limit seen pending start).1,
        definition.name ∉ seen := by
  induction limit, seen, pending using followReferences.induct generalizing start with
  | case1 limit seen =>
      rw [followReferences]
      simp [pure, StateT.pure]
  | case2 limit seen name pending old ih =>
      rw [followReferences_of_seen old]
      exact ih startValid
  | case3 limit seen name pending new unknown further =>
      obtain ⟨isNamed, nextValid⟩ := named name start startValid
      cases answered : lookup name start with
      | mk found? next =>
          rw [answered] at isNamed nextValid
          cases found? with
          | none =>
              rw [followReferences_of_none new answered]
              obtain ⟨distinct, fresh⟩ := unknown nextValid
              exact ⟨distinct, fun other member old =>
                fresh other member (List.mem_cons_of_mem name old)⟩
          | some definition =>
              cases limit with
              | zero =>
                  rw [followReferences, if_neg new]
                  simp [bind, StateT.bind, answered, pure, StateT.pure]
              | succ limit =>
                  rw [followReferences_of_some new answered]
                  obtain ⟨distinct, fresh⟩ := further definition nextValid
                  have isOwn : definition.name = name := isNamed definition rfl
                  constructor
                  · refine List.nodup_cons.mpr ⟨fun again => ?_, distinct⟩
                    obtain ⟨other, member, same⟩ := List.mem_map.mp again
                    exact fresh other member (List.mem_cons.mpr (.inl (same.trans isOwn)))
                  · refine List.forall_mem_cons.mpr ⟨by rwa [isOwn], fun other member old => ?_⟩
                    exact fresh other member (List.mem_cons_of_mem name old)

theorem collectDefinitions_distinct
    (named : ∀ name state, valid state →
      (∀ definition, (lookup name state).1 = some definition → definition.name = name) ∧
        valid (lookup name state).2)
    {start final : σ} (startValid : valid start) {limit : Nat} {main : Definition}
    {others : List Definition}
    (collected : collectDefinitions lookup limit main start = (others, final)) :
    ((main :: others).map (·.name)).Nodup := by
  obtain ⟨distinct, fresh⟩ :=
    followReferences_distinct named limit [main.name] main.references startValid
  rw [← collectDefinitions, collected] at distinct fresh
  refine List.nodup_cons.mpr ⟨fun again => ?_, distinct⟩
  obtain ⟨other, member, same⟩ := List.mem_map.mp again
  exact fresh other member (List.mem_singleton.mpr same)

end Search

/-! ### Text as its definition has it -/

/-- A character ends words if it is a standard delimiter that is not weak, or an additional one. -/
def Definition.separates (own : Definition) (char : Char) : Bool :=
  (standardDelimiters.contains char && !own.keywords.weakDelimiters.toList.contains char) ||
    own.keywords.additionalDelimiters.toList.contains char

def Definition.breaksBehind (own : Definition) (char : Char) : Bool :=
  (own.keywords.wrapDelimiters.map fun text => text.toList.contains char).getD (own.separates char)

/-- Text in a format is treated as a definition says. -/
structure Mode.TreatsAs (mode : Mode) (format : Nat) (own : Definition) : Prop where
  isInWord : ∀ char, mode.isInWord char format =
    (!own.separates char && !isWhitespace char && !quotationMarks.contains char)
  canBreakAt : ∀ char, mode.canBreakAt char format =
    (own.breaksBehind char && char != '"' && char != '\'')
  commentMarkers : mode.commentMarkers format = Traits.commentMarkers own.comments
  isEmptyLine : ∀ line, mode.isEmptyLine line format = true ↔
    line = [] ∨ ∃ text ∈ own.emptyLines, ∃ isMatch, mode.engine.readLine? text = some isMatch ∧
      isMatch line = true

/-- The rules of a context look for words as a definition has them. -/
structure Context.SeparatesAs (context : Context) (own : Definition) : Prop where
  isDelimiter : context.isDelimiter = own.separates
  findRule? : ∀ place engine, context.findRule? place engine =
    context.rules.findSome? fun rule =>
      if rule.applies place then
        (rule.matcher.matchLength? own.separates place engine).map fun length => (rule, length)
      else none

section Text

variable {own : Definition} {region? : String → Option Int}

theorem Traits.mem_delimitersOf (own : Definition) (char : Char) :
    char ∈ delimitersOf own.keywords ↔ own.separates char = true := by
  have added (more kept : List Char) :
      char ∈ more.foldl (fun delimiters char =>
        if delimiters.contains char then delimiters else delimiters ++ [char]) kept ↔
        char ∈ kept ∨ char ∈ more := by
    induction more generalizing kept with
    | nil => simp
    | cons first rest ih =>
        rw [List.foldl_cons, ih, List.mem_cons, ← or_assoc]
        refine or_congr_left ?_
        split
        case isTrue known =>
          -- What is a delimiter already is not added again.
          have old := List.contains_iff_mem.mp known
          exact ⟨Or.inl, fun either => either.elim id fun same => same ▸ old⟩
        case isFalse => rw [List.mem_append, List.mem_singleton]
  rw [delimitersOf, added, Definition.separates]
  simp

theorem Traits.contains_delimitersOf (own : Definition) (char : Char) :
    (delimitersOf own.keywords).contains char = own.separates char := by
  rw [Bool.eq_iff_iff, List.contains_iff_mem, mem_delimitersOf]

/-- Encodings have no part in the other traits. -/
theorem Traits.ofDefinition_eq (own : Definition) (region? : String → Option Int) :
    (ofDefinition own region?).delimiters = delimitersOf own.keywords ∧
      (ofDefinition own region?).wrapDelimiters =
        (own.keywords.wrapDelimiters.map String.toList).getD (delimitersOf own.keywords) ∧
      (ofDefinition own region?).comments = commentMarkers own.comments ∧
      (ofDefinition own region?).commentRegion =
        ((own.comments.multiLine.bind (·.region)).bind region?).getD 0 ∧
      (ofDefinition own region?).emptyLines = own.emptyLines := by
  have kept (entries : List EncodingEntry) (traits : Traits) :
      let filled := entries.foldl
        (fun traits entry => traits.addEncoding entry.text entry.char) traits
      filled.delimiters = traits.delimiters ∧ filled.wrapDelimiters = traits.wrapDelimiters ∧
        filled.comments = traits.comments ∧ filled.commentRegion = traits.commentRegion ∧
        filled.emptyLines = traits.emptyLines := by
    induction entries generalizing traits with
    | nil => exact ⟨rfl, rfl, rfl, rfl, rfl⟩
    | cons entry rest ih => exact ih (traits.addEncoding entry.text entry.char)
  exact kept own.encodings.entries _

theorem Mode.treatsAs_of_traitsOfFormat {mode : Mode} {format : Nat}
    (traits : mode.traitsOfFormat format = Traits.ofDefinition own region?) :
    mode.TreatsAs format own := by
  obtain ⟨delimiters, wrapDelimiters, comments, _, emptyLines⟩ := Traits.ofDefinition_eq own region?
  constructor
  · intro char
    rw [isInWord, traits, delimiters, Traits.contains_delimitersOf]
  · intro char
    rw [canBreakAt, traits, wrapDelimiters, Definition.breaksBehind]
    cases own.keywords.wrapDelimiters with
    | none => rw [Option.map_none, Option.getD_none, Traits.contains_delimitersOf]; rfl
    | some text => rfl
  · rw [commentMarkers, traits, comments]
  · intro line
    rw [isEmptyLine, traits, Traits.matchesEmptyLine, Traits.linePatterns, emptyLines,
      Bool.or_eq_true, List.isEmpty_iff, List.any_eq_true]
    refine or_congr_right ⟨?_, ?_⟩
    · intro ⟨isMatch, kept, matched⟩
      obtain ⟨text, member, read⟩ := List.mem_filterMap.mp kept
      exact ⟨text, member, isMatch, read, matched⟩
    · intro ⟨text, member, isMatch, read, matched⟩
      exact ⟨isMatch, List.mem_filterMap.mpr ⟨text, member, read⟩, matched⟩

theorem Context.separatesAs_of_delimiters {context : Context}
    (delimiters : context.delimiters = Traits.delimitersOf own.keywords) :
    context.SeparatesAs own := by
  have same : context.isDelimiter = own.separates := by
    funext char
    rw [isDelimiter, delimiters, Traits.contains_delimitersOf]
  refine ⟨same, fun place engine => ?_⟩
  rw [findRule?, same]

end Text

/-! ### Traits of owners -/

section Owners

variable {main own : Definition} {others : List Definition} {maxDepth : Nat} {mode : Mode}
  {engine : Pattern.Engine} {index : Nat} {format : Format}

theorem Mode.exists_owner (accepted : Mode.ofDefinitions main others maxDepth engine = .ok mode)
    (found : mode.registry.format? index = some format) :
    ∃ own, (main :: others).find? (·.name = format.definition) = some own := by
  obtain ⟨drafts, made⟩ := Mode.isMadeFrom_of_ofDefinitions accepted
  have owned := registerAll_isOwned main others
  rw [← made.registry] at owned
  obtain ⟨own, member, named⟩ := owned format (List.mem_of_getElem? found)
  rw [← Option.isSome_iff_exists, List.find?_isSome]
  exact ⟨own, member, decide_eq_true named⟩

theorem Mode.traits_get? (accepted : Mode.ofDefinitions main others maxDepth engine = .ok mode)
    (first : (main :: others).find? (·.name = own.name) = some own) :
    mode.traits.get? own.name = some (own.traitsIn (Numbering.ofDefinitions main others)) := by
  rw [(Mode.traits_of_ofDefinitions accepted).1]
  exact traitsOf_get?_name first

/-- Text in a format has the traits of the first definition with the name of its owner. -/
theorem Mode.traitsOfFormat_eq (accepted : Mode.ofDefinitions main others maxDepth engine = .ok mode)
    (found : mode.registry.format? index = some format)
    (first : (main :: others).find? (·.name = format.definition) = some own) :
    mode.traitsNameOfFormat index = own.name ∧
      mode.traitsOfFormat index = own.traitsIn (Numbering.ofDefinitions main others) := by
  have named : own.name = format.definition := by simpa using List.find?_some first
  rw [← named] at first
  have traits := Mode.traits_get? accepted first
  have known : mode.traits.contains format.definition = true := by
    rw [← named, Dictionary.contains, traits]
    rfl
  have name : mode.traitsNameOfFormat index = own.name := by
    unfold traitsNameOfFormat
    rw [found, named]
    exact if_pos known
  exact ⟨name, by rw [traitsOfFormat, name, traits, Option.getD_some]⟩

theorem Definition.traitsIn_of_ne (numbering : Numbering) (apart : own.name ≠ defaultTraitsName) :
    own.traitsIn numbering = Traits.ofDefinition own numbering.commentRegion? := if_neg apart

theorem Definition.traitsIn_of_eq (numbering : Numbering) (same : own.name = defaultTraitsName) :
    own.traitsIn numbering = {} := if_pos same

/-- Each format belongs to a definition of the mode, and text in it has the traits of this one; the
contexts of a definition look for words with its delimiters. There is one exception: a definition
with the name of the default traits has these. The engine decides only what patterns match. -/
theorem Mode.traits_belongToOwner {σ : Type} {lookup : String → StateM σ (Option Definition)}
    {valid : σ → Prop} {limit : Nat} {start final : σ}
    (named : ∀ name state, valid state →
      (∀ definition, (lookup name state).1 = some definition → definition.name = name) ∧
        valid (lookup name state).2)
    (startValid : valid start)
    (collected : collectDefinitions lookup limit main start = (others, final))
    (accepted : Mode.ofDefinitions main others maxDepth engine = .ok mode) :
    mode.engine = engine ∧
    (∀ index format, mode.registry.format? index = some format →
      ∃ own ∈ main :: others, own.name = format.definition) ∧
    ∀ own ∈ main :: others,
      (∀ index format, mode.registry.format? index = some format →
        format.definition = own.name →
          mode.traitsNameOfFormat index = own.name ∧
          (own.name ≠ defaultTraitsName →
            mode.traitsOfFormat index =
              Traits.ofDefinition own (Numbering.ofDefinitions main others).commentRegion? ∧
            mode.TreatsAs index own) ∧
          (own.name = defaultTraitsName → mode.traitsOfFormat index = {})) ∧
      (∀ context ∈ mode.contexts, context.definition = own.name →
        (own.name ≠ defaultTraitsName → context.SeparatesAs own) ∧
        (own.name = defaultTraitsName → context.delimiters = standardDelimiters)) ∧
      ∀ place declaration, own.contexts[place]? = some declaration →
        ∃ context, mode.contexts[contextNumber (main :: others) own place]? = some context ∧
          context.name = declaration.name ∧ context.definition = own.name := by
  have distinct := collectDefinitions_distinct named startValid collected
  refine ⟨(Mode.traits_of_ofDefinitions accepted).2.2, ?_, fun own member => ⟨?_, ?_, ?_⟩⟩
  · intro index format found
    obtain ⟨own, first⟩ := Mode.exists_owner accepted found
    exact ⟨own, List.mem_of_find?_eq_some first, by simpa using List.find?_some first⟩
  · intro index format found owned
    have first := find?_name_of_nodup distinct member
    rw [← owned] at first
    obtain ⟨name, traits⟩ := Mode.traitsOfFormat_eq accepted found first
    refine ⟨name, fun apart => ?_, fun same => ?_⟩
    · rw [Definition.traitsIn_of_ne _ apart] at traits
      exact ⟨traits, Mode.treatsAs_of_traitsOfFormat traits⟩
    · rw [traits, Definition.traitsIn_of_eq _ same]
  · intro context contextMember owned
    have delimiters := Mode.delimiters_of_mem_contexts accepted contextMember
    rw [owned, delimitersIn, Mode.traits_get? accepted (find?_name_of_nodup distinct member),
      Option.map_some, Option.getD_some] at delimiters
    refine ⟨fun apart => ?_, fun same => ?_⟩
    · rw [Definition.traitsIn_of_ne _ apart, (Traits.ofDefinition_eq own _).1] at delimiters
      exact Context.separatesAs_of_delimiters delimiters
    · rw [delimiters, Definition.traitsIn_of_eq _ same]
  · intro place declaration found
    obtain ⟨drafts, made⟩ := Mode.isMadeFrom_of_ofDefinitions accepted
    obtain ⟨draft, draftFound, compiled⟩ :=
      compileContexts_getElem? made.drafted (declaredContexts_getElem? distinct member found)
    obtain ⟨context, contextFound, same, _⟩ := made.context_eq draftFound
    obtain ⟨name, definition, _⟩ := compileContext_belongs compiled
    refine ⟨context, contextFound, ?_, ?_⟩
    · rw [same]
      exact name
    · rw [same]
      exact definition

end Owners

/-- A language with pieces of another one. -/
def notebookLanguage : Definition where
  name := "Notebook"
  contexts :=
    [{ name := "Normal", format := "Text"
       rules := [{ kind := .char '(', switch := some "##Lisp" }] }]
  formats := [{ name := "Text" }]

/-- A language in which words are joined by hyphens. -/
def lispLanguage : Definition where
  name := "Lisp"
  contexts :=
    [{ name := "Form", format := "Symbol", rules := [{ kind := .word "set-car" }] }]
  formats := [{ name := "Symbol" }]
  keywords := { weakDelimiters := "-" }

def lispLookup (name : String) : StateM Unit (Option Definition) := fun state =>
  (if name = "Lisp" then some lispLanguage else none, state)

theorem Mode.traits_belongToOwner_notebookLanguage :
    ∃ mode format, Mode.ofDefinitions notebookLanguage [lispLanguage] 8 = .ok mode ∧
      collectDefinitions lispLookup 1 notebookLanguage () = ([lispLanguage], ()) ∧
      mode.registry.format? 1 = some format ∧ format.definition = "Lisp" ∧
      mode.traitsNameOfFormat 1 = "Lisp" ∧ mode.TreatsAs 1 lispLanguage ∧
      mode.isInWord '-' 1 = true ∧ mode.isInWord '-' 0 = false ∧
      ∃ context, mode.contexts[2]? = some context ∧ context.name = "Form" ∧
        context.SeparatesAs lispLanguage := by
  have collected :
      collectDefinitions lispLookup 1 notebookLanguage () = ([lispLanguage], ()) := by cbv
  have named : ∀ name (state : Unit), True →
      (∀ definition, (lispLookup name state).1 = some definition → definition.name = name) ∧
        True := by
    intro name state _
    refine ⟨fun definition found => ?_, trivial⟩
    unfold lispLookup at found
    split at found
    case isTrue isLisp =>
      cases found
      exact isLisp.symm
    case isFalse => cases found
  have computed :
      ((Mode.ofDefinitions notebookLanguage [lispLanguage] 8).toOption.map fun mode =>
        ((mode.registry.format? 1).map (·.definition), mode.isInWord '-' 1,
          mode.isInWord '-' 0)) = some (some "Lisp", true, false) := by
    cbv
  obtain ⟨mode, made, same⟩ := Option.map_eq_some_iff.mp computed
  have accepted := Mode.ofDefinitions_of_toOption made
  obtain ⟨owner, rest⟩ := Prod.mk.inj same
  obtain ⟨inWord, outside⟩ := Prod.mk.inj rest
  obtain ⟨format, found, isLisp⟩ := Option.map_eq_some_iff.mp owner
  obtain ⟨_, _, owners⟩ := Mode.traits_belongToOwner named trivial collected accepted
  have apart : lispLanguage.name ≠ defaultTraitsName := by decide
  obtain ⟨formats, contexts, declared⟩ := owners lispLanguage (by simp)
  obtain ⟨name, treated, _⟩ := formats 1 format found isLisp
  obtain ⟨context, contextFound, contextName, contextOwner⟩ := declared 0 _ rfl
  exact ⟨mode, format, accepted, collected, found, isLisp, name, (treated apart).2, inWord, outside,
    context, contextFound, contextName,
    (contexts context (List.mem_of_getElem? contextFound) contextOwner).1 apart⟩

/-- A language with the name of the default traits. -/
def noneLanguage : Definition where
  name := "none"
  contexts := [{ name := "Normal" }]
  keywords := { weakDelimiters := "-" }

/-- The language makes the hyphen a character of words, but it has the default traits. -/
theorem Mode.traits_areDefault_noneLanguage :
    ∃ mode format context, Mode.ofDefinitions noneLanguage [] 8 = .ok mode ∧
      collectDefinitions (fun _ => return none) 1 noneLanguage () = ([], ()) ∧
      mode.registry.format? 0 = some format ∧ format.definition = noneLanguage.name ∧
      noneLanguage.separates '-' = false ∧ mode.isInWord '-' 0 = false ∧
      ¬mode.TreatsAs 0 noneLanguage ∧
      mode.contexts[1]? = some context ∧ context.definition = noneLanguage.name ∧
      ¬context.SeparatesAs noneLanguage := by
  have computed :
      ((Mode.ofDefinitions noneLanguage [] 8).toOption.map fun mode =>
        ((mode.registry.format? 0).map (·.definition), mode.isInWord '-' 0,
          (mode.contexts[1]?).map fun context =>
            (context.definition, context.isDelimiter '-'))) =
        some (some "none", false, some ("none", true)) := by
    cbv
  have separates : noneLanguage.separates '-' = false := by cbv
  obtain ⟨mode, made, same⟩ := Option.map_eq_some_iff.mp computed
  obtain ⟨owner, rest⟩ := Prod.mk.inj same
  obtain ⟨outside, rest⟩ := Prod.mk.inj rest
  obtain ⟨context, contextFound, rest⟩ := Option.map_eq_some_iff.mp rest
  obtain ⟨contextOwner, delimiter⟩ := Prod.mk.inj rest
  obtain ⟨format, found, isNone⟩ := Option.map_eq_some_iff.mp owner
  refine ⟨mode, format, context, Mode.ofDefinitions_of_toOption made, by cbv, found, isNone,
    separates, outside, fun treated => ?_, contextFound, contextOwner, fun separatesAs => ?_⟩
  · have inWord := treated.isInWord '-'
    rw [outside, separates] at inWord
    revert inWord
    decide
  · rw [separatesAs.isDelimiter, separates] at delimiter
    cases delimiter

end SyntaxHighlight
