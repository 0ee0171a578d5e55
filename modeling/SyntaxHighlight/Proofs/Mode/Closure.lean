/-
Modes are closed. What a mode refers to by number is there: the contexts to which switches lead,
and the formats of contexts and rules. Contexts are numbered in one pass over the definitions and
compiled in another, and rules are copied from one context to another; a number that is out of
range comes from neither.
-/

import Mathlib
import SyntaxHighlight.Mode.Compile
import SyntaxHighlight.Proofs.Except
import SyntaxHighlight.Proofs.Style.FormatRegistry

namespace SyntaxHighlight

/-! ### Numbers in range -/

/-- A switch leads to none but a declared context, out of so many contexts. -/
def Switch.LeadsWithin (contexts : Nat) (switch : Switch) : Prop :=
  ∀ id, switch.target = some (.context id) → 1 ≤ id ∧ id < contexts

structure Rule.IsWithin (contexts formats : Nat) (rule : Rule) : Prop where
  switch : rule.switch.LeadsWithin contexts
  format : ∀ format, rule.format = some format → format < formats

structure Context.IsWithin (contexts formats : Nat) (context : Context) : Prop where
  lineEnd : context.lineEnd.LeadsWithin contexts
  lineEmpty : ∀ switch, context.lineEmpty = some switch → switch.LeadsWithin contexts
  fallthrough : ∀ switch, context.fallthrough = some switch → switch.LeadsWithin contexts
  /-- A switch that changes nothing is not kept as a way to fall through. -/
  moves : ∀ switch, context.fallthrough = some switch → switch.isStay = false
  format : context.format < formats
  rules : ∀ rule, rule ∈ context.rules → rule.IsWithin contexts formats

/-- What highlighting relies on. -/
structure Mode.IsClosed (mode : Mode) : Prop where
  notPlain : mode.isPlain = false
  initial_eq : mode.initial = 1
  initial_lt : 1 < mode.contexts.length
  registered : 0 < mode.registry.size
  depth : 1 ≤ mode.maxDepth
  within : ∀ context, context ∈ mode.contexts →
    context.IsWithin mode.contexts.length mode.registry.size

/-- Numbers that names stand for are in range. -/
structure Numbering.IsWithin (contexts formats : Nat) (numbering : Numbering) : Prop where
  resolved : ∀ definition reference id,
    numbering.resolve? definition reference = some id → 1 ≤ id ∧ id < contexts
  registered : ∀ definition name, numbering.format definition name < formats

theorem Switch.stay_leadsWithin (contexts pops : Nat) :
    ({ pops } : Switch).LeadsWithin contexts := by
  intro id target
  cases target

/-! ### Numbers of contexts -/

theorem contextNames_length (definitions : List Definition) :
    (contextNames definitions).length =
      (definitions.map fun definition => definition.contexts.length).sum := by
  induction definitions with
  | nil => rfl
  | cons definition rest ih =>
      simp only [contextNames, List.flatMap_cons, List.length_append, List.length_map,
        List.map_cons, List.sum_cons] at ih ⊢
      rw [ih]

/-- Where every definition has a context, initial contexts are contexts. -/
theorem initialContexts_mem (definitions : List Definition)
    (nonempty : ∀ definition, definition ∈ definitions → definition.contexts ≠ [])
    (first : Nat) (name : String) (id : Nat)
    (member : (name, id) ∈ initialContexts first definitions) :
    first ≤ id ∧ id < first + (contextNames definitions).length := by
  induction definitions generalizing first with
  | nil => cases member
  | cons definition rest ih =>
      have positive : 0 < definition.contexts.length :=
        List.length_pos_iff.mpr (nonempty definition List.mem_cons_self)
      have total : (contextNames (definition :: rest)).length =
          definition.contexts.length + (contextNames rest).length := by
        simp only [contextNames_length, List.map_cons, List.sum_cons]
      rcases List.mem_cons.mp member with here | later
      · cases here
        omega
      · have bounds := ih
          (fun other otherMember => nonempty other (List.mem_cons_of_mem definition otherMember))
          (first + definition.contexts.length) later
        omega

theorem mem_of_lookup {α β : Type} [BEq α] [LawfulBEq α] {entries : List (α × β)} {key : α}
    {value : β} (found : entries.lookup key = some value) : (key, value) ∈ entries := by
  obtain ⟨before, behind, parts, _absent⟩ := List.lookup_eq_some_iff.mp found
  rw [parts]
  exact List.mem_append_right before List.mem_cons_self

theorem Numbering.context?_bounds (numbering : Numbering) (name : ContextName) (id : Nat)
    (found : numbering.context? name = some id) :
    1 ≤ id ∧ id < numbering.contexts.length + 1 := by
  obtain ⟨index, indexFound, rfl⟩ := Option.map_eq_some_iff.mp found
  obtain ⟨inRange, _matches⟩ := List.findIdx?_eq_some_iff_getElem.mp indexFound
  omega

theorem Numbering.resolve?_bounds (definitions : List Definition)
    (nonempty : ∀ definition, definition ∈ definitions → definition.contexts ≠ [])
    (numbering : Numbering) (contexts : numbering.contexts = contextNames definitions)
    (initials : numbering.initials = initialContexts 1 definitions)
    (definition reference : String) (id : Nat)
    (found : numbering.resolve? definition reference = some id) :
    1 ≤ id ∧ id < (contextNames definitions).length + 1 := by
  unfold Numbering.resolve? at found
  cases parsed : Reference.ofText reference with
  | here context =>
      rw [parsed] at found
      rw [← contexts]
      exact numbering.context?_bounds _ id found
  | elsewhere context other =>
      rw [parsed] at found
      rw [← contexts]
      exact numbering.context?_bounds _ id found
  | initial other =>
      rw [parsed] at found
      have member := List.mem_reverse.mp (mem_of_lookup found)
      rw [initials] at member
      have bounds := initialContexts_mem definitions nonempty 1 other id member
      omega

/-! ### Numbers of formats -/

/-- All numbers that have been given out are numbers of registered formats. -/
def FormatRegistry.Covers (registry : FormatRegistry)
    (numbers : List ((String × String) × Nat)) : Prop :=
  ∀ key index, (key, index) ∈ numbers → index < registry.size

theorem FormatRegistry.register_size_le (registry : FormatRegistry) (format : Format) :
    registry.size ≤ (registry.register format).1.size := by
  unfold FormatRegistry.register
  cases registry.indexOf? format.id with
  | some index => exact Nat.le_refl _
  | none =>
      simp only [FormatRegistry.size, List.length_append]
      omega

theorem registerFormats_covers (definition : String) (formats : List Format)
    (registry : FormatRegistry) (numbers : List ((String × String) × Nat))
    (indexed : registry.IsIndexed) (covered : registry.Covers numbers) :
    let result := registerFormats definition registry numbers formats
    result.1.IsIndexed ∧ registry.size ≤ result.1.size ∧ result.1.Covers result.2 ∧
      (formats ≠ [] → 0 < result.1.size) := by
  induction formats generalizing registry numbers with
  | nil => exact ⟨indexed, Nat.le_refl _, covered, fun impossible => absurd rfl impossible⟩
  | cons format rest ih =>
      have grown := registry.register_size_le format
      have placed := (indexed.register format).lt (registry.indexOf?_register_self format)
      have extended : (registry.register format).1.Covers
          (numbers ++ [((definition, format.name), (registry.register format).2)]) := by
        intro key index member
        rcases List.mem_append.mp member with old | new
        · have bound := covered key index old
          omega
        · cases List.mem_singleton.mp new
          exact placed
      obtain ⟨restIndexed, restGrown, restCovers, _⟩ := ih _ _ (indexed.register format) extended
      refine ⟨restIndexed, Nat.le_trans grown restGrown, restCovers, fun _ => ?_⟩
      exact Nat.lt_of_lt_of_le (Nat.zero_lt_of_lt placed) restGrown

/-- The main definition has a format, so that there is one at all. -/
theorem declaredFormats_main_ne_nil (definition : Definition) :
    declaredFormats true definition ≠ [] := by
  unfold declaredFormats
  cases declared : definition.formats with
  | nil =>
      intro impossible
      cases impossible
  | cons format rest =>
      intro impossible
      cases impossible

theorem registerAll_covers (main : Definition) (others : List Definition) :
    0 < (registerAll main others).1.size ∧
      (registerAll main others).1.Covers (registerAll main others).2 := by
  obtain ⟨indexed, _, covered, registered⟩ :=
    registerFormats_covers main.name (declaredFormats true main) {} []
      FormatRegistry.isIndexed_empty (by
        intro key index member
        cases member)
  have started := registered (declaredFormats_main_ne_nil main)
  unfold registerAll
  generalize registerFormats main.name {} [] (declaredFormats true main) = start
    at indexed covered started
  induction others generalizing start with
  | nil => exact ⟨started, covered⟩
  | cons definition rest ih =>
      obtain ⟨nextIndexed, grown, nextCovered, _⟩ := registerFormats_covers definition.name
        (declaredFormats false definition) start.1 start.2 indexed covered
      exact ih _ nextIndexed nextCovered (Nat.lt_of_lt_of_le started grown)

theorem Numbering.format_lt (registry : FormatRegistry) (numbering : Numbering)
    (registered : 0 < registry.size) (covered : registry.Covers numbering.formats)
    (definition name : String) : numbering.format definition name < registry.size := by
  unfold Numbering.format
  cases found : numbering.formats.lookup (definition, name) with
  | none => exact registered
  | some index => exact covered _ index (mem_of_lookup found)

/-! ### Switches and rules -/

theorem compileSwitch_leadsWithin {contexts formats : Nat} {numbering : Numbering}
    (within : numbering.IsWithin contexts formats) (definition context text : String) :
    (compileSwitch numbering definition context text).1.LeadsWithin contexts := by
  unfold compileSwitch
  generalize countPops (Text.trim text.toList).length (Text.trim text.toList) = counted
  obtain ⟨pops, rest⟩ := counted
  dsimp only
  split
  · exact Switch.stay_leadsWithin contexts pops
  · split
    · rename_i id found
      intro target same
      cases same
      exact within.resolved _ _ id found
    · intro target same
      cases same

theorem compileOptional_leadsWithin {contexts : Nat}
    {compile : String → Switch × List Diagnostic}
    (within : ∀ text, (compile text).1.LeadsWithin contexts) (text? : Option String)
    (switch : Switch) (compiled : (compileOptional compile text?).1 = some switch) :
    switch.LeadsWithin contexts := by
  cases text? with
  | none => cases compiled
  | some text =>
      cases compiled
      exact within text

theorem compileRule_isWithin {contexts formats : Nat} {numbering : Numbering}
    (within : numbering.IsWithin contexts formats) (definition : Definition) (context : String)
    (declaration : RuleDeclaration) (matcher : Matcher) :
    (compileRule numbering definition context declaration matcher).1.IsWithin
      contexts formats := by
  constructor
  · intro id target
    have leads := compileOptional_leadsWithin
      (compileSwitch_leadsWithin within definition.name context) declaration.switch
    unfold compileRule at target
    cases compiled : (compileOptional (compileSwitch numbering definition.name context)
        declaration.switch).1 with
    | none =>
        simp only [compiled, Option.getD_none] at target
        cases target
    | some switch =>
        simp only [compiled, Option.getD_some] at target
        exact leads switch compiled id target
  · intro format declared
    obtain ⟨name, _, rfl⟩ := Option.map_eq_some_iff.mp declared
    exact within.registered definition.name name

/-- What an entry of the rules of a context is compiled to. -/
theorem compileEntry_cases {numbering : Numbering} {definition : Definition} {context : String}
    {declaration : RuleDeclaration} {compiled : List RuleEntry × List Diagnostic}
    (accepted : compileEntry numbering definition context declaration = .ok compiled) :
    (∃ matcher, compiled =
      ([.rule (compileRule numbering definition context declaration matcher).1],
        (compileRule numbering definition context declaration matcher).2)) ∨
      ∃ target, declaration.kind = .includeRules target ∧
        compiled = compileInclude numbering definition.name context target := by
  unfold compileEntry at accepted
  cases kind : declaration.kind with
  | includeRules target =>
      rw [kind] at accepted
      exact Or.inr ⟨target, rfl, (Except.ok.inj accepted).symm⟩
  | regex pattern =>
      rw [kind] at accepted
      obtain ⟨matcher, _, same⟩ := map_eq_ok.mp accepted
      exact Or.inl ⟨matcher, same.symm⟩
  | keyword list =>
      rw [kind] at accepted
      obtain ⟨matcher, _, same⟩ := map_eq_ok.mp accepted
      exact Or.inl ⟨matcher, same.symm⟩
  | _ =>
      rw [kind] at accepted
      exact Or.inl ⟨_, (Except.ok.inj accepted).symm⟩

theorem compileEntry_isWithin {contexts formats : Nat} {numbering : Numbering}
    (within : numbering.IsWithin contexts formats) {definition : Definition} {context : String}
    {declaration : RuleDeclaration} {compiled : List RuleEntry × List Diagnostic}
    (accepted : compileEntry numbering definition context declaration = .ok compiled)
    (rule : Rule) (member : .rule rule ∈ compiled.1) : rule.IsWithin contexts formats := by
  rcases compileEntry_cases accepted with ⟨matcher, rfl⟩ | ⟨target, _, rfl⟩
  · cases List.mem_singleton.mp member
    exact compileRule_isWithin within definition context declaration matcher
  · unfold compileInclude at member
    split at member
    · cases List.mem_singleton.mp member
    · cases member

/-! ### Contexts -/

/-- The context of a draft keeps its number and has only the rules of its entries. -/
structure ContextDraft.IsWithin (contexts formats id : Nat) (draft : ContextDraft) : Prop where
  numbered : draft.context.id = id
  context : draft.context.IsWithin contexts formats
  entries : ∀ rule, .rule rule ∈ draft.entries → rule.IsWithin contexts formats

theorem compileContext_isWithin {contexts formats : Nat} {numbering : Numbering}
    (within : numbering.IsWithin contexts formats) {delimiters : List Char}
    {definition : Definition} {id : Nat} {declaration : ContextDeclaration} {draft : ContextDraft}
    (accepted : compileContext numbering delimiters definition id declaration = .ok draft) :
    draft.IsWithin contexts formats id := by
  have leads := compileSwitch_leadsWithin within definition.name declaration.name
  unfold compileContext at accepted
  generalize compileSwitch numbering definition.name declaration.name = compile
    at accepted leads
  obtain ⟨compiled, rulesAccepted, same⟩ := bind_eq_ok.mp accepted
  cases same
  refine ⟨rfl, ?_, ?_⟩
  · refine ⟨leads declaration.lineEnd, ?_, ?_, ?_, within.registered _ _, ?_⟩
    · intro switch kept
      exact compileOptional_leadsWithin leads declaration.lineEmpty switch kept
    · intro switch kept
      exact compileOptional_leadsWithin leads declaration.fallthrough switch
        (Option.eq_some_of_filter_eq_some kept)
    · intro switch kept
      have moves := (Option.filter_eq_some_iff.mp kept).2
      simpa using moves
    · intro rule member
      cases member
  · intro rule member
    obtain ⟨entry, entryMember, ruleMember⟩ := List.mem_flatMap.mp member
    obtain ⟨ruleDeclaration, _, entryAccepted⟩ := mapM_eq_ok_mem rulesAccepted entryMember
    exact compileEntry_isWithin within entryAccepted rule ruleMember

theorem compileContexts_isWithin {contexts formats : Nat} {numbering : Numbering}
    (within : numbering.IsWithin contexts formats) {delimitersOf : String → List Char}
    {declarations : List (Definition × ContextDeclaration)} {id : Nat}
    {drafts : List ContextDraft}
    (accepted : compileContexts numbering delimitersOf id declarations = .ok drafts) :
    drafts.length = declarations.length ∧
      ∀ (index : Nat) (draft : ContextDraft), drafts[index]? = some draft →
        draft.IsWithin contexts formats (id + index) := by
  induction declarations generalizing id drafts with
  | nil =>
      cases accepted
      refine ⟨rfl, ?_⟩
      intro index draft found
      cases found
  | cons entry rest ih =>
      obtain ⟨definition, declaration⟩ := entry
      obtain ⟨first, firstAccepted, accepted⟩ := bind_eq_ok.mp accepted
      obtain ⟨later, laterAccepted, accepted⟩ := bind_eq_ok.mp accepted
      cases accepted
      obtain ⟨lengthEq, laterWithin⟩ := ih laterAccepted
      refine ⟨congrArg (· + 1) lengthEq, ?_⟩
      intro index draft found
      cases index with
      | zero =>
          cases found
          exact compileContext_isWithin within firstAccepted
      | succ index =>
          have shifted := laterWithin index draft found
          rwa [Nat.add_right_comm] at shifted

/-! ### Included rules -/

/-- Included rules are rules of some context: flattening makes none of its own. -/
theorem flattenRules_mem (names : List ContextName) (entries : List (List RuleEntry))
    (fuel : Nat) (visiting : List Nat) (id : Nat) (rules : List Rule)
    (accepted : flattenRules names entries fuel visiting id = .ok rules)
    (rule : Rule) (member : rule ∈ rules) :
    ∃ own, own ∈ entries ∧ .rule rule ∈ own := by
  induction fuel generalizing visiting id rules with
  | zero =>
      rw [flattenRules] at accepted
      cases accepted
  | succ fuel ih =>
      have fromEntries (visiting : List Nat) (own : List RuleEntry) (rules : List Rule)
          (accepted : flattenEntries names entries fuel visiting own = .ok rules)
          (member : rule ∈ rules) :
          .rule rule ∈ own ∨ ∃ other, other ∈ entries ∧ .rule rule ∈ other := by
        induction own generalizing rules with
        | nil =>
            rw [flattenEntries] at accepted
            cases accepted
            cases member
        | cons entry rest restStep =>
            cases entry with
            | rule first =>
                rw [flattenEntries] at accepted
                obtain ⟨later, laterAccepted, accepted⟩ := bind_eq_ok.mp accepted
                cases accepted
                rcases List.mem_cons.mp member with same | inLater
                · subst same
                  exact Or.inl List.mem_cons_self
                · exact (restStep later laterAccepted inLater).imp_left
                    (List.mem_cons_of_mem _)
            | included other =>
                rw [flattenEntries] at accepted
                obtain ⟨included, includedAccepted, accepted⟩ := bind_eq_ok.mp accepted
                obtain ⟨later, laterAccepted, accepted⟩ := bind_eq_ok.mp accepted
                cases accepted
                rcases List.mem_append.mp member with inIncluded | inLater
                · exact Or.inr (ih visiting other included includedAccepted inIncluded)
                · exact (restStep later laterAccepted inLater).imp_left
                    (List.mem_cons_of_mem _)
      rw [flattenRules] at accepted
      split at accepted
      · cases accepted
      · rcases fromEntries _ _ rules accepted member with own | other
        · cases found : entries[id]? with
          | none =>
              rw [found] at own
              cases own
          | some list =>
              rw [found] at own
              exact ⟨list, List.mem_of_getElem? found, own⟩
        · exact other

/-- Finishing changes nothing about a context but its rules. -/
theorem finishContexts_getElem? {names : List ContextName} {entries : List (List RuleEntry)}
    {drafts finished : List Context}
    (accepted : finishContexts names entries drafts = .ok finished) :
    finished.length = drafts.length ∧
      ∀ (index : Nat) (context : Context), finished[index]? = some context →
        ∃ draft rules, drafts[index]? = some draft ∧
          flattenRules names entries (entries.length + 1) [] draft.id = .ok rules ∧
          context = { draft with rules } := by
  induction drafts generalizing finished with
  | nil =>
      cases accepted
      refine ⟨rfl, ?_⟩
      intro index context found
      cases found
  | cons draft rest ih =>
      obtain ⟨rules, rulesAccepted, accepted⟩ := bind_eq_ok.mp accepted
      obtain ⟨later, laterAccepted, accepted⟩ := bind_eq_ok.mp accepted
      cases accepted
      obtain ⟨lengthEq, laterFound⟩ := ih laterAccepted
      refine ⟨congrArg (· + 1) lengthEq, ?_⟩
      intro index context found
      cases index with
      | zero =>
          cases found
          exact ⟨draft, rules, rfl, rulesAccepted, rfl⟩
      | succ index => exact laterFound index context found

/-! ### Modes -/

/-- How a mode comes about from definitions, by way of drafts of its contexts. -/
structure Mode.IsMadeFrom (main : Definition) (others : List Definition) (maxDepth : Nat)
    (drafts : List ContextDraft) (mode : Mode) : Prop where
  nonempty : ∀ definition, definition ∈ main :: others → definition.contexts ≠ []
  drafted : compileContexts (Numbering.ofDefinitions main others)
    (delimitersIn (traitsOf (Numbering.ofDefinitions main others) (main :: others))) 1
    (declaredContexts (main :: others)) = .ok drafts
  finished : finishContexts
    (⟨main.name, "Normal Text"⟩ :: (Numbering.ofDefinitions main others).contexts)
    ([] :: drafts.map (·.entries)) (drafts.map (·.context)) = .ok mode.declared
  fallback : ∃ delimiters, mode.fallback =
    .fallback main.name delimiters main.keywords.caseSensitive
  registry : mode.registry = (registerAll main others).1
  notPlain : mode.isPlain = false
  initial : mode.initial = 1
  depth : mode.maxDepth = max maxDepth 1

/-- What a mode consists of, given its contexts before and after included rules are in place. -/
def Mode.ofContexts (main : Definition) (others : List Definition) (maxDepth : Nat)
    (drafts : List ContextDraft) (declared : List Context) (engine : Pattern.Engine) : Mode :=
  let traits := traitsOf (Numbering.ofDefinitions main others) (main :: others)
  { info := .ofDefinition main
    fallback := .fallback main.name (delimitersIn traits main.name) main.keywords.caseSensitive
    declared
    registry := (registerAll main others).1
    traits
    embedded := (others.map (·.name)).filter (· ≠ main.name)
    diagnostics := drafts.flatMap (·.diagnostics)
    initial := 1
    maxDepth := max maxDepth 1
    engine }

section Made

variable {main : Definition} {others : List Definition} {maxDepth : Nat}
  {drafts : List ContextDraft} {mode : Mode} {context : Context} {engine : Pattern.Engine}

theorem Mode.eq_ofContexts_of_ofDefinitions
    (accepted : Mode.ofDefinitions main others maxDepth engine = .ok mode) :
    ∃ drafts declared, mode = Mode.ofContexts main others maxDepth drafts declared engine ∧
      mode.IsMadeFrom main others maxDepth drafts := by
  unfold Mode.ofDefinitions at accepted
  cases faulty : (main :: others).find? fun definition => definition.contexts.isEmpty with
  | some definition =>
      simp only [faulty] at accepted
      cases accepted
  | none =>
      simp only [faulty] at accepted
      obtain ⟨drafts, draftsAccepted, accepted⟩ := bind_eq_ok.mp accepted
      obtain ⟨declared, declaredAccepted, accepted⟩ := bind_eq_ok.mp accepted
      cases accepted
      refine ⟨drafts, declared, rfl, ?_, draftsAccepted, declaredAccepted, ⟨_, rfl⟩, rfl, rfl, rfl,
        rfl⟩
      intro definition member empty
      have kept := List.find?_eq_none.mp faulty definition member
      rw [empty] at kept
      exact kept rfl

theorem Mode.isMadeFrom_of_ofDefinitions
    (accepted : Mode.ofDefinitions main others maxDepth engine = .ok mode) :
    ∃ drafts, mode.IsMadeFrom main others maxDepth drafts := by
  obtain ⟨drafts, _, _, made⟩ := Mode.eq_ofContexts_of_ofDefinitions accepted
  exact ⟨drafts, made⟩

/-- A context is the one that stands in for others, or a draft with its rules in place. -/
theorem Mode.IsMadeFrom.context_cases (made : mode.IsMadeFrom main others maxDepth drafts)
    (member : context ∈ mode.contexts) :
    context = mode.fallback ∨
      ∃ draft ∈ drafts, context = { draft.context with rules := context.rules } := by
  refine (List.mem_cons.mp member).imp_right fun declared => ?_
  obtain ⟨index, found⟩ := List.mem_iff_getElem?.mp declared
  obtain ⟨_, finished⟩ := finishContexts_getElem? made.finished
  obtain ⟨bare, rules, bareFound, _, rfl⟩ := finished index context found
  obtain ⟨draft, draftMember, rfl⟩ := List.mem_map.mp (List.mem_of_getElem? bareFound)
  exact ⟨draft, draftMember, rfl⟩

/-- A rule of a context is one of its own or an included one, and in either case that of a draft. -/
theorem Mode.IsMadeFrom.rule_mem (made : mode.IsMadeFrom main others maxDepth drafts)
    (member : context ∈ mode.contexts) {rule : Rule} (ruleMember : rule ∈ context.rules) :
    ∃ draft ∈ drafts, .rule rule ∈ draft.entries := by
  rcases List.mem_cons.mp member with isFallback | declared
  · obtain ⟨delimiters, fallback⟩ := made.fallback
    rw [isFallback, fallback] at ruleMember
    cases ruleMember
  · obtain ⟨index, found⟩ := List.mem_iff_getElem?.mp declared
    obtain ⟨_, finished⟩ := finishContexts_getElem? made.finished
    obtain ⟨bare, rules, _, flattened, rfl⟩ := finished index context found
    obtain ⟨entries, entriesMember, entryMember⟩ :=
      flattenRules_mem _ _ _ _ _ _ flattened rule ruleMember
    rcases List.mem_cons.mp entriesMember with isEmpty | inDrafts
    · rw [isEmpty] at entryMember
      cases entryMember
    · obtain ⟨draft, draftMember, rfl⟩ := List.mem_map.mp inDrafts
      exact ⟨draft, draftMember, entryMember⟩

end Made

theorem Numbering.ofDefinitions_isWithin (main : Definition) (others : List Definition)
    (nonempty : ∀ definition, definition ∈ main :: others → definition.contexts ≠ []) :
    (Numbering.ofDefinitions main others).IsWithin
      ((contextNames (main :: others)).length + 1) (registerAll main others).1.size := by
  obtain ⟨registered, covered⟩ := registerAll_covers main others
  constructor
  · exact Numbering.resolve?_bounds (main :: others) nonempty _ rfl rfl
  · exact Numbering.format_lt _ _ registered covered

theorem declaredContexts_length (definitions : List Definition) :
    (declaredContexts definitions).length = (contextNames definitions).length := by
  simp only [declaredContexts, contextNames, List.length_flatMap, List.length_map]

/-- Every main definition has a context, which is the initial one. -/
theorem contextNames_length_pos (main : Definition) (others : List Definition)
    (nonempty : main.contexts ≠ []) : 0 < (contextNames (main :: others)).length := by
  have positive := List.length_pos_iff.mpr nonempty
  rw [contextNames_length, List.map_cons, List.sum_cons]
  omega

/-- The declared contexts of a mode, each with its number and with nothing out of range. -/
theorem Mode.declared_isWithin {main : Definition} {others : List Definition} {maxDepth : Nat}
    {drafts : List ContextDraft} {mode : Mode}
    (made : mode.IsMadeFrom main others maxDepth drafts) :
    mode.contexts.length = (contextNames (main :: others)).length + 1 ∧
      ∀ (index : Nat) (context : Context), mode.declared[index]? = some context →
        context.id = index + 1 ∧
          context.IsWithin mode.contexts.length mode.registry.size := by
  have within := Numbering.ofDefinitions_isWithin main others made.nonempty
  obtain ⟨draftsLength, draftsWithin⟩ := compileContexts_isWithin within made.drafted
  obtain ⟨declaredLength, declaredFound⟩ := finishContexts_getElem? made.finished
  have lengthEq : mode.contexts.length = (contextNames (main :: others)).length + 1 := by
    rw [Mode.contexts, List.length_cons, declaredLength, List.length_map, draftsLength,
      declaredContexts_length]
  refine ⟨lengthEq, ?_⟩
  rw [lengthEq, made.registry]
  intro index context found
  obtain ⟨bare, rules, bareFound, _, rfl⟩ := declaredFound index context found
  rw [List.getElem?_map] at bareFound
  obtain ⟨draft, draftFound, rfl⟩ := Option.map_eq_some_iff.mp bareFound
  have own := draftsWithin index draft draftFound
  constructor
  · exact own.numbered.trans (Nat.add_comm 1 index)
  · refine { own.context with rules := ?_ }
    intro rule member
    obtain ⟨other, otherMember, entryMember⟩ :=
      made.rule_mem (List.mem_cons_of_mem _ (List.mem_of_getElem? found)) member
    obtain ⟨place, placeFound⟩ := List.mem_iff_getElem?.mp otherMember
    exact (draftsWithin place other placeFound).entries rule entryMember

theorem Context.fallback_isWithin (contexts formats : Nat) (registered : 0 < formats)
    (definition : String) (delimiters : List Char) (caseSensitive : Bool) :
    (Context.fallback definition delimiters caseSensitive).IsWithin contexts formats where
  lineEnd := Switch.stay_leadsWithin contexts 0
  lineEmpty := by intro switch impossible; cases impossible
  fallthrough := by intro switch impossible; cases impossible
  moves := by intro switch impossible; cases impossible
  format := registered
  rules := by intro rule impossible; cases impossible

theorem Mode.isClosed_of_ofDefinitions {main : Definition} {others : List Definition}
    {maxDepth : Nat} {mode : Mode} {engine : Pattern.Engine}
    (accepted : Mode.ofDefinitions main others maxDepth engine = .ok mode) : mode.IsClosed := by
  obtain ⟨drafts, made⟩ := Mode.isMadeFrom_of_ofDefinitions accepted
  obtain ⟨lengthEq, declared⟩ := Mode.declared_isWithin made
  have registered : 0 < mode.registry.size := by
    rw [made.registry]
    exact (registerAll_covers main others).1
  have positive :=
    contextNames_length_pos main others (made.nonempty main List.mem_cons_self)
  refine ⟨made.notPlain, made.initial, by omega, registered, ?_, ?_⟩
  · rw [made.depth]
    exact Nat.le_max_right maxDepth 1
  · intro context member
    rcases List.mem_cons.mp member with same | later
    · obtain ⟨delimiters, fallback⟩ := made.fallback
      rw [same, fallback]
      exact Context.fallback_isWithin _ _ registered _ _ _
    · obtain ⟨index, found⟩ := List.mem_iff_getElem?.mp later
      exact (declared index context found).2

theorem Mode.context_mem (mode : Mode) (id : Nat) : mode.context id ∈ mode.contexts := by
  unfold Mode.context
  cases found : mode.context? id with
  | none => exact List.mem_cons_self
  | some context => exact List.mem_of_getElem? found

/-! ### Closed modes -/

/-- Contexts stand at their numbers, the first of them being the one that stands in for all
others; what contexts and their rules refer to is there. -/
theorem Mode.references_in_range {main : Definition} {others : List Definition} {maxDepth : Nat}
    {mode : Mode} {engine : Pattern.Engine}
    (accepted : Mode.ofDefinitions main others maxDepth engine = .ok mode) :
    (∀ (index : Nat) (context : Context), mode.contexts[index]? = some context →
        context.id = index) ∧
      (∃ fallback, mode.contexts[0]? = some fallback ∧ fallback.rules = [] ∧
        fallback.lineEnd.isStay = true) ∧
      mode.initial = 1 ∧ mode.initial < mode.contexts.length ∧
      0 < mode.registry.size ∧
      ∀ context, context ∈ mode.contexts →
        context.IsWithin mode.contexts.length mode.registry.size := by
  obtain ⟨drafts, made⟩ := Mode.isMadeFrom_of_ofDefinitions accepted
  obtain ⟨_lengthEq, declared⟩ := Mode.declared_isWithin made
  obtain ⟨delimiters, fallback⟩ := made.fallback
  have closed := Mode.isClosed_of_ofDefinitions accepted
  refine ⟨?_, ⟨mode.fallback, rfl, ?_, ?_⟩, closed.initial_eq, ?_, closed.registered,
    closed.within⟩
  · intro index context found
    cases index with
    | zero =>
        cases found
        rw [fallback]
        rfl
    | succ index => exact (declared index context found).1
  · rw [fallback]
    rfl
  · rw [fallback]
    rfl
  · rw [closed.initial_eq]
    exact closed.initial_lt

theorem Mode.ofDefinitions_of_toOption {main : Definition} {others : List Definition}
    {maxDepth : Nat} {mode : Mode} {engine : Pattern.Engine}
    (made : (Mode.ofDefinitions main others maxDepth engine).toOption = some mode) :
    Mode.ofDefinitions main others maxDepth engine = .ok mode :=
  eq_ok_of_toOption made

/-- A language of nested blocks in which numbers stand as another language has them. -/
def blockLanguage : Definition where
  name := "Blocks"
  contexts :=
    [{ name := "Normal", format := "Text"
       rules := [{ kind := .char '(', format := some "Sign", switch := some "Block" }] },
     { name := "Block", format := "Text", lineEmpty := some "#pop"
       rules :=
         [{ kind := .char '(', format := some "Sign", switch := some "Block" },
          { kind := .char ')', format := some "Sign", switch := some "#pop" },
          { kind := .includeRules "##Numbers" }] }]
  formats := [{ name := "Text" }, { name := "Sign" }]

def numberLanguage : Definition where
  name := "Numbers"
  contexts := [{ name := "Number", rules := [{ kind := .integer, format := some "Number" }] }]
  formats := [{ name := "Number" }]

theorem blockLanguage_accepted (maxDepth : Nat) :
    ∃ mode, Mode.ofDefinitions blockLanguage [numberLanguage] maxDepth = .ok mode := by
  have accepted :
      (Mode.ofDefinitions blockLanguage [numberLanguage] maxDepth).isOk = true := by cbv
  cases made : Mode.ofDefinitions blockLanguage [numberLanguage] maxDepth with
  | error error =>
      rw [made] at accepted
      cases accepted
  | ok mode => exact ⟨mode, rfl⟩

theorem Mode.references_in_range_blockLanguage :
    ∃ mode, Mode.ofDefinitions blockLanguage [numberLanguage] 8 = .ok mode ∧
      (∀ (index : Nat) (context : Context), mode.contexts[index]? = some context →
        context.id = index) ∧
      ∀ context, context ∈ mode.contexts →
        context.IsWithin mode.contexts.length mode.registry.size := by
  obtain ⟨mode, accepted⟩ := blockLanguage_accepted 8
  obtain ⟨numbered, _, _, _, _, within⟩ := Mode.references_in_range accepted
  exact ⟨mode, accepted, numbered, within⟩

end SyntaxHighlight
