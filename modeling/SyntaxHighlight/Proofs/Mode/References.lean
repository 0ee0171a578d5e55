/-
Where references lead. A reference finds a context by name, in the definition in which it stands or
in another one that is the main one or is supplied by the lookup; every definition that is named in
a reference is among those that make up a mode, so nothing that exists is missed. Switches drop the
white space around their references. Includes do not, and may miss what a switch finds.
-/

import Mathlib
import SyntaxHighlight.Proofs.Grammar.ReferenceText
import SyntaxHighlight.Proofs.Mode.Includes
import SyntaxHighlight.Proofs.Mode.Pool

namespace SyntaxHighlight

open SyntaxHighlight.Text

/-! ### Contexts that are called by name -/

/-- The definition that goes by a name: the main one, or what a lookup supplies, which is not asked
for the empty name. -/
def supplied? (answer : String → Option Definition) (main : Definition) (name : String) :
    Option Definition :=
  if name = main.name then some main else if name.isEmpty then none else answer name

/-- The first context of a name. -/
def Definition.find? (definition : Definition) (name : String) : Option Nat :=
  definition.contexts.findIdx? (·.name = name)

/-- What a reference in a definition finds: a definition, and the place of one of its contexts. -/
def Reference.finds? (supplied? : String → Option Definition) (own : Definition) :
    Reference → Option (Definition × Nat)
  | here name => (own.find? name).map fun place => (own, place)
  | initial other => (supplied? other).map fun definition => (definition, 0)
  | elsewhere name other =>
      (supplied? other).bind fun definition =>
        (definition.find? name).map fun place => (definition, place)

/-- The number of contexts of the definitions in front of the one of a name. -/
def contextsBefore : List Definition → String → Nat
  | [], _ => 0
  | definition :: rest, name =>
      if definition.name = name then 0 else definition.contexts.length + contextsBefore rest name

/-- The number of a context of definitions. -/
def contextNumber (definitions : List Definition) (definition : Definition) (place : Nat) : Nat :=
  contextsBefore definitions definition.name + place + 1

section Numbers

variable {definitions : List Definition} {definition : Definition} {name : String}

theorem findIdx?_contextNames_of_absent (absent : ∀ other ∈ definitions, other.name ≠ name)
    (context : String) :
    (contextNames definitions).findIdx? (· = ⟨name, context⟩) = none := by
  rw [List.findIdx?_eq_none_iff]
  intro entry member
  obtain ⟨other, otherMember, inOther⟩ := List.mem_flatMap.mp member
  obtain ⟨declaration, _, rfl⟩ := List.mem_map.mp inOther
  simpa using fun same => absurd same (absent other otherMember)

/-- A definition is the first one, or there are the contexts of that in front of its own. -/
theorem contextsBefore_cases {first : Definition}
    (distinct : ((first :: definitions).map (·.name)).Nodup)
    (member : definition ∈ first :: definitions) :
    (first = definition ∧ contextsBefore (first :: definitions) definition.name = 0 ∧
        ∀ other ∈ definitions, other.name ≠ definition.name) ∨
      (definition ∈ definitions ∧ (definitions.map (·.name)).Nodup ∧
        first.name ≠ definition.name ∧
        contextsBefore (first :: definitions) definition.name =
          first.contexts.length + contextsBefore definitions definition.name) := by
  obtain ⟨absent, restDistinct⟩ := List.nodup_cons.mp distinct
  rw [contextsBefore]
  rcases List.mem_cons.mp member with rfl | later
  · exact .inl ⟨rfl, if_pos rfl, fun other otherMember same =>
      absent (List.mem_map.mpr ⟨other, otherMember, same⟩)⟩
  · have different : first.name ≠ definition.name := fun same =>
      absent (List.mem_map.mpr ⟨definition, later, same.symm⟩)
    exact .inr ⟨later, restDistinct, different, if_neg different⟩

theorem findIdx?_contextNames (distinct : (definitions.map (·.name)).Nodup)
    (member : definition ∈ definitions) (context : String) :
    (contextNames definitions).findIdx? (· = ⟨definition.name, context⟩) =
      (definition.find? context).map fun place =>
        contextsBefore definitions definition.name + place := by
  induction definitions with
  | nil => cases member
  | cons first rest ih =>
      rw [contextNames, List.flatMap_cons, ← contextNames, List.findIdx?_append, List.findIdx?_map,
        List.length_map]
      rcases contextsBefore_cases distinct member with
        ⟨rfl, none, absent⟩ | ⟨later, restDistinct, different, before⟩
      · rw [none, findIdx?_contextNames_of_absent absent]
        simp [Definition.find?, Function.comp_def]
      · have missing : first.contexts.findIdx?
            ((· = ⟨definition.name, context⟩) ∘ fun declaration =>
              (⟨first.name, declaration.name⟩ : ContextName)) = none := by
          rw [List.findIdx?_eq_none_iff]
          intro declaration _
          simpa using fun same => absurd same different
        rw [before, missing, ih restDistinct later, Option.none_or, Option.map_map]
        refine Option.map_congr fun place _ => ?_
        dsimp only [Function.comp]
        omega

theorem keys_initialContexts (first : Nat) (definitions : List Definition) :
    (initialContexts first definitions).map Prod.fst = definitions.map (·.name) := by
  induction definitions generalizing first with
  | nil => rfl
  | cons definition rest ih => rw [initialContexts, List.map_cons, List.map_cons, ih]

theorem mem_initialContexts (distinct : (definitions.map (·.name)).Nodup)
    (member : definition ∈ definitions) (first : Nat) :
    (definition.name, first + contextsBefore definitions definition.name) ∈
      initialContexts first definitions := by
  induction definitions generalizing first with
  | nil => cases member
  | cons other rest ih =>
      rw [initialContexts]
      rcases contextsBefore_cases distinct member with
        ⟨rfl, none, _⟩ | ⟨later, restDistinct, _, before⟩
      · rw [none]
        exact List.mem_cons_self
      · rw [before, ← Nat.add_assoc]
        exact List.mem_cons_of_mem _ (ih restDistinct later _)

theorem lookup_of_mem {entries : List (String × Nat)} (distinct : (entries.map Prod.fst).Nodup)
    {key : String} {value : Nat} (member : (key, value) ∈ entries) :
    entries.lookup key = some value := by
  cases found : entries.lookup key with
  | none =>
      have missing := List.lookup_eq_none_iff.mp found (key, value) member
      simp at missing
  | some other =>
      have same := List.inj_on_of_nodup_map distinct (mem_of_lookup found) member rfl
      exact congrArg some (Prod.ext_iff.mp same).2

/-- The declaration with the number of a context. -/
theorem declaredContexts_getElem? (distinct : (definitions.map (·.name)).Nodup)
    (member : definition ∈ definitions) {place : Nat} {declaration : ContextDeclaration}
    (found : definition.contexts[place]? = some declaration) :
    (declaredContexts definitions)[contextsBefore definitions definition.name + place]? =
      some (definition, declaration) := by
  induction definitions with
  | nil => cases member
  | cons first rest ih =>
      rw [declaredContexts, List.flatMap_cons, ← declaredContexts]
      rcases contextsBefore_cases distinct member with
        ⟨rfl, none, _⟩ | ⟨later, restDistinct, _, before⟩
      · obtain ⟨inside, _⟩ := List.getElem?_eq_some_iff.mp found
        rw [none, Nat.zero_add, List.getElem?_append_left (by rwa [List.length_map]),
          List.getElem?_map, found, Option.map_some]
      · rw [before, List.getElem?_append_right (by rw [List.length_map]; omega), List.length_map,
          Nat.add_assoc, Nat.add_sub_cancel_left]
        exact ih restDistinct later

end Numbers

/-! ### Where references lead -/

/-- The number of the context that the text of a reference finds from a definition. -/
def leadsTo? (answer : String → Option Definition) (main : Definition) (others : List Definition)
    (own : Definition) (text : String) : Option Nat :=
  ((Reference.ofText text).finds? (supplied? answer main) own).map fun found =>
    contextNumber (main :: others) found.1 found.2

section Leads

variable {answer : String → Option Definition} {main own : Definition} {others : List Definition}
  {text name other : String}

theorem leadsTo?_here (reference : Reference.ofText text = .here name) :
    leadsTo? answer main others own text =
      (own.find? name).map (contextNumber (main :: others) own) := by
  rw [leadsTo?, reference, Reference.finds?, Option.map_map]
  rfl

theorem leadsTo?_initial (reference : Reference.ofText text = .initial other) :
    leadsTo? answer main others own text =
      (supplied? answer main other).map fun definition =>
        contextNumber (main :: others) definition 0 := by
  rw [leadsTo?, reference, Reference.finds?, Option.map_map]
  rfl

theorem leadsTo?_elsewhere (reference : Reference.ofText text = .elsewhere name other) :
    leadsTo? answer main others own text =
      (supplied? answer main other).bind fun definition =>
        (definition.find? name).map (contextNumber (main :: others) definition) := by
  rw [leadsTo?, reference, Reference.finds?, Option.map_bind]
  refine Option.bind_congr fun definition _ => ?_
  rw [Function.comp, Option.map_map]
  rfl

end Leads

/-- The definitions of a mode that go by a name are those that are supplied under it. -/
def IsSupplied (answer : String → Option Definition) (main : Definition)
    (others : List Definition) (name : String) : Prop :=
  ∀ definition, supplied? answer main name = some definition ↔
    definition ∈ main :: others ∧ definition.name = name

section Resolution

variable {answer : String → Option Definition} {main own : Definition} {others : List Definition}

theorem context?_eq (distinct : ((main :: others).map (·.name)).Nodup)
    (member : own ∈ main :: others) (context : String) :
    (Numbering.ofDefinitions main others).context? ⟨own.name, context⟩ =
      (own.find? context).map (contextNumber (main :: others) own) := by
  rw [Numbering.context?, Numbering.ofDefinitions, findIdx?_contextNames distinct member,
    Option.map_map]
  rfl

theorem initial?_eq (distinct : ((main :: others).map (·.name)).Nodup)
    (member : own ∈ main :: others) :
    (Numbering.ofDefinitions main others).initial? own.name =
      some (contextNumber (main :: others) own 0) := by
  rw [Numbering.initial?, Numbering.ofDefinitions]
  -- The table is searched from its end, which is no matter as no name is in it twice.
  have keys : (((initialContexts 1 (main :: others)).reverse).map Prod.fst).Nodup := by
    rw [List.map_reverse, List.nodup_reverse, keys_initialContexts]
    exact distinct
  rw [lookup_of_mem keys (List.mem_reverse.mpr (mem_initialContexts distinct member 1)),
    contextNumber]
  congr 1
  omega

theorem context?_of_absent {name : String} (absent : ∀ other ∈ main :: others, other.name ≠ name)
    (context : String) :
    (Numbering.ofDefinitions main others).context? ⟨name, context⟩ = none := by
  rw [Numbering.context?, Numbering.ofDefinitions, findIdx?_contextNames_of_absent absent]
  rfl

theorem initial?_of_absent {name : String} (absent : ∀ other ∈ main :: others, other.name ≠ name) :
    (Numbering.ofDefinitions main others).initial? name = none := by
  cases found : (Numbering.ofDefinitions main others).initial? name with
  | none => rfl
  | some id =>
      have member : (name, id) ∈ initialContexts 1 (main :: others) :=
        List.mem_reverse.mp (mem_of_lookup found)
      have key := List.mem_map_of_mem (f := Prod.fst) member
      rw [keys_initialContexts] at key
      obtain ⟨other, otherMember, same⟩ := List.mem_map.mp key
      exact absurd same (absent other otherMember)

/-- A name under which no definition is supplied is not that of a definition of the mode. -/
theorem IsSupplied.absent {name : String} (supplied : IsSupplied answer main others name)
    (missing : supplied? answer main name = none) :
    ∀ other ∈ main :: others, other.name ≠ name := by
  intro other member same
  have found := (supplied other).mpr ⟨member, same⟩
  rw [missing] at found
  cases found

/-- References are resolved to what they find. -/
theorem resolve?_eq_leadsTo? (distinct : ((main :: others).map (·.name)).Nodup)
    (member : own ∈ main :: others) {text : String}
    (supplied : ∀ name, name = "" ∨ (Reference.ofText text).definition? = some name →
      IsSupplied answer main others name) :
    (Numbering.ofDefinitions main others).resolve? own.name text =
      leadsTo? answer main others own text := by
  have named (name : String) :
      name = "" ∨ (if name.isEmpty then none else some name) = some name := by
    cases empty : name.isEmpty with
    | true => exact .inl (String.isEmpty_iff.mp empty)
    | false => exact .inr rfl
  unfold Numbering.resolve?
  cases reference : Reference.ofText text with
  | here context =>
      rw [leadsTo?_here reference]
      exact context?_eq distinct member context
  | initial other =>
      rw [reference] at supplied
      have isSupplied := supplied other (named other)
      rw [leadsTo?_initial reference]
      cases found : supplied? answer main other with
      | none => exact initial?_of_absent (isSupplied.absent found)
      | some definition =>
          obtain ⟨inMode, rfl⟩ := (isSupplied definition).mp found
          exact initial?_eq distinct inMode
  | elsewhere context other =>
      rw [reference] at supplied
      have isSupplied := supplied other (named other)
      rw [leadsTo?_elsewhere reference]
      cases found : supplied? answer main other with
      | none => exact context?_of_absent (isSupplied.absent found) context
      | some definition =>
          obtain ⟨inMode, rfl⟩ := (isSupplied definition).mp found
          exact context?_eq distinct inMode context

end Resolution

/-! ### Names that are looked up -/

theorem Definition.ne_empty_of_mem_references {definition : Definition} {name : String}
    (refers : name ∈ definition.references) : name ≠ "" := by
  obtain ⟨_, _, text, _, named⟩ := Definition.mem_references.mp refers
  rw [definition?_eq] at named
  have nonempty := (Option.filter_eq_some_iff.mp named).2
  rintro rfl
  cases nonempty

theorem Follows.ne_empty {answer : String → Option Definition} {seen pending calls : List String}
    (follows : Follows answer seen pending calls) (nonempty : ∀ name ∈ pending, name ≠ "") :
    ∀ name ∈ calls, name ≠ "" := by
  induction follows with
  | done seen => exact fun name none => nomatch none
  | again seen pending calls name old rest ih => exact ih (List.forall_mem_cons.mp nonempty).2
  | call seen pending calls name new rest ih =>
      obtain ⟨first, later⟩ := List.forall_mem_cons.mp nonempty
      refine List.forall_mem_cons.mpr ⟨first, ih (List.forall_mem_append.mpr ⟨later, ?_⟩)⟩
      intro reference refers
      obtain ⟨definition, _, referenced⟩ := mem_referencesBehind.mp refers
      exact Definition.ne_empty_of_mem_references referenced

/-- A search finds what is supplied under the names to which definitions refer. -/
theorem Follows.isSupplied {answer : String → Option Definition} {main : Definition}
    {calls : List String} (follows : Follows answer [main.name] main.references calls)
    (named : ∀ name definition, answer name = some definition → definition.name = name)
    {name : String} (mentioned : name = "" ∨
      ∃ definition ∈ main :: calls.filterMap answer, name ∈ definition.references) :
    IsSupplied answer main (calls.filterMap answer) name := by
  intro definition
  unfold supplied?
  split
  case isTrue isMain =>
    constructor
    · rintro same
      cases same
      exact ⟨List.mem_cons_self, isMain.symm⟩
    · rintro ⟨member, same⟩
      exact congrArg some (List.inj_on_of_nodup_map (follows.names_nodup named)
        List.mem_cons_self member (isMain.symm.trans same.symm))
  case isFalse apart =>
    have inOthers (member : definition ∈ main :: calls.filterMap answer)
        (same : definition.name = name) : definition ∈ calls.filterMap answer := by
      refine (List.mem_cons.mp member).resolve_left ?_
      rintro rfl
      exact apart same.symm
    split
    case isTrue empty =>
      refine ⟨fun none => (nomatch none), ?_⟩
      rintro ⟨member, same⟩
      have called := name_mem_calls named (inOthers member same)
      have nonempty := follows.ne_empty
        (fun other => Definition.ne_empty_of_mem_references) _ called
      exact absurd (same.trans (String.isEmpty_iff.mp empty)) nonempty
    case isFalse nonempty =>
      constructor
      · intro found
        obtain ⟨referrer, member, refers⟩ :=
          mentioned.resolve_left fun empty => nonempty (String.isEmpty_iff.mpr empty)
        have called := (follows.isMain_or_called member refers).resolve_left apart
        exact ⟨List.mem_cons_of_mem main (List.mem_filterMap.mpr ⟨name, called, found⟩),
          named name definition found⟩
      · rintro ⟨member, same⟩
        obtain ⟨other, _, found⟩ := List.mem_filterMap.mp (inOthers member same)
        rwa [← same, named other definition found]

/-! ### White space around includes -/

/-- A text whose white space makes a difference to where it leads: in front of number signs, or
around the name of a context. -/
def Strays (supplied? : String → Option Definition) (own : Definition) (text : String) : Prop :=
  match Reference.ofText (trimString text) with
  | .here name => name ≠ text ∧ ((own.find? name).isSome ∨ (own.find? text).isSome)
  | .initial other =>
      text.toList.head?.any isWhitespace ∧
        ∃ definition, supplied? other = some definition ∧ definition.find? "" ≠ some 0
  | .elsewhere _ _ => False

section White

variable {answer : String → Option Definition} {main own : Definition} {others : List Definition}

theorem contextNumber_injective (definitions : List Definition) (definition : Definition) :
    Function.Injective (contextNumber definitions definition) := by
  intro one other same
  unfold contextNumber at same
  omega

/-- Different names are found in different places. -/
theorem Definition.find?_eq_iff {name text : String} (different : name ≠ text) :
    own.find? text = own.find? name ↔ own.find? name = none ∧ own.find? text = none := by
  constructor
  · intro same
    cases found : own.find? name with
    | none => exact ⟨rfl, same.trans found⟩
    | some place =>
        obtain ⟨_, named, _⟩ := List.findIdx?_eq_some_iff_getElem.mp found
        obtain ⟨_, texted, _⟩ := List.findIdx?_eq_some_iff_getElem.mp (same.trans found)
        exact absurd ((of_decide_eq_true named).symm.trans (of_decide_eq_true texted)) different
  · rintro ⟨none, textNone⟩
    rw [none, textNone]

theorem leadsTo?_trim_iff (text : String) :
    leadsTo? answer main others own text = leadsTo? answer main others own (trimString text) ↔
      ¬Strays (supplied? answer main) own text := by
  unfold Strays
  rcases ofText_trim_cases text with
    ⟨raw, trimmed⟩ | ⟨other, trimmed, raw⟩ | ⟨name, other, trimmed, raw⟩
  · rw [leadsTo?_here raw, leadsTo?_here trimmed, trimmed,
      (Option.map_injective (contextNumber_injective _ own)).eq_iff]
    by_cases same : trimString text = text
    · simp [same]
    · simp [Definition.find?_eq_iff same, same]
  · by_cases white : text.toList.head?.any isWhitespace = true
    · rw [if_pos white] at raw
      rw [leadsTo?_elsewhere raw, leadsTo?_initial trimmed, trimmed]
      cases found : supplied? answer main other with
      | none => simp [found]
      | some definition =>
          have place := (Option.map_injective (contextNumber_injective (main :: others)
            definition)).eq_iff (a := definition.find? "") (b := some 0)
          simpa [found, white] using place
    · rw [if_neg white] at raw
      rw [leadsTo?_initial raw, leadsTo?_initial trimmed, trimmed]
      simp [white]
  · rw [leadsTo?_elsewhere raw, leadsTo?_elsewhere trimmed, trimmed]
    simp

end White

/-! ### Contexts by their declarations -/

/-- A switch that does what its text says. -/
def SwitchReads (lead : String → Option Nat) (text : String) (switch : Switch) : Prop :=
  ∃ pops reference, SwitchParts text pops reference ∧
    switch = ⟨pops, targetOf lead (String.ofList reference)⟩

/-- The entries for a rule: what it includes, if it finds that, or one rule with its switch. -/
structure RuleReads (lead : String → Option Nat) (declaration : RuleDeclaration)
    (entries : List RuleEntry) : Prop where
  included : ∀ target, declaration.kind = .includeRules target →
    entries = ((lead target).map RuleEntry.included).toList
  rule : (∀ target, declaration.kind ≠ .includeRules target) → ∃ rule switch,
    entries = [.rule rule] ∧ Option.Rel (SwitchReads lead) declaration.switch switch ∧
      rule.switch = switch.getD {}

/-- A context whose references lead where those of its declaration do. -/
structure ContextDraft.IsReadFrom (lead : String → Option Nat) (definition : Definition)
    (declaration : ContextDeclaration) (draft : ContextDraft) : Prop where
  name : draft.context.name = declaration.name
  definition : draft.context.definition = definition.name
  lineEnd : SwitchReads lead declaration.lineEnd draft.context.lineEnd
  lineEmpty : Option.Rel (SwitchReads lead) declaration.lineEmpty draft.context.lineEmpty
  fallthrough : ∃ switch, Option.Rel (SwitchReads lead) declaration.fallthrough switch ∧
    draft.context.fallthrough = switch.filter fun switch => !switch.isStay
  entries : ∃ parts, draft.entries = parts.flatten ∧
    List.Forall₂ (RuleReads lead) declaration.rules parts

section Compile

variable {numbering : Numbering} {lead : String → Option Nat} {definition : Definition}

theorem compileOptional_reads {compile : String → Switch × List Diagnostic} {text? : Option String}
    (reads : ∀ text, text? = some text → SwitchReads lead text (compile text).1) :
    Option.Rel (SwitchReads lead) text? (compileOptional compile text?).1 := by
  cases text? with
  | none => exact .none
  | some text => exact .some (reads text rfl)

theorem compileEntry_reads {context : String} {declaration : RuleDeclaration}
    {compiled : List RuleEntry × List Diagnostic}
    (accepted : compileEntry numbering definition context declaration = .ok compiled)
    (reads : ∀ text, declaration.switch = some text →
      SwitchReads lead text (compileSwitch numbering definition.name context text).1)
    (resolves : ∀ target, declaration.kind = .includeRules target →
      numbering.resolve? definition.name target = lead target) :
    RuleReads lead declaration compiled.1 := by
  rcases compileEntry_cases accepted with ⟨matcher, rfl⟩ | ⟨target, isInclude, rfl⟩
  · constructor
    · intro target isInclude
      rw [compileEntry, isInclude] at accepted
      have same := congrArg Prod.fst (Except.ok.inj accepted)
      unfold compileInclude at same
      split at same <;> cases same
    · exact fun _ => ⟨_, _, rfl, compileOptional_reads reads, rfl⟩
  · refine ⟨?_, fun apart => absurd isInclude (apart target)⟩
    intro other isOther
    cases isInclude.symm.trans isOther
    unfold compileInclude
    rw [resolves target isInclude]
    cases lead target with
    | none => rfl
    | some id => rfl

theorem compileContext_reads {delimiters : List Char} {id : Nat}
    {declaration : ContextDeclaration} {draft : ContextDraft}
    (accepted : compileContext numbering delimiters definition id declaration = .ok draft)
    (reads : ∀ text ∈ declaration.references,
      SwitchReads lead text (compileSwitch numbering definition.name declaration.name text).1)
    (resolves : ∀ text ∈ declaration.references,
      numbering.resolve? definition.name text = lead text) :
    draft.IsReadFrom lead definition declaration := by
  have mentions := @ContextDeclaration.mem_references declaration
  have ruleReads : ∀ rule ∈ declaration.rules, ∀ entries,
      compileEntry numbering definition declaration.name rule = .ok entries →
        RuleReads lead rule entries.1 := by
    intro rule member entries entryAccepted
    refine compileEntry_reads entryAccepted ?_ ?_
    · exact fun text own => reads text (mentions.mpr (.inr (.inr (.inr ⟨rule, member, .inl own⟩))))
    · exact fun target own =>
        resolves target (mentions.mpr (.inr (.inr (.inr ⟨rule, member, .inr own⟩))))
  unfold compileContext at accepted
  generalize compileSwitch numbering definition.name declaration.name = compile
    at accepted reads
  obtain ⟨compiled, rulesAccepted, same⟩ := bind_eq_ok.mp accepted
  cases same
  refine ⟨rfl, rfl, ?_, ?_, ⟨_, ?_, rfl⟩, compiled.map Prod.fst, List.flatMap_def, ?_⟩
  · exact reads _ (mentions.mpr (.inl rfl))
  · exact compileOptional_reads fun text own => reads text (mentions.mpr (.inr (.inl own)))
  · exact compileOptional_reads fun text own => reads text (mentions.mpr (.inr (.inr (.inl own))))
  · rw [List.forall₂_map_right_iff]
    exact mapM_forall₂ rulesAccepted ruleReads

theorem compileContexts_getElem? {delimitersOf : String → List Char}
    {declarations : List (Definition × ContextDeclaration)} {id : Nat}
    {drafts : List ContextDraft}
    (accepted : compileContexts numbering delimitersOf id declarations = .ok drafts) {index : Nat}
    {declaration : ContextDeclaration}
    (found : declarations[index]? = some (definition, declaration)) :
    ∃ draft, drafts[index]? = some draft ∧
      compileContext numbering (delimitersOf definition.name) definition (id + index) declaration =
        .ok draft := by
  induction declarations generalizing id drafts index with
  | nil => cases found
  | cons entry rest ih =>
      obtain ⟨other, otherDeclaration⟩ := entry
      obtain ⟨first, firstAccepted, accepted⟩ := bind_eq_ok.mp accepted
      obtain ⟨later, laterAccepted, accepted⟩ := bind_eq_ok.mp accepted
      cases accepted
      cases index with
      | zero =>
          cases found
          exact ⟨first, rfl, firstAccepted⟩
      | succ index =>
          obtain ⟨draft, draftFound, draftAccepted⟩ := ih laterAccepted found
          rw [Nat.add_right_comm] at draftAccepted
          exact ⟨draft, draftFound, draftAccepted⟩

end Compile

/-! ### Modes -/

section Modes

variable {answer : String → Option Definition} {main own : Definition} {others : List Definition}
  {maxDepth : Nat} {mode : Mode} {drafts : List ContextDraft}

/-- The context with a number is made from the draft in the same place. -/
theorem Mode.IsMadeFrom.context_eq (made : mode.IsMadeFrom main others maxDepth drafts)
    {index : Nat} {draft : ContextDraft} (found : drafts[index]? = some draft) :
    ∃ context, mode.contexts[index + 1]? = some context ∧
      context = { draft.context with rules := context.rules } ∧
      Expands (draftEntries drafts) draft.entries context.rules := by
  obtain ⟨lengthEq, declaredFound⟩ := finishContexts_getElem? made.finished
  obtain ⟨inside, _⟩ := List.getElem?_eq_some_iff.mp found
  rw [List.length_map] at lengthEq
  have declared : index < mode.declared.length := by omega
  have present := List.getElem?_eq_getElem declared
  obtain ⟨own, rules, ownFound, _, same⟩ := declaredFound index _ present
  rw [List.getElem?_map, found, Option.map_some, Option.some.injEq] at ownFound
  subst ownFound
  have expands := made.expands (index + 1)
  have context : mode.context (index + 1) = { draft.context with rules } := by
    rw [show mode.context (index + 1) = (mode.declared[index]?).getD mode.fallback from rfl,
      present, Option.getD_some, same]
  have entries : entriesOf (draftEntries drafts) (index + 1) = draft.entries := by
    rw [entriesOf, draftEntries, List.getElem?_cons_succ, List.getElem?_map, found, Option.map_some,
      Option.getD_some]
  rw [context, entries] at expands
  exact ⟨{ draft.context with rules }, present.trans (congrArg some same), rfl, expands⟩

theorem Mode.IsMadeFrom.isReadFrom (made : mode.IsMadeFrom main others maxDepth drafts)
    (distinct : ((main :: others).map (·.name)).Nodup)
    (supplied : ∀ name, (name = "" ∨
      ∃ definition ∈ main :: others, name ∈ definition.references) →
        IsSupplied answer main others name)
    (member : own ∈ main :: others) {place : Nat} {declaration : ContextDeclaration}
    (found : own.contexts[place]? = some declaration) :
    ∃ draft, drafts[contextsBefore (main :: others) own.name + place]? = some draft ∧
      draft.IsReadFrom (leadsTo? answer main others own) own declaration := by
  obtain ⟨draft, draftFound, accepted⟩ :=
    compileContexts_getElem? made.drafted (declaredContexts_getElem? distinct member found)
  have mentioned (text : String) (refers : text ∈ declaration.references) (name : String)
      (named : name = "" ∨ (Reference.ofText text).definition? = some name) :
      IsSupplied answer main others name :=
    supplied name (named.imp_right fun named => ⟨own, member, Definition.mem_references.mpr
      ⟨declaration, List.mem_of_getElem? found, text, refers, named⟩⟩)
  refine ⟨draft, draftFound, compileContext_reads accepted ?_ ?_⟩
  · intro text refers
    obtain ⟨pops, reference, parts, same⟩ :=
      compileSwitch_parts (Numbering.ofDefinitions main others) own.name declaration.name text
    refine ⟨pops, reference, parts, same.trans ?_⟩
    have named := mentioned text refers
    rw [← parts.definition?] at named
    rw [targetOf, targetOf, resolve?_eq_leadsTo? distinct member named]
  · exact fun text refers => resolve?_eq_leadsTo? distinct member (mentioned text refers)

end Modes

/-- In a mode with all definitions that its lookup supplies, no matter how many may be followed,
contexts are numbered by definition, and their references lead to what they find: a context of the
same definition, the initial one of another, or one that this declares, the first of its name.
Switches drop the white space around their texts; includes do not, which makes a difference exactly
for the texts that stray. -/
theorem Mode.references_lead {σ : Type} {lookup : String → StateM σ (Option Definition)}
    {answer : String → Option Definition} {valid : σ → Prop} {main : Definition} {limit : Nat}
    {start final : σ} {others : List Definition} {maxDepth : Nat} {mode : Mode}
    (answers : ∀ name state, valid state →
      (lookup name state).1 = answer name ∧ valid (lookup name state).2)
    (startValid : valid start)
    (named : ∀ name definition, answer name = some definition → definition.name = name)
    (collected : ∀ more, limit ≤ more → collectDefinitions lookup more main start = (others, final))
    (accepted : Mode.ofDefinitions main others maxDepth = .ok mode) :
    (∀ name, (name = "" ∨ ∃ definition ∈ main :: others, name ∈ definition.references) →
      IsSupplied answer main others name) ∧
    (∃ drafts, draftContexts main others = .ok drafts ∧
      ∀ own ∈ main :: others, ∀ place declaration, own.contexts[place]? = some declaration →
        ∃ (draft : ContextDraft) (context : Context), draft ∈ drafts ∧
          mode.contexts[contextNumber (main :: others) own place]? = some context ∧
          context = { draft.context with rules := context.rules } ∧
          Expands (draftEntries drafts) draft.entries context.rules ∧
          draft.IsReadFrom (leadsTo? answer main others own) own declaration) ∧
    ∀ own ∈ main :: others, ∀ declaration ∈ own.contexts, ∀ text ∈ declaration.references,
      ((Numbering.ofDefinitions main others).resolve? own.name text =
          leadsTo? answer main others own (trimString text) ↔
        ¬Strays (supplied? answer main) own text) := by
  have atLimit := collected limit (Nat.le_refl limit)
  obtain ⟨calls, follows, few⟩ := exists_follows_of_uncut answers limit [main.name]
    main.references startValid
    (congrArg Prod.fst ((collected (limit + 1) (Nat.le_succ limit)).trans atLimit.symm))
  have searched := follows.followReferences_eq answers limit few start startValid
  obtain ⟨rfl, _⟩ := Prod.ext_iff.mp (searched.symm.trans atLimit)
  have distinct := follows.names_nodup named
  have supplied := fun name => @Follows.isSupplied answer main calls follows named name
  obtain ⟨drafts, made⟩ := Mode.isMadeFrom_of_ofDefinitions accepted
  refine ⟨supplied, ⟨drafts, made.drafted, ?_⟩, ?_⟩
  · intro own member place declaration found
    obtain ⟨draft, draftFound, reads⟩ := made.isReadFrom distinct supplied member found
    obtain ⟨context, contextFound, same, expands⟩ := made.context_eq draftFound
    exact ⟨draft, context, List.mem_of_getElem? draftFound, contextFound, same, expands, reads⟩
  · intro own member declaration declared text refers
    rw [resolve?_eq_leadsTo? distinct member]
    · exact leadsTo?_trim_iff text
    · exact fun name named => supplied name (named.imp_right fun named =>
        ⟨own, member, Definition.mem_references.mpr ⟨declaration, declared, text, refers, named⟩⟩)

/-- A definition with blanks in front of its references. -/
def spacedLanguage : Definition where
  name := "Spaced"
  contexts :=
    [{ name := "Normal"
       rules :=
         [{ kind := .includeRules " Common" }, { kind := .char 'x', switch := some " Common" },
          { kind := .char 'y', switch := some " #pop#pop!Second##Far" }] },
     { name := "Common", rules := [{ kind := .char 'c' }] }]

def farLanguage : Definition where
  name := "Far"
  contexts := [{ name := "First" }, { name := "Second" }, { name := "Second" }]

def farAnswer (name : String) : Option Definition :=
  if name = "Far" then some farLanguage else none

def farLookup (name : String) : StateM Unit (Option Definition) := fun state =>
  (farAnswer name, state)

theorem farAnswer_eq_some {name : String} {definition : Definition}
    (found : farAnswer name = some definition) : name = "Far" ∧ definition = farLanguage := by
  unfold farAnswer at found
  split at found
  case isTrue isFar => exact ⟨isFar, (Option.some.inj found).symm⟩
  case isFalse => cases found

theorem Mode.references_lead_spacedLanguage :
    ∃ mode, Mode.ofDefinitions spacedLanguage [farLanguage] 8 = .ok mode ∧
      IsSupplied farAnswer spacedLanguage [farLanguage] "Far" ∧
      ((Numbering.ofDefinitions spacedLanguage [farLanguage]).resolve? "Spaced" " Common" =
          leadsTo? farAnswer spacedLanguage [farLanguage] spacedLanguage (trimString " Common") ↔
        ¬Strays (supplied? farAnswer spacedLanguage) spacedLanguage " Common") ∧
      Strays (supplied? farAnswer spacedLanguage) spacedLanguage " Common" := by
  have answers : ∀ name state, True →
      (farLookup name state).1 = farAnswer name ∧ True :=
    fun name state valid => ⟨rfl, valid⟩
  have named : ∀ name definition, farAnswer name = some definition → definition.name = name := by
    intro name definition found
    obtain ⟨rfl, rfl⟩ := farAnswer_eq_some found
    rfl
  have references : spacedLanguage.references = ["Far"] := by cbv
  have collected : ∀ more, 1 ≤ more →
      collectDefinitions farLookup more spacedLanguage () = ([farLanguage], ()) := by
    intro more positive
    obtain ⟨limit, rfl⟩ := Nat.exists_eq_succ_of_ne_zero (Nat.ne_of_gt positive)
    rw [collectDefinitions, references, followReferences_of_some (by decide) rfl,
      show farLanguage.references = [] by cbv, List.append_nil, followReferences]
    rfl
  have made : (Mode.ofDefinitions spacedLanguage [farLanguage] 8).toOption.isSome := by cbv
  obtain ⟨mode, found⟩ := Option.isSome_iff_exists.mp made
  have accepted := Mode.ofDefinitions_of_toOption found
  obtain ⟨supplied, _, spaces⟩ :=
    Mode.references_lead answers trivial named collected accepted
  have mentioned : "Far" ∈ spacedLanguage.references := by
    rw [references]
    exact List.mem_singleton_self "Far"
  have reference : Reference.ofText (trimString " Common") = .here "Common" := by cbv
  refine ⟨mode, accepted, supplied "Far" (.inr ⟨_, List.mem_cons_self, mentioned⟩), ?_, ?_⟩
  · refine spaces spacedLanguage List.mem_cons_self _ List.mem_cons_self " Common" ?_
    exact ContextDeclaration.mem_references.mpr
      (.inr (.inr (.inr ⟨_, List.mem_cons_self, .inr rfl⟩)))
  · rw [Strays, reference]
    exact ⟨by decide, .inl (by decide)⟩

/-- An include that does not find the context to which a switch with the same text leads. -/
theorem Mode.include_strays_spacedLanguage :
    ∃ mode, Mode.ofDefinitions spacedLanguage [farLanguage] 8 = .ok mode ∧
      (mode.context 2).name = "Common" ∧
      (mode.context 1).rules.map (·.switch) =
        [⟨0, some (.context 2)⟩, ⟨2, some (.context 4)⟩] ∧
      mode.diagnostics = [.danglingReference "Normal" " Common"] := by
  have computed :
      ((Mode.ofDefinitions spacedLanguage [farLanguage] 8).toOption.map fun mode =>
        ((mode.context 2).name, (mode.context 1).rules.map (·.switch), mode.diagnostics)) =
          some ("Common", [⟨0, some (.context 2)⟩, ⟨2, some (.context 4)⟩],
            [.danglingReference "Normal" " Common"]) := by
    cbv
  obtain ⟨mode, found, same⟩ := Option.map_eq_some_iff.mp computed
  obtain ⟨name, rest⟩ := Prod.mk.inj same
  obtain ⟨switches, diagnostics⟩ := Prod.mk.inj rest
  exact ⟨mode, Mode.ofDefinitions_of_toOption found, name, switches, diagnostics⟩

end SyntaxHighlight
