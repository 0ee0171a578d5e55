/-
Where the rules of a mode come from. Rules are copied from one context to another, and yet each of
them is what some declaration became in its own definition; and every declaration of a rule has
become one in the context that declares it. What the compiler makes of a single declaration is so
true of all rules of a mode.
-/

import SyntaxHighlight.Proofs.Mode.Ownership

namespace SyntaxHighlight

/-- A rule is what a declaration in a context of a definition becomes. -/
def Rule.IsCompiledFrom (numbering : Numbering) (definition : Definition) (context : String)
    (declaration : RuleDeclaration) (rule : Rule) : Prop :=
  ∃ compiled, compileEntry numbering definition context declaration = .ok compiled ∧
    .rule rule ∈ compiled.1

section Rules

variable {numbering : Numbering} {definition : Definition} {context : String}
  {declaration : RuleDeclaration} {rule : Rule}

theorem Rule.IsCompiledFrom.exists_matcher
    (compiled : rule.IsCompiledFrom numbering definition context declaration) :
    ∃ matcher, rule = (compileRule numbering definition context declaration matcher).1 := by
  obtain ⟨entries, accepted, member⟩ := compiled
  rcases compileEntry_cases accepted with ⟨matcher, rfl⟩ | ⟨target, _, rfl⟩
  · exact ⟨matcher, RuleEntry.rule.inj (List.mem_singleton.mp member)⟩
  · unfold compileInclude at member
    split at member
    · cases List.mem_singleton.mp member
    · cases member

theorem exists_isCompiledFrom {compiled : List RuleEntry × List Diagnostic}
    (accepted : compileEntry numbering definition context declaration = .ok compiled)
    (ownRule : ∀ target, declaration.kind ≠ .includeRules target) :
    ∃ rule, .rule rule ∈ compiled.1 ∧
      rule.IsCompiledFrom numbering definition context declaration := by
  rcases compileEntry_cases accepted with ⟨matcher, same⟩ | ⟨target, isInclude, _⟩
  · have member : .rule (compileRule numbering definition context declaration matcher).1 ∈
        compiled.1 := by
      rw [same]
      exact List.mem_singleton_self _
    exact ⟨_, member, compiled, accepted, member⟩
  · exact absurd isInclude (ownRule target)

/-- The rules of a draft are what its declarations become. -/
theorem compileContext_rules {delimiters : List Char} {id : Nat} {declared : ContextDeclaration}
    {draft : ContextDraft}
    (accepted : compileContext numbering delimiters definition id declared = .ok draft) :
    (∀ rule, .rule rule ∈ draft.entries → ∃ declaration ∈ declared.rules,
      rule.IsCompiledFrom numbering definition declared.name declaration) ∧
      ∀ declaration ∈ declared.rules, (∀ target, declaration.kind ≠ .includeRules target) →
        ∃ rule, .rule rule ∈ draft.entries ∧
          rule.IsCompiledFrom numbering definition declared.name declaration := by
  unfold compileContext at accepted
  obtain ⟨compiled, rulesAccepted, same⟩ := bind_eq_ok.mp accepted
  cases same
  constructor
  · intro rule member
    obtain ⟨entries, entriesMember, ruleMember⟩ := List.mem_flatMap.mp member
    obtain ⟨declaration, declarationMember, entryAccepted⟩ :=
      mapM_eq_ok_mem rulesAccepted entriesMember
    exact ⟨declaration, declarationMember, entries, entryAccepted, ruleMember⟩
  · intro declaration member ownRule
    obtain ⟨entries, entriesMember, entryAccepted⟩ := mapM_eq_ok_of_mem rulesAccepted member
    obtain ⟨rule, ruleMember, isCompiled⟩ := exists_isCompiledFrom entryAccepted ownRule
    exact ⟨rule, List.mem_flatMap.mpr ⟨entries, entriesMember, ruleMember⟩, isCompiled⟩

theorem Expands.mem_of_rule {entries : List (List RuleEntry)} {own : List RuleEntry}
    {rules : List Rule} (expands : Expands entries own rules) (member : .rule rule ∈ own) :
    rule ∈ rules := by
  induction expands with
  | done => cases member
  | rule first rest rules behind ih =>
      rcases List.mem_cons.mp member with same | later
      · cases same
        exact List.mem_cons_self
      · exact List.mem_cons_of_mem _ (ih later)
  | included id rest inner rules within behind _ ih =>
      rcases List.mem_cons.mp member with impossible | later
      · cases impossible
      · exact List.mem_append_right _ (ih later)

end Rules

section Modes

variable {main : Definition} {others : List Definition} {maxDepth : Nat} {mode : Mode}

/-- Every rule of a mode is what a declaration became, wherever it is included. -/
theorem Mode.exists_origin (accepted : Mode.ofDefinitions main others maxDepth = .ok mode) :
    ∀ context ∈ mode.contexts, ∀ rule ∈ context.rules, ∃ own ∈ main :: others,
      ∃ declared ∈ own.contexts, ∃ declaration ∈ declared.rules,
        rule.IsCompiledFrom (Numbering.ofDefinitions main others) own declared.name
          declaration := by
  obtain ⟨drafts, made⟩ := Mode.isMadeFrom_of_ofDefinitions accepted
  intro context member rule ruleMember
  obtain ⟨draft, draftMember, entryMember⟩ := made.rule_mem member ruleMember
  obtain ⟨own, _, declared, isDeclaration, compiled⟩ :=
    compileContexts_mem made.drafted draftMember
  obtain ⟨ownMember, declaredMember⟩ := mem_declaredContexts.mp isDeclaration
  obtain ⟨declaration, declarationMember, isCompiled⟩ :=
    (compileContext_rules compiled).1 rule entryMember
  exact ⟨own, ownMember, declared, declaredMember, declaration, declarationMember, isCompiled⟩

/-- Every declaration of a rule has become one in its context. -/
theorem Mode.exists_compiled (accepted : Mode.ofDefinitions main others maxDepth = .ok mode) :
    ∀ own ∈ main :: others, ∀ declared ∈ own.contexts, ∀ declaration ∈ declared.rules,
      (∀ target, declaration.kind ≠ .includeRules target) →
        ∃ context ∈ mode.contexts, context.name = declared.name ∧ context.definition = own.name ∧
          ∃ rule ∈ context.rules,
            rule.IsCompiledFrom (Numbering.ofDefinitions main others) own declared.name
              declaration := by
  obtain ⟨drafts, made⟩ := Mode.isMadeFrom_of_ofDefinitions accepted
  intro own ownMember declared declaredMember declaration declarationMember ownRule
  obtain ⟨index, found⟩ := List.mem_iff_getElem?.mp
    (mem_declaredContexts.mpr ⟨ownMember, declaredMember⟩)
  obtain ⟨draft, draftFound, compiled⟩ := compileContexts_getElem? made.drafted found
  obtain ⟨context, contextFound, same, expands⟩ := made.context_eq draftFound
  obtain ⟨name, definition, _⟩ := compileContext_belongs compiled
  obtain ⟨rule, entryMember, isCompiled⟩ :=
    (compileContext_rules compiled).2 declaration declarationMember ownRule
  refine ⟨context, List.mem_of_getElem? contextFound, ?_, ?_, rule,
    expands.mem_of_rule entryMember, isCompiled⟩
  · rw [same]
    exact name
  · rw [same]
    exact definition

end Modes

end SyntaxHighlight
