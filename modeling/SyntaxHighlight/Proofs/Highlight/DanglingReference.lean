/-
Switches that lead nowhere. Each reference that finds no context is reported when a mode is made.
Rules are copied from one context to another after that, but a switch that was not reported where
its rule was compiled comes with none of them. So no line tells of a target that the mode does not
tell of, whatever the state in which the line begins.
-/

import SyntaxHighlight.Proofs.Highlight.Turn
import SyntaxHighlight.Proofs.Mode.Includes

namespace SyntaxHighlight

/-! ### Reported targets -/

/-- One of the diagnostics is about a reference with a target. -/
def ReportsTarget (diagnostics : List Diagnostic) (target : String) : Prop :=
  ∃ context, .danglingReference context target ∈ diagnostics

/-- A switch either leads somewhere or is reported. -/
def Switch.IsReported (diagnostics : List Diagnostic) (switch : Switch) : Prop :=
  ∀ target, switch.target = some (.unresolved target) → ReportsTarget diagnostics target

structure Context.IsReported (diagnostics : List Diagnostic) (context : Context) : Prop where
  lineEnd : context.lineEnd.IsReported diagnostics
  lineEmpty : ∀ switch, context.lineEmpty = some switch → switch.IsReported diagnostics
  fallthrough : ∀ switch, context.fallthrough = some switch → switch.IsReported diagnostics
  rules : ∀ rule ∈ context.rules, rule.switch.IsReported diagnostics

section Reports

variable {diagnostics more : List Diagnostic}

theorem ReportsTarget.mono {target : String} (reports : ReportsTarget diagnostics target)
    (further : diagnostics ⊆ more) : ReportsTarget more target := by
  obtain ⟨context, member⟩ := reports
  exact ⟨context, further member⟩

theorem Switch.IsReported.mono {switch : Switch} (reported : switch.IsReported diagnostics)
    (further : diagnostics ⊆ more) : switch.IsReported more :=
  fun target leads => (reported target leads).mono further

theorem Context.IsReported.mono {context : Context} (reported : context.IsReported diagnostics)
    (further : diagnostics ⊆ more) : context.IsReported more where
  lineEnd := reported.lineEnd.mono further
  lineEmpty := fun switch own => (reported.lineEmpty switch own).mono further
  fallthrough := fun switch own => (reported.fallthrough switch own).mono further
  rules := fun rule member => (reported.rules rule member).mono further

theorem Switch.isReported_of_target_eq_none {switch : Switch} (stays : switch.target = none) :
    switch.IsReported diagnostics := by
  intro target leads
  rw [stays] at leads
  cases leads

theorem Context.endSwitch_isReported {context : Context}
    (reported : context.IsReported diagnostics) (isEmpty : Bool) :
    (context.endSwitch isEmpty).IsReported diagnostics := by
  cases isEmpty with
  | false => exact reported.lineEnd
  | true =>
      unfold Context.endSwitch
      cases own : context.lineEmpty with
      | none => exact reported.lineEnd
      | some switch => exact reported.lineEmpty switch own

end Reports

/-! ### Reports of what is compiled -/

section Compile

variable {numbering : Numbering} {definition : Definition} {context : String}

theorem compileSwitch_isReported (numbering : Numbering) (definition context text : String) :
    (compileSwitch numbering definition context text).1.IsReported
      (compileSwitch numbering definition context text).2 := by
  unfold compileSwitch
  generalize countPops (Text.trim text.toList).length (Text.trim text.toList) = counted
  obtain ⟨pops, rest⟩ := counted
  dsimp only
  split
  · exact Switch.isReported_of_target_eq_none rfl
  · split
    · intro target leads
      cases leads
    · intro target leads
      cases leads
      exact ⟨context, List.mem_singleton_self _⟩

theorem compileOptional_isReported {compile : String → Switch × List Diagnostic}
    (reported : ∀ text, (compile text).1.IsReported (compile text).2) (text? : Option String)
    (switch : Switch) (compiled : (compileOptional compile text?).1 = some switch) :
    switch.IsReported (compileOptional compile text?).2 := by
  cases text? with
  | none => cases compiled
  | some text =>
      cases compiled
      exact reported text

theorem compileRule_isReported (numbering : Numbering) (definition : Definition)
    (context : String) (declaration : RuleDeclaration) (matcher : Matcher) :
    (compileRule numbering definition context declaration matcher).1.switch.IsReported
      (compileRule numbering definition context declaration matcher).2 := by
  have reported := compileOptional_isReported
    (compileSwitch_isReported numbering definition.name context) declaration.switch
  unfold compileRule
  generalize compileOptional (compileSwitch numbering definition.name context)
    declaration.switch = compiled at reported
  obtain ⟨switch?, diagnostics⟩ := compiled
  cases switch? with
  | none => exact Switch.isReported_of_target_eq_none rfl
  | some switch => exact reported switch rfl

theorem compileEntry_isReported {declaration : RuleDeclaration}
    {compiled : List RuleEntry × List Diagnostic}
    (accepted : compileEntry numbering definition context declaration = .ok compiled)
    {rule : Rule} (member : .rule rule ∈ compiled.1) : rule.switch.IsReported compiled.2 := by
  rcases compileEntry_cases accepted with ⟨matcher, rfl⟩ | ⟨target, _, rfl⟩
  · rw [RuleEntry.rule.inj (List.mem_singleton.mp member)]
    exact compileRule_isReported numbering definition context declaration matcher
  · unfold compileInclude at member
    split at member
    · cases List.mem_singleton.mp member
    · cases member

/-- A draft reports the switches of its context and of all its entries. -/
structure ContextDraft.IsReported (draft : ContextDraft) : Prop where
  context : draft.context.IsReported draft.diagnostics
  entries : ∀ rule, .rule rule ∈ draft.entries → rule.switch.IsReported draft.diagnostics

theorem compileContext_isReported {delimiters : List Char} {id : Nat}
    {declaration : ContextDeclaration} {draft : ContextDraft}
    (accepted : compileContext numbering delimiters definition id declaration = .ok draft) :
    draft.IsReported := by
  have reported := compileSwitch_isReported numbering definition.name declaration.name
  have emptyReported := compileOptional_isReported reported declaration.lineEmpty
  have fallthroughReported := compileOptional_isReported reported declaration.fallthrough
  have endReported := reported declaration.lineEnd
  unfold compileContext at accepted
  dsimp only at accepted
  generalize compileSwitch numbering definition.name declaration.name declaration.lineEnd = lineEnd
    at accepted endReported
  generalize compileOptional (compileSwitch numbering definition.name declaration.name)
    declaration.lineEmpty = lineEmpty at accepted emptyReported
  generalize compileOptional (compileSwitch numbering definition.name declaration.name)
    declaration.fallthrough = fallthrough at accepted fallthroughReported
  obtain ⟨compiled, rulesAccepted, same⟩ := bind_eq_ok.mp accepted
  cases same
  refine ⟨⟨?_, ?_, ?_, ?_⟩, ?_⟩
  · refine endReported.mono ?_
    intro diagnostic own
    simp [own]
  · intro switch kept
    refine (emptyReported switch kept).mono ?_
    intro diagnostic own
    simp [own]
  · intro switch kept
    refine (fallthroughReported switch (Option.eq_some_of_filter_eq_some kept)).mono ?_
    intro diagnostic own
    simp [own]
  · intro rule member
    cases member
  · intro rule member
    obtain ⟨entries, entriesMember, ruleMember⟩ := List.mem_flatMap.mp member
    obtain ⟨_, _, entryAccepted⟩ := mapM_eq_ok_mem rulesAccepted entriesMember
    refine (compileEntry_isReported entryAccepted ruleMember).mono ?_
    exact fun diagnostic own =>
      List.mem_append_right _ (List.mem_flatMap.mpr ⟨entries, entriesMember, own⟩)

end Compile

/-! ### Reports of modes -/

section Modes

variable {main : Definition} {others : List Definition} {maxDepth : Nat} {mode : Mode}
  {drafts : List ContextDraft} {engine : Pattern.Engine}

/-- A mode has the diagnostics of all its contexts. -/
theorem Mode.diagnostics_of_ofDefinitions
    (accepted : Mode.ofDefinitions main others maxDepth engine = .ok mode) :
    ∃ drafts, mode.IsMadeFrom main others maxDepth drafts ∧
      mode.diagnostics = drafts.flatMap (·.diagnostics) := by
  obtain ⟨drafts, declared, rfl, made⟩ := Mode.eq_ofContexts_of_ofDefinitions accepted
  exact ⟨drafts, made, rfl⟩

theorem Mode.isReported_of_mem_contexts
    (accepted : Mode.ofDefinitions main others maxDepth engine = .ok mode) {context : Context}
    (member : context ∈ mode.contexts) : context.IsReported mode.diagnostics := by
  obtain ⟨drafts, made, diagnostics⟩ := Mode.diagnostics_of_ofDefinitions accepted
  rw [diagnostics]
  have reported (draft : ContextDraft) (draftMember : draft ∈ drafts) :
      draft.IsReported ∧ draft.diagnostics ⊆ drafts.flatMap (·.diagnostics) := by
    obtain ⟨_, _, _, _, compiled⟩ := compileContexts_mem made.drafted draftMember
    exact ⟨compileContext_isReported compiled,
      fun diagnostic own => List.mem_flatMap.mpr ⟨draft, draftMember, own⟩⟩
  have rules : ∀ rule ∈ context.rules,
      rule.switch.IsReported (drafts.flatMap (·.diagnostics)) := by
    intro rule ruleMember
    -- The rule may have been included, and is then reported by another draft.
    obtain ⟨draft, draftMember, entryMember⟩ := made.rule_mem member ruleMember
    obtain ⟨own, among⟩ := reported draft draftMember
    exact (own.entries rule entryMember).mono among
  rcases made.context_cases member with isFallback | ⟨draft, draftMember, same⟩
  · obtain ⟨delimiters, fallback⟩ := made.fallback
    refine ⟨?_, ?_, ?_, rules⟩
    · rw [isFallback, fallback]
      exact Switch.isReported_of_target_eq_none rfl
    · rw [isFallback, fallback]
      intro switch impossible
      cases impossible
    · rw [isFallback, fallback]
      intro switch impossible
      cases impossible
  · obtain ⟨own, among⟩ := reported draft draftMember
    have reportedDraft := own.context.mono among
    rw [same]
    exact { reportedDraft with rules }

theorem Mode.context_isReported
    (accepted : Mode.ofDefinitions main others maxDepth engine = .ok mode) (id : Nat) :
    (mode.context id).IsReported mode.diagnostics :=
  Mode.isReported_of_mem_contexts accepted (mode.context_mem id)

end Modes

/-! ### Reports of lines -/

namespace Scan

/-- All targets of which a scan tells are reported. -/
def IsReported (diagnostics : List Diagnostic) (scan : Scan) : Prop :=
  ∀ context target, .danglingReference context target ∈ scan.diagnostics →
    ReportsTarget diagnostics target

section Frames

variable (scan : Scan)

theorem emit_diagnostics (offset length format : Nat) :
    (scan.emit offset length format).diagnostics = scan.diagnostics := by
  unfold emit
  split <;> rfl

theorem enter_diagnostics (rule : Rule) (column length : Nat) :
    (scan.enter rule column length).diagnostics = scan.diagnostics := by
  unfold enter markRegions
  cases rule.endRegion <;> cases rule.beginRegion <;> rfl

theorem mem_diagnose {diagnostic other : Diagnostic}
    (member : other ∈ (scan.diagnose diagnostic).diagnostics) :
    other = diagnostic ∨ other ∈ scan.diagnostics := by
  unfold diagnose at member
  split at member
  · exact Or.inr member
  · exact List.mem_cons.mp member

end Frames

section Turns

variable {diagnostics : List Diagnostic} {scan next : Scan} {mode : Mode} {context : Context}
  {switch : Switch} {place : Place} {count column : Nat}

theorem IsReported.congr (reported : scan.IsReported diagnostics)
    (same : next.diagnostics = scan.diagnostics) : next.IsReported diagnostics := by
  unfold IsReported
  rw [same]
  exact reported

theorem IsReported.diagnose (reported : scan.IsReported diagnostics) {diagnostic : Diagnostic}
    (own : ∀ name target, diagnostic = .danglingReference name target →
      ReportsTarget diagnostics target) : (scan.diagnose diagnostic).IsReported diagnostics := by
  intro name target member
  rcases scan.mem_diagnose member with new | old
  · exact own name target new.symm
  · exact reported name target old

theorem IsReported.apply (reported : scan.IsReported diagnostics) (mode : Mode)
    (switchReported : switch.IsReported diagnostics) :
    (scan.apply mode switch).1.IsReported diagnostics := by
  unfold Scan.apply
  dsimp only
  split
  · rename_i reference leads
    apply reported.diagnose
    rintro name target same
    cases same
    exact switchReported reference leads
  · exact reported.congr rfl
  · rename_i id _
    have pushed : IsReported diagnostics
        { scan with stack := ((scan.stack.popMany switch.pops).afterPush mode.maxDepth id).1 } :=
      reported.congr rfl
    dsimp only
    split
    · apply pushed.diagnose
      intro name target same
      cases same
    · exact pushed

theorem IsReported.forceProgress (reported : scan.IsReported diagnostics) (context : Context)
    (column : Nat) : (scan.forceProgress context column).IsReported diagnostics := by
  have noted : (scan.diagnose (.noProgress context.name column)).IsReported diagnostics := by
    apply reported.diagnose
    intro name target same
    cases same
  exact noted.congr (emit_diagnostics _ _ _ _)

/-- Where all contexts are reported, no turn tells of anything that is not. -/
theorem isReported_isKept (contexts : ∀ id, (mode.context id).IsReported diagnostics)
    (line : List Char) : IsKept mode line fun _ scan => scan.IsReported diagnostics where
  again := by
    intro place scan next _ reported again
    have own := contexts scan.stack.top
    unfold turn at again
    dsimp only at again
    split at again
    · obtain ⟨switch, way, _, rfl⟩ := fallThrough_eq_again again
      exact (reported.apply mode (own.fallthrough switch way)).congr rfl
    · rename_i rule length found
      obtain ⟨member, _⟩ := Context.findRule?_eq_some found
      obtain ⟨_, rfl⟩ := follow_eq_again again
      have entered := reported.congr (scan.enter_diagnostics rule place.index length)
      exact (entered.apply mode (own.rules rule member)).congr rfl
  taken := by
    intro place scan count next _ reported taken
    have own := contexts scan.stack.top
    unfold turn at taken
    dsimp only at taken
    split at taken
    · obtain ⟨_, rfl | ⟨switch, way, rfl⟩⟩ := fallThrough_eq_taken taken
      · exact reported.congr (scan.emit_diagnostics _ _ _)
      · exact (reported.apply mode (own.fallthrough switch way)).congr (emit_diagnostics _ _ _ _)
    · rename_i rule length found
      obtain ⟨member, _⟩ := Context.findRule?_eq_some found
      have entered := reported.congr (scan.enter_diagnostics rule place.index length)
      have applied := entered.apply mode (own.rules rule member)
      rcases follow_eq_taken taken with ⟨_, rfl⟩ | ⟨_, _, format, _, rfl | rfl⟩
      · exact applied.forceProgress _ _
      · exact applied.congr (emit_diagnostics _ _ _ _)
      · exact applied.congr (emit_diagnostics _ _ _ _)
  forced := fun place scan _ reported => reported.forceProgress _ _

end Turns

end Scan

theorem Mode.scan_isReported {mode : Mode} {diagnostics : List Diagnostic}
    (contexts : ∀ id, (mode.context id).IsReported diagnostics) (state : LineState)
    (line : List Char) (hasNext : Bool) :
    (mode.scan state line hasNext).IsReported diagnostics := by
  have walked := Scan.walk_keeps (Scan.isReported_isKept contexts line) line [] 0
    (({ stack := state.stack mode.initial } : Scan).record mode 0) rfl (Nat.zero_le _)
    (fun context target none => nomatch none)
  unfold Mode.scan
  dsimp only
  split
  · exact walked
  · refine Scan.endLine_keeps (fun scan => scan.IsReported diagnostics) line.isEmpty line.length
      _ _ walked ?_ (fun _ reported => reported.congr rfl)
    intro scan reported
    exact reported.apply mode (Context.endSwitch_isReported (contexts scan.stack.top) _)

/-- Whatever the state at its start, possibly one of another mode, a line tells only of dangling
references of which the mode tells, so of none if the mode knows of none. A switch that leads
nowhere leaves the stack as it is. -/
theorem Mode.danglingReference_isReported {main : Definition} {others : List Definition}
    {maxDepth : Nat} {mode : Mode} {engine : Pattern.Engine}
    (accepted : Mode.ofDefinitions main others maxDepth engine = .ok mode)
    (state : LineState) (line : List Char) (hasNext : Bool) :
    (∀ context target,
      .danglingReference context target ∈ (mode.highlightLine state line hasNext).diagnostics →
        ReportsTarget mode.diagnostics target) ∧
      ((∀ target, ¬ReportsTarget mode.diagnostics target) →
        ∀ context target, .danglingReference context target ∉
          (mode.highlightLine state line hasNext).diagnostics) ∧
      ∀ (scan : Scan) (switch : Switch) (target : String),
        switch.target = some (.unresolved target) →
          (scan.apply mode switch).1.stack = scan.stack ∧
            (scan.apply mode switch).2 = .dangling := by
  have reported : ∀ context target, .danglingReference context target ∈
      (mode.highlightLine state line hasNext).diagnostics →
        ReportsTarget mode.diagnostics target := by
    intro context target member
    have closed := Mode.isClosed_of_ofDefinitions accepted
    rw [Mode.highlightLine, closed.notPlain, if_neg Bool.false_ne_true] at member
    exact Mode.scan_isReported (Mode.context_isReported accepted) state line hasNext context target
      (List.mem_reverse.mp member)
  refine ⟨reported, ?_, ?_⟩
  · intro none context target member
    exact none target (reported context target member)
  · intro scan switch target leads
    constructor
    · rw [Scan.apply_stack, leads]
    · rw [Scan.apply, leads]

/-- A language that has only the rules of another one. -/
def borrowingLanguage : Definition where
  name := "Borrowing"
  contexts := [{ name := "Normal", rules := [{ kind := .includeRules "##Lending" }] }]

/-- A language with a switch that leads nowhere. -/
def lendingLanguage : Definition where
  name := "Lending"
  contexts := [{ name := "Start", rules := [{ kind := .char '!', switch := some "#pop!Missing" }] }]

/-- The switch is reported in the context of its declaration, while a line tells of the context in
which it is included. -/
theorem Mode.danglingReference_isReported_borrowingLanguage :
    ∃ mode, Mode.ofDefinitions borrowingLanguage [lendingLanguage] 8 = .ok mode ∧
      (mode.highlightLine .initial ['!'] false).diagnostics =
        [.danglingReference "Normal" "Missing"] ∧
      mode.diagnostics = [.danglingReference "Start" "Missing"] ∧
      ReportsTarget mode.diagnostics "Missing" := by
  have computed :
      ((Mode.ofDefinitions borrowingLanguage [lendingLanguage] 8).toOption.map fun mode =>
        ((mode.highlightLine .initial ['!'] false).diagnostics, mode.diagnostics)) =
          some ([.danglingReference "Normal" "Missing"],
            [.danglingReference "Start" "Missing"]) := by
    cbv
  obtain ⟨mode, found, same⟩ := Option.map_eq_some_iff.mp computed
  obtain ⟨line, own⟩ := Prod.mk.inj same
  have accepted := Mode.ofDefinitions_of_toOption found
  obtain ⟨reported, _⟩ := Mode.danglingReference_isReported accepted .initial ['!'] false
  refine ⟨mode, accepted, line, own, reported "Normal" "Missing" ?_⟩
  rw [line]
  exact List.mem_singleton_self _

end SyntaxHighlight
