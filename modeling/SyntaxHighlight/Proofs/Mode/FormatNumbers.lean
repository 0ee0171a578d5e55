/-
The numbers of formats in a mode. Formats are registered by their ids, which definitions may share,
and declarations refer to them by names, of which the first one in a definition counts. Since the
number of a name is looked up under the name of its definition, and no two definitions of a mode
have one name, it is that of the id which the definition gives to the name, whoever registered the
id first. A name under which a definition declares nothing has the number of the very first format.
-/

import SyntaxHighlight.Proofs.Mode.Origins

namespace SyntaxHighlight

/-- The formats that definitions declare, in the order in which they are registered. -/
def formatsOf (main : Definition) (others : List Definition) : List Format :=
  declaredFormats true main ++ others.flatMap (declaredFormats false)

/-- A number stands for the format that a definition declares first under a name. If it declares
none, the number is zero. -/
structure Mode.NumbersFormat (mode : Mode) (own : Definition) (name : String) (number : Nat) :
    Prop where
  declared : ∀ first, own.formats.find? (·.name = name) = some first →
    mode.registry.indexOf? (Format.ofDeclaration own.name first).id = some number
  undeclared : own.formats.find? (·.name = name) = none → number = 0

/-- A context is the one that a definition declares, with the number of its format. -/
structure Mode.FormatsContext (mode : Mode) (own : Definition) (declared : ContextDeclaration)
    (context : Context) : Prop where
  name : context.name = declared.name
  definition : context.definition = own.name
  format : mode.NumbersFormat own declared.format context.format

/-- A rule is what a declaration in a definition becomes, with the number of its format if it names
one. -/
structure Mode.FormatsRule (mode : Mode) (numbering : Numbering) (own : Definition)
    (context : String) (declaration : RuleDeclaration) (rule : Rule) : Prop where
  compiled : rule.IsCompiledFrom numbering own context declaration
  format : Option.Rel (mode.NumbersFormat own) declaration.format rule.format

theorem Mode.FormatsRule.exists_number {mode : Mode} {numbering : Numbering} {own : Definition}
    {context name : String} {declaration : RuleDeclaration} {rule : Rule}
    (formats : mode.FormatsRule numbering own context declaration rule)
    (named : declaration.format = some name) :
    ∃ number, rule.format = some number ∧ mode.NumbersFormat own name number := by
  have related := formats.format
  rw [named] at related
  generalize rule.format = format at related
  cases related with
  | some numbers => exact ⟨_, rfl, numbers⟩

/-! ### Registering everything -/

/-- The numbers of formats in a registry, by their definitions and names. -/
def FormatRegistry.numbersOf (registry : FormatRegistry) (formats : List Format) :
    List ((String × String) × Nat) :=
  formats.map fun format =>
    ((format.definition, format.name), (registry.indexOf? format.id).getD 0)

section Registering

open FormatRegistry

variable {formats : List Format} {format : Format} {definition name : String}

theorem FormatRegistry.exists_indexOf?_of_mem (member : format ∈ formats) :
    ∃ index, (ofFormats formats).indexOf? format.id = some index := by
  have present : (formats.find? (·.id = format.id)).isSome = true := by
    rw [List.find?_isSome]
    exact ⟨format, member, decide_eq_true rfl⟩
  rw [← indexOf?_ofFormats_bind] at present
  obtain ⟨first, found⟩ := Option.isSome_iff_exists.mp present
  obtain ⟨index, known, -⟩ := Option.bind_eq_some_iff.mp found
  exact ⟨index, known⟩

/-- A further format changes none of the numbers. -/
theorem FormatRegistry.numbersOf_append_singleton (before : List Format) (format : Format) :
    (ofFormats (before ++ [format])).numbersOf (before ++ [format]) =
      (ofFormats before).numbersOf before ++
        [((format.definition, format.name), ((ofFormats before).register format).2)] := by
  rw [ofFormats_append_singleton, numbersOf, List.map_append, List.map_singleton,
    indexOf?_register_self, Option.getD_some]
  refine congrArg (· ++ _) (List.map_congr_left ?_)
  intro other member
  obtain ⟨index, known⟩ := exists_indexOf?_of_mem member
  rw [known, indexOf?_register_of_some known]

theorem registerFormats_ofFormats (before : List Format)
    (owned : ∀ format ∈ formats, definition = format.definition) :
    registerFormats definition (ofFormats before) ((ofFormats before).numbersOf before) formats =
      (ofFormats (before ++ formats), (ofFormats (before ++ formats)).numbersOf
        (before ++ formats)) := by
  induction formats generalizing before with
  | nil => rw [List.append_nil]; rfl
  | cons format rest ih =>
      obtain ⟨same, others⟩ := List.forall_mem_cons.mp owned
      have step := ih (before ++ [format]) others
      rw [numbersOf_append_singleton, ofFormats_append_singleton, ← same] at step
      rw [registerFormats, List.append_cons]
      exact step

theorem registerAll_eq (main : Definition) (others : List Definition) :
    registerAll main others =
      (ofFormats (formatsOf main others),
        (ofFormats (formatsOf main others)).numbersOf (formatsOf main others)) := by
  have started := registerFormats_ofFormats [] (declaredFormats_definition true main)
  rw [List.nil_append] at started
  unfold registerAll formatsOf
  rw [show registerFormats main.name {} [] (declaredFormats true main) = _ from started]
  generalize declaredFormats true main = before
  induction others generalizing before with
  | nil => rw [List.flatMap_nil, List.append_nil]; rfl
  | cons own rest ih =>
      rw [List.foldl_cons, List.flatMap_cons, ← List.append_assoc]
      dsimp only
      rw [registerFormats_ofFormats before (declaredFormats_definition false own)]
      exact ih _

theorem FormatRegistry.lookup_numbersOf (registry : FormatRegistry) (formats : List Format)
    (definition name : String) :
    (registry.numbersOf formats).lookup (definition, name) =
      (formats.find? fun format => format.definition = definition ∧ format.name = name).map
        fun format => (registry.indexOf? format.id).getD 0 := by
  induction formats with
  | nil => rfl
  | cons format rest ih =>
      rw [numbersOf, List.map_cons, ← numbersOf, List.lookup_cons, ih, List.find?_cons]
      by_cases same : format.definition = definition ∧ format.name = name
      · simp [same]
      · have apart : ((definition, name) == (format.definition, format.name)) = false := by
          rw [beq_eq_false_iff_ne, ne_eq, Prod.mk.injEq]
          exact fun equal => same ⟨equal.1.symm, equal.2.symm⟩
        rw [apart, decide_eq_false same]

end Registering

/-! ### Formats by definition and name -/

section Names

variable {own main : Definition} {others : List Definition} {name : String} {isMain : Bool}

theorem find?_declaredFormats_of_ne {definition : String} (apart : own.name ≠ definition) :
    (declaredFormats isMain own).find? (fun format =>
      format.definition = definition ∧ format.name = name) = none := by
  rw [List.find?_eq_none]
  intro format member
  have owned := declaredFormats_definition isMain own format member
  rw [decide_eq_true_eq]
  exact fun both => apart (owned.trans both.1)

theorem find?_declaredFormats_self :
    (declaredFormats isMain own).find? (fun format =>
      format.definition = own.name ∧ format.name = name) =
      (declaredFormats isMain own).find? (·.name = name) := by
  refine List.find?_congr ?_
  intro format member
  have owned := declaredFormats_definition isMain own format member
  simp [owned]

/-- A name is looked up among the formats of its own definition only. -/
theorem find?_flatMap_declaredFormats {pieces : List (Bool × Definition)}
    (distinct : (pieces.map (·.2.name)).Nodup) (member : (isMain, own) ∈ pieces) :
    (pieces.flatMap fun piece => declaredFormats piece.1 piece.2).find? (fun format =>
      format.definition = own.name ∧ format.name = name) =
      (declaredFormats isMain own).find? (·.name = name) := by
  induction pieces with
  | nil => cases member
  | cons piece rest ih =>
      obtain ⟨absent, restDistinct⟩ := List.nodup_cons.mp distinct
      rw [List.flatMap_cons, List.find?_append]
      rcases List.mem_cons.mp member with rfl | later
      · have nothing : (rest.flatMap fun piece => declaredFormats piece.1 piece.2).find?
            (fun format => format.definition = own.name ∧ format.name = name) = none := by
          rw [List.find?_flatMap, List.findSome?_eq_none_iff]
          intro other otherMember
          refine find?_declaredFormats_of_ne ?_
          intro same
          exact absent (List.mem_map.mpr ⟨other, otherMember, same⟩)
        rw [nothing, Option.or_none]
        exact find?_declaredFormats_self
      · have apart : piece.2.name ≠ own.name := fun same =>
          absent (List.mem_map.mpr ⟨(isMain, own), later, same.symm⟩)
        rw [find?_declaredFormats_of_ne apart, Option.none_or, ih restDistinct later]

theorem find?_formatsOf (distinct : ((main :: others).map (·.name)).Nodup)
    (member : own ∈ main :: others) (name : String) :
    ∃ isMain, (isMain = true → own = main) ∧
      (formatsOf main others).find? (fun format =>
        format.definition = own.name ∧ format.name = name) =
        (declaredFormats isMain own).find? (·.name = name) := by
  have pieces : formatsOf main others =
      ((true, main) :: others.map (Prod.mk false)).flatMap fun piece =>
        declaredFormats piece.1 piece.2 := by
    rw [List.flatMap_cons, List.flatMap_map]
    rfl
  have distinctPieces : (((true, main) :: others.map (Prod.mk false)).map
      (·.2.name)).Nodup := by
    rw [List.map_cons, List.map_map]
    exact distinct
  rw [pieces]
  rcases List.mem_cons.mp member with rfl | later
  · exact ⟨true, fun _ => rfl,
      find?_flatMap_declaredFormats distinctPieces List.mem_cons_self⟩
  · have inPieces : (false, own) ∈ (true, main) :: others.map (Prod.mk false) :=
      List.mem_cons_of_mem _ (List.mem_map.mpr ⟨own, later, rfl⟩)
    exact ⟨false, nofun, find?_flatMap_declaredFormats distinctPieces inPieces⟩

/-- The number of a name in a definition is that of the id of the format that is declared first
under it. -/
theorem Numbering.format_ofDefinitions (distinct : ((main :: others).map (·.name)).Nodup)
    (member : own ∈ main :: others) (name : String) :
    (Numbering.ofDefinitions main others).format own.name name =
      ((own.formats.find? (·.name = name)).map fun first =>
        ((FormatRegistry.ofFormats (formatsOf main others)).indexOf?
          (Format.ofDeclaration own.name first).id).getD 0).getD 0 := by
  obtain ⟨isMain, onlyMain, found⟩ := find?_formatsOf distinct member name
  rw [Numbering.format, Numbering.ofDefinitions, registerAll_eq, FormatRegistry.lookup_numbersOf,
    found]
  unfold declaredFormats
  split
  · -- The main definition declares no format: the one that stands in is the first of all.
    rename_i bare
    rw [Bool.and_eq_true, List.isEmpty_iff] at bare
    obtain ⟨isFirst, empty⟩ := bare
    have formats : formatsOf main others =
        .normalText own.name :: others.flatMap (declaredFormats false) := by
      rw [formatsOf, declaredFormats, ← onlyMain isFirst, empty]
      rfl
    rw [empty, List.find?_nil, Option.map_none, Option.getD_none, formats]
    cases found : [Format.normalText own.name].find? (·.name = name) with
    | none => rfl
    | some format =>
        rw [List.mem_singleton.mp (List.mem_of_find?_eq_some found), Option.map_some,
          FormatRegistry.indexOf?_ofFormats_cons]
        rfl
  · rw [List.find?_map, Option.map_map]
    rfl

theorem ofDeclaration_mem_formatsOf (member : own ∈ main :: others)
    {declaration : FormatDeclaration} (declared : declaration ∈ own.formats) :
    Format.ofDeclaration own.name declaration ∈ formatsOf main others := by
  have isDeclared (isMain : Bool) :
      Format.ofDeclaration own.name declaration ∈ declaredFormats isMain own := by
    unfold declaredFormats
    split
    · rename_i bare
      rw [Bool.and_eq_true, List.isEmpty_iff] at bare
      rw [bare.2] at declared
      cases declared
    · exact List.mem_map_of_mem declared
  rcases List.mem_cons.mp member with rfl | later
  · exact List.mem_append_left _ (isDeclared true)
  · exact List.mem_append_right _ (List.mem_flatMap.mpr ⟨own, later, isDeclared false⟩)

end Names

/-! ### Formats of contexts and rules -/

section Modes

variable {main own : Definition} {others : List Definition} {maxDepth : Nat} {mode : Mode}

theorem Mode.registry_of_ofDefinitions
    (accepted : Mode.ofDefinitions main others maxDepth = .ok mode) :
    mode.registry = .ofFormats (formatsOf main others) := by
  obtain ⟨drafts, made⟩ := Mode.isMadeFrom_of_ofDefinitions accepted
  rw [made.registry, registerAll_eq]

theorem Mode.numbersFormat (accepted : Mode.ofDefinitions main others maxDepth = .ok mode)
    (distinct : ((main :: others).map (·.name)).Nodup) (member : own ∈ main :: others)
    (name : String) :
    mode.NumbersFormat own name
      ((Numbering.ofDefinitions main others).format own.name name) := by
  rw [Numbering.format_ofDefinitions distinct member, ← Mode.registry_of_ofDefinitions accepted]
  constructor
  · intro first found
    have present := ofDeclaration_mem_formatsOf member (List.mem_of_find?_eq_some found)
    obtain ⟨index, known⟩ := FormatRegistry.exists_indexOf?_of_mem present
    rw [← Mode.registry_of_ofDefinitions accepted] at known
    rw [found, Option.map_some, Option.getD_some, known, Option.getD_some]
  · intro missing
    rw [missing]
    rfl

theorem Mode.formatsContext (accepted : Mode.ofDefinitions main others maxDepth = .ok mode)
    (distinct : ((main :: others).map (·.name)).Nodup) (member : own ∈ main :: others)
    {delimiters : List Char} {id : Nat} {declared : ContextDeclaration} {draft : ContextDraft}
    (compiled : compileContext (Numbering.ofDefinitions main others) delimiters own id declared =
      .ok draft) (rules : List Rule) :
    mode.FormatsContext own declared { draft.context with rules } := by
  unfold compileContext at compiled
  obtain ⟨entries, _, same⟩ := bind_eq_ok.mp compiled
  cases same
  exact ⟨rfl, rfl, Mode.numbersFormat accepted distinct member declared.format⟩

/-- A rule has the number of the format that its declaration names, or none. -/
theorem Mode.formatsRule (accepted : Mode.ofDefinitions main others maxDepth = .ok mode)
    (distinct : ((main :: others).map (·.name)).Nodup) (member : own ∈ main :: others)
    {context : String} {declaration : RuleDeclaration} {rule : Rule}
    (compiled : rule.IsCompiledFrom (Numbering.ofDefinitions main others) own context
      declaration) :
    mode.FormatsRule (Numbering.ofDefinitions main others) own context declaration rule := by
  refine ⟨compiled, ?_⟩
  obtain ⟨matcher, rfl⟩ := compiled.exists_matcher
  change Option.Rel _ _ (declaration.format.map _)
  cases declaration.format with
  | none => exact .none
  | some name => exact .some (Mode.numbersFormat accepted distinct member name)

/-- Formats are told apart by their ids: an index that was given out stands for the format that was
first registered with its id, and registering the id again gives the same index. In a mode whose
definitions come from a lookup that knows them by their names, each context and each rule has the
index of the id that its own definition gives to the name of its format; where the definition
declares no format of that name, it has the index zero. -/
theorem Mode.formats_areNumbered :
    (∀ formats : List Format,
      let registry := FormatRegistry.ofFormats formats
      (registry.formats.map Format.id).Nodup ∧
      (∀ id index, registry.indexOf? id = some index ↔
        ∃ format, registry.format? index = some format ∧ format.id = id) ∧
      (∀ before format after, formats = before ++ format :: after →
        ∃ first, (before ++ [format]).find? (·.id = format.id) = some first ∧
          registry.format? ((FormatRegistry.ofFormats before).register format).2 = some first) ∧
      ∀ format index, registry.indexOf? format.id = some index →
        registry.register format = (registry, index)) ∧
    ∀ {σ : Type} {lookup : String → StateM σ (Option Definition)} {valid : σ → Prop} {limit : Nat}
      {start final : σ} {main : Definition} {others : List Definition} {maxDepth : Nat}
      {mode : Mode},
      (∀ name state, valid state →
        (∀ definition, (lookup name state).1 = some definition → definition.name = name) ∧
          valid (lookup name state).2) →
      valid start →
      collectDefinitions lookup limit main start = (others, final) →
      Mode.ofDefinitions main others maxDepth = .ok mode →
      let numbering := Numbering.ofDefinitions main others
      mode.registry = .ofFormats (formatsOf main others) ∧
      (∀ own ∈ main :: others, ∀ place declared, own.contexts[place]? = some declared →
        ∃ context, mode.contexts[contextNumber (main :: others) own place]? = some context ∧
          mode.FormatsContext own declared context ∧
          ∀ declaration ∈ declared.rules, (∀ target, declaration.kind ≠ .includeRules target) →
            ∃ rule ∈ context.rules,
              mode.FormatsRule numbering own declared.name declaration rule) ∧
      (∀ context ∈ mode.contexts, context = mode.fallback ∧ context.format = 0 ∨
        ∃ own ∈ main :: others, ∃ declared ∈ own.contexts,
          mode.FormatsContext own declared context) ∧
      ∀ context ∈ mode.contexts, ∀ rule ∈ context.rules, ∃ own ∈ main :: others,
        ∃ declared ∈ own.contexts, ∃ declaration ∈ declared.rules,
          mode.FormatsRule numbering own declared.name declaration rule := by
  constructor
  · intro formats registry
    have indexed : registry.IsIndexed := FormatRegistry.isIndexed_ofFormats formats
    refine ⟨indexed.nodup, indexed, ?_, fun format index => FormatRegistry.register_of_known⟩
    rintro before format after rfl
    exact FormatRegistry.exists_first_of_register before after format
  · intro σ lookup valid limit start final main others maxDepth mode named startValid collected
      accepted numbering
    have distinct := collectDefinitions_distinct named startValid collected
    obtain ⟨drafts, made⟩ := Mode.isMadeFrom_of_ofDefinitions accepted
    refine ⟨Mode.registry_of_ofDefinitions accepted, ?_, ?_, ?_⟩
    · intro own member place declared found
      obtain ⟨draft, draftFound, compiled⟩ :=
        compileContexts_getElem? made.drafted (declaredContexts_getElem? distinct member found)
      obtain ⟨context, contextFound, same, expands⟩ := made.context_eq draftFound
      refine ⟨context, contextFound, ?_, ?_⟩
      · rw [same]
        exact Mode.formatsContext accepted distinct member compiled _
      · intro declaration declarationMember ownRule
        obtain ⟨rule, entryMember, isCompiled⟩ :=
          (compileContext_rules compiled).2 declaration declarationMember ownRule
        exact ⟨rule, expands.mem_of_rule entryMember,
          Mode.formatsRule accepted distinct member isCompiled⟩
    · intro context member
      rcases made.context_cases member with isFallback | ⟨draft, draftMember, same⟩
      · obtain ⟨delimiters, fallback⟩ := made.fallback
        refine Or.inl ⟨isFallback, ?_⟩
        rw [isFallback, fallback]
        rfl
      · obtain ⟨own, _, declared, isDeclaration, compiled⟩ :=
          compileContexts_mem made.drafted draftMember
        obtain ⟨ownMember, declaredMember⟩ := mem_declaredContexts.mp isDeclaration
        rw [same]
        exact Or.inr ⟨own, ownMember, declared, declaredMember,
          Mode.formatsContext accepted distinct ownMember compiled _⟩
    · intro context member rule ruleMember
      obtain ⟨own, ownMember, declared, declaredMember, declaration, declarationMember, compiled⟩ :=
        Mode.exists_origin accepted context member rule ruleMember
      exact ⟨own, ownMember, declared, declaredMember, declaration, declarationMember,
        Mode.formatsRule accepted distinct ownMember compiled⟩

end Modes

/-- A language of tables whose cells are in another one. -/
def tableLanguage : Definition where
  name := "Table"
  contexts :=
    [{ name := "Row", format := "Text"
       rules := [{ kind := .char '|', format := some "Number", switch := some "##Cell" }] }]
  formats := [{ name := "Text" }, { name := "Number", id := some "shared:number" }]

/-- A language with a format of the first one under a name of its own, which is there twice. -/
def cellLanguage : Definition where
  name := "Cell"
  contexts :=
    [{ name := "Content", format := "Word"
       rules :=
         [{ kind := .integer, format := some "Digits" },
          { kind := .char '-', format := some "Sign" }] }]
  formats := [{ name := "Digits", id := some "shared:number" }, { name := "Word" },
    { name := "Digits" }]

def cellLookup (name : String) : StateM Unit (Option Definition) := fun state =>
  (if name = "Cell" then some cellLanguage else none, state)

theorem formatsOf_tableLanguage :
    (FormatRegistry.ofFormats (formatsOf tableLanguage [cellLanguage])).indices =
      [("Table:Text", 0), ("shared:number", 1), ("Cell:Word", 2), ("Cell:Digits", 3)] := by
  cbv

theorem Mode.formats_areNumbered_tableLanguage :
    ∃ mode context, Mode.ofDefinitions tableLanguage [cellLanguage] 8 = .ok mode ∧
      collectDefinitions cellLookup 1 tableLanguage () = ([cellLanguage], ()) ∧
      mode.contexts[2]? = some context ∧ context.name = "Content" ∧ context.format = 2 ∧
      (∃ rule ∈ context.rules, rule.format = some 1) ∧
      ∃ rule ∈ context.rules, rule.format = some 0 := by
  have collected : collectDefinitions cellLookup 1 tableLanguage () = ([cellLanguage], ()) := by
    cbv
  have named : ∀ name (state : Unit), True →
      (∀ definition, (cellLookup name state).1 = some definition → definition.name = name) ∧
        True := by
    intro name state _
    refine ⟨fun definition found => ?_, trivial⟩
    unfold cellLookup at found
    split at found
    case isTrue isCell =>
      cases found
      exact isCell.symm
    case isFalse => cases found
  have plain : ∀ own ∈ [tableLanguage, cellLanguage], own.IsPlain := by
    simp [tableLanguage, cellLanguage, Definition.IsPlain, RuleKind.isPlain]
  obtain ⟨mode, accepted⟩ := Mode.exists_of_isPlain plain 8
  obtain ⟨registry, declared, -⟩ :=
    Mode.formats_areNumbered.2 named trivial collected accepted
  have known (id : String) : mode.registry.indexOf? id =
      Dictionary.get? [("Table:Text", 0), ("shared:number", 1), ("Cell:Word", 2),
        ("Cell:Digits", 3)] id := by
    rw [registry, FormatRegistry.indexOf?, formatsOf_tableLanguage]
  obtain ⟨context, found, formats, rules⟩ := declared cellLanguage (by simp) 0 _ rfl
  have format := formats.format.declared { name := "Word" } rfl
  rw [known] at format
  obtain ⟨digits, digitsMember, digitsFormats⟩ :=
    rules { kind := .integer, format := some "Digits" } (by simp) (by simp)
  obtain ⟨sign, signMember, signFormats⟩ :=
    rules { kind := .char '-', format := some "Sign" } (by simp) (by simp)
  obtain ⟨number, digitsFormat, shared⟩ := digitsFormats.exists_number rfl
  obtain ⟨standIn, signFormat, unknown⟩ := signFormats.exists_number rfl
  have sharedNumber := shared.declared { name := "Digits", id := some "shared:number" } rfl
  rw [known] at sharedNumber
  have noNumber := unknown.undeclared rfl
  exact ⟨mode, context, accepted, collected, found, formats.name, (Option.some.inj format).symm,
    ⟨digits, digitsMember, digitsFormat.trans sharedNumber.symm⟩, sign, signMember,
    signFormat.trans (congrArg some noNumber)⟩

end SyntaxHighlight
