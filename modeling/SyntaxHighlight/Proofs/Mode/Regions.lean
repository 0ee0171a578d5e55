/-
The numbers of folding regions. Names are numbered in the order in which rules and comments first
mention them, from one on, in sixteen bits; so the numbers tell regions apart, and none is zero, as
long as there are fewer than two to the sixteenth names. Whatever rule names a region carries its
number. The traits of a definition have the number for its comments in a signed byte, and take one
that does not fit for no region at all.
-/

import Mathlib
import SyntaxHighlight.Proofs.Mode.Origins

namespace SyntaxHighlight

open SyntaxHighlight.Text

/-! ### Names of regions -/

def Definition.commentRegion? (own : Definition) : Option String :=
  own.comments.multiLine.bind (·.region)

/-- A definition names the regions of its rules and that of its comments. -/
def Definition.NamesRegion (own : Definition) (name : String) : Prop :=
  (∃ context ∈ own.contexts, ∃ rule ∈ context.rules,
    rule.beginRegion = some name ∨ rule.endRegion = some name) ∨ own.commentRegion? = some name

section Names

variable {own : Definition} {name : String} {names : List String} {numbering : Numbering}

theorem mem_regionNames : name ∈ regionNames own ↔ own.NamesRegion name := by
  unfold regionNames Definition.NamesRegion Definition.commentRegion?
  simp only [List.mem_append, List.mem_flatMap, Option.mem_toList]

theorem firstOfEach_append_singleton {α : Type} [DecidableEq α] (items : List α) (item : α) :
    firstOfEach (items ++ [item]) =
      if item ∈ items then firstOfEach items else firstOfEach items ++ [item] := by
  simp only [← @mem_firstOfEach α _ items]
  unfold firstOfEach
  rw [List.foldl_append]
  rfl

theorem nodup_firstOfEach {α : Type} [DecidableEq α] (items : List α) :
    (firstOfEach items).Nodup := by
  induction items using List.reverseRecOn with
  | nil => exact List.nodup_nil
  | append_singleton items item ih =>
      rw [firstOfEach_append_singleton]
      split
      case isTrue => exact ih
      case isFalse new =>
        rw [← mem_firstOfEach] at new
        rw [← List.concat_eq_append]
        exact List.Nodup.concat new ih

theorem firstOfEach_eq_self {α : Type} [DecidableEq α] {items : List α} (distinct : items.Nodup) :
    firstOfEach items = items := by
  induction items using List.reverseRecOn with
  | nil => rfl
  | append_singleton items item ih =>
      obtain ⟨itemsDistinct, _, apart⟩ := List.nodup_append.mp distinct
      have new : item ∉ items := fun old => apart item old item (List.mem_singleton_self item) rfl
      rw [firstOfEach_append_singleton, if_neg new, ih itemsDistinct]

theorem nodup_regions (main : Definition) (others : List Definition) :
    (Numbering.ofDefinitions main others).regions.Nodup := nodup_firstOfEach _

theorem mem_regions {main : Definition} {others : List Definition} :
    name ∈ (Numbering.ofDefinitions main others).regions ↔
      ∃ own ∈ main :: others, own.NamesRegion name := by
  rw [Numbering.ofDefinitions, mem_firstOfEach, List.mem_flatMap]
  simp only [mem_regionNames]

/-! ### Numbers of regions -/

theorem Numbering.region?_eq (distinct : numbering.regions.Nodup) {index : Nat}
    (found : numbering.regions[index]? = some name) :
    numbering.region? name = some ((index + 1) % 2 ^ 16) := by
  have place : numbering.regions.findIdx? (· = name) = some index := by
    obtain ⟨inRange, same⟩ := List.getElem?_eq_some_iff.mp found
    refine List.findIdx?_eq_some_iff_getElem.mpr ⟨inRange, decide_eq_true same, ?_⟩
    intro earlier before isName
    have again := of_decide_eq_true isName
    have equal := (distinct.getElem_inj_iff).mp (again.trans same.symm)
    omega
  rw [region?, place]
  rfl

/-- Regions have numbers of their own, none of them zero. -/
structure Numbering.TellsRegionsApart (numbering : Numbering) : Prop where
  positive : ∀ name ∈ numbering.regions, numbering.region? name ≠ some 0
  injective : ∀ name ∈ numbering.regions, ∀ other ∈ numbering.regions,
    numbering.region? name = numbering.region? other → name = other

theorem Numbering.tellsRegionsApart_iff (distinct : numbering.regions.Nodup) :
    numbering.TellsRegionsApart ↔ numbering.regions.length < 2 ^ 16 := by
  constructor
  · intro apart
    by_contra many
    -- The name with the number 2 ^ 16 would have zero for it.
    have inRange : 2 ^ 16 - 1 < numbering.regions.length := by omega
    have zero := Numbering.region?_eq distinct (List.getElem?_eq_getElem inRange)
    exact apart.positive _ (List.getElem_mem inRange) zero
  · intro few
    have numbered (name : String) (member : name ∈ numbering.regions) :
        ∃ index, numbering.regions[index]? = some name ∧
          numbering.region? name = some (index + 1) := by
      obtain ⟨index, found⟩ := List.mem_iff_getElem?.mp member
      obtain ⟨inRange, _⟩ := List.getElem?_eq_some_iff.mp found
      refine ⟨index, found, ?_⟩
      rw [Numbering.region?_eq distinct found, Nat.mod_eq_of_lt (by omega)]
    constructor
    · intro name member zero
      obtain ⟨index, _, number⟩ := numbered name member
      cases number.symm.trans zero
    · intro name member other otherMember same
      obtain ⟨index, found, number⟩ := numbered name member
      obtain ⟨otherIndex, otherFound, otherNumber⟩ := numbered other otherMember
      rw [number, otherNumber] at same
      cases same
      exact Option.some.inj (found.symm.trans otherFound)

theorem Numbering.exists_region? (distinct : numbering.regions.Nodup)
    (member : name ∈ numbering.regions) : ∃ id, numbering.region? name = some id := by
  obtain ⟨index, found⟩ := List.mem_iff_getElem?.mp member
  exact ⟨_, Numbering.region?_eq distinct found⟩

end Names

/-! ### Regions of rules -/

/-- A rule begins and ends the regions that its declaration names, by their numbers. -/
structure Rule.MarksAs (numbering : Numbering) (declaration : RuleDeclaration) (rule : Rule) :
    Prop where
  beginRegion : rule.beginRegion = declaration.beginRegion.bind numbering.region?
  endRegion : rule.endRegion = declaration.endRegion.bind numbering.region?

section Rules

theorem Rule.IsCompiledFrom.marks {numbering : Numbering} {definition : Definition}
    {context : String} {declaration : RuleDeclaration} {rule : Rule}
    (compiled : rule.IsCompiledFrom numbering definition context declaration) :
    rule.MarksAs numbering declaration := by
  obtain ⟨matcher, rfl⟩ := compiled.exists_matcher
  exact ⟨rfl, rfl⟩

variable {main : Definition} {others : List Definition} {maxDepth : Nat} {mode : Mode}

/-- Every rule of a mode carries the regions of a declaration, wherever it is included. -/
theorem Mode.exists_declaration (accepted : Mode.ofDefinitions main others maxDepth = .ok mode) :
    ∀ context ∈ mode.contexts, ∀ rule ∈ context.rules, ∃ own ∈ main :: others,
      ∃ declared ∈ own.contexts, ∃ declaration ∈ declared.rules,
        rule.MarksAs (Numbering.ofDefinitions main others) declaration := by
  intro context member rule ruleMember
  obtain ⟨own, ownMember, declared, declaredMember, declaration, declarationMember, compiled⟩ :=
    Mode.exists_origin accepted context member rule ruleMember
  exact ⟨own, ownMember, declared, declaredMember, declaration, declarationMember, compiled.marks⟩

/-- Every declaration of a rule has one in its context that carries its regions. -/
theorem Mode.exists_rule (accepted : Mode.ofDefinitions main others maxDepth = .ok mode) :
    ∀ own ∈ main :: others, ∀ declared ∈ own.contexts, ∀ declaration ∈ declared.rules,
      (∀ target, declaration.kind ≠ .includeRules target) →
        ∃ context ∈ mode.contexts, context.name = declared.name ∧ context.definition = own.name ∧
          ∃ rule ∈ context.rules,
            rule.MarksAs (Numbering.ofDefinitions main others) declaration := by
  intro own ownMember declared declaredMember declaration declarationMember ownRule
  obtain ⟨context, member, name, definition, rule, ruleMember, compiled⟩ :=
    Mode.exists_compiled accepted own ownMember declared declaredMember declaration
      declarationMember ownRule
  exact ⟨context, member, name, definition, rule, ruleMember, compiled.marks⟩

end Rules

/-! ### Regions of comments -/

section Comments

variable {main own : Definition} {others : List Definition} {maxDepth : Nat} {mode : Mode}

theorem Definition.traitsIn_commentRegion_of_none (numbering : Numbering)
    (none : own.commentRegion? = none) : (own.traitsIn numbering).commentRegion = 0 := by
  by_cases isDefault : own.name = defaultTraitsName
  · rw [Definition.traitsIn_of_eq _ isDefault]
  · obtain ⟨_, _, _, region, _⟩ := Traits.ofDefinition_eq own numbering.commentRegion?
    rw [Definition.traitsIn_of_ne _ isDefault, region, ← commentRegion?, none]
    rfl

theorem Definition.traitsIn_commentRegion {numbering : Numbering} {name : String} {id : Nat}
    (named : own.commentRegion? = some name) (numbered : numbering.region? name = some id) :
    (own.traitsIn numbering).commentRegion =
      if id < 128 ∧ own.name ≠ defaultTraitsName then (id : Int) else 0 := by
  by_cases isDefault : own.name = defaultTraitsName
  · rw [Definition.traitsIn_of_eq _ isDefault, if_neg fun both => both.2 isDefault]
  · obtain ⟨_, _, _, region, _⟩ := Traits.ofDefinition_eq own numbering.commentRegion?
    rw [Definition.traitsIn_of_ne _ isDefault, region, ← commentRegion?, named, Option.bind_some,
      Numbering.commentRegion?, numbered, Option.bind_some]
    by_cases fits : id < 128
    · rw [if_pos fits, if_pos ⟨fits, isDefault⟩, Option.getD_some]
    · rw [if_neg fits, if_neg fun both => fits both.1, Option.getD_none]

/-- Each name of a region has one number for all of a mode, and the rules that name it carry this
number. Numbers tell regions apart unless there are too many for sixteen bits. In a format of a
definition, comments have the number of their region as far as this fits into a signed byte and the
definition does not have the name of the default traits; otherwise they have none. -/
theorem Mode.regions_areNumbered (accepted : Mode.ofDefinitions main others maxDepth = .ok mode) :
    let numbering := Numbering.ofDefinitions main others
    (numbering.regions.Nodup ∧
      (∀ name, name ∈ numbering.regions ↔ ∃ own ∈ main :: others, own.NamesRegion name) ∧
      ∀ index name, numbering.regions[index]? = some name →
        numbering.region? name = some ((index + 1) % 2 ^ 16)) ∧
    (numbering.TellsRegionsApart ↔ numbering.regions.length < 2 ^ 16) ∧
    (∀ context ∈ mode.contexts, ∀ rule ∈ context.rules, ∃ own ∈ main :: others,
      ∃ declared ∈ own.contexts, ∃ declaration ∈ declared.rules,
        rule.MarksAs numbering declaration) ∧
    (∀ own ∈ main :: others, ∀ declared ∈ own.contexts, ∀ declaration ∈ declared.rules,
      (∀ target, declaration.kind ≠ .includeRules target) →
        ∃ context ∈ mode.contexts, context.name = declared.name ∧ context.definition = own.name ∧
          ∃ rule ∈ context.rules, rule.MarksAs numbering declaration) ∧
    ∀ index format, mode.registry.format? index = some format →
      ∃ own, (main :: others).find? (·.name = format.definition) = some own ∧
        (own.commentRegion? = none → (mode.traitsOfFormat index).commentRegion = 0) ∧
        ∀ name, own.commentRegion? = some name → ∃ id, numbering.region? name = some id ∧
          (mode.traitsOfFormat index).commentRegion =
            if id < 128 ∧ own.name ≠ defaultTraitsName then (id : Int) else 0 := by
  intro numbering
  have distinct : numbering.regions.Nodup := nodup_regions main others
  refine ⟨⟨distinct, fun name => mem_regions, fun index name => Numbering.region?_eq distinct⟩,
    Numbering.tellsRegionsApart_iff distinct, Mode.exists_declaration accepted,
    Mode.exists_rule accepted, ?_⟩
  intro index format found
  obtain ⟨own, first⟩ := Mode.exists_owner accepted found
  obtain ⟨_, traits⟩ := Mode.traitsOfFormat_eq accepted found first
  refine ⟨own, first, fun none => ?_, fun name named => ?_⟩
  · rw [traits]
    exact Definition.traitsIn_commentRegion_of_none _ none
  · have member : name ∈ numbering.regions :=
      mem_regions.mpr ⟨own, List.mem_of_find?_eq_some first, .inr named⟩
    obtain ⟨id, numbered⟩ := Numbering.exists_region? distinct member
    rw [traits]
    exact ⟨id, numbered, Definition.traitsIn_commentRegion named numbered⟩

end Comments

/-- A language with blocks, whose comments are those of another one. -/
def foldingLanguage : Definition where
  name := "Folding"
  contexts :=
    [{ name := "Normal"
       rules :=
         [{ kind := .char '\x7b', beginRegion := some "Block" },
          { kind := .char '\x7d', endRegion := some "Block" },
          { kind := .charPair '/' '*', switch := some "##Remark", beginRegion := some "Remark" }] }]
  formats := [{ name := "Text" }]

def remarkLanguage : Definition where
  name := "Remark"
  contexts :=
    [{ name := "Text"
       rules :=
         [{ kind := .charPair '*' '/', switch := some "#pop", endRegion := some "Remark" }] }]
  formats := [{ name := "Text" }]
  comments :=
    { multiLine := some { startMarker := "/*", endMarker := "*/", region := some "Remark" } }

theorem regions_foldingLanguage :
    (Numbering.ofDefinitions foldingLanguage [remarkLanguage]).regions = ["Block", "Remark"] := by
  change firstOfEach ([foldingLanguage, remarkLanguage].flatMap regionNames) = _
  cbv

/-- One language begins the region that the other one ends. -/
theorem Mode.regions_areNumbered_foldingLanguage :
    ∃ mode format, Mode.ofDefinitions foldingLanguage [remarkLanguage] 8 = .ok mode ∧
      (Numbering.ofDefinitions foldingLanguage [remarkLanguage]).TellsRegionsApart ∧
      (∃ context ∈ mode.contexts, context.name = "Normal" ∧
        ∃ rule ∈ context.rules, rule.beginRegion = some 2) ∧
      (∃ context ∈ mode.contexts, context.name = "Text" ∧
        ∃ rule ∈ context.rules, rule.endRegion = some 2) ∧
      mode.registry.format? 1 = some format ∧ format.definition = "Remark" ∧
      (mode.traitsOfFormat 1).commentRegion = 2 := by
  have plain : ∀ own ∈ [foldingLanguage, remarkLanguage], own.IsPlain := by
    simp [foldingLanguage, remarkLanguage, Definition.IsPlain, RuleKind.isPlain]
  obtain ⟨mode, accepted⟩ := Mode.exists_of_isPlain plain 8
  obtain ⟨⟨_, _, numbers⟩, apart, _, rules, comments⟩ := Mode.regions_areNumbered accepted
  rw [regions_foldingLanguage] at numbers apart
  have number := numbers 1 "Remark" rfl
  have marks (rule : Rule) (declaration : RuleDeclaration)
      (marked : rule.MarksAs (Numbering.ofDefinitions foldingLanguage [remarkLanguage])
        declaration) :
      (declaration.beginRegion = some "Remark" → rule.beginRegion = some 2) ∧
        (declaration.endRegion = some "Remark" → rule.endRegion = some 2) := by
    constructor
    · intro named
      rw [marked.beginRegion, named]
      exact number
    · intro named
      rw [marked.endRegion, named]
      exact number
  obtain ⟨normal, normalMember, normalName, _, begins, beginsMember, beginsMarks⟩ :=
    rules foldingLanguage (by simp) _ List.mem_cons_self
      { kind := .charPair '/' '*', switch := some "##Remark", beginRegion := some "Remark" }
      (by simp) (by simp)
  obtain ⟨text, textMember, textName, _, ends, endsMember, endsMarks⟩ :=
    rules remarkLanguage (by simp) _ List.mem_cons_self
      { kind := .charPair '*' '/', switch := some "#pop", endRegion := some "Remark" }
      (by simp) (by simp)
  obtain ⟨drafts, made⟩ := Mode.isMadeFrom_of_ofDefinitions accepted
  have registered : ((registerAll foldingLanguage [remarkLanguage]).1.format? 1).map
      (·.definition) = some "Remark" := by cbv
  rw [← made.registry] at registered
  obtain ⟨format, found, isRemark⟩ := Option.map_eq_some_iff.mp registered
  obtain ⟨own, first, _, commented⟩ := comments 1 format found
  have isOwn : own = remarkLanguage := by
    rw [isRemark] at first
    simpa [foldingLanguage, remarkLanguage, eq_comm] using first
  subst isOwn
  obtain ⟨id, commentNumber, region⟩ := commented "Remark" rfl
  obtain rfl : id = 2 := Option.some.inj (commentNumber.symm.trans number)
  exact ⟨mode, format, accepted, apart.mpr (by decide),
    ⟨normal, normalMember, normalName, begins, beginsMember, (marks _ _ beginsMarks).1 rfl⟩,
    ⟨text, textMember, textName, ends, endsMember, (marks _ _ endsMarks).2 rfl⟩,
    found, isRemark, region⟩

def crowdedName (index : Nat) : String := .ofList (.replicate (index + 1) 'x')

/-- A language with so many regions that the number of the last one, which is that of comments, does
not fit into a signed byte. -/
def crowdedLanguage : Definition where
  name := "Crowded"
  contexts :=
    [{ name := "Normal"
       rules := (List.range 128).map fun index =>
        { kind := .spaces, beginRegion := some (crowdedName index) } }]
  comments :=
    { multiLine := some
        { startMarker := "/*", endMarker := "*/", region := some (crowdedName 127) } }

theorem crowdedName_injective : Function.Injective crowdedName := by
  intro one other same
  have lengths := congrArg (fun name => name.toList.length) same
  simpa [crowdedName] using lengths

theorem regions_crowdedLanguage :
    (Numbering.ofDefinitions crowdedLanguage []).regions = (List.range 128).map crowdedName := by
  have distinct : ((List.range 128).map crowdedName).Nodup :=
    List.nodup_range.map crowdedName_injective
  have last : crowdedName 127 ∈ (List.range 128).map crowdedName :=
    List.mem_map_of_mem (List.mem_range.mpr (by decide))
  have names : [crowdedLanguage].flatMap regionNames =
      (List.range 128).map crowdedName ++ [crowdedName 127] := by
    simp [regionNames, crowdedLanguage, List.flatMap_map, ← List.map_eq_flatMap]
  rw [Numbering.ofDefinitions, names, firstOfEach_append_singleton, if_pos last,
    firstOfEach_eq_self distinct]

/-- A rule carries the number of the region of comments, while comments have none. -/
theorem Mode.regions_disagree_crowdedLanguage :
    ∃ mode format, Mode.ofDefinitions crowdedLanguage [] 8 = .ok mode ∧
      mode.registry.format? 0 = some format ∧ format.definition = crowdedLanguage.name ∧
      crowdedLanguage.commentRegion? = some (crowdedName 127) ∧
      (∃ context ∈ mode.contexts, ∃ rule ∈ context.rules, rule.beginRegion = some 128) ∧
      (mode.traitsOfFormat 0).commentRegion = 0 := by
  have plain : ∀ own ∈ [crowdedLanguage], own.IsPlain := by
    simp [crowdedLanguage, Definition.IsPlain, RuleKind.isPlain]
  obtain ⟨mode, accepted⟩ := Mode.exists_of_isPlain plain 8
  have place : (Numbering.ofDefinitions crowdedLanguage []).regions[127]? =
      some (crowdedName 127) := by
    rw [regions_crowdedLanguage, List.getElem?_map, List.getElem?_range (by decide)]
    rfl
  have number : (Numbering.ofDefinitions crowdedLanguage []).region? (crowdedName 127) =
      some 128 := Numbering.region?_eq (nodup_regions crowdedLanguage []) place
  obtain ⟨context, contextMember, _, _, rule, ruleMember, marks⟩ :=
    Mode.exists_rule accepted crowdedLanguage (by simp) _ List.mem_cons_self
      { kind := .spaces, beginRegion := some (crowdedName 127) }
      (List.mem_map_of_mem (List.mem_range.mpr (by decide))) (by simp)
  obtain ⟨drafts, made⟩ := Mode.isMadeFrom_of_ofDefinitions accepted
  have found : mode.registry.format? 0 = some (.normalText "Crowded") := by
    rw [made.registry]
    rfl
  have first : [crowdedLanguage].find? (·.name = (Format.normalText "Crowded").definition) =
      some crowdedLanguage := by
    simp [crowdedLanguage, Format.normalText]
  obtain ⟨_, traits⟩ := Mode.traitsOfFormat_eq accepted found first
  refine ⟨mode, _, accepted, found, rfl, rfl, ⟨context, contextMember, rule, ruleMember, ?_⟩, ?_⟩
  · rw [marks.beginRegion, Option.bind_some, number]
  · rw [traits, Definition.traitsIn_commentRegion rfl number]
    rfl

end SyntaxHighlight
