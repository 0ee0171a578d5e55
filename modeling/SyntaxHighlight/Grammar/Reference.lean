/-
References from one context to another. A context of the same definition is called by its name,
one of another definition by its name, two number signs and the name of the definition; without
a name it is the initial context that is meant.
-/

import SyntaxHighlight.Grammar.Definition
import SyntaxHighlight.Text.Whitespace

namespace SyntaxHighlight

open SyntaxHighlight.Text

inductive Reference where
  /-- A context of the definition in which the reference stands. -/
  | here (context : String)
  /-- The initial context of a definition. -/
  | initial (definition : String)
  | elsewhere (context definition : String)
deriving DecidableEq, Repr

/-- The parts of a text before and behind its first two number signs in a row. -/
def splitAtSigns? : List Char → Option (List Char × List Char)
  | [] => none
  | '#' :: '#' :: rest => some ([], rest)
  | char :: rest => (splitAtSigns? rest).map fun (before, behind) => (char :: before, behind)

namespace Reference

def ofText (text : String) : Reference :=
  match splitAtSigns? text.toList with
  | none => here text
  | some ([], behind) => initial (String.ofList (trim behind))
  | some (before, behind) => elsewhere (String.ofList (trim before)) (String.ofList (trim behind))

/-- The other definition to which a reference leads. -/
def definition? : Reference → Option String
  | here _ => none
  | initial definition | elsewhere _ definition =>
      if definition.isEmpty then none else some definition

end Reference

/-- A list without later repetitions. -/
def firstOfEach {α : Type} [DecidableEq α] (items : List α) : List α :=
  items.foldl (fun kept item => if item ∈ kept then kept else kept ++ [item]) []

theorem mem_firstOfEach {α : Type} [DecidableEq α] {items : List α} {item : α} :
    item ∈ firstOfEach items ↔ item ∈ items := by
  have kept : ∀ kept, item ∈ items.foldl
      (fun kept item => if item ∈ kept then kept else kept ++ [item]) kept ↔
        item ∈ kept ∨ item ∈ items := by
    induction items with
    | nil => simp
    | cons first rest ih =>
        intro kept
        rw [List.foldl_cons, ih]
        split
        · rename_i old
          simp only [List.mem_cons]
          constructor
          · rintro (inKept | later)
            · exact .inl inKept
            · exact .inr (.inr later)
          · rintro (inKept | rfl | later)
            · exact .inl inKept
            · exact .inl old
            · exact .inr later
        · simp only [List.mem_append, List.mem_cons, List.not_mem_nil, or_false, or_assoc]
  exact (kept []).trans (by simp)

namespace ContextDeclaration

private def ruleReferences (rule : RuleDeclaration) : List String :=
  rule.switch.toList ++
    match rule.kind with
    | .includeRules target => [target]
    | _ => []

/-- The texts of all references of a context, in the order of the declaration. -/
def references (context : ContextDeclaration) : List String :=
  context.lineEnd :: context.lineEmpty.toList ++ context.fallthrough.toList ++
    context.rules.flatMap ruleReferences

theorem mem_references {context : ContextDeclaration} {text : String} :
    text ∈ context.references ↔
      text = context.lineEnd ∨ context.lineEmpty = some text ∨ context.fallthrough = some text ∨
        ∃ rule ∈ context.rules, rule.switch = some text ∨ rule.kind = .includeRules text := by
  have ofRule (rule : RuleDeclaration) : text ∈ ruleReferences rule ↔
      rule.switch = some text ∨ rule.kind = .includeRules text := by
    rw [ruleReferences, List.mem_append, Option.mem_toList]
    cases rule.kind <;> simp [eq_comm]
  simp only [references, List.mem_append, List.mem_cons, Option.mem_toList, List.mem_flatMap,
    ofRule, or_assoc]

end ContextDeclaration

/-- The names of the definitions to which a definition refers, in the order in which they first
appear. -/
def Definition.references (definition : Definition) : List String :=
  firstOfEach <| (definition.contexts.flatMap ContextDeclaration.references).filterMap
    fun text => (Reference.ofText text).definition?

theorem Definition.mem_references {definition : Definition} {name : String} :
    name ∈ definition.references ↔
      ∃ context ∈ definition.contexts, ∃ text ∈ context.references,
        (Reference.ofText text).definition? = some name := by
  rw [references, mem_firstOfEach, List.mem_filterMap]
  constructor
  · rintro ⟨text, member, named⟩
    obtain ⟨context, contextMember, textMember⟩ := List.mem_flatMap.mp member
    exact ⟨context, contextMember, text, textMember, named⟩
  · rintro ⟨context, contextMember, text, textMember, named⟩
    exact ⟨text, List.mem_flatMap.mpr ⟨context, contextMember, textMember⟩, named⟩

end SyntaxHighlight
