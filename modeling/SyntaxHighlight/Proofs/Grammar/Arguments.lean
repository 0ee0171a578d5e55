/-
The arguments of the rules of a definition. A rule that needs a text is rejected when the text is
empty, and none of its properties changes what it looks for; so no definition that has been read
has a rule without its argument.
-/

import SyntaxHighlight.Grammar.DefinitionReading
import SyntaxHighlight.Proofs.Yaml.Decode

namespace SyntaxHighlight

open SyntaxHighlight.Yaml

/-- Whether the text with which a rule works, if there is one, is not empty. -/
def RuleKind.HasArgument : RuleKind → Prop
  | .anyChar text | .literal text | .word text => text ≠ ""
  | .regex text | .keyword text | .includeRules text => text ≠ ""
  | _ => True

/-! ### Rules -/

theorem argumentNonempty_ne {key : String} {argument : Value} {text : String}
    (accepted : argumentNonempty key argument = .ok text) : text ≠ "" := by
  obtain ⟨spelled, _, accepted⟩ := bind_eq_ok.mp accepted
  split at accepted
  · cases accepted
  · rename_i filled
    cases accepted
    rintro rfl
    exact filled rfl

theorem readLineContinue_hasArgument {key : String} {argument : Value} {kind : RuleKind}
    (accepted : readLineContinue key argument = .ok kind) : kind.HasArgument := by
  unfold readLineContinue at accepted
  split at accepted
  · cases accepted
    exact trivial
  · cases accepted
    exact trivial
  · obtain ⟨_, _, rfl⟩ := map_eq_ok.mp accepted
    exact trivial

theorem hasArgument_of_text {key : String} {argument : Value} {make : String → RuleKind}
    {kind : RuleKind} (accepted : make <$> argumentNonempty key argument = .ok kind)
    (enough : ∀ text, text ≠ "" → (make text).HasArgument) : kind.HasArgument := by
  obtain ⟨text, read, rfl⟩ := map_eq_ok.mp accepted
  exact enough text (argumentNonempty_ne read)

theorem readKind_hasArgument {key : String} {argument : Value} {kind : RuleKind}
    (accepted : readKind key argument = .ok kind) : kind.HasArgument := by
  unfold readKind at accepted
  split at accepted
  case h_1 =>
      obtain ⟨_, _, rfl⟩ := map_eq_ok.mp accepted
      exact trivial
  case h_2 | h_9 =>
      obtain ⟨⟨_, _⟩, _, rfl⟩ := map_eq_ok.mp accepted
      exact trivial
  case h_3 | h_4 | h_5 | h_6 | h_7 | h_8 =>
      exact hasArgument_of_text accepted fun _ filled => filled
  case h_10 => exact readLineContinue_hasArgument accepted
  case h_11 | h_12 | h_13 | h_14 | h_15 =>
      cases accepted
      exact trivial
  case h_16 => cases accepted

theorem readProperty_kind {rule changed : RuleDeclaration} {key : String} {value : Value}
    (accepted : readProperty rule key value = .ok changed) : changed.kind = rule.kind := by
  unfold readProperty at accepted
  split at accepted
  case h_9 =>
      cases accepted
      rfl
  all_goals
    obtain ⟨_, _, same⟩ := bind_eq_ok.mp accepted
    cases same
    rfl

theorem readProperties_kind {rule changed : RuleDeclaration} {entries : List (Value × Value)}
    (accepted : readProperties rule entries = .ok changed) : changed.kind = rule.kind := by
  induction entries generalizing rule with
  | nil =>
      cases accepted
      rfl
  | cons entry rest ih =>
      obtain ⟨key, value⟩ := entry
      unfold readProperties at accepted
      split at accepted
      · obtain ⟨next, nextAccepted, accepted⟩ := bind_eq_ok.mp accepted
        exact (ih accepted).trans (readProperty_kind nextAccepted)
      · cases accepted

theorem RuleDeclaration.ofValue_hasArgument {value : Value} {rule : RuleDeclaration}
    (accepted : RuleDeclaration.ofValue value = .ok rule) : rule.kind.HasArgument := by
  unfold RuleDeclaration.ofValue at accepted
  split at accepted
  · dsimp only at accepted
    split at accepted
    · cases accepted
    · obtain ⟨kind, read, accepted⟩ := bind_eq_ok.mp accepted
      rw [readProperties_kind accepted]
      exact readKind_hasArgument read
    · cases accepted
  · cases accepted

/-! ### Definitions -/

theorem decodeRule_gives : decodeRule.Gives fun rule => rule.kind.HasArgument := by
  refine Decoder.Gives.checked ?_
  intro node rule accepted
  split at accepted
  · cases accepted
  · rename_i value _
    cases read : RuleDeclaration.ofValue value with
    | error error =>
        rw [read] at accepted
        cases accepted
    | ok declaration =>
        rw [read] at accepted
        cases accepted
        exact RuleDeclaration.ofValue_hasArgument read

theorem decodeContext_gives :
    decodeContext.Gives fun context => ∀ rule ∈ context.rules, rule.kind.HasArgument := by
  refine Decoder.Gives.record (List.forall_mem_nil _) ?_
  -- The other fields leave the rules alone.
  simpa using decodeRule_gives.list.imp fun _ given _ _ => given

theorem decodeDefinition_gives : decodeDefinition.Gives fun definition =>
    ∀ context ∈ definition.contexts, ∀ rule ∈ context.rules, rule.kind.HasArgument := by
  refine Decoder.Gives.record (List.forall_mem_nil _) ?_
  simpa using decodeContext_gives.list.imp fun _ given _ _ => given

end SyntaxHighlight
