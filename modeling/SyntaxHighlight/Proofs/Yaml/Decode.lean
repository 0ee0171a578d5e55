/-
What readers of nodes give. A list holds nothing but what the reader of its items gave; a record
has every property that the blank record has and that no field takes away.
-/

import SyntaxHighlight.Proofs.Except
import SyntaxHighlight.Yaml.Decode

namespace SyntaxHighlight.Yaml

/-- Whatever a reader gives has a property. -/
def Decoder.Gives {α : Type} (decode : Decoder α) (property : α → Prop) : Prop :=
  ∀ path node value, decode path node = .ok value → property value

/-- A field leaves a record with a property that the record had without it. -/
def RecordField.Keeps {α : Type} (field : RecordField α) (property : α → Prop) : Prop :=
  field.decode.Gives fun change => ∀ record, property record → property (change record)

section Decoders

variable {α β : Type} {property : α → Prop}

@[simp] theorem Decoder.gives_true {decode : Decoder α} : decode.Gives fun _ => True :=
  fun _ _ _ _ => trivial

theorem Decoder.Gives.imp {decode : Decoder α} {weaker : α → Prop} (gives : decode.Gives property)
    (implies : ∀ value, property value → weaker value) : decode.Gives weaker :=
  fun path node value accepted => implies value (gives path node value accepted)

theorem Decoder.Gives.checked {decode : Decoder β} {check : β → Except String α}
    (gives : ∀ value result, check value = .ok result → property result) :
    (decodeChecked decode check).Gives property := by
  intro path node result accepted
  unfold decodeChecked at accepted
  obtain ⟨value, _, accepted⟩ := bind_eq_ok.mp accepted
  split at accepted
  · rename_i passed
    cases accepted
    exact gives value _ passed
  · cases accepted

/-! ### Lists -/

theorem Decoder.Gives.items {decode : Decoder α} (gives : decode.Gives property) {path : Path}
    {index : Nat} {nodes : List Node} {values : List α}
    (accepted : decodeItems decode path index nodes = .ok values) :
    ∀ value ∈ values, property value := by
  induction nodes generalizing index values with
  | nil =>
      cases accepted
      exact List.forall_mem_nil _
  | cons node rest ih =>
      obtain ⟨first, firstAccepted, accepted⟩ := bind_eq_ok.mp accepted
      obtain ⟨later, laterAccepted, accepted⟩ := bind_eq_ok.mp accepted
      cases accepted
      exact List.forall_mem_cons.mpr ⟨gives _ node first firstAccepted, ih laterAccepted⟩

theorem Decoder.Gives.list {decode : Decoder α} (gives : decode.Gives property) :
    (decodeList decode).Gives fun values => ∀ value ∈ values, property value := by
  intro path node values accepted
  unfold decodeList at accepted
  split at accepted
  · exact gives.items accepted
  · split at accepted
    · cases accepted
      exact List.forall_mem_nil _
    · cases accepted

/-! ### Records -/

@[simp] theorem RecordField.keeps_needed {name : String} {decode : Decoder β}
    {set : β → α → α} : (RecordField.needed name decode set).Keeps property ↔
      decode.Gives fun value => ∀ record, property record → property (set value record) := by
  constructor
  · intro keeps path node value decoded
    refine keeps path node (set value) ?_
    exact bind_eq_ok.mpr ⟨value, decoded, rfl⟩
  · intro gives path node change accepted
    obtain ⟨value, decoded, accepted⟩ := bind_eq_ok.mp accepted
    cases accepted
    exact gives path node value decoded

/-- What is read of a field does not hang on whether it may be missing. -/
@[simp] theorem RecordField.keeps_defaulted {name : String} {decode : Decoder β}
    {set : β → α → α} : (RecordField.defaulted name decode set).Keeps property ↔
      decode.Gives fun value => ∀ record, property record → property (set value record) :=
  @RecordField.keeps_needed α β property name decode set

theorem decodeFields_gives {fields : List (RecordField α)}
    (keeps : ∀ field ∈ fields, field.Keeps property) {path : Path} {seen : List String}
    {record result : α} {entries : List (Node × Node)}
    (accepted : decodeFields fields path seen record entries = .ok result)
    (holds : property record) : property result := by
  induction entries generalizing seen record with
  | nil =>
      unfold decodeFields at accepted
      split at accepted
      · cases accepted
      · cases accepted
        exact holds
  | cons entry rest ih =>
      obtain ⟨key, value⟩ := entry
      unfold decodeFields at accepted
      obtain ⟨name, _, accepted⟩ := bind_eq_ok.mp accepted
      split at accepted
      · exact ih accepted holds
      · rename_i field found
        dsimp only at accepted
        split at accepted
        · obtain ⟨_, impossible, _⟩ := bind_eq_ok.mp accepted
          cases impossible
        · obtain ⟨change, changeAccepted, accepted⟩ := bind_eq_ok.mp accepted
          have kept := keeps field (List.mem_of_find?_eq_some found) _ value change changeAccepted
          exact ih accepted (kept record holds)

theorem Decoder.Gives.record {expected : String} {fields : List (RecordField α)} {blank : α}
    (holds : property blank) (keeps : ∀ field ∈ fields, field.Keeps property) :
    (decodeRecord expected fields blank).Gives property := by
  intro path node result accepted
  obtain ⟨entries, _, accepted⟩ := bind_eq_ok.mp accepted
  exact decodeFields_gives keeps accepted holds

theorem Decoder.Gives.document {decode : Decoder α} (gives : decode.Gives property)
    {text : String} {value : α} (accepted : decodeDocument decode text = .ok value) :
    property value := by
  unfold decodeDocument at accepted
  split at accepted
  · cases accepted
  · split at accepted
    · rename_i decoded
      cases accepted
      exact gives _ _ _ decoded
    · cases accepted

end Decoders

end SyntaxHighlight.Yaml
