/-
Styles that are resolved before and after they were written to a store. Writing an attribute with
the defaults of a schema is writing the one in which everything is set that resolving it there
gives; so resolving it again in that schema changes nothing, and what every resolved style has is
the same in all other schemas.
-/

import SyntaxHighlight.Proofs.Override.Fields

namespace SyntaxHighlight

/-- A schema of which stores can keep every color and every font. -/
structure Schema.IsStorable (schema : Schema) : Prop where
  foreground : schema.foreground.code.toNat < 2 ^ 24
  selectedForeground : schema.selectedForeground.code.toNat < 2 ^ 24
  default : ∀ styleClass, (schema.default styleClass).IsStorable

/-- The attribute with everything set that it inherits from a schema. Backgrounds and the font stay
open where neither sets them. -/
def Schema.pinned (schema : Schema) (attr : Attribute) : Attribute :=
  let resolved := schema.resolve attr
  { attr with
    style :=
      { foreground := some resolved.foreground
        selectedForeground := some resolved.selectedForeground
        background := resolved.background
        selectedBackground := resolved.selectedBackground
        bold := some resolved.bold
        italic := some resolved.italic
        underline := some resolved.underline
        strikeout := some resolved.strikeout
        fontFamily := resolved.fontFamily } }

variable {α : Type}

theorem or_some_getD (value base : Option α) (otherwise : α) :
    value.or (some (base.getD otherwise)) = some ((value.or base).getD otherwise) := by
  cases value with
  | none => rfl
  | some value => rfl

theorem or_or_self (value base : Option α) : (value.or base).or base = value.or base := by
  rw [Option.or_assoc, Option.or_self]

namespace Override

/-! ### Defaults that are written -/

theorem encodeProperty_eq (write : α → String) (withDefaults : Bool) (value default : Option α) :
    encodeProperty write withDefaults value default =
      ((if withDefaults then value.or default else value).map write).getD "" := by
  cases value with
  | some value => cases withDefaults <;> rfl
  | none => cases withDefaults <;> rfl

theorem encode_withDefaults (attr : Attribute) (schema : Schema) :
    encode attr schema true = encode (schema.pinned attr) schema false := by
  simp only [encode, encodeProperty_eq, Schema.pinned, Schema.resolve, TextStyle.inheriting,
    Option.none_or, or_some_getD, if_true, Bool.false_eq_true, if_false]

end Override

/-! ### What stores have room for -/

section Room

variable {p : α → Prop} {value base : Option α} {otherwise : α}

theorem forall_or (own : ∀ found, value = some found → p found)
    (inherited : ∀ found, base = some found → p found) :
    ∀ found, value.or base = some found → p found := by
  intro found same
  rcases Option.or_eq_some_iff.mp same with here | ⟨_, there⟩
  · exact own found here
  · exact inherited found there

theorem forall_getD (own : ∀ found, value = some found → p found) (last : p otherwise) :
    ∀ found, some (value.getD otherwise) = some found → p found := by
  intro found same
  cases value with
  | none =>
      cases same
      exact last
  | some value => exact own found same

end Room

theorem TextStyle.IsStorable.inheriting {style base : TextStyle} (own : style.IsStorable)
    (inherited : base.IsStorable) : (style.inheriting base).IsStorable where
  foreground := forall_or own.foreground inherited.foreground
  selectedForeground := forall_or own.selectedForeground inherited.selectedForeground
  background := forall_or own.background inherited.background
  selectedBackground := forall_or own.selectedBackground inherited.selectedBackground
  font := forall_or own.font inherited.font

variable {schema other : Schema} {attr : Attribute}

theorem Schema.IsStorable.pinned (storable : schema.IsStorable)
    (own : attr.style.IsStorable) : (schema.pinned attr).style.IsStorable := by
  have inherited := own.inheriting (storable.default attr.styleClass)
  constructor
  · exact forall_getD inherited.foreground storable.foreground
  · exact forall_getD inherited.selectedForeground storable.selectedForeground
  · exact inherited.background
  · exact inherited.selectedBackground
  · exact inherited.font

instance (style : TextStyle) : Decidable style.IsStorable :=
  decidable_of_iff
    ((∀ color ∈ style.foreground, color.code.toNat < 2 ^ 24) ∧
      (∀ color ∈ style.selectedForeground, color.code.toNat < 2 ^ 24) ∧
      (∀ color ∈ style.background, color.code.toNat < 2 ^ 24) ∧
      (∀ color ∈ style.selectedBackground, color.code.toNat < 2 ^ 24) ∧
      ∀ font ∈ style.fontFamily,
        Text.trimString font = font ∧ font ≠ "" ∧ font ≠ Override.terminator)
    ⟨fun ⟨one, two, three, four, five⟩ => ⟨one, two, three, four, five⟩,
      fun storable => ⟨storable.foreground, storable.selectedForeground, storable.background,
        storable.selectedBackground, storable.font⟩⟩

/-! ### Resolving again -/

theorem Schema.resolve_named (schema : Schema) (attr : Attribute) (name : String)
    (skipsSpellChecking : Bool) :
    schema.resolve { attr with name, skipsSpellChecking } =
      { schema.resolve attr with name, skipsSpellChecking } :=
  rfl

/-- What is pinned in one schema is the same in all others, except for backgrounds and fonts that
are still open. -/
theorem resolve_pinned (schema other : Schema) (attr : Attribute) :
    other.resolve (schema.pinned attr) =
      { schema.resolve attr with
        background := (schema.resolve attr).background.or (other.default attr.styleClass).background
        selectedBackground := (schema.resolve attr).selectedBackground.or
          (other.default attr.styleClass).selectedBackground
        fontFamily := (schema.resolve attr).fontFamily.or
          (other.default attr.styleClass).fontFamily } :=
  rfl

theorem resolve_pinned_self (schema : Schema) (attr : Attribute) :
    schema.resolve (schema.pinned attr) = schema.resolve attr := by
  rw [resolve_pinned]
  simp only [Schema.resolve, TextStyle.inheriting, or_or_self]

namespace Override

theorem apply_encode_of_isStorable (target : Attribute) (storable : attr.style.IsStorable) :
    apply target (encode attr schema false) =
      { attr with name := target.name, skipsSpellChecking := target.skipsSpellChecking } := by
  rw [apply_encode, storable.stored_eq_self]

theorem apply_encode_withDefaults (target : Attribute) (schemaStorable : schema.IsStorable)
    (storable : attr.style.IsStorable) :
    apply target (encode attr schema true) =
      { schema.pinned attr with
        name := target.name
        skipsSpellChecking := target.skipsSpellChecking } := by
  rw [encode_withDefaults, apply_encode_of_isStorable target (schemaStorable.pinned storable)]

/-- An attribute that is written, with defaults or without, and read again is resolved as before.
With defaults it looks the same in every other schema, except that backgrounds and the font are
taken from there if neither the attribute nor the first schema sets them. -/
theorem resolve_apply_encode (schemaStorable : schema.IsStorable)
    (storable : attr.style.IsStorable) (target : Attribute) :
    (∀ withDefaults,
        schema.resolve (apply target (encode attr schema withDefaults)) =
          { schema.resolve attr with
            name := target.name
            skipsSpellChecking := target.skipsSpellChecking }) ∧
      ∀ other : Schema,
        other.resolve (apply target (encode attr schema true)) =
          { schema.resolve attr with
            name := target.name
            skipsSpellChecking := target.skipsSpellChecking
            background :=
              (schema.resolve attr).background.or (other.default attr.styleClass).background
            selectedBackground := (schema.resolve attr).selectedBackground.or
              (other.default attr.styleClass).selectedBackground
            fontFamily :=
              (schema.resolve attr).fontFamily.or (other.default attr.styleClass).fontFamily } := by
  constructor
  · intro withDefaults
    cases withDefaults with
    | false =>
        rw [apply_encode_of_isStorable target storable, Schema.resolve_named]
    | true =>
        rw [apply_encode_withDefaults target schemaStorable storable, Schema.resolve_named,
          resolve_pinned_self]
  · intro other
    rw [apply_encode_withDefaults target schemaStorable storable, Schema.resolve_named,
      resolve_pinned]

end Override

theorem Schema.normal_isStorable : Schema.normal.IsStorable where
  foreground := by decide
  selectedForeground := by decide
  default := by
    intro styleClass
    cases styleClass <;> decide

/-- A keyword that sets its font only. -/
def monospaced : Attribute where
  name := "Keyword"
  styleClass := .keyword
  style := { fontFamily := some "Mono" }

/-- Written with the defaults of the light schema, the keyword stays dark on a dark ground. -/
theorem Override.resolve_apply_encode_monospaced :
    Schema.normal.IsStorable ∧ monospaced.style.IsStorable ∧
      (Schema.dark.resolve (apply monospaced (encode monospaced .normal true))).foreground =
        ⟨0x1F1C1B⟩ ∧
      (Schema.dark.resolve (apply monospaced (encode monospaced .normal true))).bold = true := by
  have storable : monospaced.style.IsStorable := by decide
  obtain ⟨_, elsewhere⟩ := resolve_apply_encode Schema.normal_isStorable storable monospaced
  rw [elsewhere .dark]
  exact ⟨Schema.normal_isStorable, storable, rfl, rfl⟩

end SyntaxHighlight
