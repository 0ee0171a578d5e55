/-
The texts of references and of switches. White space around such a text, the pops and the mark in
front of the reference of a switch change nothing about the definition that is named behind the
number signs; so the definitions that are looked up are those that switches name.
-/

import SyntaxHighlight.Mode.Compile
import SyntaxHighlight.Proofs.Text.Trimming

namespace SyntaxHighlight

open SyntaxHighlight.Text

/-! ### Number signs -/

section Signs

variable {front behind text : List Char}

theorem splitAtSigns?_cons {char : Char} (apart : char = '#' → text.head? ≠ some '#') :
    splitAtSigns? (char :: text) =
      (splitAtSigns? text).map fun parts => (char :: parts.1, parts.2) := by
  rw [splitAtSigns?]
  rintro rest rfl rfl
  exact apart rfl rfl

theorem splitAtSigns?_append_left (apart : '#' ∉ front) (text : List Char) :
    splitAtSigns? (front ++ text) =
      (splitAtSigns? text).map fun parts => (front ++ parts.1, parts.2) := by
  induction front with
  | nil => exact Option.map_id'.symm
  | cons char rest ih =>
      obtain ⟨different, restApart⟩ := not_or.mp (mt List.mem_cons.mpr apart)
      rw [List.cons_append, splitAtSigns?_cons fun same => absurd same.symm different,
        ih restApart, Option.map_map]
      rfl

theorem splitAtSigns?_eq_none (apart : '#' ∉ text) : splitAtSigns? text = none := by
  have parts := splitAtSigns?_append_left apart []
  rwa [List.append_nil] at parts

theorem splitAtSigns?_append_right (apart : '#' ∉ behind) (text : List Char) :
    splitAtSigns? (text ++ behind) =
      (splitAtSigns? text).map fun parts => (parts.1, parts.2 ++ behind) := by
  fun_induction splitAtSigns? text with
  | case1 => exact splitAtSigns?_eq_none apart
  | case2 rest => rfl
  | case3 char rest single ih =>
      have next : char = '#' → (rest ++ behind).head? ≠ some '#' := by
        rintro rfl signs
        cases rest with
        | nil => exact apart (List.mem_of_mem_head? signs)
        | cons other rest =>
            cases Option.some.inj signs
            exact single rest rfl rfl
      rw [List.cons_append, splitAtSigns?_cons next, ih, Option.map_map, Option.map_map]
      rfl

theorem IsBlank.sign_notMem (blank : IsBlank text) : '#' ∉ text := by
  intro member
  have white := blank '#' member
  cases white

/-- White space around a text stays with its parts. -/
theorem splitAtSigns?_blank (frontBlank : IsBlank front) (behindBlank : IsBlank behind)
    (text : List Char) :
    splitAtSigns? (front ++ (text ++ behind)) =
      (splitAtSigns? text).map fun parts => (front ++ parts.1, parts.2 ++ behind) := by
  rw [splitAtSigns?_append_left frontBlank.sign_notMem,
    splitAtSigns?_append_right behindBlank.sign_notMem, Option.map_map]
  rfl

theorem ofText_of_none {text : String} (none : splitAtSigns? text.toList = none) :
    Reference.ofText text = .here text := by
  rw [Reference.ofText, none]

theorem ofText_of_nil {text : String} (parts : splitAtSigns? text.toList = some ([], behind)) :
    Reference.ofText text = .initial (String.ofList (trim behind)) := by
  rw [Reference.ofText, parts]

theorem ofText_of_cons {text : String} {before : List Char} (named : before ≠ [])
    (parts : splitAtSigns? text.toList = some (before, behind)) :
    Reference.ofText text =
      .elsewhere (String.ofList (trim before)) (String.ofList (trim behind)) := by
  obtain ⟨char, rest, rfl⟩ := List.exists_cons_of_ne_nil named
  rw [Reference.ofText, parts]

theorem head?_of_splitAtSigns? (parts : splitAtSigns? text = some ([], behind)) :
    text.head? = some '#' := by
  fun_cases splitAtSigns? text with
  | case1 => cases parts
  | case2 rest => rfl
  | case3 char rest single =>
      rw [splitAtSigns?_cons fun same next => ?_, Option.map_eq_some_iff] at parts
      · obtain ⟨_, _, impossible⟩ := parts
        cases impossible
      · obtain ⟨later, rfl⟩ := List.head?_eq_some_iff.mp next
        exact single later same rfl

/-- What becomes of a reference when the white space around its text is dropped: a name may become
another one, and a nameless context of another definition becomes the initial one. -/
theorem ofText_trim_cases (text : String) :
    (Reference.ofText text = .here text ∧
        Reference.ofText (trimString text) = .here (trimString text)) ∨
      (∃ other, Reference.ofText (trimString text) = .initial other ∧
        Reference.ofText text =
          if text.toList.head?.any isWhitespace then .elsewhere "" other else .initial other) ∨
      ∃ name other, Reference.ofText (trimString text) = .elsewhere name other ∧
        Reference.ofText text = .elsewhere name other := by
  obtain ⟨front, behind, frontBlank, behindBlank, whole⟩ := exists_blank_trim text.toList
  have split := splitAtSigns?_blank frontBlank behindBlank (trim text.toList)
  rw [← whole] at split
  have trimmed : (trimString text).toList = trim text.toList := String.toList_ofList
  rw [← trimmed] at split whole
  cases parts : splitAtSigns? (trimString text).toList with
  | none =>
      rw [parts] at split
      exact .inl ⟨ofText_of_none split, ofText_of_none parts⟩
  | some pair =>
      obtain ⟨before, signed⟩ := pair
      rw [parts, Option.map_some] at split
      have sameEnd := trim_append_right behindBlank signed
      refine .inr ?_
      by_cases nameless : before = []
      · subst nameless
        refine .inl ⟨_, ofText_of_nil parts, ?_⟩
        rw [List.append_nil] at split
        cases front with
        | nil =>
            have head := head?_of_splitAtSigns? parts
            obtain ⟨rest, signs⟩ := List.head?_eq_some_iff.mp head
            rw [ofText_of_nil split, sameEnd, whole, signs]
            rfl
        | cons char rest =>
            have white := frontBlank char List.mem_cons_self
            have none := trim_append_left frontBlank []
            rw [List.append_nil] at none
            rw [ofText_of_cons (List.cons_ne_nil char rest) split, sameEnd, none, whole,
              List.cons_append, List.head?_cons, Option.any_some, if_pos white]
            rfl
      · refine .inr ⟨_, _, ofText_of_cons nameless parts, ?_⟩
        rw [ofText_of_cons (List.append_ne_nil_of_right_ne_nil front nameless) split, sameEnd,
          trim_append_left frontBlank]

end Signs

/-! ### Switches -/

/-- The text of a switch, without white space around it, as a number of pops, a mark that may be
missing, and a reference. -/
def SwitchParts (text : String) (pops : Nat) (reference : List Char) : Prop :=
  ∃ rest, trim text.toList = (List.replicate pops "#pop".toList).flatten ++ rest ∧
    ¬"#pop".toList <+: rest ∧ reference = dropBang rest

theorem countPops_parts {fuel : Nat} {text : List Char} (enough : text.length ≤ fuel) :
    text = (List.replicate (countPops fuel text).1 "#pop".toList).flatten ++
        (countPops fuel text).2 ∧
      ¬"#pop".toList <+: (countPops fuel text).2 := by
  induction fuel generalizing text with
  | zero =>
      rw [List.length_eq_zero_iff.mp (Nat.le_zero.mp enough)]
      decide
  | succ fuel ih =>
      by_cases pops : "#pop".toList <+: text
      · obtain ⟨rest, rfl⟩ := pops
        have found : dropStart? "#pop".toList ("#pop".toList ++ rest) = some rest := by
          rw [dropStart?, if_pos (List.isPrefixOf_iff_prefix.mpr (List.prefix_append _ _)),
            List.drop_left]
        have length : ("#pop".toList ++ rest).length = rest.length + 4 := rfl
        have shorter : rest.length ≤ fuel := by omega
        obtain ⟨same, apart⟩ := ih shorter
        rw [countPops, found]
        refine ⟨?_, apart⟩
        dsimp only
        rw [List.replicate_succ, List.flatten_cons, List.append_assoc, ← same]
      · have missing : dropStart? "#pop".toList text = none := by
          rw [dropStart?, if_neg (mt List.isPrefixOf_iff_prefix.mp pops)]
        rw [countPops, missing]
        exact ⟨rfl, pops⟩

/-- The name of the definition behind the number signs of a reference. -/
def signed? (text : List Char) : Option (List Char) :=
  (splitAtSigns? text).map fun parts => trim parts.2

theorem definition?_eq (text : String) :
    (Reference.ofText text).definition? =
      ((signed? text.toList).map String.ofList).filter fun name => !name.isEmpty := by
  have named (name : String) :
      (if name.isEmpty then none else some name) =
        (some name).filter fun name => !name.isEmpty := by
    rw [Option.filter_some]
    cases name.isEmpty with
    | true => rfl
    | false => rfl
  rw [Reference.ofText, signed?]
  rcases splitAtSigns? text.toList with _ | ⟨_ | ⟨char, before⟩, behind⟩
  · rfl
  · exact named _
  · exact named _

theorem signed?_blank {front behind : List Char} (frontBlank : IsBlank front)
    (behindBlank : IsBlank behind) (text : List Char) :
    signed? (front ++ (text ++ behind)) = signed? text := by
  rw [signed?, signed?, splitAtSigns?_blank frontBlank behindBlank, Option.map_map]
  exact Option.map_congr fun parts _ => trim_append_right behindBlank parts.2

theorem signed?_trim (text : List Char) : signed? (trim text) = signed? text := by
  obtain ⟨front, behind, frontBlank, behindBlank, parts⟩ := exists_blank_trim text
  have same := signed?_blank frontBlank behindBlank (trim text)
  rw [← parts] at same
  exact same.symm

theorem signed?_cons {char : Char} {text : List Char} (apart : char = '#' → text.head? ≠ some '#') :
    signed? (char :: text) = signed? text := by
  rw [signed?, signed?, splitAtSigns?_cons apart, Option.map_map]
  rfl

theorem signed?_pops (pops : Nat) (text : List Char) :
    signed? ((List.replicate pops "#pop".toList).flatten ++ text) = signed? text := by
  induction pops with
  | zero => rfl
  | succ pops ih =>
      rw [List.replicate_succ, List.flatten_cons, List.append_assoc]
      change signed? ('#' :: 'p' :: 'o' :: 'p' :: _) = _
      rw [signed?_cons (by simp), signed?_cons (by simp), signed?_cons (by simp),
        signed?_cons (by simp)]
      exact ih

theorem signed?_dropBang (text : List Char) : signed? (dropBang text) = signed? text := by
  fun_cases dropBang text with
  | case1 rest => exact (signed?_cons (by simp)).symm
  | case2 => rfl

/-- Where a reference leads from a definition; one that is missing or stays leads nowhere. -/
def targetOf (lead : String → Option Nat) (reference : String) : Option SwitchTarget :=
  if reference.isEmpty || reference == "#stay" then none
  else
    match lead reference with
    | some id => some (.context id)
    | none => some (.unresolved reference)

theorem compileSwitch_parts (numbering : Numbering) (definition context text : String) :
    ∃ pops reference, SwitchParts text pops reference ∧
      (compileSwitch numbering definition context text).1 =
        ⟨pops, targetOf (numbering.resolve? definition) (String.ofList reference)⟩ := by
  obtain ⟨whole, apart⟩ := countPops_parts (Nat.le_refl (trim text.toList).length)
  refine ⟨_, _, ⟨_, whole, apart, rfl⟩, ?_⟩
  unfold compileSwitch targetOf
  dsimp only
  split
  · rfl
  · generalize numbering.resolve? definition _ = found
    cases found with
    | none => rfl
    | some id => rfl

/-- The reference of a switch names the definition that its text names. -/
theorem SwitchParts.definition? {text : String} {pops : Nat} {reference : List Char}
    (parts : SwitchParts text pops reference) :
    (Reference.ofText (String.ofList reference)).definition? =
      (Reference.ofText text).definition? := by
  obtain ⟨rest, whole, _, rfl⟩ := parts
  have named := signed?_trim text.toList
  rw [whole, signed?_pops] at named
  rw [definition?_eq, definition?_eq, String.toList_ofList, signed?_dropBang, named]

end SyntaxHighlight
