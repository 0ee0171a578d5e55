/-
Where the characters of a line are among its bytes. The offsets grow from zero to the length of the
text, one for each character and one for the end, so a byte on a boundary belongs to one character
only, and halving the offsets finds it without reading beyond them.
-/

import Mathlib.Data.String.Basic

namespace SyntaxHighlight.Text

/-! ### Offsets -/

/-- The offsets of characters and of their end, given that of the first one. -/
def offsetsFrom (first : Nat) : List Char → List Nat
  | [] => [first]
  | char :: rest => first :: offsetsFrom (first + char.utf8Size) rest

/-- The offset of each character of a line in its bytes, and then the length of the text. -/
def byteOffsets (line : List Char) : List Nat := offsetsFrom 0 line

theorem length_offsetsFrom (first : Nat) (line : List Char) :
    (offsetsFrom first line).length = line.length + 1 := by
  induction line generalizing first with
  | nil => rfl
  | cons char rest ih => rw [offsetsFrom, List.length_cons, ih, List.length_cons]

theorem offsetsFrom_getElem?_zero (first : Nat) (line : List Char) :
    (offsetsFrom first line)[0]? = some first := by
  cases line <;> rfl

theorem offsetsFrom_getElem?_length (first : Nat) (line : List Char) :
    (offsetsFrom first line)[line.length]? = some (first + String.utf8Len line) := by
  induction line generalizing first with
  | nil => rfl
  | cons char rest ih =>
      rw [offsetsFrom, List.length_cons, List.getElem?_cons_succ, ih, String.utf8Len_cons,
        Nat.add_assoc, Nat.add_comm char.utf8Size]

theorem le_of_mem_offsetsFrom {first offset : Nat} {line : List Char}
    (member : offset ∈ offsetsFrom first line) : first ≤ offset := by
  induction line generalizing first with
  | nil => exact (List.mem_singleton.mp member).ge
  | cons char rest ih =>
      rcases List.mem_cons.mp member with same | later
      · exact same.ge
      · exact (Nat.le_add_right _ _).trans (ih later)

theorem offsetsFrom_pairwise (first : Nat) (line : List Char) :
    (offsetsFrom first line).Pairwise (· < ·) := by
  induction line generalizing first with
  | nil => exact List.pairwise_singleton _ _
  | cons char rest ih =>
      refine List.pairwise_cons.mpr ⟨?_, ih _⟩
      intro offset later
      have width := char.utf8Size_pos
      have bound := le_of_mem_offsetsFrom later
      omega

theorem length_byteOffsets (line : List Char) : (byteOffsets line).length = line.length + 1 :=
  length_offsetsFrom 0 line

theorem byteOffsets_pairwise (line : List Char) : (byteOffsets line).Pairwise (· < ·) :=
  offsetsFrom_pairwise 0 line

theorem byteOffsets_getElem?_length (line : List Char) :
    (byteOffsets line)[line.length]? = some (String.ofList line).utf8ByteSize := by
  rw [byteOffsets, offsetsFrom_getElem?_length, Nat.zero_add, String.utf8ByteSize_ofList]

theorem exists_byteOffset {line : List Char} {index : Nat} (within : index ≤ line.length) :
    ∃ offset, (byteOffsets line)[index]? = some offset := by
  have inside : index < (byteOffsets line).length := by
    rw [length_byteOffsets]
    omega
  exact ⟨_, List.getElem?_eq_getElem inside⟩

theorem le_length_of_byteOffset {line : List Char} {index offset : Nat}
    (found : (byteOffsets line)[index]? = some offset) : index ≤ line.length := by
  have inside := (List.getElem?_eq_some_iff.mp found).1
  rw [length_byteOffsets] at inside
  omega

/-- A later character has no smaller offset, and the other way round. -/
theorem byteOffset_le_iff {line : List Char} {one other oneOffset otherOffset : Nat}
    (oneFound : (byteOffsets line)[one]? = some oneOffset)
    (otherFound : (byteOffsets line)[other]? = some otherOffset) :
    oneOffset ≤ otherOffset ↔ one ≤ other := by
  have ordered := List.pairwise_iff_getElem.mp (byteOffsets_pairwise line)
  obtain ⟨oneInside, rfl⟩ := List.getElem?_eq_some_iff.mp oneFound
  obtain ⟨otherInside, rfl⟩ := List.getElem?_eq_some_iff.mp otherFound
  constructor
  · intro smaller
    by_contra behind
    have larger := ordered other one otherInside oneInside (Nat.not_le.mp behind)
    omega
  · intro before
    rcases Nat.lt_or_eq_of_le before with earlier | rfl
    · exact (ordered one other oneInside otherInside earlier).le
    · exact le_refl _

theorem byteOffset_inj {line : List Char} {one other offset : Nat}
    (oneFound : (byteOffsets line)[one]? = some offset)
    (otherFound : (byteOffsets line)[other]? = some offset) : one = other :=
  Nat.le_antisymm ((byteOffset_le_iff oneFound otherFound).mp (Nat.le_refl offset))
    ((byteOffset_le_iff otherFound oneFound).mp (Nat.le_refl offset))

/-! ### Halving -/

/-- The number of the place to which a search in growing numbers narrows down, starting with so
many places from one on. A place that does not exist leaves it without an answer. -/
def narrow? (numbers : List Nat) (wanted base size : Nat) : Option Nat :=
  if size ≤ 1 then some base
  else do
    let middle ← numbers[base + size / 2]?
    narrow? numbers wanted (if wanted < middle then base else base + size / 2) (size - size / 2)
  termination_by size

/-- The index of a number among growing ones, if it is there. -/
def binarySearch? (numbers : List Nat) (wanted : Nat) : Option (Option Nat) :=
  if numbers.isEmpty then some none
  else do
    let base ← narrow? numbers wanted 0 numbers.length
    let found ← numbers[base]?
    some (if found = wanted then some base else none)

section Search

variable {numbers : List Nat} {wanted base size : Nat}

/-- Every place with the wanted number stays among those that are left. -/
theorem narrow?_spec (growing : numbers.Pairwise (· < ·)) (wanted : Nat) (nonempty : 0 < size)
    (inside : base + size ≤ numbers.length) :
    ∃ place, narrow? numbers wanted base size = some place ∧ place < numbers.length ∧
      ∀ index, base ≤ index → index < base + size → numbers[index]? = some wanted →
        index = place := by
  induction size using Nat.strongRecOn generalizing base with
  | _ size ih =>
      unfold narrow?
      split
      · rename_i single
        refine ⟨base, rfl, by omega, ?_⟩
        intro index behind before found
        omega
      · rename_i several
        have middleInside : base + size / 2 < numbers.length := by omega
        have ordered := List.pairwise_iff_getElem.mp growing
        rw [List.getElem?_eq_getElem middleInside, Option.bind_eq_bind, Option.bind_some]
        split
        · rename_i smaller
          have fits : base + (size - size / 2) ≤ numbers.length := by omega
          obtain ⟨place, narrowed, placeInside, only⟩ := ih _ (by omega) (by omega) fits
          refine ⟨place, narrowed, placeInside, ?_⟩
          intro index behind before found
          -- What stands in the middle or behind it is larger than the wanted number.
          have early : index < base + size / 2 := by
            by_contra late
            obtain ⟨indexInside, same⟩ := List.getElem?_eq_some_iff.mp found
            rcases Nat.lt_or_eq_of_le (Nat.not_lt.mp late) with later | rfl
            · have larger := ordered _ index middleInside indexInside later
              omega
            · omega
          exact only index behind (by omega) found
        · rename_i larger
          have fits : base + size / 2 + (size - size / 2) ≤ numbers.length := by omega
          obtain ⟨place, narrowed, placeInside, only⟩ := ih _ (by omega) (by omega) fits
          refine ⟨place, narrowed, placeInside, ?_⟩
          intro index behind before found
          have late : base + size / 2 ≤ index := by
            by_contra early
            obtain ⟨indexInside, same⟩ := List.getElem?_eq_some_iff.mp found
            have smaller := ordered index _ indexInside middleInside (Nat.not_le.mp early)
            omega
          exact only index late (by omega) found

/-- A search finds every number at its place, and reads none beyond the last. -/
theorem binarySearch?_spec (growing : numbers.Pairwise (· < ·)) (wanted : Nat) :
    ∃ found?, binarySearch? numbers wanted = some found? ∧
      ∀ index, found? = some index ↔ numbers[index]? = some wanted := by
  unfold binarySearch?
  split
  · rename_i empty
    rw [List.isEmpty_iff] at empty
    subst empty
    exact ⟨none, rfl, by simp⟩
  · rename_i filled
    have nonempty : 0 < numbers.length := by
      rwa [List.length_pos_iff, ne_eq, ← List.isEmpty_iff]
    obtain ⟨place, narrowed, placeInside, only⟩ :=
      narrow?_spec growing wanted nonempty (Nat.zero_add _).le
    rw [narrowed, Option.bind_eq_bind, Option.bind_some, List.getElem?_eq_getElem placeInside,
      Option.bind_some]
    refine ⟨_, rfl, ?_⟩
    intro index
    constructor
    · intro found
      split at found
      · rename_i same
        cases found
        rw [List.getElem?_eq_getElem placeInside, same]
      · cases found
    · intro found
      have indexInside := (List.getElem?_eq_some_iff.mp found).1
      have isPlace := only index (Nat.zero_le _) (by omega) found
      subst isPlace
      rw [if_pos (List.getElem?_eq_some_iff.mp found).2]

end Search

end SyntaxHighlight.Text
