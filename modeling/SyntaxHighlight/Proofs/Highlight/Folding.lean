/-
The foldable regions of a text are those of its brackets. All regions that are open share one list,
from the middle of which regions are taken; still each number is matched as if its markers stood
alone. Regions of one number therefore never cross, and other numbers have no influence on them.
-/

import Mathlib
import SyntaxHighlight.Highlight.Folding

namespace SyntaxHighlight

/-! ### Brackets of one number -/

/-- The markers with a number, each with its line. -/
def markersOf (region : Nat) (markers : List (Nat × FoldingMarker)) : List (Nat × FoldingKind) :=
  (markers.filter fun (_, marker) => marker.region = region).map fun (line, marker) =>
    (line, marker.kind)

/-- The lines of brackets that belong together. A closing bracket belongs to the latest one that is
still open, and to none if there is none; what stays open reaches to the last line. The lines of
the brackets that are open come with the latest first. -/
def matchBrackets (lastLine : Nat) : List Nat → List (Nat × FoldingKind) → List (Nat × Nat)
  | opened, [] => opened.reverse.map fun start => (start, lastLine)
  | opened, (line, .opening) :: rest => matchBrackets lastLine (line :: opened) rest
  | [], (_, .closing) :: rest => matchBrackets lastLine [] rest
  | start :: opened, (line, .closing) :: rest =>
      (start, line) :: matchBrackets lastLine opened rest

/-- The regions between pairs of lines, without those that start and end on one line. -/
def regionsBetween (region : Nat) (pairs : List (Nat × Nat)) : List FoldRegion :=
  (pairs.filter fun (start, finish) => start < finish).map fun (start, finish) =>
    ⟨start, finish, region⟩

/-- The regions that the markers with one number delimit. -/
def regionsOf (region : Nat) (lines : List (List FoldingMarker)) : List FoldRegion :=
  regionsBetween region
    (matchBrackets (lines.length - 1) [] (markersOf region (numberedMarkers lines)))

/-- The numbers of the regions for which lines have markers. -/
def regionNumbers (lines : List (List FoldingMarker)) : List Nat :=
  (lines.flatten.map (·.region)).dedup

def withoutRegion (region : Nat) (lines : List (List FoldingMarker)) :
    List (List FoldingMarker) :=
  lines.map fun markers => markers.filter fun marker => marker.region ≠ region

/-- One region begins first and ends within the other. -/
def FoldRegion.Crosses (one other : FoldRegion) : Prop :=
  one.startLine < other.startLine ∧ other.startLine < one.endLine ∧ one.endLine < other.endLine

theorem regionsBetween_cons (region start finish : Nat) (pairs : List (Nat × Nat)) :
    regionsBetween region ((start, finish) :: pairs) =
      FoldRegion.spanning start finish region ++ regionsBetween region pairs := by
  unfold regionsBetween FoldRegion.spanning
  by_cases folds : start < finish <;> simp [folds]

theorem mem_regionsBetween {region : Nat} {pairs : List (Nat × Nat)} {found : FoldRegion} :
    found ∈ regionsBetween region pairs ↔
      (found.startLine, found.endLine) ∈ pairs ∧ found.startLine < found.endLine ∧
        found.region = region := by
  obtain ⟨start, finish, number⟩ := found
  simp only [regionsBetween, List.mem_map, List.mem_filter, decide_eq_true_eq, Prod.exists,
    FoldRegion.mk.injEq]
  constructor
  · rintro ⟨_, _, ⟨member, folds⟩, rfl, rfl, rfl⟩
    exact ⟨member, folds, rfl⟩
  · rintro ⟨member, folds, rfl⟩
    exact ⟨start, finish, ⟨member, folds⟩, rfl, rfl, rfl⟩

/-! ### One number among others -/

/-- The lines of the open regions with a number, innermost first. -/
def linesOf (region : Nat) (opened : List OpenRegion) : List Nat :=
  (opened.filter fun one => one.region = region).map (·.line)

theorem linesOf_cons (region : Nat) (one : OpenRegion) (rest : List OpenRegion) :
    linesOf region (one :: rest) =
      if one.region = region then one.line :: linesOf region rest else linesOf region rest := by
  by_cases same : one.region = region <;> simp [linesOf, same]

theorem markersOf_cons (region line : Nat) (marker : FoldingMarker)
    (rest : List (Nat × FoldingMarker)) :
    markersOf region ((line, marker) :: rest) =
      if marker.region = region then (line, marker.kind) :: markersOf region rest
      else markersOf region rest := by
  by_cases same : marker.region = region <;> simp [markersOf, same]

theorem linesOf_append (region : Nat) (inner outer : List OpenRegion) :
    linesOf region (inner ++ outer) = linesOf region inner ++ linesOf region outer := by
  simp [linesOf]

theorem linesOf_eq_nil_iff {region : Nat} {opened : List OpenRegion} :
    linesOf region opened = [] ↔ ∀ one ∈ opened, one.region ≠ region := by
  simp [linesOf, List.filter_eq_nil_iff]

/-- What is taken is the innermost region with its number; all others stay in their order. -/
theorem takeOpen?_eq_some_iff {region : Nat} {opened others : List OpenRegion}
    {found : OpenRegion} :
    takeOpen? region opened = some (found, others) ↔
      found.region = region ∧ ∃ inner outer, opened = inner ++ found :: outer ∧
        others = inner ++ outer ∧ ∀ one ∈ inner, one.region ≠ region := by
  induction opened generalizing others with
  | nil => simp [takeOpen?]
  | cons one rest ih =>
      unfold takeOpen?
      by_cases same : one.region = region
      · rw [if_pos same]
        constructor
        · rintro ⟨⟩
          exact ⟨same, [], rest, rfl, rfl, by simp⟩
        · rintro ⟨_, inner, outer, parts, rfl, apart⟩
          cases inner with
          | nil =>
              cases parts
              rfl
          | cons first inner =>
              cases parts
              exact absurd same (apart one List.mem_cons_self)
      · rw [if_neg same, Option.map_eq_some_iff]
        constructor
        · rintro ⟨⟨deeper, left⟩, taken, ⟨⟩⟩
          obtain ⟨number, inner, outer, rfl, rfl, apart⟩ := ih.mp taken
          refine ⟨number, one :: inner, outer, rfl, rfl, ?_⟩
          rw [List.forall_mem_cons]
          exact ⟨same, apart⟩
        · rintro ⟨number, inner, outer, parts, rfl, apart⟩
          cases inner with
          | nil =>
              cases parts
              exact absurd number same
          | cons first inner =>
              cases parts
              have taken := ih.mpr ⟨number, inner, outer, rfl, rfl,
                (List.forall_mem_cons.mp apart).2⟩
              exact ⟨(found, inner ++ outer), taken, rfl⟩

theorem takeOpen?_eq_none_iff {region : Nat} {opened : List OpenRegion} :
    takeOpen? region opened = none ↔ ∀ one ∈ opened, one.region ≠ region := by
  induction opened with
  | nil => simp [takeOpen?]
  | cons one rest ih =>
      unfold takeOpen?
      by_cases same : one.region = region
      · simp [same]
      · simp [same, ih]

theorem linesOf_takeOpen? {region : Nat} {opened others : List OpenRegion} {found : OpenRegion}
    (taken : takeOpen? region opened = some (found, others)) :
    linesOf region opened = found.line :: linesOf region others ∧
      ∀ other, other ≠ region → linesOf other others = linesOf other opened := by
  obtain ⟨number, inner, outer, rfl, rfl, apart⟩ := takeOpen?_eq_some_iff.mp taken
  constructor
  · have nothing := linesOf_eq_nil_iff.mpr apart
    rw [linesOf_append, linesOf_append, linesOf_cons, if_pos number, nothing]
    rfl
  · intro other different
    have apartFound : found.region ≠ other := fun same => different (same.symm.trans number)
    rw [linesOf_append, linesOf_append, linesOf_cons, if_neg apartFound]

theorem filter_spanning (region start finish number : Nat) :
    (FoldRegion.spanning start finish number).filter (fun found => found.region = region) =
      if number = region then FoldRegion.spanning start finish region else [] := by
  unfold FoldRegion.spanning
  by_cases same : number = region <;> split <;> simp [same]

theorem filter_remaining (lastLine region : Nat) (opened : List OpenRegion) :
    (pairMarkers lastLine opened []).filter (fun found => found.region = region) =
      regionsBetween region (matchBrackets lastLine (linesOf region opened) []) := by
  unfold pairMarkers matchBrackets
  induction opened using List.reverseRecOn with
  | nil => rfl
  | append_singleton earlier latest ih =>
      rw [List.reverse_append, List.reverse_singleton, List.singleton_append, List.flatMap_cons,
        List.filter_append, filter_spanning, ih, linesOf_append, linesOf_cons]
      by_cases same : latest.region = region
      · rw [if_pos same, if_pos same]
        simp [linesOf, regionsBetween_cons]
      · rw [if_neg same, if_neg same]
        simp [linesOf]

/-- The regions with a number do not depend on what else is open or marked. -/
theorem filter_pairMarkers (lastLine region : Nat) (opened : List OpenRegion)
    (markers : List (Nat × FoldingMarker)) :
    (pairMarkers lastLine opened markers).filter (fun found => found.region = region) =
      regionsBetween region
        (matchBrackets lastLine (linesOf region opened) (markersOf region markers)) := by
  induction markers generalizing opened with
  | nil => exact filter_remaining lastLine region opened
  | cons event rest ih =>
      obtain ⟨line, marker⟩ := event
      rw [markersOf_cons]
      unfold pairMarkers
      cases marker.kind with
      | opening =>
          dsimp only
          rw [ih, linesOf_cons]
          by_cases same : marker.region = region
          · simp only [if_pos same, matchBrackets]
          · simp only [if_neg same]
      | closing =>
          dsimp only
          cases taken : takeOpen? marker.region opened with
          | none =>
              dsimp only
              rw [ih]
              by_cases same : marker.region = region
              · have nothing := linesOf_eq_nil_iff.mpr (takeOpen?_eq_none_iff.mp taken)
                rw [same] at nothing
                rw [if_pos same, nothing, matchBrackets]
              · rw [if_neg same]
          | some result =>
              obtain ⟨found, others⟩ := result
              obtain ⟨lines, apart⟩ := linesOf_takeOpen? taken
              have number := (takeOpen?_eq_some_iff.mp taken).1
              dsimp only
              rw [List.filter_append, filter_spanning, ih, number]
              by_cases same : marker.region = region
              · rw [same] at lines
                rw [if_pos same, if_pos same, lines, matchBrackets, regionsBetween_cons]
              · rw [if_neg same, if_neg same, apart region (Ne.symm same), List.nil_append]

theorem filter_foldRegions_perm (region : Nat) (lines : List (List FoldingMarker)) :
    ((foldRegions lines).filter fun found => found.region = region).Perm
      (regionsOf region lines) := by
  have sorted := List.mergeSort_perm
    (pairMarkers (lines.length - 1) [] (numberedMarkers lines)) FoldRegion.precedes
  have filtered := sorted.filter fun found => decide (found.region = region)
  rw [filter_pairMarkers] at filtered
  exact filtered

theorem mem_foldRegions {lines : List (List FoldingMarker)} {found : FoldRegion} :
    found ∈ foldRegions lines ↔ found ∈ regionsOf found.region lines := by
  rw [← (filter_foldRegions_perm found.region lines).mem_iff, List.mem_filter]
  simp

/-! ### The order of markers and regions -/

theorem numberedMarkers_ordered (lines : List (List FoldingMarker)) :
    (numberedMarkers lines).Pairwise fun one other => one.1 ≤ other.1 := by
  have numbers : lines.zipIdx.Pairwise fun one other => one.2 < other.2 := by
    rw [← List.pairwise_map (f := Prod.snd) (R := fun one other => one < other)]
    rw [List.zipIdx_map_snd]
    exact List.pairwise_lt_range'
  unfold numberedMarkers
  rw [List.pairwise_flatMap]
  constructor
  · rintro ⟨markers, line⟩ _
    rw [List.pairwise_map]
    exact List.pairwise_of_forall fun _ _ => Nat.le_refl line
  · refine numbers.imp ?_
    rintro ⟨markers, line⟩ ⟨behind, later⟩ before one oneMember other otherMember
    obtain ⟨_, _, rfl⟩ := List.mem_map.mp oneMember
    obtain ⟨_, _, rfl⟩ := List.mem_map.mp otherMember
    exact Nat.le_of_lt before

theorem mem_numberedMarkers {lines : List (List FoldingMarker)} {line : Nat}
    {marker : FoldingMarker} :
    (line, marker) ∈ numberedMarkers lines ↔
      ∃ markers, lines[line]? = some markers ∧ marker ∈ markers := by
  simp only [numberedMarkers, List.mem_flatMap, List.mem_map, Prod.mk.injEq, Prod.exists,
    List.mk_mem_zipIdx_iff_getElem?]
  constructor
  · rintro ⟨markers, index, found, _, member, rfl, rfl⟩
    exact ⟨markers, found, member⟩
  · rintro ⟨markers, found, member⟩
    exact ⟨markers, line, found, marker, member, rfl, rfl⟩

theorem FoldRegion.precedes_iff {one other : FoldRegion} :
    one.precedes other = true ↔
      one.startLine < other.startLine ∨
        one.startLine = other.startLine ∧ other.endLine ≤ one.endLine := by
  simp [FoldRegion.precedes]

theorem foldRegions_ordered (lines : List (List FoldingMarker)) :
    (foldRegions lines).Pairwise fun one other =>
      one.startLine < other.startLine ∨
        one.startLine = other.startLine ∧ other.endLine ≤ one.endLine := by
  have transitive : ∀ one middle other : FoldRegion, one.precedes middle = true →
      middle.precedes other = true → one.precedes other = true := by
    intro one middle other
    simp only [FoldRegion.precedes_iff]
    omega
  have total : ∀ one other : FoldRegion, (one.precedes other || other.precedes one) = true := by
    intro one other
    simp only [Bool.or_eq_true, FoldRegion.precedes_iff]
    omega
  have sorted := List.pairwise_mergeSort transitive total
    (pairMarkers (lines.length - 1) [] (numberedMarkers lines))
  exact sorted.imp fun before => FoldRegion.precedes_iff.mp before

/-! ### Where brackets begin and end -/

section Brackets

variable {lastLine : Nat} {opened : List Nat} {markers : List (Nat × FoldingKind)}

theorem matchBrackets_bounds (floor : Nat) (above : ∀ marker ∈ markers, floor ≤ marker.1)
    (within : ∀ marker ∈ markers, marker.1 ≤ lastLine) (short : floor ≤ lastLine)
    {pair : Nat × Nat} (member : pair ∈ matchBrackets lastLine opened markers) :
    (pair.1 ∈ opened ∨ floor ≤ pair.1) ∧ floor ≤ pair.2 ∧ pair.2 ≤ lastLine := by
  induction opened, markers using matchBrackets.induct with
  | case1 opened =>
      obtain ⟨start, present, rfl⟩ := List.mem_map.mp member
      exact ⟨Or.inl (List.mem_reverse.mp present), short, Nat.le_refl _⟩
  | case2 opened line rest ih =>
      rw [List.forall_mem_cons] at above within
      obtain ⟨start, finish⟩ := ih above.2 within.2 member
      refine ⟨?_, finish⟩
      rcases start with earlier | later
      · rcases List.mem_cons.mp earlier with same | deeper
        · exact Or.inr (same ▸ above.1)
        · exact Or.inl deeper
      · exact Or.inr later
  | case3 line rest ih =>
      rw [List.forall_mem_cons] at above within
      exact ih above.2 within.2 member
  | case4 start opened line rest ih =>
      rw [List.forall_mem_cons] at above within
      rcases List.mem_cons.mp member with rfl | behind
      · exact ⟨Or.inl List.mem_cons_self, above.1, within.1⟩
      · obtain ⟨found, finish⟩ := ih above.2 within.2 behind
        exact ⟨found.imp_left (List.mem_cons_of_mem start), finish⟩

/-- Brackets do not cross if those that are open and those that follow are in the order of their
lines. -/
theorem matchBrackets_nested
    (ordered : (opened.reverse ++ markers.map Prod.fst ++ [lastLine]).Pairwise (· ≤ ·))
    {one other : Nat × Nat} (oneMember : one ∈ matchBrackets lastLine opened markers)
    (otherMember : other ∈ matchBrackets lastLine opened markers) :
    ¬(one.1 < other.1 ∧ other.1 < one.2 ∧ one.2 < other.2) := by
  induction opened, markers using matchBrackets.induct with
  | case1 opened =>
      obtain ⟨_, _, rfl⟩ := List.mem_map.mp oneMember
      obtain ⟨_, _, rfl⟩ := List.mem_map.mp otherMember
      exact fun crossing => Nat.lt_irrefl _ crossing.2.2
  | case2 opened line rest ih =>
      apply ih _ oneMember otherMember
      simpa using ordered
  | case3 line rest ih =>
      apply ih _ oneMember otherMember
      exact ordered.sublist (by simp)
  | case4 start opened line rest ih =>
      have parts : (opened.reverse ++
          start :: line :: (rest.map Prod.fst ++ [lastLine])).Pairwise (· ≤ ·) := by
        simpa using ordered
      rw [List.pairwise_append, List.pairwise_cons, List.pairwise_cons] at parts
      obtain ⟨_, ⟨behindStart, behindLine, restOrdered⟩, before⟩ := parts
      have sorted : (opened.reverse ++ rest.map Prod.fst ++ [lastLine]).Pairwise (· ≤ ·) :=
        ordered.sublist (by simp)
      -- All other pairs begin outside the one that is closed, and end behind it.
      have outside : ∀ pair ∈ matchBrackets lastLine opened rest,
          (pair.1 ≤ start ∨ line ≤ pair.1) ∧ line ≤ pair.2 := by
        intro pair member
        obtain ⟨found, finish, _⟩ := matchBrackets_bounds line
          (fun marker present => behindLine _ (List.mem_append_left _
            (List.mem_map_of_mem present)))
          (fun marker present => (List.pairwise_append.mp restOrdered).2.2 _
            (List.mem_map_of_mem present) _ List.mem_cons_self)
          (behindLine _ (List.mem_append_right _ List.mem_cons_self)) member
        refine ⟨found.imp_left fun earlier => ?_, finish⟩
        exact before _ (List.mem_reverse.mpr earlier) _ List.mem_cons_self
      have forward : start ≤ line := behindStart _ List.mem_cons_self
      rcases List.mem_cons.mp oneMember with rfl | oneBehind
      · rcases List.mem_cons.mp otherMember with rfl | otherBehind
        · exact fun crossing => Nat.lt_irrefl _ crossing.1
        · have apart := outside other otherBehind
          dsimp only
          omega
      · rcases List.mem_cons.mp otherMember with rfl | otherBehind
        · have apart := outside one oneBehind
          dsimp only
          omega
        · exact ih sorted oneBehind otherBehind

end Brackets

theorem markersOf_lines (region : Nat) (markers : List (Nat × FoldingMarker)) :
    ((markersOf region markers).map Prod.fst).Sublist (markers.map Prod.fst) := by
  have lines : (markersOf region markers).map Prod.fst =
      (markers.filter fun (_, marker) => marker.region = region).map Prod.fst := by
    simp [markersOf]
  rw [lines]
  exact List.filter_sublist.map Prod.fst

theorem le_lastLine_of_mem_markersOf {region : Nat} {lines : List (List FoldingMarker)}
    {marker : Nat × FoldingKind} (member : marker ∈ markersOf region (numberedMarkers lines)) :
    marker.1 ≤ lines.length - 1 := by
  have present := (markersOf_lines region _).subset (List.mem_map_of_mem member)
  obtain ⟨⟨line, found⟩, numbered, same⟩ := List.mem_map.mp present
  obtain ⟨_, inLine, _⟩ := mem_numberedMarkers.mp numbered
  have bound := (List.getElem?_eq_some_iff.mp inLine).1
  change line = marker.1 at same
  omega

theorem regionsOf_bounds {region : Nat} {lines : List (List FoldingMarker)} {found : FoldRegion}
    (member : found ∈ regionsOf region lines) :
    found.startLine < found.endLine ∧ found.endLine < lines.length := by
  obtain ⟨pair, folds, _⟩ := mem_regionsBetween.mp member
  obtain ⟨_, _, finish⟩ := matchBrackets_bounds 0 (fun _ _ => Nat.zero_le _)
    (fun _ present => le_lastLine_of_mem_markersOf present) (Nat.zero_le _) pair
  dsimp only at finish
  omega

theorem regionsOf_nested {region : Nat} {lines : List (List FoldingMarker)}
    {one other : FoldRegion} (oneMember : one ∈ regionsOf region lines)
    (otherMember : other ∈ regionsOf region lines) : ¬one.Crosses other := by
  have ordered : (([] : List Nat).reverse ++
      (markersOf region (numberedMarkers lines)).map Prod.fst ++
        [lines.length - 1]).Pairwise (· ≤ ·) := by
    rw [List.reverse_nil, List.nil_append, List.pairwise_append]
    refine ⟨?_, List.pairwise_singleton _ _, ?_⟩
    · have numbered := List.pairwise_map.mpr (numberedMarkers_ordered lines)
      exact numbered.sublist (markersOf_lines region _)
    · intro line present last isLast
      obtain ⟨marker, member, rfl⟩ := List.mem_map.mp present
      rw [List.mem_singleton.mp isLast]
      exact le_lastLine_of_mem_markersOf member
  exact matchBrackets_nested ordered (mem_regionsBetween.mp oneMember).1
    (mem_regionsBetween.mp otherMember).1

/-! ### All numbers together -/

theorem markersOf_withoutRegion {region other : Nat} (apart : region ≠ other)
    (lines : List (List FoldingMarker)) :
    markersOf other (numberedMarkers (withoutRegion region lines)) =
      markersOf other (numberedMarkers lines) := by
  have kept : ∀ marker : FoldingMarker,
      (decide (marker.region = other) && decide (marker.region ≠ region)) =
        decide (marker.region = other) := by
    intro marker
    by_cases same : marker.region = other
    · simp [same, Ne.symm apart]
    · simp [same]
  simp only [markersOf, numberedMarkers, withoutRegion, List.zipIdx_map, List.flatMap_map,
    List.filter_flatMap, List.filter_map, List.filter_filter, Function.comp_def, Prod.map_fst,
    Prod.map_snd, id_eq, kept]

theorem regionsOf_withoutRegion {region other : Nat} (apart : region ≠ other)
    (lines : List (List FoldingMarker)) :
    regionsOf other (withoutRegion region lines) = regionsOf other lines := by
  unfold regionsOf
  rw [markersOf_withoutRegion apart]
  simp only [withoutRegion, List.length_map]

/-- The regions of a number in a sorted list are determined by what they are. -/
theorem filter_foldRegions_eq_of_perm {region : Nat} {one other : List (List FoldingMarker)}
    (same : regionsOf region one = regionsOf region other) :
    (foldRegions one).filter (fun found => found.region = region) =
      (foldRegions other).filter fun found => found.region = region := by
  have perm := (filter_foldRegions_perm region one).trans
    (same ▸ (filter_foldRegions_perm region other).symm)
  refine List.Perm.eq_of_pairwise ?_ ((foldRegions_ordered one).filter _)
    ((foldRegions_ordered other).filter _) perm
  intro left right leftMember rightMember forward backward
  have leftNumber := of_decide_eq_true (List.mem_filter.mp leftMember).2
  have rightNumber := of_decide_eq_true (List.mem_filter.mp rightMember).2
  obtain ⟨leftStart, leftEnd, leftRegion⟩ := left
  obtain ⟨rightStart, rightEnd, rightRegion⟩ := right
  simp only [FoldRegion.mk.injEq] at *
  omega

/-- A list is made of its parts by any key, if no key is left out and none comes twice. -/
theorem perm_flatMap_filter {α κ : Type} [DecidableEq κ] (key : α → κ) {keys : List κ}
    (distinct : keys.Nodup) (items : List α) (covered : ∀ item ∈ items, key item ∈ keys) :
    items.Perm (keys.flatMap fun one => items.filter fun item => key item = one) := by
  induction keys generalizing items with
  | nil =>
      have empty : items = [] := List.eq_nil_iff_forall_not_mem.mpr fun item member =>
        List.not_mem_nil (covered item member)
      rw [empty]
      rfl
  | cons one rest ih =>
      obtain ⟨absent, restDistinct⟩ := List.nodup_cons.mp distinct
      have split := List.filter_append_perm (fun item => decide (key item = one)) items
      have others := ih restDistinct (items.filter fun item => !decide (key item = one)) (by
        intro item member
        obtain ⟨present, apart⟩ := List.mem_filter.mp member
        have apart : key item ≠ one := by simpa using apart
        exact (List.mem_cons.mp (covered item present)).resolve_left apart)
      have unaffected : ∀ other ∈ rest,
          (items.filter fun item => !decide (key item = one)).filter
              (fun item => key item = other) =
            items.filter fun item => key item = other := by
        intro other member
        rw [List.filter_filter]
        apply List.filter_congr
        intro item _
        by_cases same : key item = other
        · have apart : other ≠ one := fun equal => absent (equal ▸ member)
          simp [same, apart]
        · simp [same]
      rw [List.flatMap_cons]
      refine split.symm.trans (List.Perm.append_left _ (others.trans ?_))
      exact List.Perm.flatMap_left rest fun other member => by rw [unaffected other member]

theorem mem_regionNumbers {lines : List (List FoldingMarker)} {found : FoldRegion}
    (member : found ∈ foldRegions lines) : found.region ∈ regionNumbers lines := by
  by_contra absent
  have nothing : markersOf found.region (numberedMarkers lines) = [] := by
    unfold markersOf
    rw [List.map_eq_nil_iff, List.filter_eq_nil_iff]
    rintro ⟨line, marker⟩ numbered same
    obtain ⟨markers, inLine, present⟩ := mem_numberedMarkers.mp numbered
    have flat := List.mem_flatten_of_mem (List.mem_of_getElem? inLine) present
    apply absent
    rw [← of_decide_eq_true same]
    exact List.mem_dedup.mpr (List.mem_map_of_mem flat)
  have pair := (mem_regionsBetween.mp (mem_foldRegions.mp member)).1
  rw [nothing] at pair
  exact List.not_mem_nil pair

theorem foldRegions_perm (lines : List (List FoldingMarker)) :
    (foldRegions lines).Perm
      ((regionNumbers lines).flatMap fun region => regionsOf region lines) := by
  have parts := perm_flatMap_filter FoldRegion.region (List.nodup_dedup _) (foldRegions lines)
    fun _ member => mem_regionNumbers member
  exact parts.trans (List.Perm.flatMap_left _ fun region _ => filter_foldRegions_perm region lines)

/-- The foldable regions are those of brackets of each number by itself, sorted by their first
lines with outer ones first. -/
theorem foldRegions_isBracketMatching (lines : List (List FoldingMarker)) :
    ((foldRegions lines).Pairwise fun one other =>
      one.startLine < other.startLine ∨
        one.startLine = other.startLine ∧ other.endLine ≤ one.endLine) ∧
    (foldRegions lines).Perm
      ((regionNumbers lines).flatMap fun region => regionsOf region lines) ∧
    (∀ region other, region ≠ other →
      (foldRegions (withoutRegion region lines)).filter (fun found => found.region = other) =
        (foldRegions lines).filter fun found => found.region = other) ∧
    (∀ found ∈ foldRegions lines,
      found.startLine < found.endLine ∧ found.endLine < lines.length) ∧
    ∀ one ∈ foldRegions lines, ∀ other ∈ foldRegions lines, one.region = other.region →
      ¬one.Crosses other := by
  refine ⟨foldRegions_ordered lines, foldRegions_perm lines, ?_, ?_, ?_⟩
  · intro region other apart
    exact filter_foldRegions_eq_of_perm (regionsOf_withoutRegion apart lines)
  · intro found member
    exact regionsOf_bounds (mem_foldRegions.mp member)
  · intro one oneMember other otherMember same
    have oneRegion := mem_foldRegions.mp oneMember
    have otherRegion := mem_foldRegions.mp otherMember
    rw [same] at oneRegion
    exact regionsOf_nested oneRegion otherRegion

end SyntaxHighlight
