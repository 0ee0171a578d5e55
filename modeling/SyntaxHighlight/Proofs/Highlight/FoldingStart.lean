/-
The flag of a line on which foldable regions start. It is found from the markers of the line alone,
while regions are matched over the whole text. Both agree: what a line closes of earlier lines lies
below all that it opens, and every region that it leaves open ends on some later line.
-/

import SyntaxHighlight.Highlight.Line
import SyntaxHighlight.Proofs.Highlight.Folding

namespace SyntaxHighlight

/-! ### What one line leaves open -/

/-- The numbers of the regions that are open after markers, innermost first. -/
def openNumbers : List Nat → List FoldingMarker → List Nat
  | opened, [] => opened
  | opened, marker :: rest =>
      match marker.kind with
      | .opening => openNumbers (marker.region :: opened) rest
      | .closing => openNumbers (opened.erase marker.region) rest

theorem openAfter_regions (line : Nat) (opened : List OpenRegion)
    (markers : List FoldingMarker) :
    (openAfter line opened markers).map (·.region) =
      openNumbers (opened.map (·.region)) markers := by
  induction markers generalizing opened with
  | nil => rfl
  | cons marker rest ih =>
      unfold openAfter openNumbers
      cases marker.kind with
      | opening => exact ih _
      | closing =>
          dsimp only
          cases taken : takeOpen? marker.region opened with
          | none =>
              have absent : marker.region ∉ opened.map (·.region) := by
                simpa using takeOpen?_eq_none_iff.mp taken
              rw [List.erase_of_not_mem absent]
              exact ih opened
          | some result =>
              obtain ⟨found, others⟩ := result
              obtain ⟨number, inner, outer, rfl, rfl, apart⟩ := takeOpen?_eq_some_iff.mp taken
              have absent : marker.region ∉ inner.map (·.region) := by
                simpa using apart
              rw [List.map_append, List.map_cons, List.erase_append_right _ absent, number,
                List.erase_cons_head, ← List.map_append]
              exact ih _

theorem openAfter_line {line : Nat} {opened : List OpenRegion} (markers : List FoldingMarker)
    (here : ∀ one ∈ opened, one.line = line) :
    ∀ one ∈ openAfter line opened markers, one.line = line := by
  induction markers generalizing opened with
  | nil => exact here
  | cons marker rest ih =>
      unfold openAfter
      cases marker.kind with
      | opening => exact ih (List.forall_mem_cons.mpr ⟨rfl, here⟩)
      | closing =>
          dsimp only
          cases taken : takeOpen? marker.region opened with
          | none => exact ih here
          | some result =>
              obtain ⟨found, others⟩ := result
              obtain ⟨_, inner, outer, rfl, rfl, _⟩ := takeOpen?_eq_some_iff.mp taken
              apply ih
              intro one member
              apply here
              simp only [List.mem_append, List.mem_cons] at member ⊢
              exact member.imp_right Or.inr

/-- What is open below is only ever taken from. -/
theorem openAfter_append (line : Nat) (upper lower : List OpenRegion)
    (markers : List FoldingMarker) :
    ∃ kept, kept.Sublist lower ∧
      openAfter line (upper ++ lower) markers = openAfter line upper markers ++ kept := by
  induction markers generalizing upper lower with
  | nil => exact ⟨lower, List.Sublist.refl lower, rfl⟩
  | cons marker rest ih =>
      unfold openAfter
      cases marker.kind with
      | opening => exact ih (⟨marker.region, line⟩ :: upper) lower
      | closing =>
          dsimp only
          cases above : takeOpen? marker.region upper with
          | some result =>
              obtain ⟨found, others⟩ := result
              obtain ⟨number, inner, outer, rfl, rfl, apart⟩ := takeOpen?_eq_some_iff.mp above
              have taken : takeOpen? marker.region ((inner ++ found :: outer) ++ lower) =
                  some (found, (inner ++ outer) ++ lower) :=
                takeOpen?_eq_some_iff.mpr
                  ⟨number, inner, outer ++ lower, by simp, by simp, apart⟩
              rw [taken]
              exact ih (inner ++ outer) lower
          | none =>
              have apartAbove := takeOpen?_eq_none_iff.mp above
              cases below : takeOpen? marker.region lower with
              | none =>
                  have missing : takeOpen? marker.region (upper ++ lower) = none :=
                    takeOpen?_eq_none_iff.mpr
                      (List.forall_mem_append.mpr ⟨apartAbove, takeOpen?_eq_none_iff.mp below⟩)
                  rw [missing]
                  exact ih upper lower
              | some result =>
                  obtain ⟨found, others⟩ := result
                  obtain ⟨number, inner, outer, rfl, rfl, apart⟩ :=
                    takeOpen?_eq_some_iff.mp below
                  have taken : takeOpen? marker.region (upper ++ (inner ++ found :: outer)) =
                      some (found, upper ++ (inner ++ outer)) :=
                    takeOpen?_eq_some_iff.mpr ⟨number, upper ++ inner, outer, by simp, by simp,
                      List.forall_mem_append.mpr ⟨apartAbove, apart⟩⟩
                  rw [taken]
                  obtain ⟨kept, sublist, result⟩ := ih upper (inner ++ outer)
                  refine ⟨kept, sublist.trans ?_, result⟩
                  exact (List.sublist_cons_self found outer).append_left inner

/-- Of the regions that are open after a line, those that it opened are those that it would leave
open if it stood alone. -/
theorem countP_openAfter {line : Nat} {opened : List OpenRegion}
    (earlier : ∀ one ∈ opened, one.line < line) (markers : List FoldingMarker) :
    (openAfter line opened markers).countP (fun one => one.line = line) =
      (openAfter 0 [] markers).length := by
  obtain ⟨kept, sublist, parts⟩ := openAfter_append line [] opened markers
  have own : ∀ one ∈ openAfter line [] markers, one.line = line :=
    openAfter_line markers fun one member => absurd member List.not_mem_nil
  have others : ∀ one ∈ kept, ¬one.line = line := fun one member =>
    Nat.ne_of_lt (earlier one (sublist.subset member))
  have alone : (openAfter line [] markers).length = (openAfter 0 [] markers).length := by
    have numbers := congrArg List.length ((openAfter_regions line [] markers).trans
      (openAfter_regions 0 [] markers).symm)
    simpa using numbers
  rw [List.nil_append] at parts
  rw [parts, List.countP_append, List.countP_eq_length.mpr (by simpa using own),
    List.countP_eq_zero.mpr (by simpa using others), alone, Nat.add_zero]

/-! ### Regions that start on a line -/

theorem countP_spanning (line start finish region : Nat) :
    (FoldRegion.spanning start finish region).countP (fun found => found.startLine = line) =
      if start = line ∧ start < finish then 1 else 0 := by
  unfold FoldRegion.spanning
  by_cases folds : start < finish
  · rw [if_pos folds]
    by_cases same : start = line
    · subst same
      simp [folds]
    · simp [same]
  · simp [folds]

/-- The markers of earlier lines open and close no region that starts on the line. -/
theorem countP_pairMarkers_before {line : Nat} (lastLine : Nat)
    {earlier : List (Nat × FoldingMarker)} (before : ∀ marker ∈ earlier, marker.1 < line)
    {opened : List OpenRegion} (known : ∀ one ∈ opened, one.line < line) :
    ∃ left : List OpenRegion, (∀ one ∈ left, one.line < line) ∧ ∀ rest,
      (pairMarkers lastLine opened (earlier ++ rest)).countP (fun found => found.startLine = line) =
        (pairMarkers lastLine left rest).countP fun found => found.startLine = line := by
  induction earlier generalizing opened with
  | nil => exact ⟨opened, known, fun rest => rfl⟩
  | cons event later ih =>
      obtain ⟨index, marker⟩ := event
      obtain ⟨first, others⟩ := List.forall_mem_cons.mp before
      simp only [List.cons_append, pairMarkers]
      cases marker.kind with
      | opening => exact ih others (List.forall_mem_cons.mpr ⟨first, known⟩)
      | closing =>
          dsimp only
          cases taken : takeOpen? marker.region opened with
          | none => exact ih others known
          | some result =>
              obtain ⟨found, below⟩ := result
              obtain ⟨_, inner, outer, rfl, rfl, _⟩ := takeOpen?_eq_some_iff.mp taken
              obtain ⟨innerKnown, fromFound⟩ := List.forall_mem_append.mp known
              obtain ⟨foundKnown, outerKnown⟩ := List.forall_mem_cons.mp fromFound
              obtain ⟨left, leftKnown, same⟩ :=
                ih others (List.forall_mem_append.mpr ⟨innerKnown, outerKnown⟩)
              refine ⟨left, leftKnown, fun rest => ?_⟩
              dsimp only
              rw [List.countP_append, countP_spanning,
                if_neg fun both => Nat.ne_of_lt foundKnown both.1, Nat.zero_add]
              exact same rest

/-- The markers of the line itself close no region of more than one line that starts there. -/
theorem countP_pairMarkers_line (lastLine line : Nat) (opened : List OpenRegion)
    (markers : List FoldingMarker) (rest : List (Nat × FoldingMarker)) :
    (pairMarkers lastLine opened (markers.map (fun marker => (line, marker)) ++ rest)).countP
        (fun found => found.startLine = line) =
      (pairMarkers lastLine (openAfter line opened markers) rest).countP
        fun found => found.startLine = line := by
  induction markers generalizing opened with
  | nil => rfl
  | cons marker later ih =>
      simp only [List.map_cons, List.cons_append, pairMarkers, openAfter]
      cases marker.kind with
      | opening => exact ih _
      | closing =>
          dsimp only
          cases taken : takeOpen? marker.region opened with
          | none => exact ih opened
          | some result =>
              obtain ⟨found, others⟩ := result
              dsimp only
              rw [List.countP_append, countP_spanning,
                if_neg fun both => Nat.lt_irrefl _ (both.1 ▸ both.2), Nat.zero_add]
              exact ih others

/-- Behind the line every region that it left open ends, at the latest on the last line. -/
theorem countP_pairMarkers_behind {line lastLine : Nat} (short : line < lastLine)
    {later : List (Nat × FoldingMarker)} (behind : ∀ marker ∈ later, line < marker.1)
    (opened : List OpenRegion) :
    (pairMarkers lastLine opened later).countP (fun found => found.startLine = line) =
      opened.countP fun one => one.line = line := by
  induction later generalizing opened with
  | nil =>
      rw [pairMarkers, ← opened.reverse_perm.countP_eq]
      induction opened.reverse with
      | nil => rfl
      | cons one rest ih =>
          rw [List.flatMap_cons, List.countP_append, countP_spanning, ih, List.countP_cons]
          by_cases same : one.line = line
          · simp [same, short, Nat.add_comm]
          · simp [same]
  | cons event rest ih =>
      obtain ⟨index, marker⟩ := event
      obtain ⟨next, others⟩ := List.forall_mem_cons.mp behind
      unfold pairMarkers
      cases marker.kind with
      | opening =>
          dsimp only at next ⊢
          rw [ih others, List.countP_cons_of_neg]
          simpa using Nat.ne_of_gt next
      | closing =>
          dsimp only at next ⊢
          cases taken : takeOpen? marker.region opened with
          | none => exact ih others opened
          | some result =>
              obtain ⟨found, left⟩ := result
              obtain ⟨_, inner, outer, rfl, rfl, _⟩ := takeOpen?_eq_some_iff.mp taken
              dsimp only
              rw [List.countP_append, countP_spanning, ih others, List.countP_append,
                List.countP_append, List.countP_cons]
              by_cases same : found.line = line
              · simp [same, next]
                omega
              · simp [same]

theorem numberedMarkers_split (before after : List (List FoldingMarker))
    (markers : List FoldingMarker) :
    ∃ later, (∀ marker ∈ later, before.length < marker.1) ∧
      numberedMarkers (before ++ markers :: after) =
        numberedMarkers before ++
          (markers.map (fun marker => (before.length, marker)) ++ later) := by
  refine ⟨(after.zipIdx (before.length + 1)).flatMap fun entry =>
    entry.1.map fun marker => (entry.2, marker), ?_, ?_⟩
  · intro event member
    obtain ⟨⟨inLine, index⟩, present, mapped⟩ := List.mem_flatMap.mp member
    obtain ⟨_, _, rfl⟩ := List.mem_map.mp mapped
    exact (List.mem_zipIdx present).1
  · simp [numberedMarkers, List.zipIdx_append]

/-- As many regions start on a line as its markers leave open. -/
theorem countP_foldRegions {lines : List (List FoldingMarker)} {line : Nat}
    {markers : List FoldingMarker} (present : lines[line]? = some markers)
    (short : line + 1 < lines.length) :
    (foldRegions lines).countP (fun found => found.startLine = line) =
      (openAfter 0 [] markers).length := by
  obtain ⟨bound, atLine⟩ := List.getElem?_eq_some_iff.mp present
  have parts : lines = lines.take line ++ markers :: lines.drop (line + 1) := by
    rw [← atLine, List.getElem_cons_drop, List.take_append_drop]
  have count : (lines.take line).length = line := by
    rw [List.length_take]
    omega
  obtain ⟨later, behind, split⟩ :=
    numberedMarkers_split (lines.take line) (lines.drop (line + 1)) markers
  rw [← parts, count] at split
  rw [count] at behind
  have before : ∀ marker ∈ numberedMarkers (lines.take line), marker.1 < line := by
    rintro ⟨index, marker⟩ member
    obtain ⟨_, found, _⟩ := mem_numberedMarkers.mp member
    have inRange := (List.getElem?_eq_some_iff.mp found).1
    omega
  have nothing : ∀ one ∈ ([] : List OpenRegion), one.line < line :=
    fun one member => absurd member List.not_mem_nil
  obtain ⟨opened, earlier, same⟩ :=
    countP_pairMarkers_before (lines.length - 1) before nothing
  unfold foldRegions
  rw [(List.mergeSort_perm _ _).countP_eq, split, same, countP_pairMarkers_line,
    countP_pairMarkers_behind (by omega) behind, countP_openAfter earlier]

theorem opensRegion_iff {markers : List FoldingMarker} :
    opensRegion markers = true ↔ 0 < (openAfter 0 [] markers).length := by
  unfold opensRegion
  cases openAfter 0 [] markers <;> simp

/-! ### The flag -/

theorem Mode.highlightLine_foldingStart (mode : Mode) (state : LineState) (line : List Char)
    (hasNext : Bool) :
    (mode.highlightLine state line hasNext).foldingStart =
      opensRegion (mode.highlightLine state line hasNext).folding := by
  unfold highlightLine
  split <;> rfl

theorem Mode.lineHighlights_foldingStart (mode : Mode) (state : LineState)
    (lines : List (List Char)) :
    ∀ highlight ∈ mode.lineHighlights state lines,
      highlight.foldingStart = opensRegion highlight.folding := by
  induction lines generalizing state with
  | nil => exact fun highlight member => absurd member List.not_mem_nil
  | cons line rest ih =>
      exact List.forall_mem_cons.mpr ⟨mode.highlightLine_foldingStart state line _, ih _⟩

/-- The flag of a line tells whether a region starts there, for all lines but the last one, where
none does; and all regions that the markers of the line leave open start there. -/
theorem foldingStart_iff_startsRegion (lines : List LineHighlight)
    (flagged : ∀ highlight ∈ lines, highlight.foldingStart = opensRegion highlight.folding)
    (line : Nat) (highlight : LineHighlight) (present : lines[line]? = some highlight) :
    ((∃ found ∈ foldRegions (lines.map (·.folding)), found.startLine = line) ↔
      highlight.foldingStart = true ∧ line ≠ lines.length - 1) ∧
    (line ≠ lines.length - 1 →
      (foldRegions (lines.map (·.folding))).countP (fun found => found.startLine = line) =
        (openAfter 0 [] highlight.folding).length) := by
  have bound := (List.getElem?_eq_some_iff.mp present).1
  have markers : (lines.map (·.folding))[line]? = some highlight.folding := by
    rw [List.getElem?_map, present, Option.map_some]
  have counted : line ≠ lines.length - 1 →
      (foldRegions (lines.map (·.folding))).countP (fun found => found.startLine = line) =
        (openAfter 0 [] highlight.folding).length := by
    intro early
    apply countP_foldRegions markers
    rw [List.length_map]
    omega
  refine ⟨?_, counted⟩
  rw [flagged highlight (List.mem_of_getElem? present), opensRegion_iff]
  constructor
  · rintro ⟨found, member, starts⟩
    have bounds := regionsOf_bounds (mem_foldRegions.mp member)
    rw [List.length_map] at bounds
    have early : line ≠ lines.length - 1 := by omega
    refine ⟨?_, early⟩
    rw [← counted early, List.countP_pos_iff]
    exact ⟨found, member, decide_eq_true starts⟩
  · rintro ⟨opens, early⟩
    rw [← counted early, List.countP_pos_iff] at opens
    obtain ⟨found, member, starts⟩ := opens
    exact ⟨found, member, of_decide_eq_true starts⟩

/-- A mode in which parentheses delimit regions. -/
def parenMode : Mode where
  info := { name := "Parentheses" }
  fallback := .fallback "Parentheses" [] true
  declared :=
    [{ id := 1, name := "Normal", definition := "Parentheses", format := 0, delimiters := []
       caseSensitive := true
       rules := [rule '(' (some 1) none, rule ')' none (some 1)] }]
  registry := .ofFormats [.normalText "Parentheses"]
  traits := []
  initial := 1
where
  rule (char : Char) (beginRegion endRegion : Option Nat) : Rule :=
    { matcher := .char char, format := none, switch := {}, lookahead := false
      firstNonSpace := false, column := none, beginRegion, endRegion }

/-- The second line closes the region of the first one and leaves one of its own open. -/
theorem foldingStart_iff_startsRegion_parenMode :
    (∀ highlight ∈ parenMode.lineHighlights .initial [['('], [')', '('], [')', ')']],
      highlight.foldingStart = opensRegion highlight.folding) ∧
    ∃ found ∈ foldRegions ((parenMode.lineHighlights .initial
        [['('], [')', '('], [')', ')']]).map (·.folding)),
      found.startLine = 1 := by
  have flagged := parenMode.lineHighlights_foldingStart .initial [['('], [')', '('], [')', ')']]
  refine ⟨flagged, (foldingStart_iff_startsRegion _ flagged 1 _ rfl).1.mpr ⟨?_, ?_⟩⟩
  · cbv
  · decide

end SyntaxHighlight
