/-
Folding markers of lines, and the foldable regions that they delimit. A closing marker belongs to
the innermost open region of the same number; what stays open reaches to the last line.
-/

namespace SyntaxHighlight

inductive FoldingKind where
  | opening
  | closing
deriving DecidableEq, Repr

structure FoldingMarker where
  offset : Nat
  length : Nat
  /-- The number of the region, which is never zero. -/
  region : Nat
  kind : FoldingKind
deriving DecidableEq, Repr

/-- A region that is open, and the line on which it was opened. -/
structure OpenRegion where
  region : Nat
  line : Nat
deriving DecidableEq, Repr

/-- Takes the innermost open region with a number away; the innermost stands first. -/
def takeOpen? (region : Nat) : List OpenRegion → Option (OpenRegion × List OpenRegion)
  | [] => none
  | opened :: rest =>
      if opened.region = region then some (opened, rest)
      else (takeOpen? region rest).map fun (found, others) => (found, opened :: others)

/-- What is open after the markers of a line. -/
def openAfter (line : Nat) : List OpenRegion → List FoldingMarker → List OpenRegion
  | opened, [] => opened
  | opened, marker :: rest =>
      match marker.kind with
      | .opening => openAfter line (⟨marker.region, line⟩ :: opened) rest
      | .closing =>
          match takeOpen? marker.region opened with
          | some (_, others) => openAfter line others rest
          | none => openAfter line opened rest

/-- Whether the markers of a line leave open a region that they opened. -/
def opensRegion (markers : List FoldingMarker) : Bool := !(openAfter 0 [] markers).isEmpty

structure FoldRegion where
  startLine : Nat
  endLine : Nat
  region : Nat
deriving DecidableEq, Repr

/-- A region of more than one line. -/
def FoldRegion.spanning (startLine endLine region : Nat) : List FoldRegion :=
  if startLine < endLine then [⟨startLine, endLine, region⟩] else []

/-- The regions that markers delimit, in the order in which they end. -/
def pairMarkers (lastLine : Nat) :
    List OpenRegion → List (Nat × FoldingMarker) → List FoldRegion
  | opened, [] =>
      opened.reverse.flatMap fun opened =>
        FoldRegion.spanning opened.line lastLine opened.region
  | opened, (line, marker) :: rest =>
      match marker.kind with
      | .opening => pairMarkers lastLine (⟨marker.region, line⟩ :: opened) rest
      | .closing =>
          match takeOpen? marker.region opened with
          | some (found, others) =>
              FoldRegion.spanning found.line line found.region ++
                pairMarkers lastLine others rest
          | none => pairMarkers lastLine opened rest

/-- Whether a region is listed before another one: by its first line, outer regions first. -/
def FoldRegion.precedes (one other : FoldRegion) : Bool :=
  one.startLine < other.startLine ||
    (one.startLine == other.startLine && other.endLine ≤ one.endLine)

/-- The markers of lines, each with the number of its line. -/
def numberedMarkers (lines : List (List FoldingMarker)) : List (Nat × FoldingMarker) :=
  lines.zipIdx.flatMap fun (markers, line) => markers.map fun marker => (line, marker)

/-- The foldable regions of lines with these markers. -/
def foldRegions (lines : List (List FoldingMarker)) : List FoldRegion :=
  (pairMarkers (lines.length - 1) [] (numberedMarkers lines)).mergeSort FoldRegion.precedes

end SyntaxHighlight
