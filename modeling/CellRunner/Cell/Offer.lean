import CellRunner.Cell.Marker
import CellRunner.Cell.Range

/-!
The ranges that can be run in a marked document. Every marker offers ranges bounded by the
markers after it, so offers are made from the last marker to the first, and the lines in front
of the first marker come last.
-/

namespace CellRunner

inductive RunAction where
  | above
  | below
  | cell
  | block
  | rest
  | all
deriving DecidableEq, Repr

def RunAction.label : RunAction → String
  | .above => "Run Above"
  | .below => "Run Below"
  | .cell => "Run Cell"
  | .block => "Run Block"
  | .rest => "Run Rest"
  | .all => "Run All"

/-- A range to run, shown at the line `anchor`. -/
structure Offer where
  action : RunAction
  range : LineRange
  anchor : Nat
deriving DecidableEq, Repr

/-- Where the ranges of a marker end, as the markers after it fix it. -/
structure Bounds where
  /-- The next marker line, or the number of lines. -/
  nextMarker : Nat
  /-- The marker line after the nearest block end, or the number of lines. -/
  blockLimit : Nat
deriving DecidableEq, Repr

/-- The bounds for the markers in front of a marker at `line`. -/
def Bounds.upTo (bounds : Bounds) (line : Nat) : Marker → Bounds
  | .blockEnd => ⟨line, bounds.nextMarker⟩
  | _ => ⟨line, bounds.blockLimit⟩

namespace Offer

/-- Everything above and everything below a marker. Nothing is above the first line, where
the whole document is offered instead. -/
def surrounding (line : Nat) : List Offer :=
  if line = 0 then [⟨.all, .toEnd 0, 0⟩]
  else [⟨.above, .lines 0 line, line⟩, ⟨.below, .toEnd line, line⟩]

def atMarker (bounds : Bounds) (line : Nat) : Marker → List Offer
  | .cell => ⟨.cell, .lines line bounds.nextMarker, line⟩ :: surrounding line
  | .blockStart => ⟨.block, .lines line bounds.blockLimit, line⟩ :: surrounding line
  | .blockEnd => [⟨.rest, .toEnd bounds.nextMarker, line⟩]

/-- The lines in front of the first marker, and the whole document. -/
def leading : List (Nat × Marker) → List Offer
  | [] => []
  | (first, _) :: _ =>
      if first = 0 then [] else [⟨.cell, .lines 0 first, 0⟩, ⟨.all, .toEnd 0, 0⟩]

/-- The marker lines in ascending order. -/
def markers (lines : List String) : List (Nat × Marker) :=
  lines.zipIdx.filterMap (fun line => (Marker.ofLine? line.1).map (line.2, ·))

/-- The bounds in front of a list of markers, and the offers of each of them in their order. -/
def ofMarkers (lineCount : Nat) (markers : List (Nat × Marker)) : Bounds × List (List Offer) :=
  markers.foldr
    (fun marker later =>
      (later.1.upTo marker.1 marker.2, atMarker later.1 marker.1 marker.2 :: later.2))
    (⟨lineCount, lineCount⟩, [])

/-- The offers of a document given by its lines; none without markers. -/
def ofLines (lines : List String) : List Offer :=
  let marked := markers lines
  (ofMarkers lines.length marked).2.reverse.flatten ++ leading marked

end Offer

end CellRunner
