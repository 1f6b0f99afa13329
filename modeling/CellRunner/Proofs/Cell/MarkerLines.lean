import CellRunner.Cell.Offer
import Mathlib.Data.List.Find

/-!
The places of the markers of a document: the marker lines in ascending order, the marker line
behind a line, and the end of a block that starts at a line. The walk over the markers from the
last one to the first carries exactly these places in its bounds.
-/

namespace CellRunner.MarkerLines

def markerAt? (lines : List String) (line : Nat) : Option Marker :=
  lines[line]?.bind Marker.ofLine?

/-- The numbers of the marker lines, in ascending order. -/
def ofLines (lines : List String) : List Nat :=
  (List.range lines.length).filter (fun line => (markerAt? lines line).isSome)

/-- The first marker line behind a line, or the number of lines if there is none. -/
def next (lines : List String) (line : Nat) : Nat :=
  ((ofLines lines).find? (line < ·)).getD lines.length

/-- The first block end behind a line. -/
def blockEndAfter? (lines : List String) (line : Nat) : Option Nat :=
  (ofLines lines).find? (fun later => line < later && markerAt? lines later = some .blockEnd)

/-- Where a block that starts at a line ends: at the marker line behind its block end, or at
the end of the document without a block end. -/
def blockLimit (lines : List String) (line : Nat) : Nat :=
  match blockEndAfter? lines line with
  | some stop => next lines stop
  | none => lines.length

-----------------------------------------------------------------------------------------
-- Bounds among numbered markers
-----------------------------------------------------------------------------------------

abbrev Ascending (markers : List (Nat × Marker)) : Prop :=
  markers.Pairwise (fun a b => a.1 < b.1)

def nextAmong (lineCount : Nat) (markers : List (Nat × Marker)) (line : Nat) : Nat :=
  ((markers.find? (fun marker => line < marker.1)).map (·.1)).getD lineCount

def limitAmong (lineCount : Nat) (markers : List (Nat × Marker)) (line : Nat) : Nat :=
  match markers.find? (fun marker => line < marker.1 && marker.2 = .blockEnd) with
  | some stop => nextAmong lineCount markers stop.1
  | none => lineCount

/-- The bounds that hold for a marker at `line`. -/
def boundsAfter (lineCount : Nat) (markers : List (Nat × Marker)) (line : Nat) : Bounds :=
  ⟨nextAmong lineCount markers line, limitAmong lineCount markers line⟩

/-- The bounds that hold in front of all the markers. -/
def boundsBefore (lineCount : Nat) (markers : List (Nat × Marker)) : Bounds where
  nextMarker := (markers.head?.map (·.1)).getD lineCount
  blockLimit :=
    match markers.find? (·.2 = .blockEnd) with
    | some stop => nextAmong lineCount markers stop.1
    | none => lineCount

/-- A marker in front of a line is not behind it, so it can be left out of the search. -/
theorem nextAmong_cons_of_le {first : Nat × Marker} {rest : List (Nat × Marker)}
    (lineCount : Nat) {line : Nat} (h : first.1 ≤ line)
    : nextAmong lineCount (first :: rest) line = nextAmong lineCount rest line := by
  have passed : ¬ line < first.1 := Nat.not_lt.mpr h
  simp [nextAmong, passed]

theorem limitAmong_cons_of_le {first : Nat × Marker} {rest : List (Nat × Marker)}
    (lineCount : Nat) {line : Nat} (h : first.1 ≤ line)
    : limitAmong lineCount (first :: rest) line = limitAmong lineCount rest line := by
  have passed : ¬ line < first.1 := Nat.not_lt.mpr h
  simp only [limitAmong, passed, decide_false, Bool.false_and, Bool.false_eq_true,
    not_false_eq_true, List.find?_cons_of_neg]
  cases found : rest.find? (fun marker => line < marker.1 && marker.2 = .blockEnd) with
  | none => rfl
  | some stop =>
      have behind : line < stop.1 := by
        have both := List.find?_some found
        simp only [Bool.and_eq_true, decide_eq_true_eq] at both
        exact both.1
      exact nextAmong_cons_of_le lineCount (Nat.le_of_lt (Nat.lt_of_le_of_lt h behind))

/-- In front of ascending markers, "behind the line" holds of every marker. -/
theorem boundsAfter_of_front {line lineCount : Nat} {markers : List (Nat × Marker)}
    (front : ∀ marker ∈ markers, line < marker.1)
    : boundsAfter lineCount markers line = boundsBefore lineCount markers := by
  have same : markers.find? (fun marker => line < marker.1 && marker.2 = .blockEnd)
      = markers.find? (·.2 = .blockEnd) := by
    induction markers with
    | nil => rfl
    | cons first rest ih =>
        have behind := front first (by simp)
        simp only [List.find?_cons, behind, decide_true, Bool.true_and]
        rw [ih (fun marker member => front marker (by simp [member]))]
  simp only [boundsAfter, boundsBefore, limitAmong, same]
  cases markers with
  | nil => rfl
  | cons first rest => simp [nextAmong, front first (by simp)]

theorem boundsAfter_cons {first : Nat × Marker} {rest : List (Nat × Marker)} (lineCount : Nat)
    {line : Nat} (h : first.1 ≤ line)
    : boundsAfter lineCount (first :: rest) line = boundsAfter lineCount rest line := by
  simp only [boundsAfter, nextAmong_cons_of_le lineCount h, limitAmong_cons_of_le lineCount h]

/-- The bounds in front of a marker arise from those behind it by one step of the walk. -/
theorem boundsBefore_cons {first : Nat × Marker} {rest : List (Nat × Marker)} (lineCount : Nat)
    (front : ∀ marker ∈ rest, first.1 < marker.1)
    : boundsBefore lineCount (first :: rest)
      = (boundsBefore lineCount rest).upTo first.1 first.2 := by
  have behind : nextAmong lineCount (first :: rest) first.1
      = (boundsBefore lineCount rest).nextMarker := by
    rw [nextAmong_cons_of_le lineCount (Nat.le_refl _)]
    exact congrArg Bounds.nextMarker (boundsAfter_of_front front)
  have later : ∀ stop, rest.find? (·.2 = .blockEnd) = some stop
      → nextAmong lineCount (first :: rest) stop.1 = nextAmong lineCount rest stop.1 := by
    intro stop found
    have order := front stop (List.mem_of_find?_eq_some found)
    exact nextAmong_cons_of_le lineCount (Nat.le_of_lt order)
  -- Only a block end moves the block limit; before it the limit is that of a later block end.
  rcases first with ⟨line, marker⟩
  cases marker with
  | blockEnd => simpa [boundsBefore, Bounds.upTo] using behind
  | cell | blockStart =>
      cases found : rest.find? (·.2 = .blockEnd) with
      | none => simp [boundsBefore, Bounds.upTo, found]
      | some stop => simpa [boundsBefore, Bounds.upTo, found] using later stop found

/-- The walk's bounds are those in front of the markers it has seen, and every marker got the
offers for the bounds behind it. Induction on the markers, the first one being walked last. -/
theorem ofMarkers_eq (lineCount : Nat) (markers : List (Nat × Marker))
    (ascending : Ascending markers)
    : Offer.ofMarkers lineCount markers
      = ( boundsBefore lineCount markers,
          markers.map
            (fun marker =>
              Offer.atMarker (boundsAfter lineCount markers marker.1) marker.1 marker.2) ) := by
  induction markers with
  | nil => rfl
  | cons first rest ih =>
      obtain ⟨front, restAscending⟩ := List.pairwise_cons.mp ascending
      have walked := ih restAscending
      have here : boundsAfter lineCount (first :: rest) first.1 = boundsBefore lineCount rest := by
        rw [boundsAfter_cons lineCount (Nat.le_refl _), boundsAfter_of_front front]
      have there : ∀ marker ∈ rest,
          Offer.atMarker (boundsAfter lineCount (first :: rest) marker.1) marker.1 marker.2
            = Offer.atMarker (boundsAfter lineCount rest marker.1) marker.1 marker.2 := by
        intro marker member
        rw [boundsAfter_cons lineCount (Nat.le_of_lt (front marker member))]
      simp only [Offer.ofMarkers] at walked
      simp only [Offer.ofMarkers, List.foldr_cons, walked, List.map_cons, here,
        boundsBefore_cons lineCount front, List.map_congr_left there]

-----------------------------------------------------------------------------------------
-- The markers of a document
-----------------------------------------------------------------------------------------

theorem mem_markers {lines : List String} {line : Nat} {marker : Marker}
    : (line, marker) ∈ Offer.markers lines ↔ markerAt? lines line = some marker := by
  simp only [Offer.markers, markerAt?, List.mem_filterMap, Option.map_eq_some_iff,
    Option.bind_eq_some_iff]
  constructor
  · rintro ⟨⟨text, place⟩, member, found, read, equal⟩
    obtain ⟨rfl, rfl⟩ := Prod.mk.inj equal
    exact ⟨text, List.mk_mem_zipIdx_iff_getElem?.mp member, read⟩
  · rintro ⟨text, there, read⟩
    exact ⟨(text, line), List.mk_mem_zipIdx_iff_getElem?.mpr there, marker, read, rfl⟩

theorem mem_ofLines {lines : List String} {line : Nat}
    : line ∈ ofLines lines ↔ ∃ marker, markerAt? lines line = some marker := by
  simp only [ofLines, List.mem_filter, List.mem_range, Option.isSome_iff_exists]
  refine ⟨fun h => h.2, fun h => ⟨?_, h⟩⟩
  obtain ⟨marker, found⟩ := h
  obtain ⟨text, there, _⟩ := Option.bind_eq_some_iff.mp found
  exact (List.getElem?_eq_some_iff.mp there).1

theorem lt_length_of_mem {lines : List String} {line : Nat} (h : line ∈ ofLines lines)
    : line < lines.length :=
  List.mem_range.mp (List.mem_filter.mp h).1

theorem ascending_ofLines (lines : List String)
    : (ofLines lines).Pairwise (· < ·) :=
  List.pairwise_lt_range.filter _

theorem map_markers (lines : List String)
    : (Offer.markers lines).map (·.1) = ofLines lines := by
  have numbered : List.range lines.length = lines.zipIdx.map (·.2) := by
    rw [List.zipIdx_map_snd, List.range_eq_range']
  have kept : lines.zipIdx.filter ((fun line => (markerAt? lines line).isSome) ∘ (·.2))
      = lines.zipIdx.filter (fun entry => (Marker.ofLine? entry.1).isSome) := by
    apply List.filter_congr
    rintro ⟨text, line⟩ member
    simp [markerAt?, List.mk_mem_zipIdx_iff_getElem?.mp member]
  rw [ofLines, numbered, List.filter_map, Offer.markers, List.map_filterMap, kept]
  induction lines.zipIdx with
  | nil => rfl
  | cons entry rest ih =>
      cases read : Marker.ofLine? entry.1 <;> simpa [List.filter_cons, read] using ih

theorem ascending_markers (lines : List String)
    : Ascending (Offer.markers lines) := by
  have ordered := ascending_ofLines lines
  rw [← map_markers] at ordered
  exact List.pairwise_map.mp ordered

/-- In a document the bounds of a marker are the next marker line and the end of its block. -/
theorem boundsAfter_markers (lines : List String) (line : Nat)
    : boundsAfter lines.length (Offer.markers lines) line
      = ⟨next lines line, blockLimit lines line⟩ := by
  have nextSame (place : Nat)
      : nextAmong lines.length (Offer.markers lines) place = next lines place := by
    rw [next, ← map_markers, List.find?_map]
    rfl
  have endSame : blockEndAfter? lines line
      = ((Offer.markers lines).find?
          (fun marker => line < marker.1 && marker.2 = .blockEnd)).map (·.1) := by
    rw [blockEndAfter?, ← map_markers, List.find?_map]
    refine congrArg (Option.map Prod.fst) (List.find?_congr ?_)
    rintro ⟨place, marker⟩ member
    simp [mem_markers.mp member]
  simp only [boundsAfter, nextSame, limitAmong, blockLimit, endSame]
  cases (Offer.markers lines).find? (fun marker => line < marker.1 && marker.2 = .blockEnd) <;>
    rfl

end CellRunner.MarkerLines
