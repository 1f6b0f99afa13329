import CellRunner.Proofs.Cell.MarkerLines

/-!
The offers of a document, said marker by marker: what each marker line offers depends only on
its kind, on the next marker line and on the end of its block. No offer leaves the document, and
only the rest behind a last block end is empty.
-/

namespace CellRunner.OfferList
open MarkerLines

/-- What a marker line offers besides its own range. -/
def around (line : Nat) : List Offer :=
  if 0 < line then [⟨.above, .lines 0 line, line⟩, ⟨.below, .toEnd line, line⟩]
  else [⟨.all, .toEnd 0, line⟩]

/-- What a marker line offers; a line without a marker offers nothing. -/
def atLine (lines : List String) (line : Nat) : List Offer :=
  match markerAt? lines line with
  | some .cell => ⟨.cell, .lines line (next lines line), line⟩ :: around line
  | some .blockStart => ⟨.block, .lines line (blockLimit lines line), line⟩ :: around line
  | some .blockEnd => [⟨.rest, .toEnd (next lines line), line⟩]
  | none => []

/-- What the lines in front of the first marker offer, if there are any. -/
def atFront (lines : List String) : List Offer :=
  match (MarkerLines.ofLines lines).head? with
  | none => []
  | some first => if 0 < first then [⟨.cell, .lines 0 first, 0⟩, ⟨.all, .toEnd 0, 0⟩] else []

/-- The offers around a marker are those of its line, by cases on whether it is the first. -/
theorem surrounding_eq (line : Nat)
    : Offer.surrounding line = around line := by
  by_cases first : line = 0
  · subst first
    rfl
  · simp [Offer.surrounding, around, first, Nat.pos_of_ne_zero first]

/-- The offers that a marker makes are those of its line, by cases on the marker. -/
theorem atMarker_eq {lines : List String} {line : Nat} {marker : Marker}
    (h : markerAt? lines line = some marker)
    : Offer.atMarker ⟨next lines line, blockLimit lines line⟩ line marker
      = atLine lines line := by
  cases marker <;> simp [Offer.atMarker, atLine, h, surrounding_eq]

/-- The offers in front of the first marker are those of the front, by cases on the markers. -/
theorem leading_eq (lines : List String)
    : Offer.leading (Offer.markers lines) = atFront lines := by
  simp only [atFront, ← map_markers, List.head?_map]
  cases Offer.markers lines with
  | nil => rfl
  | cons first rest =>
      by_cases front : first.1 = 0
      · simp [Offer.leading, front]
      · simp [Offer.leading, front, Nat.pos_of_ne_zero front]

/-- The walk over the markers makes the offers of each marker line, the last line first. -/
theorem ofLines_eq (lines : List String)
    : Offer.ofLines lines
      = (MarkerLines.ofLines lines).reverse.flatMap (atLine lines) ++ atFront lines := by
  have walked := congrArg Prod.snd
    (ofMarkers_eq lines.length (Offer.markers lines) (ascending_markers lines))
  have offered : ∀ marker ∈ Offer.markers lines,
      Offer.atMarker (boundsAfter lines.length (Offer.markers lines) marker.1) marker.1 marker.2
        = atLine lines marker.1 := by
    intro marker member
    rw [boundsAfter_markers]
    exact atMarker_eq (mem_markers.mp member)
  simp only [Offer.ofLines, walked, leading_eq, List.map_congr_left offered]
  rw [← map_markers, List.flatMap_def, List.map_reverse, List.map_map]
  rfl

/-- What can be offered in a document: the range of a marker by its kind, what is above and below
a marker line, the lines in front of the first marker, and the whole document. -/
inductive Made (lines : List String) : Offer → Prop
  | cell {line} (found : markerAt? lines line = some .cell)
    : Made lines ⟨.cell, .lines line (next lines line), line⟩
  | block {line} (found : markerAt? lines line = some .blockStart)
    : Made lines ⟨.block, .lines line (blockLimit lines line), line⟩
  | rest {line} (found : markerAt? lines line = some .blockEnd)
    : Made lines ⟨.rest, .toEnd (next lines line), line⟩
  | above {line} (member : line ∈ MarkerLines.ofLines lines) (positive : 0 < line)
    : Made lines ⟨.above, .lines 0 line, line⟩
  | below {line} (member : line ∈ MarkerLines.ofLines lines) (positive : 0 < line)
    : Made lines ⟨.below, .toEnd line, line⟩
  | front {first} (member : first ∈ MarkerLines.ofLines lines) (positive : 0 < first)
    : Made lines ⟨.cell, .lines 0 first, 0⟩
  | all {line} (member : line ∈ MarkerLines.ofLines lines)
    : Made lines ⟨.all, .toEnd 0, 0⟩

/-- Offers around a marker are made in one of the ways listed, by cases on the line. -/
theorem made_of_mem_around {lines : List String} {line : Nat} {offer : Offer}
    (member : line ∈ MarkerLines.ofLines lines) (offered : offer ∈ around line)
    : Made lines offer := by
  unfold around at offered
  split at offered
  · next positive =>
      simp only [List.mem_cons, List.not_mem_nil, or_false] at offered
      rcases offered with rfl | rfl
      · exact .above member positive
      · exact .below member positive
  · next first =>
      obtain rfl := List.mem_singleton.mp offered
      obtain rfl := Nat.eq_zero_of_not_pos first
      exact .all member

/-- Offers of a line are made in one of the ways listed, by cases on its marker. -/
theorem made_of_mem_atLine {lines : List String} {line : Nat} {offer : Offer}
    (offered : offer ∈ atLine lines line)
    : Made lines offer := by
  unfold atLine at offered
  cases found : markerAt? lines line with
  | none => simp [found] at offered
  | some marker =>
      have member : line ∈ MarkerLines.ofLines lines := mem_ofLines.mpr ⟨marker, found⟩
      rw [found] at offered
      cases marker with
      | cell =>
          rcases List.mem_cons.mp offered with rfl | near
          · exact .cell found
          · exact made_of_mem_around member near
      | blockStart =>
          rcases List.mem_cons.mp offered with rfl | near
          · exact .block found
          · exact made_of_mem_around member near
      | blockEnd =>
          obtain rfl := List.mem_singleton.mp offered
          exact .rest found

/-- Offers of the front are made in one of the ways listed, by cases on the first marker. -/
theorem made_of_mem_atFront {lines : List String} {offer : Offer}
    (offered : offer ∈ atFront lines)
    : Made lines offer := by
  unfold atFront at offered
  split at offered
  · simp at offered
  · next first found =>
      have member := List.mem_of_mem_head? found
      split at offered
      · next positive =>
          simp only [List.mem_cons, List.not_mem_nil, or_false] at offered
          rcases offered with rfl | rfl
          · exact .front member positive
          · exact .all member
      · simp at offered

/-- Every offer is made in one of the ways listed, by where in the list it is. -/
theorem made_of_mem {lines : List String} {offer : Offer}
    (offered : offer ∈ Offer.ofLines lines)
    : Made lines offer := by
  rw [ofLines_eq] at offered
  rcases List.mem_append.mp offered with marked | front
  · obtain ⟨line, _, there⟩ := List.mem_flatMap.mp marked
    exact made_of_mem_atLine there
  · exact made_of_mem_atFront front

/-- Offers are shown at lines of the document. -/
theorem anchor_lt {lines : List String} {offer : Offer} (offered : offer ∈ Offer.ofLines lines)
    : offer.anchor < lines.length := by
  cases made_of_mem offered with
  | cell found | block found | rest found => exact lt_length_of_mem (mem_ofLines.mpr ⟨_, found⟩)
  | above member | below member => exact lt_length_of_mem member
  | front member | all member => exact Nat.zero_lt_of_lt (lt_length_of_mem member)

-----------------------------------------------------------------------------------------
-- Offered ranges within the document
-----------------------------------------------------------------------------------------

/-- The next marker is no line behind the last one, by cases on whether there is one. -/
theorem next_le (lines : List String) (line : Nat)
    : next lines line ≤ lines.length := by
  unfold next
  cases found : (MarkerLines.ofLines lines).find? (line < ·) with
  | none => exact Nat.le_refl _
  | some later => exact Nat.le_of_lt (lt_length_of_mem (List.mem_of_find?_eq_some found))

/-- The next marker is behind the line, by cases on whether there is one. -/
theorem lt_next {lines : List String} {line : Nat} (h : line < lines.length)
    : line < next lines line := by
  unfold next
  cases found : (MarkerLines.ofLines lines).find? (line < ·) with
  | none => exact h
  | some later => simpa using List.find?_some found

/-- A block ends no later than the lines do, by cases on whether a marker ends it. -/
theorem blockLimit_le (lines : List String) (line : Nat)
    : blockLimit lines line ≤ lines.length := by
  unfold blockLimit
  split
  · exact next_le lines _
  · exact Nat.le_refl _

/-- A block ends behind the line, by cases on whether a marker ends it. -/
theorem lt_blockLimit {lines : List String} {line : Nat} (h : line < lines.length)
    : line < blockLimit lines line := by
  unfold blockLimit
  cases found : blockEndAfter? lines line with
  | none => exact h
  | some stop =>
      have behind : line < stop := by
        have both := List.find?_some found
        simp only [Bool.and_eq_true, decide_eq_true_eq] at both
        exact both.1
      exact Nat.lt_trans behind (lt_next (lt_length_of_mem (List.mem_of_find?_eq_some found)))

/-- No marker line stands between a line and the next marker line. -/
theorem next_le_of_mem {lines : List String} {line other : Nat}
    (member : other ∈ MarkerLines.ofLines lines) (behind : line < other)
    : next lines line ≤ other := by
  unfold next
  cases found : (MarkerLines.ofLines lines).find? (line < ·) with
  | none => exact absurd (List.find?_eq_none.mp found other member) (by simpa using behind)
  | some later =>
      obtain ⟨_, front, back, split, passed⟩ := List.find?_eq_some_iff_append.mp found
      have ascending := ascending_ofLines lines
      rw [split] at member ascending
      rcases List.mem_append.mp member with inFront | rest
      · have := passed other inFront
        simp at this
        omega
      · rcases List.mem_cons.mp rest with rfl | inBack
        · exact Nat.le_refl _
        · have ordered := (List.pairwise_append.mp ascending).2.1
          exact Nat.le_of_lt (List.rel_of_pairwise_cons ordered inBack)

/-- Only behind the last marker line there is no next one. -/
theorem next_eq_length_iff {lines : List String} {line : Nat}
    : next lines line = lines.length ↔ ∀ other ∈ MarkerLines.ofLines lines, other ≤ line := by
  unfold next
  cases found : (MarkerLines.ofLines lines).find? (line < ·) with
  | none =>
      have none := List.find?_eq_none.mp found
      simpa using none
  | some later =>
      have member := List.mem_of_find?_eq_some found
      have behind : line < later := by simpa using List.find?_some found
      have short := lt_length_of_mem member
      constructor
      · intro equal
        simp only [Option.getD_some] at equal
        omega
      · intro last
        have := last later member
        omega

/-- An offer lies within a document, and it is empty only as the rest behind the last marker. -/
structure Within (lines : List String) (offer : Offer) : Prop where
  ordered
    : (offer.range.resolve lines.length).1 ≤ (offer.range.resolve lines.length).2
  inside : (offer.range.resolve lines.length).2 ≤ lines.length
  empty
    : (offer.range.resolve lines.length).1 = (offer.range.resolve lines.length).2
      ↔ offer.action = .rest ∧ ∀ other ∈ MarkerLines.ofLines lines, other ≤ offer.anchor
  rest : offer.action = .rest → markerAt? lines offer.anchor = some .blockEnd

/-- A range that holds a line and is not offered as a rest lies within the document. -/
theorem Within.of_lt {lines : List String} {offer : Offer}
    (proper : offer.action ≠ .rest)
    (ordered : (offer.range.resolve lines.length).1 < (offer.range.resolve lines.length).2)
    (inside : (offer.range.resolve lines.length).2 ≤ lines.length)
    : Within lines offer where
  ordered := Nat.le_of_lt ordered
  inside := inside
  empty :=
    ⟨fun equal => absurd equal (Nat.ne_of_lt ordered), fun rest => absurd rest.1 proper⟩
  rest := fun rest => absurd rest proper

/-- Every offer lies within the lines, by cases on how it is made. -/
theorem ofLines_within (lines : List String)
    : ∀ offer ∈ Offer.ofLines lines, Within lines offer := by
  intro offer offered
  have there := anchor_lt offered
  cases made_of_mem offered with
  | cell => exact .of_lt (by simp) (lt_next there) (next_le lines _)
  | block => exact .of_lt (by simp) (lt_blockLimit there) (blockLimit_le lines _)
  | rest found =>
      exact {
        ordered := next_le lines _
        inside := Nat.le_refl _
        empty := by simpa [LineRange.toEnd, LineRange.resolve] using next_eq_length_iff
        rest := fun _ => found
      }
  | above _ positive => exact .of_lt (by simp) positive (Nat.le_of_lt there)
  | below => exact .of_lt (by simp) there (Nat.le_refl _)
  | all => exact .of_lt (by simp) there (Nat.le_refl _)
  | front member positive =>
      exact .of_lt (by simp) positive (Nat.le_of_lt (lt_length_of_mem member))

/-- A document offers, from its last marker line to its first one, what each of them offers by
its kind, then what stands in front of the first one, and nothing else; every offer lies within
the document. -/
theorem offers_by_marker (lines : List String)
    : Offer.ofLines lines
        = (MarkerLines.ofLines lines).reverse.flatMap (atLine lines) ++ atFront lines
      ∧ ∀ offer ∈ Offer.ofLines lines, Within lines offer :=
  ⟨ofLines_eq lines, ofLines_within lines⟩

end CellRunner.OfferList
