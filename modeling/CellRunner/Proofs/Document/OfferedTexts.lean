import CellRunner.Proofs.Document.AnnouncedLines
import Mathlib.Data.List.Basic

/-!
The texts of the offered ranges. What is offered above a marker and what is offered below it make
up the document, and so do the cells of a document without blocks, from the first one to the
last. A cell starts at the top of the document or at a marker and stops in front of the next one,
so a marker can only be its first line.
-/

namespace CellRunner

-----------------------------------------------------------------------------------------
-- Starts of cells
-----------------------------------------------------------------------------------------

namespace MarkerLines

/-- No marker of a block. -/
def Unblocked (lines : List String) : Prop :=
  ∀ line, markerAt? lines line ≠ some .blockStart ∧ markerAt? lines line ≠ some .blockEnd

/-- Without block markers, every marker line is a cell marker, by cases on its marker. -/
theorem unblocked_iff {lines : List String}
    : Unblocked lines ↔ ∀ line ∈ ofLines lines, markerAt? lines line = some .cell := by
  constructor
  · intro unblocked line member
    obtain ⟨marker, found⟩ := mem_ofLines.mp member
    cases marker with
    | cell => exact found
    | blockStart => exact absurd found (unblocked line).1
    | blockEnd => exact absurd found (unblocked line).2
  · intro cells line
    refine ⟨fun found => ?_, fun found => ?_⟩ <;>
      simp [cells line (mem_ofLines.mpr ⟨_, found⟩)] at found

instance (lines : List String) : Decidable (Unblocked lines) :=
  decidable_of_iff _ unblocked_iff.symm

/-- The marker lines behind a line. -/
def behind (lines : List String) (line : Nat) : List Nat :=
  (ofLines lines).filter (line < ·)

/-- The markers behind a line are those with a greater line, by filtering. -/
theorem mem_behind {lines : List String} {line other : Nat}
    : other ∈ behind lines line ↔ other ∈ ofLines lines ∧ line < other := by
  simp [behind]

/-- The markers behind a line ascend, as all markers do. -/
theorem ascending_behind (lines : List String) (line : Nat)
    : (behind lines line).Pairwise (· < ·) :=
  (ascending_ofLines lines).filter _

/-- The next marker is the first one behind a line, by filtering. -/
theorem next_eq_headD (lines : List String) (line : Nat)
    : next lines line = (behind lines line).headD lines.length := by
  rw [next, behind, List.headD_eq_head?_getD, List.head?_filter]

/-- Behind the next marker line are the other ones of those behind a line. -/
theorem behind_cons {lines : List String} {line first : Nat} {rest : List Nat}
    (h : behind lines line = first :: rest)
    : behind lines first = rest := by
  have ascending := ascending_behind lines line
  have later := (mem_behind.mp (show first ∈ behind lines line by simp [h])).2
  have same : behind lines first = (behind lines line).filter (first < ·) := by
    rw [behind, behind, List.filter_filter]
    refine List.filter_congr fun other _ => ?_
    simp only [decide_eq_decide, ← Bool.decide_and]
    omega
  rw [h] at ascending
  rw [same, h, List.filter_cons_of_neg (by simp), List.filter_eq_self]
  exact fun other member => by simpa using List.rel_of_pairwise_cons ascending member

/-- The lines at which the cells of an unblocked document start, if it has markers. -/
def starts (lines : List String) : List Nat :=
  0 :: behind lines 0

/-- The starts of the cells ascend, by cases on whether the first line is one. -/
theorem ascending_starts (lines : List String)
    : (starts lines).Pairwise (· < ·) :=
  List.pairwise_cons.mpr
    ⟨fun _ member => (mem_behind.mp member).2, ascending_behind lines 0⟩

/-- A first marker at the top of the document is the first start; otherwise the top is put in
front of the markers. -/
theorem starts_eq {lines : List String} {first : Nat} {rest : List Nat}
    (h : ofLines lines = first :: rest)
    : starts lines = if 0 < first then 0 :: first :: rest else first :: rest := by
  have ascending := ascending_ofLines lines
  rw [h] at ascending
  have later : ∀ other ∈ rest, decide (0 < other) = true := fun other member =>
    decide_eq_true (Nat.zero_lt_of_lt (List.rel_of_pairwise_cons ascending member))
  rw [starts, behind, h, List.filter_cons, List.filter_eq_self.mpr later]
  by_cases front : 0 < first
  · simp [front]
  · obtain rfl := Nat.eq_zero_of_not_pos front
    simp

end MarkerLines

-----------------------------------------------------------------------------------------
-- Offers by their action
-----------------------------------------------------------------------------------------

namespace OfferList
open MarkerLines

/-- The offers to run a cell, in the order of the lines at which they start. -/
def cells (lines : List String) : List Offer :=
  ((Offer.ofLines lines).filter (·.action = .cell)).mergeSort
    (fun a b => a.range.since ≤ b.range.since)

/-- The cell from a line to the next marker line. -/
def cellAt (lines : List String) (line : Nat) : Offer :=
  ⟨.cell, .lines line (next lines line), line⟩

/-- No offer around a marker is a cell, by cases on the line. -/
theorem filter_cell_around (line : Nat)
    : (around line).filter (·.action = .cell) = [] := by
  by_cases positive : 0 < line <;> simp [around, positive]

/-- A cell marker offers one cell at its line, by computation. -/
theorem filter_cell_atLine {lines : List String} {line : Nat}
    (h : markerAt? lines line = some .cell)
    : (atLine lines line).filter (·.action = .cell) = [cellAt lines line] := by
  simp only [atLine, h]
  rw [List.filter_cons_of_pos rfl, filter_cell_around, cellAt]

/-- In front of the first marker one cell is offered if there is a line, by cases on this. -/
theorem filter_cell_atFront {lines : List String} {first : Nat} {rest : List Nat}
    (h : ofLines lines = first :: rest)
    : (atFront lines).filter (·.action = .cell)
      = if 0 < first then [cellAt lines 0] else [] := by
  by_cases front : 0 < first
  · have following : next lines 0 = first := by simp [next, h, front]
    simp [atFront, h, front, cellAt, following]
  · simp [atFront, h, front]

/-- An unblocked document with markers offers its cells from the last one to the first one. -/
theorem filter_cell_ofLines {lines : List String} (unblocked : Unblocked lines)
    (marked : ofLines lines ≠ [])
    : (Offer.ofLines lines).filter (·.action = .cell)
      = ((starts lines).map (cellAt lines)).reverse := by
  obtain ⟨first, rest, parts⟩ := List.exists_cons_of_ne_nil marked
  have each : ((ofLines lines).reverse.flatMap (atLine lines)).filter (·.action = .cell)
      = ((ofLines lines).map (cellAt lines)).reverse := by
    rw [List.filter_flatMap, ← List.map_reverse, List.map_eq_flatMap]
    refine List.flatMap_congr fun line member => ?_
    exact filter_cell_atLine (unblocked_iff.mp unblocked line (List.mem_reverse.mp member))
  rw [ofLines_eq, List.filter_append, each, filter_cell_atFront parts, starts_eq parts, parts]
  by_cases front : 0 < first <;> simp [front]

/-- The cells are the cell offers in the order of their first lines. -/
theorem cells_perm (lines : List String)
    : (cells lines).Perm ((Offer.ofLines lines).filter (·.action = .cell)) :=
  List.mergeSort_perm _ _

/-- The cells are ordered by their first lines, by sorting. -/
theorem cells_ordered (lines : List String)
    : (cells lines).Pairwise (fun a b => a.range.since ≤ b.range.since) := by
  have transitive (a b c : Offer) (first : decide (a.range.since ≤ b.range.since) = true)
      (second : decide (b.range.since ≤ c.range.since) = true)
      : decide (a.range.since ≤ c.range.since) = true :=
    decide_eq_true (Nat.le_trans (of_decide_eq_true first) (of_decide_eq_true second))
  have total (a b : Offer)
      : (decide (a.range.since ≤ b.range.since) || decide (b.range.since ≤ a.range.since))
        = true := by
    simpa using Nat.le_total a.range.since b.range.since
  exact (List.pairwise_mergeSort transitive total _).imp of_decide_eq_true

/-- The cells of an unblocked document with markers, one for each start. -/
theorem cells_eq {lines : List String} (unblocked : Unblocked lines)
    (marked : ofLines lines ≠ [])
    : cells lines = (starts lines).map (cellAt lines) := by
  have started : ((starts lines).map (cellAt lines)).Pairwise
      (fun a b => a.range.since ≤ b.range.since) :=
    List.pairwise_map.mpr ((ascending_starts lines).imp Nat.le_of_lt)
  have same : (cells lines).Perm ((starts lines).map (cellAt lines)) := by
    have offered := cells_perm lines
    rw [filter_cell_ofLines unblocked marked] at offered
    exact offered.trans (List.reverse_perm _)
  refine List.Perm.eq_of_pairwise ?_ (cells_ordered lines) started same
  -- Two cells that start at one line are the same cell.
  intro a b first second le ge
  obtain ⟨line, _, rfl⟩ := List.mem_map.mp (same.mem_iff.mp first)
  obtain ⟨other, _, rfl⟩ := List.mem_map.mp second
  exact congrArg (cellAt lines) (Nat.le_antisymm le ge)

/-- What is above a marker ends at it, by cases on how the offer is made. -/
theorem range_of_above {lines : List String} {offer : Offer}
    (offered : offer ∈ Offer.ofLines lines) (isAbove : offer.action = .above)
    : offer.range = .lines 0 offer.anchor := by
  cases made_of_mem offered with
  | above => rfl
  | _ => contradiction

/-- What is below a marker begins at it, by cases on how the offer is made. -/
theorem range_of_below {lines : List String} {offer : Offer}
    (offered : offer ∈ Offer.ofLines lines) (isBelow : offer.action = .below)
    : offer.range = .toEnd offer.anchor := by
  cases made_of_mem offered with
  | below => rfl
  | _ => contradiction

end OfferList

-----------------------------------------------------------------------------------------
-- Texts of offers
-----------------------------------------------------------------------------------------

namespace Document
open MarkerLines OfferList

/-- The text of the excerpt that an offer sends. -/
def offeredText (doc : Document) (offer : Offer) : String :=
  (doc.excerpt (some offer.range) none).text

/-- A marker is on a line of its document, by the number of lines. -/
theorem lt_lineCount_of_mem {doc : Document} {line : Nat}
    (member : line ∈ MarkerLines.ofLines doc.lines)
    : line < doc.lineCount := by
  rw [← doc.length_lines]
  exact lt_length_of_mem member

/-- What is above a marker and what is below it make up the text, by joining the texts at its line.
-/
theorem offeredText_surrounding {doc : Document} {above below : Offer}
    (first : above ∈ Offer.ofLines doc.lines) (second : below ∈ Offer.ofLines doc.lines)
    (isAbove : above.action = .above) (isBelow : below.action = .below)
    (same : above.anchor = below.anchor)
    : doc.offeredText above ++ doc.offeredText below = doc.text := by
  have inside : below.anchor ≤ doc.lineCount := by
    rw [← doc.length_lines]
    exact Nat.le_of_lt (anchor_lt second)
  rw [offeredText, range_of_above first isAbove, same, offeredText, range_of_below second isBelow]
  calc doc.textBetween 0 below.anchor ++ doc.textBetween below.anchor doc.lineCount
    _ = doc.textBetween 0 doc.lineCount := doc.textBetween_append (Nat.zero_le _) inside
    _ = doc.text := doc.textBetween_whole

/-- A cell offers the text up to the next marker. -/
theorem offeredText_cellAt (doc : Document) (line : Nat)
    : doc.offeredText (cellAt doc.lines line) = doc.textBetween line (next doc.lines line) :=
  rfl

/-- The cells from a line on make up the rest of the document. Induction on the markers behind
the line, which are where the other cells start. -/
theorem join_cells (doc : Document) (line : Nat)
    : String.join
          ((line :: behind doc.lines line).map
            (fun start => doc.offeredText (cellAt doc.lines start)))
      = doc.textBetween line doc.lineCount := by
  have stops := next_eq_headD doc.lines line
  induction found : behind doc.lines line generalizing line with
  | nil =>
      rw [found, List.headD_nil, length_lines] at stops
      rw [List.map_singleton, String.join_cons, String.join_nil, String.append_empty,
        offeredText_cellAt, stops]
  | cons first rest ih =>
      rw [found, List.headD_cons] at stops
      obtain ⟨member, later⟩ := mem_behind.mp (show first ∈ behind doc.lines line by simp [found])
      have inside : first ≤ doc.lineCount := Nat.le_of_lt (lt_lineCount_of_mem member)
      rw [List.map_cons, String.join_cons, offeredText_cellAt, stops,
        ih first (next_eq_headD doc.lines first) (behind_cons found),
        doc.textBetween_append (Nat.le_of_lt later) inside]

/-- The text between two lines has the markers of the lines between them. It may have a line
more, but that one is empty. -/
theorem markerAt?_textBetween {doc : Document} {since before n : Nat} {marker : Marker}
    {name : String} (nonempty : since < before) (inside : before ≤ doc.lineCount)
    (found : markerAt? (⟨name, doc.textBetween since before⟩ : Document).lines n = some marker)
    : since + n < before ∧ markerAt? doc.lines (since + n) = some marker := by
  obtain ⟨line, there, read⟩ := Option.bind_eq_some_iff.mp found
  by_cases short : since + n < before
  · have same := line?_textBetween name inside short
    rw [line?, there] at same
    exact ⟨short, Option.bind_eq_some_iff.mpr ⟨line, same.symm, read⟩⟩
  · have beyond : (Text.run doc.chars since before).length ≤ n := by
      rw [Text.length_run since inside]
      omega
    have empty : line = "" := by
      change (⟨name, doc.textBetween since before⟩ : Document).line? n = some line at there
      rw [line?_eq, doc.pieces_textBetween name nonempty inside,
        List.getElem?_append_right beyond] at there
      obtain ⟨piece, last, rfl⟩ := Option.map_eq_some_iff.mp there
      have member := List.mem_of_getElem? last
      split at member
      · obtain rfl := List.mem_singleton.mp member
        rfl
      · simp at member
    have unmarked : Marker.ofLine? "" = none := by decide
    simp [empty, unmarked] at read

/-- The only line of a cell's text that can be a marker is its first one. -/
theorem marker_of_cell {doc : Document} {line n : Nat} {marker : Marker}
    (inside : line < doc.lineCount)
    (found
      : markerAt? (⟨doc.name, doc.offeredText (cellAt doc.lines line)⟩ : Document).lines n
        = some marker)
    : n = 0 := by
  have bound : next doc.lines line ≤ doc.lineCount := by
    rw [← doc.length_lines]
    exact next_le doc.lines line
  have later : line < next doc.lines line := lt_next (by rwa [length_lines])
  obtain ⟨front, marked⟩ := markerAt?_textBetween later bound found
  by_contra notFirst
  have stops := next_le_of_mem (mem_ofLines.mpr ⟨marker, marked⟩)
    (Nat.lt_add_of_pos_right (Nat.pos_of_ne_zero notFirst))
  exact absurd front (Nat.not_lt.mpr stops)

/-- No line is lost or doubled by the offers: what a document offers above and below a marker
makes up its text, and so do the cells of an unblocked document with markers, in which a marker
can only be the first line of a cell. -/
theorem offered_texts_cover (doc : Document)
    : (∀ above ∈ Offer.ofLines doc.lines, ∀ below ∈ Offer.ofLines doc.lines,
          above.action = .above
          → below.action = .below
          → above.anchor = below.anchor
          → doc.offeredText above ++ doc.offeredText below = doc.text)
      ∧ (MarkerLines.ofLines doc.lines ≠ []
          → Unblocked doc.lines
          → String.join ((cells doc.lines).map doc.offeredText) = doc.text
            ∧ ∀ cell ∈ cells doc.lines, ∀ line marker,
                markerAt? (⟨doc.name, doc.offeredText cell⟩ : Document).lines line = some marker
                → line = 0) := by
  refine ⟨?_, ?_⟩
  · intro above first below second isAbove isBelow same
    exact offeredText_surrounding first second isAbove isBelow same
  · intro marked unblocked
    rw [cells_eq unblocked marked, List.map_map]
    refine ⟨(doc.join_cells 0).trans doc.textBetween_whole, ?_⟩
    intro cell member line marker found
    obtain ⟨start, started, rfl⟩ := List.mem_map.mp member
    have inside : start < doc.lineCount := by
      rcases List.mem_cons.mp started with rfl | later
      · exact doc.lineCount_pos
      · exact lt_lineCount_of_mem (mem_behind.mp later).1
    exact marker_of_cell inside found

/-- Two markers behind an unmarked line make three cells. -/
theorem offered_texts_cover_three_cells
    : ∃ doc : Document, ∃ above below,
        doc.text = "a\n# %%\nb\n # In[1]\nc"
        ∧ above ∈ Offer.ofLines doc.lines
        ∧ below ∈ Offer.ofLines doc.lines
        ∧ above.action = .above
        ∧ below.action = .below
        ∧ above.anchor = below.anchor
        ∧ doc.offeredText above ++ doc.offeredText below = doc.text
        ∧ MarkerLines.ofLines doc.lines ≠ []
        ∧ Unblocked doc.lines
        ∧ (cells doc.lines).map doc.offeredText = ["a\n", "# %%\nb\n", " # In[1]\nc"]
        ∧ String.join ((cells doc.lines).map doc.offeredText) = doc.text := by
  have first : (⟨.above, .lines 0 3, 3⟩ : Offer)
      ∈ Offer.ofLines (⟨"demo", "a\n# %%\nb\n # In[1]\nc"⟩ : Document).lines := by decide
  have second : (⟨.below, .toEnd 3, 3⟩ : Offer)
      ∈ Offer.ofLines (⟨"demo", "a\n# %%\nb\n # In[1]\nc"⟩ : Document).lines := by decide
  have marked : MarkerLines.ofLines (⟨"demo", "a\n# %%\nb\n # In[1]\nc"⟩ : Document).lines
      ≠ [] := by decide
  have unblocked : Unblocked (⟨"demo", "a\n# %%\nb\n # In[1]\nc"⟩ : Document).lines := by decide
  obtain ⟨surrounded, covered⟩ := offered_texts_cover ⟨"demo", "a\n# %%\nb\n # In[1]\nc"⟩
  exact ⟨_, _, _, rfl, first, second, rfl, rfl, rfl, surrounded _ first _ second rfl rfl rfl,
    marked, unblocked, by rw [cells_eq unblocked marked]; decide, (covered marked unblocked).1⟩

end Document

end CellRunner
