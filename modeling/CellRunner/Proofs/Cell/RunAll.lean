import CellRunner.Proofs.Cell.OfferList

/-!
The offer to run the whole document. A document with markers makes it once, at its first line,
unless that line is a block end: a block end offers only what follows its marker, and the lines
in front of the first marker are none. A document all of whose markers are block ends, the first
line among them, offers nothing that holds the first line.
-/

namespace CellRunner.OfferList
open MarkerLines

/-- The whole document, offered at its first line. -/
def whole : Offer :=
  ⟨.all, .toEnd 0, 0⟩

/-- The first line of the document is a block end. -/
def OpensWithBlockEnd (lines : List String) : Prop :=
  markerAt? lines 0 = some .blockEnd

instance (lines : List String) : Decidable (OpensWithBlockEnd lines) :=
  inferInstanceAs (Decidable (_ = _))

/-- A line can be run through one of the offers. -/
def Runnable (lines : List String) (line : Nat) : Prop :=
  ∃ offer ∈ Offer.ofLines lines,
    (offer.range.resolve lines.length).1 ≤ line ∧ line < (offer.range.resolve lines.length).2

-----------------------------------------------------------------------------------------
-- How often the whole document is offered
-----------------------------------------------------------------------------------------

theorem filter_all_around (line : Nat)
    : (around line).filter (·.action = .all) = if line = 0 then [whole] else [] := by
  by_cases first : line = 0
  · subst first
    rfl
  · simp [around, first, Nat.pos_of_ne_zero first]

theorem filter_all_atLine {lines : List String} {line : Nat} (behind : 0 < line)
    : (atLine lines line).filter (·.action = .all) = [] := by
  have other : line ≠ 0 := Nat.ne_of_gt behind
  unfold atLine
  split <;> simp [filter_all_around, other]

theorem filter_all_firstLine {lines : List String} (member : 0 ∈ MarkerLines.ofLines lines)
    : (atLine lines 0).filter (·.action = .all)
      = if OpensWithBlockEnd lines then [] else [whole] := by
  obtain ⟨marker, found⟩ := mem_ofLines.mp member
  cases marker <;> simp [atLine, OpensWithBlockEnd, found, filter_all_around]

theorem filter_all_atFront {lines : List String} {first : Nat} {rest : List Nat}
    (h : MarkerLines.ofLines lines = first :: rest)
    : (atFront lines).filter (·.action = .all) = if 0 < first then [whole] else [] := by
  by_cases front : 0 < first <;> simp [atFront, h, front, whole]

/-- Behind the first line no marker offers the whole document. -/
theorem filter_all_flatMap {lines : List String} {marked : List Nat}
    (behind : ∀ line ∈ marked, 0 < line)
    : (marked.reverse.flatMap (atLine lines)).filter (·.action = .all) = [] := by
  rw [List.filter_flatMap, List.flatMap_eq_nil_iff]
  intro line member
  exact filter_all_atLine (behind line (List.mem_reverse.mp member))

theorem first_of_opens {lines : List String} {first : Nat} {rest : List Nat}
    (h : MarkerLines.ofLines lines = first :: rest) (opens : OpensWithBlockEnd lines)
    : first = 0 := by
  have member : 0 ∈ MarkerLines.ofLines lines := mem_ofLines.mpr ⟨_, opens⟩
  have ascending := ascending_ofLines lines
  rw [h] at member ascending
  rcases List.mem_cons.mp member with same | later
  · exact same.symm
  · exact absurd (List.rel_of_pairwise_cons ascending later) (Nat.not_lt_zero first)

/-- Either the first marker offers the whole document or the lines in front of it do, except for
a block end in the first line. -/
theorem filter_all_ofLines {lines : List String} (marked : MarkerLines.ofLines lines ≠ [])
    : (Offer.ofLines lines).filter (·.action = .all)
      = if OpensWithBlockEnd lines then [] else [whole] := by
  obtain ⟨first, rest, parts⟩ := List.exists_cons_of_ne_nil marked
  have ascending := ascending_ofLines lines
  rw [parts] at ascending
  have behind : ∀ line ∈ rest, first < line := fun _ => List.rel_of_pairwise_cons ascending
  rw [ofLines_eq, List.filter_append, filter_all_atFront parts]
  by_cases front : 0 < first
  · have unopened : ¬ OpensWithBlockEnd lines :=
      fun opens => Nat.ne_of_gt front (first_of_opens parts opens)
    have all : ∀ line ∈ MarkerLines.ofLines lines, 0 < line := by
      rw [parts]
      intro line member
      rcases List.mem_cons.mp member with rfl | later
      · exact front
      · exact Nat.zero_lt_of_lt (behind line later)
    rw [filter_all_flatMap all, if_pos front, if_neg unopened, List.nil_append]
  · obtain rfl := Nat.eq_zero_of_not_pos front
    have member : 0 ∈ MarkerLines.ofLines lines := by simp [parts]
    rw [parts, List.reverse_cons, List.flatMap_append, List.filter_append,
      filter_all_flatMap behind, List.flatMap_singleton, filter_all_firstLine member,
      if_neg front, List.nil_append, List.append_nil]

-----------------------------------------------------------------------------------------
-- The lines that can be run
-----------------------------------------------------------------------------------------

/-- No marker in the first line is offered what is above or below it. -/
theorem action_of_anchor_zero {lines : List String} {offer : Offer}
    (offered : offer ∈ Offer.ofLines lines) (first : offer.anchor = 0)
    : offer.action ≠ .above ∧ offer.action ≠ .below := by
  cases made_of_mem offered with
  | above _ positive | below _ positive => exact absurd first (Nat.ne_of_gt positive)
  | _ => exact ⟨by simp, by simp⟩

theorem mem_of_atLine {lines : List String} {line : Nat} {offer : Offer}
    (member : line ∈ MarkerLines.ofLines lines) (offered : offer ∈ atLine lines line)
    : offer ∈ Offer.ofLines lines := by
  rw [ofLines_eq]
  exact List.mem_append_left _
    (List.mem_flatMap.mpr ⟨line, List.mem_reverse.mpr member, offered⟩)

/-- A cell or block marker behind the first line makes every line runnable: the lines above it by
one offer, and the others by another one. -/
theorem runnable_of_marker {lines : List String} {place line : Nat} {marker : Marker}
    (found : markerAt? lines place = some marker) (opening : marker ≠ .blockEnd)
    (behind : 0 < place) (inside : line < lines.length)
    : Runnable lines line := by
  have member : place ∈ MarkerLines.ofLines lines := mem_ofLines.mpr ⟨marker, found⟩
  have offered : around place ⊆ Offer.ofLines lines := by
    intro offer near
    refine mem_of_atLine member ?_
    cases marker with
    | cell | blockStart => simp [atLine, found, near]
    | blockEnd => contradiction
  rcases Nat.lt_or_ge line place with above | below
  · exact ⟨⟨.above, .lines 0 place, place⟩, offered (by simp [around, behind]),
      Nat.zero_le line, above⟩
  · exact ⟨⟨.below, .toEnd place, place⟩, offered (by simp [around, behind]), below, inside⟩

theorem runnable_of_whole {lines : List String} {line : Nat}
    (offered : whole ∈ Offer.ofLines lines) (inside : line < lines.length)
    : Runnable lines line :=
  ⟨whole, offered, Nat.zero_le line, inside⟩

/-- Where all the markers are block ends and the first line is one, every offer starts behind the
first line. -/
theorem not_runnable_first {lines : List String} (opens : OpensWithBlockEnd lines)
    (ends : ∀ line marker, markerAt? lines line = some marker → marker = .blockEnd)
    : ¬ Runnable lines 0 := by
  rintro ⟨offer, offered, reached, _⟩
  have unoffered : atFront lines = [] := by
    obtain ⟨first, rest, parts⟩ :=
      List.exists_cons_of_ne_nil (List.ne_nil_of_mem (mem_ofLines.mpr ⟨_, opens⟩))
    simp [atFront, parts, first_of_opens parts opens]
  rw [ofLines_eq, unoffered, List.append_nil] at offered
  obtain ⟨line, listed, there⟩ := List.mem_flatMap.mp offered
  obtain ⟨marker, found⟩ := mem_ofLines.mp (List.mem_reverse.mp listed)
  obtain rfl := ends line marker found
  simp only [atLine, found, List.mem_singleton] at there
  subst there
  have later : line < next lines line :=
    lt_next (lt_length_of_mem (List.mem_reverse.mp listed))
  exact Nat.not_lt_zero line (Nat.lt_of_lt_of_le later reached)

/-- A document with markers offers once to run it as a whole, at its first line and in place of
what is above and below that line, unless a block end is in that line; then it never does. Every
line of it can be run unless that block end has no other markers behind it than block ends. -/
theorem whole_offered_iff (lines : List String) (marked : MarkerLines.ofLines lines ≠ [])
    : (Offer.ofLines lines).filter (·.action = .all)
          = (if OpensWithBlockEnd lines then [] else [whole])
      ∧ (∀ offer ∈ Offer.ofLines lines,
          offer.anchor = 0 → offer.action ≠ .above ∧ offer.action ≠ .below)
      ∧ ((∀ line < lines.length, Runnable lines line)
          ↔ ¬ OpensWithBlockEnd lines
            ∨ ∃ line marker, markerAt? lines line = some marker ∧ marker ≠ .blockEnd) := by
  have offers := filter_all_ofLines marked
  refine ⟨offers, fun offer offered first => action_of_anchor_zero offered first, ?_⟩
  constructor
  · intro runnable
    by_contra neither
    simp only [not_or, Decidable.not_not, not_exists, not_and] at neither
    obtain ⟨opens, ends⟩ := neither
    have first : 0 < lines.length := lt_length_of_mem (mem_ofLines.mpr ⟨_, opens⟩)
    exact not_runnable_first opens ends (runnable 0 first)
  · intro either line inside
    by_cases opens : OpensWithBlockEnd lines
    · obtain ⟨place, marker, found, opening⟩ := either.resolve_left (fun other => other opens)
      have behind : 0 < place := by
        apply Nat.pos_of_ne_zero
        rintro rfl
        exact opening (Option.some.inj (found.symm.trans opens))
      exact runnable_of_marker found opening behind inside
    · rw [if_neg opens] at offers
      have offered : whole ∈ (Offer.ofLines lines).filter (·.action = .all) := by simp [offers]
      exact runnable_of_whole (List.mem_filter.mp offered |>.1) inside

/-- A block end behind an unmarked line. -/
theorem whole_offered_iff_block_end_behind
    : ∃ lines : List String,
        lines = ["x = 1", "# %\x7d", "y = 2"]
        ∧ MarkerLines.ofLines lines ≠ []
        ∧ ¬ OpensWithBlockEnd lines
        ∧ (Offer.ofLines lines).filter (·.action = .all) = [⟨.all, .toEnd 0, 0⟩]
        ∧ ∀ line < lines.length, Runnable lines line := by
  have marked : MarkerLines.ofLines ["x = 1", "# %\x7d", "y = 2"] ≠ [] := by decide
  have unopened : ¬ OpensWithBlockEnd ["x = 1", "# %\x7d", "y = 2"] := by decide
  obtain ⟨offers, _, runnable⟩ := whole_offered_iff ["x = 1", "# %\x7d", "y = 2"] marked
  rw [if_neg unopened] at offers
  exact ⟨_, rfl, marked, unopened, offers, runnable.mpr (.inl unopened)⟩

/-- A block end in the first line, without another marker, leaves the whole document unoffered and
its lines out of reach. -/
theorem whole_unoffered_at_block_end
    : ¬ (∀ lines : List String, MarkerLines.ofLines lines ≠ []
          → (Offer.ofLines lines).filter (·.action = .all) = [⟨.all, .toEnd 0, 0⟩])
      ∧ ¬ ∀ lines : List String, MarkerLines.ofLines lines ≠ []
          → ∀ line < lines.length, Runnable lines line := by
  constructor
  · intro once
    exact absurd (once ["# %\x7d", "x = 1"] (by decide)) (by decide)
  · intro runnable
    obtain ⟨offer, offered, reached, _⟩ := runnable ["# %\x7d", "x = 1"] (by decide) 0 (by decide)
    have offers : Offer.ofLines ["# %\x7d", "x = 1"] = [⟨.rest, .toEnd 2, 0⟩] := by decide
    rw [offers, List.mem_singleton] at offered
    subst offered
    exact absurd reached (by decide)

end CellRunner.OfferList
