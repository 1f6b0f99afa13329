import CellRunner.Host.Rehearsal
import CellRunner.Proofs.Document.RangeFrame
import CellRunner.Proofs.Session.Course

/-!
Ranges whose lower bound is not in front of the upper one. They hold no line, and nothing is sent
for them as long as their bounds are at most 2^63 lines apart. Bounds are counted as signed words,
so beyond that distance the count comes out positive again and a frame is planned.
-/

namespace CellRunner

/-- By how many lines the count of an excerpt falls short of zero, if its bounds are inverted. -/
def Excerpt.shortfall (excerpt : Excerpt) (totalLines : Nat) : Nat :=
  excerpt.since - excerpt.before + if totalLines ≤ excerpt.before then 1 else 0

namespace Frame

/-- A negative number below those that a signed word holds comes out positive. -/
theorem signedWord_neg {n : Nat} (word : n ≤ Text.Decimal.wordLimit)
    : signedWord (-n) = if n ≤ 2 ^ 63 then (-n : Int) else Text.Decimal.wordLimit - n := by
  unfold Text.Decimal.wordLimit at word
  split
  · exact signedWord_eq (by omega) (by omega)
  · have wrapped : -(n : Int) + Text.Decimal.wordLimit = Text.Decimal.wordLimit - n :=
      Int.add_comm _ _
    calc signedWord (-n)
      _ = signedWord (-n + Text.Decimal.wordLimit) := (Int.add_bmod_right _ _).symm
      _ = Text.Decimal.wordLimit - n := by
        rw [wrapped]
        unfold Text.Decimal.wordLimit
        exact signedWord_eq (by omega) (by omega)

theorem countLines_inverted {excerpt : Excerpt} (totalLines : Nat)
    (inverted : excerpt.before ≤ excerpt.since)
    : countLines excerpt.since excerpt.before totalLines
      = signedWord (-(excerpt.shortfall totalLines : Int)) := by
  unfold countLines Excerpt.shortfall
  congr 1
  split <;> omega

theorem shortfall_le {excerpt : Excerpt} (totalLines : Nat)
    (word : excerpt.since < Text.Decimal.wordLimit)
    : excerpt.shortfall totalLines ≤ Text.Decimal.wordLimit := by
  unfold Excerpt.shortfall
  split <;> omega

/-- A shortfall that a signed word holds leaves no line to send, and neither does one that makes a
whole turn. -/
theorem ofExcerpt?_inverted_eq_none_iff {excerpt : Excerpt} (totalLines : Nat)
    (sourceName : String) (inverted : excerpt.before ≤ excerpt.since)
    (word : excerpt.since < Text.Decimal.wordLimit)
    : ofExcerpt? excerpt totalLines sourceName = none
      ↔ excerpt.shortfall totalLines ≤ 2 ^ 63
        ∨ excerpt.shortfall totalLines = Text.Decimal.wordLimit := by
  have short := shortfall_le totalLines word
  simp only [ofExcerpt?, countLines_inverted totalLines inverted, signedWord_neg short,
    ite_eq_left_iff, reduceCtorEq, imp_false, Decidable.not_not]
  unfold Text.Decimal.wordLimit at *
  split <;> omega

/-- A shortfall in between is counted as what is missing to a whole turn. -/
theorem ofExcerpt?_inverted_eq_some {excerpt : Excerpt} {totalLines : Nat} (sourceName : String)
    (inverted : excerpt.before ≤ excerpt.since) (beyond : 2 ^ 63 < excerpt.shortfall totalLines)
    (turning : excerpt.shortfall totalLines < Text.Decimal.wordLimit)
    : ofExcerpt? excerpt totalLines sourceName
      = some
          ⟨Text.Decimal.wordLimit - excerpt.shortfall totalLines,
            (excerpt.since + 1) % Text.Decimal.wordLimit, sourceName, excerpt.text⟩ := by
  have counted : countLines excerpt.since excerpt.before totalLines
      = (Text.Decimal.wordLimit - excerpt.shortfall totalLines : Nat) := by
    rw [countLines_inverted totalLines inverted, signedWord_neg (Nat.le_of_lt turning),
      if_neg (Nat.not_le.mpr beyond), Int.ofNat_sub (Nat.le_of_lt turning)]
  have counts : ¬ countLines excerpt.since excerpt.before totalLines < 1 := by
    rw [counted]
    omega
  rw [ofExcerpt?, if_neg counts, counted, Int.toNat_natCast]

end Frame

-----------------------------------------------------------------------------------------
-- Sending inverted ranges
-----------------------------------------------------------------------------------------

/-- An excerpt without a line in front of its upper bound is not framed, and nothing is asked of
the host or the chooser for it, as long as its bounds are at most 2^63 lines apart. Beyond that it
is framed with the lines that are missing to 2^64. -/
theorem inverted_range_unsent_iff (excerpt : Excerpt) (totalLines : Nat) (sourceName : String)
    (inverted : excerpt.before ≤ excerpt.since) (word : excerpt.since < Text.Decimal.wordLimit)
    : (Frame.ofExcerpt? excerpt totalLines sourceName = none
        ↔ excerpt.shortfall totalLines ≤ 2 ^ 63
          ∨ excerpt.shortfall totalLines = Text.Decimal.wordLimit)
      ∧ (excerpt.shortfall totalLines ≤ 2 ^ 63
          → ∀ {σ : Type} (setup : SessionSetup) (host : TerminalHost (StateM σ))
              (chooser : CommandChooser (StateM σ)) (desired : Option String) (s : σ),
              Does (setup.deliver host chooser sourceName totalLines excerpt desired)
                (setup.deliver host.watched chooser.watched sourceName totalLines excerpt desired)
                s [] (.ok .empty) s)
      ∧ (2 ^ 63 < excerpt.shortfall totalLines
          → excerpt.shortfall totalLines < Text.Decimal.wordLimit
          → Frame.ofExcerpt? excerpt totalLines sourceName
            = some
                ⟨Text.Decimal.wordLimit - excerpt.shortfall totalLines,
                  (excerpt.since + 1) % Text.Decimal.wordLimit, sourceName, excerpt.text⟩) := by
  have unframed := Frame.ofExcerpt?_inverted_eq_none_iff totalLines sourceName inverted word
  refine ⟨unframed, ?_, Frame.ofExcerpt?_inverted_eq_some sourceName inverted⟩
  intro held σ setup host chooser desired s
  exact setup.deliver_empty host chooser (unframed.mpr (.inl held)) desired s

/-- The largest line number against the first one behind the signed words, at the end of a
document. -/
theorem inverted_range_unsent_at_limit
    : ∃ excerpt : Excerpt,
        excerpt = ⟨2 ^ 64 - 1, 2 ^ 63, ""⟩
        ∧ excerpt.before ≤ excerpt.since
        ∧ excerpt.since < Text.Decimal.wordLimit
        ∧ excerpt.shortfall 10 = 2 ^ 63
        ∧ Frame.ofExcerpt? excerpt 10 "demo" = none
        ∧ Does
            ((⟨{}, [], []⟩ : SessionSetup).deliver Rehearsal.host Rehearsal.chooser "demo" 10
              excerpt none)
            ((⟨{}, [], []⟩ : SessionSetup).deliver Rehearsal.host.watched Rehearsal.chooser.watched
              "demo" 10 excerpt none)
            ⟨[], none, 0, [], [], []⟩ [] (.ok .empty) ⟨[], none, 0, [], [], []⟩ := by
  have inverted : (⟨2 ^ 64 - 1, 2 ^ 63, ""⟩ : Excerpt).before
      ≤ (⟨2 ^ 64 - 1, 2 ^ 63, ""⟩ : Excerpt).since := by decide
  have word : (⟨2 ^ 64 - 1, 2 ^ 63, ""⟩ : Excerpt).since < Text.Decimal.wordLimit := by decide
  have short : (⟨2 ^ 64 - 1, 2 ^ 63, ""⟩ : Excerpt).shortfall 10 = 2 ^ 63 := by decide
  have unsent := inverted_range_unsent_iff _ 10 "demo" inverted word
  exact ⟨_, rfl, inverted, word, short, unsent.1.mpr (.inl (Nat.le_of_eq short)),
    unsent.2.1 (Nat.le_of_eq short) _ _ _ _ _⟩

/-- A range from far behind the end of a document to its beginning announces two lines. -/
theorem distant_inverted_range_framed
    : ¬ ∀ (excerpt : Excerpt) (totalLines : Nat) (sourceName : String),
          excerpt.before ≤ excerpt.since
          → excerpt.since < Text.Decimal.wordLimit
          → Frame.ofExcerpt? excerpt totalLines sourceName = none := by
  intro all
  have none := all ⟨2 ^ 64 - 2, 0, ""⟩ 2 "a.edh" (by decide) (by decide)
  exact absurd none (by decide)

end CellRunner
