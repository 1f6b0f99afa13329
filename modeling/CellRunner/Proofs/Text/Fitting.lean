import CellRunner.Proofs.Text.Widths

/-!
Fitting keeps the longest front of a text that is no wider than the limit, whatever the widths of
characters are. That no longer front fits gives the rest: a text that fits is kept whole, a larger
limit keeps more, and nothing is lost when a fitted text is fitted again.
-/

namespace CellRunner.Text.Widths

variable {widths : Widths}

/-- A text within a limit, with the columns that it takes: the front of `text` that no other one
within the limit exceeds. -/
structure LongestFit (widths : Widths) (text : List Char) (limit : Nat)
    (fitted : List Char × Nat)
    : Prop where
  front : fitted.1 <+: text
  width : fitted.2 = widths.ofText fitted.1
  within : fitted.2 ≤ limit
  longest : ∀ other, other <+: text → widths.ofText other ≤ limit → other <+: fitted.1

/-- A fitted text is a front of the text, by induction on the text. -/
theorem fit_isPrefix (text : List Char) (limit : Nat)
    : (widths.fit text limit).1 <+: text := by
  induction text generalizing limit with
  | nil => exact List.nil_prefix
  | cons c rest ih =>
      simp only [fit]
      split
      · exact (List.prefix_cons_inj c).mpr (ih _)
      · exact List.nil_prefix

/-- A front that fits is in the fitted text. Induction on the text: a first character that does
not fit leaves no front but the empty one, also if characters without a width follow it. -/
theorem isPrefix_fit {text other : List Char} {limit : Nat} (front : other <+: text)
    (fits : widths.ofText other ≤ limit)
    : other <+: (widths.fit text limit).1 := by
  induction text generalizing other limit with
  | nil => exact front
  | cons c rest ih =>
      cases other with
      | nil => exact List.nil_prefix
      | cons d other =>
          obtain ⟨rfl, behind⟩ := List.cons_prefix_cons.mp front
          rw [ofText_cons] at fits
          have first : widths.ofChar d ≤ limit := by omega
          simp only [fit, if_pos first]
          exact (List.prefix_cons_inj d).mpr (ih behind (by omega))

/-- Fitting gives the longest fit, by the two comparisons of fronts. -/
theorem longestFit_fit (text : List Char) (limit : Nat)
    : LongestFit widths text limit (widths.fit text limit) where
  front := fit_isPrefix text limit
  width := widths.fit_width text limit
  within := by
    rw [fit_width]
    exact ofText_fit_le text limit
  longest _ front fits := isPrefix_fit front fits

/-- A text within the limit is kept whole, since it is a front of itself. -/
theorem fit_of_le {text : List Char} {limit : Nat} (fits : widths.ofText text ≤ limit)
    : widths.fit text limit = (text, widths.ofText text) := by
  have whole : (widths.fit text limit).1 = text :=
    (fit_isPrefix text limit).eq_of_length_le (isPrefix_fit List.prefix_rfl fits).length_le
  refine Prod.ext whole ?_
  rw [fit_width, whole]

/-- A larger limit keeps more: what fits a smaller one also fits the larger one. -/
theorem fit_mono (text : List Char) {small large : Nat} (less : small ≤ large)
    : (widths.fit text small).1 <+: (widths.fit text large).1 :=
  isPrefix_fit (fit_isPrefix text small) (Nat.le_trans (ofText_fit_le text small) less)

/-- A fitted text fits, so it is kept when it is fitted again. -/
theorem fit_fit (text : List Char) (limit : Nat)
    : widths.fit (widths.fit text limit).1 limit = widths.fit text limit := by
  rw [fit_of_le (ofText_fit_le text limit), ← fit_width]

/-- A text is fitted by its longest front within the limit, in columns of which a character takes
its width, and one if it has none. A text that fits is kept, a larger limit keeps more, and fitting
again changes nothing. -/
theorem fit_longest (widths : Widths) (text : List Char)
    : (∀ limit, LongestFit widths text limit (widths.fit text limit))
      ∧ (∀ limit, widths.ofText text ≤ limit → widths.fit text limit = (text, widths.ofText text))
      ∧ (∀ small large,
          small ≤ large → (widths.fit text small).1 <+: (widths.fit text large).1)
      ∧ (∀ limit, widths.fit (widths.fit text limit).1 limit = widths.fit text limit)
      ∧ (∀ c n, widths c = some n → widths.ofChar c = n)
      ∧ ∀ c, widths c = none → widths.ofChar c = 1 := by
  refine ⟨longestFit_fit text, fun _ => fit_of_le, fun _ _ => fit_mono text, fit_fit text, ?_, ?_⟩
  · intro c n known
    rw [ofChar, known, Option.getD_some]
  · intro c unknown
    rw [ofChar, unknown, Option.getD_none]

/-- A character of two columns does not fit into the one that is left, nor does the combining
character behind it. A bell takes a column although it has no width. -/
theorem fit_longest_combining
    : ∃ widths : Widths, ∃ text : List Char,
        text = ['\x07', '世', '\u0301']
        ∧ text.map widths = [none, some 2, some 0]
        ∧ widths.ofChar '\x07' = 1
        ∧ widths.fit text 2 = (['\x07'], 1)
        ∧ widths.ofText text ≤ 3
        ∧ widths.fit text 3 = (text, 3)
        ∧ 2 ≤ 3
        ∧ (widths.fit text 2).1 <+: (widths.fit text 3).1 := by
  let widths : Widths := fun c =>
    if isControl c then none else if c = '世' then some 2 else if c = '\u0301' then some 0
    else some 1
  obtain ⟨_, whole, more, _, _, control⟩ := fit_longest widths ['\x07', '世', '\u0301']
  have fits : widths.ofText ['\x07', '世', '\u0301'] ≤ 3 := by decide
  exact ⟨widths, _, rfl, by decide, control '\x07' (by decide), by decide, fits, whole 3 fits,
    by decide, more 2 3 (by decide)⟩

end CellRunner.Text.Widths
