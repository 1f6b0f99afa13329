import CellRunner.Cell.Lens
import CellRunner.Proofs.Cell.OfferList
import CellRunner.Proofs.Text.Pieces
import CellRunner.Proofs.Text.Words

/-!
The listing of offers has one line for each of them. The words of a line are the anchor, the
label and the range's bounds behind their flags, in this order.
-/

namespace CellRunner.Offer

/-- The bounds of a range, as flags with their values. -/
def flags (range : LineRange) : List String :=
  ["--since", Text.Decimal.write range.since, "--before", range.before.text]

/-- The line of an offer, without the line feed that ends it. -/
def row (offer : Offer) : String :=
  "L" ++ padEnd (Text.Decimal.write (offer.anchor + 1)) 5 ++ " " ++ padEnd offer.action.label 10
    ++ " --since " ++ Text.Decimal.write offer.range.since
    ++ " --before " ++ offer.range.before.text

theorem listing_eq (offer : Offer)
    : offer.listing = offer.row ++ "\n" :=
  rfl

/-- A row by its columns. -/
theorem toList_row (offer : Offer)
    : offer.row.toList
      = ('L' :: Text.Decimal.digits (offer.anchor + 1))
        ++ (List.replicate (5 - (Text.Decimal.write (offer.anchor + 1)).length) ' '
        ++ ' ' :: (offer.action.label.toList
        ++ (List.replicate (10 - offer.action.label.length) ' '
        ++ ' ' :: ("--since".toList
        ++ ' ' :: (Text.Decimal.digits offer.range.since
        ++ ' ' :: ("--before".toList
        ++ ' ' :: offer.range.before.text.toList)))))) := by
  simp [row, padEnd]

theorem unblank_digits (n : Nat)
    : ∀ c ∈ Text.Decimal.digits n, Text.isBlank c = false := by
  intro c member
  exact Text.isBlank_of_isDigit (Text.Decimal.isDigit_of_mem_digits member)

theorem words_digits (n : Nat)
    : Text.words (String.ofList (Text.Decimal.digits n)) = [Text.Decimal.write n] :=
  Text.words_of_unblank (Text.Decimal.digits_ne_nil n) (unblank_digits n)

theorem unblank_literal {text : String}
    (letters : text.toList.all (fun c => !Text.isBlank c) = true)
    : ∀ c ∈ text.toList, Text.isBlank c = false := by
  intro c member
  simpa using List.all_eq_true.mp letters c member

theorem unblank_endText (stop : RangeEnd)
    : ∀ c ∈ stop.text.toList, Text.isBlank c = false := by
  cases stop with
  | line n =>
      rw [RangeEnd.text, Text.Decimal.toList_write]
      exact unblank_digits n
  | endOfDocument => exact unblank_literal (by decide)

/-- The end of a range is a numeral or the word for the end of the document. -/
theorem words_endText (stop : RangeEnd)
    : Text.words (String.ofList stop.text.toList) = [stop.text] := by
  cases stop with
  | line n =>
      rw [RangeEnd.text, Text.Decimal.toList_write]
      exact words_digits n
  | endOfDocument => decide

/-- A row has the anchor, the words of the label, and the flags of the range. -/
theorem words_row (offer : Offer)
    : Text.words offer.row
      = (("L" ++ Text.Decimal.write (offer.anchor + 1)) :: Text.words offer.action.label)
        ++ flags offer.range := by
  have anchor : Text.words (String.ofList ('L' :: Text.Decimal.digits (offer.anchor + 1)))
      = ["L" ++ Text.Decimal.write (offer.anchor + 1)] := by
    rw [Text.words_of_unblank (List.cons_ne_nil _ _)]
    · simp [Text.Decimal.write]
    · intro c member
      rcases List.mem_cons.mp member with rfl | digit
      · decide
      · exact unblank_digits _ c digit
  have blank : Text.isBlank ' ' := by decide
  have sinceFlag : Text.words (String.ofList "--since".toList) = ["--since"] := by decide
  have beforeFlag : Text.words (String.ofList "--before".toList) = ["--before"] := by decide
  have label : Text.words (String.ofList offer.action.label.toList)
      = Text.words offer.action.label := by
    rw [String.ofList_toList]
  rw [← String.ofList_toList (s := offer.row), toList_row, Text.words_gap, Text.words_gap,
    Text.words_blank _ _ blank, Text.words_blank _ _ blank, Text.words_blank _ _ blank, anchor,
    label, sinceFlag, words_digits, beforeFlag, words_endText]
  rfl

-----------------------------------------------------------------------------------------
-- Lines of the listing
-----------------------------------------------------------------------------------------

/-- The blanks in a row are spaces. -/
theorem eq_space_of_mem_row (offer : Offer) {c : Char} (member : c ∈ offer.row.toList)
    (blank : Text.isBlank c)
    : c = ' ' := by
  have inDigits (n : Nat) : c ∉ Text.Decimal.digits n := by
    intro digit
    exact Bool.false_ne_true ((unblank_digits n c digit).symm.trans blank)
  have inLabel : c ∈ offer.action.label.toList → c = ' ' := by
    have spaces : offer.action.label.toList.all (fun d => !Text.isBlank d || d = ' ') = true := by
      cases offer.action <;> decide
    intro letter
    simpa [blank] using List.all_eq_true.mp spaces c letter
  have inFlag (flag : String) (unblank : ∀ d ∈ flag.toList, Text.isBlank d = false)
      : c ∉ flag.toList := by
    intro letter
    exact Bool.false_ne_true ((unblank c letter).symm.trans blank)
  have letter : c ≠ 'L' := by
    rintro rfl
    exact absurd blank (by decide)
  have sinceFlag := inFlag "--since" (unblank_literal (by decide))
  have beforeFlag := inFlag "--before" (unblank_literal (by decide))
  have stop := inFlag offer.range.before.text (unblank_endText offer.range.before)
  rw [toList_row] at member
  simp only [List.mem_append, List.mem_cons, List.mem_replicate, letter, inDigits, sinceFlag,
    beforeFlag, stop, false_or, or_false] at member
  rcases member with gap | space | label | gap | rest
  · exact gap.2
  · exact space
  · exact inLabel label
  · exact gap.2
  · simpa using rest

/-- The listing has the rows of the offers as its lines. -/
theorem outputLines_listAll (offers : List Offer)
    : Text.outputLines (listAll offers).toList = offers.map (fun offer => offer.row.toList) := by
  induction offers with
  | nil => rfl
  | cons offer rest ih =>
      have opened : (listAll (offer :: rest)).toList
          = offer.row.toList ++ '\n' :: (listAll rest).toList := by
        simp [listAll, listing_eq]
      have unfed : '\n' ∉ offer.row.toList := by
        intro feed
        exact absurd (eq_space_of_mem_row offer feed (by decide)) (by decide)
      have unreturned : '\r' ∉ offer.row.toList := by
        intro inside
        exact absurd (eq_space_of_mem_row offer inside (by decide)) (by decide)
      rw [opened, Text.outputLines_line_append unfed, Text.withoutLast_of_notMem unreturned, ih,
        List.map_cons]

end CellRunner.Offer
