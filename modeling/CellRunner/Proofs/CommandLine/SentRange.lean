import CellRunner.Cell.Lens
import CellRunner.CommandLine.Arguments

/-!
The arguments of a send request for a line range. The bounds are read back from the texts in
which ranges are shown, whatever the path is, unless it looks like a flag.
-/

namespace CellRunner

theorem Text.Decimal.readWord?_write {n : Nat} (h : n < Text.Decimal.wordLimit)
    : Text.Decimal.readWord? (Text.Decimal.write n) = some n := by
  rw [Text.Decimal.readWord?, Text.Decimal.toList_write]
  split
  · next rest signed => exact absurd signed (Text.Decimal.digits_ne_cons n (by decide) rest)
  · simp [Text.Decimal.read?_digits, h]

namespace CommandLine

/-- The end of a range is read back from the text that shows it. -/
theorem readRangeEnd?_text {stop : RangeEnd}
    (word : ∀ n, stop = .line n → n < Text.Decimal.wordLimit)
    : readRangeEnd? stop.text = some stop := by
  cases stop with
  | endOfDocument => decide
  | line n =>
      have digits : (RangeEnd.line n).text.toList.all Text.Decimal.isDigit := by
        rw [RangeEnd.text, Text.Decimal.toList_write]
        exact Text.Decimal.all_isDigit_digits n
      have numeral : ¬ ((RangeEnd.line n).text = "end" ∨ (RangeEnd.line n).text = "-1") := by
        rintro (name | sign)
        · rw [name] at digits
          contradiction
        · rw [sign] at digits
          contradiction
      simp only [readRangeEnd?, Bool.or_eq_true, decide_eq_true_eq, numeral, if_false]
      simp [RangeEnd.text, Text.Decimal.readWord?_write (word n rfl)]

/-- An argument that does not look like a flag is none of the flags of a send request. -/
theorem SendFlag.ofText?_of_plain {argument : String} (plain : isLongFlag argument = false)
    : SendFlag.ofText? argument = none := by
  apply List.find?_eq_none.mpr
  intro flag _ same
  have long : isLongFlag flag.text := by
    cases flag <;> decide
  rw [of_decide_eq_true same, plain] at long
  contradiction

/-- A path and a range with flags for its bounds make a send request for that range. -/
theorem ofArguments_send {path sinceText beforeText : String} {range : LineRange}
    (plain : isLongFlag path = false)
    (since : Text.Decimal.readWord? sinceText = some range.since)
    (before : readRangeEnd? beforeText = some range.before)
    : Invocation.ofArguments ["send", path, "--since", sinceText, "--before", beforeText]
      = .ok ⟨none, none, .request (.send ⟨path, some range, none, none⟩)⟩ := by
  have sinceFlag : SendFlag.ofText? "--since" = some .since := SendFlag.ofText?_text .since
  have beforeFlag : SendFlag.ofText? "--before" = some .before := SendFlag.ofText?_text .before
  have drafted : SendDraft.read {} [path, "--since", sinceText, "--before", beforeText]
      = .ok ⟨some path, some range.since, some range.before, none, none⟩ := by
    simp [SendDraft.read, SendFlag.ofText?_of_plain plain, SendDraft.addPath, plain, sinceFlag,
      beforeFlag, SendDraft.set?, since, before]
  have read : readSend [path, "--since", sinceText, "--before", beforeText]
      = .ok ⟨path, some range, none, none⟩ := by
    rw [readSend, drafted]
    rfl
  simp [Invocation.ofArguments, Options.read, readRequest, read, Options.invoke, Except.map]

end CommandLine

end CellRunner
