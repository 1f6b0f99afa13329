import CellRunner.Proofs.Cell.ListedLines
import CellRunner.Proofs.CommandLine.SentRange
import CellRunner.Proofs.Document.AnnouncedLines
import CellRunner.Proofs.Json.ReadBack
import Mathlib.Data.List.DropRight

/-!
Both forms of the listing of offers can be handed back to a send request: what they show of a
range makes a request for that range.
-/

namespace CellRunner.CommandLine

/-- The listing for editors is on several lines. -/
theorem listAllJson_eq (offers : List Offer)
    : Offer.listAllJson offers = Offer.listAllJsonBy Json.Encoding.pretty.write offers :=
  rfl

/-- What a send request for a range of a file is parsed to. -/
def sending (path : String) (range : LineRange) : Except ArgumentError Invocation :=
  .ok ⟨none, none, .request (.send ⟨path, some range, none, none⟩)⟩

/-- A line that shows an offer: the anchor and the label in columns, then four words that are the
arguments for the range. -/
structure Shows (path : String) (line : String) (offer : Offer) : Prop where
  columns
    : ∃ rest,
        line = "L" ++ padEnd (Text.Decimal.write (offer.anchor + 1)) 5 ++ " "
          ++ padEnd offer.action.label 10 ++ rest
  words
    : (Text.words line).rdrop 4
      = ("L" ++ Text.Decimal.write (offer.anchor + 1)) :: Text.words offer.action.label
  arguments
    : Invocation.ofArguments ("send" :: path :: (Text.words line).rtake 4)
      = sending path offer.range

/-- A record that holds an offer: the label, the anchor, and two numerals that are the arguments
for the range. -/
def Records (path : String) (record : Json.Value) (offer : Offer) : Prop :=
  ∃ since before,
    record = .object
        [ ("title", .string offer.action.label),
          ("line", .number (Text.Decimal.write offer.anchor)),
          ("since", .number since),
          ("before", .number before) ]
    ∧ since = Text.Decimal.write offer.range.since
    ∧ (before = "-1" ↔ offer.range.before = .endOfDocument)
    ∧ Invocation.ofArguments ["send", path, "--since", since, "--before", before]
      = sending path offer.range

/-- The numbers of an offer are numbers of lines. -/
structure Counted (offer : Offer) : Prop where
  anchor : offer.anchor < 2 ^ 63
  since : offer.range.since < 2 ^ 63
  before : ∀ n, offer.range.before = .line n → n < 2 ^ 63

theorem counted_of_mem {doc : Document} (few : doc.lineCount < 2 ^ 63) {offer : Offer}
    (offered : offer ∈ Offer.ofLines doc.lines)
    : Counted offer := by
  have within := OfferList.ofLines_within doc.lines offer offered
  have ordered := within.ordered
  have inside := within.inside
  have shown := OfferList.anchor_lt offered
  rw [doc.length_lines] at ordered inside shown
  refine ⟨by omega, ?_, ?_⟩
  · cases stop : offer.range.before <;> simp only [LineRange.resolve, stop] at ordered inside
      <;> omega
  · intro n stop
    simp only [LineRange.resolve, stop] at inside
    omega

theorem Counted.since_read {offer : Offer} (counted : Counted offer)
    : Text.Decimal.readWord? (Text.Decimal.write offer.range.since) = some offer.range.since :=
  Text.Decimal.readWord?_write (counted.since.trans (by decide))

theorem shows_row {path : String} (plain : isLongFlag path = false) {offer : Offer}
    (counted : Counted offer)
    : Shows path offer.row offer := by
  have before : readRangeEnd? offer.range.before.text = some offer.range.before :=
    readRangeEnd?_text (fun n stop => (counted.before n stop).trans (by decide))
  have columns : offer.row
      = "L" ++ padEnd (Text.Decimal.write (offer.anchor + 1)) 5 ++ " "
        ++ padEnd offer.action.label 10
        ++ (" --since " ++ Text.Decimal.write offer.range.since
          ++ " --before " ++ offer.range.before.text) := by
    simp only [Offer.row, String.append_assoc]
  refine ⟨⟨_, columns⟩, ?_, ?_⟩
  · rw [Offer.words_row]
    simp [List.rdrop, Offer.flags]
  · have flags : (Text.words offer.row).rtake 4 = Offer.flags offer.range := by
      rw [Offer.words_row]
      simp [List.rtake, Offer.flags]
    rw [flags]
    exact ofArguments_send plain counted.since_read before

theorem writeInt_lens_end {offer : Offer} (stop : offer.range.before = .endOfDocument)
    : Text.Decimal.writeInt (Lens.ofOffer offer).before = "-1" := by
  have one : Text.Decimal.write 1 = "1" := by
    simp [Text.Decimal.write, Text.Decimal.digits, Text.Decimal.digit]
  simp only [Lens.ofOffer, stop]
  exact congrArg ("-" ++ ·) one

/-- The numeral for the end of a range is read back as this end. -/
theorem before_numeral {offer : Offer} (counted : Counted offer)
    : (Lens.ofOffer offer).before.natAbs < 2 ^ 63
      ∧ readRangeEnd? (Text.Decimal.writeInt (Lens.ofOffer offer).before)
        = some offer.range.before := by
  cases stop : offer.range.before with
  | line n =>
      have small := counted.before n stop
      have written
          : Text.Decimal.writeInt (Lens.ofOffer offer).before = (RangeEnd.line n).text := by
        simp [Lens.ofOffer, stop, Text.Decimal.writeInt, RangeEnd.text]
      refine ⟨by simpa [Lens.ofOffer, stop] using small, ?_⟩
      rw [written]
      refine readRangeEnd?_text fun m same => ?_
      obtain rfl := RangeEnd.line.inj same
      exact small.trans (by decide)
  | endOfDocument =>
      have sign := writeInt_lens_end stop
      refine ⟨by simp [Lens.ofOffer, stop], ?_⟩
      rw [sign]
      decide

/-- The record of an offer is legible, and its numerals are those of the range. -/
theorem records_lens {path : String} (plain : isLongFlag path = false) {offer : Offer}
    (counted : Counted offer)
    : Json.Value.Readable 1 (Lens.ofOffer offer).toJson
      ∧ Records path (Lens.ofOffer offer).toJson offer := by
  obtain ⟨small, before⟩ := before_numeral counted
  have legible (n : Int) (word : n.natAbs < 2 ^ 63)
      : Json.Value.Readable 0 (.number (Text.Decimal.writeInt n)) :=
    .number (Json.Numeral.legible_writeInt (Nat.le_of_lt (word.trans (by decide))))
  refine ⟨.object ?_, _, _, rfl, rfl, ?_, ofArguments_send plain counted.since_read before⟩
  · simp only [List.mem_cons, List.not_mem_nil, or_false]
    rintro _ (rfl | rfl | rfl | rfl)
    · exact .string _
    · exact legible (offer.anchor : Nat) counted.anchor
    · exact legible (offer.range.since : Nat) counted.since
    · exact legible _ small
  · constructor
    · intro sign
      rw [sign] at before
      exact (Option.some.inj before).symm
    · exact writeInt_lens_end

/-- The listing of a document's offers for people has one line for each offer, and the listing
for editors one record in any encoding, both in the order of the offers. A send request that is
given the last four words of a line, or the numerals of a record, is a request for the range of the
offer. -/
theorem listed_ranges_read_back (encoding : Json.Encoding) (doc : Document)
    (few : doc.lineCount < 2 ^ 63) (path : String) (plain : isLongFlag path = false)
    : List.Forall₂ (Shows path)
        ((Text.outputLines (Offer.listAll (Offer.ofLines doc.lines)).toList).map String.ofList)
        (Offer.ofLines doc.lines)
      ∧ ∃ records,
          encoding.read? (Offer.listAllJsonBy encoding.write (Offer.ofLines doc.lines))
            = some (.array records)
          ∧ List.Forall₂ (Records path) records (Offer.ofLines doc.lines) := by
  have counted : ∀ offer ∈ Offer.ofLines doc.lines, Counted offer :=
    fun offer offered => counted_of_mem few offered
  have readable : Json.Value.Readable 2
      (.array ((Offer.ofLines doc.lines).map (fun offer => (Lens.ofOffer offer).toJson))) := by
    refine .array fun record listed => ?_
    obtain ⟨offer, offered, rfl⟩ := List.mem_map.mp listed
    exact (records_lens plain (counted offer offered)).1
  refine ⟨?_, _, encoding.read_write readable (by decide), ?_⟩
  · rw [Offer.outputLines_listAll, List.map_map, List.forall₂_map_left_iff, List.forall₂_same]
    intro offer offered
    simpa using shows_row plain (counted offer offered)
  · rw [List.forall₂_map_left_iff, List.forall₂_same]
    exact fun offer offered => (records_lens plain (counted offer offered)).2

/-- Of two cells, the first one and the whole document, and the second one with what is above and
below it, are listed in both forms. -/
theorem listed_ranges_read_back_two_cells
    : ∃ doc : Document, ∃ offers,
        doc.text = "# %%\na\n# %%\nb\n"
        ∧ doc.lineCount < 2 ^ 63
        ∧ isLongFlag "demo.edh" = false
        ∧ offers = [⟨.cell, .lines 2 5, 2⟩, ⟨.above, .lines 0 2, 2⟩, ⟨.below, .toEnd 2, 2⟩,
            ⟨.cell, .lines 0 2, 0⟩, ⟨.all, .toEnd 0, 0⟩]
        ∧ offers = Offer.ofLines doc.lines
        ∧ List.Forall₂ (Shows "demo.edh")
            ((Text.outputLines (Offer.listAll offers).toList).map String.ofList) offers
        ∧ ∃ records,
            Json.Encoding.pretty.read? (Offer.listAllJson offers) = some (.array records)
            ∧ List.Forall₂ (Records "demo.edh") records offers := by
  have few : (⟨"demo", "# %%\na\n# %%\nb\n"⟩ : Document).lineCount < 2 ^ 63 := by
    have lines : (⟨"demo", "# %%\na\n# %%\nb\n"⟩ : Document).lineCount = 5 := by decide
    simp [lines]
  have plain : isLongFlag "demo.edh" = false := by decide
  have listed := listed_ranges_read_back .pretty _ few "demo.edh" plain
  refine ⟨_, _, rfl, few, plain, by decide, rfl, listed.1, ?_⟩
  rw [listAllJson_eq]
  exact listed.2

end CellRunner.CommandLine
