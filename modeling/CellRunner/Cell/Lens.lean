import CellRunner.Cell.Offer
import CellRunner.Json.Printer
import CellRunner.Text.Decimal

/-!
The listing of a document's offers, for people as aligned lines and for editors as JSON
records. Both give the bounds in the form in which a send request takes them.
-/

namespace CellRunner

/-- An offer as an editor receives it; `-1` stands for the end of the document. -/
structure Lens where
  title : String
  line : Nat
  since : Nat
  before : Int
deriving DecidableEq, Repr

namespace Lens

def ofOffer (offer : Offer) : Lens where
  title := offer.action.label
  line := offer.anchor
  since := offer.range.since
  before :=
    match offer.range.before with
    | .line before => before
    | .endOfDocument => -1

def toJson (lens : Lens) : Json.Value :=
  .object
    [ ("title", .string lens.title),
      ("line", .number (Text.Decimal.write lens.line)),
      ("since", .number (Text.Decimal.write lens.since)),
      ("before", .number (Text.Decimal.writeInt lens.before)) ]

end Lens

/-- The text followed by blanks up to `width` characters. -/
def padEnd (text : String) (width : Nat) : String :=
  text ++ String.ofList (List.replicate (width - text.length) ' ')

def RangeEnd.text : RangeEnd → String
  | .line n => Text.Decimal.write n
  | .endOfDocument => "end"

namespace Offer

/-- One line of the listing, with the anchor counted from one. -/
def listing (offer : Offer) : String :=
  "L" ++ padEnd (Text.Decimal.write (offer.anchor + 1)) 5 ++ " " ++ padEnd offer.action.label 10
    ++ " --since " ++ Text.Decimal.write offer.range.since
    ++ " --before " ++ offer.range.before.text ++ "\n"

def listAll (offers : List Offer) : String :=
  String.join (offers.map listing)

/-- The listing as a JSON value, written by an encoder. -/
def listAllJsonBy (write : Json.Value → String) (offers : List Offer) : String :=
  write (.array (offers.map (fun offer => (Lens.ofOffer offer).toJson)))

def listAllJson (offers : List Offer) : String :=
  listAllJsonBy (Json.Value.pretty 0) offers

end Offer

end CellRunner
