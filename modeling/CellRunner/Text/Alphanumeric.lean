import CellRunner.Text.Alphanumeric.Table
import CellRunner.Text.Ranges

/-!
Letters and numbers of all scripts.
-/

namespace CellRunner.Text

def isAlphanumeric (c : Char) : Bool :=
  inRanges alphanumericRanges c.toNat

end CellRunner.Text
