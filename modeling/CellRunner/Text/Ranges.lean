/-!
Classes of characters as tables of code point ranges.
-/

namespace CellRunner.Text

def inRanges (ranges : Array (Nat × Nat)) (n : Nat) : Bool :=
  ranges.any (fun range => range.1 ≤ n && n ≤ range.2)

end CellRunner.Text
