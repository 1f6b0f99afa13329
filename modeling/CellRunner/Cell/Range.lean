/-!
Half-open ranges of line numbers. Lines are numbered from zero, and a range may be left open
towards the end of the document.
-/

namespace CellRunner

inductive RangeEnd where
  | line (n : Nat)
  | endOfDocument
deriving DecidableEq, Repr

structure LineRange where
  since : Nat
  before : RangeEnd
deriving DecidableEq, Repr

namespace LineRange

def lines (since before : Nat) : LineRange :=
  ⟨since, .line before⟩

def toEnd (since : Nat) : LineRange :=
  ⟨since, .endOfDocument⟩

/-- The bounds within a document of `lineCount` lines. A stated bound is not clamped. -/
def resolve (range : LineRange) (lineCount : Nat) : Nat × Nat :=
  match range.before with
  | .line before => (range.since, before)
  | .endOfDocument => (range.since, lineCount)

end LineRange

end CellRunner
