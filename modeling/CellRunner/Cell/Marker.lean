import CellRunner.Text.Blank

/-!
Marker lines divide a source file into cells and bracket blocks of cells. A line is a marker
when its text after leading blanks begins with one of the marker openings.
-/

namespace CellRunner

inductive Marker where
  | cell
  | blockStart
  | blockEnd
deriving DecidableEq, Repr

namespace Marker

/-- No opening begins another one, so at most one of them fits a line. -/
def openings : List (String × Marker) :=
  [("# %%", .cell), ("# In[", .cell), ("# %\x7b", .blockStart), ("# %\x7d", .blockEnd)]

def ofLine? (line : String) : Option Marker :=
  let code := Text.trimStart line.toList
  (openings.find? (fun opening => opening.1.toList.isPrefixOf code)).map (·.2)

end Marker

end CellRunner
