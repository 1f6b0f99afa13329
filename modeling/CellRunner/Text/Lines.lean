import CellRunner.Text.Fields

/-!
Lines end at a line feed only. The pieces of a text are its lines with their terminators, so
they concatenate to the text; a text that ends in a line feed has an empty last piece.
-/

namespace CellRunner.Text

def pieces (text : List Char) : List (List Char) :=
  text.foldr
    (fun c rest =>
      if c = '\n' then [c] :: rest
      else
        match rest with
        | [] => [[c]]
        | piece :: more => (c :: piece) :: more)
    [[]]

theorem pieces_ne_nil (text : List Char)
    : pieces text ≠ [] := by
  cases text with
  | nil => simp [pieces]
  | cons c rest =>
      simp only [pieces, List.foldr_cons]
      split
      · simp
      · split <;> simp

theorem flatten_pieces (text : List Char)
    : (pieces text).flatten = text := by
  induction text with
  | nil => rfl
  | cons c rest ih =>
      simp only [pieces, List.foldr_cons] at ih ⊢
      split
      · simpa using ih
      · split
        · next heq => simp [heq] at ih; simp [ih]
        · next heq => rw [heq] at ih; simpa using ih

theorem length_pieces (text : List Char)
    : (pieces text).length = text.count '\n' + 1 := by
  induction text with
  | nil => rfl
  | cons c rest ih =>
      have nonempty := pieces_ne_nil rest
      simp only [pieces, List.foldr_cons, List.count_cons] at ih nonempty ⊢
      split
      · next h => simp [h, ih]
      · next h =>
          split
          · contradiction
          · next heq => rw [heq] at ih; simpa [h] using ih

/-- The text without `c` at its end, of which at most one is removed. -/
def withoutLast (c : Char) (text : List Char) : List Char :=
  if text.getLast? = some c then text.dropLast else text

theorem withoutLast_of_ne {c : Char} {text : List Char} (h : text.getLast? ≠ some c)
    : withoutLast c text = text :=
  if_neg h

theorem withoutLast_of_notMem {c : Char} {text : List Char} (absent : c ∉ text)
    : withoutLast c text = text :=
  withoutLast_of_ne (fun ends => absent (List.mem_of_getLast? ends))

/-- A piece without its line feed, and then without one carriage return. -/
def unterminated (piece : List Char) : List Char :=
  withoutLast '\r' (withoutLast '\n' piece)

/-- A line of program output: a carriage return belongs to the terminator only in front of a
line feed. -/
def outputLine (piece : List Char) : List Char :=
  if piece.getLast? = some '\n' then withoutLast '\r' piece.dropLast else piece

/-- The lines of program output. A line feed ends a line and begins none, so nothing follows
the last one. -/
def outputLines (text : List Char) : List (List Char) :=
  ((pieces text).filter (fun piece => !piece.isEmpty)).map outputLine

end CellRunner.Text
