/-!
Blank characters are those with Unicode's White_Space property. They separate words, and
trimming removes them from the ends of a text.
-/

namespace CellRunner.Text

def isBlank (c : Char) : Bool :=
  let n := c.toNat
  (9 ≤ n && n ≤ 13) || n == 0x20 || n == 0x85 || n == 0xA0 || n == 0x1680
    || (0x2000 ≤ n && n ≤ 0x200A) || n == 0x2028 || n == 0x2029 || n == 0x202F
    || n == 0x205F || n == 0x3000

/-- A text with no character outside White_Space, the empty text included. -/
def allBlank (s : String) : Bool :=
  s.toList.all isBlank

def trimStart (text : List Char) : List Char :=
  text.dropWhile isBlank

def trimEnd (text : List Char) : List Char :=
  (text.reverse.dropWhile isBlank).reverse

def trim (text : List Char) : List Char :=
  trimEnd (trimStart text)

theorem trim_of_unblank {text : List Char} (unblank : ∀ c ∈ text, isBlank c = false)
    : trim text = text := by
  have kept (text : List Char) (unblank : ∀ c ∈ text, isBlank c = false)
      : text.dropWhile isBlank = text := by
    cases text with
    | nil => rfl
    | cons c rest => simp [unblank c List.mem_cons_self]
  rw [trim, trimStart, kept text unblank, trimEnd, kept text.reverse (by simpa using unblank),
    List.reverse_reverse]

end CellRunner.Text
