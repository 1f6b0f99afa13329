import CellRunner.Text.Blank

/-!
Decimal numerals in ASCII digits: writing a natural number, and reading numerals with an
optional sign. Reading is bounded by a word size, because line numbers and exit statuses are
machine words.
-/

namespace CellRunner.Text.Decimal

def isDigit (c : Char) : Bool :=
  '0' ≤ c && c ≤ '9'

def digitValue (c : Char) : Nat :=
  c.toNat - '0'.toNat

def digit (n : Nat) : Char :=
  Char.ofNat ('0'.toNat + n)

def digits (n : Nat) : List Char :=
  if n < 10 then [digit n] else digits (n / 10) ++ [digit (n % 10)]

def write (n : Nat) : String :=
  String.ofList (digits n)

def writeInt (n : Int) : String :=
  match n with
  | .ofNat n => write n
  | .negSucc n => "-" ++ write (n + 1)

def value (text : List Char) : Nat :=
  text.foldl (fun n c => n * 10 + digitValue c) 0

/-- A numeral has at least one digit and nothing else. -/
def read? (text : List Char) : Option Nat :=
  if !text.isEmpty && text.all isDigit then some (value text) else none

theorem isDigit_digit (n : Nat) (h : n < 10)
    : isDigit (digit n) = true := by
  have all : ∀ n < 10, isDigit (digit n) = true := by decide
  exact all n h

theorem digitValue_digit (n : Nat) (h : n < 10)
    : digitValue (digit n) = n := by
  have all : ∀ n < 10, digitValue (digit n) = n := by decide
  exact all n h

theorem digits_ne_nil (n : Nat)
    : digits n ≠ [] := by
  rw [digits]
  split <;> simp

theorem all_isDigit_digits (n : Nat)
    : (digits n).all isDigit = true := by
  fun_induction digits n with
  | case1 n h => simpa using isDigit_digit n h
  | case2 n h ih =>
      rw [List.all_append, ih]
      simpa using isDigit_digit (n % 10) (Nat.mod_lt _ (by omega))

theorem isDigit_of_mem_digits {n : Nat} {c : Char} (member : c ∈ digits n)
    : isDigit c = true :=
  List.all_eq_true.mp (all_isDigit_digits n) c member

/-- A numeral that is written has no sign. -/
theorem digits_ne_cons (n : Nat) {sign : Char} (other : isDigit sign = false) (rest : List Char)
    : digits n ≠ sign :: rest := by
  intro signed
  have digit : isDigit sign = true :=
    by
    refine isDigit_of_mem_digits (n := n) ?_
    rw [signed]
    exact List.mem_cons_self
  rw [other] at digit
  contradiction

@[simp]
theorem toList_write (n : Nat)
    : (write n).toList = digits n := by
  rw [write, String.toList_ofList]

theorem value_digits (n : Nat)
    : value (digits n) = n := by
  fun_induction digits n with
  | case1 n h => simpa [value] using digitValue_digit n h
  | case2 n h ih =>
      have last := digitValue_digit (n % 10) (Nat.mod_lt _ (by omega))
      simp only [value, List.foldl_append, List.foldl_cons, List.foldl_nil] at ih ⊢
      rw [ih, last]
      omega

theorem read?_digits (n : Nat)
    : read? (digits n) = some n := by
  simp [read?, digits_ne_nil, all_isDigit_digits, value_digits]

/-- One past the largest line number. -/
def wordLimit : Nat :=
  0x10000000000000000

/-- An unsigned 64-bit numeral; a plus sign may stand in front of it. -/
def readWord? (s : String) : Option Nat :=
  let unsigned :=
    match s.toList with
    | '+' :: rest => rest
    | text => text
  (read? unsigned).filter (· < wordLimit)

/-- A signed 32-bit numeral. -/
def readInt32? (text : List Char) : Option Int :=
  let signed : Option Int :=
    match text with
    | '-' :: rest => (read? rest).map (fun n => -(n : Int))
    | '+' :: rest => (read? rest).map (fun n => (n : Int))
    | _ => (read? text).map (fun n => (n : Int))
  signed.filter (fun n => -0x80000000 ≤ n ∧ n < 0x80000000)

theorem toList_writeInt_negSucc (n : Nat)
    : (writeInt (.negSucc n)).toList = '-' :: digits (n + 1) := by
  simp [writeInt]

/-- A signed 32-bit number that is written is read back. -/
theorem readInt32?_writeInt {n : Int} (low : -0x80000000 ≤ n) (high : n < 0x80000000)
    : readInt32? (writeInt n).toList = some n := by
  cases n with
  | ofNat n =>
      have unsigned : readInt32? (digits n)
          = ((read? (digits n)).map (fun n => (n : Int))).filter
              (fun n => -0x80000000 ≤ n ∧ n < 0x80000000) := by
        rw [readInt32?]
        · exact fun rest => digits_ne_cons n (by decide) rest
        · exact fun rest => digits_ne_cons n (by decide) rest
      rw [writeInt, toList_write, unsigned, read?_digits]
      simpa using high
  | negSucc n =>
      rw [toList_writeInt_negSucc, readInt32?, read?_digits]
      simpa [low, high] using (Int.negSucc_eq n).symm

theorem writeInt_chars {n : Int} {c : Char} (member : c ∈ (writeInt n).toList)
    : c = '-' ∨ isDigit c = true := by
  cases n with
  | ofNat n =>
      rw [writeInt, toList_write] at member
      exact .inr (isDigit_of_mem_digits member)
  | negSucc n =>
      rw [toList_writeInt_negSucc] at member
      exact (List.mem_cons.mp member).imp_right isDigit_of_mem_digits

end CellRunner.Text.Decimal
