import CellRunner.Json.Token
import Mathlib.Data.List.TakeWhile

/-!
Written whole numbers are JSON numerals. They have no leading zero, and a number of the size of a
machine word is far from the largest double-precision number.
-/

namespace CellRunner

namespace Text

theorem Decimal.head?_digits {n : Nat} (positive : 0 < n)
    : (Decimal.digits n).head? ≠ some '0' := by
  fun_induction Decimal.digits n with
  | case1 n small =>
      have all : ∀ m < 10, 0 < m → Decimal.digit m ≠ '0' := by decide
      simpa using all n small positive
  | case2 n large ih =>
      obtain ⟨first, rest, front⟩ := List.exists_cons_of_ne_nil (Decimal.digits_ne_nil (n / 10))
      have nonzero := ih (by omega)
      rw [front] at nonzero ⊢
      exact nonzero

/-- Rounding to a double at most doubles a number. -/
theorem Binary64.nearest_le (n : Nat)
    : Binary64.nearest n ≤ 2 * n := by
  unfold Binary64.nearest
  split
  · omega
  · next large =>
      have positive : n ≠ 0 := by omega
      have unit : Nat.pow 2 (Nat.log2 n - 52) ≤ n :=
        Nat.le_trans (Nat.pow_le_pow_right (by decide) (Nat.sub_le _ _)) (Nat.log2_self_le positive)
      have whole := Nat.div_mul_le_self n (Nat.pow 2 (Nat.log2 n - 52))
      simp only
      split
      · omega
      · rw [Nat.add_mul]
        omega

end Text

namespace Json

/-- A numeral that the reader accepts, made of the characters that a numeral may have. -/
structure Numeral.Legible (numeral : String) : Prop where
  valid : Numeral.isValid numeral.toList = true
  chars
    : ∃ first rest,
        numeral.toList = first :: rest
        ∧ (first = '-' ∨ Text.Decimal.isDigit first = true)
        ∧ ∀ c ∈ rest, Token.isNumeralChar c = true

namespace Numeral

theorem addInteger_of_value {text : List Char} {start : Nat}
    (small : text.foldl (fun n c => n * 10 + Text.Decimal.digitValue c) start ≤ significandLimit)
    : text.foldl
          (fun scaled c =>
            let next := scaled.significand * 10 + Text.Decimal.digitValue c
            if scaled.exponent = 0 && next ≤ significandLimit then ⟨next, 0⟩
            else ⟨scaled.significand, scaled.exponent + 1⟩)
          (⟨start, 0⟩ : Scaled)
      = ⟨text.foldl (fun n c => n * 10 + Text.Decimal.digitValue c) start, 0⟩ := by
  induction text generalizing start with
  | nil => rfl
  | cons c rest ih =>
      have grows : ∀ (later : List Char) (n : Nat),
          n ≤ later.foldl (fun n c => n * 10 + Text.Decimal.digitValue c) n := by
        intro later
        induction later with
        | nil => exact fun n => Nat.le_refl n
        | cons d later ih =>
            intro n
            exact Nat.le_trans (by omega) (ih (n * 10 + Text.Decimal.digitValue d))
      simp only [List.foldl_cons] at small ⊢
      have next := Nat.le_trans (grows rest _) small
      simp only [decide_true, next, Bool.and_self, if_true]
      exact ih small

/-- A number that fits into a word keeps all its digits. -/
theorem addInteger_digits {n : Nat} (small : n ≤ significandLimit)
    : addInteger (Text.Decimal.digits n) = ⟨n, 0⟩ := by
  have whole := Text.Decimal.value_digits n
  rw [Text.Decimal.value] at whole
  refine (addInteger_of_value (by rw [whole]; exact small)).trans ?_
  rw [whole]

theorem isFinite_of_le {n : Nat} (small : n ≤ significandLimit)
    : (⟨n, 0⟩ : Scaled).isFinite = true := by
  have bound : 2 * significandLimit < Text.Binary64.overflow := by decide +kernel
  have rounded := Text.Binary64.nearest_le n
  have one : Text.Binary64.nearest (Nat.pow 10 (0 : Int).toNat) = 1 := by decide
  simp only [Scaled.isFinite, one, Nat.mul_one, Bool.or_eq_true, Bool.and_eq_true,
    decide_eq_true_eq]
  exact .inr ⟨by decide, by omega⟩

theorem readUnsigned?_digits {n : Nat} (small : n ≤ significandLimit)
    : readUnsigned? (Text.Decimal.digits n) = some ⟨n, 0⟩ := by
  have digits : ∀ c ∈ Text.Decimal.digits n, Text.Decimal.isDigit c = true :=
    fun c member => Text.Decimal.isDigit_of_mem_digits member
  have span : spanDigits (Text.Decimal.digits n) = (Text.Decimal.digits n, []) := by
    rw [spanDigits, List.takeWhile_eq_self_iff.mpr digits, List.dropWhile_eq_nil_iff.mpr digits]
  have proper : ((Text.Decimal.digits n).isEmpty || (Text.Decimal.digits n).head? = some '0'
      && 1 < (Text.Decimal.digits n).length) = false := by
    rcases Nat.eq_zero_or_pos n with rfl | positive
    · simp [Text.Decimal.digits]
    · simp [Text.Decimal.digits_ne_nil, Text.Decimal.head?_digits positive]
  simp only [readUnsigned?, span, proper, Bool.false_eq_true, if_false, readExponent?,
    addInteger_digits small]

theorem digits_cons (n : Nat)
    : ∃ first rest,
        Text.Decimal.digits n = first :: rest
        ∧ Text.Decimal.isDigit first = true
        ∧ ∀ c ∈ rest, Token.isNumeralChar c = true := by
  obtain ⟨first, rest, cut⟩ := List.exists_cons_of_ne_nil (Text.Decimal.digits_ne_nil n)
  have digit (c : Char) (member : c ∈ first :: rest) : Text.Decimal.isDigit c = true := by
    rw [← cut] at member
    exact Text.Decimal.isDigit_of_mem_digits member
  refine ⟨first, rest, cut, digit first List.mem_cons_self, ?_⟩
  intro c member
  simp [Token.isNumeralChar, digit c (List.mem_cons_of_mem _ member)]

/-- A written integer is legible if its magnitude fits into a word. -/
theorem legible_writeInt {n : Int} (small : n.natAbs ≤ significandLimit)
    : Legible (Text.Decimal.writeInt n) := by
  cases n with
  | ofNat n =>
      obtain ⟨first, rest, cut, digit, chars⟩ := digits_cons n
      have text : (Text.Decimal.writeInt (.ofNat n)).toList = Text.Decimal.digits n := by
        simp [Text.Decimal.writeInt]
      refine ⟨?_, first, rest, text.trans cut, .inr digit, chars⟩
      have word : n ≤ significandLimit := small
      rw [text, isValid]
      · simp [readUnsigned?_digits word, isFinite_of_le word]
      · exact Text.Decimal.digits_ne_cons n (by decide)
  | negSucc n =>
      have word : n + 1 ≤ significandLimit := small
      obtain ⟨first, rest, cut, digit, chars⟩ := digits_cons (n + 1)
      have text : (Text.Decimal.writeInt (.negSucc n)).toList
          = '-' :: Text.Decimal.digits (n + 1) := by
        simp [Text.Decimal.writeInt]
      refine ⟨?_, '-', _, text, .inl rfl, ?_⟩
      · rw [text, isValid]
        simp [readUnsigned?_digits word, isFinite_of_le word]
      · intro c member
        rw [cut] at member
        rcases List.mem_cons.mp member with rfl | later
        · simp [Token.isNumeralChar, digit]
        · exact chars c later

end Numeral

end Json

end CellRunner
