import CellRunner.Files.Path
import Mathlib.Data.List.Lex
import Mathlib.Order.Compare

/-!
The order of files by depth: fewer components first, and then the first component that differs
decides. Of two paths with different components one always precedes the other, so a list of
such paths can be in order in one way only.
-/

namespace CellRunner.Path

/-- The root goes before `.`, this before `..`, and all before names, which are in the order of
their code points. -/
inductive Component.Before : Component → Component → Prop where
  | rank {a b} (lower : a.rank < b.rank) : Component.Before a b
  | name {s t} (before : s < t) : Component.Before (.name s) (.name t)

/-- The order of files: by the number of components, then component by component. -/
def Precedes (a b : String) : Prop :=
  (components a).length < (components b).length
  ∨ (components a).length = (components b).length
    ∧ List.Lex Component.Before (components a) (components b)

/-- Components of one rank are the same, or they are names. -/
theorem Component.eq_or_names {a b : Component} (same : a.rank = b.rank)
    : a = b ∨ ∃ s t, a = .name s ∧ b = .name t := by
  cases a <;> cases b <;> simp_all [Component.rank]

/-- Components are compared by their kinds and then by their names, by cases on both. -/
theorem Component.order_eq_lt_iff {a b : Component}
    : a.order b = .lt ↔ Component.Before a b := by
  rw [Component.order, Ordering.then_eq_lt, Nat.compare_eq_lt, Nat.compare_eq_eq]
  constructor
  · rintro (lower | ⟨same, before⟩)
    · exact .rank lower
    · have texts : a.text < b.text := compareOfLessAndEq_eq_lt.mp before
      rcases Component.eq_or_names same with rfl | ⟨s, t, rfl, rfl⟩
      · exact absurd texts (String.lt_irrefl _)
      · exact .name texts
  · rintro (lower | before)
    · exact .inl lower
    · exact .inr ⟨rfl, compareOfLessAndEq_eq_lt.mpr before⟩

/-- Components compare as equal if they are equal, by cases on both. -/
theorem Component.order_eq_eq_iff {a b : Component}
    : a.order b = .eq ↔ a = b := by
  constructor
  · intro same
    obtain ⟨rank, text⟩ := Ordering.then_eq_eq.mp same
    rcases Component.eq_or_names (Nat.compare_eq_eq.mp rank) with equal | ⟨s, t, rfl, rfl⟩
    · exact equal
    · exact congrArg Component.name (Std.LawfulEqCmp.eq_of_compare text)
  · rintro rfl
    exact Ordering.then_eq_eq.mpr ⟨Std.ReflCmp.compare_self, Std.ReflCmp.compare_self⟩

instance : Std.TransCmp Component.order :=
  inferInstanceAs
    (Std.TransCmp (compareLex (compareOn Component.rank) (compareOn Component.text)))

/-- Paths are compared component by component, by induction on both. -/
theorem orderComponents_eq_compareLex
    : orderComponents = List.compareLex Component.order := by
  funext as bs
  induction as generalizing bs with
  | nil => cases bs <;> rfl
  | cons a as ih =>
      cases bs with
      | nil => rfl
      | cons b bs => rw [orderComponents, List.compareLex_cons_cons, ih]

/-- A path comes before another if it does so lexicographically, by the library order. -/
theorem orderComponents_eq_lt_iff {as bs : List Component}
    : orderComponents as bs = .lt ↔ List.Lex Component.Before as bs := by
  induction as generalizing bs with
  | nil =>
      cases bs with
      | nil => simp [orderComponents]
      | cons b bs => simp [orderComponents]
  | cons a as ih =>
      cases bs with
      | nil => simp [orderComponents]
      | cons b bs =>
          rw [orderComponents, Ordering.then_eq_lt, Component.order_eq_lt_iff,
            Component.order_eq_eq_iff, ih]
          constructor
          · rintro (before | ⟨rfl, later⟩)
            · exact .rel before
            · exact .cons later
          · rintro (_ | before | later)
            · exact .inl before
            · exact .inr ⟨rfl, later⟩

/-- Paths compare as equal if their components are equal, by the library order. -/
theorem orderComponents_eq_eq_iff {as bs : List Component}
    : orderComponents as bs = .eq ↔ as = bs := by
  induction as generalizing bs with
  | nil => cases bs <;> simp [orderComponents]
  | cons a as ih =>
      cases bs <;> simp [orderComponents, Ordering.then_eq_eq, Component.order_eq_eq_iff, ih]

/-- A file comes before another by depth and then by its path, by cases on the depths. -/
theorem depthOrder_eq_lt_iff {a b : String}
    : depthOrder a b = .lt ↔ Precedes a b := by
  rw [depthOrder, Ordering.then_eq_lt, Nat.compare_eq_lt, Nat.compare_eq_eq,
    orderComponents_eq_lt_iff, Precedes]

/-- Files compare as equal if their components are equal, as these have one depth. -/
theorem depthOrder_eq_eq_iff {a b : String}
    : depthOrder a b = .eq ↔ components a = components b := by
  rw [depthOrder, Ordering.then_eq_eq, orderComponents_eq_eq_iff, Nat.compare_eq_eq]
  constructor
  · exact And.right
  · intro same
    exact ⟨congrArg List.length same, same⟩

/-- The order is the one of the components, by their number and then one by one. -/
theorem depthOrder_eq (a b : String)
    : depthOrder a b
      = compareLex (compareOn List.length) orderComponents (components a) (components b) :=
  rfl

instance : Std.TransCmp orderComponents :=
  orderComponents_eq_compareLex ▸ inferInstanceAs (Std.TransCmp (List.compareLex _))

instance : Std.TransCmp depthOrder where
  eq_swap := by
    intro a b
    rw [depthOrder_eq, depthOrder_eq]
    exact Std.OrientedCmp.eq_swap
  isLE_trans := by
    intro a b c
    rw [depthOrder_eq, depthOrder_eq, depthOrder_eq]
    exact Std.TransCmp.isLE_trans

/-- Comparing files the other way round turns the order around. -/
theorem depthOrder_eq_swap (a b : String)
    : depthOrder a b = (depthOrder b a).swap :=
  Std.OrientedCmp.eq_swap

/-- No two files precede each other, by turning the order around. -/
theorem Precedes.asymm {a b : String} (h : Precedes a b)
    : ¬ Precedes b a := by
  rw [← depthOrder_eq_lt_iff] at h ⊢
  rw [depthOrder_eq_swap, h]
  simp

/-- No file precedes itself. -/
theorem Precedes.ne {a b : String} (h : Precedes a b)
    : a ≠ b := by
  rintro rfl
  exact h.asymm h

/-- Sorted by depth, paths with different components stand in the order of files. -/
theorem pairwise_precedes {paths : List String}
    (distinct : paths.Pairwise (fun a b => components a ≠ components b))
    : (paths.mergeSort (fun a b => (depthOrder a b).isLE)).Pairwise Precedes := by
  have sorted : (paths.mergeSort (fun a b => (depthOrder a b).isLE)).Pairwise
      (fun a b => (depthOrder a b).isLE) := by
    apply List.pairwise_mergeSort
    · exact fun _ _ _ => Std.TransCmp.isLE_trans
    · intro a b
      rw [depthOrder_eq_swap a b]
      cases depthOrder b a <;> simp
  have different : (paths.mergeSort (fun a b => (depthOrder a b).isLE)).Pairwise
      (fun a b => components a ≠ components b) :=
    ((List.mergeSort_perm _ _).pairwise_iff Ne.symm).mpr distinct
  refine (sorted.and different).imp fun {a b} both => ?_
  obtain ⟨atMost, apart⟩ := both
  rw [← depthOrder_eq_lt_iff]
  cases found : depthOrder a b with
  | lt => rfl
  | eq => exact absurd (depthOrder_eq_eq_iff.mp found) apart
  | gt => simp [found] at atMost

/-- Paths can be in the order of files in one way only. -/
theorem eq_of_precedes {paths others : List String} (perm : paths.Perm others)
    (ordered : paths.Pairwise Precedes) (otherwise : others.Pairwise Precedes)
    : paths = others :=
  perm.eq_of_pairwise (fun _ _ _ _ first second => absurd second first.asymm) ordered otherwise

end CellRunner.Path
