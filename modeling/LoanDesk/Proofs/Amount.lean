import Mathlib.Algebra.Order.BigOperators.Group.List
import Mathlib.Algebra.Order.Field.Rat
import Mathlib.Algebra.Field.Rat
import Mathlib.Data.Finset.Max
import Mathlib.Order.Bounds.Basic
import LoanDesk.Amount

/-!
# Sums and means of amounts

There is a mean unless there are no amounts (`mean?_eq_none_iff`), and read with exact fractions it
lies between the least and the greatest of them (`exists_bounds_mean?`).
-/

namespace LoanDesk.Amount

/-- There is no mean exactly of no amounts. -/
lemma mean?_eq_none_iff {α : Type} [Amount α] {amounts : List α} :
    mean? amounts = none ↔ amounts = [] := by
  cases amounts with
  | nil => exact iff_of_true rfl rfl
  | cons x xs => exact iff_of_false nofun nofun

/-- Amounts are added up as a list of them is. -/
lemma sum_eq (amounts : List Rat) : sum amounts = amounts.sum := List.sum_eq_foldl.symm

/-- A mean is no less than a bound below all amounts. -/
lemma le_mean {amounts : List Rat} (some_amount : amounts ≠ []) {low : Rat}
    (bound : ∀ x ∈ amounts, low ≤ x) : low ≤ sum amounts / ofCount amounts.length := by
  have positive : (0 : Rat) < amounts.length := Nat.cast_pos.2 (List.length_pos_iff.2 some_amount)
  rw [sum_eq]
  refine (le_div_iff₀ positive).2 ?_
  calc low * amounts.length = amounts.length • low := by rw [nsmul_eq_mul, mul_comm]
    _ ≤ amounts.sum := List.card_nsmul_le_sum amounts low bound

/-- A mean is no greater than a bound above all amounts. -/
lemma mean_le {amounts : List Rat} (some_amount : amounts ≠ []) {high : Rat}
    (bound : ∀ x ∈ amounts, x ≤ high) : sum amounts / ofCount amounts.length ≤ high := by
  have positive : (0 : Rat) < amounts.length := Nat.cast_pos.2 (List.length_pos_iff.2 some_amount)
  rw [sum_eq]
  refine (div_le_iff₀ positive).2 ?_
  calc amounts.sum ≤ amounts.length • high := List.sum_le_card_nsmul amounts high bound
    _ = high * amounts.length := by rw [nsmul_eq_mul, mul_comm]

/-- The mean lies between the least and the greatest amount. -/
lemma exists_bounds_mean? {amounts : List Rat} (some_amount : amounts ≠ []) :
    ∃ mean least greatest, mean? amounts = some mean ∧
      IsLeast {x | x ∈ amounts} least ∧ IsGreatest {x | x ∈ amounts} greatest ∧
      least ≤ mean ∧ mean ≤ greatest := by
  have nonempty : amounts.toFinset.Nonempty := List.toFinset_nonempty_iff _ |>.2 some_amount
  have least := amounts.toFinset.isLeast_min' nonempty
  have greatest := amounts.toFinset.isGreatest_max' nonempty
  rw [List.coe_toFinset] at least greatest
  refine ⟨_, _, _, if_neg ?_, least, greatest, ?_, ?_⟩
  · rwa [List.isEmpty_iff]
  · exact le_mean some_amount fun x hx => least.2 hx
  · exact mean_le some_amount fun x hx => greatest.2 hx

end LoanDesk.Amount
