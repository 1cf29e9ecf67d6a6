import Mathlib.Algebra.BigOperators.Field
import Mathlib.Algebra.Order.BigOperators.Group.Finset
import Mathlib.Algebra.Order.Field.Basic
import Mathlib.Algebra.BigOperators.Fin

/-
  The mean of a window of values. It is a constant on windows
  with one value, and monotone, so it lies between all bounds
  of the window.

  Key definitions include:
    * `mean`

  Key theorems include:
    * `mean_const`
    * `mean_le_mean`
    * `mean_lt_mean`
    * `foldl_div_eq_mean`
-/

------------------------------------------------------------
-- Means
------------------------------------------------------------

namespace Foundations

open scoped BigOperators

variable {K : Type}
variable [Field K]
variable {n : Nat}

def mean
    (window : Fin n → K) :
    K :=
  (∑ i, window i) / n

/- The values may be added up from the first one on. -/
theorem foldl_div_eq_mean
    (window : Fin n → K) :
    (List.ofFn window).foldl (fun sum x => sum + x) 0 / n =
      mean window := by
  have hSum :
      (List.ofFn window).sum =
        (List.ofFn window).foldl (fun sum x => sum + x) 0 :=
    List.sum_eq_foldl
  rw [mean, ← List.sum_ofFn, hSum]

variable [LinearOrder K]
variable [IsStrictOrderedRing K]
variable {window window' : Fin n → K}

/- The mean of one value. -/
theorem mean_const
    (hPos : 0 < n)
    (x : K) :
    mean (fun _ : Fin n => x) = x := by
  have hNe : (n : K) ≠ 0 :=
    Nat.cast_ne_zero.mpr (Nat.ne_of_gt hPos)
  rw [mean, Finset.sum_const, Finset.card_univ,
    Fintype.card_fin, nsmul_eq_mul]
  exact mul_div_cancel_left₀ x hNe

theorem mean_le_mean
    (hLe : ∀ i, window i ≤ window' i) :
    mean window ≤ mean window' := by
  have hSum : ∑ i, window i ≤ ∑ i, window' i :=
    Finset.sum_le_sum (fun i _ => hLe i)
  exact div_le_div_of_nonneg_right hSum (Nat.cast_nonneg n)

theorem mean_lt_mean
    (hPos : 0 < n)
    (hLt : ∀ i, window i < window' i) :
    mean window < mean window' := by
  have hSome : (Finset.univ : Finset (Fin n)).Nonempty :=
    ⟨⟨0, hPos⟩, Finset.mem_univ _⟩
  have hSum : ∑ i, window i < ∑ i, window' i :=
    Finset.sum_lt_sum_of_nonempty hSome (fun i _ => hLt i)
  exact div_lt_div_of_pos_right hSum (Nat.cast_pos.mpr hPos)

end Foundations
