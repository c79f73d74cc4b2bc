import Mathlib
import Flipbook.Number.Scalar

/-!
The rationals as scalars, and the exact value of a double. Over the rationals division is refused
only by zero itself, and the lesser and the greater number are the minimum and the maximum.
-/
namespace Flipbook

instance : Scalar ℚ where
  decidableLE := inferInstance
  decidableLT := inferInstance

/-- The exact value of a finite number, and zero for any other. -/
def Binary64.toRat : Binary64 → ℚ
  | finite negative x => (if negative then -1 else 1) * x.significand * (2 : ℚ) ^ x.exponent
  | _ => 0

namespace Scalar

theorem isZero_iff {x : ℚ} : isZero x = true ↔ x = 0 := by
  simp only [isZero, Bool.and_eq_true, decide_eq_true_eq]
  constructor
  · intro h
    exact le_antisymm h.1 h.2
  · rintro rfl
    exact ⟨le_rfl, le_rfl⟩

theorem isZero_eq_false {x : ℚ} (h : x ≠ 0) : isZero x = false := by
  rw [Bool.eq_false_iff, ne_eq, isZero_iff]
  exact h

theorem least_eq_min (x y : ℚ) : least x y = min x y := by
  unfold least
  by_cases h : y < x
  · rw [if_pos h, min_eq_right h.le]
  · rw [if_neg h, min_eq_left (not_lt.mp h)]

theorem greatest_eq_max (x y : ℚ) : greatest x y = max x y := by
  unfold greatest
  by_cases h : x < y
  · rw [if_pos h, max_eq_right h.le]
  · rw [if_neg h, max_eq_left (not_lt.mp h)]

end Scalar

end Flipbook
