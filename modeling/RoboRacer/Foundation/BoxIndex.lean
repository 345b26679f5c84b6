/-
  Foundation/BoxIndex.lean --- the offset of a cell in a box of cells.

  A box has `d₀` cells along the first axis, `d₁` along the second and `d₂` along
  the third.  The offset runs along the first axis fastest; inside the box it is
  a number below `d₀ * d₁ * d₂`, and no two cells share it.
-/
import Mathlib.Algebra.Order.Ring.Int
import Mathlib.Tactic.Linarith
import Mathlib.Tactic.Ring

set_option autoImplicit false

namespace RoboRacer.Foundation

/-- The offset of the cell `(i, j, k)`. -/
def boxIndex (d₀ d₁ i j k : ℤ) : ℤ :=
  i + j * d₀ + k * (d₀ * d₁)

/-- A lowest digit and the rest of a number determine one another. -/
theorem digit_unique {d i i' q q' : ℤ} (hi : 0 ≤ i ∧ i < d) (hi' : 0 ≤ i' ∧ i' < d)
    (h : i + q * d = i' + q' * d) : i = i' ∧ q = q' := by
  have hmod : i = i' := by
    have := congrArg (· % d) h
    simpa [Int.add_mul_emod_self_right, Int.emod_eq_of_lt hi.1 hi.2,
      Int.emod_eq_of_lt hi'.1 hi'.2] using this
  subst hmod
  have hd : d ≠ 0 := by omega
  exact ⟨rfl, Int.eq_of_mul_eq_mul_right hd (by linarith)⟩

theorem boxIndex_eq (d₀ d₁ i j k : ℤ) : boxIndex d₀ d₁ i j k = i + (j + k * d₁) * d₀ := by
  rw [boxIndex]
  ring

section Box

variable {d₀ d₁ d₂ i j k : ℤ}

theorem boxIndex_nonneg (hi : 0 ≤ i ∧ i < d₀) (hj : 0 ≤ j ∧ j < d₁) (hk : 0 ≤ k ∧ k < d₂) :
    0 ≤ boxIndex d₀ d₁ i j k := by
  have hd₀ : 0 ≤ d₀ := by omega
  have hd₁ : 0 ≤ d₁ := by omega
  have hrest : 0 ≤ j + k * d₁ := Int.add_nonneg hj.1 (Int.mul_nonneg hk.1 hd₁)
  rw [boxIndex_eq]
  exact Int.add_nonneg hi.1 (Int.mul_nonneg hrest hd₀)

theorem boxIndex_lt (hi : 0 ≤ i ∧ i < d₀) (hj : 0 ≤ j ∧ j < d₁) (hk : 0 ≤ k ∧ k < d₂) :
    boxIndex d₀ d₁ i j k < d₀ * d₁ * d₂ := by
  have hd₀ : 0 ≤ d₀ := by omega
  have hd₁ : 0 ≤ d₁ := by omega
  have hrest : j + k * d₁ + 1 ≤ d₂ * d₁ := by
    have : (k + 1) * d₁ ≤ d₂ * d₁ := Int.mul_le_mul_of_nonneg_right (by omega) hd₁
    linarith [hj.2]
  have hrow : (j + k * d₁ + 1) * d₀ ≤ d₂ * d₁ * d₀ :=
    Int.mul_le_mul_of_nonneg_right hrest hd₀
  rw [boxIndex_eq]
  calc i + (j + k * d₁) * d₀ < d₀ + (j + k * d₁) * d₀ := by linarith [hi.2]
    _ = (j + k * d₁ + 1) * d₀ := by ring
    _ ≤ d₂ * d₁ * d₀ := hrow
    _ = d₀ * d₁ * d₂ := by ring

/-- **No aliasing.**  Cells whose first two coordinates are inside the box and that have one
offset are one cell. -/
theorem boxIndex_injective {i' j' k' : ℤ} (hi : 0 ≤ i ∧ i < d₀) (hi' : 0 ≤ i' ∧ i' < d₀)
    (hj : 0 ≤ j ∧ j < d₁) (hj' : 0 ≤ j' ∧ j' < d₁)
    (h : boxIndex d₀ d₁ i j k = boxIndex d₀ d₁ i' j' k') : i = i' ∧ j = j' ∧ k = k' := by
  rw [boxIndex_eq, boxIndex_eq] at h
  obtain ⟨hfirst, hrest⟩ := digit_unique hi hi' h
  obtain ⟨hsecond, hthird⟩ := digit_unique hj hj' hrest
  exact ⟨hfirst, hsecond, hthird⟩

end Box

end RoboRacer.Foundation
