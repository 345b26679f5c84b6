/-
  Foundation/Moments.lean --- first and second moments of a list of vectors.

      | `mean`         | the sum of the vectors over their number              |
      | `secondMoment` | the sum of the squares `x xᵀ`                         |
      | `scatter`      | the same sum with every vector taken from the mean    |

  The mean is inside every slab that holds all vectors, the second moment is the
  scatter plus the square of the mean once for each vector, and the scatter is
  positive semidefinite.
-/
import Mathlib.Algebra.Order.BigOperators.Group.List
import Mathlib.Algebra.Order.Star.Real
import Mathlib.Data.Real.Basic
import Mathlib.LinearAlgebra.Matrix.PosDef
import Mathlib.Tactic.Abel
import Mathlib.Tactic.Linarith
import Mathlib.Tactic.Module

set_option autoImplicit false

namespace RoboRacer.Foundation

open Matrix

section Moments

variable {ι K : Type} [Field K]

/-- The average vector. -/
def mean (xs : List (ι → K)) : ι → K :=
  (xs.length : K)⁻¹ • xs.sum

/-- The sum of the squares `x xᵀ`. -/
def secondMoment (xs : List (ι → K)) : Matrix ι ι K :=
  (xs.map fun x => vecMulVec x x).sum

/-- The sum of the squares `(x - c) (x - c)ᵀ`. -/
def scatterAbout (c : ι → K) (xs : List (ι → K)) : Matrix ι ι K :=
  (xs.map fun x => vecMulVec (x - c) (x - c)).sum

/-- The squares about the mean. -/
def scatter (xs : List (ι → K)) : Matrix ι ι K :=
  scatterAbout (mean xs) xs

theorem list_sum_apply (xs : List (ι → K)) (i : ι) : xs.sum i = (xs.map fun x => x i).sum := by
  induction xs with
  | nil => rfl
  | cons x xs ih => rw [List.sum_cons, Pi.add_apply, ih, List.map_cons, List.sum_cons]

theorem length_smul_mean [CharZero K] {xs : List (ι → K)} (h : xs ≠ []) :
    (xs.length : K) • mean xs = xs.sum := by
  have hne : (xs.length : K) ≠ 0 := Nat.cast_ne_zero.mpr (by simpa using h)
  rw [mean, smul_smul, mul_inv_cancel₀ hne, one_smul]

/-- The squares about any vector, multiplied out. -/
theorem secondMoment_eq_scatterAbout (c : ι → K) (xs : List (ι → K)) :
    secondMoment xs + (xs.length : K) • vecMulVec c c =
      scatterAbout c xs + vecMulVec xs.sum c + vecMulVec c xs.sum := by
  induction xs with
  | nil => simp [secondMoment, scatterAbout]
  | cons x xs ih =>
    have hx : vecMulVec x x + vecMulVec c c =
        vecMulVec (x - c) (x - c) + vecMulVec x c + vecMulVec c x := by
      rw [sub_vecMulVec, vecMulVec_sub, vecMulVec_sub]
      abel
    simp only [secondMoment, scatterAbout] at ih ⊢
    rw [List.map_cons, List.map_cons, List.sum_cons, List.sum_cons, List.sum_cons,
      List.length_cons, Nat.cast_succ, add_smul, one_smul, add_vecMulVec, vecMulVec_add]
    calc vecMulVec x x + (xs.map fun y => vecMulVec y y).sum +
          ((xs.length : K) • vecMulVec c c + vecMulVec c c)
        = (vecMulVec x x + vecMulVec c c) + ((xs.map fun y => vecMulVec y y).sum +
            (xs.length : K) • vecMulVec c c) := by abel
      _ = _ := by
        rw [hx, ih]
        abel

/-- **The shift of the second moment** to the mean. -/
theorem secondMoment_eq [CharZero K] {xs : List (ι → K)} (h : xs ≠ []) :
    secondMoment xs = scatter xs + (xs.length : K) • vecMulVec (mean xs) (mean xs) := by
  have hmul := secondMoment_eq_scatterAbout (mean xs) xs
  rw [← length_smul_mean h, smul_vecMulVec, vecMulVec_smul] at hmul
  exact add_right_cancel (hmul.trans (by rw [scatter]))

end Moments

section Slab

variable {K : Type} [Field K] [LinearOrder K] [IsStrictOrderedRing K]

theorem sum_mem_slab {a b : K} {xs : List K} (hne : xs ≠ []) (h : ∀ x ∈ xs, a ≤ x ∧ x < b) :
    xs.length * a ≤ xs.sum ∧ xs.sum < xs.length * b := by
  induction xs with
  | nil => exact absurd rfl hne
  | cons x xs ih =>
    obtain ⟨hlow, hhigh⟩ := h x List.mem_cons_self
    rw [List.sum_cons, List.length_cons, Nat.cast_succ, add_mul, add_mul, one_mul, one_mul]
    by_cases hnil : xs = []
    · subst hnil
      simpa using h x List.mem_cons_self
    · obtain ⟨hlow', hhigh'⟩ := ih hnil fun y hy => h y (List.mem_cons_of_mem x hy)
      exact ⟨by linarith, by linarith⟩

/-- **The mean stays between the bounds of its numbers.** -/
theorem mean_mem_slab {ι : Type} {a b : K} {xs : List (ι → K)} (hne : xs ≠ []) {i : ι}
    (h : ∀ x ∈ xs, a ≤ x i ∧ x i < b) : a ≤ mean xs i ∧ mean xs i < b := by
  have hpos : (0 : K) < xs.length := Nat.cast_pos.mpr (List.length_pos_iff.mpr hne)
  have hcoord : ∀ y ∈ xs.map fun x => x i, a ≤ y ∧ y < b := by
    intro y hy
    obtain ⟨x, hx, rfl⟩ := List.mem_map.mp hy
    exact h x hx
  have hsum := sum_mem_slab (by simpa using hne) hcoord
  rw [List.length_map, ← list_sum_apply] at hsum
  have hmean : mean xs i = xs.sum i / xs.length := by
    rw [mean, Pi.smul_apply, smul_eq_mul, inv_mul_eq_div]
  rw [hmean, le_div_iff₀' hpos, div_lt_iff₀' hpos]
  exact hsum

end Slab

section PosDef

variable {ι : Type} [Fintype ι]

theorem scatterAbout_posSemidef (c : ι → ℝ) (xs : List (ι → ℝ)) :
    (scatterAbout c xs).PosSemidef := by
  induction xs with
  | nil => exact PosSemidef.zero
  | cons x xs ih =>
    have hx : (vecMulVec (x - c) (x - c)).PosSemidef := by
      simpa using posSemidef_vecMulVec_self_star (x - c)
    rw [scatterAbout, List.map_cons, List.sum_cons]
    exact hx.add ih

/-- A positive multiple of the identity plus a scatter. -/
theorem posDef_one_add_scatter [DecidableEq ι] {a : ℝ} (ha : 0 < a) (xs : List (ι → ℝ)) :
    (a • ((1 : Matrix ι ι ℝ) + scatter xs)).PosDef :=
  (PosDef.one.add_posSemidef (scatterAbout_posSemidef _ xs)).smul ha

end PosDef

end RoboRacer.Foundation
