/-
  Foundation/RotationAngles.lean --- the angles of a rotation from its matrix.

  A rotation is a turn about the first axis, then the second, then the third.  The
  third row and the first column of the matrix show the sines and cosines of the
  angles, all but one of them times the cosine of the second angle.  They give the
  matrix back, as long as this cosine is not 0.
-/
import Mathlib.Analysis.SpecialFunctions.Complex.Arg
import Mathlib.Topology.Algebra.Module.ModuleTopology
import RoboRacer.Foundation.Rotation

set_option autoImplicit false

namespace RoboRacer.Foundation

open Matrix

section Field

variable {K : Type} [Field K] {M : Matrix (Fin 3) (Fin 3) K}

/-- The cofactors of a rotation are its entries. -/
theorem adjugate_eq_transpose (hM : M ∈ specialOrthogonalGroup (Fin 3) K) : adjugate M = Mᵀ := by
  obtain ⟨horth, hdet⟩ := mem_specialOrthogonalGroup_iff.mp hM
  have hright : M * Mᵀ = 1 := (mem_orthogonalGroup_iff (Fin 3) K).mp horth
  calc adjugate M = adjugate M * (M * Mᵀ) := by rw [hright, Matrix.mul_one]
    _ = (adjugate M * M) * Mᵀ := (Matrix.mul_assoc ..).symm
    _ = Mᵀ := by rw [adjugate_mul, hdet, one_smul, Matrix.one_mul]

/-- The first column and the third row have length 1. -/
theorem sq_sum_eq_one (hM : M ∈ specialOrthogonalGroup (Fin 3) K) :
    M 0 0 ^ 2 + M 1 0 ^ 2 + M 2 0 ^ 2 = 1 ∧ M 2 0 ^ 2 + M 2 1 ^ 2 + M 2 2 ^ 2 = 1 := by
  obtain ⟨horth, -⟩ := mem_specialOrthogonalGroup_iff.mp hM
  have hcolumn := congrFun (congrFun ((mem_orthogonalGroup_iff' (Fin 3) K).mp horth) 0) 0
  have hrow := congrFun (congrFun ((mem_orthogonalGroup_iff (Fin 3) K).mp horth) 2) 2
  simp [Matrix.mul_apply, Fin.sum_univ_three] at hcolumn hrow
  exact ⟨by linear_combination hcolumn, by linear_combination hrow⟩

/-- **A rotation from its first column and its third row.** -/
theorem turns_of_entries (hM : M ∈ specialOrthogonalGroup (Fin 3) K) {c : K} (hc : c ≠ 0)
    (hsq : c ^ 2 = 1 - M 2 0 ^ 2) :
    rotZ (M 1 0 / c) (M 0 0 / c) * rotY (-M 2 0) c * rotX (M 2 1 / c) (M 2 2 / c) = M := by
  have hadj := adjugate_eq_transpose hM
  rw [adjugate_fin_three] at hadj
  have h01 := congrFun (congrFun hadj 1) 0
  have h02 := congrFun (congrFun hadj 2) 0
  have h11 := congrFun (congrFun hadj 1) 1
  have h12 := congrFun (congrFun hadj 2) 1
  simp at h01 h02 h11 h12
  ext i j
  -- the entries of the first column and of the third row need no cofactor
  fin_cases i <;> fin_cases j <;>
    simp [rotX, rotY, rotZ, Matrix.mul_apply, Fin.sum_univ_three] <;> field_simp
  · linear_combination h01 + M 2 0 * h12 - M 0 1 * hsq
  · linear_combination h02 - M 2 0 * h11 - M 0 2 * hsq
  · linear_combination h11 - M 2 0 * h02 - M 1 1 * hsq
  · linear_combination h12 + M 2 0 * h01 - M 1 2 * hsq

end Field

/-! ## Real angles -/

section Real

/-- `atan2`. -/
noncomputable def atan2 (y x : ℝ) : ℝ :=
  Complex.arg ⟨x, y⟩

theorem atan2_zero : atan2 0 0 = 0 :=
  Complex.arg_zero

theorem atan2_zero_one : atan2 0 1 = 0 :=
  Complex.arg_one

theorem sin_cos_atan2 {y x c : ℝ} (hc : 0 < c) (hsq : x ^ 2 + y ^ 2 = c ^ 2) :
    Real.sin (atan2 y x) = y / c ∧ Real.cos (atan2 y x) = x / c := by
  have hnorm : ‖(⟨x, y⟩ : ℂ)‖ = c := by
    rw [Complex.norm_eq_sqrt_sq_add_sq, hsq, Real.sqrt_sq hc.le]
  have hne : (⟨x, y⟩ : ℂ) ≠ 0 := by
    intro hzero
    rw [hzero, norm_zero] at hnorm
    exact hc.ne hnorm
  exact ⟨by rw [atan2, Complex.sin_arg, hnorm], by rw [atan2, Complex.cos_arg hne, hnorm]⟩

/-- The turns by the angles of five entries of a matrix. -/
noncomputable def turnsFrom (m₁₀ m₀₀ m₂₀ m₂₁ m₂₂ : ℝ) : Matrix (Fin 3) (Fin 3) ℝ :=
  rotZ (Real.sin (atan2 m₁₀ m₀₀)) (Real.cos (atan2 m₁₀ m₀₀)) *
    rotY (Real.sin (Real.arcsin (-m₂₀))) (Real.cos (Real.arcsin (-m₂₀))) *
    rotX (Real.sin (atan2 m₂₁ m₂₂)) (Real.cos (atan2 m₂₁ m₂₂))

variable {M : Matrix (Fin 3) (Fin 3) ℝ}

/-- **The angles give the rotation back** unless the second one is a quarter turn; then they give
the turn about the second axis. -/
theorem turnsFrom_eq (hM : M ∈ specialOrthogonalGroup (Fin 3) ℝ) :
    (M 2 0 ^ 2 ≠ 1 → turnsFrom (M 1 0) (M 0 0) (M 2 0) (M 2 1) (M 2 2) = M) ∧
      (M 2 0 ^ 2 = 1 →
        turnsFrom (M 1 0) (M 0 0) (M 2 0) (M 2 1) (M 2 2) = rotY (-M 2 0) 0) := by
  obtain ⟨hcolumn, hrow⟩ := sq_sum_eq_one hM
  have hbound : M 2 0 ^ 2 ≤ 1 := by nlinarith [sq_nonneg (M 0 0), sq_nonneg (M 1 0)]
  obtain ⟨hlow, hhigh⟩ := abs_le.mp (abs_le_one_iff_mul_self_le_one.mpr ((sq (M 2 0)) ▸ hbound))
  have hsin : Real.sin (Real.arcsin (-M 2 0)) = -M 2 0 :=
    Real.sin_arcsin (by linarith) (by linarith)
  have hcos : Real.cos (Real.arcsin (-M 2 0)) = √(1 - M 2 0 ^ 2) := by
    rw [Real.cos_arcsin, neg_sq]
  constructor
  · intro hne
    have hpos : 0 < √(1 - M 2 0 ^ 2) :=
      Real.sqrt_pos.mpr (sub_pos.mpr (lt_of_le_of_ne hbound hne))
    have hsq : √(1 - M 2 0 ^ 2) ^ 2 = 1 - M 2 0 ^ 2 := Real.sq_sqrt (by linarith)
    obtain ⟨hsz, hcz⟩ := sin_cos_atan2 (y := M 1 0) (x := M 0 0) hpos (by linarith)
    obtain ⟨hsx, hcx⟩ := sin_cos_atan2 (y := M 2 1) (x := M 2 2) hpos (by linarith)
    rw [turnsFrom, hsin, hcos, hsz, hcz, hsx, hcx]
    exact turns_of_entries hM hpos.ne' hsq
  · intro hlock
    have hzero : ∀ a b : ℝ, a ^ 2 + b ^ 2 = 0 → a = 0 ∧ b = 0 := by
      intro a b h
      constructor <;> nlinarith [sq_nonneg a, sq_nonneg b]
    obtain ⟨h00, h10⟩ := hzero (M 0 0) (M 1 0) (by linarith)
    obtain ⟨h21, h22⟩ := hzero (M 2 1) (M 2 2) (by linarith)
    rw [turnsFrom, hsin, hcos, hlock, sub_self, Real.sqrt_zero, h00, h10, h21, h22, atan2_zero,
      Real.sin_zero, Real.cos_zero, rotZ_zero_one, rotX_zero_one, Matrix.one_mul, Matrix.mul_one]

end Real

end RoboRacer.Foundation
