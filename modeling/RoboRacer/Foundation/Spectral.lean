/-
  Foundation/Spectral.lean --- eigenvalues and eigenvectors of a real symmetric matrix.

  `Spectral V d M` says that the columns of `V` are orthonormal eigenvectors of `M`
  with the eigenvalues `d`.  The matrix is positive definite exactly when all
  eigenvalues are positive, and every symmetric matrix has such a description with
  its eigenvalues in ascending order.
-/
import Mathlib.Algebra.Order.Star.Real
import Mathlib.Analysis.Matrix.Spectrum
import Mathlib.Data.Fin.Tuple.Sort
import Mathlib.LinearAlgebra.Matrix.PosDef

set_option autoImplicit false

namespace RoboRacer.Foundation

open Matrix

/-- Orthonormal eigenvectors and their eigenvalues. -/
structure Spectral {ι : Type} [Fintype ι] [DecidableEq ι] (V : Matrix ι ι ℝ) (d : ι → ℝ)
    (M : Matrix ι ι ℝ) : Prop where
  orthonormal : Vᵀ * V = 1
  decomposition : V * diagonal d * Vᵀ = M

section Spectral

variable {ι : Type} {V : Matrix ι ι ℝ} {d : ι → ℝ} {M : Matrix ι ι ℝ}

theorem isSymm_of_posDef (hM : M.PosDef) : M.IsSymm := by
  simpa [IsSymm, IsHermitian] using hM.isHermitian

variable [Fintype ι] [DecidableEq ι]

theorem isUnit_of_orthonormal (hV : Vᵀ * V = 1) : IsUnit V :=
  IsUnit.of_mul_eq_one_right _ hV

/-- Seen in the basis of its eigenvectors the matrix is diagonal. -/
theorem Spectral.conj_eq_diagonal (h : Spectral V d M) : Vᵀ * M * V = diagonal d := by
  calc Vᵀ * M * V = Vᵀ * (V * diagonal d * Vᵀ) * V := by rw [h.decomposition]
    _ = (Vᵀ * V) * diagonal d * (Vᵀ * V) := by simp only [Matrix.mul_assoc]
    _ = diagonal d := by rw [h.orthonormal, Matrix.one_mul, Matrix.mul_one]

theorem Spectral.posDef (h : Spectral V d M) (hd : ∀ i, 0 < d i) : M.PosDef := by
  have hinj : Function.Injective Vᵀ.mulVec :=
    mulVec_injective_of_isUnit (IsUnit.of_mul_eq_one _ h.orthonormal)
  have hdiag : (diagonal d).PosDef := posDef_diagonal_iff.mpr hd
  have hconj := hdiag.conjTranspose_mul_mul_same hinj
  rwa [conjTranspose_eq_transpose_of_trivial, transpose_transpose, h.decomposition] at hconj

theorem Spectral.pos_of_posDef (h : Spectral V d M) (hM : M.PosDef) (i : ι) : 0 < d i := by
  have hinj := mulVec_injective_of_isUnit (isUnit_of_orthonormal h.orthonormal)
  have hconj := hM.conjTranspose_mul_mul_same hinj
  rw [conjTranspose_eq_transpose_of_trivial, h.conj_eq_diagonal] at hconj
  exact posDef_diagonal_iff.mp hconj i

theorem Spectral.nonneg_of_posSemidef (h : Spectral V d M) (hM : M.PosSemidef) (i : ι) :
    0 ≤ d i := by
  have hconj := hM.conjTranspose_mul_mul_same V
  rw [conjTranspose_eq_transpose_of_trivial, h.conj_eq_diagonal] at hconj
  exact posSemidef_diagonal_iff.mp hconj i

/-- The same eigenvectors in another order. -/
theorem Spectral.permute (h : Spectral V d M) (σ : Equiv.Perm ι) :
    Spectral (V.submatrix id σ) (d ∘ σ) M := by
  constructor
  · rw [transpose_submatrix, ← submatrix_mul _ _ _ id _ Function.bijective_id, h.orthonormal,
      submatrix_one_equiv]
  · rw [← submatrix_diagonal_equiv, transpose_submatrix,
      ← submatrix_mul _ _ _ σ _ σ.bijective, ← submatrix_mul _ _ _ σ _ σ.bijective,
      h.decomposition, submatrix_id_id]

/-- **Every symmetric matrix** has eigenvectors with ascending eigenvalues. -/
theorem exists_spectral_monotone {n : ℕ} {M : Matrix (Fin n) (Fin n) ℝ} (hM : M.IsSymm) :
    ∃ V d, Spectral V d M ∧ Monotone d := by
  have hherm : M.IsHermitian := by simpa [IsSymm, IsHermitian] using hM
  have hspectral : Spectral (hherm.eigenvectorUnitary : Matrix (Fin n) (Fin n) ℝ)
      hherm.eigenvalues M := by
    constructor
    · rw [← conjTranspose_eq_transpose_of_trivial, ← star_eq_conjTranspose]
      exact Unitary.coe_star_mul_self _
    · have hdecomp := hherm.spectral_theorem
      rw [Unitary.conjStarAlgAut_apply] at hdecomp
      rw [← conjTranspose_eq_transpose_of_trivial, ← star_eq_conjTranspose]
      exact hdecomp.symm
  exact ⟨_, _, hspectral.permute (Tuple.sort hherm.eigenvalues), Tuple.monotone_sort _⟩

end Spectral

end RoboRacer.Foundation
