/-
  Foundation/Rotation.lean --- rotations of space from sines and cosines.

  An angle enters only through its sine `s` and its cosine `c`, two elements of a
  commutative ring with `s ^ 2 + c ^ 2 = 1`.  The rotations about the three axes are
  elements of the special orthogonal group, and so are their products; a rotation
  followed by a translation keeps squared distances.
-/
import Mathlib.LinearAlgebra.Matrix.Determinant.Basic
import Mathlib.LinearAlgebra.Matrix.Notation
import Mathlib.LinearAlgebra.UnitaryGroup
import Mathlib.Tactic.LinearCombination

set_option autoImplicit false

namespace RoboRacer.Foundation

open Matrix

variable {R : Type} [CommRing R]

/-! ## The rotations about the axes -/

/-- The rotation about the first axis. -/
def rotX (s c : R) : Matrix (Fin 3) (Fin 3) R :=
  !![1, 0, 0; 0, c, -s; 0, s, c]

/-- The rotation about the second axis. -/
def rotY (s c : R) : Matrix (Fin 3) (Fin 3) R :=
  !![c, 0, s; 0, 1, 0; -s, 0, c]

/-- The rotation about the third axis. -/
def rotZ (s c : R) : Matrix (Fin 3) (Fin 3) R :=
  !![c, -s, 0; s, c, 0; 0, 0, 1]

/-- A turn by the angle 0, whose sine is 0 and whose cosine is 1. -/
theorem rotX_zero_one : rotX (0 : R) 1 = 1 := by
  ext i j
  fin_cases i <;> fin_cases j <;> simp [rotX]

theorem rotY_zero_one : rotY (0 : R) 1 = 1 := by
  ext i j
  fin_cases i <;> fin_cases j <;> simp [rotY]

theorem rotZ_zero_one : rotZ (0 : R) 1 = 1 := by
  ext i j
  fin_cases i <;> fin_cases j <;> simp [rotZ]

section Axes

variable {s c : R}

theorem rotX_mem (h : s ^ 2 + c ^ 2 = 1) : rotX s c ∈ specialOrthogonalGroup (Fin 3) R := by
  refine mem_specialOrthogonalGroup_iff.mpr ⟨(mem_orthogonalGroup_iff' (Fin 3) R).mpr ?_, ?_⟩
  · ext i j
    fin_cases i <;> fin_cases j <;>
      simp [rotX, Matrix.mul_apply, Fin.sum_univ_three] <;> grind
  · rw [det_fin_three]
    simp [rotX]
    linear_combination h

theorem rotY_mem (h : s ^ 2 + c ^ 2 = 1) : rotY s c ∈ specialOrthogonalGroup (Fin 3) R := by
  refine mem_specialOrthogonalGroup_iff.mpr ⟨(mem_orthogonalGroup_iff' (Fin 3) R).mpr ?_, ?_⟩
  · ext i j
    fin_cases i <;> fin_cases j <;>
      simp [rotY, Matrix.mul_apply, Fin.sum_univ_three] <;> grind
  · rw [det_fin_three]
    simp [rotY]
    linear_combination h

theorem rotZ_mem (h : s ^ 2 + c ^ 2 = 1) : rotZ s c ∈ specialOrthogonalGroup (Fin 3) R := by
  refine mem_specialOrthogonalGroup_iff.mpr ⟨(mem_orthogonalGroup_iff' (Fin 3) R).mpr ?_, ?_⟩
  · ext i j
    fin_cases i <;> fin_cases j <;>
      simp [rotZ, Matrix.mul_apply, Fin.sum_univ_three] <;> grind
  · rw [det_fin_three]
    simp [rotZ]
    linear_combination h

end Axes

/-! ## Distances -/

/-- The squared distance of two points. -/
def sqDist (v w : Fin 3 → R) : R :=
  (v - w) ⬝ᵥ (v - w)

theorem sqDist_eq (v w : Fin 3 → R) :
    sqDist v w = (v 0 - w 0) ^ 2 + (v 1 - w 1) ^ 2 + (v 2 - w 2) ^ 2 := by
  simp only [sqDist, dotProduct, Fin.sum_univ_three, Pi.sub_apply, sq]

theorem sqDist_smul (a : R) (v w : Fin 3 → R) : sqDist (a • v) (a • w) = a ^ 2 * sqDist v w := by
  simp only [sqDist_eq, Pi.smul_apply, smul_eq_mul]
  ring

/-- **Rigid motions.**  A rotation followed by a translation keeps squared distances. -/
theorem sqDist_rigid {M : Matrix (Fin 3) (Fin 3) R} (hM : Mᵀ * M = 1) (t v w : Fin 3 → R) :
    sqDist (M *ᵥ v + t) (M *ᵥ w + t) = sqDist v w := by
  have hdiff : M *ᵥ v + t - (M *ᵥ w + t) = M *ᵥ (v - w) := by
    rw [mulVec_sub]
    abel
  rw [sqDist, hdiff, dotProduct_mulVec, ← mulVec_transpose, mulVec_mulVec, hM, one_mulVec, sqDist]

end RoboRacer.Foundation
