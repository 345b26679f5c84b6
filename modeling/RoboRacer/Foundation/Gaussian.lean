/-
  Foundation/Gaussian.lean --- a Gaussian along a path, and its two derivatives.

  `gaussian a b C y` is `a * exp (-b * (yᵀ C y) / 2)` for a symmetric matrix `C`.
  When `y` moves with velocity `v`, it changes at the rate `gaussianSlope`, which is
  again a Gaussian times `yᵀ C v`; when `v` moves with velocity `w` as well, that
  rate changes at the rate `gaussianCurvature`.

  The path may be a line in the space of the parameters, along which the derivative
  is made of the partial ones.
-/
import Mathlib.Algebra.Order.Star.Real
import Mathlib.Analysis.Calculus.Deriv.Pi
import Mathlib.Analysis.Calculus.Deriv.Prod
import Mathlib.Analysis.SpecialFunctions.ExpDeriv
import Mathlib.LinearAlgebra.Matrix.PosDef
import Mathlib.LinearAlgebra.Matrix.Symmetric
import Mathlib.Topology.Algebra.Module.ModuleTopology

set_option autoImplicit false

namespace RoboRacer.Foundation

open Matrix

variable {ι : Type} [Fintype ι]

/-- A Gaussian of height `a`. -/
noncomputable def gaussian (a b : ℝ) (C : Matrix ι ι ℝ) (y : ι → ℝ) : ℝ :=
  a * Real.exp (-b * (y ⬝ᵥ (C *ᵥ y)) / ((2 : ℕ) : ℝ))

theorem gaussian_eq (a b : ℝ) (C : Matrix ι ι ℝ) (y : ι → ℝ) :
    gaussian a b C y = a * Real.exp (-b * (y ⬝ᵥ (C *ᵥ y)) / 2) := by
  rw [gaussian, Nat.cast_ofNat]

/-- The derivative along a velocity `v`. -/
noncomputable def gaussianSlope (a b : ℝ) (C : Matrix ι ι ℝ) (y v : ι → ℝ) : ℝ :=
  -(b * gaussian a b C y * (y ⬝ᵥ (C *ᵥ v)))

/-- The derivative of the slope along `u`, when `v` changes at the rate `w`. -/
noncomputable def gaussianCurvature (a b : ℝ) (C : Matrix ι ι ℝ) (y u v w : ι → ℝ) : ℝ :=
  -(b * gaussian a b C y *
    (-b * (y ⬝ᵥ (C *ᵥ u)) * (y ⬝ᵥ (C *ᵥ v)) + y ⬝ᵥ (C *ᵥ w) + u ⬝ᵥ (C *ᵥ v)))

/-- A change of the second derivative of the path. -/
theorem gaussianCurvature_add (a b : ℝ) (C : Matrix ι ι ℝ) (y u v w w' : ι → ℝ) :
    gaussianCurvature a b C y u v (w + w') =
      gaussianCurvature a b C y u v w + gaussianSlope a b C y w' := by
  rw [gaussianCurvature, gaussianCurvature, gaussianSlope, mulVec_add, dotProduct_add]
  ring

section Bounds

variable {a b : ℝ} {C : Matrix ι ι ℝ}

theorem quadratic_nonneg (hC : C.PosDef) (y : ι → ℝ) : 0 ≤ y ⬝ᵥ (C *ᵥ y) := by
  simpa using hC.posSemidef.dotProduct_mulVec_nonneg y

/-- The exponential of a Gaussian with a positive definite matrix is at most one. -/
theorem exp_quadratic_le_one (hb : 0 ≤ b) (hC : C.PosDef) (y : ι → ℝ) :
    Real.exp (-b * (y ⬝ᵥ (C *ᵥ y)) / 2) ≤ 1 := by
  have hprod : 0 ≤ b * (y ⬝ᵥ (C *ᵥ y)) := mul_nonneg hb (quadratic_nonneg hC y)
  exact Real.exp_le_one_iff.mpr (by linarith)

theorem gaussian_mem (ha : 0 ≤ a) (hb : 0 ≤ b) (hC : C.PosDef) (y : ι → ℝ) :
    0 ≤ gaussian a b C y ∧ gaussian a b C y ≤ a := by
  rw [gaussian_eq]
  exact ⟨mul_nonneg ha (Real.exp_pos _).le,
    mul_le_of_le_one_right ha (exp_quadratic_le_one hb hC y)⟩

theorem gaussian_pos (ha : 0 < a) (C : Matrix ι ι ℝ) (y : ι → ℝ) : 0 < gaussian a b C y := by
  rw [gaussian_eq]
  exact mul_pos ha (Real.exp_pos _)

/-- Towards the centre the Gaussian grows. -/
theorem gaussianSlope_pos (ha : 0 < a) (hb : 0 < b) (hC : C.PosDef) {e : ι → ℝ} (he : e ≠ 0)
    {s t : ℝ} (hst : s * t < 0) : 0 < gaussianSlope a b C (s • e) (t • e) := by
  have hquad : 0 < e ⬝ᵥ (C *ᵥ e) := by simpa using hC.dotProduct_mulVec_pos he
  have hbump : 0 < b * gaussian a b C (s • e) := mul_pos hb (gaussian_pos ha C _)
  have hpart : (s • e) ⬝ᵥ (C *ᵥ (t • e)) = s * t * (e ⬝ᵥ (C *ᵥ e)) := by
    rw [mulVec_smul, smul_dotProduct, dotProduct_smul, smul_eq_mul, smul_eq_mul, mul_assoc]
  rw [gaussianSlope, hpart, neg_pos]
  exact mul_neg_of_pos_of_neg hbump (mul_neg_of_neg_of_pos hst hquad)

end Bounds

section Derivatives

variable {a b : ℝ} {C : Matrix ι ι ℝ} {y v : ℝ → ι → ℝ} {y' v' : ι → ℝ} {t : ℝ}

theorem hasDerivAt_dotProduct_mulVec (C : Matrix ι ι ℝ) (hy : HasDerivAt y y' t)
    (hv : HasDerivAt v v' t) :
    HasDerivAt (fun s => y s ⬝ᵥ (C *ᵥ v s)) (y' ⬝ᵥ (C *ᵥ v t) + y t ⬝ᵥ (C *ᵥ v')) t := by
  rw [hasDerivAt_pi] at hy hv
  have hmul : ∀ i, HasDerivAt (fun s => (C *ᵥ v s) i) ((C *ᵥ v') i) t := by
    intro i
    simp only [mulVec, dotProduct]
    exact HasDerivAt.fun_sum fun j _ => (hv j).const_mul (C i j)
  have hsum := HasDerivAt.fun_sum fun i (_ : i ∈ Finset.univ) => (hy i).mul (hmul i)
  simp only [dotProduct, ← Finset.sum_add_distrib]
  exact hsum

/-- A symmetric matrix may stand on either side. -/
theorem dotProduct_mulVec_comm (hC : C.IsSymm) (x y : ι → ℝ) :
    x ⬝ᵥ (C *ᵥ y) = y ⬝ᵥ (C *ᵥ x) := by
  rw [dotProduct_mulVec, ← mulVec_transpose, hC.eq, dotProduct_comm]

/-- **The slope.** -/
theorem hasDerivAt_gaussian (hC : C.IsSymm) (hy : HasDerivAt y y' t) :
    HasDerivAt (fun s => gaussian a b C (y s)) (gaussianSlope a b C (y t) y') t := by
  have hquad := hasDerivAt_dotProduct_mulVec C hy hy
  rw [dotProduct_mulVec_comm hC y' (y t), ← two_mul] at hquad
  have hexp := (((hquad.const_mul (-b)).div_const 2).exp).const_mul a
  simp only [gaussian_eq]
  refine hexp.congr_deriv ?_
  rw [gaussianSlope, gaussian_eq]
  ring

/-- **The curvature.** -/
theorem hasDerivAt_gaussianSlope (hC : C.IsSymm) (hy : HasDerivAt y y' t)
    (hv : HasDerivAt v v' t) :
    HasDerivAt (fun s => gaussianSlope a b C (y s) (v s))
      (gaussianCurvature a b C (y t) y' (v t) v') t := by
  have hbump := (hasDerivAt_gaussian hC hy (a := a) (b := b)).const_mul b
  have hlinear := hasDerivAt_dotProduct_mulVec C hy hv
  refine (hbump.mul hlinear).neg.congr_deriv ?_
  rw [gaussianSlope, gaussianCurvature]
  ring

omit [Fintype ι] in
/-- The derivative of a sum over a list. -/
theorem hasDerivAt_list_sum {α : Type} {f : α → ℝ → ℝ} {f' : α → ℝ} (xs : List α)
    (h : ∀ x ∈ xs, HasDerivAt (f x) (f' x) t) :
    HasDerivAt (fun s => (xs.map fun x => f x s).sum) (xs.map f').sum t := by
  induction xs with
  | nil => exact hasDerivAt_const t 0
  | cons x xs ih =>
    simp only [List.map_cons, List.sum_cons]
    exact (h x List.mem_cons_self).add (ih fun y hy => h y (List.mem_cons_of_mem x hy))

end Derivatives

/-! ## Along a line -/

section Line

variable {E : Type} [NormedAddCommGroup E] [NormedSpace ℝ E]

/-- The derivative along a line from the partial derivatives. -/
theorem hasDerivAt_line [DecidableEq ι] {f : (ι → ℝ) → E} {p : ι → ℝ}
    (hf : DifferentiableAt ℝ f p) {f' : ι → E}
    (hf' : ∀ i, HasDerivAt (fun s => f (Function.update p i s)) (f' i) (p i)) (δ : ι → ℝ) :
    HasDerivAt (fun t : ℝ => f (p + t • δ)) (∑ i, δ i • f' i) 0 := by
  have hpartial : ∀ i, fderiv ℝ f p (Pi.single i 1) = f' i := by
    intro i
    have hf0 : HasFDerivAt f (fderiv ℝ f p) (Function.update p i (p i)) := by
      rw [Function.update_eq_self]
      exact hf.hasFDerivAt
    exact (hf0.comp_hasDerivAt (p i) (hasDerivAt_update p i (p i))).unique (hf' i)
  have hline : HasDerivAt (fun t : ℝ => p + t • δ) δ 0 := by
    have h := ((hasDerivAt_id (0 : ℝ)).smul_const δ).const_add p
    rwa [one_smul] at h
  have hf0 : HasFDerivAt f (fderiv ℝ f p) (p + (0 : ℝ) • δ) := by
    rw [zero_smul, add_zero]
    exact hf.hasFDerivAt
  refine (hf0.comp_hasDerivAt (0 : ℝ) hline).congr_deriv ?_
  have hcoordinates := LinearMap.pi_apply_eq_sum_univ (fderiv ℝ f p).toLinearMap δ
  refine hcoordinates.trans (Finset.sum_congr rfl fun i _ => ?_)
  rw [← hpartial i]
  refine congrArg (fun v => δ i • fderiv ℝ f p v) (funext fun j => ?_)
  rw [Pi.single_apply]
  simp only [eq_comm]

/-- The slope is linear in the velocity. -/
theorem gaussianSlope_sum {κ : Type} [Fintype κ] (a b : ℝ) (C : Matrix ι ι ℝ) (y : ι → ℝ)
    (δ : κ → ℝ) (v : κ → ι → ℝ) :
    gaussianSlope a b C y (∑ k, δ k • v k) = ∑ k, δ k * gaussianSlope a b C y (v k) := by
  simp only [gaussianSlope, mulVec_sum, mulVec_smul, dotProduct_sum, dotProduct_smul, smul_eq_mul,
    Finset.mul_sum, ← Finset.sum_neg_distrib]
  exact Finset.sum_congr rfl fun k _ => by ring

end Line

end RoboRacer.Foundation
