/-
  Pclomp/PointDerivatives.lean --- what the tables of `computeAngleDerivatives` are.

  Over the real numbers the columns of `point_gradient_` are the derivatives of the
  transformed point, and the blocks of the `double` `point_hessian_` are the
  derivatives of these columns.  The angles are zero or not below `10e-5`; between
  the two the code takes sine 0 and cosine 1 for an angle that is not zero.
-/
import Mathlib.Analysis.SpecialFunctions.Log.Basic
import Mathlib.Analysis.SpecialFunctions.Trigonometric.Basic
import RoboRacer.Foundation.Gaussian
import RoboRacer.Pclomp.AngleDerivatives

set_option autoImplicit false

namespace RoboRacer.Pclomp

open Matrix RoboRacer.Foundation

/-- The functions of the C library on real numbers. -/
noncomputable def realMath : CMath ℝ where
  cos := Real.cos
  sin := Real.sin
  exp := Real.exp
  log := Real.log
  sqrt := Real.sqrt

/-- No angle is rounded to zero. -/
def Sharp (p : Fin 6 → ℝ) : Prop :=
  ∀ axis : Fin 6, 3 ≤ axis → nearZero (p axis) = true → p axis = 0

/-- Sines and cosines of the angles of a transform vector. -/
noncomputable def anglesAt (p : Fin 6 → ℝ) : SinCos ℝ :=
  anglesOf (p 3) (p 4) (p 5)

theorem sine_of_sharp {angle : ℝ} (h : nearZero angle = true → angle = 0) :
    sine realMath angle = Real.sin angle ∧ cosine realMath angle = Real.cos angle := by
  rw [sine, cosine]
  by_cases hnear : nearZero angle = true
  · rw [if_pos hnear, if_pos hnear, h hnear, Real.sin_zero, Real.cos_zero]
    exact ⟨rfl, rfl⟩
  · rw [if_neg hnear, if_neg hnear]
    exact ⟨rfl, rfl⟩

theorem sinCos_of_sharp {p : Fin 6 → ℝ} (h : Sharp p) : sinCos realMath p = anglesAt p := by
  obtain ⟨hsx, hcx⟩ := sine_of_sharp (h 3 (le_refl _))
  obtain ⟨hsy, hcy⟩ := sine_of_sharp (h 4 (by decide))
  obtain ⟨hsz, hcz⟩ := sine_of_sharp (h 5 (by decide))
  rw [sinCos, hsx, hcx, hsy, hcy, hsz, hcz]
  rfl

theorem transformPoint_eq (p : Fin 6 → ℝ) (x : Fin 3 → ℝ) :
    transformPoint realMath p x = euler (anglesAt p) 0 0 0 x + ![p 0, p 1, p 2] := by
  rw [transformPoint, euler, threeTurns, turnX_order_zero, turnY_order_zero, turnZ_order_zero]
  rfl

/-- A translation by one coordinate at a time. -/
theorem hasDerivAt_translation (v : Fin 3 → ℝ) (p : Fin 6 → ℝ) :
    HasDerivAt (fun s => v + ![s, p 1, p 2]) ![1, 0, 0] (p 0) ∧
      HasDerivAt (fun s => v + ![p 0, s, p 2]) ![0, 1, 0] (p 1) ∧
      HasDerivAt (fun s => v + ![p 0, p 1, s]) ![0, 0, 1] (p 2) := by
  refine ⟨?_, ?_, ?_⟩ <;> refine HasDerivAt.const_add v (hasDerivAt_pi.mpr fun axis => ?_) <;>
    fin_cases axis <;>
    first | exact hasDerivAt_const _ _ | exact hasDerivAt_id' _

/-- A product of turns by each entry of the transform vector. -/
theorem hasDerivAt_euler (l m n : ℕ) (p : Fin 6 → ℝ) (x : Fin 3 → ℝ) (j : Fin 6) :
    HasDerivAt (fun s => euler (anglesAt (Function.update p j s)) l m n x)
      ((![0, 0, 0, euler (anglesAt p) (l + 1) m n x, euler (anglesAt p) l (m + 1) n x,
        euler (anglesAt p) l m (n + 1) x] : Fin 6 → Fin 3 → ℝ) j) (p j) := by
  fin_cases j
  · exact hasDerivAt_const (p 0) (euler (anglesAt p) l m n x)
  · exact hasDerivAt_const (p 1) (euler (anglesAt p) l m n x)
  · exact hasDerivAt_const (p 2) (euler (anglesAt p) l m n x)
  · exact hasDerivAt_threeTurns_first turnX turnY turnZ l m n x (p 3) (p 4) (p 5)
  · exact hasDerivAt_threeTurns_second turnX turnY turnZ l m n x (p 3) (p 4) (p 5)
  · exact hasDerivAt_threeTurns_third turnX turnY turnZ l m n x (p 3) (p 4) (p 5)

/-- **First derivatives.**  The transformed point by each entry of the transform vector. -/
theorem hasDerivAt_transformPoint (p : Fin 6 → ℝ) (x : Fin 3 → ℝ) (i : Fin 6) :
    HasDerivAt (fun s => transformPoint realMath (Function.update p i s) x)
      (exactGradient (anglesAt p) x i) (p i) := by
  obtain ⟨h0, h1, h2⟩ := hasDerivAt_translation (euler (anglesAt p) 0 0 0 x) p
  have hturn := hasDerivAt_euler 0 0 0 p x i
  simp only [transformPoint_eq]
  fin_cases i
  · exact h0
  · exact h1
  · exact h2
  · exact hturn.add_const ![p 0, p 1, p 2]
  · exact hturn.add_const ![p 0, p 1, p 2]
  · exact hturn.add_const ![p 0, p 1, p 2]

theorem differentiable_transformPoint (x : Fin 3 → ℝ) :
    Differentiable ℝ fun p : Fin 6 → ℝ => transformPoint realMath p x := by
  refine differentiable_pi.mpr fun axis => ?_
  fin_cases axis <;>
    simp [transformPoint, realMath, rotX, rotY, rotZ, dotProduct, Fin.sum_univ_three] <;>
    fun_prop

/-- The transformed point along a line of transform vectors. -/
theorem hasDerivAt_transformPoint_line (p δ : Fin 6 → ℝ) (x : Fin 3 → ℝ) :
    HasDerivAt (fun t : ℝ => transformPoint realMath (p + t • δ) x)
      (∑ i, δ i • exactGradient (anglesAt p) x i) 0 :=
  hasDerivAt_line (differentiable_transformPoint x p)
    (fun i => hasDerivAt_transformPoint p x i) δ

/-- **Second derivatives.**  The columns of the gradient by each entry of the transform
vector. -/
theorem hasDerivAt_exactGradient (p : Fin 6 → ℝ) (x : Fin 3 → ℝ) (i j : Fin 6) :
    HasDerivAt (fun s => exactGradient (anglesAt (Function.update p j s)) x i)
      (exactHessian (anglesAt p) x i j) (p j) := by
  have hconst : ∀ v : Fin 3 → ℝ, HasDerivAt (fun _ => v) ((0 : Fin 6 → Fin 3 → ℝ) j) (p j) :=
    fun v => hasDerivAt_const (p j) v
  fin_cases i
  · exact hconst ![1, 0, 0]
  · exact hconst ![0, 1, 0]
  · exact hconst ![0, 0, 1]
  · exact hasDerivAt_euler 1 0 0 p x j
  · exact hasDerivAt_euler 0 1 0 p x j
  · exact hasDerivAt_euler 0 0 1 p x j

/-! ## A quarter turn -/

/-- A quarter turn about the second axis. -/
noncomputable def quarterTurn : Fin 6 → ℝ :=
  ![0, 0, 0, 0, Real.pi / ((2 : ℕ) : ℝ), 0]

theorem sharp_quarterTurn : Sharp quarterTurn := by
  have hfar : ¬ nearZero (Real.pi / 2) = true := by
    have hpi := Real.two_le_pi
    rw [nearZero, decide_eq_true_eq, abs_of_pos (by linarith), not_lt]
    refine le_trans ?_ (by linarith : (1 : ℝ) ≤ Real.pi / 2)
    norm_num
  intro axis haxis hnear
  fin_cases axis
  · exact absurd haxis (by decide)
  · exact absurd haxis (by decide)
  · exact absurd haxis (by decide)
  · rfl
  · exact absurd hnear hfar
  · rfl

theorem sin_quarterTurn : Real.sin (quarterTurn 4) = 1 := by
  rw [show quarterTurn 4 = Real.pi / 2 by simp [quarterTurn], Real.sin_pi_div_two]

/-- It turns the third axis into the first one. -/
theorem transformPoint_quarterTurn (z : ℝ) :
    transformPoint realMath quarterTurn ![0, 0, z] = ![z, 0, 0] := by
  funext axis
  fin_cases axis <;>
    simp [transformPoint, quarterTurn, realMath, rotX, rotY, rotZ, dotProduct,
      Fin.sum_univ_three]

/-! ## The tables -/

theorem computeAngleDerivatives_of_sharp {p : Fin 6 → ℝ} (hp : Sharp p) :
    computeAngleDerivatives realMath p = angleTables (anglesAt p) := by
  rw [← sinCos_of_sharp hp]
  rfl

/-- **What the tables hold.**  For a transform vector whose angles are not rounded, both
gradients are the derivatives of the transformed point, the `double` second derivatives are
the derivatives of the gradient, and the `float` ones are these with `2 sin β z` too much in
the first coordinate of the block of the second angle. -/
theorem computePointDerivatives_exact (p : Fin 6 → ℝ) (hp : Sharp p) (x : Fin 3 → ℝ) :
    let t := computeAngleDerivatives realMath p
    ∃ jacobian : (Fin 6 → ℝ) → Fin 6 → Fin 3 → ℝ,
      (∀ q i, HasDerivAt (fun s => transformPoint realMath (Function.update q i s) x)
        (jacobian q i) (q i)) ∧
      (∀ i, (t.computePointDerivatives x).point_gradient_ i = jacobian p i ∧
        (t.computePointDerivativesF x).point_gradient_ i = jacobian p i) ∧
      (∀ i j, HasDerivAt (fun s => jacobian (Function.update p j s) i)
        ((t.computePointDerivatives x).point_hessian_ i j) (p j)) ∧
      ∀ i j, (t.computePointDerivativesF x).point_hessian_ i j =
        (t.computePointDerivatives x).point_hessian_ i j +
          if i = 4 ∧ j = 4 then ![2 * Real.sin (p 4) * x 2, 0, 0] else 0 := by
  intro t
  have ht : t = angleTables (anglesAt p) := computeAngleDerivatives_of_sharp hp
  obtain ⟨hgradient, hhessian⟩ := computePointDerivativesF_eq (anglesAt p) x
  rw [← ht] at hgradient hhessian
  have hdouble : t.computePointDerivatives x =
      ⟨exactGradient (anglesAt p) x, exactHessian (anglesAt p) x⟩ := by
    rw [ht, computePointDerivatives_eq]
  refine ⟨fun q => exactGradient (anglesAt q) x,
    fun q i => hasDerivAt_transformPoint q x i, fun i => ⟨?_, ?_⟩, fun i j => ?_, hhessian⟩
  · rw [hdouble]
  · rw [hgradient, hdouble]
  · rw [hdouble]
    exact hasDerivAt_exactGradient p x i j

/-- With a quarter turn about the second axis and a point at height 3, the `float` table is off
by 6. -/
theorem computePointDerivatives_exact_quarterTurn :
    let t := computeAngleDerivatives realMath quarterTurn
    (t.computePointDerivativesF ![1, 2, 3]).point_gradient_ =
        (t.computePointDerivatives ![1, 2, 3]).point_gradient_ ∧
      (t.computePointDerivativesF ![1, 2, 3]).point_hessian_ 4 4 =
        (t.computePointDerivatives ![1, 2, 3]).point_hessian_ 4 4 + ![6, 0, 0] := by
  obtain ⟨_, -, hgradient, -, hhessian⟩ :=
    computePointDerivatives_exact quarterTurn sharp_quarterTurn ![1, 2, 3]
  have hexcess : 2 * Real.sin (quarterTurn 4) * (![1, 2, 3] : Fin 3 → ℝ) 2 = 6 := by
    have hheight : (![1, 2, 3] : Fin 3 → ℝ) 2 = 3 := rfl
    rw [sin_quarterTurn, hheight]
    norm_num
  refine ⟨funext fun i => (hgradient i).2.trans (hgradient i).1.symm, ?_⟩
  rw [hhessian 4 4, if_pos ⟨rfl, rfl⟩, hexcess]

end RoboRacer.Pclomp
