/-
  Pclomp/GicpCost.lean --- the cost function of generalized ICP
  (`gicp_omp_impl.hpp`: `OptimizationFunctorWithIndices`, `computeRDerivative`,
  `applyState`; `gicp_omp.h`: `matricesInnerProd`).

  The optimizer asks for the cost of a state, for its gradient, or for both.  Three
  functions answer: `operator ()` and `df` in parallel loops, `fdf` in a loop of its
  own.  They give the same numbers, and the gradient is the gradient of the cost.

  Numbers are exact: in the code `operator ()` multiplies floats, `df` and `fdf`
  multiply doubles, and the matrices hold floats, so that there they agree up to
  rounding.  The fourth coordinate of a point is 1, that of a residual 0.
-/
import RoboRacer.Pclomp.PointDerivatives
import RoboRacer.Pclomp.StepLength

set_option autoImplicit false

namespace RoboRacer.Pclomp

open Matrix RoboRacer.Foundation

/-! ## The functor -/

/-- The members that the functor reads. -/
structure GicpProblem (K : Type) where
  base_transformation_ : Affine K
  tmp_src_ : List (Fin 3 → K)
  tmp_tgt_ : List (Fin 3 → K)
  tmp_idx_src_ : List ℕ
  tmp_idx_tgt_ : List ℕ
  mahalanobis_ : ℕ → Matrix (Fin 3) (Fin 3) K

section Functor

variable {K : Type} [Field K] (m : CMath K)

/-- `applyState`: rotations about the third, the second and the first axis. -/
def applyState (t : Affine K) (x : Fin 6 → K) : Affine K where
  linear := rotZ (m.sin (x 5)) (m.cos (x 5)) * rotY (m.sin (x 4)) (m.cos (x 4)) *
    rotX (m.sin (x 3)) (m.cos (x 3)) * t.linear
  translation := t.translation + ![x 0, x 1, x 2]

/-- `matricesInnerProd`: the trace of the product. -/
def matricesInnerProd (mat1 mat2 : Matrix (Fin 3) (Fin 3) K) : K :=
  ∑ i, ∑ j, mat1 j i * mat2 i j

/-- The derivatives of the rotation in `computeRDerivative`. -/
structure RDerivative (K : Type) where
  dR_dPhi : Matrix (Fin 3) (Fin 3) K
  dR_dTheta : Matrix (Fin 3) (Fin 3) K
  dR_dPsi : Matrix (Fin 3) (Fin 3) K

/-- The tables of `computeRDerivative`. -/
def rDerivative (x : Fin 6 → K) : RDerivative K :=
  let cphi := m.cos (x 3)
  let sphi := m.sin (x 3)
  let ctheta := m.cos (x 4)
  let stheta := m.sin (x 4)
  let cpsi := m.cos (x 5)
  let spsi := m.sin (x 5)
  { dR_dPhi := !![
      0, sphi * spsi + cphi * cpsi * stheta, cphi * spsi - cpsi * sphi * stheta;
      0, -cpsi * sphi + cphi * spsi * stheta, -cphi * cpsi - sphi * spsi * stheta;
      0, cphi * ctheta, -ctheta * sphi]
    dR_dTheta := !![
      -cpsi * stheta, cpsi * ctheta * sphi, cphi * cpsi * ctheta;
      -spsi * stheta, ctheta * sphi * spsi, cphi * ctheta * spsi;
      -ctheta, -sphi * stheta, -cphi * stheta]
    dR_dPsi := !![
      -ctheta * spsi, -cphi * cpsi - sphi * spsi * stheta, cpsi * sphi - cphi * spsi * stheta;
      cpsi * ctheta, -cphi * spsi + cpsi * sphi * stheta, sphi * spsi + cphi * cpsi * stheta;
      0, 0, 0] }

/-- `computeRDerivative`: the last three entries of the gradient. -/
def computeRDerivative (x : Fin 6 → K) (R : Matrix (Fin 3) (Fin 3) K) (g : Fin 3 → K) :
    Fin 6 → K :=
  let d := rDerivative m x
  ![g 0, g 1, g 2, matricesInnerProd d.dR_dPhi R, matricesInnerProd d.dR_dTheta R,
    matricesInnerProd d.dR_dPsi R]

namespace GicpProblem

variable (gicp : GicpProblem K) (x : Fin 6 → K)

/-- The point of the source in the `i`-th pair. -/
def src (i : ℕ) : Fin 3 → K :=
  pointAt gicp.tmp_src_ (gicp.tmp_idx_src_[i]?.getD 0)

/-- The point of the target in the `i`-th pair. -/
def tgt (i : ℕ) : Fin 3 → K :=
  pointAt gicp.tmp_tgt_ (gicp.tmp_idx_tgt_[i]?.getD 0)

/-- The matrix of the `i`-th pair. -/
def maha (i : ℕ) : Matrix (Fin 3) (Fin 3) K :=
  gicp.mahalanobis_ (gicp.tmp_idx_src_[i]?.getD 0)

/-- The residual of the `i`-th pair. -/
def res (i : ℕ) : Fin 3 → K :=
  (applyState m gicp.base_transformation_ x).apply (gicp.src i) - gicp.tgt i

/-- `m`, the number of pairs. -/
def count : ℕ :=
  gicp.tmp_idx_src_.length

/-- `operator ()`. -/
def cost {threads : ℕ} (schedule : List (Fin threads × ℕ)) : K :=
  parallelSum (fun i => gicp.res m x i ⬝ᵥ (gicp.maha i *ᵥ gicp.res m x i)) schedule /
    (gicp.count : K)

/-- What a pair adds to the gradient: `temp`, and the source point times `temp`. -/
def gradientTerm (i : ℕ) : (Fin 3 → K) × Matrix (Fin 3) (Fin 3) K :=
  let temp := gicp.maha i *ᵥ gicp.res m x i
  let p_src3 := gicp.base_transformation_.apply (gicp.src i)
  (temp, vecMulVec p_src3 temp)

/-- `df`. -/
def df {threads : ℕ} (schedule : List (Fin threads × ℕ)) : Fin 6 → K :=
  let sums := parallelSum (gicp.gradientTerm m x) schedule
  let scale := ((2 : ℕ) : K) / (gicp.count : K)
  computeRDerivative m x (scale • sums.2) (scale • sums.1)

/-- `fdf`. -/
def fdf : K × (Fin 6 → K) :=
  let sums := (List.range gicp.count).foldl
    (fun (sums : K × (Fin 3 → K) × Matrix (Fin 3) (Fin 3) K) i =>
      let temp := gicp.maha i *ᵥ gicp.res m x i
      let p_src3 := gicp.base_transformation_.apply (gicp.src i)
      (sums.1 + gicp.res m x i ⬝ᵥ temp, sums.2.1 + temp, sums.2.2 + vecMulVec p_src3 temp))
    0
  let scale := ((2 : ℕ) : K) / (gicp.count : K)
  (sums.1 / (gicp.count : K), computeRDerivative m x (scale • sums.2.2) (scale • sums.2.1))

end GicpProblem

end Functor

/-! ## The gradient is linear in its sums -/

section Linear

variable {K : Type} [Field K] (m : CMath K) (x : Fin 6 → K)

theorem matricesInnerProd_eq (mat1 mat2 : Matrix (Fin 3) (Fin 3) K) :
    matricesInnerProd mat1 mat2 = (mat1 * mat2).trace := by
  rw [matricesInnerProd, Finset.sum_comm]
  rfl

theorem matricesInnerProd_vecMulVec (M : Matrix (Fin 3) (Fin 3) K) (p temp : Fin 3 → K) :
    matricesInnerProd M (vecMulVec p temp) = temp ⬝ᵥ (M *ᵥ p) := by
  rw [matricesInnerProd_eq, mul_vecMulVec, trace_vecMulVec, dotProduct_comm]

theorem computeRDerivative_smul (c : K) (R : Matrix (Fin 3) (Fin 3) K) (g : Fin 3 → K) :
    computeRDerivative m x (c • R) (c • g) = c • computeRDerivative m x R g := by
  funext i
  fin_cases i <;> simp [computeRDerivative, matricesInnerProd_eq]

theorem computeRDerivative_add (s s' : (Fin 3 → K) × Matrix (Fin 3) (Fin 3) K) :
    computeRDerivative m x (s + s').2 (s + s').1 =
      computeRDerivative m x s.2 s.1 + computeRDerivative m x s'.2 s'.1 := by
  funext i
  fin_cases i <;> simp [computeRDerivative, matricesInnerProd_eq, mul_add]

/-- The gradient from the sums of all pairs. -/
def gradientOf : (Fin 3 → K) × Matrix (Fin 3) (Fin 3) K →+ (Fin 6 → K) :=
  AddMonoidHom.mk' (fun s => computeRDerivative m x s.2 s.1) (computeRDerivative_add m x)

end Linear

/-! ## The derivative of a residual -/

section State

/-- Sines and cosines in the order of the turns. -/
noncomputable def stateAngles (x : Fin 6 → ℝ) : SinCos ℝ :=
  anglesOf (x 5) (x 4) (x 3)

theorem applyState_apply (t : Affine ℝ) (x : Fin 6 → ℝ) (p : Fin 3 → ℝ) :
    (applyState realMath t x).apply p =
      threeTurns turnZ turnY turnX (stateAngles x) 0 0 0 (t.linear *ᵥ p) +
        (t.translation + ![x 0, x 1, x 2]) := by
  simp only [Affine.apply, applyState, threeTurns, turnX_order_zero, turnY_order_zero,
    turnZ_order_zero, mulVec_mulVec, Matrix.mul_assoc]
  rfl

/-- The tables are the derivatives of the rotation. -/
theorem rDerivative_mulVec (x : Fin 6 → ℝ) (v : Fin 3 → ℝ) :
    (rDerivative realMath x).dR_dPhi *ᵥ v =
        threeTurns turnZ turnY turnX (stateAngles x) 0 0 1 v ∧
      (rDerivative realMath x).dR_dTheta *ᵥ v =
        threeTurns turnZ turnY turnX (stateAngles x) 0 1 0 v ∧
      (rDerivative realMath x).dR_dPsi *ᵥ v =
        threeTurns turnZ turnY turnX (stateAngles x) 1 0 0 v := by
  refine ⟨?_, ?_, ?_⟩ <;> funext axis <;> fin_cases axis <;>
    simp [rDerivative, realMath, threeTurns, stateAngles, anglesOf, Turn.order, Turn.varying,
      turnX, turnY, turnZ, smul_of, smul_cons, mulVec, dotProduct, Fin.sum_univ_three] <;> ring

/-- The derivatives of a moved point by the entries of the state. -/
noncomputable def stateGradient (x : Fin 6 → ℝ) (v : Fin 3 → ℝ) : Fin 6 → Fin 3 → ℝ :=
  let d := rDerivative realMath x
  ![![1, 0, 0], ![0, 1, 0], ![0, 0, 1], d.dR_dPhi *ᵥ v, d.dR_dTheta *ᵥ v, d.dR_dPsi *ᵥ v]

theorem hasDerivAt_applyState (t : Affine ℝ) (x : Fin 6 → ℝ) (p : Fin 3 → ℝ) (k : Fin 6) :
    HasDerivAt (fun s => (applyState realMath t (Function.update x k s)).apply p)
      (stateGradient x (t.linear *ᵥ p) k) (x k) := by
  obtain ⟨hphi, htheta, hpsi⟩ := rDerivative_mulVec x (t.linear *ᵥ p)
  have hfirst := hasDerivAt_threeTurns_first turnZ turnY turnX 0 0 0 (t.linear *ᵥ p) (x 5) (x 4)
    (x 3)
  have hsecond := hasDerivAt_threeTurns_second turnZ turnY turnX 0 0 0 (t.linear *ᵥ p) (x 5) (x 4)
    (x 3)
  have hthird := hasDerivAt_threeTurns_third turnZ turnY turnX 0 0 0 (t.linear *ᵥ p) (x 5) (x 4)
    (x 3)
  obtain ⟨h0, h1, h2⟩ := hasDerivAt_translation
    (threeTurns turnZ turnY turnX (stateAngles x) 0 0 0 (t.linear *ᵥ p) + t.translation) x
  simp only [applyState_apply, ← add_assoc]
  fin_cases k
  · exact h0
  · exact h1
  · exact h2
  · refine ((hthird.add_const t.translation).add_const ![x 0, x 1, x 2]).congr_deriv ?_
    exact hphi.symm
  · refine ((hsecond.add_const t.translation).add_const ![x 0, x 1, x 2]).congr_deriv ?_
    exact htheta.symm
  · refine ((hfirst.add_const t.translation).add_const ![x 0, x 1, x 2]).congr_deriv ?_
    exact hpsi.symm

end State

/-! ## The three functions agree -/

namespace GicpProblem

section Plain

variable {K : Type} [Field K] (m : CMath K) (gicp : GicpProblem K) (x : Fin 6 → K)

/-- The loop of `fdf`, as sums. -/
theorem fdf_sums : gicp.fdf m x =
    (((List.range gicp.count).map fun i =>
        gicp.res m x i ⬝ᵥ (gicp.maha i *ᵥ gicp.res m x i)).sum / (gicp.count : K),
      (((2 : ℕ) : K) / (gicp.count : K)) •
        ((List.range gicp.count).map fun i => gradientOf m x (gicp.gradientTerm m x i)).sum) := by
  let term := fun i =>
    (gicp.res m x i ⬝ᵥ (gicp.maha i *ᵥ gicp.res m x i), gicp.gradientTerm m x i)
  have hloop : (List.range gicp.count).foldl
      (fun (sums : K × (Fin 3 → K) × Matrix (Fin 3) (Fin 3) K) i =>
        (sums.1 + (term i).1, sums.2.1 + (term i).2.1, sums.2.2 + (term i).2.2)) 0 =
      ((List.range gicp.count).map term).sum :=
    (foldl_add_eq _ (fun _ _ _ => rfl) 0).trans (zero_add _)
  have hcost := map_list_sum (AddMonoidHom.fst K ((Fin 3 → K) × Matrix (Fin 3) (Fin 3) K))
    ((List.range gicp.count).map term)
  have hgradient := map_list_sum ((gradientOf m x).comp
    (AddMonoidHom.snd K ((Fin 3 → K) × Matrix (Fin 3) (Fin 3) K)))
    ((List.range gicp.count).map term)
  rw [List.map_map, ← hloop] at hcost hgradient
  rw [fdf]
  refine Prod.ext (congrArg (· / (gicp.count : K)) hcost) ?_
  exact (computeRDerivative_smul m x _ _ _).trans (congrArg _ hgradient)

end Plain

section Agree

variable {K : Type} [Field K] (m : CMath K) (gicp : GicpProblem K) (x : Fin 6 → K)
  {threads : ℕ} {schedule : List (Fin threads × ℕ)}
  (hschedule : (schedule.map Prod.snd).Perm (List.range gicp.count))
include hschedule

theorem cost_eq : gicp.cost m x schedule =
    ((List.range gicp.count).map fun i =>
      gicp.res m x i ⬝ᵥ (gicp.maha i *ᵥ gicp.res m x i)).sum / (gicp.count : K) := by
  rw [cost, parallelSum_eq _ hschedule]

theorem df_eq : gicp.df m x schedule =
    (((2 : ℕ) : K) / (gicp.count : K)) •
      ((List.range gicp.count).map fun i => gradientOf m x (gicp.gradientTerm m x i)).sum := by
  have hsum := map_list_sum (gradientOf m x)
    ((List.range gicp.count).map (gicp.gradientTerm m x))
  rw [List.map_map] at hsum
  rw [df, parallelSum_eq _ hschedule, computeRDerivative_smul]
  exact congrArg _ hsum

/-- The loop of `fdf` gives what the parallel loops give. -/
theorem fdf_eq : gicp.fdf m x = (gicp.cost m x schedule, gicp.df m x schedule) := by
  rw [cost_eq m gicp x hschedule, df_eq m gicp x hschedule, fdf_sums]

end Agree

end GicpProblem

/-! ## The gradient is the gradient of the cost -/

namespace GicpProblem

section Exact

variable (gicp : GicpProblem ℝ) (hbase : gicp.base_transformation_.translation = 0)
  (hmaha : ∀ i < gicp.count, (gicp.maha i).IsSymm) (x : Fin 6 → ℝ)

include hbase in
theorem gradientOf_term (i : ℕ) (k : Fin 6) :
    gradientOf realMath x (gicp.gradientTerm realMath x i) k =
      (gicp.maha i *ᵥ gicp.res realMath x i) ⬝ᵥ
        stateGradient x (gicp.base_transformation_.linear *ᵥ gicp.src i) k := by
  have hsource : gicp.base_transformation_.apply (gicp.src i) =
      gicp.base_transformation_.linear *ᵥ gicp.src i := by
    rw [Affine.apply, hbase, add_zero]
  fin_cases k <;>
    simp [gradientOf, gradientTerm, computeRDerivative, stateGradient, hsource,
      matricesInnerProd_vecMulVec, dotProduct, Fin.sum_univ_three]

include hmaha in
theorem hasDerivAt_pair {i : ℕ} (hi : i < gicp.count) (k : Fin 6) :
    HasDerivAt
      (fun s => gicp.res realMath (Function.update x k s) i ⬝ᵥ
        (gicp.maha i *ᵥ gicp.res realMath (Function.update x k s) i))
      (2 * ((gicp.maha i *ᵥ gicp.res realMath x i) ⬝ᵥ
        stateGradient x (gicp.base_transformation_.linear *ᵥ gicp.src i) k)) (x k) := by
  have hres : HasDerivAt (fun s => gicp.res realMath (Function.update x k s) i)
      (stateGradient x (gicp.base_transformation_.linear *ᵥ gicp.src i) k) (x k) :=
    (hasDerivAt_applyState gicp.base_transformation_ x (gicp.src i) k).sub_const (gicp.tgt i)
  refine (hasDerivAt_dotProduct_mulVec (gicp.maha i) hres hres).congr_deriv ?_
  rw [Function.update_eq_self, dotProduct_mulVec_comm (hmaha i hi) (gicp.res realMath x i),
    ← two_mul, dotProduct_comm]

include hbase hmaha in
/-- **The gradient is exact**, with a base transformation that does not translate and with
symmetric matrices. -/
theorem hasDerivAt_fdf (k : Fin 6) :
    HasDerivAt (fun s => (gicp.fdf realMath (Function.update x k s)).1)
      ((gicp.fdf realMath x).2 k) (x k) := by
  simp only [fdf_sums]
  have hsum := hasDerivAt_list_sum (List.range gicp.count) fun i hi =>
    gicp.hasDerivAt_pair hmaha x (List.mem_range.mp hi) k
  refine (hsum.div_const (gicp.count : ℝ)).congr_deriv ?_
  have hentry := map_list_sum (Pi.evalAddMonoidHom (fun _ : Fin 6 => ℝ) k)
    ((List.range gicp.count).map fun i => gradientOf realMath x (gicp.gradientTerm realMath x i))
  simp only [List.map_map, Function.comp_def, Pi.evalAddMonoidHom_apply,
    gicp.gradientOf_term hbase] at hentry
  rw [Pi.smul_apply, hentry, List.sum_map_mul_left, Nat.cast_ofNat, smul_eq_mul]
  ring

end Exact

theorem fdf_nonneg (gicp : GicpProblem ℝ) (hmaha : ∀ i < gicp.count, (gicp.maha i).PosSemidef)
    (x : Fin 6 → ℝ) : 0 ≤ (gicp.fdf realMath x).1 := by
  rw [fdf_sums]
  refine div_nonneg (List.sum_nonneg fun value hvalue => ?_) (Nat.cast_nonneg _)
  obtain ⟨i, hi, rfl⟩ := List.mem_map.mp hvalue
  simpa using (hmaha i (List.mem_range.mp hi)).dotProduct_mulVec_nonneg (gicp.res realMath x i)

end GicpProblem

end RoboRacer.Pclomp
