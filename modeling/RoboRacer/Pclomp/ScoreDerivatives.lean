/-
  Pclomp/ScoreDerivatives.lean --- the score and its derivatives, over the real numbers.

  The score of a transform vector is a sum of Gaussians, one for every pair of a
  point and a leaf near it.  With the leaves held fixed, the gradient that
  `computeDerivatives` returns is the gradient of the score, and the Hessian that
  `computeHessian` returns is its second derivative.  The Hessian of
  `computeDerivatives` differs from it in one entry, by what the sign in the `float`
  table adds.
-/
import Mathlib.Analysis.Convex.SpecificFunctions.Basic
import RoboRacer.Foundation.Gaussian
import RoboRacer.Pclomp.Derivatives
import RoboRacer.Pclomp.PointDerivatives
import RoboRacer.Pclomp.TargetGrid

set_option autoImplicit false

namespace RoboRacer.Pclomp

open Matrix RoboRacer.Foundation

/-! ## The fitting parameters -/

/-- The parameters for which no pair of a point and a leaf is rejected. -/
structure Gauss.Fit (gauss : Gauss ℝ) : Prop where
  d1_neg : gauss.d1 < 0
  d2_pos : 0 < gauss.d2
  d2_le_one : gauss.d2 ≤ 1

/-- How far along its way the logarithm is at a part `e` of the distance: farther than the
point, since the logarithm is concave, but not at the end. -/
theorem log_share_mem {c1 c2 e : ℝ} (hc1 : 0 < c1) (hc2 : 0 < c2) (he : 0 < e) (he' : e < 1) :
    e ≤ (Real.log (c1 * e + c2) - Real.log c2) / (Real.log (c1 + c2) - Real.log c2) ∧
      (Real.log (c1 * e + c2) - Real.log c2) / (Real.log (c1 + c2) - Real.log c2) < 1 := by
  have hfar : 0 < Real.log (c1 + c2) - Real.log c2 :=
    sub_pos.mpr (Real.log_lt_log hc2 (by linarith))
  have hless : Real.log (c1 * e + c2) < Real.log (c1 + c2) := by
    have hmul : c1 * e < c1 := mul_lt_of_lt_one_right hc1 he'
    exact Real.log_lt_log (by positivity) (by linarith)
  have hconcave := strictConcaveOn_log_Ioi.concaveOn.2 (Set.mem_Ioi.mpr (add_pos hc1 hc2))
    (Set.mem_Ioi.mpr hc2) he.le (sub_nonneg.mpr he'.le) (add_sub_cancel e 1)
  have hpoint : e • (c1 + c2) + (1 - e) • c2 = c1 * e + c2 := by
    simp only [smul_eq_mul]
    ring
  rw [hpoint, smul_eq_mul, smul_eq_mul] at hconcave
  rw [le_div_iff₀ hfar, div_lt_one hfar]
  exact ⟨by linarith, by linarith⟩

/-- **The fit.**  Between the outlier ratios 0 and 1 the parameters are those of a bump that
points upwards and whose exponent is not steeper than the normal distribution. -/
theorem fitGauss_fit {outlier_ratio resolution : ℝ} (hratio : 0 < outlier_ratio)
    (hratio' : outlier_ratio < 1) (hresolution : 0 < resolution) :
    (fitGauss realMath outlier_ratio resolution).Fit := by
  set c1 : ℝ := ((10 : ℕ) : ℝ) * (1 - outlier_ratio) with hc1
  set c2 : ℝ := outlier_ratio / resolution ^ 3 with hc2
  have hc1pos : 0 < c1 := mul_pos (by norm_num) (by linarith)
  have hc2pos : 0 < c2 := div_pos hratio (pow_pos hresolution 3)
  have hlog_e : Real.log (Real.exp (-((2 : ℕ) : ℝ)⁻¹)) = -(1 / 2) := by
    rw [Real.log_exp]
    norm_num
  obtain ⟨hnear, hfar⟩ := log_share_mem hc1pos hc2pos (Real.exp_pos (-((2 : ℕ) : ℝ)⁻¹))
    (Real.exp_lt_one_iff.mpr (by norm_num))
  have hd1 : (fitGauss realMath outlier_ratio resolution).d1 =
      -(Real.log (c1 + c2) - Real.log c2) := by
    simp only [fitGauss, realMath, ← hc1, ← hc2]
    ring
  have hd2 : (fitGauss realMath outlier_ratio resolution).d2 =
      -((2 : ℕ) : ℝ) *
        Real.log ((Real.log (c1 * Real.exp (-((2 : ℕ) : ℝ)⁻¹) + c2) - Real.log c2) /
          (Real.log (c1 + c2) - Real.log c2)) := by
    rw [← neg_div_neg_eq]
    simp only [fitGauss, realMath, ← hc1, ← hc2, neg_sub, sub_neg_eq_add, neg_add_eq_sub]
  generalize (Real.log (c1 * Real.exp (-((2 : ℕ) : ℝ)⁻¹) + c2) - Real.log c2) /
    (Real.log (c1 + c2) - Real.log c2) = share at hnear hfar hd2
  rw [Nat.cast_ofNat] at hd2
  have hshare : 0 < share := (Real.exp_pos _).trans_le hnear
  refine ⟨?_, ?_, ?_⟩
  · rw [hd1]
    exact neg_neg_of_pos (sub_pos.mpr (Real.log_lt_log hc2pos (by linarith)))
  · have hlog := Real.log_neg hshare hfar
    rw [hd2]
    linarith
  · have hlog := Real.log_le_log (Real.exp_pos _) hnear
    rw [hlog_e] at hlog
    rw [hd2]
    linarith

/-! ## One pair -/

/-- What a pair of a point and a leaf adds: a Gaussian, its slope and its curvature. -/
noncomputable def leafSums (gauss : Gauss ℝ) (point : PointDerivatives ℝ)
    (C : Matrix (Fin 3) (Fin 3) ℝ) (x_trans : Fin 3 → ℝ) (compute_hessian : Bool) : Sums ℝ :=
  (gaussian (-gauss.d1) gauss.d2 C x_trans,
    fun i => gaussianSlope (-gauss.d1) gauss.d2 C x_trans (point.point_gradient_ i),
    if compute_hessian then
      Matrix.of fun i j => gaussianCurvature (-gauss.d1) gauss.d2 C x_trans
        (point.point_gradient_ j) (point.point_gradient_ i) (point.point_hessian_ i j)
    else 0)

theorem leafSums_hessian (gauss : Gauss ℝ) (point : PointDerivatives ℝ)
    (C : Matrix (Fin 3) (Fin 3) ℝ) (x_trans : Fin 3 → ℝ) (i j : Fin 6) :
    (leafSums gauss point C x_trans true).2.2 i j =
      gaussianCurvature (-gauss.d1) gauss.d2 C x_trans (point.point_gradient_ j)
        (point.point_gradient_ i) (point.point_hessian_ i j) :=
  rfl

/-- A pair with the `float` tables. -/
theorem leafSums_float (gauss : Gauss ℝ) (a : SinCos ℝ) (x : Fin 3 → ℝ)
    (C : Matrix (Fin 3) (Fin 3) ℝ) (x_trans : Fin 3 → ℝ) (compute_hessian : Bool) :
    let sums := leafSums gauss ((angleTables a).computePointDerivativesF x) C x_trans
      compute_hessian
    (∀ i, sums.2.1 i = gaussianSlope (-gauss.d1) gauss.d2 C x_trans (exactGradient a x i)) ∧
      ∀ i j, sums.2.2 i j = if compute_hessian then
          gaussianCurvature (-gauss.d1) gauss.d2 C x_trans (exactGradient a x j)
              (exactGradient a x i) (exactHessian a x i j) +
            if i = 4 ∧ j = 4 then
              gaussianSlope (-gauss.d1) gauss.d2 C x_trans ![2 * a.sy * x 2, 0, 0]
            else 0
        else 0 := by
  intro sums
  obtain ⟨hgradient, hhessian⟩ := computePointDerivativesF_eq a x
  rw [computePointDerivatives_eq] at hgradient
  refine ⟨fun i => ?_, fun i j => ?_⟩
  · exact congrArg (gaussianSlope (-gauss.d1) gauss.d2 C x_trans) (congrFun hgradient i)
  · cases compute_hessian with
    | false => rfl
    | true =>
      rw [if_pos rfl, leafSums_hessian, hgradient, hhessian, computePointDerivatives_eq]
      by_cases hblock : i = 4 ∧ j = 4
      · rw [if_pos hblock, if_pos hblock, gaussianCurvature_add]
      · rw [if_neg hblock, if_neg hblock, add_zero, add_zero]

section Pair

variable {gauss : Gauss ℝ} (hfit : gauss.Fit) {C : Matrix (Fin 3) (Fin 3) ℝ} (hC : C.PosDef)
  (point : PointDerivatives ℝ) (x_trans : Fin 3 → ℝ)

theorem vecMul_of_symm (hC : C.IsSymm) : x_trans ᵥ* C = C *ᵥ x_trans := by
  rw [← mulVec_transpose, hC.eq]

include hfit hC

/-- The check for invalid values passes. -/
theorem not_rejected :
    ¬ (1 < gauss.d2 * Real.exp (-gauss.d2 * (x_trans ⬝ᵥ (C *ᵥ x_trans)) / 2) ∨
      gauss.d2 * Real.exp (-gauss.d2 * (x_trans ⬝ᵥ (C *ᵥ x_trans)) / 2) < 0) := by
  have hexp := exp_quadratic_le_one hfit.d2_pos.le hC x_trans
  have hpos := mul_pos hfit.d2_pos (Real.exp_pos
    (-gauss.d2 * (x_trans ⬝ᵥ (C *ᵥ x_trans)) / 2))
  have hone := mul_le_one₀ hfit.d2_le_one (Real.exp_pos _).le hexp
  rintro (h | h) <;> linarith

theorem updateDerivatives_eq (score_gradient : Fin 6 → ℝ) (hessian : Matrix (Fin 6) (Fin 6) ℝ)
    (compute_hessian : Bool) :
    updateDerivatives realMath gauss score_gradient hessian point x_trans C compute_hessian =
      ((leafSums gauss point C x_trans compute_hessian).1,
        score_gradient + (leafSums gauss point C x_trans compute_hessian).2.1,
        hessian + (leafSums gauss point C x_trans compute_hessian).2.2) := by
  have hexp : -gauss.d2 * (x_trans ⬝ᵥ (C *ᵥ x_trans)) * ((2 : ℕ) : ℝ)⁻¹ =
      -gauss.d2 * (x_trans ⬝ᵥ (C *ᵥ x_trans)) / 2 := by
    rw [Nat.cast_ofNat, div_eq_mul_inv]
  have hvec := vecMul_of_symm x_trans (isSymm_of_posDef hC)
  simp only [updateDerivatives, realMath, hvec, hexp, if_neg (not_rejected hfit hC x_trans)]
  refine Prod.ext rfl (Prod.ext ?_ ?_)
  · funext i
    simp only [leafSums, gaussianSlope, gaussian_eq, Pi.add_apply]
    ring
  · cases compute_hessian with
    | false => simp [leafSums]
    | true =>
      ext i j
      change hessian i j + _ = hessian i j + (leafSums gauss point C x_trans true).2.2 i j
      have hmove : C *ᵥ x_trans ⬝ᵥ point.point_hessian_ i j =
          x_trans ⬝ᵥ (C *ᵥ point.point_hessian_ i j) := by
        rw [dotProduct_comm, dotProduct_mulVec_comm (isSymm_of_posDef hC)]
      rw [leafSums_hessian, gaussianCurvature, gaussian_eq, hmove]
      ring

theorem updateHessian_eq (hessian : Matrix (Fin 6) (Fin 6) ℝ) :
    updateHessian realMath gauss hessian point x_trans C =
      hessian + (leafSums gauss point C x_trans true).2.2 := by
  have hexp : realMath.exp (-gauss.d2 * (x_trans ⬝ᵥ (C *ᵥ x_trans)) / ((2 : ℕ) : ℝ)) =
      Real.exp (-gauss.d2 * (x_trans ⬝ᵥ (C *ᵥ x_trans)) / 2) := by
    rw [Nat.cast_ofNat]
    rfl
  have hreject := not_rejected hfit hC x_trans
  rw [← hexp] at hreject
  simp only [updateHessian, if_neg hreject]
  ext i j
  rw [Matrix.of_apply, Matrix.add_apply, leafSums_hessian, gaussianCurvature, gaussian_eq, ← hexp]
  ring

end Pair

/-! ## All pairs -/

/-- The leaves of the searches can be used. -/
def SearchUsable (search : (Fin 3 → ℝ) → List (Leaf ℝ)) : Prop :=
  ∀ x, ∀ cell ∈ search x, cell.icov_.PosDef

section Pairs

variable {M : Type} [AddCommMonoid M]

/-- A sum over the points and the leaves near them. -/
def overPairs (points : ℕ) (cells : ℕ → List (Leaf ℝ)) (f : ℕ → Leaf ℝ → M) : M :=
  ((List.range points).map fun idx => ((cells idx).map (f idx)).sum).sum

theorem overPairs_congr {points : ℕ} {cells cells' : ℕ → List (Leaf ℝ)} {f f' : ℕ → Leaf ℝ → M}
    (hcells : ∀ idx < points, cells idx = cells' idx)
    (hf : ∀ idx < points, ∀ cell, f idx cell = f' idx cell) :
    overPairs points cells f = overPairs points cells' f' := by
  refine congrArg List.sum (List.map_congr_left fun idx hidx => ?_)
  have hlt := List.mem_range.mp hidx
  rw [hcells idx hlt]
  exact congrArg List.sum (List.map_congr_left fun cell _ => hf idx hlt cell)

/-- An entry of the sum is the sum of this entry. -/
theorem map_overPairs {N : Type} [AddCommMonoid N] (entry : M →+ N) (points : ℕ)
    (cells : ℕ → List (Leaf ℝ)) (f : ℕ → Leaf ℝ → M) :
    entry (overPairs points cells f) =
      overPairs points cells fun idx cell => entry (f idx cell) := by
  simp only [overPairs, map_list_sum, List.map_map, Function.comp_def]

theorem overPairs_zero (points : ℕ) (cells : ℕ → List (Leaf ℝ)) :
    (overPairs points cells fun _ _ => (0 : M)) = 0 := by
  simp [overPairs]

theorem overPairs_add (points : ℕ) (cells : ℕ → List (Leaf ℝ)) (f f' : ℕ → Leaf ℝ → M) :
    (overPairs points cells fun idx cell => f idx cell + f' idx cell) =
      overPairs points cells f + overPairs points cells f' := by
  simp only [overPairs, List.sum_map_add]

/-- A weighted sum of sums over the pairs. -/
theorem overPairs_weighted (points : ℕ) (cells : ℕ → List (Leaf ℝ)) (δ : Fin 6 → ℝ)
    (f : Fin 6 → ℕ → Leaf ℝ → ℝ) :
    ∑ i, δ i * overPairs points cells (f i) =
      overPairs points cells fun idx cell => ∑ i, δ i * f i idx cell := by
  let weigh : (Fin 6 → ℝ) →+ ℝ := AddMonoidHom.mk' (fun v => δ ⬝ᵥ v) (dotProduct_add δ)
  have hweigh := map_overPairs weigh points cells fun idx cell i => f i idx cell
  have hentry : ∀ i, overPairs points cells (fun idx cell i => f i idx cell) i =
      overPairs points cells (f i) := fun i =>
    map_overPairs (Pi.evalAddMonoidHom (fun _ : Fin 6 => ℝ) i) points cells _
  calc ∑ i, δ i * overPairs points cells (f i)
      = δ ⬝ᵥ overPairs points cells fun idx cell i => f i idx cell :=
        Finset.sum_congr rfl fun i _ => congrArg (δ i * ·) (hentry i).symm
    _ = overPairs points cells fun idx cell => ∑ i, δ i * f i idx cell := hweigh

/-- The derivative of a sum over the pairs. -/
theorem hasDerivAt_overPairs {points : ℕ} {cells : ℕ → List (Leaf ℝ)} {f : ℕ → Leaf ℝ → ℝ → ℝ}
    {f' : ℕ → Leaf ℝ → ℝ} {t : ℝ}
    (h : ∀ idx, ∀ cell ∈ cells idx, HasDerivAt (f idx cell) (f' idx cell) t) :
    HasDerivAt (fun s => overPairs points cells fun idx cell => f idx cell s)
      (overPairs points cells f') t :=
  hasDerivAt_list_sum _ fun idx _ => hasDerivAt_list_sum _ (h idx)

/-- A sum over the pairs of numbers from 0 to `top`. -/
theorem overPairs_mem {points : ℕ} {cells : ℕ → List (Leaf ℝ)} {f : ℕ → Leaf ℝ → ℝ} {top : ℝ}
    (h : ∀ idx, ∀ cell ∈ cells idx, 0 ≤ f idx cell ∧ f idx cell ≤ top) :
    0 ≤ overPairs points cells f ∧
      overPairs points cells f ≤
        ((List.range points).map fun idx => ((cells idx).length : ℝ) * top).sum := by
  refine ⟨List.sum_nonneg ?_, List.sum_le_sum fun idx _ => ?_⟩
  · simp only [List.mem_map]
    rintro _ ⟨idx, -, rfl⟩
    refine List.sum_nonneg ?_
    simp only [List.mem_map]
    rintro _ ⟨cell, hcell, rfl⟩
    exact (h idx cell hcell).1
  · refine (List.sum_le_sum fun cell hcell => (h idx cell hcell).2).trans ?_
    simp

/-- A sum of positive numbers over some pairs. -/
theorem overPairs_pos {points : ℕ} {cells : ℕ → List (Leaf ℝ)} {f : ℕ → Leaf ℝ → ℝ}
    (h : ∀ idx < points, ∀ cell ∈ cells idx, 0 < f idx cell)
    (hsome : ∃ idx < points, cells idx ≠ []) : 0 < overPairs points cells f := by
  have hnonneg : ∀ idx < points, 0 ≤ ((cells idx).map (f idx)).sum := by
    intro idx hidx
    refine List.sum_nonneg ?_
    simp only [List.mem_map]
    rintro _ ⟨cell, hcell, rfl⟩
    exact (h idx hidx cell hcell).le
  obtain ⟨idx, hidx, hne⟩ := hsome
  have hpos : 0 < ((cells idx).map (f idx)).sum := by
    refine List.sum_pos _ ?_ (by simpa using hne)
    simp only [List.mem_map]
    rintro _ ⟨cell, hcell, rfl⟩
    exact h idx hidx cell hcell
  refine hpos.trans_le (List.single_le_sum ?_ _ (List.mem_map.mpr ⟨idx, List.mem_range.mpr hidx,
    rfl⟩))
  simp only [List.mem_map, List.mem_range]
  rintro _ ⟨idx', hidx', rfl⟩
  exact hnonneg idx' hidx'

end Pairs

section Loops

theorem Sums.add_eq (sums inc : Sums ℝ) :
    (sums.1 + inc.1, sums.2.1 + inc.2.1, sums.2.2 + inc.2.2) = sums + inc :=
  rfl

variable {gauss : Gauss ℝ} (hfit : gauss.Fit) {search : (Fin 3 → ℝ) → List (Leaf ℝ)}
  (hsearch : SearchUsable search) (input trans_cloud : List (Fin 3 → ℝ))
include hfit hsearch

theorem pointSums_eq (tables : AngleTables ℝ) (compute_hessian : Bool) (idx : ℕ) :
    pointSums realMath gauss search input trans_cloud tables compute_hessian idx =
      ((search (pointAt trans_cloud idx)).map fun cell =>
        leafSums gauss (tables.computePointDerivativesF (pointAt input idx)) cell.icov_
          (pointAt trans_cloud idx - cell.mean_) compute_hessian).sum := by
  rw [pointSums, foldl_add_eq (f := fun cell => leafSums gauss
    (tables.computePointDerivativesF (pointAt input idx)) cell.icov_
    (pointAt trans_cloud idx - cell.mean_) compute_hessian), zero_add]
  intro sums cell hcell
  have hupdate := updateDerivatives_eq hfit (hsearch _ cell hcell)
    (tables.computePointDerivativesF (pointAt input idx)) (pointAt trans_cloud idx - cell.mean_)
    sums.2.1 sums.2.2 compute_hessian
  rw [← Sums.add_eq]
  simp only [hupdate]

theorem computeHessian_eq (tables : AngleTables ℝ) :
    computeHessian realMath gauss search input trans_cloud tables =
      overPairs input.length (fun idx => search (pointAt trans_cloud idx)) fun idx cell =>
        (leafSums gauss (tables.computePointDerivatives (pointAt input idx)) cell.icov_
          (pointAt trans_cloud idx - cell.mean_) true).2.2 := by
  have hpoint : ∀ hessian idx, (search (pointAt trans_cloud idx)).foldl
      (fun hessian cell => updateHessian realMath gauss hessian
        (tables.computePointDerivatives (pointAt input idx))
        (pointAt trans_cloud idx - cell.mean_) cell.icov_) hessian =
      hessian + ((search (pointAt trans_cloud idx)).map fun cell =>
        (leafSums gauss (tables.computePointDerivatives (pointAt input idx)) cell.icov_
          (pointAt trans_cloud idx - cell.mean_) true).2.2).sum := by
    intro hessian idx
    rw [foldl_add_eq (f := fun cell =>
      (leafSums gauss (tables.computePointDerivatives (pointAt input idx)) cell.icov_
        (pointAt trans_cloud idx - cell.mean_) true).2.2)]
    intro hessian cell hcell
    rw [updateHessian_eq hfit (hsearch _ cell hcell)]
  rw [computeHessian]
  simp only [hpoint]
  rw [foldl_add_eq (f := fun idx => ((search (pointAt trans_cloud idx)).map fun cell =>
    (leafSums gauss (tables.computePointDerivatives (pointAt input idx)) cell.icov_
      (pointAt trans_cloud idx - cell.mean_) true).2.2).sum), zero_add]
  · rfl
  · intro hessian idx _
    rfl

/-- Any schedule gives the same derivatives, those of a loop that takes the points in
order. -/
theorem computeDerivatives_eq {num_threads : ℕ} (p : Fin 6 → ℝ) (compute_hessian : Bool)
    {schedule : List (Fin num_threads × ℕ)}
    (hschedule : (schedule.map Prod.snd).Perm (List.range input.length)) :
    computeDerivatives realMath gauss search input trans_cloud p compute_hessian schedule =
      overPairs input.length (fun idx => search (pointAt trans_cloud idx)) fun idx cell =>
        leafSums gauss ((computeAngleDerivatives realMath p).computePointDerivativesF
          (pointAt input idx)) cell.icov_ (pointAt trans_cloud idx - cell.mean_)
          compute_hessian := by
  rw [computeDerivatives, parallelSum_eq _ hschedule]
  exact congrArg List.sum (List.map_congr_left fun idx _ =>
    pointSums_eq hfit hsearch input trans_cloud _ _ idx)

end Loops

/-! ## The objective -/

section Objective

variable (gauss : Gauss ℝ) (input : List (Fin 3 → ℝ)) (cells : ℕ → List (Leaf ℝ))
  (q : Fin 6 → ℝ)

/-- The score of a transform vector when the leaves near each point are held fixed. -/
noncomputable def objective : ℝ :=
  overPairs input.length cells fun idx cell => gaussian (-gauss.d1) gauss.d2 cell.icov_
    (transformPoint realMath q (pointAt input idx) - cell.mean_)

/-- The slope of the objective by an entry of the transform vector. -/
noncomputable def objectiveSlope (i : Fin 6) : ℝ :=
  overPairs input.length cells fun idx cell => gaussianSlope (-gauss.d1) gauss.d2 cell.icov_
    (transformPoint realMath q (pointAt input idx) - cell.mean_)
    (exactGradient (anglesAt q) (pointAt input idx) i)

/-- The curvature of the objective by two entries of the transform vector. -/
noncomputable def objectiveCurvature (i j : Fin 6) : ℝ :=
  overPairs input.length cells fun idx cell => gaussianCurvature (-gauss.d1) gauss.d2 cell.icov_
    (transformPoint realMath q (pointAt input idx) - cell.mean_)
    (exactGradient (anglesAt q) (pointAt input idx) j)
    (exactGradient (anglesAt q) (pointAt input idx) i)
    (exactHessian (anglesAt q) (pointAt input idx) i j)

variable {gauss input cells} (hcells : ∀ idx, ∀ cell ∈ cells idx, cell.icov_.PosDef)
include hcells

theorem hasDerivAt_objective (i : Fin 6) :
    HasDerivAt (fun s => objective gauss input cells (Function.update q i s))
      (objectiveSlope gauss input cells q i) (q i) := by
  refine hasDerivAt_overPairs fun idx cell hcell => ?_
  have hmove := (hasDerivAt_transformPoint q (pointAt input idx) i).sub_const cell.mean_
  have hslope := hasDerivAt_gaussian (a := -gauss.d1) (b := gauss.d2)
    (isSymm_of_posDef (hcells idx cell hcell)) hmove
  rwa [Function.update_eq_self] at hslope

theorem hasDerivAt_objectiveSlope (i j : Fin 6) :
    HasDerivAt (fun s => objectiveSlope gauss input cells (Function.update q j s) i)
      (objectiveCurvature gauss input cells q i j) (q j) := by
  refine hasDerivAt_overPairs fun idx cell hcell => ?_
  have hmove := (hasDerivAt_transformPoint q (pointAt input idx) j).sub_const cell.mean_
  have hturn := hasDerivAt_exactGradient q (pointAt input idx) i j
  have hcurvature := hasDerivAt_gaussianSlope (a := -gauss.d1) (b := gauss.d2)
    (isSymm_of_posDef (hcells idx cell hcell)) hmove hturn
  rwa [Function.update_eq_self] at hcurvature

/-- The objective along a line of transform vectors. -/
theorem hasDerivAt_objective_line (δ : Fin 6 → ℝ) :
    HasDerivAt (fun t : ℝ => objective gauss input cells (q + t • δ))
      (∑ i, δ i * objectiveSlope gauss input cells q i) 0 := by
  have hpairs : ∑ i, δ i * objectiveSlope gauss input cells q i =
      overPairs input.length cells fun idx cell =>
        gaussianSlope (-gauss.d1) gauss.d2 cell.icov_
          (transformPoint realMath q (pointAt input idx) - cell.mean_)
          (∑ i, δ i • exactGradient (anglesAt q) (pointAt input idx) i) := by
    simp only [objectiveSlope, overPairs_weighted, gaussianSlope_sum]
  rw [hpairs]
  refine hasDerivAt_overPairs fun idx cell hcell => ?_
  have hmove := (hasDerivAt_transformPoint_line q δ (pointAt input idx)).sub_const cell.mean_
  have hslope := hasDerivAt_gaussian (a := -gauss.d1) (b := gauss.d2)
    (isSymm_of_posDef (hcells idx cell hcell)) hmove
  rwa [zero_smul, add_zero] at hslope

end Objective

/-! ## The derivatives of the objective -/

section Exact

variable {gauss : Gauss ℝ} {search : (Fin 3 → ℝ) → List (Leaf ℝ)} (input : List (Fin 3 → ℝ))

/-- The leaves that the search finds near the points of the transformed cloud. -/
noncomputable def cellsAt (search : (Fin 3 → ℝ) → List (Leaf ℝ)) (p : Fin 6 → ℝ) (idx : ℕ) :
    List (Leaf ℝ) :=
  search (transformPoint realMath p (pointAt input idx))

theorem pointAt_transformPointCloud (p : Fin 6 → ℝ) {idx : ℕ} (h : idx < input.length) :
    pointAt (transformPointCloud realMath input p) idx =
      transformPoint realMath p (pointAt input idx) := by
  simp [pointAt, transformPointCloud, h]

variable (hfit : gauss.Fit) (hsearch : SearchUsable search) {p : Fin 6 → ℝ} (hp : Sharp p)
include hfit hsearch hp

theorem computeHessian_apply (i j : Fin 6) :
    computeHessian realMath gauss search input (transformPointCloud realMath input p)
        (computeAngleDerivatives realMath p) i j =
      objectiveCurvature gauss input (cellsAt input search p) p i j := by
  rw [computeHessian_eq hfit hsearch, computeAngleDerivatives_of_sharp hp]
  refine (map_overPairs (Matrix.entryAddMonoidHom ℝ i j) _ _ _).trans
    (overPairs_congr (fun idx hidx => ?_) fun idx hidx cell => ?_)
  · rw [pointAt_transformPointCloud input p hidx]
    rfl
  · rw [pointAt_transformPointCloud input p hidx, computePointDerivatives_eq]
    rfl

/-- The sums of `computeDerivatives`. -/
theorem computeDerivatives_apply {num_threads : ℕ} {schedule : List (Fin num_threads × ℕ)}
    (hschedule : (schedule.map Prod.snd).Perm (List.range input.length)) (compute_hessian : Bool) :
    let r := computeDerivatives realMath gauss search input (transformPointCloud realMath input p)
      p compute_hessian schedule
    r.1 = objective gauss input (cellsAt input search p) p ∧
      (∀ i, r.2.1 i = objectiveSlope gauss input (cellsAt input search p) p i) ∧
      ∀ i j, r.2.2 i j = if compute_hessian then
          objectiveCurvature gauss input (cellsAt input search p) p i j +
            if i = 4 ∧ j = 4 then
              overPairs input.length (cellsAt input search p) fun idx cell =>
                gaussianSlope (-gauss.d1) gauss.d2 cell.icov_
                  (transformPoint realMath p (pointAt input idx) - cell.mean_)
                  ![2 * Real.sin (p 4) * pointAt input idx 2, 0, 0]
            else 0
        else 0 := by
  intro r
  have hr : r = overPairs input.length (cellsAt input search p) fun idx cell =>
      leafSums gauss ((angleTables (anglesAt p)).computePointDerivativesF (pointAt input idx))
        cell.icov_ (transformPoint realMath p (pointAt input idx) - cell.mean_)
        compute_hessian := by
    refine (computeDerivatives_eq hfit hsearch input _ p compute_hessian hschedule).trans ?_
    rw [computeAngleDerivatives_of_sharp hp]
    refine overPairs_congr (fun idx hidx => ?_) fun idx hidx cell => ?_
    · rw [pointAt_transformPointCloud input p hidx]
      rfl
    · rw [pointAt_transformPointCloud input p hidx]
  have hentry : ∀ entry : Sums ℝ →+ ℝ, entry r =
      overPairs input.length (cellsAt input search p) fun idx cell => entry
        (leafSums gauss ((angleTables (anglesAt p)).computePointDerivativesF (pointAt input idx))
          cell.icov_ (transformPoint realMath p (pointAt input idx) - cell.mean_)
          compute_hessian) := by
    intro entry
    rw [hr]
    exact map_overPairs entry _ _ _
  refine ⟨hentry (AddMonoidHom.fst _ _), fun i => ?_, fun i j => ?_⟩
  · refine (hentry ((Pi.evalAddMonoidHom _ i).comp
      ((AddMonoidHom.fst _ _).comp (AddMonoidHom.snd _ _)))).trans ?_
    exact overPairs_congr (fun _ _ => rfl) fun idx _ cell =>
      (leafSums_float gauss (anglesAt p) _ _ _ compute_hessian).1 i
  · refine (hentry ((Matrix.entryAddMonoidHom ℝ i j).comp
      ((AddMonoidHom.snd _ _).comp (AddMonoidHom.snd _ _)))).trans ?_
    refine (overPairs_congr (fun _ _ => rfl) fun idx _ cell =>
      (leafSums_float gauss (anglesAt p) _ _ _ compute_hessian).2 i j).trans ?_
    cases compute_hessian with
    | false => exact overPairs_zero _ _
    | true =>
      simp only [if_true]
      by_cases hblock : i = 4 ∧ j = 4
      · simp only [if_pos hblock]
        exact overPairs_add _ _ _ _
      · simp only [if_neg hblock, add_zero]
        rfl

end Exact

end RoboRacer.Pclomp
