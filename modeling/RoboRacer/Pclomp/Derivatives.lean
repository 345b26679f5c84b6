/-
  Pclomp/Derivatives.lean --- score, gradient and Hessian of the registration
  (`ndt_omp_impl.hpp`: `updateDerivatives`, `computeDerivatives`, `updateHessian`,
  `computeHessian`, the Gaussian fitting parameters).

  Every point of the source cloud adds, for every leaf near its image, a Gaussian of
  its distance to the mean of the leaf.  `computeDerivatives` does so in a parallel
  loop, whose threads have accumulators of their own; `computeHessian` runs through
  the points in order and uses the `double` tables.

  The points are finite and their coordinates exact.
-/
import RoboRacer.Foundation.ParallelSum
import RoboRacer.Pclomp.AngleDerivatives
import RoboRacer.Pclomp.Neighborhood

set_option autoImplicit false

namespace RoboRacer.Pclomp

open Matrix RoboRacer.Foundation

/-! ## The fitting parameters -/

/-- `gauss_d1_`, `gauss_d2_` and `gauss_d3_`. -/
structure Gauss (K : Type) where
  d1 : K
  d2 : K
  d3 : K

section Gauss

variable {K : Type} [Field K]

/-- The fitting parameters of the constructor and of `computeTransformation`. -/
def fitGauss (m : CMath K) (outlier_ratio resolution : K) : Gauss K :=
  let gauss_c1 := ((10 : ℕ) : K) * (1 - outlier_ratio)
  let gauss_c2 := outlier_ratio / resolution ^ 3
  let gauss_d3 := -m.log gauss_c2
  let gauss_d1 := -m.log (gauss_c1 + gauss_c2) - gauss_d3
  { d1 := gauss_d1
    d2 := -((2 : ℕ) : K) *
      m.log ((-m.log (gauss_c1 * m.exp (-((2 : ℕ) : K)⁻¹) + gauss_c2) - gauss_d3) / gauss_d1)
    d3 := gauss_d3 }

end Gauss

/-! ## One point and one leaf -/

/-- A score, a gradient and a Hessian. -/
abbrev Sums (K : Type) : Type :=
  K × (Fin 6 → K) × Matrix (Fin 6) (Fin 6) K

section Update

variable {K : Type} [Field K] [LinearOrder K] (m : CMath K) (gauss : Gauss K)

/-- `updateDerivatives`: the increment of the score, and the gradient and the Hessian with
theirs. -/
def updateDerivatives (score_gradient : Fin 6 → K) (hessian : Matrix (Fin 6) (Fin 6) K)
    (point : PointDerivatives K) (x_trans : Fin 3 → K) (c_inv : Matrix (Fin 3) (Fin 3) K)
    (compute_hessian : Bool) : Sums K :=
  let e_x_cov_x := m.exp (-gauss.d2 * (x_trans ⬝ᵥ (x_trans ᵥ* c_inv)) * ((2 : ℕ) : K)⁻¹)
  let score_inc := -gauss.d1 * e_x_cov_x
  let e_x_cov_x := gauss.d2 * e_x_cov_x
  if 1 < e_x_cov_x ∨ e_x_cov_x < 0 then (0, score_gradient, hessian)
  else
    let e_x_cov_x := e_x_cov_x * gauss.d1
    let c_inv_x_point_gradient := fun i => c_inv *ᵥ point.point_gradient_ i
    let x_dot := fun i => x_trans ⬝ᵥ c_inv_x_point_gradient i
    (score_inc,
      fun i => score_gradient i + e_x_cov_x * x_dot i,
      if compute_hessian then
        Matrix.of fun i j => hessian i j + e_x_cov_x * (-gauss.d2 * x_dot i * x_dot j +
          (x_trans ᵥ* c_inv) ⬝ᵥ point.point_hessian_ i j +
          point.point_gradient_ j ⬝ᵥ c_inv_x_point_gradient i)
      else hessian)

/-- `updateHessian`. -/
def updateHessian (hessian : Matrix (Fin 6) (Fin 6) K) (point : PointDerivatives K)
    (x_trans : Fin 3 → K) (c_inv : Matrix (Fin 3) (Fin 3) K) : Matrix (Fin 6) (Fin 6) K :=
  let e_x_cov_x := gauss.d2 *
    m.exp (-gauss.d2 * (x_trans ⬝ᵥ (c_inv *ᵥ x_trans)) / ((2 : ℕ) : K))
  if 1 < e_x_cov_x ∨ e_x_cov_x < 0 then hessian
  else
    let e_x_cov_x := e_x_cov_x * gauss.d1
    Matrix.of fun i j =>
      let cov_dxd_pi := c_inv *ᵥ point.point_gradient_ i
      hessian i j + e_x_cov_x *
        (-gauss.d2 * (x_trans ⬝ᵥ cov_dxd_pi) * (x_trans ⬝ᵥ (c_inv *ᵥ point.point_gradient_ j)) +
          x_trans ⬝ᵥ (c_inv *ᵥ point.point_hessian_ i j) +
          point.point_gradient_ j ⬝ᵥ cov_dxd_pi)

end Update

/-! ## All points -/

section Loops

variable {K : Type} [Field K] [LinearOrder K] (m : CMath K) (gauss : Gauss K)
  (search : (Fin 3 → K) → List (Leaf K)) (input trans_cloud : List (Fin 3 → K))

/-- A point of a cloud. -/
def pointAt (cloud : List (Fin 3 → K)) (idx : ℕ) : Fin 3 → K :=
  cloud[idx]?.getD 0

/-- `transformPointCloud`, with the transformation of a transform vector. -/
def transformPointCloud (p : Fin 6 → K) : List (Fin 3 → K) :=
  input.map (transformPoint m p)

/-- The body of the loop of `computeDerivatives`: the sums of one point over its leaves. -/
def pointSums (tables : AngleTables K) (compute_hessian : Bool) (idx : ℕ) : Sums K :=
  let x_trans_pt := pointAt trans_cloud idx
  (search x_trans_pt).foldl
    (fun sums cell =>
      let x := pointAt input idx
      let x_trans := x_trans_pt - cell.mean_
      let updated := updateDerivatives m gauss sums.2.1 sums.2.2
        (tables.computePointDerivativesF x) x_trans cell.icov_ compute_hessian
      (sums.1 + updated.1, updated.2))
    0

/-- `computeDerivatives`; `schedule` is the order in which the threads take the points. -/
def computeDerivatives {num_threads : ℕ} (p : Fin 6 → K) (compute_hessian : Bool)
    (schedule : List (Fin num_threads × ℕ)) : Sums K :=
  parallelSum
    (pointSums m gauss search input trans_cloud (computeAngleDerivatives m p) compute_hessian)
    schedule

/-- `computeHessian`, with the tables that the last `computeAngleDerivatives` has left. -/
def computeHessian (tables : AngleTables K) : Matrix (Fin 6) (Fin 6) K :=
  (List.range input.length).foldl
    (fun hessian idx =>
      let x_trans_pt := pointAt trans_cloud idx
      (search x_trans_pt).foldl
        (fun hessian cell =>
          updateHessian m gauss hessian (tables.computePointDerivatives (pointAt input idx))
            (x_trans_pt - cell.mean_) cell.icov_)
        hessian)
    0

end Loops

/-! ## The flag -/

section Flag

variable {K : Type} [Field K] [LinearOrder K] (m : CMath K) (gauss : Gauss K)

/-- `compute_hessian` matters for the Hessian only. -/
theorem updateDerivatives_flag (score_gradient : Fin 6 → K)
    (hessian hessian' : Matrix (Fin 6) (Fin 6) K) (point : PointDerivatives K)
    (x_trans : Fin 3 → K) (c_inv : Matrix (Fin 3) (Fin 3) K) (compute_hessian : Bool) :
    (updateDerivatives m gauss score_gradient hessian point x_trans c_inv compute_hessian).1 =
        (updateDerivatives m gauss score_gradient hessian' point x_trans c_inv true).1 ∧
      (updateDerivatives m gauss score_gradient hessian point x_trans c_inv compute_hessian).2.1 =
        (updateDerivatives m gauss score_gradient hessian' point x_trans c_inv true).2.1 := by
  simp only [updateDerivatives]
  split_ifs <;> exact ⟨rfl, rfl⟩

variable (search : (Fin 3 → K) → List (Leaf K)) (input trans_cloud : List (Fin 3 → K))

theorem pointSums_flag (tables : AngleTables K) (compute_hessian : Bool) (idx : ℕ) :
    (pointSums m gauss search input trans_cloud tables compute_hessian idx).1 =
        (pointSums m gauss search input trans_cloud tables true idx).1 ∧
      (pointSums m gauss search input trans_cloud tables compute_hessian idx).2.1 =
        (pointSums m gauss search input trans_cloud tables true idx).2.1 := by
  simp only [pointSums]
  generalize search (pointAt trans_cloud idx) = cells
  -- the sums of the two loops agree but for their Hessians
  suffices h : ∀ sums sums' : Sums K, sums.1 = sums'.1 → sums.2.1 = sums'.2.1 →
      (cells.foldl _ sums).1 = (cells.foldl _ sums').1 ∧
        (cells.foldl _ sums).2.1 = (cells.foldl _ sums').2.1 from h 0 0 rfl rfl
  induction cells with
  | nil => exact fun _ _ hscore hgradient => ⟨hscore, hgradient⟩
  | cons cell cells ih =>
    intro sums sums' hscore hgradient
    obtain ⟨hinc, hnext⟩ := updateDerivatives_flag m gauss sums.2.1 sums.2.2 sums'.2.2
      (tables.computePointDerivativesF (pointAt input idx)) (pointAt trans_cloud idx - cell.mean_)
      cell.icov_ compute_hessian
    rw [hgradient] at hinc hnext
    refine ih _ _ ?_ ?_ <;> dsimp only
    · rw [hgradient, hscore, hinc]
    · rw [hgradient, hnext]

/-- Score and gradient do not depend on the flag, nor on the schedule. -/
theorem computeDerivatives_flag {num_threads : ℕ} (p : Fin 6 → K) (compute_hessian : Bool)
    {schedule schedule' : List (Fin num_threads × ℕ)}
    (hschedule : (schedule.map Prod.snd).Perm (schedule'.map Prod.snd)) :
    let sums := computeDerivatives m gauss search input trans_cloud p compute_hessian schedule
    let sums' := computeDerivatives m gauss search input trans_cloud p true schedule'
    sums.1 = sums'.1 ∧ sums.2.1 = sums'.2.1 := by
  have hflag := pointSums_flag m gauss search input trans_cloud (computeAngleDerivatives m p)
    compute_hessian
  let score : Sums K →+ K := AddMonoidHom.fst _ _
  let gradient : Sums K →+ (Fin 6 → K) := (AddMonoidHom.fst _ _).comp (AddMonoidHom.snd _ _)
  exact ⟨map_parallelSum_congr _ score hschedule fun idx => (hflag idx).1,
    map_parallelSum_congr _ gradient hschedule fun idx => (hflag idx).2⟩

end Flag

end RoboRacer.Pclomp
