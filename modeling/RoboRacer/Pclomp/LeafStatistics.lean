/-
  Pclomp/LeafStatistics.lean --- mean and covariance of a leaf.

  `Leaf ()` sets `cov_` to the identity, and the first pass adds the squares of
  the points to it.  So the covariance of a leaf with `n` points is
  `(n - 1) / n ^ 2` times the identity plus the scatter of the points: it is
  positive definite as soon as there are two points, its eigenvalues pass the
  check of the second pass, and the leaf keeps its number of points.

  This is so in exact arithmetic.  The code computes with `double`, where rounding
  can leave an eigenvalue that is not positive, and the leaf is dropped then.
-/
import RoboRacer.Foundation.Moments
import RoboRacer.Foundation.Spectral
import RoboRacer.Pclomp.VoxelCells

set_option autoImplicit false

namespace RoboRacer.Pclomp

open Matrix RoboRacer.Foundation

/-! ## The sums of the first pass -/

section Sums

variable {K : Type} [Field K]

/-- What the first pass has added up from the points of a leaf. -/
theorem foldl_addPoint (points : List (Fin 3 → K)) :
    points.foldl Leaf.addPoint Leaf.new =
      { nr_points := points.length
        mean_ := points.sum
        centroid := points.sum
        cov_ := 1 + secondMoment points
        icov_ := 0
        evecs_ := 1
        evals_ := 0 } := by
  induction points using List.reverseRecOn with
  | nil => simp [Leaf.new, secondMoment]
  | append_singleton points p ih =>
    rw [List.foldl_append, ih, List.foldl_cons, List.foldl_nil, Leaf.addPoint]
    -- the centroid is cleared when the leaf is empty, and its sum is zero then
    have hclear : points = [] → 0 = points.sum := by
      rintro rfl
      rfl
    simpa [secondMoment, add_assoc] using hclear

/-- The sums of the points of a leaf. -/
abbrev summed (points : List (Fin 3 → K)) : Leaf K :=
  points.foldl Leaf.addPoint Leaf.new

theorem summed_nr_points (points : List (Fin 3 → K)) :
    (summed points).nr_points = points.length := by
  rw [summed, foldl_addPoint]

theorem normalize_mean (points : List (Fin 3 → K)) :
    (summed points).normalize.mean_ = mean points := by
  simp [Leaf.normalize, foldl_addPoint, mean]

theorem normalize_centroid (points : List (Fin 3 → K)) :
    (summed points).normalize.centroid = mean points := by
  simp [Leaf.normalize, foldl_addPoint, mean]

/-- A leaf without enough points keeps its number of points. -/
theorem finish_nr_points_of_lt [LinearOrder K] (lib : GridLib K) (mult : K) {min_points : ℤ}
    {points : List (Fin 3 → K)} (h : points.length < min_points) :
    ((summed points).finish lib mult min_points).nr_points = points.length := by
  rw [Leaf.finish, if_pos (by rw [summed_nr_points]; exact h)]
  exact summed_nr_points points

/-- **The single pass covariance.** -/
theorem singlePassCov_eq [CharZero K] {points : List (Fin 3 → K)} (hne : points ≠ []) :
    (summed points).singlePassCov =
      ((points.length - 1 : K) / points.length ^ 2) • (1 + scatter points) := by
  have hn : (points.length : K) ≠ 0 := Nat.cast_ne_zero.mpr (by simpa using hne)
  have hsum : (points.length : K)⁻¹ • points.sum = mean points := rfl
  have houter : vecMulVec points.sum (mean points) =
      (points.length : K) • vecMulVec (mean points) (mean points) := by
    rw [← length_smul_mean hne, smul_vecMulVec]
  have hinner : (points.length : K)⁻¹ • (1 + secondMoment points -
        (vecMulVec points.sum (mean points) + vecMulVec points.sum (mean points))) +
      vecMulVec (mean points) (mean points) =
      (points.length : K)⁻¹ • (1 + scatter points) := by
    have hcancel : (points.length : K)⁻¹ • ((points.length : K) •
        vecMulVec (mean points) (mean points)) = vecMulVec (mean points) (mean points) := by
      rw [smul_smul, inv_mul_cancel₀ hn, one_smul]
    rw [houter, secondMoment_eq hne, ← add_assoc, add_sub_add_right_eq_sub, smul_sub, hcancel,
      sub_add_cancel]
  simp only [Leaf.singlePassCov, summed, foldl_addPoint, Int.cast_natCast, hsum]
  rw [hinner, smul_smul]
  congr 1
  field_simp

end Sums

/-! ## Eigenvalues -/

/-- What the libraries promise about symmetric matrices and about inverses. -/
structure EigenLaws (lib : GridLib ℝ) : Prop where
  ascending : ∀ M, M.IsSymm → Monotone (lib.eigenvalues M)
  spectral : ∀ M, M.IsSymm → Spectral (lib.eigenvectors M) (lib.eigenvalues M) M
  inverse : ∀ M, IsUnit M.det → M * lib.inverse M = 1

/-- The statistics that a search can rely on. -/
structure Leaf.Usable (mult : ℝ) (leaf : Leaf ℝ) : Prop where
  posDef : leaf.cov_.PosDef
  inverse : leaf.cov_ * leaf.icov_ = 1
  inversePosDef : leaf.icov_.PosDef
  spectral : Spectral leaf.evecs_ leaf.evals_ leaf.cov_
  conditioned : ∀ axis, mult * leaf.evals_ 2 ≤ leaf.evals_ axis ∧
    leaf.evals_ axis ≤ leaf.evals_ 2

section Inflate

variable {mult : ℝ} {eigen_val : Fin 3 → ℝ}

/-- Inflation keeps the largest eigenvalue and lifts the others to their share of it. -/
theorem inflate_conditioned (hmult : mult ≤ 1) (hpos : 0 < eigen_val 2)
    (hmono : Monotone eigen_val) (axis : Fin 3) :
    mult * eigen_val 2 ≤ inflate mult eigen_val axis ∧
      inflate mult eigen_val axis ≤ eigen_val 2 ∧ inflate mult eigen_val 2 = eigen_val 2 := by
  have hshare : mult * eigen_val 2 ≤ eigen_val 2 := mul_le_of_le_one_left hpos.le hmult
  have h01 : eigen_val 0 ≤ eigen_val 1 := hmono (by decide)
  have h12 : eigen_val 1 ≤ eigen_val 2 := hmono (by decide)
  by_cases hlow : eigen_val 0 < mult * eigen_val 2
  · simp only [inflate, if_pos hlow]
    fin_cases axis
    · simpa using hshare
    · by_cases hsecond : eigen_val 1 < mult * eigen_val 2
      · simpa [hsecond] using hshare
      · simpa [hsecond] using ⟨not_lt.mp hsecond, h12⟩
    · simpa using hshare
  · have h0 := not_lt.mp hlow
    simp only [inflate, if_neg hlow, and_true]
    fin_cases axis
    · exact ⟨h0, h01.trans h12⟩
    · exact ⟨h0.trans h01, h12⟩
    · exact ⟨hshare, le_refl _⟩

/-- Inflation keeps the eigenvalues positive: it replaces them by something greater only. -/
theorem inflate_pos (hpos : ∀ axis, 0 < eigen_val axis) (axis : Fin 3) :
    0 < inflate mult eigen_val axis := by
  by_cases hlow : eigen_val 0 < mult * eigen_val 2
  · have hshare : 0 < mult * eigen_val 2 := (hpos 0).trans hlow
    simp only [inflate, if_pos hlow]
    fin_cases axis
    · simpa using hshare
    · by_cases hsecond : eigen_val 1 < mult * eigen_val 2
      · simpa [hsecond] using hshare
      · simpa [hsecond] using hpos 1
    · simpa using hpos 2
  · rw [inflate, if_neg hlow]
    exact hpos axis

end Inflate

/-- The inverse of an orthonormal matrix is its transpose. -/
theorem EigenLaws.inverse_orthonormal {lib : GridLib ℝ} (hlib : EigenLaws lib)
    {V : Matrix (Fin 3) (Fin 3) ℝ} (hV : Vᵀ * V = 1) : lib.inverse V = Vᵀ := by
  have hunit : IsUnit V.det := (isUnit_iff_isUnit_det V).mp (isUnit_of_orthonormal hV)
  calc lib.inverse V = Vᵀ * V * lib.inverse V := by rw [hV, Matrix.one_mul]
    _ = Vᵀ := by rw [Matrix.mul_assoc, hlib.inverse V hunit, Matrix.mul_one]

/-! ## The second pass -/

section Finish

variable {lib : GridLib ℝ} (hlib : EigenLaws lib) {mult : ℝ} {min_points : ℤ}

/-- The second pass over a leaf with enough points whose eigenvalues pass the check. -/
theorem finish_of_pos {leaf : Leaf ℝ} (henough : min_points ≤ leaf.nr_points)
    (hpos : ∀ axis, 0 < lib.eigenvalues leaf.singlePassCov axis) :
    let eigen_val := lib.eigenvalues leaf.singlePassCov
    let evecs := lib.eigenvectors leaf.singlePassCov
    let cov :=
      if eigen_val 0 < mult * eigen_val 2 then
        evecs * diagonal (inflate mult eigen_val) * lib.inverse evecs
      else leaf.singlePassCov
    leaf.finish lib mult min_points =
      { leaf.normalize with
        cov_ := cov
        evecs_ := evecs
        evals_ := inflate mult eigen_val
        icov_ := lib.inverse cov } := by
  intro eigen_val evecs cov
  have hcheck : ¬ (eigen_val 0 < 0 ∨ eigen_val 1 < 0 ∨ eigen_val 2 ≤ 0) := by
    rintro (h | h | h)
    · exact absurd (hpos 0) (by linarith)
    · exact absurd (hpos 1) (by linarith)
    · exact absurd (hpos 2) (by linarith)
  rw [Leaf.finish, if_neg (not_lt.mpr henough)]
  exact if_neg hcheck

variable {points : List (Fin 3 → ℝ)}

theorem singlePassCov_posDef (htwo : 2 ≤ points.length) :
    (summed points).singlePassCov.PosDef := by
  have hne : points ≠ [] := List.ne_nil_of_length_pos (by omega)
  have hn : (2 : ℝ) ≤ points.length := by exact_mod_cast htwo
  rw [singlePassCov_eq hne]
  exact posDef_one_add_scatter (div_pos (by linarith) (by positivity)) points

/-- A leaf without enough points is not given an inverse covariance. -/
theorem finish_icov_of_lt (h : points.length < min_points) :
    ((summed points).finish lib mult min_points).icov_ = 0 := by
  rw [Leaf.finish, if_pos (by rw [summed_nr_points]; exact h), summed, foldl_addPoint]
  rfl

include hlib

/-- **A leaf keeps its number of points**, if two of them are there for the covariance. -/
theorem finish_nr_points (htwo : min_points ≤ points.length → 2 ≤ points.length) :
    ((summed points).finish lib mult min_points).nr_points = points.length := by
  by_cases henough : min_points ≤ points.length
  · have hcov : (summed points).singlePassCov.PosDef := singlePassCov_posDef (htwo henough)
    have hspectral := hlib.spectral _ (isSymm_of_posDef hcov)
    rw [finish_of_pos (by rw [summed_nr_points]; exact henough) (hspectral.pos_of_posDef hcov)]
    exact summed_nr_points points
  · exact finish_nr_points_of_lt lib mult (not_le.mp henough)

/-- **A leaf with enough points is usable.** -/
theorem finish_usable (hmult : mult ≤ 1) (htwo : 2 ≤ points.length)
    (hmin : min_points ≤ points.length) :
    ((summed points).finish lib mult min_points).Usable mult := by
  have hcov : (summed points).singlePassCov.PosDef := singlePassCov_posDef htwo
  have hmono := hlib.ascending _ (isSymm_of_posDef hcov)
  have hspectral := hlib.spectral _ (isSymm_of_posDef hcov)
  have hpos := hspectral.pos_of_posDef hcov
  rw [finish_of_pos (by rw [summed_nr_points]; exact hmin) hpos]
  generalize (summed points).singlePassCov = cov at hmono hspectral hpos
  -- with or without inflation the covariance has the stored eigenvalues
  have hstored : (if lib.eigenvalues cov 0 < mult * lib.eigenvalues cov 2 then
        lib.eigenvectors cov * diagonal (inflate mult (lib.eigenvalues cov)) *
          lib.inverse (lib.eigenvectors cov)
      else cov) =
      lib.eigenvectors cov * diagonal (inflate mult (lib.eigenvalues cov)) *
        (lib.eigenvectors cov)ᵀ := by
    by_cases hlow : lib.eigenvalues cov 0 < mult * lib.eigenvalues cov 2
    · rw [if_pos hlow, hlib.inverse_orthonormal hspectral.orthonormal]
    · rw [if_neg hlow, inflate, if_neg hlow, hspectral.decomposition]
  have hfinal : Spectral (lib.eigenvectors cov) (inflate mult (lib.eigenvalues cov)) _ :=
    ⟨hspectral.orthonormal, rfl⟩
  have hposDef := hfinal.posDef (inflate_pos hpos)
  have hunit := (isUnit_iff_isUnit_det _).mp hposDef.isUnit
  have hinverse := hlib.inverse _ hunit
  rw [hstored]
  refine ⟨hposDef, hinverse, ?_, hfinal, fun axis => ?_⟩
  · rw [← inv_eq_right_inv hinverse]
    exact hposDef.inv
  · obtain ⟨hlow, hhigh, hlast⟩ := inflate_conditioned hmult (hpos 2) hmono axis
    dsimp only
    rw [hlast]
    exact ⟨hlow, hhigh⟩

end Finish

end RoboRacer.Pclomp
