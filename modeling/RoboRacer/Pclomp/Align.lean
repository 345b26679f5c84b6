/-
  Pclomp/Align.lean --- the Newton iterations of the registration
  (`ndt_omp_impl.hpp`: `computeTransformation`).

  An iteration solves for a direction, searches along it and adds the step to the
  transform vector.  The loop ends when a step is shorter than
  `transformation_epsilon_`, when there is no direction, or when the iterations are
  used up.  At its end transformation, cloud, score and gradient are those of the
  last vector.

  Numbers are exact, so that no norm is "not a number"; the visualizer is left out.
-/
import Mathlib.Analysis.InnerProductSpace.PiL2
import RoboRacer.Pclomp.PointDerivatives
import RoboRacer.Pclomp.StepLength

set_option autoImplicit false

namespace RoboRacer.Pclomp

open Matrix RoboRacer.Foundation

/-- What the registration takes from Eigen. -/
structure SolverLib (K : Type) where
  /-- `solve` of the singular value decomposition of a matrix. -/
  solve : Matrix (Fin 6) (Fin 6) K → (Fin 6 → K) → Fin 6 → K
  /-- Translation and Euler angles of an affine transformation. -/
  vectorOf : Affine K → Fin 6 → K

/-- The members that `computeTransformation` reads. -/
structure AlignSettings (K : Type) where
  step_size_ : K
  transformation_epsilon_ : K
  max_iterations_ : ℤ

/-- The members that `computeTransformation` sets, and its variable `p`. -/
structure Alignment (K : Type) where
  nr_iterations_ : ℤ
  converged_ : Bool
  previous_transformation_ : Affine K
  transformation_ : Affine K
  trans_probability_ : K
  iterate : Iterate K
  p : Fin 6 → K

section Align

variable {K : Type} [Field K] [LinearOrder K] (m : CMath K) (lib : SolverLib K)
  (evaluator : Evaluator K) (input : List (Fin 3 → K)) (settings : AlignSettings K)

omit [LinearOrder K] in
/-- The identity, `Eigen::Matrix4f::Identity ()`. -/
def Affine.identity : Affine K where
  linear := 1
  translation := 0

omit [LinearOrder K] in
/-- `norm ()`. -/
def norm (v : Fin 6 → K) : K :=
  m.sqrt (v ⬝ᵥ v)

/-- `normalize ()`. -/
def normalize (v : Fin 6 → K) : Fin 6 → K :=
  if 0 < v ⬝ᵥ v then (m.sqrt (v ⬝ᵥ v))⁻¹ • v else v

/-- The body of the loop.  Without a direction the function returns from within. -/
def newtonStep (s : Alignment K) : Option (Alignment K) :=
  let s := { s with previous_transformation_ := s.transformation_ }
  let delta_p := lib.solve s.iterate.sums.2.2 (-s.iterate.sums.2.1)
  let delta_p_norm := norm m delta_p
  if delta_p_norm = 0 then some { s with converged_ := true }
  else
    (computeStepLengthMT m evaluator input s.p (normalize m delta_p) delta_p_norm
      settings.step_size_ (settings.transformation_epsilon_ / ((2 : ℕ) : K)) s.iterate).map
      fun found =>
        let delta_p_norm := found.1
        let delta_p := delta_p_norm • found.2.1
        { s with
          transformation_ := convertTransform m delta_p
          iterate := found.2.2
          p := s.p + delta_p
          converged_ := decide (settings.max_iterations_ < s.nr_iterations_ ∨
            s.nr_iterations_ ≠ 0 ∧ |delta_p_norm| < settings.transformation_epsilon_)
          nr_iterations_ := s.nr_iterations_ + 1 }

/-- The loop, with a bound on its iterations; `none` when they do not suffice. -/
def newtonLoop : ℕ → Alignment K → Option (Alignment K)
  | 0, s => if s.converged_ then some s else none
  | n + 1, s =>
    if s.converged_ then some s
    else (newtonStep m lib evaluator input settings s).bind (newtonLoop n)

/-- The state before the loop. -/
def startAlignment (s : Alignment K) (guess : Affine K) : Alignment K :=
  let iterate :=
    if guess ≠ Affine.identity then
      { s.iterate with
        final_transformation_ := guess
        trans_cloud := s.iterate.trans_cloud.map guess.apply }
    else s.iterate
  let p := lib.vectorOf iterate.final_transformation_
  { s with
    nr_iterations_ := 0
    converged_ := false
    iterate := { iterate with sums := evaluator.computeDerivatives iterate.trans_cloud p true }
    p := p }

/-- `computeTransformation`; the cloud of the state is the parameter `output`. -/
def computeTransformation (fuel : ℕ) (s : Alignment K) (guess : Affine K) :
    Option (Alignment K) :=
  (newtonLoop m lib evaluator input settings fuel (startAlignment lib evaluator s guess)).map
    fun s => { s with trans_probability_ := s.iterate.sums.1 / (input.length : K) }

end Align

/-! ## Norms -/

theorem dotProduct_self_pos {v : Fin 6 → ℝ} (h : v ≠ 0) : 0 < v ⬝ᵥ v := by
  have hnonneg : 0 ≤ v ⬝ᵥ v := by
    rw [dotProduct]
    exact Finset.sum_nonneg fun i _ => mul_self_nonneg (v i)
  exact lt_of_le_of_ne hnonneg fun hzero => h (dotProduct_self_eq_zero.mp hzero.symm)

theorem norm_eq_zero_iff (v : Fin 6 → ℝ) : norm realMath v = 0 ↔ v = 0 := by
  constructor
  · intro h
    by_contra hne
    exact absurd h (Real.sqrt_pos.mpr (dotProduct_self_pos hne)).ne'
  · rintro rfl
    simp [norm, realMath]

theorem normalize_dotProduct_self {v : Fin 6 → ℝ} (h : v ≠ 0) :
    normalize realMath v ⬝ᵥ normalize realMath v = 1 := by
  have hpos := dotProduct_self_pos h
  have hsqrt : Real.sqrt (v ⬝ᵥ v) * Real.sqrt (v ⬝ᵥ v) = v ⬝ᵥ v := Real.mul_self_sqrt hpos.le
  simp only [normalize, realMath, if_pos hpos, smul_dotProduct, dotProduct_smul, smul_eq_mul]
  rw [← mul_assoc, ← mul_inv, hsqrt, inv_mul_cancel₀ hpos.ne']

theorem dotProduct_of_normalize {v w : Fin 6 → ℝ} (hv : v ≠ 0)
    (h : w ⬝ᵥ normalize realMath v = 0) : w ⬝ᵥ v = 0 := by
  have hpos := dotProduct_self_pos hv
  have hsqrt : (Real.sqrt (v ⬝ᵥ v))⁻¹ ≠ 0 := (inv_pos.mpr (Real.sqrt_pos.mpr hpos)).ne'
  simp only [normalize, realMath, if_pos hpos, dotProduct_smul, smul_eq_mul] at h
  exact (mul_eq_zero.mp h).resolve_left hsqrt

section Newton

variable (evaluator : Evaluator ℝ) (input : List (Fin 3 → ℝ)) (settings : AlignSettings ℝ)

/-- An iteration that goes on: it moves along a direction in which the score grows, by a step
length between the bounds, to where its values are those of the new vector; or it stays. -/
structure NewtonMove (s s' : Alignment ℝ) : Prop where
  counted : s'.nr_iterations_ = s.nr_iterations_ + 1
  converged : s'.converged_ = true ↔ settings.max_iterations_ < s.nr_iterations_ ∨
    s.nr_iterations_ ≠ 0 ∧ norm realMath (s'.p - s.p) < settings.transformation_epsilon_
  move : (s'.p = s.p ∧ s'.iterate = s.iterate) ∨
    0 < s.iterate.sums.2.1 ⬝ᵥ (s'.p - s.p) ∧
      settings.transformation_epsilon_ / 2 ≤ norm realMath (s'.p - s.p) ∧
      norm realMath (s'.p - s.p) ≤ settings.step_size_ ∧
      s'.iterate.At realMath evaluator input s'.p

/-- The solver gives no direction, or one along which the score is level. -/
def Alignment.Level (lib : SolverLib ℝ) (s : Alignment ℝ) : Prop :=
  s.iterate.sums.2.1 ⬝ᵥ lib.solve s.iterate.sums.2.2 (-s.iterate.sums.2.1) = 0

theorem norm_smul_of_unit {a : ℝ} (ha : 0 ≤ a) {dir : Fin 6 → ℝ} (hdir : dir ⬝ᵥ dir = 1) :
    norm realMath (a • dir) = a := by
  simp only [norm, realMath, smul_dotProduct, dotProduct_smul, hdir, smul_eq_mul, mul_one]
  exact Real.sqrt_mul_self ha

variable {settings} (heps : 0 < settings.transformation_epsilon_)
  (hstep : settings.transformation_epsilon_ / 2 < settings.step_size_) (lib : SolverLib ℝ)
include heps hstep

omit heps in
/-- What the line search gives an iteration. -/
theorem exists_found (s : Alignment ℝ) {step_dir : Fin 6 → ℝ} (hunit : step_dir ⬝ᵥ step_dir = 1)
    (step_init : ℝ) :
    ∃ found, computeStepLengthMT realMath evaluator input s.p step_dir step_init
        settings.step_size_ (settings.transformation_epsilon_ / ((2 : ℕ) : ℝ)) s.iterate =
          some found ∧
      found.2.1 ⬝ᵥ found.2.1 = 1 ∧
      ((found.1 = 0 ∧ found.2.2 = s.iterate ∧ s.iterate.sums.2.1 ⬝ᵥ step_dir = 0) ∨
        0 < s.iterate.sums.2.1 ⬝ᵥ found.2.1 ∧
          settings.transformation_epsilon_ / 2 ≤ found.1 ∧ found.1 ≤ settings.step_size_ ∧
          found.2.2.At realMath evaluator input (s.p + found.1 • found.2.1)) := by
  rw [Nat.cast_ofNat]
  by_cases hslope : s.iterate.sums.2.1 ⬝ᵥ step_dir = 0
  · exact ⟨_, computeStepLengthMT_of_eq_zero _ _ _ _ _ hslope, hunit, .inl ⟨rfl, rfl, hslope⟩⟩
  · obtain ⟨found, hfound, hlength, -⟩ :=
      computeStepLengthMT_of_lt realMath evaluator input s.p step_init hstep hslope
    obtain ⟨hflat, -⟩ | ⟨hdir, huphill, -, hat⟩ := computeStepLengthMT_spec hfound
    · exact absurd hflat hslope
    · refine ⟨found, hfound, ?_, .inr ⟨huphill, ?_, ?_, hat⟩⟩
      · obtain h | h := hdir <;> simp [h, hunit]
      · rw [hlength]
        exact le_max_right _ _
      · rw [hlength]
        exact max_le (min_le_right _ _) hstep.le

/-- **What an iteration can do.**  It finds no direction and stops, or it goes on; and it stays
at its vector only if the direction is level. -/
theorem newtonStep_cases (s : Alignment ℝ) :
    ∃ s', newtonStep realMath lib evaluator input settings s = some s' ∧
      ((s'.converged_ = true ∧ s'.nr_iterations_ = s.nr_iterations_ ∧ s'.p = s.p ∧
          s'.iterate = s.iterate) ∨
        NewtonMove evaluator input settings s s') ∧
      (s'.p = s.p → s.Level lib) := by
  generalize hdelta : lib.solve s.iterate.sums.2.2 (-s.iterate.sums.2.1) = delta_p
  by_cases hnone : norm realMath delta_p = 0
  · refine ⟨{ s with previous_transformation_ := s.transformation_, converged_ := true }, ?_,
      .inl ⟨rfl, rfl, rfl, rfl⟩, fun _ => ?_⟩
    · simp only [newtonStep, hdelta, if_pos hnone]
    · rw [Alignment.Level, hdelta, (norm_eq_zero_iff delta_p).mp hnone, dotProduct_zero]
  · have hne : delta_p ≠ 0 := fun h => hnone ((norm_eq_zero_iff delta_p).mpr h)
    have hunit := normalize_dotProduct_self hne
    obtain ⟨found, hfound, hdir, hmove⟩ := exists_found evaluator input hstep s hunit
      (norm realMath delta_p)
    simp only [newtonStep, hdelta, if_neg hnone, hfound, Option.map_some]
    refine ⟨_, rfl, .inr ?_, fun hstay => ?_⟩
    swap
    · -- a step of some length does not lead back
      obtain ⟨-, -, hlevel⟩ | ⟨huphill, hlow, -⟩ := hmove
      · rw [Alignment.Level, hdelta]
        exact dotProduct_of_normalize hne hlevel
      · have hzero : found.1 • found.2.1 = 0 := add_eq_left.mp hstay
        have hflat := congrArg (s.iterate.sums.2.1 ⬝ᵥ ·) hzero
        simp only [dotProduct_smul, dotProduct_zero, smul_eq_mul] at hflat
        exact absurd hflat (mul_pos (by linarith) huphill).ne'
    have hnonneg : 0 ≤ found.1 := by
      obtain ⟨hzero, -⟩ | ⟨-, hlow, -⟩ := hmove
      · exact hzero.ge
      · linarith
    have hnorm : norm realMath (s.p + found.1 • found.2.1 - s.p) = found.1 := by
      rw [add_sub_cancel_left, norm_smul_of_unit hnonneg hdir]
    refine ⟨rfl, ?_, ?_⟩
    · simp only [decide_eq_true_eq, hnorm, abs_of_nonneg hnonneg]
    · obtain ⟨hzero, hsame, -⟩ | ⟨huphill, hlow, hhigh, hat⟩ := hmove
      · exact .inl ⟨by simp [hzero], hsame⟩
      · refine .inr ⟨?_, by rw [hnorm]; exact hlow, by rw [hnorm]; exact hhigh, hat⟩
        dsimp only
        rw [add_sub_cancel_left, dotProduct_smul, smul_eq_mul]
        exact mul_pos (by linarith) huphill

/-! ## All iterations -/

omit heps hstep

theorem map_identity_apply (input : List (Fin 3 → ℝ)) :
    input.map (Affine.identity : Affine ℝ).apply = input := by
  have happly : (Affine.identity : Affine ℝ).apply = id := by
    funext x
    rw [Affine.apply, Affine.identity, one_mulVec, add_zero, id_eq]
  rw [happly, List.map_id]

/-- The state before the loop is the one of the vector of the guess. -/
theorem startAlignment_at {s : Alignment ℝ} {guess : Affine ℝ}
    (hcloud : s.iterate.trans_cloud = input)
    (hfinal : s.iterate.final_transformation_ = Affine.identity)
    (hguess : convertTransform realMath (lib.vectorOf guess) = guess) :
    let start := startAlignment lib evaluator s guess
    start.p = lib.vectorOf guess ∧ start.iterate.At realMath evaluator input start.p := by
  have hmoved : input.map guess.apply =
      transformPointCloud realMath input (lib.vectorOf guess) := by
    rw [transformPointCloud, ← convertTransform_apply, hguess]
  by_cases hidentity : guess = Affine.identity
  · rw [hidentity, map_identity_apply] at hmoved
    simp only [startAlignment, hidentity, ne_eq, not_true, if_false, hfinal, hcloud]
    rw [hidentity] at hguess
    refine ⟨trivial, hguess.symm, hmoved, ?_, ?_, .inl ?_⟩ <;> rw [← hmoved]
  · simp only [startAlignment, ne_eq, hidentity, not_false_iff, if_true, hcloud, hmoved]
    exact ⟨trivial, hguess.symm, rfl, rfl, rfl, .inl rfl⟩

/-! ## Every iteration -/

/-- An iteration of the loop. -/
def Continues (settings : AlignSettings ℝ) (lib : SolverLib ℝ) (s s' : Alignment ℝ) : Prop :=
  s.converged_ = false ∧ newtonStep realMath lib evaluator input settings s = some s'

/-- An iteration stays, or climbs by a step length between the bounds. -/
structure Climbs (settings : AlignSettings ℝ) (before after : Alignment ℝ) : Prop where
  uphill : 0 < before.iterate.sums.2.1 ⬝ᵥ (after.p - before.p)
  least : settings.transformation_epsilon_ / 2 ≤ norm realMath (after.p - before.p)
  most : norm realMath (after.p - before.p) ≤ settings.step_size_

include heps hstep in
theorem Continues.cases {before after : Alignment ℝ}
    (h : Continues evaluator input settings lib before after) :
    (after.p = before.p ∧ after.iterate = before.iterate ∧ before.Level lib) ∨
      Climbs settings before after ∧ after.iterate.At realMath evaluator input after.p := by
  obtain ⟨s', hs', hcases, hlevel⟩ := newtonStep_cases evaluator input heps hstep lib before
  obtain rfl := Option.some.inj (h.2.symm.trans hs')
  obtain ⟨-, -, hp, hiterate⟩ | hmove := hcases
  · exact .inl ⟨hp, hiterate, hlevel hp⟩
  · obtain ⟨hp, hiterate⟩ | ⟨huphill, hleast, hmost, hat⟩ := hmove.move
    · exact .inl ⟨hp, hiterate, hlevel hp⟩
    · exact .inr ⟨⟨huphill, hleast, hmost⟩, hat⟩

/-! ## A registration -/

variable {guess : Affine ℝ} {s : Alignment ℝ} (hcloud : s.iterate.trans_cloud = input)
  (hfinal : s.iterate.final_transformation_ = Affine.identity)
  (hguess : convertTransform realMath (lib.vectorOf guess) = guess)
include heps hstep hcloud hfinal hguess

/-- Wherever the loop has come to, the values are those of the vector. -/
theorem continues_at {before : Alignment ℝ}
    (h : Relation.ReflTransGen (Continues evaluator input settings lib)
      (startAlignment lib evaluator s guess) before) :
    before.iterate.At realMath evaluator input before.p := by
  induction h with
  | refl => exact (startAlignment_at evaluator input lib hcloud hfinal hguess).2
  | tail _ hstep' ih =>
    obtain ⟨hp, hiterate, -⟩ | ⟨-, hat⟩ := hstep'.cases evaluator input heps hstep lib
    · rw [hp, hiterate]
      exact ih
    · exact hat

end Newton

end RoboRacer.Pclomp
