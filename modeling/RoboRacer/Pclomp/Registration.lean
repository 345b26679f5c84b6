/-
  Pclomp/Registration.lean --- the registration object
  (`ndt_omp.h`: `NormalDistributionsTransform` and its setters; `ndt_omp_impl.hpp`:
  the constructor and `computeTransformation`).

  The object keeps a grid of its target.  `setInputTarget` builds it, and
  `setResolution` builds it again when there is a source.  `align` runs the Newton
  iterations with the grid, the settings and the source of that moment.

  The loops of `computeDerivatives` are run by threads; a schedule says which thread
  takes which point, and in which order.
-/
import RoboRacer.Pclomp.Align
import RoboRacer.Pclomp.NeighborSearch

set_option autoImplicit false

namespace RoboRacer.Pclomp

open Matrix RoboRacer.Foundation

/-! ## The object -/

/-- The members of `NormalDistributionsTransform` and of its base class that a registration
reads. -/
structure NormalDistributionsTransform (K : Type) where
  target_ : Option (PointCloud K)
  input_ : Option (List (Fin 3 → K))
  target_cells_ : VoxelGridCovariance K
  resolution_ : K
  step_size_ : K
  outlier_ratio_ : K
  transformation_epsilon_ : K
  max_iterations_ : ℤ
  search_method : NeighborSearchMethod
  num_threads_ : ℕ

/-- A way to share `points` iterations among the threads: each one is taken once. -/
structure Schedule (num_threads points : ℕ) where
  events : List (Fin num_threads × ℕ)
  perm : (events.map Prod.snd).Perm (List.range points)

namespace NormalDistributionsTransform

section Object

variable {K : Type} [Field K] [LinearOrder K] [FloorRing K]

/-- `NormalDistributionsTransform ()`; `max_threads` is the result of
`omp_get_max_threads`. -/
def new (max_threads : ℕ) : NormalDistributionsTransform K where
  target_ := none
  input_ := none
  target_cells_ := VoxelGridCovariance.new
  resolution_ := 1
  step_size_ := ((10 : ℕ) : K)⁻¹
  outlier_ratio_ := ((11 : ℕ) : K) / ((20 : ℕ) : K)
  transformation_epsilon_ := ((10 : ℕ) : K)⁻¹
  max_iterations_ := 35
  search_method := .DIRECT7
  num_threads_ := max_threads

/-- `init`. -/
def init (lib : GridLib K) (ndt : NormalDistributionsTransform K) :
    NormalDistributionsTransform K :=
  let leaf_size : Fin 3 → K := fun _ => ndt.resolution_
  let sized := (VoxelGridCovariance.Call.setLeafSize leaf_size (fun _ => ndt.resolution_⁻¹)).apply
    lib ndt.target_cells_
  { ndt with target_cells_ := (VoxelGridCovariance.Call.filter ndt.target_ true).apply lib sized }

/-- The calls of the public functions.  The base class refuses an empty target. -/
inductive Call (K : Type) where
  | setInputTarget (cloud : PointCloud K)
  | setInputSource (cloud : List (Fin 3 → K))
  | setResolution (resolution : K)
  | setStepSize (step_size : K)
  | setOulierRatio (outlier_ratio : K)
  | setNeighborhoodSearchMethod (method : NeighborSearchMethod)
  | setTransformationEpsilon (epsilon : K)
  | setMaximumIterations (nr_iterations : ℤ)
  | setNumThreads (n : ℕ)

/-- The effect of a call. -/
def Call.apply (lib : GridLib K) (ndt : NormalDistributionsTransform K) :
    Call K → NormalDistributionsTransform K
  | .setInputTarget cloud =>
    init lib (if cloud.points.isEmpty then ndt else { ndt with target_ := some cloud })
  | .setInputSource cloud => { ndt with input_ := some cloud }
  | .setResolution resolution =>
    if ndt.resolution_ ≠ resolution then
      if ndt.input_.isSome then init lib { ndt with resolution_ := resolution }
      else { ndt with resolution_ := resolution }
    else ndt
  | .setStepSize step_size => { ndt with step_size_ := step_size }
  | .setOulierRatio outlier_ratio => { ndt with outlier_ratio_ := outlier_ratio }
  | .setNeighborhoodSearchMethod method => { ndt with search_method := method }
  | .setTransformationEpsilon epsilon => { ndt with transformation_epsilon_ := epsilon }
  | .setMaximumIterations nr_iterations => { ndt with max_iterations_ := nr_iterations }
  | .setNumThreads n => { ndt with num_threads_ := n }

/-- An object after construction and some calls. -/
def afterCalls (lib : GridLib K) (max_threads : ℕ) (calls : List (Call K)) :
    NormalDistributionsTransform K :=
  calls.foldl (Call.apply lib) (new max_threads)

/-! ## A registration -/

variable (m : CMath K) (solver : SolverLib K) (kdtree : VoxelGridCovariance.KdTree K)
  (relative_coordinates : List (Fin 3 → ℤ)) (ndt : NormalDistributionsTransform K)

/-- The searches of a registration.  Those of `computeDerivatives` read nothing out of range;
`computeHessian` searches by radius, whatever the search method is. -/
structure Searches where
  near : (Fin 3 → K) → List (Leaf K)
  within : (Fin 3 → K) → List (Leaf K)
  near_eq : ∀ x, ndt.target_cells_.neighborhood kdtree relative_coordinates ndt.resolution_
    ndt.search_method x = some (near x)
  within_eq : ∀ x leaves, ndt.target_cells_.radiusSearch kdtree x ndt.resolution_ = some leaves →
    within x = leaves

/-- The parameters that `computeTransformation` fits. -/
def gauss : Gauss K :=
  fitGauss m ndt.outlier_ratio_ ndt.resolution_

variable {kdtree relative_coordinates ndt}

/-- `computeDerivatives` and `computeHessian` of the object. -/
def evaluator (searches : Searches kdtree relative_coordinates ndt) (input : List (Fin 3 → K))
    (schedule : (Fin 6 → K) → Bool → Schedule ndt.num_threads_ input.length) : Evaluator K where
  computeDerivatives trans_cloud p compute_hessian :=
    Pclomp.computeDerivatives m (ndt.gauss m) searches.near input
      trans_cloud p compute_hessian (schedule p compute_hessian).events
  computeHessian trans_cloud p :=
    Pclomp.computeHessian m (ndt.gauss m) searches.within input trans_cloud
      (computeAngleDerivatives m p)
  flag trans_cloud p compute_hessian :=
    computeDerivatives_flag m (ndt.gauss m) searches.near input
      trans_cloud p compute_hessian
      ((schedule p compute_hessian).perm.trans (schedule p true).perm.symm)

/-- The members that `computeTransformation` reads. -/
def settings (ndt : NormalDistributionsTransform K) : AlignSettings K where
  step_size_ := ndt.step_size_
  transformation_epsilon_ := ndt.transformation_epsilon_
  max_iterations_ := ndt.max_iterations_

omit [LinearOrder K] [FloorRing K] in
/-- The state in which the base class calls `computeTransformation`: a copy of the source, and
the identity. -/
def unaligned (input : List (Fin 3 → K)) : Alignment K where
  nr_iterations_ := 0
  converged_ := false
  previous_transformation_ := Affine.identity
  transformation_ := Affine.identity
  trans_probability_ := 0
  iterate := { sums := 0, final_transformation_ := Affine.identity, trans_cloud := input }
  p := 0

/-- `align`. -/
def align (searches : Searches kdtree relative_coordinates ndt) (fuel : ℕ)
    (input : List (Fin 3 → K))
    (schedule : (Fin 6 → K) → Bool → Schedule ndt.num_threads_ input.length) (guess : Affine K) :
    Option (Alignment K) :=
  computeTransformation m solver (evaluator m searches input schedule) input ndt.settings fuel
    (unaligned input) guess

end Object

/-! ## The grid of the object -/

/-- The grid has the settings of its constructor, and its leaves were made with them. -/
structure GridSound (ndt : NormalDistributionsTransform ℝ) : Prop where
  min_points : ndt.target_cells_.min_points_per_voxel_ = 6
  mult : ndt.target_cells_.min_covar_eigvalue_mult_ = (100 : ℝ)⁻¹
  sound : ndt.target_cells_.Sound 6 (100 : ℝ)⁻¹

section Grid

variable {lib : GridLib ℝ} (hlib : EigenLaws lib)
include hlib

theorem init_sound {ndt : NormalDistributionsTransform ℝ} (h : ndt.GridSound) :
    (ndt.init lib).GridSound := by
  let sized : VoxelGridCovariance ℝ :=
    { ndt.target_cells_ with
      leaf_size_ := fun _ => ndt.resolution_
      inverse_leaf_size_ := fun _ => ndt.resolution_⁻¹ }
  have hsized : sized.Sound 6 (100 : ℝ)⁻¹ :=
    ⟨h.sound.enough, h.sound.mult, h.sound.usable, h.sound.unused, h.sound.indexed⟩
  have hmin : sized.min_points_per_voxel_ = 6 := h.min_points
  have hmult : sized.min_covar_eigvalue_mult_ = (100 : ℝ)⁻¹ := h.mult
  obtain ⟨hmin', hmult', -⟩ := VoxelGridCovariance.filter_settings lib sized ndt.target_ true
  refine ⟨hmin'.trans hmin, hmult'.trans hmult, ?_⟩
  rw [← hmin, ← hmult] at hsized ⊢
  exact hsized.filter_same hlib ndt.target_ true

theorem apply_sound {ndt : NormalDistributionsTransform ℝ} (h : ndt.GridSound)
    (call : Call ℝ) : (call.apply lib ndt).GridSound := by
  cases call with
  | setInputTarget cloud =>
    rw [Call.apply]
    split_ifs
    · exact init_sound hlib h
    · exact init_sound hlib ⟨h.min_points, h.mult, h.sound⟩
  | setResolution resolution =>
    rw [Call.apply]
    split_ifs
    · exact init_sound hlib ⟨h.min_points, h.mult, h.sound⟩
    · exact ⟨h.min_points, h.mult, h.sound⟩
    · exact h
  | _ => exact ⟨h.min_points, h.mult, h.sound⟩

theorem afterCalls_sound (max_threads : ℕ) (calls : List (Call ℝ)) :
    (afterCalls lib max_threads calls).GridSound := by
  have hnew : (new max_threads : NormalDistributionsTransform ℝ).GridSound :=
    ⟨rfl, VoxelGridCovariance.unitGrid_ratio, VoxelGridCovariance.new_sound 6 _⟩
  rw [afterCalls]
  generalize (new max_threads : NormalDistributionsTransform ℝ) = ndt at hnew
  induction calls generalizing ndt with
  | nil => exact hnew
  | cons call calls ih => exact ih _ (apply_sound hlib hnew call)

end Grid

/-! ## What a registration does -/

section Results

variable {kdtree : VoxelGridCovariance.KdTree ℝ}
  {relative_coordinates : List (Fin 3 → ℤ)} {ndt : NormalDistributionsTransform ℝ}
  (searches : Searches kdtree relative_coordinates ndt)

theorem near_usable (h : ndt.GridSound) : SearchUsable searches.near :=
  fun x _ hcell =>
    (h.sound.neighborhood h.min_points.ge (searches.near_eq x) hcell).inversePosDef

/-- The evaluations of an object are those of the objective of the leaves it finds. -/
theorem evaluator_exact (h : ndt.GridSound) (hresolution : 0 < ndt.resolution_)
    (hratio : 0 < ndt.outlier_ratio_ ∧ ndt.outlier_ratio_ < 1) (input : List (Fin 3 → ℝ))
    (schedule : (Fin 6 → ℝ) → Bool → Schedule ndt.num_threads_ input.length) {p : Fin 6 → ℝ}
    (hp : Sharp p) :
    let sums := (evaluator realMath searches input schedule).computeDerivatives
      (transformPointCloud realMath input p) p true
    let cells := cellsAt input searches.near p
    sums.1 = objective (ndt.gauss realMath) input cells p ∧
      ∀ i, sums.2.1 i = objectiveSlope (ndt.gauss realMath) input cells p i := by
  intro sums cells
  have hfit : (ndt.gauss realMath).Fit := fitGauss_fit hratio.1 hratio.2 hresolution
  obtain ⟨hscore, hgradient, -⟩ := computeDerivatives_apply input hfit (near_usable searches h) hp
    (schedule p true).perm true
  exact ⟨hscore, hgradient⟩

/-! ### An object -/

/-- An object whose target has a leaf. -/
noncomputable def registered : NormalDistributionsTransform ℝ :=
  afterCalls exactLib 1 [.setInputTarget sevenPoints]

theorem registered_grid : registered.target_cells_ = VoxelGridCovariance.sevenGrid := by
  have hone : (fun _ : Fin 3 => (1 : ℝ)⁻¹) = 1 := funext fun _ => inv_one
  have hgrid : registered.target_cells_ =
      VoxelGridCovariance.filter exactLib { VoxelGridCovariance.new with
        leaf_size_ := fun _ => 1
        inverse_leaf_size_ := fun _ => 1⁻¹ } (some sevenPoints) true := rfl
  rw [hgrid, hone]
  rfl

/-- The searches of the object. -/
noncomputable def registeredSearches : Searches VoxelGridCovariance.scan [] registered where
  near := registered.target_cells_.getNeighborhoodAtPoint7
  within x := (registered.target_cells_.radiusSearch VoxelGridCovariance.scan x
    registered.resolution_).getD []
  near_eq _ := rfl
  within_eq x leaves h := by rw [h, Option.getD_some]

/-- A solver that takes the matrix for the identity. -/
def plainSolver : SolverLib ℝ where
  solve _ b := b
  vectorOf _ := 0

/-- One thread takes the points in order. -/
def oneThread (_ : Fin 6 → ℝ) (_ : Bool) : Schedule registered.num_threads_ 1 where
  events := [((0 : Fin 1), 0)]
  perm := List.Perm.refl _

/-- A source of one point, in the cell of the leaf but not at its mean. -/
def onePoint : List (Fin 3 → ℝ) :=
  [0]

theorem plainSolver_guess : convertTransform realMath (plainSolver.vectorOf Affine.identity) =
    Affine.identity := by
  simp [convertTransform, plainSolver, Affine.identity, realMath, rotX_zero_one, rotY_zero_one,
    rotZ_zero_one]

theorem registered_settings : 0 < registered.transformation_epsilon_ ∧
    registered.transformation_epsilon_ / 2 < registered.step_size_ ∧
    0 < registered.resolution_ ∧
    0 < registered.outlier_ratio_ ∧ registered.outlier_ratio_ < 1 := by
  have heps : registered.transformation_epsilon_ = ((10 : ℕ) : ℝ)⁻¹ := rfl
  have hstep : registered.step_size_ = ((10 : ℕ) : ℝ)⁻¹ := rfl
  have hresolution : registered.resolution_ = 1 := rfl
  have hratio : registered.outlier_ratio_ = ((11 : ℕ) : ℝ) / ((20 : ℕ) : ℝ) := rfl
  rw [heps, hstep, hresolution, hratio]
  norm_num

/-- The state before the loop. -/
noncomputable def registeredStart : Alignment ℝ :=
  startAlignment plainSolver (evaluator realMath registeredSearches onePoint oneThread)
    (unaligned onePoint) Affine.identity

/-- The score grows along the first axis, towards the mean of the leaf. -/
theorem registered_slope : 0 < registeredStart.iterate.sums.2.1 0 := by
  obtain ⟨-, -, hresolution, hratio⟩ := registered_settings
  have hfit : (registered.gauss realMath).Fit := fitGauss_fit hratio.1 hratio.2 hresolution
  have hsound : registered.GridSound := afterCalls_sound exactLib_eigen 1 _
  have hsharp : Sharp 0 := fun _ _ _ => rfl
  have hstay : transformPoint realMath 0 0 = 0 := by simp [transformPoint]
  have hnear : cellsAt onePoint registeredSearches.near 0 0 = [VoxelGridCovariance.sixLeaf] := by
    have hfound := VoxelGridCovariance.near_sevenGrid
      (VoxelGridCovariance.cell_sixPoints VoxelGridCovariance.mem_sixPoints.1)
    rw [← registered_grid] at hfound
    exact (congrArg registeredSearches.near hstay).trans hfound
  -- the point is on one side of the mean, at a distance of a quarter
  have hmoved : (0 : Fin 3 → ℝ) - VoxelGridCovariance.sixLeaf.mean_ =
      (-(1 / 4) : ℝ) • ![1, 0, 0] := by
    rw [VoxelGridCovariance.sixLeaf_mean]
    funext axis
    fin_cases axis <;> norm_num
  have hfirst : (![1, 0, 0] : Fin 3 → ℝ) ≠ 0 := by simp
  have hat := (startAlignment_at (evaluator realMath registeredSearches onePoint oneThread)
    onePoint plainSolver (s := unaligned onePoint) rfl rfl plainSolver_guess).2
  obtain ⟨-, hgradient⟩ :=
    evaluator_exact registeredSearches hsound hresolution hratio onePoint oneThread hsharp
  have hslope : registeredStart.iterate.sums.2.1 0 = objectiveSlope (registered.gauss realMath)
      onePoint (cellsAt onePoint registeredSearches.near 0) 0 0 :=
    (congrFun hat.gradient 0).trans (hgradient 0)
  rw [hslope, objectiveSlope]
  refine overPairs_pos (fun idx hidx cell hcell => ?_) ⟨0, one_pos, ?_⟩
  · obtain rfl : idx = 0 := Nat.lt_one_iff.mp hidx
    rw [hnear, List.mem_singleton] at hcell
    have hpos := gaussianSlope_pos (neg_pos.mpr hfit.d1_neg) hfit.d2_pos
      VoxelGridCovariance.sixLeaf_usable.inversePosDef hfirst
      (by norm_num : (-(1 / 4) : ℝ) * 1 < 0)
    rw [← hmoved, one_smul, ← hstay, ← hcell] at hpos
    exact hpos
  · rw [hnear]
    simp

theorem registered_not_level : ¬ registeredStart.Level plainSolver := by
  intro h
  have hflat : registeredStart.iterate.sums.2.1 ⬝ᵥ registeredStart.iterate.sums.2.1 = 0 := by
    rw [Alignment.Level, plainSolver, dotProduct_neg, neg_eq_zero] at h
    exact h
  have hslope := registered_slope
  rw [dotProduct_self_eq_zero.mp hflat, Pi.zero_apply] at hslope
  exact lt_irrefl 0 hslope

/-- The first iteration moves. -/
theorem exists_registered_first :
    ∃ first, Continues (evaluator realMath registeredSearches onePoint oneThread) onePoint
      registered.settings plainSolver registeredStart first ∧ first.p ≠ registeredStart.p := by
  obtain ⟨heps, hstep, -⟩ := registered_settings
  have heps' : 0 < registered.settings.transformation_epsilon_ := heps
  have hstep' : registered.settings.transformation_epsilon_ / 2 <
      registered.settings.step_size_ := hstep
  obtain ⟨first, hfirst, -, hlevel⟩ := newtonStep_cases
    (evaluator realMath registeredSearches onePoint oneThread) onePoint heps' hstep' plainSolver
    registeredStart
  exact ⟨first, ⟨rfl, hfirst⟩, fun h => registered_not_level (hlevel h)⟩

/-! ### Every object -/

variable (solver : SolverLib ℝ) (input : List (Fin 3 → ℝ))
  (schedule : (Fin 6 → ℝ) → Bool → Schedule ndt.num_threads_ input.length)
  (heps : 0 < ndt.transformation_epsilon_)
  (hstep : ndt.transformation_epsilon_ / 2 < ndt.step_size_)
  {guess : Affine ℝ} (hguess : convertTransform realMath (solver.vectorOf guess) = guess)
  (hresolution : 0 < ndt.resolution_)
  (hratio : 0 < ndt.outlier_ratio_ ∧ ndt.outlier_ratio_ < 1)
  {lib : GridLib ℝ} (hlib : EigenLaws lib) {max_threads : ℕ} {calls : List (Call ℝ)}
  (hndt : ndt = afterCalls lib max_threads calls)
include heps hstep hguess hresolution hratio hlib hndt

/-- **Every iteration climbs or stays**, whatever the Hessian and its decomposition are.  It
stays only if the solver gives no direction, or one along which the score is level.  Else its
length is between the bounds, and where the angles are not rounded the score grows at first
along the step. -/
theorem align_climbs {before after : Alignment ℝ}
    (hbefore : Relation.ReflTransGen
      (Continues (evaluator realMath searches input schedule) input ndt.settings solver)
      (startAlignment solver (evaluator realMath searches input schedule) (unaligned input) guess)
      before)
    (hnext : Continues (evaluator realMath searches input schedule) input ndt.settings solver
      before after) :
    (after.p = before.p ∧ before.Level solver) ∨
      ndt.transformation_epsilon_ / 2 ≤ norm realMath (after.p - before.p) ∧
      norm realMath (after.p - before.p) ≤ ndt.step_size_ ∧
      (Sharp before.p → ∃ slope, 0 < slope ∧ HasDerivAt
        (fun t : ℝ => objective (ndt.gauss realMath) input
          (cellsAt input searches.near before.p) (before.p + t • (after.p - before.p)))
        slope 0) := by
  have heps' : 0 < ndt.settings.transformation_epsilon_ := heps
  have hsound : ndt.GridSound := hndt ▸ afterCalls_sound hlib max_threads calls
  have hat := continues_at (evaluator realMath searches input schedule) input heps' hstep solver
    rfl rfl hguess hbefore
  obtain ⟨hstay, -, hlevel⟩ | ⟨hclimb, -⟩ := hnext.cases _ input heps' hstep solver
  · exact .inl ⟨hstay, hlevel⟩
  · refine .inr ⟨hclimb.least, hclimb.most, fun hp => ⟨_, hclimb.uphill, ?_⟩⟩
    obtain ⟨-, hgradient⟩ :=
      evaluator_exact searches hsound hresolution hratio input schedule hp
    refine (hasDerivAt_objective_line before.p
      (fun idx cell hcell => near_usable searches hsound _ cell hcell) _).congr_deriv ?_
    rw [hat.gradient, dotProduct]
    refine Finset.sum_congr rfl fun i _ => ?_
    rw [hgradient i]
    exact mul_comm _ _

omit heps hstep hguess hresolution hratio hlib hndt in
/-- The first iteration climbs. -/
theorem align_climbs_onePoint :
    ∃ after : Alignment ℝ,
      Continues (evaluator realMath registeredSearches onePoint oneThread) onePoint
        registered.settings plainSolver registeredStart after ∧
      (∃ slope, 0 < slope ∧ HasDerivAt
        (fun t : ℝ => objective (registered.gauss realMath) onePoint
          (cellsAt onePoint registeredSearches.near 0) (t • after.p)) slope 0) ∧
      registered.transformation_epsilon_ / 2 ≤ norm realMath after.p ∧
      norm realMath after.p ≤ registered.step_size_ := by
  obtain ⟨heps, hstep, hresolution, hratio⟩ := registered_settings
  obtain ⟨after, hafter, hmoved⟩ := exists_registered_first
  obtain ⟨hstay, -⟩ | ⟨hleast, hmost, hgrows⟩ := align_climbs registeredSearches plainSolver
    onePoint oneThread heps hstep plainSolver_guess hresolution hratio exactLib_eigen rfl .refl
    hafter
  · exact absurd hstay hmoved
  · have hstart : (startAlignment plainSolver
        (evaluator realMath registeredSearches onePoint oneThread) (unaligned onePoint)
        Affine.identity).p = 0 := rfl
    obtain ⟨slope, hslope, hderiv⟩ := hgrows fun _ _ _ => rfl
    rw [hstart, sub_zero] at hleast hmost hderiv
    simp only [zero_add] at hderiv
    exact ⟨after, hafter, ⟨slope, hslope, hderiv⟩, hleast, hmost⟩

end Results

end NormalDistributionsTransform

end RoboRacer.Pclomp
