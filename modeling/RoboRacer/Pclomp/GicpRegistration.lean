/-
  Pclomp/GicpRegistration.lean --- a GICP object and its registrations
  (`gicp_omp.h`: the public functions of `GeneralizedIterativeClosestPoint`).

  Covariances that were computed stay until their cloud is replaced, so that they fit it
  whenever `align` runs.  From there on every registration is safe: its loop reads
  nothing out of range, ends, and gives what one thread would give, and every pass hands
  the optimizer a cost with its gradient.  All of this is in exact numbers.
-/
import RoboRacer.Pclomp.Gicp

set_option autoImplicit false

namespace RoboRacer.Pclomp

open Matrix RoboRacer.Foundation

namespace Gicp

/-! ## The object -/

section Object

/-- `GeneralizedIterativeClosestPoint ()`. -/
noncomputable def new : Gicp ℝ where
  k_correspondences_ := 20
  gicp_epsilon_ := ((1000 : ℕ) : ℝ)⁻¹
  rotation_epsilon_ := ((2 : ℕ) : ℝ) / ((1000 : ℕ) : ℝ)
  transformation_epsilon_ := ((5 : ℕ) : ℝ) / ((10000 : ℕ) : ℝ)
  corr_dist_threshold_ := ((5 : ℕ) : ℝ)
  max_iterations_ := 200
  max_inner_iterations_ := 20
  input_ := []
  target_ := []
  input_covariances_ := []
  target_covariances_ := []
  mahalanobis_ := []

/-- The calls of the public functions. -/
inductive Call where
  | setInputSource (cloud : List (Fin 3 → ℝ))
  | setInputTarget (target : List (Fin 3 → ℝ))
  | setSourceCovariances (covariances : List (Matrix (Fin 3) (Fin 3) ℝ))
  | setTargetCovariances (covariances : List (Matrix (Fin 3) (Fin 3) ℝ))
  | setRotationEpsilon (epsilon : ℝ)
  | setTransformationEpsilon (epsilon : ℝ)
  | setMaxCorrespondenceDistance (distance_threshold : ℝ)
  | setMaximumIterations (nr_iterations : ℤ)
  | setCorrespondenceRandomness (k : ℤ)
  | setMaximumOptimizerIterations (max : ℤ)
  | align (guess : Affine ℝ)

/-- Covariances for a cloud. -/
structure Fits (cloud : List (Fin 3 → ℝ)) (covariances : List (Matrix (Fin 3) (Fin 3) ℝ)) :
    Prop where
  length : covariances.length = cloud.length
  posDef : ∀ C ∈ covariances, C.PosDef

variable {S : Type} (lib : GicpLib ℝ S) (threads : ℕ)

/-- The object after a registration that ended in `last`. -/
def aligned (gicp : Gicp ℝ) (scan : GicpScan ℝ) (last : GicpState ℝ) : Gicp ℝ :=
  { gicp with
    input_covariances_ := scan.input_covariances_
    target_covariances_ := scan.target_covariances_
    mahalanobis_ := last.mahalanobis_ }

/-- The effect of a call.  The base class refuses an empty target and does not start a
registration without both clouds.  Covariances from outside fit their cloud, and the
number of neighbors is positive. -/
inductive Effect : Gicp ℝ → Call → Gicp ℝ → Prop
  | setInputSource (gicp cloud) : Effect gicp (.setInputSource cloud)
      (if cloud.isEmpty then gicp else { gicp with input_ := cloud, input_covariances_ := [] })
  | setInputTarget (gicp target) : Effect gicp (.setInputTarget target)
      { gicp with
        target_ := if target.isEmpty then gicp.target_ else target
        target_covariances_ := [] }
  | setSourceCovariances (gicp covariances) : Fits gicp.input_ covariances →
      Effect gicp (.setSourceCovariances covariances)
        { gicp with input_covariances_ := covariances }
  | setTargetCovariances (gicp covariances) : Fits gicp.target_ covariances →
      Effect gicp (.setTargetCovariances covariances)
        { gicp with target_covariances_ := covariances }
  | setRotationEpsilon (gicp epsilon) :
      Effect gicp (.setRotationEpsilon epsilon) { gicp with rotation_epsilon_ := epsilon }
  | setTransformationEpsilon (gicp epsilon) :
      Effect gicp (.setTransformationEpsilon epsilon)
        { gicp with transformation_epsilon_ := epsilon }
  | setMaxCorrespondenceDistance (gicp distance_threshold) :
      Effect gicp (.setMaxCorrespondenceDistance distance_threshold)
        { gicp with corr_dist_threshold_ := distance_threshold }
  | setMaximumIterations (gicp nr_iterations) :
      Effect gicp (.setMaximumIterations nr_iterations)
        { gicp with max_iterations_ := nr_iterations }
  | setCorrespondenceRandomness (gicp k) : 1 ≤ k →
      Effect gicp (.setCorrespondenceRandomness k) { gicp with k_correspondences_ := k }
  | setMaximumOptimizerIterations (gicp max) :
      Effect gicp (.setMaximumOptimizerIterations max) { gicp with max_inner_iterations_ := max }
  | alignWithoutCloud (gicp guess) : gicp.input_ = [] ∨ gicp.target_ = [] →
      Effect gicp (.align guess) gicp
  | align (gicp guess scan last) : gicp.input_ ≠ [] → gicp.target_ ≠ [] →
      gicp.scanOf lib guess = some scan →
      (gicp.loop realMath lib guess scan threads).Reachable last → last.over = true →
      Effect gicp (.align guess) (gicp.aligned scan last)

/-- A constructed object and its calls. -/
def object : Machine (Gicp ℝ) Call where
  Init gicp := gicp = new
  Step := Effect lib threads

end Object

/-! ## The covariances fit the clouds -/

section Sound

variable {S : Type} {lib : GicpLib ℝ S} {threads : ℕ}

/-- What the libraries promise. -/
structure Laws (lib : GicpLib ℝ S) : Prop where
  svd : SvdLaws lib.covariance
  neighbors : NeighborLaws lib.covariance
  nearest : ∀ cloud query i distance, lib.nearest cloud query = some (i, distance) →
    i < cloud.length

/-- The covariances that are there fit their clouds. -/
structure Sound (gicp : Gicp ℝ) : Prop where
  k_pos : 1 ≤ gicp.k_correspondences_
  epsilon_pos : 0 < gicp.gicp_epsilon_
  input : gicp.input_covariances_ = [] ∨ Fits gicp.input_ gicp.input_covariances_
  target : gicp.target_covariances_ = [] ∨ Fits gicp.target_ gicp.target_covariances_

/-- There are covariances, or enough points to compute them. -/
def Enough (gicp : Gicp ℝ) (cloud : List (Fin 3 → ℝ))
    (covariances : List (Matrix (Fin 3) (Fin 3) ℝ)) : Prop :=
  covariances ≠ [] ∨ gicp.k_correspondences_ ≤ (cloud.length : ℤ)

/-- The covariances that a registration uses: they fit the cloud, unless there are too few
points, and then there are none. -/
theorem covariancesFor_spec (hlaws : Laws lib) {gicp : Gicp ℝ} (hk : 1 ≤ gicp.k_correspondences_)
    (hepsilon : 0 < gicp.gicp_epsilon_) {cloud : List (Fin 3 → ℝ)}
    {given : List (Matrix (Fin 3) (Fin 3) ℝ)} (hgiven : given = [] ∨ Fits cloud given) :
    ∃ covariances, gicp.covariancesFor lib cloud given = some covariances ∧
      (Enough gicp cloud given ∧ Fits cloud covariances ∨
        ¬ Enough gicp cloud given ∧ covariances = []) := by
  rw [covariancesFor]
  cases given with
  | cons C given =>
    exact ⟨C :: given, rfl, .inl ⟨.inl (by simp), hgiven.resolve_left (by simp)⟩⟩
  | nil =>
    rw [if_pos List.isEmpty_nil]
    by_cases hcloud : gicp.k_correspondences_ ≤ (cloud.length : ℤ)
    · obtain ⟨C, hcovariances, hplane⟩ :=
        exists_computeCovariances hlaws.svd hlaws.neighbors hk hcloud
      refine ⟨cloud.map C, hcovariances, .inl ⟨.inr hcloud, List.length_map _, ?_⟩⟩
      intro D hD
      obtain ⟨query_point, -, rfl⟩ := List.mem_map.mp hD
      obtain ⟨pts, -, hpoint⟩ := hplane query_point
      exact hpoint.posDef hepsilon
    · refine ⟨[], ?_, .inr ⟨?_, rfl⟩⟩
      · rw [computeCovariances, if_pos (not_le.mp hcloud)]
      · rintro (hne | hle)
        · exact hne rfl
        · exact hcloud hle

/-- What the loop of a registration reads. -/
theorem scanOf_spec (hlaws : Laws lib) {gicp : Gicp ℝ} (h : gicp.Sound) (guess : Affine ℝ) :
    ∃ scan, gicp.scanOf lib guess = some scan ∧ scan.output = gicp.input_.map guess.apply ∧
      scan.searchForNeighbors = lib.nearest gicp.target_ ∧
      (Enough gicp gicp.input_ gicp.input_covariances_ ∧
          Fits gicp.input_ scan.input_covariances_ ∨
        ¬ Enough gicp gicp.input_ gicp.input_covariances_ ∧ scan.input_covariances_ = []) ∧
      (Enough gicp gicp.target_ gicp.target_covariances_ ∧
          Fits gicp.target_ scan.target_covariances_ ∨
        ¬ Enough gicp gicp.target_ gicp.target_covariances_ ∧ scan.target_covariances_ = []) := by
  obtain ⟨target, htarget, htarget'⟩ :=
    covariancesFor_spec hlaws h.k_pos h.epsilon_pos h.target
  obtain ⟨input, hinput, hinput'⟩ := covariancesFor_spec hlaws h.k_pos h.epsilon_pos h.input
  exact ⟨_, by rw [scanOf, htarget, Option.bind_some, hinput, Option.map_some], rfl, rfl, hinput',
    htarget'⟩

theorem sound_new : new.Sound where
  k_pos := by norm_num [new]
  epsilon_pos := by norm_num [new]
  input := .inl rfl
  target := .inl rfl

/-- Every call keeps the covariances fitting. -/
theorem sound_step (hlaws : Laws lib) {gicp gicp' : Gicp ℝ} {call : Call} (h : gicp.Sound)
    (hstep : Effect lib threads gicp call gicp') : gicp'.Sound := by
  cases hstep with
  | setInputSource cloud =>
    split
    case isTrue => exact h
    case isFalse => exact ⟨h.k_pos, h.epsilon_pos, .inl rfl, h.target⟩
  | setInputTarget target => exact ⟨h.k_pos, h.epsilon_pos, h.input, .inl rfl⟩
  | setSourceCovariances covariances hfits =>
    exact ⟨h.k_pos, h.epsilon_pos, .inr hfits, h.target⟩
  | setTargetCovariances covariances hfits =>
    exact ⟨h.k_pos, h.epsilon_pos, h.input, .inr hfits⟩
  | setRotationEpsilon epsilon => exact ⟨h.k_pos, h.epsilon_pos, h.input, h.target⟩
  | setTransformationEpsilon epsilon => exact ⟨h.k_pos, h.epsilon_pos, h.input, h.target⟩
  | setMaxCorrespondenceDistance distance => exact ⟨h.k_pos, h.epsilon_pos, h.input, h.target⟩
  | setMaximumIterations nr => exact ⟨h.k_pos, h.epsilon_pos, h.input, h.target⟩
  | setCorrespondenceRandomness k hk => exact ⟨hk, h.epsilon_pos, h.input, h.target⟩
  | setMaximumOptimizerIterations max => exact ⟨h.k_pos, h.epsilon_pos, h.input, h.target⟩
  | alignWithoutCloud guess => exact h
  | align guess scan last _ _ hscan =>
    obtain ⟨scan', hscan', -, -, hinput, htarget⟩ := scanOf_spec hlaws h guess
    obtain rfl := Option.some.inj (hscan.symm.trans hscan')
    refine ⟨h.k_pos, h.epsilon_pos, ?_, ?_⟩
    · rcases hinput with ⟨-, hfits⟩ | ⟨-, hnone⟩
      · exact .inr hfits
      · exact .inl hnone
    · rcases htarget with ⟨-, hfits⟩ | ⟨-, hnone⟩
      · exact .inr hfits
      · exact .inl hnone

theorem sound_reachable (hlaws : Laws lib) {gicp : Gicp ℝ}
    (h : (object lib threads).Reachable gicp) : gicp.Sound := by
  refine h.invariant Sound ?_ ?_
  · rintro s rfl
    exact sound_new
  · intro s call t _ hs hstep
    exact sound_step hlaws hs hstep

end Sound

/-! ## A registration -/

section Align

variable {S : Type} {lib : GicpLib ℝ S} {threads : ℕ} {gicp : Gicp ℝ}

theorem readable_of_fits (hlaws : Laws lib) {guess : Affine ℝ} {scan : GicpScan ℝ}
    (houtput : scan.output = gicp.input_.map guess.apply)
    (hsearch : scan.searchForNeighbors = lib.nearest gicp.target_)
    (hinput : Fits gicp.input_ scan.input_covariances_)
    (htarget : Fits gicp.target_ scan.target_covariances_) (T : Affine ℝ)
    (R : Matrix (Fin 3) (Fin 3) ℝ) : scan.Readable T R := by
  intro i hi
  rw [houtput, List.length_map, ← hinput.length] at hi
  cases hnearest : scan.searchForNeighbors (T.apply (pointAt scan.output i)) with
  | none => simp [GicpScan.iteration, hnearest]
  | some neighbor =>
    have hin : neighbor.1 < scan.target_covariances_.length := by
      rw [htarget.length]
      exact hlaws.nearest _ _ _ _ ((congrFun hsearch _).symm.trans hnearest)
    simp only [GicpScan.iteration, hnearest, List.getElem?_eq_getElem hi,
      List.getElem?_eq_getElem hin]
    split <;> rfl

/-- The transformation of every pass is a rigid motion. -/
theorem rigid_of_reachable {guess : Affine ℝ} {scan : GicpScan ℝ} {s : GicpState ℝ}
    (h : (gicp.loop realMath lib guess scan threads).Reachable s) :
    s.transformation_.Rigid ∧ (s.over = true → s.previous_transformation_ = s.transformation_) ∧
      ¬ (s.converged_ = true ∧ s.stopped = true) := by
  refine h.invariant (fun s => s.transformation_.Rigid ∧
    (s.over = true → s.previous_transformation_ = s.transformation_) ∧
      ¬ (s.converged_ = true ∧ s.stopped = true)) ?_ ?_
  · rintro s rfl
    exact ⟨Affine.identity_rigid, fun _ => rfl, by simp [startState]⟩
  · rintro s found t _ ⟨hrigid, -, -⟩ ⟨hopen, -, schedule, rfl⟩
    have hopen' : s.converged_ = false ∧ s.stopped = false := by
      simpa [GicpState.over] using hopen
    obtain ⟨-, ht⟩ | ⟨transformation_, hestimate, ⟨-, ht⟩ | ⟨-, ht⟩⟩ :=
      finishPass_cases realMath lib gicp
        (functorOf realMath (problemOf scan gicp.target_ found) schedule) s found
    · rw [ht]
      exact ⟨hrigid, fun _ => rfl, by simp [hopen'.1]⟩
    · rw [ht]
      exact ⟨estimate_rigid hestimate, fun _ => rfl, by simp [hopen'.2]⟩
    · rw [ht]
      exact ⟨estimate_rigid hestimate, by simp [GicpState.over, hopen'], by simp [hopen'.1]⟩

theorem finishPass_mahalanobis (functor : BfgsFunctor ℝ) (s : GicpState ℝ)
    (found : GicpScan.Matches ℝ) :
    (gicp.finishPass realMath lib functor s found).mahalanobis_ = found.mahalanobis_ := by
  obtain ⟨-, ht⟩ | ⟨transformation_, -, ⟨-, ht⟩ | ⟨-, ht⟩⟩ :=
    finishPass_cases realMath lib gicp functor s found <;> rw [ht]

/-- There is a matrix for every point. -/
theorem size_of_reachable {guess : Affine ℝ} {scan : GicpScan ℝ}
    (houtput : scan.output.length = gicp.input_.length) {s : GicpState ℝ}
    (h : (gicp.loop realMath lib guess scan threads).Reachable s) :
    s.mahalanobis_.length = gicp.input_.length := by
  refine h.invariant (fun s => s.mahalanobis_.length = gicp.input_.length) ?_ ?_
  · rintro s rfl
    exact (loopInv_start gicp).size
  · rintro s found t _ hs ⟨-, hgathers, schedule, rfl⟩
    rw [finishPass_mahalanobis]
    exact (plainLoop_size ((GicpScan.gathers_iff (houtput.trans hs.symm).le).mp hgathers)).trans hs

theorem posDef_of_fits {cloud : List (Fin 3 → ℝ)}
    {given covariances : List (Matrix (Fin 3) (Fin 3) ℝ)}
    (h : Enough gicp cloud given ∧ Fits cloud covariances ∨
      ¬ Enough gicp cloud given ∧ covariances = []) : ∀ C ∈ covariances, C.PosDef := by
  rcases h with ⟨-, hfits⟩ | ⟨-, rfl⟩
  · exact hfits.posDef
  · simp

section FewPoints

variable {scan : GicpScan ℝ}
  (hnone : scan.input_covariances_ = [] ∨ scan.target_covariances_ = []) (T : Affine ℝ)
  (R : Matrix (Fin 3) (Fin 3) ℝ)
include hnone

/-- Without covariances for a cloud, every correspondence reads out of range. -/
theorem readable_iff_of_none : scan.Readable T R ↔
    ∀ i < scan.output.length, ∀ nn_index nn_dist,
      scan.searchForNeighbors (T.apply (pointAt scan.output i)) = some (nn_index, nn_dist) →
        scan.dist_threshold ≤ nn_dist := by
  refine forall_congr' fun i => forall_congr' fun _ => ?_
  cases hsearch : scan.searchForNeighbors (T.apply (pointAt scan.output i)) with
  | none => simp [GicpScan.iteration, hsearch]
  | some neighbor =>
    obtain ⟨nn_index, nn_dist⟩ := neighbor
    have hread : ∀ C1 C2, scan.input_covariances_[i]? = some C1 →
        scan.target_covariances_[nn_index]? = some C2 → False := by
      intro C1 C2 hC1 hC2
      rcases hnone with hnil | hnil
      · simp [hnil] at hC1
      · simp [hnil] at hC2
    simp only [GicpScan.iteration, hsearch]
    by_cases hnear : nn_dist < scan.dist_threshold
    · rw [if_pos hnear]
      -- `hread` leaves only the last case of the match
      simp [hnear]
    · rw [if_neg hnear]
      simpa using hnear

theorem correspondences_of_none : scan.correspondences T R = [] := by
  refine List.eq_nil_iff_forall_not_mem.mpr fun pair hpair => ?_
  obtain ⟨-, r, hr, -⟩ := GicpScan.mem_correspondences_iff.mp hpair
  obtain ⟨_, _, C1, C2, -, -, hC1, hC2, -⟩ := GicpScan.record_eq_some_iff.mp hr
  rcases hnone with hnil | hnil
  · simp [hnil] at hC1
  · simp [hnil] at hC2

end FewPoints

/-! ### Four corners -/

section Corners

/-- The corners, moved by 1. -/
noncomputable def movedCorners : List (Fin 3 → ℝ) :=
  corners.map (alongAxis 1).apply

theorem pointAt_movedCorners {i : ℕ} (hi : i < 4) :
    pointAt movedCorners i = pointAt corners i + ![1, 0, 0] := by
  rw [← alongAxis_apply]
  interval_cases i <;> rfl

/-- A library that searches through the whole cloud. -/
noncomputable def axisLib : GicpLib ℝ Unit where
  covariance := wholeSearch
  nearest := fun cloud query =>
    (byDistance cloud query).head?.map fun i => (i, sqDist (pointAt cloud i) query)
  arc := realArc
  bfgs := axisSolver

theorem axisLib_laws : Laws axisLib where
  svd := wholeSearch_svd
  neighbors := wholeSearch_neighbors
  nearest := by
    intro cloud query i distance h
    obtain ⟨j, hj, heq⟩ := Option.map_eq_some_iff.mp h
    obtain ⟨rfl, -⟩ := Prod.mk.inj heq
    exact mem_byDistance.mp (List.mem_of_mem_head? hj)

/-- A moved corner finds its own image. -/
theorem nearest_movedCorners {i : ℕ} (hi : i < 4) {t : ℝ} (ht : t = 0 ∨ t = 1) :
    axisLib.nearest movedCorners ((alongAxis t).apply (pointAt corners i)) =
      some (i, (1 - t) ^ 2) := by
  have hown : sqDist (pointAt movedCorners i) ((alongAxis t).apply (pointAt corners i)) =
      (1 - t) ^ 2 := by
    rw [alongAxis_apply, pointAt_movedCorners hi, sqDist_eq]
    simp
  have hhead : (byDistance movedCorners ((alongAxis t).apply (pointAt corners i))).head? =
      some i := by
    refine byDistance_head hi fun j hj hne => ?_
    rw [hown, alongAxis_apply, pointAt_movedCorners hj, sqDist_eq]
    replace hj : j < 4 := hj
    interval_cases i <;> interval_cases j <;> first | exact absurd rfl hne | skip
    all_goals rcases ht with rfl | rfl <;> simp [corners, pointAt] <;> norm_num
  rw [← hown]
  exact congrArg (Option.map _) hhead

/-- The corners and their images, with covariances of three neighbors. -/
noncomputable def cornerPair : Gicp ℝ :=
  { new with k_correspondences_ := 3, input_ := corners, target_ := movedCorners }

theorem cornerPair_reachable : (object axisLib 2).Reachable cornerPair := by
  have hk := (Machine.Reachable.init rfl : (object axisLib 2).Reachable new).step
    (.setCorrespondenceRandomness new 3 (by norm_num))
  have hsource := hk.step (.setInputSource _ corners)
  exact hsource.step (.setInputTarget _ movedCorners)

theorem cornerPair_enough :
    Enough cornerPair cornerPair.input_ cornerPair.input_covariances_ ∧
      Enough cornerPair cornerPair.target_ cornerPair.target_covariances_ := by
  constructor
  · exact .inr (by norm_num [cornerPair, corners])
  · exact .inr (by norm_num [cornerPair, movedCorners, corners])

theorem scaled_zero (epsilon : ℝ) : scaled epsilon 0 = 0 := by
  simp [scaled]

theorem delta_alongAxis (t : ℝ) :
    cornerPair.delta (alongAxis t) (alongAxis 1) < 1 ↔ |t - 1| < 5 / 10000 := by
  have hdelta : cornerPair.delta (alongAxis t) (alongAxis 1) =
      max 0 (scaled cornerPair.transformation_epsilon_ (t - 1)) := by
    simp [delta, alongAxis, List.finRange_succ, scaled_zero]
  have hepsilon : cornerPair.transformation_epsilon_ = 5 / 10000 := by
    norm_num [cornerPair, new]
  have hscaled : scaled (5 / 10000) (t - 1) = ((10000 / 5 * |t - 1| : ℝ) : WithTop ℝ) := by
    norm_num [scaled]
  rw [hdelta, hepsilon, hscaled, max_lt_iff, ← WithTop.coe_zero, ← WithTop.coe_one,
    WithTop.coe_lt_coe, WithTop.coe_lt_coe]
  constructor
  · rintro ⟨-, h⟩
    linarith
  · exact fun h => ⟨one_pos, by linarith⟩

theorem startState_corners : cornerPair.startState.transformation_ = alongAxis 0 := by
  rw [alongAxis, startState, Affine.identity, Affine.mk.injEq]
  refine ⟨rfl, funext fun axis => ?_⟩
  fin_cases axis <;> rfl

section Pass

variable {scan : GicpScan ℝ} (hscan : cornerPair.scanOf axisLib Affine.identity = some scan)
include hscan

theorem scanOf_corners : scan.output = corners ∧
    scan.searchForNeighbors = axisLib.nearest movedCorners ∧ scan.dist_threshold = 25 ∧
    (∀ T R, scan.Readable T R) ∧ (∀ C ∈ scan.input_covariances_, C.PosDef) ∧
    ∀ C ∈ scan.target_covariances_, C.PosDef := by
  have hlaws := sound_reachable axisLib_laws cornerPair_reachable
  obtain ⟨scan', hscan', houtput, hsearch, hinput, htarget⟩ :=
    scanOf_spec axisLib_laws hlaws Affine.identity
  obtain rfl := Option.some.inj (hscan.symm.trans hscan')
  obtain ⟨-, hinput⟩ := hinput.resolve_right fun hnot => hnot.1 cornerPair_enough.1
  obtain ⟨-, htarget⟩ := htarget.resolve_right fun hnot => hnot.1 cornerPair_enough.2
  refine ⟨?_, hsearch, ?_, readable_of_fits axisLib_laws houtput hsearch hinput htarget,
    hinput.posDef, htarget.posDef⟩
  · have hat : ∀ p : Fin 3 → ℝ, Affine.identity.apply p = p := fun p => by
      simp [Affine.identity, Affine.apply]
    exact houtput.trans ((List.map_congr_left fun p _ => hat p).trans (List.map_id corners))
  · obtain ⟨_, -, hbind⟩ := Option.bind_eq_some_iff.mp hscan
    obtain ⟨_, -, rfl⟩ := Option.map_eq_some_iff.mp hbind
    norm_num [cornerPair, new]

/-- All four corners are paired with their images. -/
theorem plainLoop_corners {t : ℝ} (ht : t = 0 ∨ t = 1) (R : Matrix (Fin 3) (Fin 3) ℝ)
    (mahalanobis_ : List (Matrix (Fin 3) (Fin 3) ℝ)) :
    ∃ found, scan.plainLoop (alongAxis t) R mahalanobis_ = some found ∧
      found.source_indices = [0, 1, 2, 3] ∧ found.target_indices = [0, 1, 2, 3] := by
  obtain ⟨houtput, hsearch, hthreshold, hreadable, -, -⟩ := scanOf_corners hscan
  obtain ⟨found, hfound⟩ : ∃ found, scan.plainLoop (alongAxis t) R mahalanobis_ = some found :=
    ⟨_, if_pos (hreadable _ _)⟩
  obtain ⟨-, hsource, htarget, -⟩ := GicpScan.plainLoop_eq hfound
  have hpair : ∀ i < 4, (scan.record (alongAxis t) R i).map (fun r => (r.first, r.second)) =
      some (i, i) := by
    intro i hi
    have hnear : (1 - t) ^ 2 < scan.dist_threshold := by
      rw [hthreshold]
      rcases ht with rfl | rfl <;> norm_num
    have hnearest := nearest_movedCorners hi ht
    rw [← hsearch, ← houtput] at hnearest
    have hmem := (GicpScan.plainLoop_mem_iff hfound).mpr
      ⟨houtput ▸ hi, (1 - t) ^ 2, hnearest, hnear⟩
    rw [← List.zip_of_prod hsource.symm htarget.symm] at hmem
    obtain ⟨-, r, hr, hsecond⟩ := GicpScan.mem_correspondences_iff.mp hmem
    rw [hr, Option.map_some, GicpScan.record_first hr, hsecond]
  have hall : scan.correspondences (alongAxis t) R = [(0, 0), (1, 1), (2, 2), (3, 3)] := by
    rw [GicpScan.correspondences, SlotCounter.pairs, houtput]
    exact List.filterMap_congr fun i hi => hpair i (List.mem_range.mp hi)
  exact ⟨found, hfound, by rw [hsource, hall]; rfl, by rw [htarget, hall]; rfl⟩

/-- Along the axis, the cost is a parabola around the motion that was made. -/
theorem cost_corners {found : GicpScan.Matches ℝ} (hsource : found.source_indices = [0, 1, 2, 3])
    (htarget : found.target_indices = [0, 1, 2, 3])
    (hposDef : ∀ k < (problemOf scan movedCorners found).count,
      ((problemOf scan movedCorners found).maha k).PosDef) :
    ∃ c > 0, ∀ t,
      (plainFunctor realMath (problemOf scan movedCorners found)).f (Pi.single 0 t) =
        (t - 1) ^ 2 * c := by
  obtain ⟨houtput, -⟩ := scanOf_corners hscan
  let gicp := problemOf scan movedCorners found
  let e : Fin 3 → ℝ := ![1, 0, 0]
  have hcount : gicp.count = 4 := by
    simp [gicp, problemOf, GicpProblem.count, hsource]
  have hres : ∀ t, ∀ i < 4, gicp.res realMath (Pi.single 0 t) i = (t - 1) • e := by
    intro t i hi
    have hindex : gicp.src i = pointAt corners i ∧ gicp.tgt i = pointAt movedCorners i := by
      simp only [gicp, GicpProblem.src, GicpProblem.tgt, problemOf, hsource, htarget, houtput]
      interval_cases i <;> exact ⟨rfl, rfl⟩
    rw [GicpProblem.res, hindex.1, hindex.2, pointAt_movedCorners hi]
    have hstate : applyState realMath gicp.base_transformation_ (Pi.single 0 t) = alongAxis t :=
      applyState_alongAxis t
    rw [hstate, alongAxis_apply, add_sub_add_left_eq_sub]
    funext axis
    fin_cases axis <;> simp [e]
  have hterm : ∀ i < 4, 0 < e ⬝ᵥ (gicp.maha i *ᵥ e) := by
    intro i hi
    have he : e ≠ 0 := fun h => by simpa [e] using congrFun h 0
    simpa using (hposDef i (hcount ▸ hi)).dotProduct_mulVec_pos he
  refine ⟨((List.range 4).map fun i => e ⬝ᵥ (gicp.maha i *ᵥ e)).sum / 4, ?_, fun t => ?_⟩
  · refine div_pos (List.sum_pos _ (fun value hvalue => ?_) (by simp)) (by norm_num)
    obtain ⟨i, hi, rfl⟩ := List.mem_map.mp hvalue
    exact hterm i (List.mem_range.mp hi)
  · have hsum : (List.range 4).map (fun i => gicp.res realMath (Pi.single 0 t) i ⬝ᵥ
        (gicp.maha i *ᵥ gicp.res realMath (Pi.single 0 t) i)) =
        (List.range 4).map fun i => (t - 1) ^ 2 * (e ⬝ᵥ (gicp.maha i *ᵥ e)) := by
      refine List.map_congr_left fun i hi => ?_
      rw [hres t i (List.mem_range.mp hi), mulVec_smul, dotProduct_smul, smul_dotProduct,
        smul_smul, smul_eq_mul, sq]
    change (gicp.fdf realMath (Pi.single 0 t)).1 = _
    rw [GicpProblem.fdf_sums, hcount, hsum, List.sum_map_mul_left, Nat.cast_ofNat, mul_div_assoc]

/-- A pass makes the motion, or sees that it was made. -/
theorem exists_step_corners {t : ℝ} (ht : t = 0 ∨ t = 1) {s : GicpState ℝ}
    (hs : (cornerPair.loop realMath axisLib Affine.identity scan 2).Reachable s)
    (hopen : s.over = false) (hat : s.transformation_ = alongAxis t)
    (hcount : s.nr_iterations_ + 1 < 200) :
    ∃ found u, (cornerPair.loop realMath axisLib Affine.identity scan 2).Step s found u ∧
      found.source_indices = [0, 1, 2, 3] ∧ u.transformation_ = alongAxis 1 ∧
      u.nr_iterations_ = s.nr_iterations_ + 1 ∧ (u.over = true ↔ t = 1) := by
  obtain ⟨houtput, -, -, -, hinput, hposDef⟩ := scanOf_corners hscan
  obtain ⟨found, hfound, hsource, htarget⟩ := plainLoop_corners hscan ht
    (s.transformation_.linear * (Affine.identity : Affine ℝ).linear) s.mahalanobis_
  have hsize : scan.output.length ≤ s.mahalanobis_.length :=
    ((congrArg List.length houtput).trans
      (size_of_reachable (congrArg List.length houtput) hs).symm).le
  have hwell := wellPosed_of_plainLoop hinput hposDef movedCorners 2 hsize hfound
  obtain ⟨c, hc, hcost⟩ := cost_corners hscan hsource htarget hwell.posDef
  let functor := plainFunctor realMath (problemOf scan movedCorners found)
  have hestimate : estimateRigidTransformationBFGS realMath axisLib.arc axisLib.bfgs functor
      found.source_indices.length cornerPair.max_inner_iterations_ s.transformation_ =
        some (alongAxis 1) := by
    have hpairs : 4 ≤ found.source_indices.length := by simp [hsource]
    rw [hat]
    refine (estimate_alongAxis functor hpairs _ t).trans ?_
    rw [hcost, hcost]
    -- the step is taken exactly when it was not yet made
    rcases ht with rfl | rfl
    · rw [if_pos (by linarith), zero_add]
    · rw [if_neg (by linarith)]
  have hpass : (cornerPair.loop realMath axisLib Affine.identity scan 2).Step s found
      (cornerPair.finishPass realMath axisLib functor s found) := by
    refine (pass_iff two_pos hsize).mpr ?_
    rw [plainPass, if_neg (by simp [hopen]), hat]
    rw [hat] at hfound
    rw [hfound]
    rfl
  have hends : s.nr_iterations_ + 1 ≥ cornerPair.max_iterations_ ∨
      cornerPair.delta s.transformation_ (alongAxis 1) < 1 ↔ t = 1 := by
    have hmax : cornerPair.max_iterations_ = 200 := rfl
    rw [hat, delta_alongAxis, hmax]
    rcases ht with rfl | rfl
    · norm_num
      omega
    · norm_num
  refine ⟨found, _, hpass, hsource, ?_⟩
  simp only [finishPass, hestimate]
  split
  case isTrue h => exact ⟨rfl, rfl, by simp [GicpState.over, hends.mp h]⟩
  case isFalse h =>
    have hover : s.converged_ = false ∧ s.stopped = false := by
      simpa [GicpState.over] using hopen
    have hnot : t ≠ 1 := fun h1 => h (hends.mpr h1)
    exact ⟨rfl, rfl, by simp [GicpState.over, hover, hnot]⟩

/-- Two passes register the corners. -/
theorem exists_last_corners :
    ∃ labels last, (cornerPair.loop realMath axisLib Affine.identity scan 2).Run
        cornerPair.startState labels last ∧
      last.over = true ∧ last.transformation_ = alongAxis 1 := by
  have hstart := Machine.Run.nil (M := cornerPair.loop realMath axisLib Affine.identity scan 2)
    cornerPair.startState
  obtain ⟨found, s, hfirst, -, hat, hcount, hover⟩ := exists_step_corners hscan (.inl rfl)
    (.init rfl) rfl startState_corners (by norm_num [startState])
  have hopen : s.over = false := by simpa using hover.not.mpr (by norm_num)
  obtain ⟨found', last, hsecond, -, hlast, -, hends⟩ := exists_step_corners hscan (.inr rfl)
    (.step (.init rfl) hfirst) hopen hat (by rw [hcount]; norm_num [startState])
  exact ⟨_, last, (hstart.snoc hfirst).snoc hsecond, hends.mpr rfl, hlast⟩

end Pass

/-- Source and target of one point, with as many neighbors as the constructor asks for. -/
noncomputable def sparse : Gicp ℝ :=
  { new with input_ := [0], target_ := [0] }

theorem sparse_reachable : (object axisLib 1).Reachable sparse := by
  have hsource := (Machine.Reachable.init rfl : (object axisLib 1).Reachable new).step
    (.setInputSource _ [0])
  exact hsource.step (.setInputTarget _ [0])

theorem sparse_few : ¬ Enough sparse sparse.input_ sparse.input_covariances_ := by
  rintro (hne | hle)
  · exact hne rfl
  · norm_num [sparse, new] at hle

end Corners

section Reached

variable (hlaws : Laws lib) (hreach : (object lib threads).Reachable gicp) (guess : Affine ℝ)
include hlaws hreach

/-- **A registration does not depend on its threads**: with enough points, or covariances from
before, every run of the loop ends, within `max_iterations_` passes, and at least one, in the state
in which one thread ends. -/
theorem align_threads (hthreads : 0 < threads)
    (hinput : Enough gicp gicp.input_ gicp.input_covariances_)
    (htarget : Enough gicp gicp.target_ gicp.target_covariances_) :
    ∃ scan last, gicp.scanOf lib guess = some scan ∧ last.over = true ∧
      gicp.plainPasses realMath lib guess scan (max 1 gicp.max_iterations_).toNat
        gicp.startState = some last ∧
      (gicp.loop realMath lib guess scan threads).Reachable last ∧
      ∀ labels t, (gicp.loop realMath lib guess scan threads).Run gicp.startState labels t →
        (labels.length : ℤ) ≤ max 1 gicp.max_iterations_ ∧ (t.over = true → t = last) ∧
        (t.over = false →
          ∃ found u, (gicp.loop realMath lib guess scan threads).Step t found u) := by
  obtain ⟨scan, hscan, houtput, hsearch, hinput', htarget'⟩ :=
    scanOf_spec hlaws (sound_reachable hlaws hreach) guess
  obtain ⟨-, hinput''⟩ := hinput'.resolve_right fun hnot => hnot.1 hinput
  obtain ⟨-, htarget''⟩ := htarget'.resolve_right fun hnot => hnot.1 htarget
  have hlength : scan.output.length = gicp.input_.length := by rw [houtput, List.length_map]
  obtain ⟨last, hlast⟩ := loop_is_plain (m := realMath) hthreads hlength
    (readable_of_fits hlaws houtput hsearch hinput'' htarget'')
  exact ⟨scan, last, hscan, hlast⟩

omit hlaws hreach in
theorem align_threads_corners :
    ∃ scan last, cornerPair.scanOf axisLib Affine.identity = some scan ∧ last.over = true ∧
      last.transformation_ = alongAxis 1 ∧
      cornerPair.plainPasses realMath axisLib Affine.identity scan
        (max 1 cornerPair.max_iterations_).toNat cornerPair.startState = some last ∧
      (cornerPair.loop realMath axisLib Affine.identity scan 2).Reachable last ∧
      ∀ labels t, (cornerPair.loop realMath axisLib Affine.identity scan 2).Run
          cornerPair.startState labels t →
        (labels.length : ℤ) ≤ max 1 cornerPair.max_iterations_ ∧ (t.over = true → t = last) ∧
        (t.over = false → ∃ found u,
          (cornerPair.loop realMath axisLib Affine.identity scan 2).Step t found u) := by
  obtain ⟨scan, last, hscan, hover, hplain, hreached, hruns⟩ :=
    align_threads axisLib_laws cornerPair_reachable Affine.identity two_pos cornerPair_enough.1
      cornerPair_enough.2
  obtain ⟨labels, t, hrun, hends, hat⟩ := exists_last_corners hscan
  have hlast : t = last := (hruns labels t hrun).2.1 hends
  exact ⟨scan, last, hscan, hover, hlast ▸ hat, hplain, hreached, hruns⟩

/-- **Every pass is well posed**, in every run: the transformation so far is a rigid motion, and
the optimizer gets the nearest neighbors of the moved points and a cost with its gradient. -/
theorem align_wellPosed {scan : GicpScan ℝ} (hscan : gicp.scanOf lib guess = some scan)
    {s t : GicpState ℝ} {found : GicpScan.Matches ℝ}
    (hs : (gicp.loop realMath lib guess scan threads).Reachable s)
    (hstep : (gicp.loop realMath lib guess scan threads).Step s found t) :
    s.transformation_.Rigid ∧ WellPosed gicp.target_ scan threads s.transformation_ found := by
  obtain ⟨scan', hscan', houtput, -, hinput, htarget⟩ :=
    scanOf_spec hlaws (sound_reachable hlaws hreach) guess
  obtain rfl := Option.some.inj (hscan.symm.trans hscan')
  have hsize : scan.output.length ≤ s.mahalanobis_.length := by
    rw [houtput, List.length_map, size_of_reachable (by rw [houtput, List.length_map]) hs]
  have hplain := (GicpScan.gathers_iff hsize).mp hstep.2.1
  refine ⟨(rigid_of_reachable hs).1, wellPosed_of_plainLoop (posDef_of_fits hinput)
    (posDef_of_fits htarget) gicp.target_ threads hsize hplain⟩

omit hlaws hreach in
theorem align_wellPosed_corners :
    ∃ scan found t, cornerPair.scanOf axisLib Affine.identity = some scan ∧
      (cornerPair.loop realMath axisLib Affine.identity scan 2).Step cornerPair.startState found t ∧
      found.source_indices = [0, 1, 2, 3] ∧ t.transformation_ = alongAxis 1 ∧
      cornerPair.startState.transformation_.Rigid ∧
      WellPosed cornerPair.target_ scan 2 cornerPair.startState.transformation_ found := by
  obtain ⟨scan, hscan, -⟩ := scanOf_spec axisLib_laws
    (sound_reachable axisLib_laws cornerPair_reachable) Affine.identity
  obtain ⟨found, t, hstep, hsource, hat, -⟩ := exists_step_corners hscan (.inl rfl) (.init rfl) rfl
    startState_corners (by norm_num [startState])
  have hwell := align_wellPosed axisLib_laws cornerPair_reachable Affine.identity hscan
    (.init rfl) hstep
  exact ⟨scan, found, t, hscan, hstep, hsource, hat, hwell⟩

/-- **Too few points.**  Without covariances for a cloud and with fewer than
`k_correspondences_` points in it, none are computed.  Then the first pass reads out of range as
soon as a point has a correspondence; if none has, the optimizer throws, and the result is the
guess. -/
theorem align_fewPoints (hthreads : 0 < threads)
    (hfew : ¬ Enough gicp gicp.input_ gicp.input_covariances_ ∨
      ¬ Enough gicp gicp.target_ gicp.target_covariances_) :
    ∃ scan, gicp.scanOf lib guess = some scan ∧
      ((∃ found t, (gicp.loop realMath lib guess scan threads).Step gicp.startState found t) ↔
        ∀ i < scan.output.length, ∀ nn_index nn_dist,
          scan.searchForNeighbors (pointAt scan.output i) = some (nn_index, nn_dist) →
            scan.dist_threshold ≤ nn_dist) ∧
      ∀ found t, (gicp.loop realMath lib guess scan threads).Step gicp.startState found t →
        found.source_indices = [] ∧ t.stopped = true ∧ finalTransformation guess t = guess := by
  obtain ⟨scan, hscan, houtput, -, hinput, htarget⟩ :=
    scanOf_spec hlaws (sound_reachable hlaws hreach) guess
  have hnone : scan.input_covariances_ = [] ∨ scan.target_covariances_ = [] := by
    rcases hfew with hfew | hfew
    · exact .inl (hinput.resolve_left fun henough => hfew henough.1).2
    · exact .inr (htarget.resolve_left fun henough => hfew henough.1).2
  have hsize : scan.output.length ≤ gicp.startState.mahalanobis_.length := by
    rw [houtput, List.length_map, (loopInv_start gicp).size]
  have hat : ∀ p, (gicp.startState.transformation_).apply p = p := fun p => by
    simp [startState, Affine.identity, Affine.apply]
  refine ⟨scan, hscan, ?_, ?_⟩
  · have hreadable := readable_iff_of_none hnone gicp.startState.transformation_
      (gicp.startState.transformation_.linear * guess.linear)
    simp only [hat] at hreadable
    rw [← hreadable]
    constructor
    · rintro ⟨found, t, hstep⟩
      exact (GicpScan.plainLoop_eq ((GicpScan.gathers_iff hsize).mp hstep.2.1)).1
    · intro h
      have hpass : ∃ passed, gicp.plainPass realMath lib guess scan gicp.startState =
          some passed := by
        rw [plainPass, if_neg (by simp [GicpState.over, startState]), GicpScan.plainLoop,
          if_pos h, Option.map_some]
        exact ⟨_, rfl⟩
      obtain ⟨⟨found, t⟩, hpass⟩ := hpass
      exact ⟨found, t, (pass_iff hthreads hsize).mpr hpass⟩
  · rintro found t ⟨-, hgathers, schedule, rfl⟩
    have hsource : found.source_indices = [] := by
      rw [(GicpScan.plainLoop_eq ((GicpScan.gathers_iff hsize).mp hgathers)).2.1,
        correspondences_of_none hnone, List.map_nil]
    have hthrow : estimateRigidTransformationBFGS realMath lib.arc lib.bfgs
        (functorOf realMath (problemOf scan gicp.target_ found) schedule)
        found.source_indices.length gicp.max_inner_iterations_
        gicp.startState.transformation_ = none := by
      rw [hsource, estimateRigidTransformationBFGS, if_pos (by simp)]
    rw [finishPass, hthrow]
    refine ⟨hsource, rfl, ?_⟩
    simp [finalTransformation, startState, Affine.comp, Affine.identity]

omit hlaws hreach in
theorem align_fewPoints_onePoint :
    ∃ scan, sparse.scanOf axisLib Affine.identity = some scan ∧
      ((∃ found t, (sparse.loop realMath axisLib Affine.identity scan 1).Step
          sparse.startState found t) ↔
        ∀ i < scan.output.length, ∀ nn_index nn_dist,
          scan.searchForNeighbors (pointAt scan.output i) = some (nn_index, nn_dist) →
            scan.dist_threshold ≤ nn_dist) ∧
      ∀ found t, (sparse.loop realMath axisLib Affine.identity scan 1).Step
          sparse.startState found t →
        found.source_indices = [] ∧ t.stopped = true ∧
          finalTransformation Affine.identity t = Affine.identity :=
  align_fewPoints axisLib_laws sparse_reachable Affine.identity one_pos (.inl sparse_few)

end Reached

/-- **The result is a rigid motion of the guess**: when a registration is over, the cloud has been
moved by the guess and then by the rigid motion found so far, so that distances stay what the guess
made of them; and it has converged unless the optimizer gave up. -/
theorem align_rigid {guess : Affine ℝ} {scan : GicpScan ℝ} {last : GicpState ℝ}
    (hlast : (gicp.loop realMath lib guess scan threads).Reachable last)
    (hover : last.over = true) :
    (finalTransformation guess last).linear = last.transformation_.linear * guess.linear ∧
      last.transformation_.Rigid ∧
      gicp.finalOutput guess last =
        (gicp.input_.map guess.apply).map last.transformation_.apply ∧
      (∀ p q, sqDist ((finalTransformation guess last).apply p)
        ((finalTransformation guess last).apply q) = sqDist (guess.apply p) (guess.apply q)) ∧
      (last.converged_ = true ↔ last.stopped = false) := by
  obtain ⟨hrigid, hprevious, hone⟩ := rigid_of_reachable hlast
  have hfinal : finalTransformation guess last = last.transformation_.comp guess := by
    rw [finalTransformation, hprevious hover]
  have horth : last.transformation_.linearᵀ * last.transformation_.linear = 1 :=
    (mem_orthogonalGroup_iff' (Fin 3) ℝ).mp (mem_specialOrthogonalGroup_iff.mp hrigid).1
  refine ⟨by rw [hfinal]; rfl, hrigid, ?_, fun p q => ?_, ?_⟩
  · rw [finalOutput, hfinal, List.map_map]
    exact List.map_congr_left fun p _ => Affine.comp_apply ..
  · rw [hfinal, Affine.comp_apply, Affine.comp_apply]
    exact sqDist_rigid horth _ _ _
  · have hsome : last.converged_ = true ∨ last.stopped = true := by
      simpa [GicpState.over] using hover
    cases hstopped : last.stopped <;> simp_all

theorem align_rigid_corners :
    ∃ scan last, (cornerPair.loop realMath axisLib Affine.identity scan 2).Reachable last ∧
      last.over = true ∧ last.transformation_ = alongAxis 1 ∧
      (finalTransformation Affine.identity last).linear =
        last.transformation_.linear * (Affine.identity : Affine ℝ).linear ∧
      last.transformation_.Rigid ∧
      cornerPair.finalOutput Affine.identity last =
        (cornerPair.input_.map (Affine.identity : Affine ℝ).apply).map
          last.transformation_.apply ∧
      (∀ p q, sqDist ((finalTransformation Affine.identity last).apply p)
        ((finalTransformation Affine.identity last).apply q) =
          sqDist ((Affine.identity : Affine ℝ).apply p) ((Affine.identity : Affine ℝ).apply q)) ∧
      (last.converged_ = true ↔ last.stopped = false) := by
  obtain ⟨scan, hscan, -⟩ := scanOf_spec axisLib_laws
    (sound_reachable axisLib_laws cornerPair_reachable) Affine.identity
  obtain ⟨labels, last, hrun, hover, hat⟩ := exists_last_corners hscan
  have hlast := hrun.reachable (.init rfl)
  exact ⟨scan, last, hlast, hover, hat, align_rigid hlast hover⟩

end Align

end Gicp

end RoboRacer.Pclomp
