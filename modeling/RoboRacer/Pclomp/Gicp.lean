/-
  Pclomp/Gicp.lean --- generalized ICP (`gicp_omp_impl.hpp`: `computeTransformation`).

  Each pass of the loop finds the correspondences of the points, with a matrix for
  each, and gives them to the optimizer, until the transformation hardly changes, or
  the passes are used up, or the optimizer throws.  Threads share the search, and
  the functions of the optimizer.  However they interleave, the passes are those of
  one thread, since the numbers of the model are exact and their sums do not depend on
  the order.
-/
import RoboRacer.Pclomp.GicpCovariances
import RoboRacer.Pclomp.GicpOptimizer

set_option autoImplicit false

namespace RoboRacer.Pclomp

open Matrix RoboRacer.Foundation

/-! ## The object -/

/-- The members that a registration reads.  A cloud that is not set is empty, and so are the
covariances behind a null pointer. -/
structure Gicp (K : Type) where
  k_correspondences_ : ℤ
  gicp_epsilon_ : K
  rotation_epsilon_ : K
  transformation_epsilon_ : K
  corr_dist_threshold_ : K
  max_iterations_ : ℤ
  max_inner_iterations_ : ℤ
  input_ : List (Fin 3 → K)
  target_ : List (Fin 3 → K)
  input_covariances_ : List (Matrix (Fin 3) (Fin 3) K)
  target_covariances_ : List (Matrix (Fin 3) (Fin 3) K)
  mahalanobis_ : List (Matrix (Fin 3) (Fin 3) K)

/-- What the libraries compute.  `nearest` finds the nearest point of a cloud and its squared
distance. -/
structure GicpLib (K S : Type) where
  covariance : CovarianceLib K
  nearest : List (Fin 3 → K) → (Fin 3 → K) → Option (ℕ × K)
  arc : ArcMath K
  bfgs : Bfgs K S

/-- The variables of the loop; `stopped` is the `break` after an exception. -/
structure GicpState (K : Type) where
  nr_iterations_ : ℤ
  converged_ : Bool
  stopped : Bool
  transformation_ : Affine K
  previous_transformation_ : Affine K
  mahalanobis_ : List (Matrix (Fin 3) (Fin 3) K)

/-- The loop is over. -/
def GicpState.over {K : Type} (s : GicpState K) : Bool :=
  s.converged_ || s.stopped

namespace Gicp

section Object

variable {K S : Type} [Field K] [LinearOrder K] (m : CMath K) (lib : GicpLib K S) (gicp : Gicp K)
  (guess : Affine K)

/-- The covariances that a registration uses: those that are there, or computed ones. -/
def covariancesFor (cloud : List (Fin 3 → K)) (covariances : List (Matrix (Fin 3) (Fin 3) K)) :
    Option (List (Matrix (Fin 3) (Fin 3) K)) :=
  if covariances.isEmpty then
    computeCovariances lib.covariance gicp.k_correspondences_ gicp.gicp_epsilon_ cloud
  else some covariances

/-- What the loop reads. -/
def scanOf : Option (GicpScan K) :=
  (gicp.covariancesFor lib gicp.target_ gicp.target_covariances_).bind fun target_covariances_ =>
    (gicp.covariancesFor lib gicp.input_ gicp.input_covariances_).map fun input_covariances_ =>
      { output := gicp.input_.map guess.apply
        searchForNeighbors := lib.nearest gicp.target_
        input_covariances_ := input_covariances_
        target_covariances_ := target_covariances_
        dist_threshold := gicp.corr_dist_threshold_ * gicp.corr_dist_threshold_ }

/-- The state before the loop; the base class sets the transformations to the identity. -/
def startState : GicpState K where
  nr_iterations_ := 0
  converged_ := false
  stopped := false
  transformation_ := Affine.identity
  previous_transformation_ := Affine.identity
  mahalanobis_ := gicp.mahalanobis_.take gicp.input_.length ++
    List.replicate (gicp.input_.length - gicp.mahalanobis_.length) 1

/-- The change of an entry, in units of an epsilon.  Over an epsilon of 0, every change is
infinite, and no change is not a number, which is greater than nothing. -/
def scaled (epsilon difference : K) : WithTop K :=
  if epsilon = 0 then if difference = 0 then 0 else ⊤
  else ((1 / epsilon * |difference| : K) : WithTop K)

/-- `delta`. -/
def delta (previous_transformation_ transformation_ : Affine K) : WithTop K :=
  ((List.finRange 3).flatMap fun k =>
    ((List.finRange 3).map fun l => scaled gicp.rotation_epsilon_
      (previous_transformation_.linear k l - transformation_.linear k l)) ++
    [scaled gicp.transformation_epsilon_
      (previous_transformation_.translation k - transformation_.translation k)]).foldl max 0

/-- The rest of a pass, when the correspondences are found. -/
def finishPass (functor : BfgsFunctor K) (s : GicpState K) (found : GicpScan.Matches K) :
    GicpState K :=
  match estimateRigidTransformationBFGS m lib.arc lib.bfgs functor found.source_indices.length
    gicp.max_inner_iterations_ s.transformation_ with
  | none =>
    { s with
      mahalanobis_ := found.mahalanobis_
      previous_transformation_ := s.transformation_
      stopped := true }
  | some transformation_ =>
    let nr_iterations_ := s.nr_iterations_ + 1
    if nr_iterations_ ≥ gicp.max_iterations_ ∨ gicp.delta s.transformation_ transformation_ < 1
    then
      { s with
        mahalanobis_ := found.mahalanobis_
        transformation_ := transformation_
        previous_transformation_ := transformation_
        nr_iterations_ := nr_iterations_
        converged_ := true }
    else
      { s with
        mahalanobis_ := found.mahalanobis_
        transformation_ := transformation_
        previous_transformation_ := s.transformation_
        nr_iterations_ := nr_iterations_ }

variable (scan : GicpScan K)

/-- A pass of the loop with `threads` threads. -/
def Pass (threads : ℕ) (s : GicpState K) (found : GicpScan.Matches K) (t : GicpState K) : Prop :=
  s.over = false ∧
    scan.Gathers s.transformation_ (s.transformation_.linear * guess.linear) s.mahalanobis_
      found ∧
    ∃ schedule : (Fin 6 → K) →
        Schedule threads (problemOf scan gicp.target_ found).count ×
          Schedule threads (problemOf scan gicp.target_ found).count,
      t = gicp.finishPass m lib (functorOf m (problemOf scan gicp.target_ found) schedule) s found

/-- The loop of `computeTransformation` with `threads` threads; a label is what a pass has
found. -/
def loop (threads : ℕ) : Machine (GicpState K) (GicpScan.Matches K) where
  Init s := s = gicp.startState
  Step := gicp.Pass m lib guess scan threads

/-- A pass of one thread. -/
def plainPass (s : GicpState K) : Option (GicpScan.Matches K × GicpState K) :=
  if s.over then none
  else
    (scan.plainLoop s.transformation_ (s.transformation_.linear * guess.linear)
      s.mahalanobis_).map fun found =>
        (found, gicp.finishPass m lib (plainFunctor m (problemOf scan gicp.target_ found)) s found)

/-- The passes of one thread, with a bound on their number; `none` when they do not suffice, or
read out of range. -/
def plainPasses : ℕ → GicpState K → Option (GicpState K)
  | 0, s => if s.over then some s else none
  | n + 1, s =>
    if s.over then some s
    else (gicp.plainPass m lib guess scan s).bind fun passed => plainPasses n passed.2

/-- `final_transformation_`. -/
def finalTransformation (s : GicpState K) : Affine K :=
  s.previous_transformation_.comp guess

/-- `output` after `computeTransformation`. -/
def finalOutput (s : GicpState K) : List (Fin 3 → K) :=
  gicp.input_.map (finalTransformation guess s).apply

end Object

/-! ## Passes of many threads are passes of one -/

section Threads

variable {K S : Type} [Field K] [LinearOrder K] {m : CMath K} {lib : GicpLib K S} {gicp : Gicp K}
  {guess : Affine K} {scan : GicpScan K} {threads : ℕ}

/-- One thread takes all pairs. -/
def oneTakesAll (hthreads : 0 < threads) (n : ℕ) : Schedule threads n where
  events := (List.range n).map fun i => (⟨0, hthreads⟩, i)
  perm := by
    rw [List.map_map]
    exact List.Perm.of_eq (List.map_id _)

theorem pass_iff (hthreads : 0 < threads) {s t : GicpState K} {found : GicpScan.Matches K}
    (hsize : scan.output.length ≤ s.mahalanobis_.length) :
    gicp.Pass m lib guess scan threads s found t ↔
      gicp.plainPass m lib guess scan s = some (found, t) := by
  rw [Pass, plainPass, GicpScan.gathers_iff hsize]
  simp only [functorOf_eq]
  cases s.over with
  | true => simp
  | false =>
    constructor
    · rintro ⟨-, hfound, -, rfl⟩
      simp [hfound]
    · intro h
      rw [if_neg (by simp), Option.map_eq_some_iff] at h
      obtain ⟨found', hfound, heq⟩ := h
      obtain ⟨rfl, rfl⟩ := Prod.mk.inj heq
      exact ⟨rfl, hfound, fun _ => (oneTakesAll hthreads _, oneTakesAll hthreads _), rfl⟩

variable (m lib gicp) in
/-- What the rest of a pass can do: nothing but an exception leaves the transformation, and
without one, the passes are counted. -/
theorem finishPass_cases (functor : BfgsFunctor K) (s : GicpState K)
    (found : GicpScan.Matches K) :
    (estimateRigidTransformationBFGS m lib.arc lib.bfgs functor found.source_indices.length
        gicp.max_inner_iterations_ s.transformation_ = none ∧
      gicp.finishPass m lib functor s found =
        { s with
          mahalanobis_ := found.mahalanobis_
          previous_transformation_ := s.transformation_
          stopped := true }) ∨
    ∃ transformation_,
      estimateRigidTransformationBFGS m lib.arc lib.bfgs functor found.source_indices.length
        gicp.max_inner_iterations_ s.transformation_ = some transformation_ ∧
      ((s.nr_iterations_ + 1 ≥ gicp.max_iterations_ ∨
          gicp.delta s.transformation_ transformation_ < 1) ∧
        gicp.finishPass m lib functor s found =
          { s with
            mahalanobis_ := found.mahalanobis_
            transformation_ := transformation_
            previous_transformation_ := transformation_
            nr_iterations_ := s.nr_iterations_ + 1
            converged_ := true } ∨
        s.nr_iterations_ + 1 < gicp.max_iterations_ ∧
        gicp.finishPass m lib functor s found =
          { s with
            mahalanobis_ := found.mahalanobis_
            transformation_ := transformation_
            previous_transformation_ := s.transformation_
            nr_iterations_ := s.nr_iterations_ + 1 }) := by
  rw [finishPass]
  split
  case h_1 hestimate => exact .inl ⟨hestimate, rfl⟩
  case h_2 transformation_ hestimate =>
    refine .inr ⟨transformation_, hestimate, ?_⟩
    dsimp only
    split
    case isTrue hends => exact .inl ⟨hends, rfl⟩
    case isFalse hgoes =>
      exact .inr ⟨not_le.mp fun hle => hgoes (.inl hle), rfl⟩

/-! ## The loop ends -/

/-- What holds after `passes` passes. -/
structure LoopInv (gicp : Gicp K) (passes : ℕ) (s : GicpState K) : Prop where
  size : s.mahalanobis_.length = gicp.input_.length
  counted : s.over = false → s.nr_iterations_ = passes
  bounded : (passes : ℤ) ≤ max 1 gicp.max_iterations_
  open_bounded : s.over = false → passes = 0 ∨ (passes : ℤ) < gicp.max_iterations_
  previous : s.over = true → s.previous_transformation_ = s.transformation_

omit [LinearOrder K] in
theorem loopInv_start (gicp : Gicp K) : gicp.LoopInv 0 gicp.startState where
  size := by
    simp only [startState, List.length_append, List.length_take, List.length_replicate]
    omega
  counted := fun _ => rfl
  bounded := by simp
  open_bounded := fun _ => .inl rfl
  previous := nofun

/-- A plain loop over the points keeps the number of matrices. -/
theorem plainLoop_size {T : Affine K} {R : Matrix (Fin 3) (Fin 3) K}
    {mahalanobis_ : List (Matrix (Fin 3) (Fin 3) K)} {found : GicpScan.Matches K}
    (h : scan.plainLoop T R mahalanobis_ = some found) :
    found.mahalanobis_.length = mahalanobis_.length := by
  rw [(GicpScan.plainLoop_eq h).2.2.2, SlotCounter.written, List.length_mapIdx]

theorem loopInv_step {passes : ℕ} {s t : GicpState K} {found : GicpScan.Matches K}
    (h : gicp.LoopInv passes s) (hpass : gicp.plainPass m lib guess scan s = some (found, t)) :
    gicp.LoopInv (passes + 1) t := by
  rw [plainPass] at hpass
  split at hpass
  case isTrue => cases hpass
  case isFalse hopen =>
    have hopen : s.over = false := by simpa using hopen
    obtain ⟨found', hfound, heq⟩ := Option.map_eq_some_iff.mp hpass
    obtain ⟨rfl, rfl⟩ := Prod.mk.inj heq
    have hsize := (plainLoop_size hfound).trans h.size
    have hcounted := h.counted hopen
    have hbound : ((passes + 1 : ℕ) : ℤ) ≤ max 1 gicp.max_iterations_ := by
      rcases h.open_bounded hopen with hzero | hless
      · rw [hzero]
        exact le_max_left _ _
      · exact le_max_of_le_right (by omega)
    obtain ⟨-, ht⟩ | ⟨transformation_, -, ⟨-, ht⟩ | ⟨hless, ht⟩⟩ :=
      finishPass_cases m lib gicp (plainFunctor m (problemOf scan gicp.target_ found')) s found'
    · rw [ht]
      exact ⟨hsize, by simp [GicpState.over], hbound, by simp [GicpState.over], fun _ => rfl⟩
    · rw [ht]
      exact ⟨hsize, by simp [GicpState.over], hbound, by simp [GicpState.over], fun _ => rfl⟩
    · rw [ht]
      have hcount : s.nr_iterations_ + 1 = ((passes + 1 : ℕ) : ℤ) := by omega
      exact ⟨hsize, fun _ => hcount, hbound, fun _ => .inr (hcount ▸ hless),
        fun hover => absurd (hopen.symm.trans hover) (by simp)⟩

section Runs

variable (hthreads : 0 < threads) (houtput : scan.output.length = gicp.input_.length)
include hthreads houtput

/-- Every run, whatever its interleavings, is a run of one thread, and keeps the invariant. -/
theorem plainPasses_of_run {t : GicpState K} {labels : List (GicpScan.Matches K)}
    (h : (gicp.loop m lib guess scan threads).Run gicp.startState labels t) :
    gicp.LoopInv labels.length t ∧
      ∀ n, gicp.plainPasses m lib guess scan (labels.length + n) gicp.startState =
        gicp.plainPasses m lib guess scan n t := by
  generalize hstart : gicp.startState = start at h
  induction h with
  | nil =>
    subst hstart
    exact ⟨loopInv_start gicp, fun n => by rw [List.length_nil, Nat.zero_add]⟩
  | @snoc t u labels found _ hstep ih =>
    obtain ⟨ht, hplain⟩ := ih
    have hpass := (pass_iff hthreads (houtput.trans ht.size.symm).le).mp hstep
    have hopen : t.over = false := hstep.1
    rw [List.length_append, List.length_singleton]
    refine ⟨loopInv_step ht hpass, fun n => ?_⟩
    rw [Nat.add_assoc, hplain, Nat.add_comm 1 n, plainPasses, if_neg (by simp [hopen]), hpass,
      Option.bind_some]

/-- A pass can be made from every state that is reached before the end. -/
theorem exists_pass (hreadable : ∀ T R, scan.Readable T R) {t : GicpState K}
    {labels : List (GicpScan.Matches K)}
    (h : (gicp.loop m lib guess scan threads).Run gicp.startState labels t)
    (hopen : t.over = false) :
    ∃ found u, (gicp.loop m lib guess scan threads).Step t found u := by
  obtain ⟨hinv, -⟩ := plainPasses_of_run hthreads houtput h
  have hpass : ∃ passed, gicp.plainPass m lib guess scan t = some passed := by
    simp only [plainPass, hopen, GicpScan.plainLoop, if_pos (hreadable _ _), Option.map_some]
    exact ⟨_, rfl⟩
  obtain ⟨⟨found, u⟩, hpass⟩ := hpass
  exact ⟨found, u, (pass_iff hthreads (houtput.trans hinv.size.symm).le).mpr hpass⟩

/-- From every state that is reached, the loop comes to its end. -/
theorem exists_over (hreadable : ∀ T R, scan.Readable T R) {t : GicpState K}
    {labels : List (GicpScan.Matches K)}
    (h : (gicp.loop m lib guess scan threads).Run gicp.startState labels t) :
    ∃ labels' last, (gicp.loop m lib guess scan threads).Run gicp.startState labels' last ∧
      last.over = true := by
  -- the number of passes is bounded
  induction hleft : (max 1 gicp.max_iterations_ - labels.length).toNat
    using Nat.strong_induction_on generalizing t labels with
  | _ left ih =>
    cases hover : t.over with
    | true => exact ⟨labels, t, h, hover⟩
    | false =>
      obtain ⟨found, u, hstep⟩ := exists_pass hthreads houtput hreadable h hover
      have hrun := h.snoc hstep
      have hbound := (plainPasses_of_run hthreads houtput hrun).1.bounded
      refine ih _ ?_ hrun rfl
      rw [List.length_append, List.length_singleton] at hbound ⊢
      omega

/-- **Threads change nothing.**  However the iterations interleave and the threads share the pairs,
the loop ends after at most `max_iterations_` passes, and at least one, in the state in which a
single thread ends. -/
theorem loop_is_plain (hreadable : ∀ T R, scan.Readable T R) :
    ∃ last, last.over = true ∧
      gicp.plainPasses m lib guess scan (max 1 gicp.max_iterations_).toNat gicp.startState =
        some last ∧
      (gicp.loop m lib guess scan threads).Reachable last ∧
      ∀ labels t, (gicp.loop m lib guess scan threads).Run gicp.startState labels t →
        (labels.length : ℤ) ≤ max 1 gicp.max_iterations_ ∧
        (t.over = true → t = last) ∧
        (t.over = false → ∃ found u, (gicp.loop m lib guess scan threads).Step t found u) := by
  have hplain : ∀ labels t, (gicp.loop m lib guess scan threads).Run gicp.startState labels t →
      t.over = true →
      gicp.plainPasses m lib guess scan (max 1 gicp.max_iterations_).toNat gicp.startState =
        some t := by
    intro labels t hrun hover
    obtain ⟨hinv, hpasses⟩ := plainPasses_of_run hthreads houtput hrun
    have hbound := hinv.bounded
    have hsplit : (max 1 gicp.max_iterations_).toNat =
        labels.length + ((max 1 gicp.max_iterations_).toNat - labels.length) := by
      omega
    rw [hsplit, hpasses]
    cases (max 1 gicp.max_iterations_).toNat - labels.length with
    | zero => rw [plainPasses, if_pos hover]
    | succ n => rw [plainPasses, if_pos hover]
  obtain ⟨labels, last, hrun, hover⟩ := exists_over hthreads houtput hreadable
    (.nil gicp.startState : (gicp.loop m lib guess scan threads).Run _ _ _)
  refine ⟨last, hover, hplain labels last hrun hover, hrun.reachable (.init rfl), ?_⟩
  intro labels' t hrun'
  refine ⟨(plainPasses_of_run hthreads houtput hrun').1.bounded, fun hover' => ?_,
    exists_pass hthreads houtput hreadable hrun'⟩
  exact Option.some.inj ((hplain labels' t hrun' hover').symm.trans
    (hplain labels last hrun hover))

end Runs

end Threads

/-! ## What the optimizer is given -/

section WellPosed

/-- The pairs of a pass are the nearest neighbors that are close enough, each point of the source
once and in order; the matrices are positive definite; and the functions that the solver calls,
with any sharing of the pairs, are a cost and its gradient. -/
structure WellPosed (target_ : List (Fin 3 → ℝ)) (scan : GicpScan ℝ) (threads : ℕ)
    (transformation_ : Affine ℝ) (found : GicpScan.Matches ℝ) : Prop where
  lengths : found.target_indices.length = found.source_indices.length
  sorted : found.source_indices.Pairwise fun i i' => i < i'
  nearest : ∀ i j, (i, j) ∈ found.source_indices.zip found.target_indices ↔
    i < scan.output.length ∧ ∃ nn_dist,
      scan.searchForNeighbors (transformation_.apply (pointAt scan.output i)) =
        some (j, nn_dist) ∧ nn_dist < scan.dist_threshold
  posDef : ∀ k < (problemOf scan target_ found).count,
    ((problemOf scan target_ found).maha k).PosDef
  cost : ∀ (schedule : (Fin 6 → ℝ) → Schedule threads (problemOf scan target_ found).count ×
      Schedule threads (problemOf scan target_ found).count) x,
    let functor := functorOf realMath (problemOf scan target_ found) schedule
    functor.fdf x = (functor.f x, functor.df x) ∧ 0 ≤ functor.f x ∧
      ∀ k, HasDerivAt (fun s => functor.f (Function.update x k s)) (functor.df x k) (x k)

variable {gicp : Gicp ℝ} {scan : GicpScan ℝ}

/-- A matrix of the loop over the points is positive definite. -/
theorem record_posDef (hinput : ∀ C ∈ scan.input_covariances_, C.PosDef)
    (htarget : ∀ C ∈ scan.target_covariances_, C.PosDef) {T : Affine ℝ}
    {R : Matrix (Fin 3) (Fin 3) ℝ} {i : ℕ}
    {r : SlotRecord ℕ ℕ (Matrix (Fin 3) (Fin 3) ℝ)} (hr : scan.record T R i = some r) :
    r.own.PosDef := by
  obtain ⟨_, _, C1, C2, -, -, hC1, hC2, rfl⟩ := GicpScan.record_eq_some_iff.mp hr
  have hrotated : (R * C1 * Rᵀ).PosSemidef := by
    simpa using (hinput C1 (List.mem_of_getElem? hC1)).posSemidef.mul_mul_conjTranspose_same R
  rw [inverse_eq]
  exact (PosDef.posSemidef_add hrotated (htarget C2 (List.mem_of_getElem? hC2))).inv

theorem wellPosed_of_plainLoop (hinput : ∀ C ∈ scan.input_covariances_, C.PosDef)
    (htarget : ∀ C ∈ scan.target_covariances_, C.PosDef) (target_ : List (Fin 3 → ℝ))
    (threads : ℕ) {T : Affine ℝ} {R : Matrix (Fin 3) (Fin 3) ℝ}
    {mahalanobis_ : List (Matrix (Fin 3) (Fin 3) ℝ)}
    (hsize : scan.output.length ≤ mahalanobis_.length) {found : GicpScan.Matches ℝ}
    (h : scan.plainLoop T R mahalanobis_ = some found) :
    WellPosed target_ scan threads T found := by
  have hposDef : ∀ k < (problemOf scan target_ found).count,
      ((problemOf scan target_ found).maha k).PosDef := by
    intro k hk
    obtain ⟨i, r, hi, -, hr, hown⟩ := GicpScan.plainLoop_pair h hsize hk
    have hmaha : (problemOf scan target_ found).maha k = r.own := by
      simp only [problemOf, GicpProblem.maha, hi, Option.getD_some, hown]
    rw [hmaha]
    exact record_posDef hinput htarget hr
  refine ⟨?_, GicpScan.plainLoop_sorted h, fun i j => GicpScan.plainLoop_mem_iff h, hposDef, ?_⟩
  · obtain ⟨-, hsource, htarget, -⟩ := GicpScan.plainLoop_eq h
    rw [hsource, htarget, List.length_map, List.length_map]
  · intro schedule x
    rw [functorOf_eq]
    refine ⟨rfl, ?_, fun k => ?_⟩
    · exact GicpProblem.fdf_nonneg _ (fun k hk => (hposDef k hk).posSemidef) x
    · exact GicpProblem.hasDerivAt_fdf _ rfl (fun k hk => isSymm_of_posDef (hposDef k hk)) x k

end WellPosed

end Gicp

end RoboRacer.Pclomp
