/-
  Pclomp/GicpOptimizer.lean --- the optimizer of generalized ICP
  (`gicp_omp_impl.hpp`: `estimateRigidTransformationBFGS`).

  The transformation is taken apart into translation and angles, the BFGS solver moves
  them step by step, and they are put together again.  What comes back is a rigid
  motion; and the solver starts where the transformation is, except at a quarter
  turn about the second axis.  Numbers are exact where the code has floats.
-/
import RoboRacer.Foundation.RotationAngles
import RoboRacer.Pclomp.GicpCost
import RoboRacer.Pclomp.GicpMatches

set_option autoImplicit false

namespace RoboRacer.Pclomp

open Matrix RoboRacer.Foundation

/-! ## The solver -/

/-- `BFGSSpace::Status`; `Success` is the one that is 0. -/
inductive BfgsStatus where
  | NegativeGradientEpsilon
  | NotStarted
  | Running
  | Success
  | NoProgress
deriving DecidableEq, Repr

/-- The functions that the solver calls. -/
structure BfgsFunctor (K : Type) where
  f : (Fin 6 → K) → K
  df : (Fin 6 → K) → Fin 6 → K
  fdf : (Fin 6 → K) → K × (Fin 6 → K)

/-- The solver, with states in `S`. -/
structure Bfgs (K S : Type) where
  minimizeInit : BfgsFunctor K → (Fin 6 → K) → S
  minimizeOneStep : BfgsFunctor K → S → (Fin 6 → K) → BfgsStatus × S × (Fin 6 → K)
  testGradient : S → K → BfgsStatus

/-- The inverse functions of trigonometry. -/
structure ArcMath (K : Type) where
  asin : K → K
  atan2 : K → K → K

section Estimate

variable {K S : Type} [Field K] (m : CMath K) (arc : ArcMath K) (bfgs : Bfgs K S)

/-- The state that the solver starts from. -/
def stateOf (transformation_matrix : Affine K) : Fin 6 → K :=
  let R := transformation_matrix.linear
  let t := transformation_matrix.translation
  ![t 0, t 1, t 2, arc.atan2 (R 2 1) (R 2 2), arc.asin (-R 2 0), arc.atan2 (R 1 0) (R 0 0)]

/-- The loop, with `left` steps allowed after the next one: the last result, the number of steps,
and the state. -/
def minimizeLoop (functor : BfgsFunctor K) (gradient_tol : K) :
    ℕ → S → (Fin 6 → K) → BfgsStatus × ℤ × (Fin 6 → K)
  | left, s, x =>
    let stepped := bfgs.minimizeOneStep functor s x
    if stepped.1 ≠ .Success then (stepped.1, 1, stepped.2.2)
    else
      let result := bfgs.testGradient stepped.2.1 gradient_tol
      match result, left with
      | .Running, left + 1 =>
        let rest := minimizeLoop functor gradient_tol left stepped.2.1 stepped.2.2
        (rest.1, rest.2.1 + 1, rest.2.2)
      | _, _ => (result, 1, stepped.2.2)

/-- `estimateRigidTransformationBFGS`; `none` for its two exceptions. -/
def estimateRigidTransformationBFGS (functor : BfgsFunctor K) (pairs : ℕ)
    (max_inner_iterations_ : ℤ) (transformation_matrix : Affine K) : Option (Affine K) :=
  if pairs < 4 then none
  else
    let x := stateOf arc transformation_matrix
    let gradient_tol := ((100 : ℕ) : K)⁻¹
    let ended := minimizeLoop bfgs functor gradient_tol (max_inner_iterations_ - 1).toNat
      (bfgs.minimizeInit functor x) x
    if ended.1 = .NoProgress ∨ ended.1 = .Success ∨ ended.2.1 = max_inner_iterations_ then
      some (applyState m Affine.identity ended.2.2)
    else none

end Estimate

/-! ## The problem of the optimizer -/

section Problem

variable {K : Type} [Field K] [LinearOrder K] (m : CMath K) (scan : GicpScan K)
  (target_ : List (Fin 3 → K)) (found : GicpScan.Matches K)

/-- The members that the functor reads, as they are when the optimizer runs. -/
def problemOf : GicpProblem K where
  base_transformation_ := Affine.identity
  tmp_src_ := scan.output
  tmp_tgt_ := target_
  tmp_idx_src_ := found.source_indices
  tmp_idx_tgt_ := found.target_indices
  mahalanobis_ := fun i => found.mahalanobis_[i]?.getD 0

/-- The functor; `f` and `df` share the pairs among the threads. -/
def functorOf {threads : ℕ} (gicp : GicpProblem K)
    (schedule : (Fin 6 → K) → Schedule threads gicp.count × Schedule threads gicp.count) :
    BfgsFunctor K where
  f := fun x => gicp.cost m x (schedule x).1.events
  df := fun x => gicp.df m x (schedule x).2.events
  fdf := gicp.fdf m

/-- The functor without threads. -/
def plainFunctor (gicp : GicpProblem K) : BfgsFunctor K where
  f := fun x => (gicp.fdf m x).1
  df := fun x => (gicp.fdf m x).2
  fdf := gicp.fdf m

omit [LinearOrder K] in
/-- The functor does not depend on how the threads share the pairs. -/
theorem functorOf_eq {threads : ℕ} (gicp : GicpProblem K)
    (schedule : (Fin 6 → K) → Schedule threads gicp.count × Schedule threads gicp.count) :
    functorOf m gicp schedule = plainFunctor m gicp := by
  have hf : ∀ x, gicp.fdf m x = (gicp.cost m x (schedule x).1.events,
      gicp.df m x (schedule x).1.events) := fun x =>
    gicp.fdf_eq m x (schedule x).1.perm
  have hdf : ∀ x, gicp.fdf m x = (gicp.cost m x (schedule x).2.events,
      gicp.df m x (schedule x).2.events) := fun x =>
    gicp.fdf_eq m x (schedule x).2.perm
  rw [functorOf, plainFunctor, BfgsFunctor.mk.injEq]
  refine ⟨funext fun x => ?_, funext fun x => ?_, rfl⟩
  · rw [hf x]
  · rw [hdf x]

end Problem

/-! ## What comes back -/

section Rigid

/-- A rotation and a translation. -/
def Affine.Rigid (T : Affine ℝ) : Prop :=
  T.linear ∈ specialOrthogonalGroup (Fin 3) ℝ

theorem Affine.identity_rigid : (Affine.identity : Affine ℝ).Rigid :=
  one_mem _

theorem Affine.Rigid.comp {T S : Affine ℝ} (hT : T.Rigid) (hS : S.Rigid) : (T.comp S).Rigid :=
  mul_mem hT hS

theorem applyState_rigid {t : Affine ℝ} (ht : t.Rigid) (x : Fin 6 → ℝ) :
    (applyState realMath t x).Rigid := by
  have hturn : ∀ angle, realMath.sin angle ^ 2 + realMath.cos angle ^ 2 = 1 :=
    Real.sin_sq_add_cos_sq
  exact mul_mem (mul_mem (mul_mem (rotZ_mem (hturn _)) (rotY_mem (hturn _)))
    (rotX_mem (hturn _))) ht

variable {S : Type} {arc : ArcMath ℝ} {bfgs : Bfgs ℝ S}

/-- The optimizer gives a rigid motion. -/
theorem estimate_rigid {functor : BfgsFunctor ℝ} {pairs : ℕ} {max_inner_iterations_ : ℤ}
    {before after : Affine ℝ} (h : estimateRigidTransformationBFGS realMath arc bfgs functor pairs
      max_inner_iterations_ before = some after) : after.Rigid := by
  rw [estimateRigidTransformationBFGS] at h
  split at h
  case isTrue => cases h
  case isFalse =>
    dsimp only at h
    split at h
    case isTrue =>
      rw [← Option.some.inj h]
      exact applyState_rigid Affine.identity_rigid _
    case isFalse => cases h

/-- The functions of the standard library. -/
noncomputable def realArc : ArcMath ℝ where
  asin := Real.arcsin
  atan2 := atan2

theorem applyState_stateOf (T : Affine ℝ) :
    applyState realMath Affine.identity (stateOf realArc T) =
      ⟨turnsFrom (T.linear 1 0) (T.linear 0 0) (T.linear 2 0) (T.linear 2 1) (T.linear 2 2),
        T.translation⟩ := by
  have hzero : (0 : Fin 3 → ℝ) + ![T.translation 0, T.translation 1, T.translation 2] =
      T.translation := by
    funext axis
    fin_cases axis <;> simp
  simp only [applyState, Affine.identity, Matrix.mul_one]
  exact congrArg (Affine.mk _) hzero

/-- A quarter turn about the first axis, a turn about the third, and a translation. -/
noncomputable def tilted : Affine ℝ :=
  ⟨rotZ (((3 : ℕ) : ℝ) / ((5 : ℕ) : ℝ)) (((4 : ℕ) : ℝ) / ((5 : ℕ) : ℝ)) * rotX 1 0,
    ![1, -1, 1]⟩

/-- A quarter turn about the second axis, and then one about the third. -/
def locked : Affine ℝ :=
  ⟨rotZ 1 0 * rotY 1 0, 0⟩

theorem tilted_rigid : tilted.Rigid :=
  mul_mem (rotZ_mem (by norm_num)) (rotX_mem (by norm_num))

theorem locked_rigid : locked.Rigid :=
  mul_mem (rotZ_mem (by norm_num)) (rotY_mem (by norm_num))

/-- **The solver starts where the transformation is**: the state that is read off a rigid motion
stands for this motion, except when it turns by a quarter about the second axis and is not that
turn alone. -/
theorem stateOf_roundTrip {T : Affine ℝ} (hT : T.Rigid) :
    applyState realMath Affine.identity (stateOf realArc T) = T ↔
      T.linear 2 0 ^ 2 ≠ 1 ∨ T.linear = rotY (-T.linear 2 0) 0 := by
  obtain ⟨hgeneric, hlock⟩ := turnsFrom_eq hT
  have hlinear : applyState realMath Affine.identity (stateOf realArc T) = T ↔
      turnsFrom (T.linear 1 0) (T.linear 0 0) (T.linear 2 0) (T.linear 2 1) (T.linear 2 2) =
        T.linear := by
    rw [applyState_stateOf]
    constructor
    · exact fun h => congrArg Affine.linear h
    · intro h
      rw [h]
  rw [hlinear]
  by_cases hquarter : T.linear 2 0 ^ 2 = 1
  · rw [hlock hquarter]
    simp [hquarter, eq_comm]
  · simp [hgeneric hquarter, hquarter]

theorem stateOf_roundTrip_tilted :
    applyState realMath Affine.identity (stateOf realArc tilted) = tilted ∧
      applyState realMath Affine.identity (stateOf realArc locked) ≠ locked := by
  have htilted : tilted.linear 2 0 = 0 := by
    simp [tilted, rotZ, rotX]
  have hlocked : locked.linear 2 0 = -1 := by
    simp [locked, rotZ, rotY]
  constructor
  · exact (stateOf_roundTrip tilted_rigid).mpr (.inl (by norm_num [htilted]))
  · rw [ne_eq, stateOf_roundTrip locked_rigid, hlocked]
    rintro (hgeneric | halone)
    · norm_num at hgeneric
    · have hentry := congrFun (congrFun halone 0) 1
      simp [locked, rotZ, rotY] at hentry

end Rigid

/-! ### Along an axis -/

section Axis

/-- The motion along the first axis. -/
def alongAxis (t : ℝ) : Affine ℝ :=
  ⟨1, ![t, 0, 0]⟩

theorem alongAxis_apply (t : ℝ) (p : Fin 3 → ℝ) : (alongAxis t).apply p = p + ![t, 0, 0] := by
  rw [Affine.apply, alongAxis, one_mulVec]

theorem stateOf_alongAxis (t : ℝ) : stateOf realArc (alongAxis t) = Pi.single 0 t := by
  funext k
  fin_cases k <;> simp [stateOf, realArc, alongAxis, atan2_zero_one]

theorem applyState_alongAxis (t : ℝ) :
    applyState realMath Affine.identity (Pi.single 0 t) = alongAxis t := by
  rw [applyState, alongAxis]
  congr 1
  · simp [realMath, Affine.identity, rotX_zero_one, rotY_zero_one, rotZ_zero_one]
  · funext axis
    fin_cases axis <;> simp [Affine.identity]

/-- A solver that tries a step of 1 along the first axis. -/
noncomputable def axisSolver : Bfgs ℝ Unit where
  minimizeInit := fun _ _ => ()
  minimizeOneStep := fun functor _ x =>
    let moved := x + Pi.single 0 1
    if functor.f moved < functor.f x then (.Success, (), moved) else (.NoProgress, (), x)
  testGradient := fun _ _ => .Success

theorem minimizeLoop_axisSolver (functor : BfgsFunctor ℝ) (gradient_tol : ℝ) (left : ℕ) (s : Unit)
    (x : Fin 6 → ℝ) : minimizeLoop axisSolver functor gradient_tol left s x =
      if functor.f (x + Pi.single 0 1) < functor.f x then (.Success, 1, x + Pi.single 0 1)
      else (.NoProgress, 1, x) := by
  rw [minimizeLoop]
  by_cases h : functor.f (x + Pi.single 0 1) < functor.f x
  · simp [axisSolver, h]
  · simp [axisSolver, h]

theorem estimate_alongAxis (functor : BfgsFunctor ℝ) {pairs : ℕ} (hpairs : 4 ≤ pairs)
    (max_inner_iterations_ : ℤ) (t : ℝ) :
    estimateRigidTransformationBFGS realMath realArc axisSolver functor pairs
        max_inner_iterations_ (alongAxis t) =
      some (alongAxis
        (if functor.f (Pi.single 0 (t + 1)) < functor.f (Pi.single 0 t) then t + 1 else t)) := by
  have hmoved : (Pi.single 0 t + Pi.single 0 1 : Fin 6 → ℝ) = Pi.single 0 (t + 1) :=
    (Pi.single_add ..).symm
  rw [estimateRigidTransformationBFGS, if_neg hpairs.not_gt]
  simp only [stateOf_alongAxis, minimizeLoop_axisSolver, hmoved]
  by_cases h : functor.f (Pi.single 0 (t + 1)) < functor.f (Pi.single 0 t)
  · simp [h, applyState_alongAxis]
  · simp [h, applyState_alongAxis]

end Axis

end RoboRacer.Pclomp
