/-
  Pclomp/StepLength.lean --- the line search of the registration
  (`ndt_omp_impl.hpp`: `updateIntervalMT`, `trialValueSelectionMT`,
  `computeStepLengthMT`; `ndt_omp.h`: `auxilaryFunction_PsiMT`,
  `auxilaryFunction_dPsiMT`).

  The search moves the transform vector along a direction.  It starts with the
  length it is given, cut to the bounds, and then it selects trial values from
  interpolations until one is good enough.  The flag that ends the selection is set
  at once when the upper bound is above the lower one.

  Numbers are exact.  A quotient by zero and the root of a negative number, where
  `double` goes on with a value that is not finite, end the model.
-/
import RoboRacer.Pclomp.Derivatives

set_option autoImplicit false

namespace RoboRacer.Pclomp

open Matrix RoboRacer.Foundation

/-! ## Transformations -/

/-- An affine transformation. -/
structure Affine (K : Type) where
  linear : Matrix (Fin 3) (Fin 3) K
  translation : Fin 3 → K
deriving DecidableEq

section Affine

variable {K : Type} [Field K]

def Affine.apply (T : Affine K) (x : Fin 3 → K) : Fin 3 → K :=
  T.linear *ᵥ x + T.translation

/-- `convertTransform`. -/
def convertTransform (m : CMath K) (x : Fin 6 → K) : Affine K where
  linear := rotX (m.sin (x 3)) (m.cos (x 3)) * rotY (m.sin (x 4)) (m.cos (x 4)) *
    rotZ (m.sin (x 5)) (m.cos (x 5))
  translation := ![x 0, x 1, x 2]

theorem convertTransform_apply (m : CMath K) (p : Fin 6 → K) :
    (convertTransform m p).apply = transformPoint m p := by
  funext x
  simp only [Affine.apply, convertTransform, transformPoint, mulVec_mulVec, Matrix.mul_assoc]

end Affine

/-! ## Trial values -/

section MoreThuente

variable {K : Type} [Field K] [LinearOrder K]

/-- The ends of the interval, with a value and a slope for each. -/
structure Interval (K : Type) where
  a_l : K
  f_l : K
  g_l : K
  a_u : K
  f_u : K
  g_u : K

/-- A quotient that is finite. -/
def quotient (a b : K) : Option K :=
  if b = 0 then none else some (a / b)

/-- A square root that is a number. -/
def root (m : CMath K) (x : K) : Option K :=
  if x < 0 then none else some (m.sqrt x)

omit [LinearOrder K] in
/-- `auxilaryFunction_PsiMT`. -/
def auxilaryFunction_PsiMT (a f_a f_0 g_0 mu : K) : K :=
  f_a - f_0 - mu * g_0 * a

omit [LinearOrder K] in
/-- `auxilaryFunction_dPsiMT`. -/
def auxilaryFunction_dPsiMT (g_a g_0 mu : K) : K :=
  g_a - mu * g_0

/-- `updateIntervalMT`: whether the interval has converged, and the interval. -/
def updateIntervalMT (interval : Interval K) (a_t f_t g_t : K) : Bool × Interval K :=
  if interval.f_l < f_t then
    (false, { interval with a_u := a_t, f_u := f_t, g_u := g_t })
  else if 0 < g_t * (interval.a_l - a_t) then
    (false, { interval with a_l := a_t, f_l := f_t, g_l := g_t })
  else if g_t * (interval.a_l - a_t) < 0 then
    (false,
      { a_u := interval.a_l, f_u := interval.f_l, g_u := interval.g_l,
        a_l := a_t, f_l := f_t, g_l := g_t })
  else (true, interval)

/-- The minimizer of the cubic through two values with their slopes. -/
def cubicMinimizer (m : CMath K) (a f g a_t f_t g_t : K) : Option K := do
  let z := (← quotient (((3 : ℕ) : K) * (f_t - f)) (a_t - a)) - g_t - g
  let w ← root m (z * z - g_t * g)
  let part ← quotient ((a_t - a) * (w - g - z)) (g_t - g + ((2 : ℕ) : K) * w)
  return a + part

/-- `trialValueSelectionMT`. -/
def trialValueSelectionMT (m : CMath K) (interval : Interval K) (a_t f_t g_t : K) : Option K :=
  let a_l := interval.a_l
  let f_l := interval.f_l
  let g_l := interval.g_l
  let a_u := interval.a_u
  let half := ((2 : ℕ) : K)⁻¹
  let limit := a_t + ((33 : ℕ) : K) / ((50 : ℕ) : K) * (a_u - a_t)
  if f_l < f_t then do
    let a_c ← cubicMinimizer m a_l f_l g_l a_t f_t g_t
    let slope ← quotient (f_l - f_t) (a_l - a_t)
    let part ← quotient (half * (a_l - a_t) * g_l) (g_l - slope)
    let a_q := a_l - part
    return if |a_c - a_l| < |a_q - a_l| then a_c else half * (a_q + a_c)
  else if g_t * g_l < 0 then do
    let a_c ← cubicMinimizer m a_l f_l g_l a_t f_t g_t
    let part ← quotient (a_l - a_t) (g_l - g_t)
    let a_s := a_l - part * g_l
    return if |a_s - a_t| ≤ |a_c - a_t| then a_c else a_s
  else if |g_t| ≤ |g_l| then do
    let a_c ← cubicMinimizer m a_l f_l g_l a_t f_t g_t
    let part ← quotient (a_l - a_t) (g_l - g_t)
    let a_s := a_l - part * g_l
    let a_t_next := if |a_c - a_t| < |a_s - a_t| then a_c else a_s
    return if a_l < a_t then min limit a_t_next else max limit a_t_next
  else
    cubicMinimizer m a_u interval.f_u interval.g_u a_t f_t g_t

end MoreThuente

/-! ## The search -/

/-- What the registration evaluates for a transformed cloud and its transform vector:
`computeDerivatives`, whose flag only matters for the Hessian, and `computeHessian`. -/
structure Evaluator (K : Type) where
  computeDerivatives : List (Fin 3 → K) → (Fin 6 → K) → Bool → Sums K
  computeHessian : List (Fin 3 → K) → (Fin 6 → K) → Matrix (Fin 6) (Fin 6) K
  flag : ∀ trans_cloud p compute_hessian,
    (computeDerivatives trans_cloud p compute_hessian).1 =
        (computeDerivatives trans_cloud p true).1 ∧
      (computeDerivatives trans_cloud p compute_hessian).2.1 =
        (computeDerivatives trans_cloud p true).2.1

/-- What the search leaves behind: `score`, `score_gradient` and `hessian`,
`final_transformation_` and the transformed cloud. -/
structure Iterate (K : Type) where
  sums : Sums K
  final_transformation_ : Affine K
  trans_cloud : List (Fin 3 → K)

/-- The variables of the loop. -/
structure LineSearch (K : Type) where
  iterate : Iterate K
  interval : Interval K
  open_interval : Bool
  interval_converged : Bool
  step_iterations : ℕ
  a_t : K
  x_t : Fin 6 → K
  phi_t : K
  d_phi_t : K
  psi_t : K
  d_psi_t : K

section Search

variable {K : Type} [Field K] [LinearOrder K] (m : CMath K) (evaluator : Evaluator K)
  (input : List (Fin 3 → K))

/-- What is fixed during a search: the start, the direction, the bounds and the start's value
and slope. -/
structure SearchLine (K : Type) where
  x : Fin 6 → K
  step_dir : Fin 6 → K
  step_max : K
  step_min : K
  phi_0 : K
  d_phi_0 : K

/-- The constant of the sufficient decrease. -/
def mu : K :=
  ((10000 : ℕ) : K)⁻¹

/-- The constant of the curvature condition. -/
def nu : K :=
  ((9 : ℕ) : K) / ((10 : ℕ) : K)

/-- A step length within the bounds. -/
def SearchLine.clamp (line : SearchLine K) (a_t : K) : K :=
  max (min a_t line.step_max) line.step_min

/-- The evaluation at a step length, as in the loop and before it. -/
def SearchLine.evaluate (line : SearchLine K) (s : LineSearch K) (a_t : K)
    (compute_hessian : Bool) : LineSearch K :=
  let a_t := line.clamp a_t
  let x_t := line.x + a_t • line.step_dir
  let final_transformation_ := convertTransform m x_t
  let trans_cloud := input.map final_transformation_.apply
  let sums := evaluator.computeDerivatives trans_cloud x_t compute_hessian
  let phi_t := -sums.1
  let d_phi_t := -(sums.2.1 ⬝ᵥ line.step_dir)
  { s with
    iterate := ⟨sums, final_transformation_, trans_cloud⟩
    a_t := a_t
    x_t := x_t
    phi_t := phi_t
    d_phi_t := d_phi_t
    psi_t := auxilaryFunction_PsiMT a_t phi_t line.phi_0 line.d_phi_0 mu
    d_psi_t := auxilaryFunction_dPsiMT d_phi_t line.d_phi_0 mu }

/-- The next trial value: the auxiliary function is used until the interval is closed. -/
def LineSearch.trial (s : LineSearch K) : Option K :=
  if s.open_interval then trialValueSelectionMT m s.interval s.a_t s.psi_t s.d_psi_t
  else trialValueSelectionMT m s.interval s.a_t s.phi_t s.d_phi_t

/-- The check whether the interval is closed now. -/
def SearchLine.checkInterval (line : SearchLine K) (s : LineSearch K) : LineSearch K :=
  if s.open_interval && decide (s.psi_t ≤ 0 ∧ 0 ≤ s.d_psi_t) then
    { s with
      open_interval := false
      interval :=
        { s.interval with
          f_l := s.interval.f_l + line.phi_0 - mu * line.d_phi_0 * s.interval.a_l
          g_l := s.interval.g_l + mu * line.d_phi_0
          f_u := s.interval.f_u + line.phi_0 - mu * line.d_phi_0 * s.interval.a_u
          g_u := s.interval.g_u + mu * line.d_phi_0 } }
  else s

/-- The update of the interval at the end of an iteration. -/
def LineSearch.update (s : LineSearch K) : LineSearch K :=
  let updated :=
    if s.open_interval then updateIntervalMT s.interval s.a_t s.psi_t s.d_psi_t
    else updateIntervalMT s.interval s.a_t s.phi_t s.d_phi_t
  { s with
    interval := updated.2
    interval_converged := updated.1
    step_iterations := s.step_iterations + 1 }

/-- The body of the loop. -/
def SearchLine.step (line : SearchLine K) (s : LineSearch K) : Option (LineSearch K) :=
  (s.trial m).map fun a_t =>
    (line.checkInterval (line.evaluate m evaluator input s a_t false)).update

/-- The loop, for as many iterations as are left. -/
def SearchLine.loop (line : SearchLine K) : ℕ → LineSearch K → Option (LineSearch K)
  | 0, s => some s
  | n + 1, s =>
    if !s.interval_converged && !decide (s.psi_t ≤ 0 ∧ s.d_phi_t ≤ -nu * line.d_phi_0) then
      (line.step m evaluator input s).bind (line.loop n)
    else some s

/-- The state before the loop. -/
def SearchLine.start (line : SearchLine K) (iterate : Iterate K) (step_init : K) :
    LineSearch K :=
  let f_0 := auxilaryFunction_PsiMT 0 line.phi_0 line.phi_0 line.d_phi_0 mu
  let g_0 := auxilaryFunction_dPsiMT line.d_phi_0 line.d_phi_0 mu
  let s : LineSearch K :=
    { iterate := iterate
      interval := { a_l := 0, f_l := f_0, g_l := g_0, a_u := 0, f_u := f_0, g_u := g_0 }
      open_interval := true
      interval_converged := decide (0 < line.step_max - line.step_min)
      step_iterations := 0
      a_t := step_init
      x_t := 0
      phi_t := 0
      d_phi_t := 0
      psi_t := 0
      d_psi_t := 0 }
  line.evaluate m evaluator input s step_init true

/-- `computeStepLengthMT`: the step length, the direction and what is left behind. -/
def computeStepLengthMT (x step_dir : Fin 6 → K) (step_init step_max step_min : K)
    (iterate : Iterate K) : Option (K × (Fin 6 → K) × Iterate K) :=
  let d_phi_0 := -(iterate.sums.2.1 ⬝ᵥ step_dir)
  if d_phi_0 = 0 then some (0, step_dir, iterate)
  else
    let line : SearchLine K :=
      { x := x
        step_dir := if 0 < d_phi_0 then -step_dir else step_dir
        step_max := step_max
        step_min := step_min
        phi_0 := -iterate.sums.1
        d_phi_0 := if 0 < d_phi_0 then -d_phi_0 else d_phi_0 }
    (line.loop m evaluator input 10 (line.start m evaluator input iterate step_init)).map
      fun s =>
        (s.a_t, line.step_dir,
          if s.step_iterations = 0 then s.iterate
          else
            { s.iterate with
              sums := (s.iterate.sums.1, s.iterate.sums.2.1,
                evaluator.computeHessian s.iterate.trans_cloud s.x_t) })

/-! ## What a search leaves behind -/

/-- The iterate is the one of a transform vector: cloud, transformation, score and gradient are
those at the vector, and the Hessian is one of the two. -/
structure Iterate.At (iterate : Iterate K) (p : Fin 6 → K) : Prop where
  transformation : iterate.final_transformation_ = convertTransform m p
  cloud : iterate.trans_cloud = transformPointCloud m input p
  score : iterate.sums.1 =
    (evaluator.computeDerivatives (transformPointCloud m input p) p true).1
  gradient : iterate.sums.2.1 =
    (evaluator.computeDerivatives (transformPointCloud m input p) p true).2.1
  hessian : iterate.sums.2.2 =
      (evaluator.computeDerivatives (transformPointCloud m input p) p true).2.2 ∨
    iterate.sums.2.2 = evaluator.computeHessian (transformPointCloud m input p) p

/-- The invariant of the loop: the variables belong to the last step length, which is within
the bounds. -/
structure SearchLine.Inv (line : SearchLine K) (s : LineSearch K) : Prop where
  within : ∃ a, s.a_t = line.clamp a
  vector : s.x_t = line.x + s.a_t • line.step_dir
  transformation : s.iterate.final_transformation_ = convertTransform m s.x_t
  cloud : s.iterate.trans_cloud = transformPointCloud m input s.x_t
  sums : ∃ compute_hessian,
    s.iterate.sums = evaluator.computeDerivatives s.iterate.trans_cloud s.x_t compute_hessian ∧
      (s.step_iterations = 0 → compute_hessian = true)

variable {m evaluator input}

/-- The variables after an evaluation, whatever happens to the interval. -/
theorem SearchLine.inv_of_evaluate {line : SearchLine K} {s s' : LineSearch K} {a_t : K}
    {compute_hessian : Bool}
    (hiterate : s'.iterate = (line.evaluate m evaluator input s a_t compute_hessian).iterate)
    (ha : s'.a_t = line.clamp a_t) (hx : s'.x_t = line.x + line.clamp a_t • line.step_dir)
    (hflag : s'.step_iterations = 0 → compute_hessian = true) :
    line.Inv m evaluator input s' where
  within := ⟨a_t, ha⟩
  vector := by rw [hx, ha]
  transformation := by rw [hiterate, hx]; rfl
  cloud := by
    rw [hiterate, hx]
    simp only [evaluate, transformPointCloud, convertTransform_apply]
  sums := ⟨compute_hessian, by rw [hiterate, hx]; rfl, hflag⟩

/-- What an iteration does to the variables of the invariant. -/
theorem SearchLine.step_cases {line : SearchLine K} {s s' : LineSearch K}
    (h : line.step m evaluator input s = some s') :
    ∃ a_t, s'.iterate = (line.evaluate m evaluator input s a_t false).iterate ∧
      s'.a_t = line.clamp a_t ∧ s'.x_t = line.x + line.clamp a_t • line.step_dir ∧
      s'.step_iterations = s.step_iterations + 1 := by
  obtain ⟨a_t, -, rfl⟩ := Option.map_eq_some_iff.mp h
  refine ⟨a_t, ?_⟩
  rw [LineSearch.update, checkInterval]
  split_ifs <;> exact ⟨rfl, rfl, rfl, rfl⟩

theorem SearchLine.step_inv {line : SearchLine K} {s s' : LineSearch K}
    (h : line.step m evaluator input s = some s') : line.Inv m evaluator input s' := by
  obtain ⟨a_t, hiterate, ha, hx, hcount⟩ := step_cases h
  exact inv_of_evaluate hiterate ha hx fun hzero => by omega

/-- The invariant holds after the loop. -/
theorem SearchLine.loop_inv {line : SearchLine K} {n : ℕ} {s s' : LineSearch K}
    (h : line.loop m evaluator input n s = some s') (hs : line.Inv m evaluator input s) :
    line.Inv m evaluator input s' := by
  induction n generalizing s with
  | zero =>
    obtain rfl := Option.some.inj h
    exact hs
  | succ n ih =>
    rw [loop] at h
    split_ifs at h with hgo
    · obtain ⟨next, hstep, hrest⟩ := Option.bind_eq_some_iff.mp h
      exact ih hrest (step_inv hstep)
    · obtain rfl := Option.some.inj h
      exact hs

theorem SearchLine.start_inv (line : SearchLine K) (iterate : Iterate K) (step_init : K) :
    line.Inv m evaluator input (line.start m evaluator input iterate step_init) :=
  inv_of_evaluate rfl rfl rfl fun _ => rfl

/-- With the bounds in order no trial value is selected. -/
theorem SearchLine.loop_start [IsStrictOrderedRing K] {line : SearchLine K}
    (hbounds : line.step_min < line.step_max) (iterate : Iterate K) (step_init : K) (n : ℕ) :
    line.loop m evaluator input n (line.start m evaluator input iterate step_init) =
      some (line.start m evaluator input iterate step_init) := by
  have hconverged : (line.start m evaluator input iterate step_init).interval_converged = true :=
    decide_eq_true (sub_pos.mpr hbounds)
  cases n with
  | zero => rfl
  | succ n => rw [loop, hconverged, Bool.not_true, Bool.false_and, if_neg Bool.false_ne_true]

/-- The result of the search at its vector. -/
theorem SearchLine.Inv.at {line : SearchLine K} {s : LineSearch K}
    (h : line.Inv m evaluator input s) :
    (if s.step_iterations = 0 then s.iterate
      else
        { s.iterate with
          sums := (s.iterate.sums.1, s.iterate.sums.2.1,
            evaluator.computeHessian s.iterate.trans_cloud s.x_t) }).At
      m evaluator input (line.x + s.a_t • line.step_dir) := by
  obtain ⟨compute_hessian, hsums, hflag⟩ := h.sums
  have hcloud := h.cloud
  rw [← h.vector]
  obtain ⟨hscore, hgradient⟩ := evaluator.flag s.iterate.trans_cloud s.x_t compute_hessian
  rw [← hsums, hcloud] at hscore hgradient
  by_cases hzero : s.step_iterations = 0
  · rw [if_pos hzero]
    rw [hflag hzero, hcloud] at hsums
    exact ⟨h.transformation, hcloud, hscore, hgradient, .inl (by rw [hsums])⟩
  · rw [if_neg hzero]
    exact ⟨h.transformation, hcloud, hscore, hgradient, .inr (by rw [hcloud])⟩

variable [IsStrictOrderedRing K] {x step_dir : Fin 6 → K} {step_init step_max step_min : K}
  {iterate : Iterate K}

/-- What a search returns: it stays where it is, or it moves along the direction in which the
score grows, by a length within the bounds, and leaves the values of the place it moves to. -/
theorem computeStepLengthMT_spec {result : K × (Fin 6 → K) × Iterate K}
    (h : computeStepLengthMT m evaluator input x step_dir step_init step_max step_min iterate =
      some result) :
    (iterate.sums.2.1 ⬝ᵥ step_dir = 0 ∧ result = (0, step_dir, iterate)) ∨
      (result.2.1 = step_dir ∨ result.2.1 = -step_dir) ∧
        0 < iterate.sums.2.1 ⬝ᵥ result.2.1 ∧
        (∃ a, result.1 = max (min a step_max) step_min) ∧
        result.2.2.At m evaluator input (x + result.1 • result.2.1) := by
  rw [computeStepLengthMT] at h
  by_cases hzero : -(iterate.sums.2.1 ⬝ᵥ step_dir) = 0
  · rw [if_pos hzero] at h
    exact .inl ⟨neg_eq_zero.mp hzero, (Option.some.inj h).symm⟩
  · rw [if_neg hzero, Option.map_eq_some_iff] at h
    obtain ⟨s, hloop, rfl⟩ := h
    have hinv := SearchLine.loop_inv hloop (SearchLine.start_inv _ _ _)
    refine .inr ⟨?_, ?_, hinv.within, hinv.at⟩
    · by_cases hdown : 0 < -(iterate.sums.2.1 ⬝ᵥ step_dir)
      · exact .inr (if_pos hdown)
      · exact .inl (if_neg hdown)
    · by_cases hdown : 0 < -(iterate.sums.2.1 ⬝ᵥ step_dir)
      · simp only [if_pos hdown, dotProduct_neg]
        exact hdown
      · simp only [if_neg hdown]
        exact lt_of_le_of_ne (by linarith) fun hcontra => hzero (by rw [← hcontra, neg_zero])

variable (m evaluator input x step_init)

omit [IsStrictOrderedRing K] in
/-- Across the gradient the search stays where it is. -/
theorem computeStepLengthMT_of_eq_zero (hslope : iterate.sums.2.1 ⬝ᵥ step_dir = 0) :
    computeStepLengthMT m evaluator input x step_dir step_init step_max step_min iterate =
      some (0, step_dir, iterate) := by
  rw [computeStepLengthMT, hslope, neg_zero, if_pos rfl]

/-- With the bounds in order the search always returns, and the length is the given one, cut
to the bounds. -/
theorem computeStepLengthMT_of_lt (hbounds : step_min < step_max)
    (hslope : iterate.sums.2.1 ⬝ᵥ step_dir ≠ 0) :
    ∃ result, computeStepLengthMT m evaluator input x step_dir step_init step_max step_min
        iterate = some result ∧
      result.1 = max (min step_init step_max) step_min ∧
      result.2.2.sums = evaluator.computeDerivatives result.2.2.trans_cloud
        (x + result.1 • result.2.1) true := by
  rw [computeStepLengthMT, if_neg (neg_ne_zero.mpr hslope)]
  dsimp only
  rw [SearchLine.loop_start hbounds]
  exact ⟨_, rfl, rfl, rfl⟩

end Search

end RoboRacer.Pclomp
