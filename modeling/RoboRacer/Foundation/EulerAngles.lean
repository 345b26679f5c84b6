/-
  Foundation/EulerAngles.lean --- derivatives of a product of three turns.

  A turn about an axis is a matrix that depends linearly on the sine and the cosine
  of its angle, apart from a constant part.  Its derivatives of every order are
  matrices of the same kind: each one puts the cosine for the sine and the negative
  sine for the cosine.  A product of three turns is differentiated one factor at a
  time.
-/
import Mathlib.Analysis.Calculus.Deriv.Prod
import Mathlib.Analysis.SpecialFunctions.Trigonometric.Deriv
import Mathlib.Topology.Algebra.Module.ModuleTopology
import RoboRacer.Foundation.Rotation

set_option autoImplicit false

namespace RoboRacer.Foundation

open Matrix

/-! ## Turns -/

/-- The coefficients of the sine and of the cosine, and the rest. -/
structure Turn (R : Type) where
  sinPart : Matrix (Fin 3) (Fin 3) R
  cosPart : Matrix (Fin 3) (Fin 3) R
  rest : Matrix (Fin 3) (Fin 3) R

section Turn

variable {R : Type} [CommRing R]

/-- The part of a turn that depends on the angle, differentiated `n` times. -/
def Turn.varying (T : Turn R) : ℕ → R → R → Matrix (Fin 3) (Fin 3) R
  | 0, s, c => s • T.sinPart + c • T.cosPart
  | n + 1, s, c => T.varying n c (-s)

/-- The derivative of order `n` of a turn. -/
def Turn.order (T : Turn R) : ℕ → R → R → Matrix (Fin 3) (Fin 3) R
  | 0, s, c => T.varying 0 s c + T.rest
  | n + 1, s, c => T.varying (n + 1) s c

def turnX : Turn R where
  sinPart := !![0, 0, 0; 0, 0, -1; 0, 1, 0]
  cosPart := !![0, 0, 0; 0, 1, 0; 0, 0, 1]
  rest := !![1, 0, 0; 0, 0, 0; 0, 0, 0]

def turnY : Turn R where
  sinPart := !![0, 0, 1; 0, 0, 0; -1, 0, 0]
  cosPart := !![1, 0, 0; 0, 0, 0; 0, 0, 1]
  rest := !![0, 0, 0; 0, 1, 0; 0, 0, 0]

def turnZ : Turn R where
  sinPart := !![0, -1, 0; 1, 0, 0; 0, 0, 0]
  cosPart := !![1, 0, 0; 0, 1, 0; 0, 0, 0]
  rest := !![0, 0, 0; 0, 0, 0; 0, 0, 1]

theorem turnX_order_zero (s c : R) : turnX.order 0 s c = rotX s c := by
  simp [Turn.order, Turn.varying, turnX, rotX, smul_of, smul_cons]

theorem turnY_order_zero (s c : R) : turnY.order 0 s c = rotY s c := by
  simp [Turn.order, Turn.varying, turnY, rotY, smul_of, smul_cons]

theorem turnZ_order_zero (s c : R) : turnZ.order 0 s c = rotZ s c := by
  simp [Turn.order, Turn.varying, turnZ, rotZ, smul_of, smul_cons]

end Turn

/-! ## One turn -/

section Calculus

theorem hasDerivAt_const_mulVec (M : Matrix (Fin 3) (Fin 3) ℝ) {f : ℝ → Fin 3 → ℝ}
    {f' : Fin 3 → ℝ} {t : ℝ} (hf : HasDerivAt f f' t) :
    HasDerivAt (fun s => M *ᵥ f s) (M *ᵥ f') t := by
  rw [hasDerivAt_pi] at hf ⊢
  intro i
  simp only [mulVec, dotProduct]
  exact HasDerivAt.fun_sum fun j _ => (hf j).const_mul (M i j)

theorem hasDerivAt_smul_mulVec (M : Matrix (Fin 3) (Fin 3) ℝ) (v : Fin 3 → ℝ) {f : ℝ → ℝ}
    {f' t : ℝ} (hf : HasDerivAt f f' t) :
    HasDerivAt (fun s => (f s • M) *ᵥ v) ((f' • M) *ᵥ v) t := by
  simp only [smul_mulVec]
  exact hf.smul_const (M *ᵥ v)

/-- The varying part along any two functions that turn into one another. -/
theorem Turn.hasDerivAt_varying (T : Turn ℝ) (v : Fin 3 → ℝ) (n : ℕ) {f g : ℝ → ℝ} {t : ℝ}
    (hf : HasDerivAt f (g t) t) (hg : HasDerivAt g (-f t) t) :
    HasDerivAt (fun s => T.varying n (f s) (g s) *ᵥ v) (T.varying (n + 1) (f t) (g t) *ᵥ v) t := by
  induction n generalizing f g with
  | zero =>
    simp only [varying, add_mulVec]
    exact (hasDerivAt_smul_mulVec _ v hf).add (hasDerivAt_smul_mulVec _ v hg)
  | succ n ih =>
    have hneg : HasDerivAt (fun s => -f s) (-g t) t := hf.neg
    exact ih hg hneg

/-- **Every derivative of a turn** is the next order. -/
theorem Turn.hasDerivAt_order (T : Turn ℝ) (v : Fin 3 → ℝ) (n : ℕ) (t : ℝ) :
    HasDerivAt (fun s => T.order n (Real.sin s) (Real.cos s) *ᵥ v)
      (T.order (n + 1) (Real.sin t) (Real.cos t) *ᵥ v) t := by
  have hvarying := T.hasDerivAt_varying v n (Real.hasDerivAt_sin t) (Real.hasDerivAt_cos t)
  cases n with
  | zero =>
    simp only [order, add_mulVec]
    exact hvarying.add_const (T.rest *ᵥ v)
  | succ n => exact hvarying

end Calculus

/-! ## Three turns -/

/-- Sines and cosines of three angles. -/
structure SinCos (R : Type) where
  sx : R
  cx : R
  sy : R
  cy : R
  sz : R
  cz : R

/-- A vector after three turns, the last one first, differentiated `i` times by the angle of the
first turn, `j` times by that of the second and `k` times by that of the third. -/
def threeTurns {R : Type} [CommRing R] (T₁ T₂ T₃ : Turn R) (a : SinCos R) (i j k : ℕ)
    (x : Fin 3 → R) : Fin 3 → R :=
  T₁.order i a.sx a.cx *ᵥ (T₂.order j a.sy a.cy *ᵥ (T₃.order k a.sz a.cz *ᵥ x))

/-- A vector turned about the third, the second and the first axis. -/
def euler {R : Type} [CommRing R] (a : SinCos R) (i j k : ℕ) (x : Fin 3 → R) : Fin 3 → R :=
  threeTurns turnX turnY turnZ a i j k x

section Euler

/-- The sines and cosines of three real angles. -/
noncomputable def anglesOf (α β γ : ℝ) : SinCos ℝ :=
  ⟨Real.sin α, Real.cos α, Real.sin β, Real.cos β, Real.sin γ, Real.cos γ⟩

variable (T₁ T₂ T₃ : Turn ℝ) (i j k : ℕ) (x : Fin 3 → ℝ) (α β γ : ℝ)

theorem hasDerivAt_threeTurns_first :
    HasDerivAt (fun s => threeTurns T₁ T₂ T₃ (anglesOf s β γ) i j k x)
      (threeTurns T₁ T₂ T₃ (anglesOf α β γ) (i + 1) j k x) α :=
  T₁.hasDerivAt_order (T₂.order j (Real.sin β) (Real.cos β) *ᵥ
    (T₃.order k (Real.sin γ) (Real.cos γ) *ᵥ x)) i α

theorem hasDerivAt_threeTurns_second :
    HasDerivAt (fun s => threeTurns T₁ T₂ T₃ (anglesOf α s γ) i j k x)
      (threeTurns T₁ T₂ T₃ (anglesOf α β γ) i (j + 1) k x) β :=
  hasDerivAt_const_mulVec (T₁.order i (Real.sin α) (Real.cos α))
    (T₂.hasDerivAt_order (T₃.order k (Real.sin γ) (Real.cos γ) *ᵥ x) j β)

theorem hasDerivAt_threeTurns_third :
    HasDerivAt (fun s => threeTurns T₁ T₂ T₃ (anglesOf α β s) i j k x)
      (threeTurns T₁ T₂ T₃ (anglesOf α β γ) i j (k + 1) x) γ :=
  hasDerivAt_const_mulVec (T₁.order i (Real.sin α) (Real.cos α))
    (hasDerivAt_const_mulVec (T₂.order j (Real.sin β) (Real.cos β))
      (T₃.hasDerivAt_order x k γ))

end Euler

end RoboRacer.Foundation
