/-
  Pclomp/AngleDerivatives.lean --- derivatives of the transformed point
  (`ndt_omp_impl.hpp`: `computeAngleDerivatives`, `computePointDerivatives`;
  `ndt_omp.h`: `convertTransform`).

  The transform vector has a translation and three angles.  `computeAngleDerivatives`
  fills two sets of tables with products of sines and cosines, vectors of `double`
  and matrices of `float`; `computePointDerivatives` multiplies a point into one of
  them.  The first set holds the derivatives of the transformed point exactly.  The
  second one has another sign in one entry (`d1`).

      | `point_gradient_`, column `i`       | derivative by entry `i`            |
      | `point_hessian_`, block `(i, j)`    | second derivative by `i` and `j`   |

  Numbers are exact; the zero that pads the `float` tables to four coordinates is
  left out.
-/
import RoboRacer.Foundation.EulerAngles
import RoboRacer.Pclomp.VoxelGrid

set_option autoImplicit false

namespace RoboRacer.Pclomp

open Matrix RoboRacer.Foundation

scoped instance neZeroSix : NeZero 6 :=
  ⟨by decide⟩

scoped instance neZeroEight : NeZero 8 :=
  ⟨by decide⟩

scoped instance neZeroFifteen : NeZero 15 :=
  ⟨by decide⟩

/-- The functions of the C library. -/
structure CMath (K : Type) where
  cos : K → K
  sin : K → K
  exp : K → K
  log : K → K
  sqrt : K → K

/-- The members that `computeAngleDerivatives` sets. -/
structure AngleTables (K : Type) where
  j_ang_a_ : Fin 3 → K
  j_ang_b_ : Fin 3 → K
  j_ang_c_ : Fin 3 → K
  j_ang_d_ : Fin 3 → K
  j_ang_e_ : Fin 3 → K
  j_ang_f_ : Fin 3 → K
  j_ang_g_ : Fin 3 → K
  j_ang_h_ : Fin 3 → K
  h_ang_a2_ : Fin 3 → K
  h_ang_a3_ : Fin 3 → K
  h_ang_b2_ : Fin 3 → K
  h_ang_b3_ : Fin 3 → K
  h_ang_c2_ : Fin 3 → K
  h_ang_c3_ : Fin 3 → K
  h_ang_d1_ : Fin 3 → K
  h_ang_d2_ : Fin 3 → K
  h_ang_d3_ : Fin 3 → K
  h_ang_e1_ : Fin 3 → K
  h_ang_e2_ : Fin 3 → K
  h_ang_e3_ : Fin 3 → K
  h_ang_f1_ : Fin 3 → K
  h_ang_f2_ : Fin 3 → K
  h_ang_f3_ : Fin 3 → K
  j_ang : Fin 8 → Fin 3 → K
  h_ang : Fin 15 → Fin 3 → K

section Tables

variable {K : Type} [Field K] [LinearOrder K]

/-- An angle below `10e-5` counts as zero. -/
def nearZero (angle : K) : Bool :=
  |angle| < ((10000 : ℕ) : K)⁻¹

def cosine (m : CMath K) (angle : K) : K :=
  if nearZero angle then 1 else m.cos angle

def sine (m : CMath K) (angle : K) : K :=
  if nearZero angle then 0 else m.sin angle

/-- The sines and cosines of `computeAngleDerivatives`. -/
def sinCos (m : CMath K) (p : Fin 6 → K) : SinCos K where
  sx := sine m (p 3)
  cx := cosine m (p 3)
  sy := sine m (p 4)
  cy := cosine m (p 4)
  sz := sine m (p 5)
  cz := cosine m (p 5)

omit [LinearOrder K] in
/-- The tables from the sines and cosines. -/
def angleTables (a : SinCos K) : AngleTables K :=
  let sx := a.sx
  let cx := a.cx
  let sy := a.sy
  let cy := a.cy
  let sz := a.sz
  let cz := a.cz
  { j_ang_a_ := ![-sx * sz + cx * sy * cz, -sx * cz - cx * sy * sz, -cx * cy]
    j_ang_b_ := ![cx * sz + sx * sy * cz, cx * cz - sx * sy * sz, -sx * cy]
    j_ang_c_ := ![-sy * cz, sy * sz, cy]
    j_ang_d_ := ![sx * cy * cz, -sx * cy * sz, sx * sy]
    j_ang_e_ := ![-cx * cy * cz, cx * cy * sz, -cx * sy]
    j_ang_f_ := ![-cy * sz, -cy * cz, 0]
    j_ang_g_ := ![cx * cz - sx * sy * sz, -cx * sz - sx * sy * cz, 0]
    j_ang_h_ := ![sx * cz + cx * sy * sz, cx * sy * cz - sx * sz, 0]
    h_ang_a2_ := ![-cx * sz - sx * sy * cz, -cx * cz + sx * sy * sz, sx * cy]
    h_ang_a3_ := ![-sx * sz + cx * sy * cz, -cx * sy * sz - sx * cz, -cx * cy]
    h_ang_b2_ := ![cx * cy * cz, -cx * cy * sz, cx * sy]
    h_ang_b3_ := ![sx * cy * cz, -sx * cy * sz, sx * sy]
    h_ang_c2_ := ![-sx * cz - cx * sy * sz, sx * sz - cx * sy * cz, 0]
    h_ang_c3_ := ![cx * cz - sx * sy * sz, -sx * sy * cz - cx * sz, 0]
    h_ang_d1_ := ![-cy * cz, cy * sz, -sy]
    h_ang_d2_ := ![-sx * sy * cz, sx * sy * sz, sx * cy]
    h_ang_d3_ := ![cx * sy * cz, -cx * sy * sz, -cx * cy]
    h_ang_e1_ := ![sy * sz, sy * cz, 0]
    h_ang_e2_ := ![-sx * cy * sz, -sx * cy * cz, 0]
    h_ang_e3_ := ![cx * cy * sz, cx * cy * cz, 0]
    h_ang_f1_ := ![-cy * cz, cy * sz, 0]
    h_ang_f2_ := ![-cx * sz - sx * sy * cz, -cx * cz + sx * sy * sz, 0]
    h_ang_f3_ := ![-sx * sz + cx * sy * cz, -cx * sy * sz - sx * cz, 0]
    j_ang := ![
      ![-sx * sz + cx * sy * cz, -sx * cz - cx * sy * sz, -cx * cy],
      ![cx * sz + sx * sy * cz, cx * cz - sx * sy * sz, -sx * cy],
      ![-sy * cz, sy * sz, cy],
      ![sx * cy * cz, -sx * cy * sz, sx * sy],
      ![-cx * cy * cz, cx * cy * sz, -cx * sy],
      ![-cy * sz, -cy * cz, 0],
      ![cx * cz - sx * sy * sz, -cx * sz - sx * sy * cz, 0],
      ![sx * cz + cx * sy * sz, cx * sy * cz - sx * sz, 0]]
    h_ang := ![
      ![-cx * sz - sx * sy * cz, -cx * cz + sx * sy * sz, sx * cy],
      ![-sx * sz + cx * sy * cz, -cx * sy * sz - sx * cz, -cx * cy],
      ![cx * cy * cz, -cx * cy * sz, cx * sy],
      ![sx * cy * cz, -sx * cy * sz, sx * sy],
      ![-sx * cz - cx * sy * sz, sx * sz - cx * sy * cz, 0],
      ![cx * cz - sx * sy * sz, -sx * sy * cz - cx * sz, 0],
      -- `d1`: the sign of the last entry is not the one of `h_ang_d1_`
      ![-cy * cz, cy * sz, sy],
      ![-sx * sy * cz, sx * sy * sz, sx * cy],
      ![cx * sy * cz, -cx * sy * sz, -cx * cy],
      ![sy * sz, sy * cz, 0],
      ![-sx * cy * sz, -sx * cy * cz, 0],
      ![cx * cy * sz, cx * cy * cz, 0],
      ![-cy * cz, cy * sz, 0],
      ![-cx * sz - sx * sy * cz, -cx * cz + sx * sy * sz, 0],
      ![-sx * sz + cx * sy * cz, -cx * sy * sz - sx * cz, 0]] }

/-- `computeAngleDerivatives`. -/
def computeAngleDerivatives (m : CMath K) (p : Fin 6 → K) : AngleTables K :=
  angleTables (sinCos m p)

/-- The columns of `point_gradient_` and the blocks of `point_hessian_`. -/
structure PointDerivatives (K : Type) where
  point_gradient_ : Fin 6 → Fin 3 → K
  point_hessian_ : Fin 6 → Fin 6 → Fin 3 → K

omit [LinearOrder K] in
/-- The blocks that `computePointDerivatives` assigns to a zero `point_hessian_`. -/
def hessianBlocks (a b c d e f : Fin 3 → K) : Fin 6 → Fin 6 → Fin 3 → K :=
  ![0, 0, 0, ![0, 0, 0, a, b, c], ![0, 0, 0, b, d, e], ![0, 0, 0, c, e, f]]

namespace AngleTables

omit [LinearOrder K]

/-- `computePointDerivatives` of `double`, on an identity block and zeros. -/
def computePointDerivatives (t : AngleTables K) (x : Fin 3 → K) : PointDerivatives K :=
  let a := ![0, x ⬝ᵥ t.h_ang_a2_, x ⬝ᵥ t.h_ang_a3_]
  let b := ![0, x ⬝ᵥ t.h_ang_b2_, x ⬝ᵥ t.h_ang_b3_]
  let c := ![0, x ⬝ᵥ t.h_ang_c2_, x ⬝ᵥ t.h_ang_c3_]
  let d := ![x ⬝ᵥ t.h_ang_d1_, x ⬝ᵥ t.h_ang_d2_, x ⬝ᵥ t.h_ang_d3_]
  let e := ![x ⬝ᵥ t.h_ang_e1_, x ⬝ᵥ t.h_ang_e2_, x ⬝ᵥ t.h_ang_e3_]
  let f := ![x ⬝ᵥ t.h_ang_f1_, x ⬝ᵥ t.h_ang_f2_, x ⬝ᵥ t.h_ang_f3_]
  { point_gradient_ := ![![1, 0, 0], ![0, 1, 0], ![0, 0, 1],
      ![0, x ⬝ᵥ t.j_ang_a_, x ⬝ᵥ t.j_ang_b_],
      ![x ⬝ᵥ t.j_ang_c_, x ⬝ᵥ t.j_ang_d_, x ⬝ᵥ t.j_ang_e_],
      ![x ⬝ᵥ t.j_ang_f_, x ⬝ᵥ t.j_ang_g_, x ⬝ᵥ t.j_ang_h_]]
    point_hessian_ := hessianBlocks a b c d e f }

/-- `computePointDerivatives` of `float`, on an identity block and zeros. -/
def computePointDerivativesF (t : AngleTables K) (x4 : Fin 3 → K) : PointDerivatives K :=
  let x_j_ang := fun row => t.j_ang row ⬝ᵥ x4
  let x_h_ang := fun row => t.h_ang row ⬝ᵥ x4
  let a := ![0, x_h_ang 0, x_h_ang 1]
  let b := ![0, x_h_ang 2, x_h_ang 3]
  let c := ![0, x_h_ang 4, x_h_ang 5]
  let d := ![x_h_ang 6, x_h_ang 7, x_h_ang 8]
  let e := ![x_h_ang 9, x_h_ang 10, x_h_ang 11]
  let f := ![x_h_ang 12, x_h_ang 13, x_h_ang 14]
  { point_gradient_ := ![![1, 0, 0], ![0, 1, 0], ![0, 0, 1],
      ![0, x_j_ang 0, x_j_ang 1],
      ![x_j_ang 2, x_j_ang 3, x_j_ang 4],
      ![x_j_ang 5, x_j_ang 6, x_j_ang 7]]
    point_hessian_ := hessianBlocks a b c d e f }

end AngleTables

omit [LinearOrder K] in
/-- `convertTransform` applied to a point: the turns about the three axes and the
translation. -/
def transformPoint (m : CMath K) (p : Fin 6 → K) (x : Fin 3 → K) : Fin 3 → K :=
  rotX (m.sin (p 3)) (m.cos (p 3)) *ᵥ
      (rotY (m.sin (p 4)) (m.cos (p 4)) *ᵥ (rotZ (m.sin (p 5)) (m.cos (p 5)) *ᵥ x)) +
    ![p 0, p 1, p 2]

end Tables

/-! ## The derivatives as products of turns -/

section Exact

variable {K : Type} [Field K] (a : SinCos K) (x : Fin 3 → K)

/-- The first derivatives. -/
def exactGradient : Fin 6 → Fin 3 → K :=
  ![![1, 0, 0], ![0, 1, 0], ![0, 0, 1], euler a 1 0 0 x, euler a 0 1 0 x, euler a 0 0 1 x]

/-- The second derivatives. -/
def exactHessian : Fin 6 → Fin 6 → Fin 3 → K :=
  hessianBlocks (euler a 2 0 0 x) (euler a 1 1 0 x) (euler a 1 0 1 x) (euler a 0 2 0 x)
    (euler a 0 1 1 x) (euler a 0 0 2 x)

/-- The three first derivatives by the angles, coordinate by coordinate. -/
theorem euler_first (t : AngleTables K) (ht : t = angleTables a) :
    euler a 1 0 0 x = ![0, x ⬝ᵥ t.j_ang_a_, x ⬝ᵥ t.j_ang_b_] ∧
      euler a 0 1 0 x = ![x ⬝ᵥ t.j_ang_c_, x ⬝ᵥ t.j_ang_d_, x ⬝ᵥ t.j_ang_e_] ∧
      euler a 0 0 1 x = ![x ⬝ᵥ t.j_ang_f_, x ⬝ᵥ t.j_ang_g_, x ⬝ᵥ t.j_ang_h_] := by
  subst ht
  refine ⟨?_, ?_, ?_⟩ <;> funext axis <;> fin_cases axis <;>
    simp [euler, threeTurns, Turn.order, Turn.varying, turnX, turnY, turnZ, angleTables, smul_of,
      smul_cons, mulVec, dotProduct, Fin.sum_univ_three] <;> ring

/-- The six second derivatives by the angles. -/
theorem euler_second (t : AngleTables K) (ht : t = angleTables a) :
    (euler a 2 0 0 x = ![0, x ⬝ᵥ t.h_ang_a2_, x ⬝ᵥ t.h_ang_a3_] ∧
      euler a 1 1 0 x = ![0, x ⬝ᵥ t.h_ang_b2_, x ⬝ᵥ t.h_ang_b3_] ∧
      euler a 1 0 1 x = ![0, x ⬝ᵥ t.h_ang_c2_, x ⬝ᵥ t.h_ang_c3_]) ∧
    euler a 0 2 0 x = ![x ⬝ᵥ t.h_ang_d1_, x ⬝ᵥ t.h_ang_d2_, x ⬝ᵥ t.h_ang_d3_] ∧
      euler a 0 1 1 x = ![x ⬝ᵥ t.h_ang_e1_, x ⬝ᵥ t.h_ang_e2_, x ⬝ᵥ t.h_ang_e3_] ∧
      euler a 0 0 2 x = ![x ⬝ᵥ t.h_ang_f1_, x ⬝ᵥ t.h_ang_f2_, x ⬝ᵥ t.h_ang_f3_] := by
  subst ht
  refine ⟨⟨?_, ?_, ?_⟩, ?_, ?_, ?_⟩ <;> funext axis <;> fin_cases axis <;>
    simp [euler, threeTurns, Turn.order, Turn.varying, turnX, turnY, turnZ, angleTables, smul_of,
      smul_cons, mulVec, dotProduct, Fin.sum_univ_three] <;> ring

/-- **The `double` tables** hold the first and second derivatives. -/
theorem computePointDerivatives_eq :
    (angleTables a).computePointDerivatives x = ⟨exactGradient a x, exactHessian a x⟩ := by
  obtain ⟨h100, h010, h001⟩ := euler_first a x _ rfl
  obtain ⟨⟨h200, h110, h101⟩, h020, h011, h002⟩ := euler_second a x _ rfl
  simp only [AngleTables.computePointDerivatives, exactGradient, exactHessian, h100, h010, h001,
    h200, h110, h101, h020, h011, h002]

omit x in
theorem hessianBlocks_add (a b c d e f v : Fin 3 → K) (i j : Fin 6) :
    hessianBlocks a b c (d + v) e f i j =
      hessianBlocks a b c d e f i j + if i = 4 ∧ j = 4 then v else 0 := by
  fin_cases i <;> fin_cases j <;> simp [hessianBlocks]

/-- **The `float` tables** differ from the `double` ones in one coordinate of one block. -/
theorem computePointDerivativesF_eq :
    ((angleTables a).computePointDerivativesF x).point_gradient_ =
        ((angleTables a).computePointDerivatives x).point_gradient_ ∧
      ∀ i j, ((angleTables a).computePointDerivativesF x).point_hessian_ i j =
        ((angleTables a).computePointDerivatives x).point_hessian_ i j +
          if i = 4 ∧ j = 4 then ![2 * a.sy * x 2, 0, 0] else 0 := by
  have hfirst : x ⬝ᵥ (angleTables a).h_ang 6 =
      x ⬝ᵥ (angleTables a).h_ang_d1_ + 2 * a.sy * x 2 := by
    simp [angleTables, dotProduct, Fin.sum_univ_three]
    ring
  have hd : ![x ⬝ᵥ (angleTables a).h_ang 6, x ⬝ᵥ (angleTables a).h_ang_d2_,
        x ⬝ᵥ (angleTables a).h_ang_d3_] =
      ![x ⬝ᵥ (angleTables a).h_ang_d1_, x ⬝ᵥ (angleTables a).h_ang_d2_,
        x ⬝ᵥ (angleTables a).h_ang_d3_] + ![2 * a.sy * x 2, 0, 0] := by
    simp [hfirst]
  simp only [AngleTables.computePointDerivativesF, dotProduct_comm _ x]
  refine ⟨rfl, fun i j => ?_⟩
  rw [AngleTables.computePointDerivatives, ← hessianBlocks_add, ← hd]
  rfl

end Exact

end RoboRacer.Pclomp
