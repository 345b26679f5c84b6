/-
  Driver/RigidExtrinsic.lean --- the extrinsic as a rigid motion
  (`comm/pub_handler.cpp`, `SetLidarsExtParam` and the Cartesian decoders).

  The nine entries that `SetLidarsExtParam` writes are the product of the rotations
  about the three axes, whatever the angles are: only `s ^ 2 + c ^ 2 = 1` is used of a
  sine and a cosine.  A decoder spells out the product of that matrix with the raw
  point, row by row, and so keeps distances up to its scale.
-/
import RoboRacer.Driver.SdkLayout
import RoboRacer.Foundation.Rotation

set_option autoImplicit false

namespace RoboRacer.Driver

open RoboRacer.Foundation

/-! ## Points as vectors -/

/-- A decoded point as a vector. -/
def PointXyzlt.position {R : Type} (point : PointXyzlt R) : Fin 3 → R :=
  ![point.x, point.y, point.z]

/-- A raw Cartesian point as a vector. -/
def CartesianRawPoint.position {R : Type} [IntCast R] (raw : CartesianRawPoint) : Fin 3 → R :=
  ![(raw.x : R), (raw.y : R), (raw.z : R)]

/-- Dividing by an integer other than zero is exact. -/
def ExactDivision (R : Type) [Mul R] [Div R] [IntCast R] : Prop :=
  ∀ (a : R) (n : Int), n ≠ 0 → a / (n : R) * (n : R) = a

/-- `point` is the decoding of `raw` that a rotation, a translation and a division by
`scale` give. -/
def RigidImage {R : Type} [CommRing R] (scale : Int) (M : Matrix (Fin 3) (Fin 3) R)
    (t : Fin 3 → R) (raw : CartesianRawPoint) (point : PointXyzlt R) : Prop :=
  (scale : R) • point.position = M.mulVec raw.position + t

section Ring

variable {R : Type} [CommRing R]

/-- A decoder's row is a row of the product of the matrix with the point. -/
theorem extrinsicRow_eq (ext : ExtParameterDetailed R) (row : Fin 3) (x y z t : R) :
    extrinsicRow ext row x y z t = (ext.rotation.mulVec ![x, y, z]) row + t := by
  simp only [extrinsicRow, Matrix.mulVec, dotProduct, Fin.sum_univ_three, Matrix.cons_val_zero,
    Matrix.cons_val_one, Matrix.cons_val]
  ring

/-- A motion by a rotation scales every distance by the same factor. -/
theorem RigidImage.sqDist_eq {scale : Int} {M : Matrix (Fin 3) (Fin 3) R} {t : Fin 3 → R}
    {raw raw' : CartesianRawPoint} {point point' : PointXyzlt R}
    (hM : M.transpose * M = 1) (h : RigidImage scale M t raw point)
    (h' : RigidImage scale M t raw' point') :
    ((scale ^ 2 : Int) : R) * sqDist point.position point'.position =
      sqDist (R := R) raw.position raw'.position := by
  rw [← sqDist_rigid hM t raw.position raw'.position, ← h, ← h', sqDist_smul]
  push_cast
  rfl

/-! ## The decoders as motions -/

variable [Div R]

theorem ExactDivision.mul_div (hdiv : ExactDivision R) (a : R) {n : Int} (hn : n ≠ 0) :
    (n : R) * (a / (n : R)) = a := by
  rw [mul_comm]
  exact hdiv a n hn

/-- An exact quotient is the only solution of its equation. -/
theorem ExactDivision.eq_div (hdiv : ExactDivision R) {a b : R} {n : Int} (hn : n ≠ 0)
    (h : (n : R) * a = b) : a = b / (n : R) := by
  have hunit : (n : R) * (1 / (n : R)) = 1 := hdiv.mul_div 1 hn
  calc a = (n : R) * (1 / (n : R)) * a := by rw [hunit, one_mul]
    _ = 1 / (n : R) * ((n : R) * a) := by ring
    _ = 1 / (n : R) * ((n : R) * (b / (n : R))) := by rw [h, hdiv.mul_div b hn]
    _ = (n : R) * (1 / (n : R)) * (b / (n : R)) := by ring
    _ = b / (n : R) := by rw [hunit, one_mul]

/-- A Cartesian decoder moves every raw point by one and the same motion: the extrinsic,
or nothing when the LiDAR has applied it already. -/
theorem processCartesianPoints_rigidImage (hdiv : ExactDivision R) {scale : Int}
    (hscale : scale ≠ 0) (raw : Nat → CartesianRawPoint) (ext : ExtParameterDetailed R)
    (pkt : RawPacket) {i : Nat} {point : PointXyzlt R}
    (hi : (processCartesianPoints scale raw ext pkt)[i]? = some point) :
    RigidImage scale (if pkt.extrinsicEnable then 1 else ext.rotation)
      (if pkt.extrinsicEnable then 0 else ext.trans) (raw i) point := by
  obtain ⟨j, hj, rfl⟩ := by
    simpa only [processCartesianPoints, List.getElem?_map, Option.map_eq_some_iff] using hi
  obtain ⟨-, rfl⟩ : i < pkt.pointNum.toNat ∧ i = j := by
    simpa [List.getElem?_range] using List.getElem?_eq_some_iff.mp hj
  ext row
  cases henable : pkt.extrinsicEnable with
  | true =>
    fin_cases row <;>
      simp [packetPoint, cartesianCoords, PointXyzlt.position, CartesianRawPoint.position,
        hdiv.mul_div _ hscale]
  | false =>
    fin_cases row <;>
      simp [packetPoint, cartesianCoords, PointXyzlt.position, CartesianRawPoint.position,
        extrinsicRow_eq, hdiv.mul_div _ hscale]

theorem processCartesianPoints_sqDist (hdiv : ExactDivision R) {scale : Int}
    (hscale : scale ≠ 0) (raw : Nat → CartesianRawPoint) (ext : ExtParameterDetailed R)
    (hrotation : ext.rotation.transpose * ext.rotation = 1) (pkt : RawPacket) {i j : Nat}
    {point point' : PointXyzlt R}
    (hi : (processCartesianPoints scale raw ext pkt)[i]? = some point)
    (hj : (processCartesianPoints scale raw ext pkt)[j]? = some point') :
    sqDist point.position point'.position =
      sqDist (raw i).position (raw j).position / ((scale ^ 2 : Int) : R) := by
  have hM : (if pkt.extrinsicEnable then 1 else ext.rotation).transpose *
      (if pkt.extrinsicEnable then 1 else ext.rotation) = 1 := by
    cases pkt.extrinsicEnable with
    | true => simp
    | false => exact hrotation
  apply hdiv.eq_div (pow_ne_zero 2 hscale)
  exact (processCartesianPoints_rigidImage hdiv hscale raw ext pkt hi).sqDist_eq hM
    (processCartesianPoints_rigidImage hdiv hscale raw ext pkt hj)

/-! ## The stored rotation -/

variable [Trig R]

/-- **The factorisation.**  The rotation is a turn about the first axis by the roll,
about the second by the pitch and about the third by the yaw, in this order. -/
theorem rotation_ofParam (param : ExtParameter R) :
    (ExtParameterDetailed.ofParam param).rotation =
      rotZ (Trig.sin (radians param.yaw)) (Trig.cos (radians param.yaw)) *
        rotY (Trig.sin (radians param.pitch)) (Trig.cos (radians param.pitch)) *
        rotX (Trig.sin (radians param.roll)) (Trig.cos (radians param.roll)) := by
  ext i j
  fin_cases i <;> fin_cases j <;>
    simp [ExtParameterDetailed.ofParam, rotX, rotY, rotZ, Matrix.mul_apply, Fin.sum_univ_three] <;>
    ring

theorem rotation_mem (hcircle : ∀ a : R, Trig.sin a ^ 2 + Trig.cos a ^ 2 = 1)
    (param : ExtParameter R) :
    (ExtParameterDetailed.ofParam param).rotation ∈
      Matrix.specialOrthogonalGroup (Fin 3) R := by
  rw [rotation_ofParam]
  exact mul_mem (mul_mem (rotZ_mem (hcircle _)) (rotY_mem (hcircle _))) (rotX_mem (hcircle _))

variable [LivoxSdk]

/-- **The extrinsic is a rigid motion.**  The first call of `SetLidarsExtParam` leaves the
product of the three turns, a matrix whose transpose is its inverse and whose determinant
is 1; where division is exact, the decoded points of a packet are then as far from each
other as the raw points, up to the unit. -/
theorem extrinsic_rigid (hcircle : ∀ a : R, Trig.sin a ^ 2 + Trig.cos a ^ 2 = 1)
    (handler : LidarPubHandler R) (hset : handler.isSetExtrinsicParams = false)
    (lidarParam : LidarExtParameter R) (ext : ExtParameterDetailed R)
    (hext : ext = (handler.setLidarsExtParam lidarParam).extrinsic) :
    ext.rotation =
        rotZ (Trig.sin (radians lidarParam.param.yaw)) (Trig.cos (radians lidarParam.param.yaw)) *
          rotY (Trig.sin (radians lidarParam.param.pitch))
            (Trig.cos (radians lidarParam.param.pitch)) *
          rotX (Trig.sin (radians lidarParam.param.roll))
            (Trig.cos (radians lidarParam.param.roll)) ∧
      ext.rotation.transpose * ext.rotation = 1 ∧ ext.rotation.det = 1 ∧
      (ExactDivision R → ∀ (pkt : RawPacket) (i j : Nat) (point point' : PointXyzlt R),
        ((processCartesianHighPoint ext pkt)[i]? = some point →
          (processCartesianHighPoint ext pkt)[j]? = some point' →
          sqDist point.position point'.position =
            sqDist (LivoxSdk.rawHigh pkt.rawData i).position
              (LivoxSdk.rawHigh pkt.rawData j).position / ((1000 ^ 2 : Int) : R)) ∧
        ((processCartesianLowPoint ext pkt)[i]? = some point →
          (processCartesianLowPoint ext pkt)[j]? = some point' →
          sqDist point.position point'.position =
            sqDist (LivoxSdk.rawLow pkt.rawData i).position
              (LivoxSdk.rawLow pkt.rawData j).position / ((100 ^ 2 : Int) : R))) := by
  have hparam : ext = .ofParam lidarParam.param := by
    rw [hext, LidarPubHandler.setLidarsExtParam, hset]
    rfl
  have hmem := rotation_mem hcircle lidarParam.param
  rw [← hparam, Matrix.mem_specialOrthogonalGroup_iff, Matrix.mem_orthogonalGroup_iff'] at hmem
  obtain ⟨horthogonal, hdet⟩ := hmem
  refine ⟨?_, horthogonal, hdet,
    fun hdiv pkt i j point point' => ⟨fun hi hj => ?_, fun hi hj => ?_⟩⟩
  · rw [hparam, rotation_ofParam]
  · exact processCartesianPoints_sqDist hdiv (by decide) _ ext horthogonal pkt hi hj
  · exact processCartesianPoints_sqDist hdiv (by decide) _ ext horthogonal pkt hi hj

end Ring

/-! ## A quarter turn -/

/-- A packet of the points (1 m, 0, 0) and (0, 0, 0) in millimetres. -/
def twoPointPacket : RawPacket where
  lidarType := .kLivoxLidarType
  handle := 7
  extrinsicEnable := false
  pointNum := 2
  dataType := 1
  lineNum := 1
  timeStamp := 0
  pointInterval := 0
  rawData :=
    [232, 3, 0, 0, 0, 0, 0, 0, 0, 0, 0, 0, 10, 0,
      0, 0, 0, 0, 0, 0, 0, 0, 0, 0, 0, 0, 20, 0]

/-- A table of sines and cosines that has the angles 0 and `pi / 2`. -/
instance quarterTrig : Trig ℚ where
  sin a := if a = 11 / 7 then 1 else 0
  cos a := if a = 11 / 7 then 0 else 1
  pi := 22 / 7

/-- A LiDAR turned to the left by 90 degrees. -/
def quarterTurn : LidarExtParameter ℚ where
  lidarType := .kLivoxLidarType
  handle := 7
  param := { roll := 0, pitch := 0, yaw := 90, x := 500, y := 0, z := -20 }

theorem extrinsic_rigid_quarter_turn :
    let ext : ExtParameterDetailed ℚ :=
      (LidarPubHandler.fresh.setLidarsExtParam quarterTurn).extrinsic
    ext.rotation.transpose * ext.rotation = 1 ∧ ext.rotation.det = 1 ∧
      ∃ point point' : PointXyzlt ℚ,
        (processCartesianHighPoint ext twoPointPacket)[0]? = some point ∧
          (processCartesianHighPoint ext twoPointPacket)[1]? = some point' ∧
          sqDist point.position point'.position = 1 := by
  intro ext
  have hcircle : ∀ a : ℚ, Trig.sin a ^ 2 + Trig.cos a ^ 2 = 1 := by
    intro a
    unfold Trig.sin Trig.cos quarterTrig
    dsimp only
    split <;> norm_num
  obtain ⟨-, horthogonal, hdet, hdist⟩ := extrinsic_rigid hcircle .fresh rfl quarterTurn ext rfl
  refine ⟨horthogonal, hdet, _, _, rfl, rfl, ?_⟩
  have hexact : ExactDivision ℚ := by
    intro a n hn
    exact div_mul_cancel₀ a (Int.cast_ne_zero.mpr hn)
  rw [(hdist hexact twoPointPacket 0 1 _ _).1 rfl rfl, sqDist_eq]
  have hfirst : LivoxSdk.rawHigh twoPointPacket.rawData 0 =
      { x := 1000, y := 0, z := 0, reflectivity := 10, tag := 0 } := by rfl
  have hsecond : LivoxSdk.rawHigh twoPointPacket.rawData 1 =
      { x := 0, y := 0, z := 0, reflectivity := 20, tag := 0 } := by rfl
  rw [hfirst, hsecond]
  simp only [CartesianRawPoint.position, Matrix.cons_val_zero, Matrix.cons_val_one,
    Matrix.cons_val]
  norm_num

end RoboRacer.Driver
