/-
  Driver/LidarPubHandler.lean --- the per-LiDAR point decoder and its buffer
  (`comm/pub_handler.h`, class `LidarPubHandler`).

  The decoders reinterpret the payload bytes as the packed structs of the Livox
  SDK.  The SDK header is not part of the repository, so what it provides is
  the class `LivoxSdk`: the struct layouts (as accessors `raw[i]`), the
  enumerators and the size of the packet header.  Coordinates are computed in
  an arbitrary `R` with the arithmetic the source uses; no law of that
  arithmetic is assumed here.
-/
import Mathlib.LinearAlgebra.Matrix.Notation
import Mathlib.Tactic.Tauto
import RoboRacer.Driver.Types

set_option autoImplicit false

namespace RoboRacer.Driver

/-! ## What the SDK and the arithmetic provide -/

/-- A raw Cartesian point, of high (mm) or low (cm) resolution. -/
structure CartesianRawPoint where
  x : Int
  y : Int
  z : Int
  reflectivity : UInt8
  tag : UInt8

/-- A raw spherical point: `depth` in mm, the angles in 0.01 degree. -/
structure SpherRawPoint where
  depth : Nat
  theta : Nat
  phi : Nat
  reflectivity : UInt8
  tag : UInt8

/-- The declarations of the Livox SDK header that the driver uses. -/
class LivoxSdk where
  /-- `((LivoxLidarCartesianHighRawPoint*)raw_data)[i]` -/
  rawHigh : List UInt8 → Nat → CartesianRawPoint
  /-- `((LivoxLidarCartesianLowRawPoint*)raw_data)[i]` -/
  rawLow : List UInt8 → Nat → CartesianRawPoint
  /-- `((LivoxLidarSpherPoint*)raw_data)[i]` -/
  rawSpher : List UInt8 → Nat → SpherRawPoint
  kLivoxLidarImuData : UInt8
  kLivoxLidarCartesianCoordinateHighData : UInt8
  kLivoxLidarCartesianCoordinateLowData : UInt8
  kLivoxLidarSphericalCoordinateData : UInt8
  kLivoxLidarTypeIndustrialHAP : UInt8
  kLivoxLidarTypeMid360 : UInt8
  /-- `sizeof(LivoxLidarEthernetPacket)` -/
  sizeofEthernetPacket : Nat

/-- The functions of `math.h` and the constant `PI`. -/
class Trig (R : Type) where
  sin : R → R
  cos : R → R
  pi : R

/-! ## Packets and extrinsics -/

/-- `RawPacket`: one packet as the observer hands it to the processing thread. -/
structure RawPacket where
  lidarType : LidarProtoType
  handle : UInt32
  extrinsicEnable : Bool
  pointNum : UInt32
  dataType : UInt8
  lineNum : UInt8
  timeStamp : UInt64
  pointInterval : UInt64
  rawData : List UInt8

/-- `ExtParameter`: angles in degrees, translation in mm. -/
structure ExtParameter (R : Type) where
  roll : R
  pitch : R
  yaw : R
  x : Int
  y : Int
  z : Int

/-- `LidarExtParameter`. -/
structure LidarExtParameter (R : Type) where
  lidarType : LidarProtoType
  handle : UInt32
  param : ExtParameter R

/-- `ExtParameterDetailed`. -/
structure ExtParameterDetailed (R : Type) where
  trans : Fin 3 → R
  rotation : Matrix (Fin 3) (Fin 3) R

/-- `LidarPubHandler`. -/
structure LidarPubHandler (R : Type) where
  pointsClouds : List (PointXyzlt R)
  extrinsic : ExtParameterDetailed R
  isSetExtrinsicParams : Bool

/-- The coordinates of one decoded point. -/
structure Coords (R : Type) where
  x : R
  y : R
  z : R

section Decoders

variable {R : Type} [Add R] [Sub R] [Mul R] [Div R] [Neg R] [IntCast R] [Trig R] [LivoxSdk]

/-- The member initialiser of `extrinsic_`, as written in the source. -/
def ExtParameterDetailed.initial : ExtParameterDetailed R where
  trans := ![((0 : Int) : R), ((0 : Int) : R), ((0 : Int) : R)]
  rotation :=
    !![((1 : Int) : R), ((0 : Int) : R), ((0 : Int) : R);
       ((0 : Int) : R), ((1 : Int) : R), ((1 : Int) : R);
       ((0 : Int) : R), ((0 : Int) : R), ((1 : Int) : R)]

/-- A `LidarPubHandler` as constructed. -/
def LidarPubHandler.fresh : LidarPubHandler R :=
  { pointsClouds := [], extrinsic := .initial, isSetExtrinsicParams := false }

/-- Degrees to radians: `angle * PI / 180.0`. -/
def radians (angle : R) : R := angle * Trig.pi / ((180 : Int) : R)

/-- The translation and rotation `SetLidarsExtParam` stores. -/
def ExtParameterDetailed.ofParam (param : ExtParameter R) : ExtParameterDetailed R :=
  let cosRoll := Trig.cos (radians param.roll)
  let cosPitch := Trig.cos (radians param.pitch)
  let cosYaw := Trig.cos (radians param.yaw)
  let sinRoll := Trig.sin (radians param.roll)
  let sinPitch := Trig.sin (radians param.pitch)
  let sinYaw := Trig.sin (radians param.yaw)
  { trans := ![(param.x : R), (param.y : R), (param.z : R)]
    rotation :=
      !![cosPitch * cosYaw,
         sinRoll * sinPitch * cosYaw - cosRoll * sinYaw,
         cosRoll * sinPitch * cosYaw + sinRoll * sinYaw;
         cosPitch * sinYaw,
         sinRoll * sinPitch * sinYaw + cosRoll * cosYaw,
         cosRoll * sinPitch * sinYaw - sinRoll * cosYaw;
         -sinPitch, sinRoll * cosPitch, cosRoll * cosPitch] }

def LidarPubHandler.setLidarsExtParam (handler : LidarPubHandler R)
    (lidarParam : LidarExtParameter R) : LidarPubHandler R :=
  if handler.isSetExtrinsicParams then handler
  else
    { handler with
      extrinsic := .ofParam lidarParam.param
      isSetExtrinsicParams := true }

/-! ## The decoders -/

/-- One row of the extrinsic applied to a point: `x * r0 + y * r1 + z * r2 + t`. -/
def extrinsicRow (ext : ExtParameterDetailed R) (row : Fin 3) (x y z t : R) : R :=
  x * ext.rotation row 0 + y * ext.rotation row 1 + z * ext.rotation row 2 + t

/-- The coordinates of a Cartesian point of `scale` units to the metre.
`extrinsic_enable` means the LiDAR has already applied the extrinsic. -/
def cartesianCoords (scale : Int) (ext : ExtParameterDetailed R) (extrinsicEnable : Bool)
    (raw : CartesianRawPoint) : Coords R :=
  let x : R := (raw.x : R)
  let y : R := (raw.y : R)
  let z : R := (raw.z : R)
  if extrinsicEnable then
    { x := x / (scale : R), y := y / (scale : R), z := z / (scale : R) }
  else
    { x := extrinsicRow ext 0 x y z (ext.trans 0) / (scale : R)
      y := extrinsicRow ext 1 x y z (ext.trans 1) / (scale : R)
      z := extrinsicRow ext 2 x y z (ext.trans 2) / (scale : R) }

/-- The coordinates of a spherical point; the extrinsic is applied in metres. -/
def sphericalCoords (ext : ExtParameterDetailed R) (extrinsicEnable : Bool)
    (raw : SpherRawPoint) : Coords R :=
  let radius : R := ((raw.depth : Int) : R) / ((1000 : Int) : R)
  let theta : R := ((raw.theta : Int) : R) / ((100 : Int) : R) / ((180 : Int) : R) * Trig.pi
  let phi : R := ((raw.phi : Int) : R) / ((100 : Int) : R) / ((180 : Int) : R) * Trig.pi
  let srcX := radius * Trig.sin theta * Trig.cos phi
  let srcY := radius * Trig.sin theta * Trig.sin phi
  let srcZ := radius * Trig.cos theta
  if extrinsicEnable then { x := srcX, y := srcY, z := srcZ }
  else
    { x := extrinsicRow ext 0 srcX srcY srcZ (ext.trans 0 / ((1000 : Int) : R))
      y := extrinsicRow ext 1 srcX srcY srcZ (ext.trans 1 / ((1000 : Int) : R))
      z := extrinsicRow ext 2 srcX srcY srcZ (ext.trans 2 / ((1000 : Int) : R)) }

/-- Point `i` of a packet: what the three decoders have in common. -/
def packetPoint (pkt : RawPacket) (i : Nat) (coords : Coords R) (reflectivity tag : UInt8) :
    PointXyzlt R :=
  { x := coords.x
    y := coords.y
    z := coords.z
    intensity := ((reflectivity.toNat : Int) : R)
    tag := tag
    line := UInt8.ofNat (i % pkt.lineNum.toNat)
    offsetTime := pkt.timeStamp + UInt64.ofNat i * pkt.pointInterval }

/-- The loop of the Cartesian decoders. -/
def processCartesianPoints (scale : Int) (raw : Nat → CartesianRawPoint)
    (ext : ExtParameterDetailed R) (pkt : RawPacket) : List (PointXyzlt R) :=
  (List.range pkt.pointNum.toNat).map fun i =>
    packetPoint pkt i (cartesianCoords scale ext pkt.extrinsicEnable (raw i))
      (raw i).reflectivity (raw i).tag

def processCartesianHighPoint (ext : ExtParameterDetailed R) (pkt : RawPacket) :
    List (PointXyzlt R) :=
  processCartesianPoints 1000 (LivoxSdk.rawHigh pkt.rawData) ext pkt

def processCartesianLowPoint (ext : ExtParameterDetailed R) (pkt : RawPacket) :
    List (PointXyzlt R) :=
  processCartesianPoints 100 (LivoxSdk.rawLow pkt.rawData) ext pkt

def processSphericalPoint (ext : ExtParameterDetailed R) (pkt : RawPacket) :
    List (PointXyzlt R) :=
  (List.range pkt.pointNum.toNat).map fun i =>
    let raw := LivoxSdk.rawSpher pkt.rawData i
    packetPoint pkt i (sphericalCoords ext pkt.extrinsicEnable raw) raw.reflectivity raw.tag

/-- The points a packet decodes to.  A packet of unknown type decodes to none. -/
def decodePoints (ext : ExtParameterDetailed R) (pkt : RawPacket) : List (PointXyzlt R) :=
  if pkt.lidarType = .kLivoxLidarType then
    if pkt.dataType = LivoxSdk.kLivoxLidarCartesianCoordinateHighData then
      processCartesianHighPoint ext pkt
    else if pkt.dataType = LivoxSdk.kLivoxLidarCartesianCoordinateLowData then
      processCartesianLowPoint ext pkt
    else if pkt.dataType = LivoxSdk.kLivoxLidarSphericalCoordinateData then
      processSphericalPoint ext pkt
    else []
  else []

/-- `PointCloudProcess`: the decoded points are appended to the buffer. -/
def LidarPubHandler.pointCloudProcess (handler : LidarPubHandler R) (pkt : RawPacket) :
    LidarPubHandler R :=
  { handler with pointsClouds := handler.pointsClouds ++ decodePoints handler.extrinsic pkt }

/-- The timestamps of a packet's points: `time_stamp + i * point_interval`, and
none for a packet that is not decoded. -/
def RawPacket.pointTimes (pkt : RawPacket) : List UInt64 :=
  if pkt.lidarType = .kLivoxLidarType ∧
      (pkt.dataType = LivoxSdk.kLivoxLidarCartesianCoordinateHighData ∨
        pkt.dataType = LivoxSdk.kLivoxLidarCartesianCoordinateLowData ∨
        pkt.dataType = LivoxSdk.kLivoxLidarSphericalCoordinateData) then
    (List.range pkt.pointNum.toNat).map fun i => pkt.timeStamp + UInt64.ofNat i * pkt.pointInterval
  else []

omit [Sub R] [Neg R] [Trig R] [LivoxSdk] in
theorem offsetTime_processCartesianPoints (scale : Int) (raw : Nat → CartesianRawPoint)
    (ext : ExtParameterDetailed R) (pkt : RawPacket) :
    (processCartesianPoints scale raw ext pkt).map (·.offsetTime) =
      (List.range pkt.pointNum.toNat).map fun i =>
        pkt.timeStamp + UInt64.ofNat i * pkt.pointInterval := by
  simp [processCartesianPoints, packetPoint]

omit [Sub R] [Neg R] in
theorem offsetTime_processSphericalPoint (ext : ExtParameterDetailed R) (pkt : RawPacket) :
    (processSphericalPoint ext pkt).map (·.offsetTime) =
      (List.range pkt.pointNum.toNat).map fun i =>
        pkt.timeStamp + UInt64.ofNat i * pkt.pointInterval := by
  simp [processSphericalPoint, packetPoint]

omit [Sub R] [Neg R] in
/-- Every decoder assigns the same timestamps, whatever the extrinsic. -/
theorem decodePoints_offsetTime (ext : ExtParameterDetailed R) (pkt : RawPacket) :
    (decodePoints ext pkt).map (·.offsetTime) = pkt.pointTimes := by
  unfold decodePoints RawPacket.pointTimes
  by_cases hlidar : pkt.lidarType = .kLivoxLidarType
  · rw [if_pos hlidar]
    by_cases hhigh : pkt.dataType = LivoxSdk.kLivoxLidarCartesianCoordinateHighData
    · rw [if_pos hhigh, if_pos ⟨hlidar, .inl hhigh⟩]
      exact offsetTime_processCartesianPoints _ _ ext pkt
    · rw [if_neg hhigh]
      by_cases hlow : pkt.dataType = LivoxSdk.kLivoxLidarCartesianCoordinateLowData
      · rw [if_pos hlow, if_pos ⟨hlidar, .inr (.inl hlow)⟩]
        exact offsetTime_processCartesianPoints _ _ ext pkt
      · rw [if_neg hlow]
        by_cases hspher : pkt.dataType = LivoxSdk.kLivoxLidarSphericalCoordinateData
        · rw [if_pos hspher, if_pos ⟨hlidar, .inr (.inr hspher)⟩]
          exact offsetTime_processSphericalPoint ext pkt
        · rw [if_neg hspher, if_neg (by tauto)]
          rfl
  · rw [if_neg hlidar, if_neg (by tauto)]
    rfl

end Decoders

/-- A point at the position of a vector. -/
def PointXyzlt.atPosition {R : Type} (point : PointXyzlt R) (v : Fin 3 → R) : PointXyzlt R :=
  { point with x := v 0, y := v 1, z := v 2 }

/-! ## The buffer -/

section Buffer

variable {R : Type}

def LidarPubHandler.getLidarBaseTime (handler : LidarPubHandler R) : UInt64 :=
  match handler.pointsClouds with
  | [] => 0
  | point :: _ => point.offsetTime

def LidarPubHandler.getRecentTimeStamp (handler : LidarPubHandler R) : UInt64 :=
  match handler.pointsClouds.getLast? with
  | none => 0
  | some point => point.offsetTime

theorem LidarPubHandler.getLidarBaseTime_eq (handler : LidarPubHandler R) :
    handler.getLidarBaseTime = (handler.pointsClouds.map (·.offsetTime)).head?.getD 0 := by
  unfold getLidarBaseTime
  cases handler.pointsClouds with
  | nil => rfl
  | cons point rest => rfl

theorem LidarPubHandler.getRecentTimeStamp_eq (handler : LidarPubHandler R) :
    handler.getRecentTimeStamp = (handler.pointsClouds.map (·.offsetTime)).getLast?.getD 0 := by
  unfold getRecentTimeStamp
  rw [List.getLast?_map]
  cases handler.pointsClouds.getLast? with
  | none => rfl
  | some point => rfl

/-- `GetLidarPointClouds`: the buffer is swapped with the caller's vector, which
comes back as the second component. -/
def LidarPubHandler.getLidarPointClouds (handler : LidarPubHandler R)
    (pointsClouds : List (PointXyzlt R)) : LidarPubHandler R × List (PointXyzlt R) :=
  ({ handler with pointsClouds := pointsClouds }, handler.pointsClouds)

end Buffer

end RoboRacer.Driver
