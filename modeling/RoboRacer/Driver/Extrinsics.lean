/-
  Driver/Extrinsics.lean --- what the decoders do to a raw point, and the handler
  without an extrinsic (`comm/pub_handler.h`, `comm/pub_handler.cpp`).

  In exact arithmetic the three decoders are one: a raw point in metres is moved by the
  rotation and by the translation over the unit of the packet's type.  A handler that
  never got an extrinsic uses the literal of the header, whose second row is (0, 1, 1):

      decodePoints_eq_map             the three decoders as one
      points_ownFraming               a run and the frames that are cut from it
      pointsClouds_run_zero           the zero extrinsic moves nothing
      no_extrinsic_eq_zero_iff        when the literal moves nothing
-/
import RoboRacer.Driver.RigidExtrinsic
import RoboRacer.Driver.SyncModes

set_option autoImplicit false

namespace RoboRacer.Driver

open RoboRacer.Foundation

/-- Changing the parts of a concatenation leaves it unchanged only where it changes no
part. -/
theorem flatMap_map_eq_flatMap_iff {α β : Type} (f : α → β → β) (g : α → List β)
    (l : List α) :
    (l.flatMap fun a => (g a).map (f a)) = l.flatMap g ↔
      ∀ a ∈ l, ∀ b ∈ g a, f a b = b := by
  induction l with
  | nil => simp
  | cons a l ih =>
    have hhead : (g a).map (f a) = g a ↔ ∀ b ∈ g a, f a b = b := by
      have hid := List.map_inj_left (l := g a) (f := f a) (g := id)
      rwa [List.map_id] at hid
    rw [List.flatMap_cons, List.flatMap_cons, List.forall_mem_cons, ← ih, ← hhead]
    constructor
    · intro h
      exact List.append_inj h (List.length_map (f a))
    · rintro ⟨hpart, hrest⟩
      rw [hpart, hrest]

/-! ## Raw points in metres -/

section Raw

variable {R : Type} [Mul R] [Div R] [IntCast R]

/-- A Cartesian point of `scale` units to the metre, in metres. -/
def CartesianRawPoint.metres (scale : Int) (raw : CartesianRawPoint) : Coords R where
  x := (raw.x : R) / (scale : R)
  y := (raw.y : R) / (scale : R)
  z := (raw.z : R) / (scale : R)

/-- The centidegrees of a spherical point in radians. -/
def centidegrees [Trig R] (angle : Nat) : R :=
  ((angle : Int) : R) / ((100 : Int) : R) / ((180 : Int) : R) * Trig.pi

/-- A spherical point in metres. -/
def SpherRawPoint.metres [Trig R] (raw : SpherRawPoint) : Coords R where
  x := ((raw.depth : Int) : R) / ((1000 : Int) : R) * Trig.sin (centidegrees raw.theta) *
    Trig.cos (centidegrees raw.phi)
  y := ((raw.depth : Int) : R) / ((1000 : Int) : R) * Trig.sin (centidegrees raw.theta) *
    Trig.sin (centidegrees raw.phi)
  z := ((raw.depth : Int) : R) / ((1000 : Int) : R) * Trig.cos (centidegrees raw.theta)

variable [Add R] [Trig R] [LivoxSdk]

/-- The points of a packet as the LiDAR measured them, in metres. -/
def RawPacket.rawPoints (pkt : RawPacket) : List (PointXyzlt R) :=
  if pkt.lidarType = .kLivoxLidarType then
    if pkt.dataType = LivoxSdk.kLivoxLidarCartesianCoordinateHighData then
      (List.range pkt.pointNum.toNat).map fun i =>
        let raw := LivoxSdk.rawHigh pkt.rawData i
        packetPoint pkt i (raw.metres 1000) raw.reflectivity raw.tag
    else if pkt.dataType = LivoxSdk.kLivoxLidarCartesianCoordinateLowData then
      (List.range pkt.pointNum.toNat).map fun i =>
        let raw := LivoxSdk.rawLow pkt.rawData i
        packetPoint pkt i (raw.metres 100) raw.reflectivity raw.tag
    else if pkt.dataType = LivoxSdk.kLivoxLidarSphericalCoordinateData then
      (List.range pkt.pointNum.toNat).map fun i =>
        let raw := LivoxSdk.rawSpher pkt.rawData i
        packetPoint pkt i raw.metres raw.reflectivity raw.tag
    else []
  else []

end Raw

/-- How many units of the stored translation a decoder takes for a metre. -/
def RawPacket.translationUnit [LivoxSdk] (pkt : RawPacket) : Int :=
  if pkt.dataType = LivoxSdk.kLivoxLidarCartesianCoordinateHighData then 1000
  else if pkt.dataType = LivoxSdk.kLivoxLidarCartesianCoordinateLowData then 100
  else 1000

/-- A point turned by `M` and shifted by `t`. -/
def PointXyzlt.moved {R : Type} [CommRing R] (M : Matrix (Fin 3) (Fin 3) R) (t : Fin 3 → R)
    (point : PointXyzlt R) : PointXyzlt R :=
  point.atPosition (M.mulVec point.position + t)

section Field

variable {R : Type} [Field R]

theorem PointXyzlt.position_moved (M : Matrix (Fin 3) (Fin 3) R) (t : Fin 3 → R)
    (point : PointXyzlt R) : (point.moved M t).position = M.mulVec point.position + t := by
  ext row
  fin_cases row <;> rfl

theorem PointXyzlt.moved_eq_moved_iff (M : Matrix (Fin 3) (Fin 3) R) (t t' : Fin 3 → R)
    (point : PointXyzlt R) : point.moved M t = point.moved M t' ↔ t = t' := by
  constructor
  · intro h
    have hposition := congrArg PointXyzlt.position h
    rw [position_moved, position_moved] at hposition
    exact add_left_cancel hposition
  · intro h
    rw [h]

theorem PointXyzlt.moved_one_zero (point : PointXyzlt R) : point.moved 1 0 = point := by
  simp [moved, atPosition, position]

/-- A Cartesian decoder turns the point and shifts it by the translation over its scale. -/
theorem packetPoint_cartesianCoords {scale : Int} (ext : ExtParameterDetailed R)
    (pkt : RawPacket) (i : Nat) (raw : CartesianRawPoint) (reflectivity tag : UInt8) :
    packetPoint pkt i (cartesianCoords scale ext pkt.extrinsicEnable raw) reflectivity tag =
      if pkt.extrinsicEnable then packetPoint pkt i (raw.metres scale) reflectivity tag
      else (packetPoint pkt i (raw.metres scale) reflectivity tag).moved ext.rotation
        fun row => ext.trans row / (scale : R) := by
  cases pkt.extrinsicEnable with
  | true => rfl
  | false =>
    simp only [Bool.false_eq_true, if_false, packetPoint, PointXyzlt.moved,
      PointXyzlt.atPosition, cartesianCoords, PointXyzlt.mk.injEq, and_true]
    refine ⟨?_, ?_, ?_⟩ <;>
    · simp only [Pi.add_apply, extrinsicRow, Matrix.mulVec, dotProduct, Fin.sum_univ_three,
        PointXyzlt.position, CartesianRawPoint.metres, Matrix.cons_val_zero,
        Matrix.cons_val_one, Matrix.cons_val]
      ring

variable [Trig R]

theorem packetPoint_sphericalCoords (ext : ExtParameterDetailed R) (pkt : RawPacket)
    (i : Nat) (raw : SpherRawPoint) (reflectivity tag : UInt8) :
    packetPoint pkt i (sphericalCoords ext pkt.extrinsicEnable raw) reflectivity tag =
      if pkt.extrinsicEnable then packetPoint pkt i raw.metres reflectivity tag
      else (packetPoint pkt i raw.metres reflectivity tag).moved ext.rotation
        fun row => ext.trans row / ((1000 : Int) : R) := by
  cases pkt.extrinsicEnable with
  | true => rfl
  | false =>
    simp only [Bool.false_eq_true, if_false, packetPoint, PointXyzlt.moved,
      PointXyzlt.atPosition, sphericalCoords, PointXyzlt.mk.injEq, and_true]
    refine ⟨?_, ?_, ?_⟩ <;>
    · simp only [Pi.add_apply, extrinsicRow, Matrix.mulVec, dotProduct, Fin.sum_univ_three,
        PointXyzlt.position, SpherRawPoint.metres, centidegrees, Matrix.cons_val_zero,
        Matrix.cons_val_one, Matrix.cons_val]
      ring

variable [LivoxSdk]

/-- What the decoders do to a raw point of `pkt`. -/
def RawPacket.motion (ext : ExtParameterDetailed R) (pkt : RawPacket) (point : PointXyzlt R) :
    PointXyzlt R :=
  if pkt.extrinsicEnable then point
  else point.moved ext.rotation fun row => ext.trans row / (pkt.translationUnit : R)

/-- **The three decoders as one.** -/
theorem decodePoints_eq_map (ext : ExtParameterDetailed R) (pkt : RawPacket) :
    decodePoints ext pkt = pkt.rawPoints.map (pkt.motion ext) := by
  unfold decodePoints RawPacket.rawPoints RawPacket.motion RawPacket.translationUnit
  by_cases hlidar : pkt.lidarType = .kLivoxLidarType
  · rw [if_pos hlidar, if_pos hlidar]
    by_cases hhigh : pkt.dataType = LivoxSdk.kLivoxLidarCartesianCoordinateHighData
    · simp only [if_pos hhigh, processCartesianHighPoint, processCartesianPoints,
        packetPoint_cartesianCoords, List.map_map, Function.comp_def]
    · by_cases hlow : pkt.dataType = LivoxSdk.kLivoxLidarCartesianCoordinateLowData
      · simp only [if_neg hhigh, if_pos hlow, processCartesianLowPoint, processCartesianPoints,
          packetPoint_cartesianCoords, List.map_map, Function.comp_def]
      · by_cases hspher : pkt.dataType = LivoxSdk.kLivoxLidarSphericalCoordinateData
        · simp only [if_neg hhigh, if_neg hlow, if_pos hspher, processSphericalPoint,
            packetPoint_sphericalCoords, List.map_map, Function.comp_def]
        · simp only [if_neg hhigh, if_neg hlow, if_neg hspher, List.map_nil]
  · rw [if_neg hlidar, if_neg hlidar, List.map_nil]

/-! ## One handler over its packets -/

/-- A new handler over the packets of its LiDAR.  `RawDataProcess` looks for the extrinsic
before each of them. -/
def LidarPubHandler.run (lidarParam : Option (LidarExtParameter R)) (pkts : List RawPacket) :
    LidarPubHandler R :=
  pkts.foldl (fun handler pkt => (handler.configured lidarParam).pointCloudProcess pkt) .fresh

/-- The extrinsic that a handler decodes with. -/
def ExtParameterDetailed.inUse (lidarParam : Option (LidarExtParameter R)) :
    ExtParameterDetailed R :=
  match lidarParam with
  | none => .initial
  | some lidarParam => .ofParam lidarParam.param

omit [LivoxSdk] in
theorem LidarPubHandler.extrinsic_configured_fresh (lidarParam : Option (LidarExtParameter R)) :
    (LidarPubHandler.fresh.configured lidarParam).extrinsic = .inUse lidarParam := by
  cases lidarParam with
  | none => rfl
  | some lidarParam => rfl

/-- The first extrinsic stays: looking for it again after a packet changes nothing. -/
theorem LidarPubHandler.extrinsic_configured_again (handler : LidarPubHandler R)
    (lidarParam : Option (LidarExtParameter R)) (pkt : RawPacket) :
    (((handler.configured lidarParam).pointCloudProcess pkt).configured lidarParam).extrinsic =
      (handler.configured lidarParam).extrinsic := by
  cases lidarParam with
  | none => rfl
  | some lidarParam =>
    have hset : (handler.setLidarsExtParam lidarParam).isSetExtrinsicParams = true := by
      unfold setLidarsExtParam
      split
      · assumption
      · rfl
    change (LidarPubHandler.setLidarsExtParam
      ((handler.setLidarsExtParam lidarParam).pointCloudProcess pkt) lidarParam).extrinsic = _
    rw [setLidarsExtParam, pointCloudProcess, if_pos hset]
    rfl

/-- A handler that decodes with the extrinsic of its LiDAR goes on doing so. -/
theorem LidarPubHandler.foldl_pointCloudProcess (lidarParam : Option (LidarExtParameter R))
    (pkts : List RawPacket) :
    ∀ handler : LidarPubHandler R,
      (handler.configured lidarParam).extrinsic = .inUse lidarParam →
      let last := pkts.foldl
        (fun handler pkt => (handler.configured lidarParam).pointCloudProcess pkt) handler
      (last.configured lidarParam).extrinsic = .inUse lidarParam ∧
        last.pointsClouds =
          handler.pointsClouds ++ pkts.flatMap (decodePoints (.inUse lidarParam)) := by
  induction pkts with
  | nil =>
    intro handler hext
    refine ⟨hext, ?_⟩
    rw [List.foldl_nil, List.flatMap_nil, List.append_nil]
  | cons pkt pkts ih =>
    intro handler hext
    have hnext := (extrinsic_configured_again handler lidarParam pkt).trans hext
    obtain ⟨hlast, hpoints⟩ := ih _ hnext
    refine ⟨hlast, ?_⟩
    rw [List.foldl_cons, hpoints, pointCloudProcess, hext, pointsClouds_configured,
      List.flatMap_cons, List.append_assoc]

/-- A handler decodes with the extrinsic in use, after any packets. -/
theorem LidarPubHandler.extrinsic_run (lidarParam : Option (LidarExtParameter R))
    (pkts : List RawPacket) :
    ((LidarPubHandler.run lidarParam pkts).configured lidarParam).extrinsic =
      .inUse lidarParam :=
  (foldl_pointCloudProcess lidarParam pkts .fresh (extrinsic_configured_fresh lidarParam)).1

/-- A run decodes every packet with the extrinsic in use. -/
theorem LidarPubHandler.pointsClouds_run (lidarParam : Option (LidarExtParameter R))
    (pkts : List RawPacket) :
    (LidarPubHandler.run lidarParam pkts).pointsClouds =
      pkts.flatMap fun pkt =>
        pkt.rawPoints.map (pkt.motion (.inUse lidarParam)) := by
  have hdecode : decodePoints (.inUse lidarParam) =
      fun pkt : RawPacket => pkt.rawPoints.map (pkt.motion (.inUse lidarParam)) :=
    funext (decodePoints_eq_map _)
  rw [← hdecode]
  exact (foldl_pointCloudProcess lidarParam pkts .fresh
    (extrinsic_configured_fresh lidarParam)).2

omit [LivoxSdk] in
/-- Looking for the extrinsic does not look at the buffer. -/
theorem LidarPubHandler.configured_withPoints (handler : LidarPubHandler R)
    (lidarParam : Option (LidarExtParameter R)) (points : List (PointXyzlt R)) :
    ({ handler with pointsClouds := points } : LidarPubHandler R).configured lidarParam =
      { handler.configured lidarParam with pointsClouds := points } := by
  cases lidarParam with
  | none => rfl
  | some lidarParam =>
    change ({ handler with pointsClouds := points } : LidarPubHandler R).setLidarsExtParam
      lidarParam = { handler.setLidarsExtParam lidarParam with pointsClouds := points }
    cases hset : handler.isSetExtrinsicParams with
    | true => simp [setLidarsExtParam, hset]
    | false => simp [setLidarsExtParam, hset]

/-- What is handed over and what is still in the buffer. -/
def OwnFraming.points (own : OwnFraming R) : List (PointXyzlt R) :=
  own.entries.flatMap (·.2) ++ own.handler.pointsClouds

/-- A cut moves points out of the buffer and leaves the rest of the handler as it is. -/
theorem ownStep_spec (config : PublishConfig) (lidarParam : Option (LidarExtParameter R))
    {own : OwnFraming R} {handler : LidarPubHandler R}
    (h : { own.handler with pointsClouds := own.points } = handler) (rawData : RawPacket) :
    { (ownStep config lidarParam own rawData).handler with
        pointsClouds := (ownStep config lidarParam own rawData).points } =
      (handler.configured lidarParam).pointCloudProcess rawData := by
  rw [← h, LidarPubHandler.configured_withPoints]
  unfold ownStep
  dsimp only
  split
  · simp [OwnFraming.points, LidarPubHandler.pointCloudProcess,
      LidarPubHandler.pointsClouds_configured]
  · simp [OwnFraming.points, LidarPubHandler.pointCloudProcess,
      LidarPubHandler.pointsClouds_configured]

/-- **The points of a run are the points that are framed.**  Cutting frames neither loses
points nor changes what a later packet decodes to. -/
theorem points_ownFraming (config : PublishConfig) (lidarParam : Option (LidarExtParameter R))
    (pkts : List RawPacket) :
    (ownFraming config lidarParam pkts).points =
      (LidarPubHandler.run lidarParam pkts).pointsClouds := by
  suffices hsame : ∀ (own : OwnFraming R) (handler : LidarPubHandler R),
      { own.handler with pointsClouds := own.points } = handler →
      (pkts.foldl (ownStep config lidarParam) own).points =
        (pkts.foldl (fun handler pkt => (handler.configured lidarParam).pointCloudProcess pkt)
          handler).pointsClouds from
    hsame _ _ rfl
  induction pkts with
  | nil =>
    intro own handler h
    rw [List.foldl_nil, List.foldl_nil, ← h]
  | cons pkt pkts ih =>
    intro own handler h
    rw [List.foldl_cons, List.foldl_cons]
    exact ih _ _ (ownStep_spec config lidarParam h pkt)

/-! ## No extrinsic and the zero extrinsic -/

/-- All angles and all distances 0. -/
def ExtParameter.zero : ExtParameter R where
  roll := 0
  pitch := 0
  yaw := 0
  x := 0
  y := 0
  z := 0

/-- A LiDAR configured with the zero extrinsic. -/
def LidarExtParameter.zero (lidarType : LidarProtoType) (handle : UInt32) :
    LidarExtParameter R where
  lidarType := lidarType
  handle := handle
  param := .zero

omit [LivoxSdk] in
theorem ofParam_zero (hsin : Trig.sin (0 : R) = 0) (hcos : Trig.cos (0 : R) = 1) :
    ExtParameterDetailed.ofParam (.zero : ExtParameter R) = { trans := 0, rotation := 1 } := by
  have hzero : radians (0 : R) = 0 := by simp [radians]
  have htrans : (ExtParameterDetailed.ofParam (.zero : ExtParameter R)).trans = 0 := by
    ext row
    fin_cases row <;> simp [ExtParameterDetailed.ofParam, ExtParameter.zero]
  have hrotation : (ExtParameterDetailed.ofParam (.zero : ExtParameter R)).rotation = 1 := by
    simp only [rotation_ofParam, ExtParameter.zero, hzero, hsin, hcos, rotX_zero_one,
      rotY_zero_one, rotZ_zero_one, mul_one]
  rw [← htrans, ← hrotation]

omit [Trig R] in
/-- The literal of the header adds the third coordinate to the second. -/
theorem motion_initial_eq_iff (pkt : RawPacket) (point : PointXyzlt R) :
    pkt.motion .initial point = point ↔ (pkt.extrinsicEnable = false → point.z = 0) := by
  cases henable : pkt.extrinsicEnable with
  | true => simp [RawPacket.motion, henable]
  | false =>
    have hmoved : pkt.motion .initial point = { point with y := point.y + point.z } := by
      simp [RawPacket.motion, henable, PointXyzlt.moved, PointXyzlt.atPosition,
        ExtParameterDetailed.initial, PointXyzlt.position]
    rw [hmoved]
    constructor
    · intro h _
      have hy : point.y + point.z = point.y := congrArg PointXyzlt.y h
      exact add_eq_left.mp hy
    · intro h
      have hy : point.y + point.z = point.y := by rw [h rfl, add_zero]
      rw [hy]

/-- The zero extrinsic moves nothing. -/
theorem motion_zero (hsin : Trig.sin (0 : R) = 0) (hcos : Trig.cos (0 : R) = 1)
    (pkt : RawPacket) (point : PointXyzlt R) :
    pkt.motion (.ofParam .zero) point = point := by
  have hshift : (fun row : Fin 3 => (0 : Fin 3 → R) row / (pkt.translationUnit : R)) = 0 := by
    funext row
    exact zero_div _
  rw [RawPacket.motion, ofParam_zero hsin hcos]
  simp only [hshift, PointXyzlt.moved_one_zero, ite_self]

/-- **The zero extrinsic is neutral.**  A handler configured with it leaves the raw points
as they are. -/
theorem pointsClouds_run_zero (hsin : Trig.sin (0 : R) = 0) (hcos : Trig.cos (0 : R) = 1)
    (lidarType : LidarProtoType) (handle : UInt32) (pkts : List RawPacket) :
    (LidarPubHandler.run (some (.zero lidarType handle)) pkts).pointsClouds =
      (pkts.flatMap RawPacket.rawPoints : List (PointXyzlt R)) := by
  rw [LidarPubHandler.pointsClouds_run, flatMap_map_eq_flatMap_iff]
  intro pkt _ point _
  exact motion_zero hsin hcos pkt point

/-- When the literal leaves the raw points of a run as they are. -/
theorem pointsClouds_run_none_eq_iff (pkts : List RawPacket) :
    (LidarPubHandler.run none pkts).pointsClouds =
        (pkts.flatMap RawPacket.rawPoints : List (PointXyzlt R)) ↔
      ∀ pkt ∈ pkts, pkt.extrinsicEnable = false →
        ∀ point ∈ (pkt.rawPoints : List (PointXyzlt R)), point.z = 0 := by
  rw [LidarPubHandler.pointsClouds_run, flatMap_map_eq_flatMap_iff]
  constructor
  · intro h pkt hpkt henable point hpoint
    exact (motion_initial_eq_iff pkt point).mp (h pkt hpkt point hpoint) henable
  · intro h pkt hpkt point hpoint
    exact (motion_initial_eq_iff pkt point).mpr fun henable => h pkt hpkt henable point hpoint

/-- **When no extrinsic is the zero extrinsic.**  The two handlers give the same points, the
raw ones, if and only if every point that is still to be moved lies at height 0. -/
theorem no_extrinsic_eq_zero_iff (hsin : Trig.sin (0 : R) = 0) (hcos : Trig.cos (0 : R) = 1)
    (lidarType : LidarProtoType) (handle : UInt32) (pkts : List RawPacket) :
    ((LidarPubHandler.run none pkts).pointsClouds =
          (LidarPubHandler.run (R := R) (some (.zero lidarType handle)) pkts).pointsClouds ∧
        (LidarPubHandler.run none pkts).pointsClouds =
          (pkts.flatMap RawPacket.rawPoints : List (PointXyzlt R)) ∧
        (LidarPubHandler.run (some (.zero lidarType handle)) pkts).pointsClouds =
          (pkts.flatMap RawPacket.rawPoints : List (PointXyzlt R))) ↔
      ∀ pkt ∈ pkts, pkt.extrinsicEnable = false →
        ∀ point ∈ (pkt.rawPoints : List (PointXyzlt R)), point.z = 0 := by
  rw [pointsClouds_run_zero hsin hcos, ← pointsClouds_run_none_eq_iff]
  constructor
  · intro h
    exact h.2.1
  · intro h
    exact ⟨h, h, rfl⟩

end Field

/-! ## Two packets -/

theorem no_extrinsic_eq_zero_level :
    (LidarPubHandler.run none [twoPointPacket]).pointsClouds =
        (LidarPubHandler.run (R := ℚ) (some (.zero .kLivoxLidarType 7))
          [twoPointPacket]).pointsClouds ∧
      (LidarPubHandler.run none [twoPointPacket]).pointsClouds =
        ([twoPointPacket].flatMap RawPacket.rawPoints : List (PointXyzlt ℚ)) ∧
      (LidarPubHandler.run (some (.zero .kLivoxLidarType 7)) [twoPointPacket]).pointsClouds =
        ([twoPointPacket].flatMap RawPacket.rawPoints : List (PointXyzlt ℚ)) := by
  apply (no_extrinsic_eq_zero_iff (R := ℚ) (by decide +kernel) (by decide +kernel)
    .kLivoxLidarType 7 [twoPointPacket]).mpr
  intro pkt hpkt _
  rw [List.mem_singleton.mp hpkt]
  decide +kernel

/-- A packet of the point (0, 0, 1 m) in millimetres. -/
def pointAbove : RawPacket :=
  { twoPointPacket with
    pointNum := 1
    rawData := [0, 0, 0, 0, 0, 0, 0, 0, 232, 3, 0, 0, 10, 0] }

/-- Without an extrinsic the point comes out at (0, 1, 1). -/
theorem no_extrinsic_shears :
    (LidarPubHandler.run none [pointAbove]).pointsClouds.map PointXyzlt.y = [(1 : ℚ)] ∧
      (LidarPubHandler.run (some (.zero .kLivoxLidarType 7)) [pointAbove]).pointsClouds.map
        PointXyzlt.y = [(0 : ℚ)] ∧
      ¬ (LidarPubHandler.run none [pointAbove]).pointsClouds =
        (LidarPubHandler.run (some (.zero (R := ℚ) .kLivoxLidarType 7))
          [pointAbove]).pointsClouds := by
  have hnone : (LidarPubHandler.run none [pointAbove]).pointsClouds.map PointXyzlt.y =
      [(1 : ℚ)] := by decide +kernel
  have hzero : (LidarPubHandler.run (some (.zero .kLivoxLidarType 7))
      [pointAbove]).pointsClouds.map PointXyzlt.y = [(0 : ℚ)] := by decide +kernel
  refine ⟨hnone, hzero, fun heq => ?_⟩
  rw [heq, hzero] at hnone
  exact absurd hnone (by decide)

end RoboRacer.Driver
