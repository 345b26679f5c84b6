/-
  Driver/TranslationUnits.lean --- the units of the configured translation
  (`lds_lidar.cpp`, `InitLivoxLidar`; `comm/pub_handler.cpp`, the decoders).

  A translation is configured in millimetres.  `InitLivoxLidar` divides it by ten when
  the config asks for low resolution data, and a decoder divides it by 100 or by 1000 as
  the packet it decodes has low resolution or not.  The two tests look at different bytes:
  one at the user config, the other at the packet.
-/
import RoboRacer.Driver.Extrinsics

set_option autoImplicit false

namespace RoboRacer.Driver

/-! ## The registered extrinsic -/

section Config

variable {R : Type} [LivoxSdk]

/-- The config asks for low resolution data. -/
def UserLivoxLidarConfig.IsLow (config : UserLivoxLidarConfig R) : Prop :=
  config.pclDataType.toInt = (LivoxSdk.kLivoxLidarCartesianCoordinateLowData.toNat : Int)

instance (config : UserLivoxLidarConfig R) : Decidable config.IsLow :=
  inferInstanceAs (Decidable (_ = _))

/-- The extrinsic that `InitLivoxLidar` registers for a user config; `/` truncates. -/
def UserLivoxLidarConfig.lidarExtParameter (config : UserLivoxLidarConfig R) :
    LidarExtParameter R where
  lidarType := .kLivoxLidarType
  handle := config.handle
  param :=
    if config.IsLow then
      { config.extrinsicParam with
        x := config.extrinsicParam.x.tdiv 10
        y := config.extrinsicParam.y.tdiv 10
        z := config.extrinsicParam.z.tdiv 10 }
    else config.extrinsicParam

end Config

/-- The configured translation, in millimetres. -/
def ExtParameter.translation {R : Type} (param : ExtParameter R) : Fin 3 → Int :=
  ![param.x, param.y, param.z]

/-- The translation that is stored for one of `mm` millimetres. -/
def storedTranslation (isLow : Prop) [Decidable isLow] (mm : Int) : Int :=
  if isLow then mm.tdiv 10 else mm

/-! ## Truncating division by ten -/

theorem tdiv_ten_eq (mm : Int) :
    (0 ≤ mm → mm.tdiv 10 = mm / 10) ∧ (mm ≤ 0 → mm.tdiv 10 = -(-mm / 10)) := by
  constructor
  · intro h
    exact Int.tdiv_eq_ediv_of_nonneg h
  · intro h
    have hneg := Int.tdiv_eq_ediv_of_nonneg (b := 10) (show 0 ≤ -mm by omega)
    rw [Int.neg_tdiv] at hneg
    omega

theorem storedTranslation_eq_zero_iff (isLow : Prop) [Decidable isLow] (mm : Int) :
    storedTranslation isLow mm = 0 ↔ if isLow then -10 < mm ∧ mm < 10 else mm = 0 := by
  have := tdiv_ten_eq mm
  unfold storedTranslation
  split <;> omega

/-- Dividing by ten and then by 100 instead of 1000 loses the last digit; dividing by only
one of the two is off by a factor of ten. -/
theorem storedTranslation_eq_iff (isLow isLowPacket : Prop) [Decidable isLow]
    [Decidable isLowPacket] (mm : Int) :
    storedTranslation isLow mm * 1000 = mm * (if isLowPacket then 100 else 1000) ↔
      mm = 0 ∨ (isLow ∧ isLowPacket ∧ 10 ∣ mm) ∨ (¬ isLow ∧ ¬ isLowPacket) := by
  have := tdiv_ten_eq mm
  unfold storedTranslation
  by_cases hlow : isLow <;> by_cases hpacket : isLowPacket <;>
    simp only [hlow, hpacket, if_true, if_false, true_and, false_and, or_false, not_true_eq_false,
      not_false_eq_true, and_self, or_true] <;>
    omega

/-- Which of the two tests hold does not depend on the component. -/
theorem forall_component_iff (isLow isLowPacket : Prop) (translation : Fin 3 → Int) :
    (∀ row, translation row = 0 ∨ (isLow ∧ isLowPacket ∧ 10 ∣ translation row) ∨
        (¬ isLow ∧ ¬ isLowPacket)) ↔
      (∀ row, translation row = 0) ∨
        (isLow ∧ isLowPacket ∧ ∀ row, 10 ∣ translation row) ∨ (¬ isLow ∧ ¬ isLowPacket) := by
  constructor
  · intro h
    by_cases hboth : isLow ∧ isLowPacket
    · refine .inr (.inl ⟨hboth.1, hboth.2, fun row => ?_⟩)
      rcases h row with hzero | ⟨-, -, hdvd⟩ | ⟨hlow, -⟩
      · rw [hzero]
        exact dvd_zero 10
      · exact hdvd
      · exact absurd hboth.1 hlow
    · by_cases hneither : ¬ isLow ∧ ¬ isLowPacket
      · exact .inr (.inr hneither)
      · refine .inl fun row => ?_
        rcases h row with hzero | ⟨hlow, hpacket, -⟩ | hrow
        · exact hzero
        · exact absurd ⟨hlow, hpacket⟩ hboth
        · exact absurd hrow hneither
  · rintro (hzero | ⟨hlow, hpacket, hdvd⟩ | hneither) row
    · exact .inl (hzero row)
    · exact .inr (.inl ⟨hlow, hpacket, hdvd row⟩)
    · exact .inr (.inr hneither)

/-! ## The points a handler decodes -/

section Field

variable {R : Type} [Field R] [Trig R] [LivoxSdk]

/-- The extrinsic that a handler of the LiDAR uses: the rotation is the configured one, the
translation the stored one. -/
theorem inUse_lidarExtParameter (config : UserLivoxLidarConfig R) :
    ExtParameterDetailed.inUse (some config.lidarExtParameter) =
      { trans := fun row =>
          ((storedTranslation config.IsLow (config.extrinsicParam.translation row) : Int) : R)
        rotation := (ExtParameterDetailed.ofParam config.extrinsicParam).rotation } := by
  have htrans : (ExtParameterDetailed.inUse (some config.lidarExtParameter)).trans = fun row =>
      ((storedTranslation config.IsLow (config.extrinsicParam.translation row) : Int) : R) := by
    funext row
    by_cases hlow : config.IsLow <;> fin_cases row <;>
      simp [ExtParameterDetailed.inUse, UserLivoxLidarConfig.lidarExtParameter,
        ExtParameterDetailed.ofParam, ExtParameter.translation, storedTranslation, hlow]
  have hrotation : (ExtParameterDetailed.inUse (some config.lidarExtParameter)).rotation =
      (ExtParameterDetailed.ofParam config.extrinsicParam).rotation := by
    by_cases hlow : config.IsLow <;>
      simp [ExtParameterDetailed.inUse, UserLivoxLidarConfig.lidarExtParameter,
        ExtParameterDetailed.ofParam, hlow]
  rw [← htrans, ← hrotation]

/-- The packet is of a type that the decoders know. -/
def RawPacket.IsPointData (pkt : RawPacket) : Prop :=
  pkt.dataType = LivoxSdk.kLivoxLidarCartesianCoordinateHighData ∨
    pkt.dataType = LivoxSdk.kLivoxLidarCartesianCoordinateLowData ∨
    pkt.dataType = LivoxSdk.kLivoxLidarSphericalCoordinateData

theorem length_rawPoints {pkt : RawPacket} (hlidar : pkt.lidarType = .kLivoxLidarType)
    (hdata : pkt.IsPointData) :
    (pkt.rawPoints : List (PointXyzlt R)).length = pkt.pointNum.toNat := by
  unfold RawPacket.rawPoints
  rw [if_pos hlidar]
  split
  · rw [List.length_map, List.length_range]
  · split
    · rw [List.length_map, List.length_range]
    · split
      · rw [List.length_map, List.length_range]
      · next hhigh hlow hspher => exact absurd hdata (by simp [RawPacket.IsPointData, *])

/-- A packet of the observer callback has points, and the LiDAR has moved none of them. -/
theorem rawPoints_ne_nil {call : ObserverCall} {now : UInt64} {pkt : RawPacket}
    (hcall : call.rawPacket now = some pkt) (hdata : pkt.IsPointData) :
    (pkt.rawPoints : List (PointXyzlt R)) ≠ [] ∧ pkt.extrinsicEnable = false := by
  unfold ObserverCall.rawPacket at hcall
  dsimp only at hcall
  split at hcall
  · cases hcall
  · next hguard =>
    injection hcall with hpkt
    have hlidar : pkt.lidarType = .kLivoxLidarType := by rw [← hpkt]
    have hnum : pkt.pointNum.toNat = call.data.dotNum.toNat := by
      rw [← hpkt]
      exact UInt16.toNat_toUInt32 _
    refine ⟨fun hnil => ?_, by rw [← hpkt]⟩
    have hlength := length_rawPoints (R := R) hlidar hdata
    rw [hnil, List.length_nil, hnum] at hlength
    exact hguard (.inl (UInt16.toNat_inj.mp hlength.symm))

instance (pkt : RawPacket) : Decidable pkt.IsPointData :=
  inferInstanceAs (Decidable (_ ∨ _ ∨ _))

/-- The configured translation reaches packets of `dataType` unchanged. -/
def UserLivoxLidarConfig.TranslationAgrees (config : UserLivoxLidarConfig R)
    (dataType : UInt8) : Prop :=
  (∀ row, config.extrinsicParam.translation row = 0) ∨
    (config.IsLow ∧ dataType = LivoxSdk.kLivoxLidarCartesianCoordinateLowData ∧
      ∀ row, 10 ∣ config.extrinsicParam.translation row) ∨
    (¬ config.IsLow ∧ dataType ≠ LivoxSdk.kLivoxLidarCartesianCoordinateLowData)

omit [Trig R] in
/-- Component by component, the stored translation over the packet's unit is the configured
one in metres. -/
theorem translation_eq_iff [CharZero R]
    (hcases : LivoxSdk.kLivoxLidarCartesianCoordinateHighData ≠
      LivoxSdk.kLivoxLidarCartesianCoordinateLowData)
    (config : UserLivoxLidarConfig R) (pkt : RawPacket) :
    ((fun row => ((storedTranslation config.IsLow (config.extrinsicParam.translation row) : Int)
        : R) / (pkt.translationUnit : R)) =
      fun row => (config.extrinsicParam.translation row : R) / ((1000 : Int) : R)) ↔
      config.TranslationAgrees pkt.dataType := by
  have hunit : pkt.translationUnit =
      if pkt.dataType = LivoxSdk.kLivoxLidarCartesianCoordinateLowData then 100 else 1000 := by
    unfold RawPacket.translationUnit
    by_cases hlow : pkt.dataType = LivoxSdk.kLivoxLidarCartesianCoordinateLowData
    · rw [if_pos hlow, if_neg (by rw [hlow]; exact hcases.symm)]
    · simp only [if_neg hlow, ite_self]
  have hne : pkt.translationUnit ≠ 0 := by
    rw [hunit]
    split <;> decide
  have hrow : ∀ row, ((storedTranslation config.IsLow
        (config.extrinsicParam.translation row) : Int) : R) / (pkt.translationUnit : R) =
      (config.extrinsicParam.translation row : R) / ((1000 : Int) : R) ↔
        config.extrinsicParam.translation row = 0 ∨
          (config.IsLow ∧ pkt.dataType = LivoxSdk.kLivoxLidarCartesianCoordinateLowData ∧
            10 ∣ config.extrinsicParam.translation row) ∨
          (¬ config.IsLow ∧ ¬ pkt.dataType = LivoxSdk.kLivoxLidarCartesianCoordinateLowData) := by
    intro row
    rw [div_eq_div_iff (Int.cast_ne_zero.mpr hne) (Int.cast_ne_zero.mpr (by decide)),
      ← storedTranslation_eq_iff, ← hunit]
    exact_mod_cast Iff.rfl
  rw [funext_iff, forall_congr' hrow, forall_component_iff]
  rfl

/-- The extrinsic that a handler of the LiDAR decodes with, after any packets: the rotation
is the configured one, the translation the stored one. -/
theorem extrinsic_run_eq (config : UserLivoxLidarConfig R) (before : List RawPacket) :
    ((LidarPubHandler.run (some config.lidarExtParameter) before).configured
      (some config.lidarExtParameter)).extrinsic =
      { trans := fun row =>
          ((storedTranslation config.IsLow (config.extrinsicParam.translation row) : Int) : R)
        rotation := (ExtParameterDetailed.ofParam config.extrinsicParam).rotation } := by
  rw [LidarPubHandler.extrinsic_run, inUse_lidarExtParameter]

omit [Trig R] in
/-- What the decoders do to a point that the LiDAR has not moved. -/
theorem motion_of_not_enabled {pkt : RawPacket} (henable : pkt.extrinsicEnable = false)
    (ext : ExtParameterDetailed R) (point : PointXyzlt R) :
    pkt.motion ext point =
      point.moved ext.rotation fun row => ext.trans row / (pkt.translationUnit : R) := by
  rw [RawPacket.motion, henable]
  rfl

/-- The points of a packet show by how much they were shifted. -/
theorem decodePoints_eq_moved_iff {pkt : RawPacket} (henable : pkt.extrinsicEnable = false)
    (hpoints : (pkt.rawPoints : List (PointXyzlt R)) ≠ []) (ext : ExtParameterDetailed R)
    (t : Fin 3 → R) :
    decodePoints ext pkt = pkt.rawPoints.map (PointXyzlt.moved ext.rotation t) ↔
      (fun row => ext.trans row / (pkt.translationUnit : R)) = t := by
  obtain ⟨point, hpoint⟩ := List.exists_mem_of_ne_nil _ hpoints
  rw [decodePoints_eq_map, List.map_inj_left]
  constructor
  · intro h
    have hmoved := h point hpoint
    rw [motion_of_not_enabled henable, PointXyzlt.moved_eq_moved_iff] at hmoved
    exact hmoved
  · intro h point _
    rw [motion_of_not_enabled henable, h]

omit [Trig R] in
/-- A point of high and a point of low resolution that are at one place stay together only
under a stored translation of 0. -/
theorem position_motion_eq_iff [CharZero R]
    (hcases : LivoxSdk.kLivoxLidarCartesianCoordinateHighData ≠
      LivoxSdk.kLivoxLidarCartesianCoordinateLowData)
    {pkt pkt' : RawPacket}
    (hhigh : pkt.dataType = LivoxSdk.kLivoxLidarCartesianCoordinateHighData)
    (hlow : pkt'.dataType = LivoxSdk.kLivoxLidarCartesianCoordinateLowData)
    (henable : pkt.extrinsicEnable = false) (henable' : pkt'.extrinsicEnable = false)
    (M : Matrix (Fin 3) (Fin 3) R) (stored : Fin 3 → Int) {raw raw' : PointXyzlt R}
    (hsame : raw.position = raw'.position) :
    (pkt.motion { trans := fun row => (stored row : R), rotation := M } raw).position =
        (pkt'.motion { trans := fun row => (stored row : R), rotation := M } raw').position ↔
      ∀ row, stored row = 0 := by
  have hunit : pkt.translationUnit = 1000 := by
    rw [RawPacket.translationUnit, if_pos hhigh]
  have hunit' : pkt'.translationUnit = 100 := by
    rw [RawPacket.translationUnit, if_neg (by rw [hlow]; exact hcases.symm), if_pos hlow]
  rw [motion_of_not_enabled henable, motion_of_not_enabled henable', PointXyzlt.position_moved,
    PointXyzlt.position_moved, hsame, add_right_inj, hunit, hunit', funext_iff]
  refine forall_congr' fun row => ?_
  rw [div_eq_div_iff (Int.cast_ne_zero.mpr (by decide)) (Int.cast_ne_zero.mpr (by decide)),
    ← Int.cast_mul, ← Int.cast_mul, Int.cast_inj]
  omega

/-- **What a configured translation becomes.**  Take the extrinsic that a handler of the
LiDAR decodes with, after any packets.

The points of a packet are turned as configured and shifted by the configured translation
in metres if and only if the translation is 0, or config and packet both have low
resolution and the translation is in whole centimetres, or neither has low resolution.

A point comes out the same from a packet of high and from one of low resolution if and
only if the stored translation is 0. -/
theorem translation_exact_iff [CharZero R]
    (hcases : LivoxSdk.kLivoxLidarCartesianCoordinateHighData ≠
      LivoxSdk.kLivoxLidarCartesianCoordinateLowData)
    (config : UserLivoxLidarConfig R) (before : List RawPacket) (ext : ExtParameterDetailed R)
    (hext : ext = ((LidarPubHandler.run (some config.lidarExtParameter) before).configured
      (some config.lidarExtParameter)).extrinsic) :
    (∀ (call : ObserverCall) (now : UInt64) (pkt : RawPacket),
        call.rawPacket now = some pkt → pkt.IsPointData →
        (decodePoints ext pkt = pkt.rawPoints.map (PointXyzlt.moved
            (ExtParameterDetailed.ofParam config.extrinsicParam).rotation
            fun row => (config.extrinsicParam.translation row : R) / ((1000 : Int) : R)) ↔
          config.TranslationAgrees pkt.dataType)) ∧
      ∀ (pkt pkt' : RawPacket) (i j : Nat) (raw raw' point point' : PointXyzlt R),
        pkt.dataType = LivoxSdk.kLivoxLidarCartesianCoordinateHighData →
        pkt'.dataType = LivoxSdk.kLivoxLidarCartesianCoordinateLowData →
        pkt.extrinsicEnable = false → pkt'.extrinsicEnable = false →
        pkt.rawPoints[i]? = some raw → pkt'.rawPoints[j]? = some raw' →
        (decodePoints ext pkt)[i]? = some point →
        (decodePoints ext pkt')[j]? = some point' →
        raw.position = raw'.position →
        (point.position = point'.position ↔
          ∀ row, if config.IsLow then
              -10 < config.extrinsicParam.translation row ∧
                config.extrinsicParam.translation row < 10
            else config.extrinsicParam.translation row = 0) := by
  rw [extrinsic_run_eq] at hext
  subst hext
  refine ⟨fun call now pkt hcall hdata => ?_, ?_⟩
  · obtain ⟨hpoints, henable⟩ := rawPoints_ne_nil (R := R) hcall hdata
    rw [← translation_eq_iff hcases config pkt]
    exact decodePoints_eq_moved_iff henable hpoints _ _
  · intro pkt pkt' i j raw raw' point point' hhigh hlow henable henable' hraw hraw' hi hj hsame
    rw [decodePoints_eq_map, List.getElem?_map, hraw] at hi
    rw [decodePoints_eq_map, List.getElem?_map, hraw'] at hj
    rw [← Option.some.inj hi, ← Option.some.inj hj,
      position_motion_eq_iff hcases hhigh hlow henable henable' _ _ hsame]
    exact forall_congr' fun row => storedTranslation_eq_zero_iff _ _

end Field

/-! ## One metre forward -/

/-- A LiDAR mounted one metre ahead. -/
def metreForward (pclDataType : Int8) : UserLivoxLidarConfig ℚ where
  handle := 7
  pclDataType := pclDataType
  patternMode := -1
  blindSpotSet := -1
  dualEmitEn := -1
  extrinsicParam := { roll := 0, pitch := 0, yaw := 0, x := 1000, y := 0, z := 0 }
  setBits := 0
  getBits := 0

/-- A call with the point (0, 0, 0), in low resolution. -/
def originCall : ObserverCall where
  handle := 7
  devType := 9
  data :=
    { length := 44, timeInterval := 0, dotNum := 1, dataType := 2, timeType := 0, timestamp := 0
      data := [0, 0, 0, 0, 0, 0, 0, 0] }

/-- The packet of that call. -/
def originPacket : RawPacket where
  lidarType := .kLivoxLidarType
  handle := 7
  extrinsicEnable := false
  pointNum := 1
  dataType := 2
  lineNum := 4
  timeStamp := 0
  pointInterval := 0
  rawData := [0, 0, 0, 0, 0, 0, 0, 0]

theorem translation_exact_low :
    (decodePoints ((LidarPubHandler.run (some (metreForward 2).lidarExtParameter) []).configured
        (some (metreForward 2).lidarExtParameter)).extrinsic originPacket =
      originPacket.rawPoints.map (PointXyzlt.moved
        (ExtParameterDetailed.ofParam (metreForward 2).extrinsicParam).rotation
        fun row =>
          ((metreForward 2).extrinsicParam.translation row : ℚ) / ((1000 : Int) : ℚ))) := by
  have hcases : LivoxSdk.kLivoxLidarCartesianCoordinateHighData ≠
      LivoxSdk.kLivoxLidarCartesianCoordinateLowData := by decide
  apply ((translation_exact_iff hcases (metreForward 2) [] _ rfl).1 originCall 0 originPacket
    (by rfl) (by decide)).mpr
  refine .inr (.inl ⟨by decide, by decide, ?_⟩)
  decide

/-- Without `pcl_data_type` a LiDAR that sends low resolution moves by ten metres. -/
theorem translation_tenfold :
    originCall.rawPacket 0 = some originPacket ∧ originPacket.IsPointData ∧
      (decodePoints
        ((LidarPubHandler.run (some (metreForward (-1)).lidarExtParameter) []).configured
          (some (metreForward (-1)).lidarExtParameter)).extrinsic originPacket).map
            PointXyzlt.x = [10] ∧
      ¬ decodePoints
          ((LidarPubHandler.run (some (metreForward (-1)).lidarExtParameter) []).configured
            (some (metreForward (-1)).lidarExtParameter)).extrinsic originPacket =
        originPacket.rawPoints.map (PointXyzlt.moved
          (ExtParameterDetailed.ofParam (metreForward (-1)).extrinsicParam).rotation
          fun row =>
            ((metreForward (-1)).extrinsicParam.translation row : ℚ) / ((1000 : Int) : ℚ)) := by
  refine ⟨by rfl, by decide, by decide +kernel, fun h => ?_⟩
  have hx := congrArg (List.map PointXyzlt.x) h
  exact absurd hx (by decide +kernel)

end RoboRacer.Driver
