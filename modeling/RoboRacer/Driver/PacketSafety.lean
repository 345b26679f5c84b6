/-
  Driver/PacketSafety.lean --- what a malformed packet can do (`comm/pub_handler.cpp`,
  from `OnLivoxLidarPointCloudCallback` to the point decoders).

  The number of points, the payload length and the data type of a packet are three
  independent fields of its header.  Here every division, the length computation and
  every `raw[i]` of the path is checked, and the first one that goes wrong is the
  result.  The packet queue hands a packet over as it is.

      packetPath              the path with its checks
      packetPath_ok_iff       the packets that pass it
      points_of_packetPath    what passes it is decoded as by `decodePoints`
-/
import RoboRacer.Driver.SyncModes

set_option autoImplicit false

namespace RoboRacer.Driver

/-! ## The layout of the SDK -/

/-- A Livox SDK whose packet has 36 bytes of header before `data[1]`. -/
class PackedSdk extends LivoxSdk where
  sizeofEthernetPacket_eq : sizeofEthernetPacket = 37

/-- The second version of the SDK is one. -/
@[reducible] def packedSdk2 : PackedSdk where
  toLivoxSdk := livoxSdk2
  sizeofEthernetPacket_eq := rfl

/-- The size of the packed raw points of a data type that has a decoder. -/
def rawPointSize [LivoxSdk] (dataType : UInt8) : Option Nat :=
  if dataType = LivoxSdk.kLivoxLidarCartesianCoordinateHighData then some 14
  else if dataType = LivoxSdk.kLivoxLidarCartesianCoordinateLowData then some 8
  else if dataType = LivoxSdk.kLivoxLidarSphericalCoordinateData then some 10
  else none

/-! ## The path of a packet -/

/-- What can go wrong on the path. -/
inductive PacketFault where
  | divisionByZero
  /-- The payload length would be negative. -/
  | wrappedLength
  /-- A decoder reads behind `raw_data`. -/
  | readOutside
  deriving DecidableEq

/-- A call of the observer for a packet that was received: the bytes that its length
field announces are there. -/
structure ReceivedCall [LivoxSdk] extends ObserverCall where
  announced : data.length.toNat + 1 ≤ LivoxSdk.sizeofEthernetPacket + data.data.length

/-- `OnLivoxLidarPointCloudCallback`; a packet of IMU data is not queued. -/
def ObserverCall.observe [LivoxSdk] (call : ObserverCall) (now : UInt64) :
    Except PacketFault (Option RawPacket) :=
  if call.IsImu then .ok none
  else if call.data.dotNum = 0 then .error .divisionByZero
  else if call.data.length.toNat + 1 < LivoxSdk.sizeofEthernetPacket then .error .wrappedLength
  else .ok (call.rawPacket now)

/-- A guarded loop runs to its end if every guard holds. -/
theorem mapM_ok_iff {α β ε : Type} {check : α → Except ε β} {f : α → β} {ok : α → Prop}
    (hcheck : ∀ a b, check a = .ok b ↔ ok a ∧ b = f a) (l : List α) (bs : List β) :
    l.mapM check = .ok bs ↔ (∀ a ∈ l, ok a) ∧ bs = l.map f := by
  induction l generalizing bs with
  | nil => simp [eq_comm, pure, Except.pure]
  | cons a l ih =>
    rw [List.mapM_cons, List.forall_mem_cons, List.map_cons]
    constructor
    · intro h
      cases hhead : check a with
      | error e =>
        rw [hhead] at h
        cases h
      | ok b =>
        cases htail : l.mapM check with
        | error e =>
          rw [hhead, htail] at h
          cases h
        | ok rest =>
          rw [hhead, htail] at h
          cases h
          obtain ⟨ha, rfl⟩ := (hcheck a b).mp hhead
          obtain ⟨hl, rfl⟩ := (ih rest).mp htail
          exact ⟨⟨ha, hl⟩, rfl⟩
    · rintro ⟨⟨ha, hl⟩, rfl⟩
      rw [(hcheck a (f a)).mpr ⟨ha, rfl⟩, (ih (l.map f)).mpr ⟨hl, rfl⟩]
      rfl

section Decoding

variable {R : Type} [Add R] [Sub R] [Mul R] [Div R] [Neg R] [IntCast R] [Trig R] [LivoxSdk]

/-- The loop of a decoder, over raw points of `size` bytes. -/
def decodeLoop (pkt : RawPacket) (size : Nat) (point : Nat → PointXyzlt R) :
    Except PacketFault (List (PointXyzlt R)) :=
  (List.range pkt.pointNum.toNat).mapM fun i =>
    if pkt.rawData.length < (i + 1) * size then .error .readOutside
    else if pkt.lineNum = 0 then .error .divisionByZero
    else .ok (point i)

/-- The body of the loop of the Cartesian decoders. -/
def cartesianPoint (scale : Int) (raw : Nat → CartesianRawPoint) (ext : ExtParameterDetailed R)
    (pkt : RawPacket) (i : Nat) : PointXyzlt R :=
  packetPoint pkt i (cartesianCoords scale ext pkt.extrinsicEnable (raw i))
    (raw i).reflectivity (raw i).tag

/-- The body of the loop of the spherical decoder. -/
def sphericalPoint (ext : ExtParameterDetailed R) (pkt : RawPacket) (i : Nat) : PointXyzlt R :=
  let raw := LivoxSdk.rawSpher pkt.rawData i
  packetPoint pkt i (sphericalCoords ext pkt.extrinsicEnable raw) raw.reflectivity raw.tag

/-- `LivoxLidarPointCloudProcess`: the points of a packet, or the first fault. -/
def livoxLidarPointCloudProcess (ext : ExtParameterDetailed R) (pkt : RawPacket) :
    Except PacketFault (List (PointXyzlt R)) :=
  if pkt.dataType = LivoxSdk.kLivoxLidarCartesianCoordinateHighData then
    decodeLoop pkt 14 (cartesianPoint 1000 (LivoxSdk.rawHigh pkt.rawData) ext pkt)
  else if pkt.dataType = LivoxSdk.kLivoxLidarCartesianCoordinateLowData then
    decodeLoop pkt 8 (cartesianPoint 100 (LivoxSdk.rawLow pkt.rawData) ext pkt)
  else if pkt.dataType = LivoxSdk.kLivoxLidarSphericalCoordinateData then
    decodeLoop pkt 10 (sphericalPoint ext pkt)
  else .ok []

/-- From the observer through the queue to the decoder: the points of a packet, and
none for one of IMU data. -/
def packetPath (ext : ExtParameterDetailed R) (call : ObserverCall) (now : UInt64) :
    Except PacketFault (List (PointXyzlt R)) := do
  match ← call.observe now with
  | none => return []
  | some pkt => livoxLidarPointCloudProcess ext pkt

/-! ## What the decoders read -/

omit [Add R] [Sub R] [Mul R] [Div R] [Neg R] [IntCast R] [Trig R] [LivoxSdk] in
/-- A decoder stays inside `raw_data` if the raw points of the packet fit into it. -/
theorem decodeLoop_ok_iff {pkt : RawPacket} (hline : pkt.lineNum ≠ 0) {size : Nat}
    (point : Nat → PointXyzlt R) (points : List (PointXyzlt R)) :
    decodeLoop pkt size point = .ok points ↔ pkt.pointNum.toNat * size ≤ pkt.rawData.length ∧
      points = (List.range pkt.pointNum.toNat).map point := by
  have hcheck : ∀ i b,
      (if pkt.rawData.length < (i + 1) * size then Except.error PacketFault.readOutside
        else if pkt.lineNum = 0 then .error .divisionByZero
        else .ok (point i)) = .ok b ↔ (i + 1) * size ≤ pkt.rawData.length ∧ b = point i := by
    intro i b
    split
    case isTrue hlt => exact iff_of_false (by simp) (fun h => absurd h.1 (Nat.not_le_of_lt hlt))
    case isFalse hge =>
      rw [Except.ok.injEq, eq_comm]
      exact (and_iff_right (Nat.le_of_not_lt hge)).symm
  rw [decodeLoop, mapM_ok_iff hcheck]
  refine and_congr_left' ⟨fun hall => ?_, fun hfit i hi => ?_⟩
  · -- the last point is the one that reaches farthest
    rcases Nat.eq_zero_or_pos pkt.pointNum.toNat with hzero | hpos
    · rw [hzero, Nat.zero_mul]
      exact Nat.zero_le _
    · have hlast := hall (pkt.pointNum.toNat - 1) (List.mem_range.mpr (by omega))
      rwa [Nat.sub_add_cancel hpos] at hlast
  · exact (Nat.mul_le_mul_right size (List.mem_range.mp hi)).trans hfit

omit [Sub R] [Neg R] in
/-- The decoder of a packet runs without a fault if its raw points fit. -/
theorem livoxLidarPointCloudProcess_ok_iff (ext : ExtParameterDetailed R) {pkt : RawPacket}
    (hline : pkt.lineNum ≠ 0) :
    (∃ points, livoxLidarPointCloudProcess ext pkt = .ok points) ↔
      ∀ size, rawPointSize pkt.dataType = some size →
        pkt.pointNum.toNat * size ≤ pkt.rawData.length := by
  have hloop : ∀ {size : Nat} (point : Nat → PointXyzlt R),
      (∃ points, decodeLoop pkt size point = .ok points) ↔
        pkt.pointNum.toNat * size ≤ pkt.rawData.length := by
    intro size point
    simp only [decodeLoop_ok_iff hline]
    exact ⟨fun ⟨_, hfit, _⟩ => hfit, fun hfit => ⟨_, hfit, rfl⟩⟩
  unfold livoxLidarPointCloudProcess rawPointSize
  split
  · simp only [Option.some.injEq, forall_eq']
    exact hloop _
  · split
    · simp only [Option.some.injEq, forall_eq']
      exact hloop _
    · split
      · simp only [Option.some.injEq, forall_eq']
        exact hloop _
      · exact iff_of_true ⟨_, rfl⟩ (by simp)

omit [Sub R] [Neg R] in
/-- A packet that is decoded without a fault is decoded as by `decodePoints`. -/
theorem decodePoints_of_process {ext : ExtParameterDetailed R} {pkt : RawPacket}
    {points : List (PointXyzlt R)} (hlidar : pkt.lidarType = .kLivoxLidarType)
    (hline : pkt.lineNum ≠ 0) (h : livoxLidarPointCloudProcess ext pkt = .ok points) :
    points = decodePoints ext pkt := by
  unfold livoxLidarPointCloudProcess at h
  rw [decodePoints, if_pos hlidar]
  split at h
  case isTrue hhigh =>
    rw [if_pos hhigh]
    exact ((decodeLoop_ok_iff hline _ _).mp h).2
  case isFalse hhigh =>
    rw [if_neg hhigh]
    split at h
    case isTrue hlow =>
      rw [if_pos hlow]
      exact ((decodeLoop_ok_iff hline _ _).mp h).2
    case isFalse hlow =>
      rw [if_neg hlow]
      split at h
      case isTrue hspher =>
        rw [if_pos hspher]
        exact ((decodeLoop_ok_iff hline _ _).mp h).2
      case isFalse hspher =>
        rw [if_neg hspher]
        exact (Except.ok.inj h).symm

end Decoding

/-! ## What the observer queues -/

theorem lineNum_ne_zero [LivoxSdk] (devType : UInt8) : lineNum devType ≠ 0 := by
  unfold lineNum
  split
  · decide
  · split <;> decide

/-- The payload length of a packet that is at least as long as its header. -/
theorem payloadLength_eq {length : UInt16} (h : 36 ≤ length.toNat) :
    (length.toUInt32 - UInt32.ofNat 37 + 1).toNat = length.toNat - 36 := by
  have hlt := length.toNat_lt
  simp only [UInt32.toNat_add, UInt32.toNat_sub, UInt16.toNat_toUInt32, UInt32.toNat_ofNat',
    UInt32.toNat_one]
  omega

/-- A received packet with points and a whole header is queued, with the payload that
its length field announces. -/
theorem rawPacket_of_received [PackedSdk] (call : ReceivedCall) (now : UInt64)
    (hdots : call.data.dotNum ≠ 0) (hlength : 36 ≤ call.data.length.toNat) :
    ∃ pkt, call.toObserverCall.rawPacket now = some pkt ∧
      pkt.lidarType = .kLivoxLidarType ∧ pkt.lineNum = lineNum call.devType ∧
      pkt.dataType = call.data.dataType ∧ pkt.pointNum.toNat = call.data.dotNum.toNat ∧
      pkt.rawData.length = call.data.length.toNat - 36 := by
  have hannounced := call.announced
  rw [PackedSdk.sizeofEthernetPacket_eq] at hannounced
  have hpayload := payloadLength_eq hlength
  have henough : ¬ (call.data.dotNum = 0 ∨ call.data.data.length <
      (call.data.length.toUInt32 - UInt32.ofNat 37 + 1).toNat) := by
    rw [hpayload, not_or]
    exact ⟨hdots, by omega⟩
  unfold ObserverCall.rawPacket
  rw [PackedSdk.sizeofEthernetPacket_eq]
  dsimp only
  rw [if_neg henough]
  refine ⟨_, rfl, rfl, rfl, rfl, UInt16.toNat_toUInt32 _, ?_⟩
  rw [List.length_take, hpayload]
  omega

/-! ## The packets that pass -/

section Safety

variable {R : Type} [Add R] [Sub R] [Mul R] [Div R] [Neg R] [IntCast R] [Trig R] [PackedSdk]

omit [Sub R] [Neg R] in
/-- A point packet that passes is decoded as the framing assumes. -/
theorem points_of_packetPath {ext : ExtParameterDetailed R} {call : ReceivedCall} {now : UInt64}
    {points : List (PointXyzlt R)} (himu : ¬ call.IsImu)
    (h : packetPath ext call.toObserverCall now = .ok points) :
    ∃ pkt, call.toObserverCall.rawPacket now = some pkt ∧ points = decodePoints ext pkt := by
  unfold packetPath ObserverCall.observe at h
  rw [if_neg himu, PackedSdk.sizeofEthernetPacket_eq] at h
  split at h
  case isTrue => cases h
  case isFalse hdots =>
    split at h
    case isTrue => cases h
    case isFalse hlength =>
      obtain ⟨pkt, hpkt, hlidar, hline, -, -, -⟩ :=
        rawPacket_of_received call now hdots (by omega)
      rw [hpkt] at h
      exact ⟨pkt, hpkt,
        decodePoints_of_process hlidar (by rw [hline]; exact lineNum_ne_zero _) h⟩

omit [Sub R] [Neg R] in
/-- **When a malformed packet is harmless.**

For every packet that was received, every device type and every extrinsic: from the
observer to the decoder there is no division by zero, no payload length below zero
and no `raw[i]` outside `raw_data`, if and only if the packet is one of IMU data, or
has points, is as long as its header, and has a payload that its raw points fit
into. -/
theorem packetPath_ok_iff (ext : ExtParameterDetailed R) (call : ReceivedCall) (now : UInt64) :
    (∃ points, packetPath ext call.toObserverCall now = .ok points) ↔
      call.IsImu ∨ (call.data.dotNum ≠ 0 ∧ 36 ≤ call.data.length.toNat ∧
        ∀ size, rawPointSize call.data.dataType = some size →
          call.data.dotNum.toNat * size ≤ call.data.length.toNat - 36) := by
  unfold packetPath ObserverCall.observe
  by_cases himu : call.IsImu
  · rw [if_pos himu]
    exact iff_of_true ⟨_, rfl⟩ (.inl himu)
  · rw [if_neg himu, or_iff_right himu]
    by_cases hdots : call.data.dotNum = 0
    · rw [if_pos hdots]
      refine iff_of_false ?_ (fun h => h.1 hdots)
      rintro ⟨points, hpoints⟩
      cases hpoints
    · rw [if_neg hdots, PackedSdk.sizeofEthernetPacket_eq, and_iff_right hdots]
      by_cases hlength : 36 ≤ call.data.length.toNat
      · obtain ⟨pkt, hpkt, -, hline, htype, hnum, hraw⟩ :=
          rawPacket_of_received call now hdots hlength
        rw [if_neg (by omega), hpkt, and_iff_right hlength, ← htype, ← hnum, ← hraw]
        exact livoxLidarPointCloudProcess_ok_iff ext (by rw [hline]; exact lineNum_ne_zero _)
      · rw [if_pos (by omega)]
        refine iff_of_false ?_ (fun h => hlength h.1)
        rintro ⟨points, hpoints⟩
        cases hpoints

end Safety

/-- A packet of high data that is as long as its header and has no points: the
observer divides by its number of points. -/
theorem packet_without_points_divides :
    ¬ ∀ (ext : ExtParameterDetailed Float) (call : ReceivedCall) (now : UInt64),
      ∃ points, packetPath ext call.toObserverCall now = .ok points := by
  intro h
  let call : ReceivedCall :=
    { handle := 1
      devType := 9
      data :=
        { length := 36, timeInterval := 1, dotNum := 0, dataType := 1, timeType := 0,
          timestamp := 0, data := [] }
      announced := by decide }
  let ext : ExtParameterDetailed Float := .initial
  obtain ⟨points, hpoints⟩ := h ext call 0
  have hfault : packetPath ext call.toObserverCall 0 = .error .divisionByZero := rfl
  rw [hfault] at hpoints
  cases hpoints

end RoboRacer.Driver
