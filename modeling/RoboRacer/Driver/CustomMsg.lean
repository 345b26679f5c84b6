/-
  Driver/CustomMsg.lean --- from a queue slot to a `CustomMsg` (`lddc.cpp`).

  `CustomMsg` keeps a 64-bit `timebase` and one 32-bit `offset_time` per point.
  This file has the conversion, and says for one frame entry when the pair still
  determines the point's 64-bit timestamp: exactly when the point is less than
  `2 ^ 32` ns after the first one.
-/
import RoboRacer.Driver.LidarDevice
import RoboRacer.Driver.QueueThreads
import RoboRacer.Foundation.Records

set_option autoImplicit false

namespace RoboRacer.Driver

open RoboRacer.Foundation

variable {R : Type}

/-! ## The conversion -/

/-- The conversion of a float to `uint8_t`. -/
class ToByte (R : Type) where
  toByte : R → UInt8

/-- `CustomPoint`. -/
structure CustomPoint (R : Type) where
  offsetTime : UInt32
  x : R
  y : R
  z : R
  reflectivity : UInt8
  tag : UInt8
  line : UInt8

/-- `CustomMsg`; `stamp` is the header's, in nanoseconds. -/
structure CustomMsg (R : Type) where
  frameId : String
  stamp : UInt64
  timebase : UInt64
  pointNum : UInt32
  lidarId : UInt8
  points : List (CustomPoint R)

/-- `InitCustomMsg`, for the device the queue belongs to. -/
def initCustomMsg (frameId : String) (lidar : LidarDevice R) (pkg : StoragePacket R) :
    CustomMsg R :=
  let timestamp := if pkg.points.isEmpty then 0 else pkg.baseTime
  { frameId := frameId
    stamp := timestamp
    timebase := timestamp
    pointNum := pkg.pointsNum
    lidarId :=
      if lidar.lidarType = LidarProtoType.kLivoxLidarType.code then lidar.handle.toUInt8 else 0
    points := [] }

/-- The body of the loop of `FillPointsToCustomMsg`. -/
def toCustomPoint [ToByte R] (baseTime : UInt64) (point : PointXyzlt R) : CustomPoint R :=
  { offsetTime := (point.offsetTime - baseTime).toUInt32
    x := point.x
    y := point.y
    z := point.z
    reflectivity := ToByte.toByte point.intensity
    tag := point.tag
    line := point.line }

/-- `FillPointsToCustomMsg`: `points[i]` for `i < points_num`; an index outside
the vector is `none`. -/
def fillPointsToCustomMsg [ToByte R] (livoxMsg : CustomMsg R) (pkg : StoragePacket R) :
    Option (CustomMsg R) := do
  let points ← (List.range pkg.pointsNum.toNat).mapM fun i =>
    pkg.points[i]?.map (toCustomPoint pkg.baseTime)
  return { livoxMsg with points := livoxMsg.points ++ points }

/-- One popped packet in `PublishCustomPointcloud`: an empty packet is skipped. -/
def publishCustomPointcloud [ToByte R] (frameId : String) (lidar : LidarDevice R)
    (pkg : StoragePacket R) : Option (Option (CustomMsg R)) :=
  if pkg.points.isEmpty then some none
  else (fillPointsToCustomMsg (initCustomMsg frameId lidar pkg) pkg).map some

/-- A copied packet announces exactly the points it has, so the loop runs through. -/
theorem mapM_range_getElem? {α β : Type} (l : List α) (f : α → β) :
    (List.range l.length).mapM (fun i => l[i]?.map f) = some (l.map f) := by
  rw [← List.length_map f]
  refine mapM_range_eq (l.map f) fun i b h => ?_
  rw [← List.getElem?_map]
  exact h

/-- The message of a pushed packet: none if it announces no point, and otherwise
its announced points against its base time. -/
theorem publishCustomPointcloud_stored [ToByte R] (frameId : String) (lidar : LidarDevice R)
    (p : PointPacket R) (baseTime : UInt64) :
    publishCustomPointcloud frameId lidar (p.stored baseTime) = some
      (if p.payload.isEmpty then none
      else some
        { initCustomMsg frameId lidar (p.stored baseTime) with
          points := p.payload.map (toCustomPoint baseTime) }) := by
  have hfill : (List.range p.pointsNum.toNat).mapM
      (fun i => p.payload[i]?.map (toCustomPoint baseTime)) =
        some (p.payload.map (toCustomPoint baseTime)) := by
    rw [← p.length_payload]
    exact mapM_range_getElem? p.payload (toCustomPoint baseTime)
  unfold publishCustomPointcloud
  by_cases hempty : p.payload.isEmpty = true
  · rw [if_pos hempty]
    exact if_pos hempty
  · rw [if_neg hempty]
    apply (if_neg hempty).trans
    simp [fillPointsToCustomMsg, PointPacket.stored, hfill, initCustomMsg]

/-! ## What a message preserves -/

/-- Point by point, `timebase + offset_time` is the timestamp the point had. -/
def TimestampsSurvive (msg : CustomMsg R) (points : List (PointXyzlt R)) : Prop :=
  ∀ (i : Nat) (h : i < msg.points.length), ∃ point, points[i]? = some point ∧
    msg.timebase + msg.points[i].offsetTime.toUInt64 = point.offsetTime

/-- A 32-bit difference determines a later time exactly when it is a short one. -/
theorem add_toUInt32_eq_iff {base t : UInt64} (h : base.toNat ≤ t.toNat) :
    base + (t - base).toUInt32.toUInt64 = t ↔ t.toNat < base.toNat + 2 ^ 32 := by
  have hle : base ≤ t := UInt64.le_iff_toNat_le.mpr h
  have hlt : t.toNat < 2 ^ 64 := t.toNat_lt
  have hoffset : (t - base).toUInt32.toUInt64.toNat = (t.toNat - base.toNat) % 2 ^ 32 := by
    rw [UInt32.toNat_toUInt64, UInt64.toNat_toUInt32, UInt64.toNat_sub_of_le _ _ hle]
  rw [← UInt64.toNat_inj, UInt64.toNat_add, hoffset]
  constructor
  · intro heq
    have hmod : (t.toNat - base.toNat) % 2 ^ 32 < 2 ^ 32 := Nat.mod_lt _ (by decide)
    have hsmall : base.toNat + (t.toNat - base.toNat) % 2 ^ 32 ≤ t.toNat := by
      have := Nat.mod_le (t.toNat - base.toNat) (2 ^ 32)
      omega
    rw [Nat.mod_eq_of_lt (by omega)] at heq
    omega
  · intro hspan
    rw [Nat.mod_eq_of_lt (by omega : t.toNat - base.toNat < 2 ^ 32)]
    have : base.toNat + (t.toNat - base.toNat) = t.toNat := by omega
    rw [this]
    exact Nat.mod_eq_of_lt hlt

/-- The timestamps of a message survive when those of the announced points do. -/
theorem timestampsSurvive_iff [ToByte R] {frameId : String} {lidar : LidarDevice R}
    {p : PointPacket R} {baseTime : UInt64} {msg : CustomMsg R}
    (hmsg : publishCustomPointcloud frameId lidar (p.stored baseTime) = some (some msg)) :
    TimestampsSurvive msg p.points ↔
      ∀ point ∈ p.payload,
        baseTime + (point.offsetTime - baseTime).toUInt32.toUInt64 = point.offsetTime := by
  rw [publishCustomPointcloud_stored, Option.some_inj] at hmsg
  split at hmsg
  · cases hmsg
  · rename_i hne
    rw [Option.some_inj] at hmsg
    subst hmsg
    have hbase : (initCustomMsg frameId lidar (p.stored baseTime)).timebase = baseTime := by
      change (if p.payload.isEmpty then 0 else baseTime) = baseTime
      exact if_neg hne
    have hget : ∀ (i : Nat) (point : PointXyzlt R), p.payload[i]? = some point →
        p.points[i]? = some point := by
      intro i point hi
      rw [PointPacket.payload, List.getElem?_take] at hi
      split at hi
      · exact hi
      · cases hi
    unfold TimestampsSurvive
    simp only [hbase, List.length_map, List.getElem_map]
    constructor
    · intro h point hpoint
      obtain ⟨i, hi, rfl⟩ := List.getElem_of_mem hpoint
      obtain ⟨q, hq, htime⟩ := h i hi
      rw [hget i _ (List.getElem?_eq_getElem hi), Option.some_inj] at hq
      subst hq
      exact htime
    · intro h i hi
      exact ⟨_, hget i _ (List.getElem?_eq_getElem hi), h _ (List.getElem_mem hi)⟩

/-! ## Delivery through the queue -/

/-- `pkg` is what the consumer of some point cloud queue, in some run of the two
threads, popped for the push `call`. -/
def DeliveredAs (call : PushCall R) (pkg : StoragePacket R) : Prop :=
  ∃ (queue queue' : LidarDataQueue R) (queueSize : UInt32) (s : QueueState R) (i : Nat),
    1 ≤ queueSize.toNat ∧ queueSize.toNat ≤ 2 ^ 31 ∧ initQueue queue queueSize = some queue' ∧
      (queueMachine queue').Reachable s ∧
      s.accepted[i]? = some call ∧ s.popped[i]? = some pkg

/-- What is popped is what was pushed. -/
theorem DeliveredAs.eq_stored {call : PushCall R} {pkg : StoragePacket R}
    (h : DeliveredAs call pkg) : pkg = call.stored := by
  obtain ⟨queue, queue', queueSize, s, i, hpos, hle, hinit, hs, hcall, hpkg⟩ := h
  obtain ⟨k, slots, hready, _, _, hrd, hwr⟩ := initQueue_spec hpos hle hinit
  obtain ⟨slots', hinv⟩ := queueInv_of_reachable hready hrd hwr hs
  obtain ⟨held, hheld⟩ : s.popped <+: s.pushed := ⟨s.held, hinv.history⟩
  have hpushed : s.pushed[i]? = some call.stored := by
    rw [QueueState.pushed, List.getElem?_map, hcall]
    rfl
  have hlt : i < s.popped.length := (List.getElem?_eq_some_iff.mp hpkg).1
  rw [← hheld, List.getElem?_append_left hlt, hpkg] at hpushed
  exact Option.some.inj hpushed

/-- Every push can be delivered: through an empty queue, one thread after the other. -/
theorem deliveredAs_stored (call : PushCall R) : DeliveredAs call call.stored := by
  have hinit : ∃ queue', initQueue (.zeroed : LidarDataQueue R) 1 = some queue' := ⟨_, rfl⟩
  obtain ⟨queue', hinit⟩ := hinit
  obtain ⟨k, slots, hready, _, _, hrd, hwr⟩ := initQueue_spec (by decide) (by decide) hinit
  have hstart : (queueMachine queue').Reachable (.initial queue') := .init rfl
  obtain ⟨pushed, hpushed, hpush, hconsumer⟩ :=
    exists_push (.initial hready hrd hwr) hstart rfl hready.length_pos call
  obtain ⟨slots', hinv⟩ := queueInv_of_reachable hready hrd hwr hpushed
  have hheld : pushed.held = [call.stored] := by
    simp [QueueState.held, QueueState.pushed, hpush.1, hpush.2, QueueState.initial]
  obtain ⟨popped, hpopped, hpop⟩ := exists_pop hinv hpushed hconsumer hheld
  refine ⟨.zeroed, queue', 1, popped, 0, by decide, by decide, hinit, hpopped, ?_, ?_⟩
  · rw [hpop.1, hpush.1]
    rfl
  · rw [hpop.2, hpush.2]
    rfl

end RoboRacer.Driver
