/-
  Driver/PubHandler.lean --- the framing logic (`comm/pub_handler.cpp`, class
  `PubHandler`): from raw packets to point frames.

  `RawDataProcess` decodes a packet into the buffer of its LiDAR and calls
  `CheckTimer`, which may hand a frame to `points_callback_`.  A frame is an
  array of `kMaxSourceLidar` entries of which the first `lidar_num` are in use;
  writing behind its end, or dereferencing a missing handler, is `none`.

  `is_timestamp_sync_` is written by another thread and the host clock is the
  environment's, so the value loaded and the time read are arguments.
-/
import Mathlib.Data.Finset.Card
import Std.Data.TreeMap.Lemmas
import RoboRacer.Driver.LidarPubHandler

set_option autoImplicit false

namespace RoboRacer.Driver

/-! ## Point frames -/

/-- `PointFrame`. -/
structure PointFrame (R : Type) where
  baseTime : List UInt64
  lidarNum : UInt8
  lidarPoint : List (PointPacket R)
  length_baseTime : baseTime.length = kMaxSourceLidar
  length_lidarPoint : lidarPoint.length = kMaxSourceLidar

namespace PointFrame

variable {R : Type}

/-- A zero-initialised frame. -/
def fresh : PointFrame R where
  baseTime := List.replicate kMaxSourceLidar 0
  lidarNum := 0
  lidarPoint := List.replicate kMaxSourceLidar
    { handle := 0, lidarType := 0, pointsNum := 0, points := [], backed := Nat.le_refl 0 }
  length_baseTime := List.length_replicate
  length_lidarPoint := List.length_replicate

/-- The frame with `t` written at `base_time[lidar_num]`. -/
def withBaseTime (frame : PointFrame R) (t : UInt64) : PointFrame R :=
  { frame with
    baseTime := frame.baseTime.set frame.lidarNum.toNat t
    length_baseTime := by rw [List.length_set]; exact frame.length_baseTime }

/-- The frame with `p` written at `lidar_point[lidar_num]` and one more entry in use. -/
def withLidarPoint (frame : PointFrame R) (p : PointPacket R) : PointFrame R :=
  { frame with
    lidarNum := frame.lidarNum + 1
    lidarPoint := frame.lidarPoint.set frame.lidarNum.toNat p
    length_lidarPoint := by rw [List.length_set]; exact frame.length_lidarPoint }

/-- `frame_.base_time[frame_.lidar_num] = t`. -/
def setBaseTime (frame : PointFrame R) (t : UInt64) : Option (PointFrame R) :=
  if frame.lidarNum.toNat < kMaxSourceLidar then some (frame.withBaseTime t) else none

/-- `frame_.lidar_point[frame_.lidar_num] = p; frame_.lidar_num++`. -/
def pushLidarPoint (frame : PointFrame R) (p : PointPacket R) : Option (PointFrame R) :=
  if frame.lidarNum.toNat < kMaxSourceLidar then some (frame.withLidarPoint p) else none

/-- `frame_.lidar_num = 0`. -/
def resetLidarNum (frame : PointFrame R) : PointFrame R := { frame with lidarNum := 0 }

/-- The entries in use: each with its base time. -/
def entries (frame : PointFrame R) : List (UInt64 × PointPacket R) :=
  (frame.baseTime.take frame.lidarNum.toNat).zip (frame.lidarPoint.take frame.lidarNum.toNat)

end PointFrame

/-! ## The handler -/

/-- The three numbers `SetPointCloudConfig` derives from the publish frequency. -/
structure PublishConfig where
  publishInterval : UInt64
  publishIntervalTolerance : UInt64
  publishIntervalMs : UInt64
  /-- `CheckTimer` divides by it. -/
  publishIntervalMs_ne : publishIntervalMs ≠ 0

/-- The member initialisers: 100 ms. -/
def PublishConfig.initial : PublishConfig where
  publishInterval := 100000000
  publishIntervalTolerance := 100000000
  publishIntervalMs := 100
  publishIntervalMs_ne := by decide

/-- `SetPointCloudConfig`, given the interval its floating-point expression
yields.  The frequency is at most 100 Hz, so the interval is at least 10 ms. -/
def PublishConfig.setPointCloudConfig (publishInterval : UInt64)
    (h : publishInterval / kRatioOfMsToNs ≠ 0) : PublishConfig where
  publishInterval := publishInterval
  publishIntervalTolerance := publishInterval - kNsTolerantFrameTimeDeviation
  publishIntervalMs := publishInterval / kRatioOfMsToNs
  publishIntervalMs_ne := h

/-- `PubHandler`, with the function-local static of `CheckTimer`. -/
structure PubHandler (R : Type) where
  config : PublishConfig
  frame : PointFrame R
  first : Bool
  lastPubTime : Int
  lidarProcessHandlers : Std.TreeMap UInt32 (LidarPubHandler R)
  points : Std.TreeMap UInt32 (List (PointXyzlt R))
  lidarExtrinsics : Std.TreeMap UInt32 (LidarExtParameter R)

/-- `GetLidarId`: `id` keeps the caller's value for an unsupported type. -/
def getLidarId (lidarType : LidarProtoType) (handle id : UInt32) : UInt32 :=
  if lidarType = .kLivoxLidarType then handle else id

/-- The id under which `RawDataProcess` files a packet. -/
def RawPacket.id (rawData : RawPacket) : UInt32 :=
  getLidarId rawData.lidarType rawData.handle 0

namespace PubHandler

variable {R : Type}

/-- A handler before its first packet. -/
def fresh (config : PublishConfig) : PubHandler R :=
  { config := config, frame := .fresh, first := true, lastPubTime := 0
    lidarProcessHandlers := ∅, points := ∅, lidarExtrinsics := ∅ }

/-- `points_[id]`. -/
def pointsAt (self : PubHandler R) (id : UInt32) : List (PointXyzlt R) :=
  self.points.getD id []

def addLidarsExtParam (self : PubHandler R) (lidarParam : LidarExtParameter R) : PubHandler R :=
  { self with
    lidarExtrinsics :=
      self.lidarExtrinsics.insert (getLidarId lidarParam.lidarType lidarParam.handle 0) lidarParam }

def clearAllLidarsExtrinsicParams (self : PubHandler R) : PubHandler R :=
  { self with lidarExtrinsics := ∅ }

/-! ### `CheckTimer` -/

/-- The lines that take a LiDAR's points, in both branches of `CheckTimer`: the
base time is written, `points_[id]` is cleared and swapped with the buffer. -/
def takePoints (self : PubHandler R) (id : UInt32) (handler : LidarPubHandler R) :
    Option (PubHandler R) := do
  let frame ← self.frame.setBaseTime handler.getLidarBaseTime
  let points := self.points.insert id []
  let (handler, buffer) := handler.getLidarPointClouds []
  return { self with
    frame := frame
    points := points.insert id buffer
    lidarProcessHandlers := self.lidarProcessHandlers.insert id handler }

/-- The frame entry of a buffer; `points_num` is the buffer's size as a `uint32_t`. -/
def lidarPoint (id : UInt32) (points : List (PointXyzlt R)) : PointPacket R where
  handle := id
  lidarType := LidarProtoType.kLivoxLidarType.code
  pointsNum := UInt32.ofNat points.length
  points := points
  backed := by rw [UInt32.toNat_ofNat']; exact Nat.mod_le _ _

/-- The lines that append the entry of `points_[id]` to the frame. -/
def addLidarPoint (self : PubHandler R) (id : UInt32) : Option (PubHandler R) := do
  let frame ← self.frame.pushLidarPoint (lidarPoint id (self.pointsAt id))
  return { self with frame := frame }

/-- `frame_.lidar_num = 0`, after the frame has been handed over. -/
def resetFrame (self : PubHandler R) : PubHandler R :=
  { self with frame := self.frame.resetLidarNum }

/-- The tests of the synchronised branch: the recent time is on an interval
boundary, and the buffer spans an interval up to the tolerance. -/
def cutDue (config : PublishConfig) (handler : LidarPubHandler R) : Bool :=
  let recentTimeMs := handler.getRecentTimeStamp / kRatioOfMsToNs
  let diff := handler.getRecentTimeStamp - handler.getLidarBaseTime
  !(recentTimeMs % config.publishIntervalMs != 0 || recentTimeMs == 0) &&
    !decide (diff < config.publishIntervalTolerance)

/-- `CheckTimer` with time synchronisation: the LiDAR's own frame is cut. -/
def checkTimerSynced (self : PubHandler R) (id : UInt32) :
    Option (PubHandler R × Option (PointFrame R)) := do
  let handler ← self.lidarProcessHandlers[id]?
  if cutDue self.config handler then
    let self ← self.takePoints id handler
    if (self.pointsAt id).isEmpty then return (self, none)
    let self ← self.addLidarPoint id
    if self.frame.lidarNum ≠ 0 then return (self.resetFrame, some self.frame)
    return (self, none)
  return (self, none)

/-- The body of the loop over all handlers in the unsynchronised branch. -/
def flushHandler (self : PubHandler R) (handle : UInt32) : Option (PubHandler R) := do
  let handler ← self.lidarProcessHandlers[handle]?
  let self ← self.takePoints handle handler
  if (self.pointsAt handle).isEmpty then return self
  self.addLidarPoint handle

/-- `last_pub_time_ += std::chrono::nanoseconds(publish_interval_)`. -/
def advancePubTime (self : PubHandler R) : PubHandler R :=
  { self with lastPubTime := self.lastPubTime + (self.config.publishInterval.toNat : Int) }

/-- `CheckTimer` without time synchronisation: every interval of the host clock,
the points of all LiDARs are handed over in one frame. -/
def checkTimerUnsynced (self : PubHandler R) (now : Int) :
    Option (PubHandler R × Option (PointFrame R)) := do
  if self.first then return ({ self with lastPubTime := now, first := false }, none)
  if now - self.lastPubTime < (self.config.publishInterval.toNat : Int) then
    return (self, none)
  let self ← self.lidarProcessHandlers.keys.foldlM flushHandler self.advancePubTime
  return (self.resetFrame, some self.frame)

/-- `CheckTimer`; a frame in the result is the one handed to `points_callback_`. -/
def checkTimer (self : PubHandler R) (isTimestampSync : Bool) (now : Int) (id : UInt32) :
    Option (PubHandler R × Option (PointFrame R)) :=
  if isTimestampSync then self.checkTimerSynced id else self.checkTimerUnsynced now

/-! ### `RawDataProcess` -/

section RawDataProcess

variable [Add R] [Sub R] [Mul R] [Div R] [Neg R] [IntCast R] [Trig R] [LivoxSdk]

/-- The handler of `id` when a packet is decoded: constructed at its first
packet, and given the extrinsic once there is one. -/
def handlerFor (self : PubHandler R) (id : UInt32) : LidarPubHandler R :=
  let handler := (self.lidarProcessHandlers[id]?).getD .fresh
  match self.lidarExtrinsics[id]? with
  | none => handler
  | some lidarParam => handler.setLidarsExtParam lidarParam

/-- The decoding half of the loop body. -/
def decodePacket (self : PubHandler R) (rawData : RawPacket) : PubHandler R :=
  { self with
    lidarProcessHandlers :=
      self.lidarProcessHandlers.insert rawData.id
        ((self.handlerFor rawData.id).pointCloudProcess rawData) }

/-- The body of `RawDataProcess` for the packet taken from the queue. -/
def rawDataProcess (self : PubHandler R) (rawData : RawPacket) (isTimestampSync : Bool)
    (now : Int) : Option (PubHandler R × Option (PointFrame R)) :=
  (self.decodePacket rawData).checkTimer isTimestampSync now rawData.id

end RawDataProcess

end PubHandler

end RoboRacer.Driver
