/-
  Driver/Types.lean --- the shared data types of the Livox driver (`comm/comm.h`).

  The coordinates of a point are C floats.  They are kept as an arbitrary type
  `R`: the queue and the framing logic only move them, and the decoders state
  which operations they need of `R`.
-/
import Mathlib.Data.UInt

set_option autoImplicit false

namespace RoboRacer.Driver

/-! ## Constants -/

/-- Max lidar data source num. -/
def kMaxSourceLidar : Nat := 32

def kNsPerSecond : UInt64 := 1000000000

/-- 1 ms, the tolerated deviation of a frame's span. -/
def kNsTolerantFrameTimeDeviation : UInt64 := 1000000

def kRatioOfMsToNs : UInt64 := 1000000

def kLineNumberDefault : UInt8 := 1
def kLineNumberMid360 : UInt8 := 4
def kLineNumberHAP : UInt8 := 6

/-- Sync modes, as the `time_type` byte of a packet carries them. -/
def kTimestampTypeNoSync : UInt8 := 0
def kTimestampTypeGptpOrPtp : UInt8 := 1
def kTimestampTypeGps : UInt8 := 2

/-- `LidarProtoType`. -/
inductive LidarProtoType where
  | kIndustryLidarType
  | kVehicleLidarType
  | kDirectLidarType
  | kLivoxLidarType
  deriving DecidableEq, Repr

/-- The value of a protocol type in the `lidar_type` bytes. -/
def LidarProtoType.code : LidarProtoType → UInt8
  | .kIndustryLidarType => 1
  | .kVehicleLidarType => 2
  | .kDirectLidarType => 4
  | .kLivoxLidarType => 8

/-- `LidarConnectState`. -/
inductive LidarConnectState where
  | kConnectStateOff
  | kConnectStateOn
  | kConnectStateConfig
  | kConnectStateSampling
  deriving DecidableEq, Repr

/-! ## Points and packets -/

/-- `PointXyzlt`: a decoded point with its 64-bit nanosecond timestamp. -/
structure PointXyzlt (R : Type) where
  x : R
  y : R
  z : R
  intensity : R
  tag : UInt8
  line : UInt8
  offsetTime : UInt64
  deriving DecidableEq, Repr

/-- `PointPacket`: one frame entry.  `points` is the buffer behind the pointer;
`points_num` is a 32-bit count, and the buffer holds at least that many points. -/
structure PointPacket (R : Type) where
  handle : UInt32
  lidarType : UInt8
  pointsNum : UInt32
  points : List (PointXyzlt R)
  backed : pointsNum.toNat ≤ points.length

/-- `StoragePacket`: a slot of the point cloud queue. -/
structure StoragePacket (R : Type) where
  baseTime : UInt64
  pointsNum : UInt32
  points : List (PointXyzlt R)
  deriving DecidableEq, Repr

/-- A slot of a fresh storage block.  `points` is an empty vector; the two
numbers are indeterminate in the source, and no slot is read before a push has
written it. -/
def StoragePacket.fresh {R : Type} : StoragePacket R :=
  { baseTime := 0, pointsNum := 0, points := [] }

/-- The points a packet stands for: `points_num` of them, from the buffer. -/
def PointPacket.payload {R : Type} (p : PointPacket R) : List (PointXyzlt R) :=
  p.points.take p.pointsNum.toNat

theorem PointPacket.length_payload {R : Type} (p : PointPacket R) :
    p.payload.length = p.pointsNum.toNat := by
  simp [payload, Nat.min_eq_left p.backed]

/-- What a queue slot should hold once `p` has been pushed with `baseTime`. -/
def PointPacket.stored {R : Type} (p : PointPacket R) (baseTime : UInt64) : StoragePacket R :=
  { baseTime := baseTime, pointsNum := p.pointsNum, points := p.payload }

end RoboRacer.Driver
