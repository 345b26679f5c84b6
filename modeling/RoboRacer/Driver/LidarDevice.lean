/-
  Driver/LidarDevice.lean --- a LiDAR as the data source keeps it (`comm/comm.h`,
  `comm/lidar_imu_data_queue.h`, `lds.cpp`).
-/
import RoboRacer.Driver.Ldq
import RoboRacer.Driver.LidarPubHandler

set_option autoImplicit false

namespace RoboRacer.Driver

/-- `ImuData`. -/
structure ImuData (R : Type) where
  lidarType : UInt8
  handle : UInt32
  timeStamp : UInt64
  gyroX : R
  gyroY : R
  gyroZ : R
  accX : R
  accY : R
  accZ : R

/-- `RawImuPoint`. -/
structure RawImuPoint (R : Type) where
  gyroX : R
  gyroY : R
  gyroZ : R
  accX : R
  accY : R
  accZ : R

/-- The cast of the payload bytes to `RawImuPoint`. -/
class ReadImu (R : Type) where
  rawImu : List UInt8 → RawImuPoint R

/-- `LivoxLidarConfigCodeBit`. -/
def kConfigDataType : UInt32 := (1 : UInt32) <<< 0
def kConfigScanPattern : UInt32 := (1 : UInt32) <<< 1
def kConfigBlindSpot : UInt32 := (1 : UInt32) <<< 2
def kConfigDualEmit : UInt32 := (1 : UInt32) <<< 3

/-- `UserLivoxLidarConfig`.  An optional item that the user leaves out is `-1`. -/
structure UserLivoxLidarConfig (R : Type) where
  handle : UInt32
  pclDataType : Int8
  patternMode : Int8
  blindSpotSet : Int32
  dualEmitEn : Int8
  extrinsicParam : ExtParameter R
  setBits : UInt32
  getBits : UInt32

/-- `LidarDevice`. -/
structure LidarDevice (R : Type) where
  lidarType : UInt8
  handle : UInt32
  dataSrc : UInt8
  connectState : LidarConnectState
  data : LidarDataQueue R
  imuData : List (ImuData R)
  livoxConfig : UserLivoxLidarConfig R

variable {R : Type}

/-- A device in static storage before anything is written to it. -/
def LidarDevice.zeroed [IntCast R] : LidarDevice R where
  lidarType := 0
  handle := 0
  dataSrc := 0
  connectState := .kConnectStateOff
  data := .zeroed
  imuData := []
  livoxConfig :=
    { handle := 0, pclDataType := 0, patternMode := 0, blindSpotSet := 0, dualEmitEn := 0
      extrinsicParam :=
        { roll := ((0 : Int) : R), pitch := ((0 : Int) : R), yaw := ((0 : Int) : R)
          x := 0, y := 0, z := 0 }
      setBits := 0, getBits := 0 }

/-- `DeInitQueue`: the block is deleted, and the pointer keeps its value. -/
def deInitQueue (queue : LidarDataQueue R) : Option (LidarDataQueue R) := do
  let storagePacket ← queue.storagePacket.release
  return { storagePacket := storagePacket, rdIdx := 0, wrIdx := 0, mask := 0, size := 0 }

/-- `ResetLidar`. -/
def resetLidar (lidar : LidarDevice R) (dataSrc : UInt8) : Option (LidarDevice R) := do
  let data ← deInitQueue lidar.data
  return { lidar with
    data := data
    imuData := []
    dataSrc := dataSrc
    connectState := .kConnectStateOff }

end RoboRacer.Driver
