/-
  Driver/Settings.lean --- the settings of the driver node that shape its queues
  (`livox_ros_driver2.cpp`, `comm/comm.cpp`, `lddc.h`).

  `publish_freq` is a double in the source; here it is a rational, and a cast to
  an integer truncates.
-/
import Mathlib.Algebra.Order.Floor.Ring
import Mathlib.Data.Rat.Floor
import RoboRacer.Driver.Types

set_option autoImplicit false

namespace RoboRacer.Driver

/-- The clamp of `publish_freq` in the constructor of `DriverNode`. -/
def clampPublishFreq (publishFreq : ℚ) : ℚ :=
  if publishFreq > 100 then 100
  else if publishFreq < 1 / 2 then 1 / 2
  else publishFreq

/-- A publish frequency, in Hz, that the driver runs with. -/
structure PublishFreq where
  hz : ℚ
  lower : 1 / 2 ≤ hz
  upper : hz ≤ 100

/-- The frequency that a parameter value stands for. -/
def PublishFreq.ofParameter (publishFreq : ℚ) : PublishFreq where
  hz := clampPublishFreq publishFreq
  lower := by unfold clampPublishFreq; split_ifs <;> linarith
  upper := by unfold clampPublishFreq; split_ifs <;> linarith

def calculatePacketQueueSize (publishFreq : ℚ) : UInt32 :=
  if publishFreq > 10 then UInt32.ofNat ⌊publishFreq⌋.toNat + 1 else 10

/-- Every frequency that the driver runs with asks for a small queue. -/
theorem calculatePacketQueueSize_bounds (freq : PublishFreq) :
    10 ≤ (calculatePacketQueueSize freq.hz).toNat ∧
      (calculatePacketQueueSize freq.hz).toNat ≤ 101 := by
  unfold calculatePacketQueueSize
  split
  case isFalse => decide
  case isTrue hlarge =>
    have hlow : 10 ≤ ⌊freq.hz⌋ := Int.le_floor.mpr hlarge.le
    have hhigh : ⌊freq.hz⌋ ≤ 100 := by
      have hle := (Int.floor_le freq.hz).trans freq.upper
      exact_mod_cast hle
    rw [UInt32.toNat_add, UInt32.toNat_ofNat']
    have hone : (1 : UInt32).toNat = 1 := rfl
    omega

/-- `output_type_`: messages go to the topics. -/
def kOutputToRos : UInt8 := 0

/-- `transfer_format_`. -/
def kPointCloud2Msg : UInt8 := 0
def kLivoxCustomMsg : UInt8 := 1
def kPclPxyziMsg : UInt8 := 2

end RoboRacer.Driver
