/-
  Slam/Undistortion.lean --- motion correction of scans
  (`lidar_undistortion.hpp`, the same file in both copies of the node).

  `getImu` keeps the last 200 samples in a ring and integrates them.  `adjustDistortion`
  looks for the sample behind the time of each point, starting where the point before has
  stopped, and corrects the point with what the ring has there:

      LidarUndistortion             the ring and its three pointers
      Ring                          what the number of samples says of them
      correction_runs_iff           when the guard lets the correction run

  The arithmetic is exact, in an ordered field.  What Eigen, pcl and the standard library
  compute on angles is a parameter, as is what the memory holds before it is written.
-/
import Mathlib.Algebra.Order.Field.Basic
import Mathlib.Data.List.Induction
import Mathlib.Data.Matrix.Mul
import Mathlib.Logic.Function.Basic
import RoboRacer.Foundation.RingSearch

set_option autoImplicit false

namespace RoboRacer.Slam

open RoboRacer.Foundation

/-! ## Data -/

/-- `imu_que_length_`. -/
abbrev imuQueLength : Nat := 200

/-- An index into the ring; `+ 1` and `- 1` wrap around. -/
abbrev ImuPtr := Fin imuQueLength

instance neZeroImuQueLength : NeZero imuQueLength :=
  ⟨by decide⟩

/-- The axes, and the angles about them: roll, pitch and yaw. -/
inductive Axis where
  | x
  | y
  | z
  deriving DecidableEq

instance : Fintype Axis where
  elems := {.x, .y, .z}
  complete axis := by cases axis <;> decide

/-- `Eigen::Vector3f`. -/
abbrev Vector3 (K : Type) := Axis → K

/-- `Eigen::Matrix3f`. -/
abbrev Matrix3 (K : Type) := Matrix Axis Axis K

/-- `pcl::PointXYZI`. -/
structure PointXYZI (K : Type) where
  xyz : Vector3 K
  intensity : K

/-- The arguments of `getImu`. -/
structure ImuSample (K Q : Type) where
  angularVelo : Vector3 K
  acc : Vector3 K
  quat : Q
  imuTime : K

/-- What the libraries compute. -/
structure AngleLib (K Q : Type) where
  pi : K
  atan2 : K → K → K
  /-- Roll, pitch and yaw. -/
  getEulerAngles : Q → Vector3 K
  toRotationMatrix : Q → Matrix3 K
  /-- `AngleAxisf` about the axes. -/
  unitX : K → Matrix3 K
  unitY : K → Matrix3 K
  unitZ : K → Matrix3 K
  inverse : Matrix3 K → Matrix3 K

/-- The members.  An array is read and written by index, and `sampled` and `integrated`
tell which slots `getImu` has written: the first in the arrays that every call writes, the
second in those it writes when the sample before is near. -/
structure LidarUndistortion (K : Type) where
  scanPeriod : K
  imuPtrFront : ImuPtr
  /-- `none` stands for -1. -/
  imuPtrLast : Option ImuPtr
  imuPtrLastIter : ImuPtr
  imuTime : ImuPtr → K
  /-- `imu_roll_`, `imu_pitch_` and `imu_yaw_`. -/
  imuRpy : ImuPtr → Vector3 K
  imuAcc : ImuPtr → Vector3 K
  imuAngularVelo : ImuPtr → Vector3 K
  imuShift : ImuPtr → Vector3 K
  imuVelo : ImuPtr → Vector3 K
  imuAngularRot : ImuPtr → Vector3 K
  sampled : ImuPtr → Bool
  integrated : ImuPtr → Bool

/-- The pose of the first point of a scan: `shift_start`, `velo_start` and `r_s_i`. -/
structure ScanReference (K : Type) where
  shiftStart : Vector3 K
  veloStart : Vector3 K
  rSI : Matrix3 K

/-- `rpy_cur`, `shift_cur` and `velo_cur`. -/
structure CurrentPose (K : Type) where
  rpyCur : Vector3 K
  shiftCur : Vector3 K
  veloCur : Vector3 K

namespace LidarUndistortion

variable {K Q : Type}

/-- The object after its constructor and `setScanPeriod`, in a memory that holds anything:
the arrays have no initialiser. -/
def fresh (scanPeriod : K) (memory : LidarUndistortion K) : LidarUndistortion K :=
  { memory with
    scanPeriod := scanPeriod
    imuPtrFront := 0
    imuPtrLast := none
    imuPtrLastIter := 0
    sampled := fun _ => false
    integrated := fun _ => false }

variable [Field K] [LinearOrder K]

/-! ## `getImu` -/

/-- `(imu_ptr_last_ + 1) % imu_que_length_`. -/
def nextPtr (s : LidarUndistortion K) : ImuPtr :=
  match s.imuPtrLast with
  | none => 0
  | some last => last + 1

/-- The part of `getImu` that every call runs. -/
def pushSample (lib : AngleLib K Q) (s : LidarUndistortion K) (sample : ImuSample K Q) :
    LidarUndistortion K :=
  let last := s.nextPtr
  { s with
    imuPtrLast := some last
    imuPtrFront := if last + 1 = s.imuPtrFront then s.imuPtrFront + 1 else s.imuPtrFront
    imuTime := Function.update s.imuTime last sample.imuTime
    imuRpy := Function.update s.imuRpy last (lib.getEulerAngles sample.quat)
    imuAcc := Function.update s.imuAcc last sample.acc
    imuAngularVelo := Function.update s.imuAngularVelo last sample.angularVelo
    sampled := Function.update s.sampled last true }

/-- The block of `getImu` behind `time_diff < scan_period_`. -/
def integrate (s : LidarUndistortion K) (last : ImuPtr) (acc angularVelo : Vector3 K)
    (timeDiff : K) : LidarUndistortion K :=
  let imuPtrBack := last - 1
  { s with
    imuShift := Function.update s.imuShift last
      (s.imuShift imuPtrBack + timeDiff • s.imuVelo imuPtrBack +
        (timeDiff * timeDiff * (1 / 2)) • acc)
    imuVelo := Function.update s.imuVelo last (s.imuVelo imuPtrBack + timeDiff • acc)
    imuAngularRot := Function.update s.imuAngularRot last
      (s.imuAngularRot imuPtrBack + timeDiff • angularVelo)
    integrated := Function.update s.integrated last true }

/-- `getImu`. -/
def getImu (lib : AngleLib K Q) (s : LidarUndistortion K) (sample : ImuSample K Q) :
    LidarUndistortion K :=
  let last := s.nextPtr
  let s := s.pushSample lib sample
  let acc := (lib.toRotationMatrix sample.quat).mulVec sample.acc
  let timeDiff := s.imuTime last - s.imuTime (last - 1)
  if timeDiff < s.scanPeriod then s.integrate last acc sample.angularVelo timeDiff else s

/-! ## `adjustDistortion` -/

/-- The test in the loop of the search. -/
def stopsAt (s : LidarUndistortion K) (time : K) (i : ImuPtr) : Bool :=
  decide (time < s.imuTime i)

/-- `imu_ptr_front_` behind the search. -/
def searchFront (s : LidarUndistortion K) (last : ImuPtr) (time : K) : ImuPtr :=
  search (s.stopsAt time) last s.imuPtrLastIter

/-- The sample that was found is too far from the point. -/
def skips (s : LidarUndistortion K) (front : ImuPtr) (time : K) : Bool :=
  decide (s.scanPeriod < |time - s.imuTime front|)

/-- `ratio_front`. -/
def ratioFront (s : LidarUndistortion K) (front : ImuPtr) (time : K) : K :=
  (time - s.imuTime (front - 1)) / (s.imuTime front - s.imuTime (front - 1))

/-- The weighted sum of an array at `imu_ptr_front_` and at `imu_ptr_back`. -/
def interpolate (ratioFront : K) (front back : Vector3 K) : Vector3 K :=
  ratioFront • front + (1 - ratioFront) • back

/-- The pose at the time of a point. -/
def currentPose (s : LidarUndistortion K) (front : ImuPtr) (time : K) : CurrentPose K :=
  if s.imuTime front < time then
    { rpyCur := s.imuRpy front
      shiftCur := s.imuShift front
      veloCur := s.imuVelo front }
  else
    let back := front - 1
    let ratio := s.ratioFront front time
    { rpyCur := interpolate ratio (s.imuRpy front) (s.imuRpy back)
      shiftCur := interpolate ratio (s.imuShift front) (s.imuShift back)
      veloCur := interpolate ratio (s.imuVelo front) (s.imuVelo back) }

/-- `r_c`. -/
def rotation (lib : AngleLib K Q) (rpy : Vector3 K) : Matrix3 K :=
  lib.unitZ (rpy .z) * lib.unitY (rpy .y) * lib.unitX (rpy .x)

/-- `adjusted_p`. -/
def adjusted (lib : AngleLib K Q) (reference : ScanReference K) (pose : CurrentPose K)
    (p : PointXYZI K) (relTime : K) : PointXYZI K :=
  let shiftFromStart := pose.shiftCur - reference.shiftStart - relTime • reference.veloStart
  { p with
    xyz := reference.rSI.mulVec ((rotation lib pose.rpyCur).mulVec p.xyz + shiftFromStart) }

/-- The reference that the first point assigns. -/
def referenceOf (lib : AngleLib K Q) (pose : CurrentPose K) : ScanReference K where
  shiftStart := pose.shiftCur
  veloStart := pose.veloCur
  rSI := lib.inverse (rotation lib pose.rpyCur)

/-- `0 < imu_ptr_last_`, with `imu_ptr_last_`. -/
def guardLast (s : LidarUndistortion K) : Option ImuPtr :=
  s.imuPtrLast.filter fun last => decide (0 < last)

/-- What the loop of `adjustDistortion` changes from one point to the next. -/
structure ScanState (K : Type) where
  imu : LidarUndistortion K
  /-- The locals of the reference, once they are assigned. -/
  reference : Option (ScanReference K)

/-- One pass of the loop.  Before they are assigned the locals hold `memory`. -/
def adjustPoint (lib : AngleLib K Q) (memory : ScanReference K) (scanTime : K) (isFirst : Bool)
    (s : ScanState K) (p : PointXYZI K) (relTime : K) : ScanState K × PointXYZI K :=
  match s.imu.guardLast with
  | none => ({ s with imu := { s.imu with imuPtrLastIter := s.imu.imuPtrFront } }, p)
  | some last =>
    let front := s.imu.searchFront last (scanTime + relTime)
    let imu := { s.imu with imuPtrFront := front }
    -- continue: the next search starts where this one did
    if imu.skips front (scanTime + relTime) then ({ s with imu := imu }, p)
    else
      let pose := imu.currentPose front (scanTime + relTime)
      let imu := { imu with imuPtrLastIter := front }
      if isFirst then ({ imu := imu, reference := some (referenceOf lib pose) }, p)
      else ({ s with imu := imu }, adjusted lib (s.reference.getD memory) pose p relTime)

/-- The loop of `adjustDistortion` behind some points, over points with their `rel_time`. -/
def adjustPoints (lib : AngleLib K Q) (memory : ScanReference K) (scanTime : K) :
    Bool → ScanState K → List (PointXYZI K × K) → LidarUndistortion K × List (PointXYZI K)
  | _, s, [] => (s.imu, [])
  | isFirst, s, (p, relTime) :: points =>
    let (s, p) := adjustPoint lib memory scanTime isFirst s p relTime
    let (imu, cloud) := adjustPoints lib memory scanTime false s points
    (imu, p :: cloud)

end LidarUndistortion

section Times

variable {K Q : Type} [Field K] [LinearOrder K]

/-- `-std::atan2(p.y, p.x)`. -/
def bearing (lib : AngleLib K Q) (p : PointXYZI K) : K :=
  -lib.atan2 (p.xyz .y) (p.xyz .x)

/-- `start_ori`. -/
def startOri (lib : AngleLib K Q) (cloud : List (PointXYZI K)) : K :=
  (cloud.head?.map (bearing lib)).getD 0

/-- `end_ori`. -/
def endOri (lib : AngleLib K Q) (cloud : List (PointXYZI K)) : K :=
  let startOri := startOri lib cloud
  let endOri := (cloud.getLast?.map (bearing lib)).getD 0
  if 3 * lib.pi < endOri - startOri then endOri - 2 * lib.pi
  else if endOri - startOri < lib.pi then endOri + 2 * lib.pi
  else endOri

/-- `ori_h` and `half_passed` behind a point. -/
def oriH (lib : AngleLib K Q) (startOri endOri : K) (halfPassed : Bool) (p : PointXYZI K) :
    K × Bool :=
  let oriH := bearing lib p
  if halfPassed = false then
    let oriH :=
      if oriH < startOri - lib.pi * (1 / 2) then oriH + 2 * lib.pi
      else if startOri + lib.pi * (3 / 2) < oriH then oriH - 2 * lib.pi
      else oriH
    (oriH, decide (lib.pi < oriH - startOri))
  else
    let oriH := oriH + 2 * lib.pi
    let oriH :=
      if oriH < endOri - 3 / 2 * lib.pi then oriH + 2 * lib.pi
      else if endOri + 1 / 2 * lib.pi < oriH then oriH - 2 * lib.pi
      else oriH
    (oriH, true)

/-- `rel_time` of each of some points.  The loop computes it before it changes the point. -/
def relTimesFrom (lib : AngleLib K Q) (scanPeriod startOri endOri : K) :
    Bool → List (PointXYZI K) → List K
  | _, [] => []
  | halfPassed, p :: points =>
    let (oriH, halfPassed) := oriH lib startOri endOri halfPassed p
    (oriH - startOri) / (endOri - startOri) * scanPeriod ::
      relTimesFrom lib scanPeriod startOri endOri halfPassed points

/-- `rel_time` of each point of a cloud. -/
def relTimes (lib : AngleLib K Q) (scanPeriod : K) (cloud : List (PointXYZI K)) : List K :=
  relTimesFrom lib scanPeriod (startOri lib cloud) (endOri lib cloud) false cloud

end Times

/-! ## Calls -/

/-- The calls on the object.  A scan has the `rel_time` of each of its points: they come
from the cloud alone, and here they may be any. -/
inductive ImuCall (K Q : Type) where
  | getImu (sample : ImuSample K Q)
  | scan (points : List (PointXYZI K × K)) (scanTime : K) (memory : ScanReference K)

section Calls

variable {K Q : Type} [Field K] [LinearOrder K]

/-- `adjustDistortion`, of a cloud with points. -/
def ImuCall.adjustDistortion (lib : AngleLib K Q) (scanPeriod : K) (cloud : List (PointXYZI K))
    (scanTime : K) (memory : ScanReference K) : ImuCall K Q :=
  .scan (cloud.zip (relTimes lib scanPeriod cloud)) scanTime memory

/-- The sample of a call of `getImu`. -/
def ImuCall.sample : ImuCall K Q → Option (ImuSample K Q)
  | .getImu sample => some sample
  | .scan _ _ _ => none

/-- The times of the samples of some calls, oldest first. -/
def imuTimes (calls : List (ImuCall K Q)) : List K :=
  (calls.filterMap ImuCall.sample).map ImuSample.imuTime

omit [Field K] [LinearOrder K] in
theorem imuTimes_append (calls calls' : List (ImuCall K Q)) :
    imuTimes (calls ++ calls') = imuTimes calls ++ imuTimes calls' := by
  rw [imuTimes, List.filterMap_append, List.map_append]
  rfl

namespace LidarUndistortion

/-- A scan: the object and the cloud behind it. -/
def adjustScan (lib : AngleLib K Q) (s : LidarUndistortion K) (points : List (PointXYZI K × K))
    (scanTime : K) (memory : ScanReference K) : LidarUndistortion K × List (PointXYZI K) :=
  adjustPoints lib memory scanTime true { imu := s, reference := none } points

/-- One call. -/
def step (lib : AngleLib K Q) (s : LidarUndistortion K) : ImuCall K Q → LidarUndistortion K
  | .getImu sample => s.getImu lib sample
  | .scan points scanTime memory => (s.adjustScan lib points scanTime memory).1

/-- The object after some calls. -/
def after (lib : AngleLib K Q) (s : LidarUndistortion K) (calls : List (ImuCall K Q)) :
    LidarUndistortion K :=
  calls.foldl (step lib) s

/-- A pass of the loop of `adjustDistortion`. -/
structure Visit (K : Type) where
  isFirst : Bool
  /-- The state before the pass. -/
  state : ScanState K
  /-- `scan_time + rel_time`. -/
  time : K

/-- The passes of the loop of `adjustDistortion` behind some points. -/
def scanVisits (lib : AngleLib K Q) (memory : ScanReference K) (scanTime : K) :
    Bool → ScanState K → List (PointXYZI K × K) → List (Visit K)
  | _, _, [] => []
  | isFirst, s, (p, relTime) :: points =>
    { isFirst := isFirst, state := s, time := scanTime + relTime } ::
      scanVisits lib memory scanTime false
        (adjustPoint lib memory scanTime isFirst s p relTime).1 points

/-- The passes of a call. -/
def callVisits (lib : AngleLib K Q) (s : LidarUndistortion K) : ImuCall K Q → List (Visit K)
  | .getImu _ => []
  | .scan points scanTime memory =>
    scanVisits lib memory scanTime true { imu := s, reference := none } points

end LidarUndistortion

end Calls

/-! ## The ring -/

/-- `imu_ptr_last_` behind `k` samples. -/
def lastPtr : Nat → Option ImuPtr
  | 0 => none
  | k + 1 => some (Fin.ofNat imuQueLength k)

theorem val_ofNat (k : Nat) : (Fin.ofNat imuQueLength k).val = k % 200 :=
  rfl

theorem val_add_one (i : ImuPtr) : (i + 1).val = (i.val + 1) % 200 :=
  rfl

theorem ofNat_succ (k : Nat) : Fin.ofNat imuQueLength (k + 1) = Fin.ofNat imuQueLength k + 1 :=
  Fin.ext (Nat.add_mod k 1 imuQueLength)

namespace LidarUndistortion

variable {K Q : Type}

/-- What the samples that were received, with these times, say of the ring. -/
structure Ring (times : List K) (s : LidarUndistortion K) : Prop where
  last : s.imuPtrLast = lastPtr times.length
  /-- The pointers of the search do not leave what has been written. -/
  front : s.imuPtrFront.val < max times.length 1
  iter : s.imuPtrLastIter.val < max times.length 1
  sampled : ∀ i, s.sampled i = true ↔ i.val < times.length
  /-- The last 200 samples are in the ring. -/
  stored : ∀ m time, times[m]? = some time → times.length ≤ m + imuQueLength →
    s.imuTime (Fin.ofNat imuQueLength m) = time

theorem Ring.fresh (scanPeriod : K) (memory : LidarUndistortion K) :
    Ring [] (fresh scanPeriod memory) where
  last := rfl
  front := Nat.zero_lt_one
  iter := Nat.zero_lt_one
  sampled i := by simp [LidarUndistortion.fresh]
  stored m time h := by cases h

variable {times : List K} {s : LidarUndistortion K}

/-- Where the next sample is written. -/
theorem Ring.nextPtr (h : Ring times s) : s.nextPtr = Fin.ofNat imuQueLength times.length := by
  unfold LidarUndistortion.nextPtr
  rw [h.last]
  cases times with
  | nil => rfl
  | cons time times =>
    exact (ofNat_succ times.length).symm

variable [Field K] [LinearOrder K]

section Push

omit [Field K] [LinearOrder K]

theorem Ring.val_nextPtr (h : Ring times s) : s.nextPtr.val = times.length % 200 :=
  congrArg Fin.val h.nextPtr

/-- `imu_ptr_front_` makes room when the next sample comes right before it. -/
theorem Ring.front_push (h : Ring times s) :
    (if s.nextPtr + 1 = s.imuPtrFront then s.imuPtrFront + 1 else s.imuPtrFront).val <
      times.length + 1 := by
  have hfront := h.front
  split
  case isTrue heq =>
    have hval := congrArg Fin.val heq
    rw [val_add_one, h.val_nextPtr] at hval
    rw [val_add_one]
    omega
  case isFalse => omega

theorem Ring.sampled_push (h : Ring times s) (i : ImuPtr) :
    Function.update s.sampled s.nextPtr true i = true ↔ i.val < times.length + 1 := by
  rw [Function.update_apply]
  split
  case isTrue heq =>
    rw [heq, h.val_nextPtr]
    have hle := Nat.mod_le times.length 200
    exact iff_of_true rfl (by omega)
  case isFalse hne =>
    rw [h.sampled]
    have hval : i.val ≠ times.length := by
      intro hi
      refine hne (Fin.ext ?_)
      rw [h.val_nextPtr, ← hi, Nat.mod_eq_of_lt i.isLt]
    omega

/-- The slot that is overwritten holds the sample 200 before. -/
theorem Ring.stored_push (h : Ring times s) (imuTime : K) {m : Nat} {time : K}
    (hm : (times ++ [imuTime])[m]? = some time) (hlen : times.length + 1 ≤ m + 200) :
    Function.update s.imuTime s.nextPtr imuTime (Fin.ofNat imuQueLength m) = time := by
  rw [Function.update_apply, h.nextPtr]
  rcases Nat.lt_trichotomy m times.length with hlt | rfl | hgt
  · have hne : Fin.ofNat imuQueLength m ≠ Fin.ofNat imuQueLength times.length := by
      intro heq
      have hval := congrArg Fin.val heq
      rw [val_ofNat, val_ofNat] at hval
      omega
    rw [List.getElem?_append_left hlt] at hm
    rw [if_neg hne]
    exact h.stored m time hm (Nat.le_of_succ_le hlen)
  · rw [List.getElem?_concat_length] at hm
    rw [if_pos rfl]
    exact Option.some.inj hm
  · rw [List.getElem?_eq_none (by rw [List.length_append]; exact hgt)] at hm
    cases hm

theorem Ring.pushSample (h : Ring times s) (lib : AngleLib K Q) (sample : ImuSample K Q) :
    Ring (times ++ [sample.imuTime]) (s.pushSample lib sample) := by
  have hlength : (times ++ [sample.imuTime]).length = times.length + 1 := List.length_append
  have hmax : max (times.length + 1) 1 = times.length + 1 := Nat.max_eq_left (Nat.le_add_left ..)
  constructor
  case last =>
    rw [hlength]
    exact congrArg some h.nextPtr
  case front =>
    rw [hlength, hmax]
    exact h.front_push
  case iter =>
    have hiter := h.iter
    rw [hlength]
    change s.imuPtrLastIter.val < _
    omega
  case sampled =>
    intro i
    rw [hlength]
    exact h.sampled_push i
  case stored =>
    intro m time hm hlen
    rw [hlength] at hlen
    exact h.stored_push sample.imuTime hm hlen

end Push

/-- What a sample does to the pointers. -/
theorem getImu_pointers (lib : AngleLib K Q) (s : LidarUndistortion K) (sample : ImuSample K Q) :
    (s.getImu lib sample).imuPtrLast = some s.nextPtr ∧
    (s.getImu lib sample).imuPtrFront =
      (if s.nextPtr + 1 = s.imuPtrFront then s.imuPtrFront + 1 else s.imuPtrFront) ∧
    (s.getImu lib sample).imuPtrLastIter = s.imuPtrLastIter := by
  unfold LidarUndistortion.getImu
  dsimp only
  split
  · exact ⟨rfl, rfl, rfl⟩
  · exact ⟨rfl, rfl, rfl⟩

theorem Ring.getImu (h : Ring times s) (lib : AngleLib K Q) (sample : ImuSample K Q) :
    Ring (times ++ [sample.imuTime]) (s.getImu lib sample) := by
  have hpush := h.pushSample lib sample
  unfold LidarUndistortion.getImu
  dsimp only
  split
  case isTrue => exact ⟨hpush.last, hpush.front, hpush.iter, hpush.sampled, hpush.stored⟩
  case isFalse => exact hpush

omit [Field K] [LinearOrder K] in
theorem guardLast_eq_some_iff {last : ImuPtr} :
    s.guardLast = some last ↔ s.imuPtrLast = some last ∧ 0 < last := by
  rw [guardLast, Option.filter_eq_some_iff, decide_eq_true_eq]

omit [Field K] [LinearOrder K] in
/-- The guard holds behind a sample. -/
theorem Ring.of_guardLast (h : Ring times s) {last : ImuPtr} (hlast : s.guardLast = some last) :
    ∃ k, times.length = k + 1 ∧ last = Fin.ofNat imuQueLength k := by
  have heq := (guardLast_eq_some_iff.mp hlast).1
  rw [h.last] at heq
  cases hk : times.length with
  | zero =>
    rw [hk] at heq
    cases heq
  | succ k =>
    rw [hk] at heq
    exact ⟨k, rfl, (Option.some.inj heq).symm⟩

omit [Field K] [LinearOrder K] in
/-- The slots from the first of the search to the last one have been written. -/
theorem Ring.slots (h : Ring times s) {last : ImuPtr} (hlast : s.guardLast = some last) :
    s.imuPtrLastIter.val < times.length ∧
      ∀ i : ImuPtr, i.val < times.length → i ≠ last → (i + 1).val < times.length := by
  obtain ⟨k, hk, rfl⟩ := h.of_guardLast hlast
  have hiter := h.iter
  rw [hk] at hiter ⊢
  refine ⟨by omega, fun i hi hne => ?_⟩
  have hval : i.val ≠ k % 200 := fun heq => hne (Fin.ext heq)
  have hlt := i.isLt
  rw [val_add_one]
  omega

omit [Field K] in
/-- The search stays where samples have been written. -/
theorem Ring.searchFront (h : Ring times s) {last : ImuPtr} (hlast : s.guardLast = some last)
    (time : K) : (s.searchFront last time).val < times.length := by
  obtain ⟨hiter, hnext⟩ := h.slots hlast
  exact search_invariant _ (fun i hi hne _ => hnext i hi hne) hiter

omit [Field K] in
/-- The slot that the search finds has been written. -/
theorem Ring.sampled_searchFront (h : Ring times s) {last : ImuPtr}
    (hlast : s.guardLast = some last) (time : K) :
    s.sampled (s.searchFront last time) = true :=
  (h.sampled _).mpr (h.searchFront hlast time)

/-- A scan moves the pointers of the search, and nothing else. -/
theorem Ring.adjustPoint {s : ScanState K} (h : Ring times s.imu) (lib : AngleLib K Q)
    (memory : ScanReference K) (scanTime : K) (isFirst : Bool) (p : PointXYZI K) (relTime : K) :
    Ring times (adjustPoint lib memory scanTime isFirst s p relTime).1.imu := by
  have hmove : ∀ front iter : ImuPtr, front.val < max times.length 1 →
      iter.val < max times.length 1 →
      Ring times { s.imu with imuPtrFront := front, imuPtrLastIter := iter } :=
    fun front iter hfront hiter => ⟨h.last, hfront, hiter, h.sampled, h.stored⟩
  unfold LidarUndistortion.adjustPoint
  cases hlast : s.imu.guardLast with
  | none => exact hmove s.imu.imuPtrFront s.imu.imuPtrFront h.front h.front
  | some last =>
    have hfront : s.imu.searchFront last (scanTime + relTime) < max times.length 1 :=
      lt_max_of_lt_left (h.searchFront hlast (scanTime + relTime))
    dsimp only
    split
    case isTrue => exact hmove _ s.imu.imuPtrLastIter hfront h.iter
    case isFalse =>
      split
      case isTrue => exact hmove _ _ hfront hfront
      case isFalse => exact hmove _ _ hfront hfront

theorem Ring.adjustPoints {s : ScanState K} (h : Ring times s.imu) (lib : AngleLib K Q)
    (memory : ScanReference K) (scanTime : K) (isFirst : Bool)
    (points : List (PointXYZI K × K)) :
    Ring times (adjustPoints lib memory scanTime isFirst s points).1 := by
  induction points generalizing isFirst s with
  | nil => exact h
  | cons point points ih => exact ih (h.adjustPoint lib memory scanTime isFirst ..) false

/-- Before every point of a scan the ring is what its samples say. -/
theorem Ring.scanVisits {s : ScanState K} (h : Ring times s.imu) (lib : AngleLib K Q)
    (memory : ScanReference K) (scanTime : K) (isFirst : Bool)
    (points : List (PointXYZI K × K)) :
    ∀ visit ∈ scanVisits lib memory scanTime isFirst s points, Ring times visit.state.imu := by
  induction points generalizing isFirst s with
  | nil => exact fun _ hvisit => absurd hvisit List.not_mem_nil
  | cons point points ih =>
    intro visit hvisit
    rcases List.mem_cons.mp hvisit with rfl | hrest
    · exact h
    · exact ih (h.adjustPoint lib memory scanTime isFirst ..) false visit hrest

theorem Ring.callVisits (h : Ring times s) (lib : AngleLib K Q) (call : ImuCall K Q) :
    ∀ visit ∈ s.callVisits lib call, Ring times visit.state.imu := by
  cases call with
  | getImu => exact fun _ hvisit => absurd hvisit List.not_mem_nil
  | scan points scanTime memory =>
    exact Ring.scanVisits (s := { imu := s, reference := none }) h lib memory scanTime true points

/-- The times of the samples that a call adds. -/
theorem Ring.step (h : Ring times s) (lib : AngleLib K Q) (call : ImuCall K Q) :
    Ring (times ++ imuTimes [call]) (s.step lib call) := by
  cases call with
  | getImu sample => exact h.getImu lib sample
  | scan points scanTime memory =>
    exact (List.append_nil times).symm ▸
      Ring.adjustPoints (s := { imu := s, reference := none }) h lib memory scanTime true points

/-- **Run rule.**  The ring is what its samples say. -/
theorem ring_after (lib : AngleLib K Q) (scanPeriod : K) (memory : LidarUndistortion K)
    (calls : List (ImuCall K Q)) :
    Ring (imuTimes calls) (after lib (.fresh scanPeriod memory) calls) := by
  induction calls using List.reverseRecOn with
  | nil => exact Ring.fresh scanPeriod memory
  | append_singleton calls call ih =>
    rw [after, List.foldl_append, imuTimes_append]
    exact ih.step lib call

/-! ## The guard -/

/-- The guard of `adjustDistortion` lets the correction run. -/
def CorrectionRuns (s : LidarUndistortion K) : Prop :=
  s.guardLast.isSome = true

omit [Field K] [LinearOrder K] in
/-- The guard is not about the number of samples but about the slot of the last one. -/
theorem Ring.correctionRuns_iff (h : Ring times s) (htimes : 2 ≤ times.length) :
    s.CorrectionRuns ↔ times.length % 200 ≠ 1 := by
  obtain ⟨k, hk⟩ := Nat.exists_eq_add_of_le' htimes
  have hlast : s.imuPtrLast = some (Fin.ofNat imuQueLength (k + 1)) := by
    rw [h.last, hk]
    rfl
  have hpos : (0 : ImuPtr) < Fin.ofNat imuQueLength (k + 1) ↔ 0 < (k + 1) % 200 := Iff.rfl
  rw [CorrectionRuns, guardLast, hlast, Option.isSome_filter, Option.any_some, decide_eq_true_eq,
    hpos]
  omega

/-- Behind a guard that fails no point is corrected. -/
theorem adjustPoints_of_not_runs (lib : AngleLib K Q) (memory : ScanReference K) (scanTime : K)
    (isFirst : Bool) {s : ScanState K} (h : ¬ s.imu.CorrectionRuns)
    (points : List (PointXYZI K × K)) :
    (adjustPoints lib memory scanTime isFirst s points).2 = points.map Prod.fst := by
  induction points generalizing isFirst s with
  | nil => rfl
  | cons point points ih =>
    have hnone : s.imu.guardLast = none := Option.not_isSome_iff_eq_none.mp h
    have hpoint : adjustPoint lib memory scanTime isFirst s point.1 point.2 =
        ({ s with imu := { s.imu with imuPtrLastIter := s.imu.imuPtrFront } }, point.1) := by
      rw [adjustPoint, hnone]
    rw [adjustPoints, hpoint, List.map_cons]
    exact congrArg (point.1 :: ·) (ih false h)

end LidarUndistortion

/-- **When the correction does not depend on the ring position.**

Behind any calls with at least two samples among them, the guard lets the correction run if
and only if the number of samples is not 1 modulo 200.  Otherwise the last sample is in the
first slot, and a scan leaves all of its points as they are. -/
theorem correction_runs_iff {K Q : Type} [Field K] [LinearOrder K] (lib : AngleLib K Q)
    (scanPeriod : K) (memory : LidarUndistortion K) (calls : List (ImuCall K Q))
    (hsamples : 2 ≤ (imuTimes calls).length) :
    (((LidarUndistortion.fresh scanPeriod memory).after lib calls).CorrectionRuns ↔
      (imuTimes calls).length % 200 ≠ 1) ∧
    ((imuTimes calls).length % 200 = 1 → ∀ points scanTime locals,
      (((LidarUndistortion.fresh scanPeriod memory).after lib calls).adjustScan lib points scanTime
        locals).2 = points.map Prod.fst) := by
  have hring := LidarUndistortion.ring_after lib scanPeriod memory calls
  have hiff := hring.correctionRuns_iff hsamples
  refine ⟨hiff, fun hfirst points scanTime locals => ?_⟩
  exact LidarUndistortion.adjustPoints_of_not_runs lib locals scanTime true
    (fun hruns => hiff.mp hruns hfirst) points

/-! ### A sensor that does not turn -/

/-- The angles of points on the axes, with a rational approximation of π, and of a sensor
that is level and does not turn. -/
def axesLib : AngleLib ℚ Unit where
  pi := 355 / 113
  atan2 y x :=
    if y = 0 then (if x < 0 then 355 / 113 else 0)
    else if 0 < y then 355 / 226 else -355 / 226
  getEulerAngles _ := 0
  toRotationMatrix _ := 1
  unitX _ := 1
  unitY _ := 1
  unitZ _ := 1
  inverse rotation := rotation

/-- A point in the plane of the sensor. -/
def planePoint (x y : ℚ) : PointXYZI ℚ where
  xyz
    | .x => x
    | .y => y
    | .z => 0
  intensity := 0

/-- A sensor at rest. -/
def restingSample (imuTime : ℚ) : ImuSample ℚ Unit where
  angularVelo := 0
  acc := 0
  quat := ()
  imuTime := imuTime

/-- A memory of zeros. -/
def zeroMemory : LidarUndistortion ℚ where
  scanPeriod := 0
  imuPtrFront := 0
  imuPtrLast := none
  imuPtrLastIter := 0
  imuTime := 0
  imuRpy := 0
  imuAcc := 0
  imuAngularVelo := 0
  imuShift := 0
  imuVelo := 0
  imuAngularRot := 0
  sampled := fun _ => false
  integrated := fun _ => false

theorem correction_runs_two :
    (((LidarUndistortion.fresh (1 / 10) zeroMemory).after axesLib
        [.getImu (restingSample 0), .getImu (restingSample (1 / 100))]).CorrectionRuns ↔
      2 % 200 ≠ 1) ∧
    (2 % 200 = 1 → ∀ points scanTime locals,
      (((LidarUndistortion.fresh (1 / 10) zeroMemory).after axesLib
        [.getImu (restingSample 0), .getImu (restingSample (1 / 100))]).adjustScan axesLib points
          scanTime locals).2 = points.map Prod.fst) :=
  correction_runs_iff axesLib (1 / 10) zeroMemory
    [.getImu (restingSample 0), .getImu (restingSample (1 / 100))] (Nat.le_refl 2)

/-- Behind 201 samples the last one is in the first slot, and the guard fails. -/
theorem guard_fails_behind_201 :
    ¬ ∀ calls : List (ImuCall ℚ Unit), 2 ≤ (imuTimes calls).length →
      ((LidarUndistortion.fresh (1 / 10) zeroMemory).after axesLib calls).CorrectionRuns := by
  intro h
  let calls := List.replicate 201 (ImuCall.getImu (restingSample 0))
  have hlength : (imuTimes calls).length = 201 := by
    have hsample : (ImuCall.getImu (restingSample 0)).sample = some (restingSample 0) := rfl
    rw [imuTimes, List.length_map, List.filterMap_replicate_of_some hsample, List.length_replicate]
  have hruns := h calls (by omega)
  have hring := LidarUndistortion.ring_after axesLib (1 / 10) zeroMemory calls
  have hlast := hring.last
  rw [hlength] at hlast
  rw [LidarUndistortion.CorrectionRuns, LidarUndistortion.guardLast, hlast] at hruns
  exact absurd hruns (by decide)

end RoboRacer.Slam
