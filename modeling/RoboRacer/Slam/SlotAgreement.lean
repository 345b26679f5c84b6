/-
  Slam/SlotAgreement.lean --- what a new sample keeps of the slot it is written to
  (`lidar_undistortion.hpp`).

  Once the ring is full `getImu` writes over a slot that is 200 samples old, and before
  that over memory without an initialiser.  A slot is here what all arrays hold at one
  index.  Two objects are compared that have the same pointers, and the same slot before
  the one to be written:

      SameBehind               two such objects
      slot_getImu_of_follows   the slot that a sample leaves
      new_slot_agrees_iff      when it does not depend on what the slot held

  The block that integrates is skipped behind a pause, and the shift, the velocity and the
  angle of the new slot are then those of the old one.
-/
import RoboRacer.Slam.Undistortion

set_option autoImplicit false

namespace RoboRacer.Slam

open RoboRacer.Foundation

/-! ## Slots -/

/-- What the arrays hold at one index. -/
structure Slot (K : Type) where
  imuTime : K
  imuRpy : Vector3 K
  imuAcc : Vector3 K
  imuAngularVelo : Vector3 K
  imuShift : Vector3 K
  imuVelo : Vector3 K
  imuAngularRot : Vector3 K

/-- Two slots with the same shift, velocity and angle. -/
structure Slot.SameIntegrals {K : Type} (slot other : Slot K) : Prop where
  imuShift : slot.imuShift = other.imuShift
  imuVelo : slot.imuVelo = other.imuVelo
  imuAngularRot : slot.imuAngularRot = other.imuAngularRot

namespace LidarUndistortion

variable {K Q : Type}

/-- The slot of an index. -/
def slot (s : LidarUndistortion K) (i : ImuPtr) : Slot K where
  imuTime := s.imuTime i
  imuRpy := s.imuRpy i
  imuAcc := s.imuAcc i
  imuAngularVelo := s.imuAngularVelo i
  imuShift := s.imuShift i
  imuVelo := s.imuVelo i
  imuAngularRot := s.imuAngularRot i

/-- The object, if the slot that is written next held something else. -/
def holding (s : LidarUndistortion K) (held : Slot K) : LidarUndistortion K :=
  { s with
    imuTime := Function.update s.imuTime s.nextPtr held.imuTime
    imuRpy := Function.update s.imuRpy s.nextPtr held.imuRpy
    imuAcc := Function.update s.imuAcc s.nextPtr held.imuAcc
    imuAngularVelo := Function.update s.imuAngularVelo s.nextPtr held.imuAngularVelo
    imuShift := Function.update s.imuShift s.nextPtr held.imuShift
    imuVelo := Function.update s.imuVelo s.nextPtr held.imuVelo
    imuAngularRot := Function.update s.imuAngularRot s.nextPtr held.imuAngularRot }

/-- Two objects with the same pointers, and the same slot before the one that is written
next. -/
structure SameBehind (s t : LidarUndistortion K) : Prop where
  front : s.imuPtrFront = t.imuPtrFront
  last : s.imuPtrLast = t.imuPtrLast
  iter : s.imuPtrLastIter = t.imuPtrLastIter
  back : s.slot (s.nextPtr - 1) = t.slot (t.nextPtr - 1)

theorem SameBehind.nextPtr {s t : LidarUndistortion K} (h : s.SameBehind t) :
    s.nextPtr = t.nextPtr := by
  rw [LidarUndistortion.nextPtr, LidarUndistortion.nextPtr, h.last]

@[simp] theorem slot_holding (s : LidarUndistortion K) (held : Slot K) :
    (s.holding held).slot s.nextPtr = held := by
  simp [slot, holding]

@[simp] theorem slot_holding_back (s : LidarUndistortion K) (held : Slot K) :
    (s.holding held).slot (s.nextPtr - 1) = s.slot (s.nextPtr - 1) := by
  simp [slot, holding]

/-- What the next slot holds has no part in the agreement. -/
theorem SameBehind.holding {s t : LidarUndistortion K} (h : s.SameBehind t)
    (held held' : Slot K) : (s.holding held).SameBehind (t.holding held') where
  front := h.front
  last := h.last
  iter := h.iter
  back := by
    change (s.holding held).slot (s.nextPtr - 1) = (t.holding held').slot (t.nextPtr - 1)
    rw [slot_holding_back, slot_holding_back, h.back]

variable [Field K] [LinearOrder K]

/-! ## The slot that a sample leaves -/

/-- The sample comes less than a scan period behind the one before. -/
def Follows (s : LidarUndistortion K) (sample : ImuSample K Q) : Prop :=
  sample.imuTime - s.imuTime (s.nextPtr - 1) < s.scanPeriod

end LidarUndistortion

section Slots

variable {K Q : Type}

/-- The slot of a sample without the block that integrates. -/
def Slot.resampled (lib : AngleLib K Q) (held : Slot K) (sample : ImuSample K Q) : Slot K :=
  { held with
    imuTime := sample.imuTime
    imuRpy := lib.getEulerAngles sample.quat
    imuAcc := sample.acc
    imuAngularVelo := sample.angularVelo }

/-- Without the block the integrals are the old ones. -/
theorem Slot.resampled_eq_iff (lib : AngleLib K Q) {held held' : Slot K}
    (sample : ImuSample K Q) :
    held.resampled lib sample = held'.resampled lib sample ↔ held.SameIntegrals held' := by
  constructor
  · intro h
    injection h with _ _ _ _ hshift hvelo hrot
    exact ⟨hshift, hvelo, hrot⟩
  · rintro ⟨hshift, hvelo, hrot⟩
    rw [Slot.resampled, hshift, hvelo, hrot]
    rfl

end Slots

namespace LidarUndistortion

variable {K Q : Type} [Field K] [LinearOrder K]

omit [LinearOrder K] in
/-- The sample before a new one keeps its time. -/
theorem timeDiff_pushSample (lib : AngleLib K Q) (s : LidarUndistortion K)
    (sample : ImuSample K Q) :
    (s.pushSample lib sample).imuTime s.nextPtr -
      (s.pushSample lib sample).imuTime (s.nextPtr - 1) =
        sample.imuTime - s.imuTime (s.nextPtr - 1) := by
  simp [pushSample]

/-- The test in front of the block that integrates. -/
theorem guard_pushSample_iff {lib : AngleLib K Q} {s : LidarUndistortion K}
    {sample : ImuSample K Q} :
    (s.pushSample lib sample).imuTime s.nextPtr -
      (s.pushSample lib sample).imuTime (s.nextPtr - 1) <
        (s.pushSample lib sample).scanPeriod ↔ s.Follows sample := by
  rw [timeDiff_pushSample]
  rfl

/-- The slot of a sample that follows comes from the slot before it alone. -/
theorem slot_getImu_of_follows (lib : AngleLib K Q) {s : LidarUndistortion K}
    {sample : ImuSample K Q} (h : s.Follows sample) {back : Slot K}
    (hback : s.slot (s.nextPtr - 1) = back) {acc : Vector3 K} {timeDiff : K}
    (hacc : (lib.toRotationMatrix sample.quat).mulVec sample.acc = acc)
    (htimeDiff : sample.imuTime - back.imuTime = timeDiff) :
    (s.getImu lib sample).slot s.nextPtr =
      { imuTime := sample.imuTime
        imuRpy := lib.getEulerAngles sample.quat
        imuAcc := sample.acc
        imuAngularVelo := sample.angularVelo
        imuShift :=
          back.imuShift + timeDiff • back.imuVelo + (timeDiff * timeDiff * (1 / 2)) • acc
        imuVelo := back.imuVelo + timeDiff • acc
        imuAngularRot := back.imuAngularRot + timeDiff • sample.angularVelo } := by
  subst hback hacc htimeDiff
  rw [getImu, if_pos (guard_pushSample_iff.mpr h), timeDiff_pushSample]
  simp [slot, integrate, pushSample]

/-- Behind a pause it comes in part from what was there. -/
theorem slot_getImu_of_not_follows (lib : AngleLib K Q) {s : LidarUndistortion K}
    {sample : ImuSample K Q} (h : ¬ s.Follows sample) :
    (s.getImu lib sample).slot s.nextPtr = (s.slot s.nextPtr).resampled lib sample := by
  rw [getImu, if_neg (mt guard_pushSample_iff.mp h)]
  simp [slot, pushSample, Slot.resampled]

theorem follows_holding {s : LidarUndistortion K} {sample : ImuSample K Q} (held : Slot K) :
    (s.holding held).Follows sample ↔ s.Follows sample := by
  have hback := congrArg Slot.imuTime (slot_holding_back s held)
  unfold Follows
  exact iff_of_eq (congrArg (sample.imuTime - · < s.scanPeriod) hback)

/-- A sample whose slot is the same whatever was there follows the sample before. -/
theorem follows_of_held (lib : AngleLib K Q) {s : LidarUndistortion K} {sample : ImuSample K Q}
    {newSlot : Slot K}
    (h : ∀ held : Slot K, ((s.holding held).getImu lib sample).slot s.nextPtr = newSlot) :
    s.Follows sample := by
  by_contra hpause
  have hslot : ∀ held : Slot K, held.resampled lib sample = newSlot := by
    intro held
    have hnew := slot_getImu_of_not_follows lib (mt (follows_holding held).mp hpause)
    exact (congrArg (Slot.resampled lib · sample) (slot_holding s held)).symm.trans
      (hnew.symm.trans (h held))
  -- two slots with different shifts
  let zero : Slot K := ⟨0, 0, 0, 0, 0, 0, 0⟩
  let one : Slot K := { zero with imuShift := fun _ => 1 }
  have hsame := (Slot.resampled_eq_iff lib sample).mp ((hslot zero).trans (hslot one).symm)
  exact zero_ne_one (congrFun hsame.imuShift .x)

/-- The slot that a sample leaves in two objects, if it follows in both. -/
theorem SameBehind.slot_getImu {s t : LidarUndistortion K} (h : s.SameBehind t)
    (lib : AngleLib K Q) {sample : ImuSample K Q} (hs : s.Follows sample)
    (ht : t.Follows sample) :
    (s.getImu lib sample).slot s.nextPtr = (t.getImu lib sample).slot t.nextPtr := by
  rw [slot_getImu_of_follows lib hs h.back rfl rfl, slot_getImu_of_follows lib ht rfl rfl rfl]

theorem SameBehind.follows_iff {s t : LidarUndistortion K} (h : s.SameBehind t)
    (hperiod : s.scanPeriod = t.scanPeriod) (sample : ImuSample K Q) :
    s.Follows sample ↔ t.Follows sample := by
  have hback : s.imuTime (s.nextPtr - 1) = t.imuTime (t.nextPtr - 1) :=
    congrArg Slot.imuTime h.back
  rw [Follows, Follows, hback, hperiod]

/-! ## Streams -/

theorem nextPtr_getImu (lib : AngleLib K Q) (s : LidarUndistortion K) (sample : ImuSample K Q) :
    (s.getImu lib sample).nextPtr = s.nextPtr + 1 := by
  rw [nextPtr, (getImu_pointers lib s sample).1]

/-- **Step lemma.**  Behind a sample that follows the objects still agree. -/
theorem SameBehind.getImu {s t : LidarUndistortion K} (h : s.SameBehind t) (lib : AngleLib K Q)
    {sample : ImuSample K Q} (hs : s.Follows sample) (ht : t.Follows sample) :
    (s.getImu lib sample).SameBehind (t.getImu lib sample) := by
  obtain ⟨hslast, hsfront, hsiter⟩ := getImu_pointers lib s sample
  obtain ⟨htlast, htfront, htiter⟩ := getImu_pointers lib t sample
  constructor
  case front => rw [hsfront, htfront, h.nextPtr, h.front]
  case last => rw [hslast, htlast, h.nextPtr]
  case iter => rw [hsiter, htiter, h.iter]
  case back =>
    rw [nextPtr_getImu, nextPtr_getImu, add_sub_cancel_right, add_sub_cancel_right]
    exact h.slot_getImu lib hs ht

/-- Samples without a pause. -/
def Streams (lib : AngleLib K Q) : LidarUndistortion K → List (ImuSample K Q) → Prop
  | _, [] => True
  | s, sample :: samples => s.Follows sample ∧ Streams lib (s.getImu lib sample) samples

/-- **Run lemma.**  Without a pause the objects agree behind all samples. -/
theorem SameBehind.samples {s t : LidarUndistortion K} (h : s.SameBehind t)
    (lib : AngleLib K Q) {samples : List (ImuSample K Q)} (hs : s.Streams lib samples)
    (ht : t.Streams lib samples) :
    (samples.foldl (LidarUndistortion.getImu lib) s).SameBehind
      (samples.foldl (LidarUndistortion.getImu lib) t) := by
  induction samples generalizing s t with
  | nil => exact h
  | cons sample samples ih => exact ih (h.getImu lib hs.1 ht.1) hs.2 ht.2

end LidarUndistortion

/-! ## The property -/

/-- **When a new slot does not depend on the one it overwrites.**

For any two objects that agree on the pointers and on the slot before, and for every
sample, the new slot is the same in both whatever the slots held if and only if the sample
comes less than a scan period behind the one before, in both.  Of objects with one scan
period, as they are, the new slots are the same if and only if it does so or the integrals
that were there are the same. -/
theorem new_slot_agrees_iff {K Q : Type} [Field K] [LinearOrder K] (lib : AngleLib K Q)
    {s t : LidarUndistortion K} (h : s.SameBehind t) (sample : ImuSample K Q) :
    ((∀ held held' : Slot K,
      ((s.holding held).getImu lib sample).slot s.nextPtr =
        ((t.holding held').getImu lib sample).slot t.nextPtr) ↔
      s.Follows sample ∧ t.Follows sample) ∧
    (s.scanPeriod = t.scanPeriod →
      ((s.getImu lib sample).slot s.nextPtr = (t.getImu lib sample).slot t.nextPtr ↔
        s.Follows sample ∨ (s.slot s.nextPtr).SameIntegrals (t.slot t.nextPtr))) := by
  refine ⟨⟨fun hsame => ?_, fun ⟨hs, ht⟩ held held' => ?_⟩, fun hperiod => ?_⟩
  · have held : Slot K := ⟨0, 0, 0, 0, 0, 0, 0⟩
    exact ⟨LidarUndistortion.follows_of_held lib fun held' => hsame held' held,
      LidarUndistortion.follows_of_held lib fun held' => (hsame held held').symm⟩
  · exact (h.holding held held').slot_getImu lib
      ((LidarUndistortion.follows_holding held).mpr hs)
      ((LidarUndistortion.follows_holding held').mpr ht)
  · have hfollows := h.follows_iff hperiod sample
    by_cases hs : s.Follows sample
    · exact iff_of_true (h.slot_getImu lib hs (hfollows.mp hs)) (.inl hs)
    · have ht := mt hfollows.mpr hs
      rw [LidarUndistortion.slot_getImu_of_not_follows lib hs,
        LidarUndistortion.slot_getImu_of_not_follows lib ht, Slot.resampled_eq_iff,
        or_iff_right hs]

/-! ### The first sample -/

/-- A constructed object in a memory of zeros. -/
def zeroObject : LidarUndistortion ℚ :=
  .fresh (1 / 10) zeroMemory

/-- The same in a memory with another shift in the first slot. -/
def shiftedObject : LidarUndistortion ℚ :=
  zeroObject.holding ⟨0, 0, 0, 0, fun _ => 1, 0, 0⟩

theorem sameBehind_shiftedObject : zeroObject.SameBehind shiftedObject where
  front := rfl
  last := rfl
  iter := rfl
  back := (LidarUndistortion.slot_holding_back zeroObject _).symm

theorem new_slot_agrees_shifted :
    ((∀ held held' : Slot ℚ,
      ((zeroObject.holding held).getImu axesLib (restingSample (1 / 100))).slot
          zeroObject.nextPtr =
        ((shiftedObject.holding held').getImu axesLib (restingSample (1 / 100))).slot
          shiftedObject.nextPtr) ↔
      zeroObject.Follows (restingSample (1 / 100)) ∧
        shiftedObject.Follows (restingSample (1 / 100))) ∧
    (zeroObject.scanPeriod = shiftedObject.scanPeriod →
      ((zeroObject.getImu axesLib (restingSample (1 / 100))).slot zeroObject.nextPtr =
          (shiftedObject.getImu axesLib (restingSample (1 / 100))).slot shiftedObject.nextPtr ↔
        zeroObject.Follows (restingSample (1 / 100)) ∨
          (zeroObject.slot zeroObject.nextPtr).SameIntegrals
            (shiftedObject.slot shiftedObject.nextPtr))) :=
  new_slot_agrees_iff axesLib sameBehind_shiftedObject (restingSample (1 / 100))

/-- A first sample one second behind the time that the memory holds keeps the shift that
the memory holds. -/
theorem paused_sample_keeps_shift :
    ¬ ∀ s t : LidarUndistortion ℚ, s.SameBehind t → ∀ sample : ImuSample ℚ Unit,
      (s.getImu axesLib sample).slot s.nextPtr = (t.getImu axesLib sample).slot t.nextPtr := by
  intro h
  have hslot := h zeroObject shiftedObject sameBehind_shiftedObject (restingSample 1)
  have hshift := congrArg (fun slot => slot.imuShift .x) hslot
  exact absurd hshift (by decide +kernel)

end RoboRacer.Slam
