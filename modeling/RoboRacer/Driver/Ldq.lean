/-
  Driver/Ldq.lean --- the point cloud queue of a LiDAR (`comm/ldq.h`, `comm/ldq.cpp`).

  A queue is a heap block of slots and two free-running 32-bit indices.  A slot
  access outside a live block is undefined behaviour in the source and `none`
  here; the operations that can run into it return `Option`.

  `QueuePushAny` and `QueuePop` are given in the pieces their callers can be
  interrupted between: the slot access and the index update.
-/
import RoboRacer.Driver.Types
import RoboRacer.Foundation.BoundedFifo

set_option autoImplicit false

namespace RoboRacer.Driver

open RoboRacer.Foundation

variable {R : Type}

/-! ## The queue and its operations -/

/-- What a `StoragePacket *` may point to. -/
inductive StoragePtr (R : Type) where
  /-- The null pointer. -/
  | null
  /-- A block from `new StoragePacket[n]` that was not deleted. -/
  | live (slots : List (StoragePacket R))
  /-- A block that was deleted. -/
  | dangling

/-- `LidarDataQueue`. -/
structure LidarDataQueue (R : Type) where
  storagePacket : StoragePtr R
  rdIdx : UInt32
  wrIdx : UInt32
  mask : UInt32
  size : UInt32

/-- The zeroed queue of a fresh `LidarDevice`. -/
def LidarDataQueue.zeroed : LidarDataQueue R :=
  { storagePacket := .null, rdIdx := 0, wrIdx := 0, mask := 0, size := 0 }

def isPowerOf2 (size : UInt32) : Bool :=
  size != 0 && (size &&& (size - 1)) == 0

/-- The loop of `RoundupPowerOf2` from bit `i` on, with `remaining` iterations
left; `power2Val` is what the last one computed. -/
def roundupPowerOf2Loop (size : UInt32) : Nat → Nat → UInt32 → UInt32
  | 0, _, power2Val => power2Val
  | remaining + 1, i, _ =>
      if size ≤ (1 : UInt32) <<< UInt32.ofNat i then (1 : UInt32) <<< UInt32.ofNat i
      else roundupPowerOf2Loop size remaining (i + 1) ((1 : UInt32) <<< UInt32.ofNat i)

def roundupPowerOf2 (size : UInt32) : UInt32 :=
  roundupPowerOf2Loop size 32 0 0

/-- `delete[]`: releasing a released block is undefined. -/
def StoragePtr.release : StoragePtr R → Option (StoragePtr R)
  | .null => some .null
  | .live _ => some .dangling
  | .dangling => none

def initQueue (queue : LidarDataQueue R) (queueSize : UInt32) : Option (LidarDataQueue R) :=
  let size := if isPowerOf2 queueSize then queueSize else roundupPowerOf2 queueSize
  match queue.storagePacket.release with
  | none => none
  | some _ => some
      { storagePacket := .live (List.replicate size.toNat .fresh)
        rdIdx := 0
        wrIdx := 0
        mask := size - 1
        size := size }

def queueUsedSize (queue : LidarDataQueue R) : UInt32 :=
  queue.wrIdx - queue.rdIdx

def queueIsFull (queue : LidarDataQueue R) : Bool :=
  decide (queue.wrIdx - queue.rdIdx > queue.mask)

def queueIsEmpty (queue : LidarDataQueue R) : Bool :=
  queue.rdIdx == queue.wrIdx

/-- `queue->storage_packet[i]`, read. -/
def readSlot (queue : LidarDataQueue R) (i : UInt32) : Option (StoragePacket R) :=
  match queue.storagePacket with
  | .live slots => slots[i.toNat]?
  | _ => none

/-- `queue->storage_packet[i]`, overwritten. -/
def writeSlot (queue : LidarDataQueue R) (i : UInt32) (packet : StoragePacket R) :
    Option (LidarDataQueue R) :=
  match queue.storagePacket with
  | .live slots =>
      if i.toNat < slots.length then
        some { queue with storagePacket := .live (slots.set i.toNat packet) }
      else none
  | _ => none

/-- The slot access of `QueuePushAny`: the three fields of the slot at
`wr_idx & mask` are overwritten. -/
def queuePushSlot (queue : LidarDataQueue R) (lidarPointData : PointPacket R)
    (baseTime : UInt64) : Option (LidarDataQueue R) :=
  writeSlot queue (queue.wrIdx &&& queue.mask) (lidarPointData.stored baseTime)

/-- The index update of `QueuePushAny`. -/
def queuePushUpdate (queue : LidarDataQueue R) : LidarDataQueue R :=
  { queue with wrIdx := queue.wrIdx + 1 }

def queuePushAny (queue : LidarDataQueue R) (lidarPointData : PointPacket R)
    (baseTime : UInt64) : Option (LidarDataQueue R) :=
  (queuePushSlot queue lidarPointData baseTime).map queuePushUpdate

/-- The slot access of `QueuePrePop`: a copy of the slot at `rd_idx & mask`.
The `memcpy` needs `points_num` points in the slot. -/
def queueCopySlot (queue : LidarDataQueue R) : Option (StoragePacket R) :=
  match readSlot queue (queue.rdIdx &&& queue.mask) with
  | none => none
  | some slot =>
      if slot.pointsNum.toNat ≤ slot.points.length then
        some { slot with points := slot.points.take slot.pointsNum.toNat }
      else none

def queuePopUpdate (queue : LidarDataQueue R) : LidarDataQueue R :=
  { queue with rdIdx := queue.rdIdx + 1 }

/-! ## Ready queues -/

/-- The queue owns a live block of `2 ^ k` slots and its size fields say so. -/
structure LidarDataQueue.Ready (queue : LidarDataQueue R) (k : Nat)
    (slots : List (StoragePacket R)) : Prop where
  width : k ≤ 31
  storage : queue.storagePacket = .live slots
  length : slots.length = 2 ^ k
  size : queue.size = UInt32.ofNat (2 ^ k)
  mask : queue.mask = UInt32.ofNat (2 ^ k - 1)

theorem two_pow_le_of_width {k : Nat} (h : k ≤ 31) : 2 ^ k ≤ 2147483648 := by
  have hpow : 2 ^ k ≤ 2 ^ 31 := Nat.pow_le_pow_right (by decide) h
  simpa using hpow

namespace LidarDataQueue.Ready

variable {queue : LidarDataQueue R} {k : Nat} {slots : List (StoragePacket R)}

theorem length_le (h : queue.Ready k slots) : slots.length ≤ 2147483648 := by
  rw [h.length]
  exact two_pow_le_of_width h.width

theorem length_pos (h : queue.Ready k slots) : 0 < slots.length := by
  rw [h.length]
  exact Nat.two_pow_pos k

theorem toNat_size (h : queue.Ready k slots) : queue.size.toNat = slots.length := by
  have hle := h.length_le
  rw [h.size, h.length, UInt32.toNat_ofNat', Nat.mod_eq_of_lt]
  rw [h.length] at hle
  omega

theorem toNat_mask (h : queue.Ready k slots) : queue.mask.toNat = slots.length - 1 := by
  have hle := h.length_le
  rw [h.mask, h.length, UInt32.toNat_ofNat', Nat.mod_eq_of_lt]
  rw [h.length] at hle
  omega

/-- Masking an index is reducing it modulo the number of slots. -/
theorem toNat_and_mask (h : queue.Ready k slots) (n : Nat) :
    (UInt32.ofNat n &&& queue.mask).toNat = n % slots.length := by
  have hdvd : 2 ^ k ∣ 2 ^ 32 := Nat.pow_dvd_pow 2 (by have := h.width; omega)
  rw [UInt32.toNat_and, h.toNat_mask, h.length, Nat.and_two_pow_sub_one_eq_mod,
    UInt32.toNat_ofNat', Nat.mod_mod_of_dvd _ hdvd]

theorem readSlot_eq (h : queue.Ready k slots) (n : Nat) :
    readSlot queue (UInt32.ofNat n &&& queue.mask) = slots[n % slots.length]? := by
  unfold readSlot
  rw [h.storage]
  simp only [h.toNat_and_mask]

theorem writeSlot_eq (h : queue.Ready k slots) (n : Nat) (packet : StoragePacket R) :
    writeSlot queue (UInt32.ofNat n &&& queue.mask) packet =
      some { queue with storagePacket := .live (slots.set (n % slots.length) packet) } := by
  unfold writeSlot
  rw [h.storage]
  simp only [h.toNat_and_mask, Nat.mod_lt n h.length_pos, if_true]

end LidarDataQueue.Ready

/-! ## The counters

`rd_idx` and `wr_idx` are the numbers `r` and `w` of completed pops and pushes,
modulo `2 ^ 32`. -/

section Counters

variable {queue : LidarDataQueue R} {r w : Nat}

theorem queueUsedSize_eq (hr : queue.rdIdx = UInt32.ofNat r) (hw : queue.wrIdx = UInt32.ofNat w)
    (hle : r ≤ w) (hlt : w < r + 2 ^ 32) : (queueUsedSize queue).toNat = w - r := by
  unfold queueUsedSize
  rw [hr, hw, UInt32.toNat_sub, UInt32.toNat_ofNat', UInt32.toNat_ofNat']
  exact Counter.sub_mod hle hlt

theorem queueIsEmpty_iff (hr : queue.rdIdx = UInt32.ofNat r) (hw : queue.wrIdx = UInt32.ofNat w)
    (hle : r ≤ w) (hlt : w < r + 2 ^ 32) : queueIsEmpty queue = true ↔ r = w := by
  unfold queueIsEmpty
  rw [beq_iff_eq, hr, hw, ← UInt32.toNat_inj, UInt32.toNat_ofNat', UInt32.toNat_ofNat']
  exact Counter.mod_eq_iff hle hlt

/-- The fullness test of a ready queue: exactly as many pushes ahead as slots. -/
theorem queueIsFull_iff {k : Nat} {slots : List (StoragePacket R)} (hready : queue.Ready k slots)
    (hr : queue.rdIdx = UInt32.ofNat r) (hw : queue.wrIdx = UInt32.ofNat w)
    (hle : r ≤ w) (hbound : w ≤ r + slots.length) :
    queueIsFull queue = true ↔ w = r + slots.length := by
  have hlen := hready.length_le
  have hpos := hready.length_pos
  have hused : (queue.wrIdx - queue.rdIdx).toNat = w - r :=
    queueUsedSize_eq hr hw hle (by omega)
  unfold queueIsFull
  rw [decide_eq_true_iff, gt_iff_lt, UInt32.lt_iff_toNat_lt, hused, hready.toNat_mask]
  omega

end Counters

/-! ## Initialisation -/

theorem toNat_one_shiftLeft {i : Nat} (h : i < 32) :
    ((1 : UInt32) <<< UInt32.ofNat i).toNat = 2 ^ i := by
  have hpow : 2 ^ i < 2 ^ 32 := Nat.pow_lt_pow_right (by decide) h
  rw [UInt32.toNat_shiftLeft, UInt32.toNat_ofNat', Nat.mod_eq_of_lt (by omega : i < 2 ^ 32),
    Nat.mod_eq_of_lt h, Nat.shiftLeft_eq]
  simpa using Nat.mod_eq_of_lt hpow

/-- The loop stops at the least power of two from bit `i` on that is large enough. -/
theorem roundupPowerOf2Loop_spec {size : UInt32} (hsize : size.toNat ≤ 2 ^ 31) :
    ∀ (remaining i : Nat) (power2Val : UInt32), i + remaining = 32 → i < 32 →
      (∀ j < i, 2 ^ j < size.toNat) →
      ∃ k, k ≤ 31 ∧ (roundupPowerOf2Loop size remaining i power2Val).toNat = 2 ^ k ∧
        size.toNat ≤ 2 ^ k ∧ ∀ j < k, 2 ^ j < size.toNat := by
  intro remaining
  induction remaining with
  | zero => intro i _ hsum hi _; omega
  | succ remaining ih =>
    intro i _ hsum hi hsmall
    have hval := toNat_one_shiftLeft hi
    unfold roundupPowerOf2Loop
    split
    · rename_i hle
      rw [UInt32.le_iff_toNat_le, hval] at hle
      exact ⟨i, by omega, hval, hle, hsmall⟩
    · rename_i hgt
      rw [UInt32.le_iff_toNat_le, hval] at hgt
      have hi31 : i ≠ 31 := by
        rintro rfl
        exact hgt hsize
      apply ih (i + 1) _ (by omega) (by omega)
      intro j hj
      rcases Nat.lt_succ_iff_lt_or_eq.mp hj with hlt | rfl
      · exact hsmall j hlt
      · exact Nat.lt_of_not_le hgt

theorem isPowerOf2_spec {size : UInt32} (h : isPowerOf2 size = true) :
    ∃ k, k ≤ 31 ∧ size.toNat = 2 ^ k := by
  unfold isPowerOf2 at h
  rw [Bool.and_eq_true, bne_iff_ne, beq_iff_eq] at h
  obtain ⟨hne, hand⟩ := h
  have hpos : size.toNat ≠ 0 := by
    intro hzero
    exact hne (UInt32.toNat_inj.mp (by simpa using hzero))
  have hone : (1 : UInt32) ≤ size := by
    rw [UInt32.le_iff_toNat_le]
    exact Nat.pos_of_ne_zero hpos
  have hnat : size.toNat &&& (size.toNat - 1) = 0 := by
    have hzero := congrArg UInt32.toNat hand
    rw [UInt32.toNat_and, UInt32.toNat_sub_of_le _ _ hone] at hzero
    simpa using hzero
  obtain ⟨k, hk⟩ := (Nat.and_sub_one_eq_zero_iff_isPowerOfTwo hpos).mp hnat
  refine ⟨k, ?_, hk⟩
  have hlt : 2 ^ k < 2 ^ 32 := hk ▸ size.toNat_lt
  have := (Nat.pow_lt_pow_iff_right (by decide : 1 < 2)).mp hlt
  omega

/-- `InitQueue` on a requested size from 1 to `2 ^ 31` gives an empty ready queue
whose size is the least power of two that is not smaller. -/
theorem initQueue_spec {queue queue' : LidarDataQueue R} {queueSize : UInt32}
    (hpos : 1 ≤ queueSize.toNat) (hle : queueSize.toNat ≤ 2 ^ 31)
    (h : initQueue queue queueSize = some queue') :
    ∃ k slots, queue'.Ready k slots ∧ queueSize.toNat ≤ 2 ^ k ∧ 2 ^ k < 2 * queueSize.toNat ∧
      queue'.rdIdx = 0 ∧ queue'.wrIdx = 0 := by
  have hround : ∃ k, k ≤ 31 ∧
      (if isPowerOf2 queueSize then queueSize else roundupPowerOf2 queueSize).toNat = 2 ^ k ∧
      queueSize.toNat ≤ 2 ^ k ∧ 2 ^ k < 2 * queueSize.toNat := by
    split
    · rename_i hpow
      obtain ⟨k, hk, heq⟩ := isPowerOf2_spec hpow
      exact ⟨k, hk, heq, heq.le, by omega⟩
    · obtain ⟨k, hk, heq, hge, hless⟩ :=
        roundupPowerOf2Loop_spec hle 32 0 0 rfl (by decide) (by omega)
      refine ⟨k, hk, heq, hge, ?_⟩
      cases k with
      | zero => omega
      | succ k =>
        have := hless k (Nat.lt_succ_self k)
        rw [Nat.pow_succ]
        omega
  obtain ⟨k, hk, hsize, hge, htight⟩ := hround
  unfold initQueue at h
  simp only at h
  generalize (if isPowerOf2 queueSize then queueSize else roundupPowerOf2 queueSize) = size at *
  split at h
  · cases h
  · cases h
    have hpow := two_pow_le_of_width hk
    have hsz : size = UInt32.ofNat (2 ^ k) := by rw [← hsize, UInt32.ofNat_toNat]
    refine ⟨k, List.replicate size.toNat .fresh, ⟨hk, rfl, by simp [hsize], hsz, ?_⟩,
      hge, htight, rfl, rfl⟩
    have hone : (1 : UInt32) ≤ size := by
      rw [UInt32.le_iff_toNat_le, hsize]
      exact Nat.two_pow_pos k
    rw [← UInt32.toNat_inj]
    simp only
    rw [UInt32.toNat_sub_of_le _ _ hone, hsize, UInt32.toNat_ofNat', Nat.mod_eq_of_lt (by omega)]
    rfl

end RoboRacer.Driver
