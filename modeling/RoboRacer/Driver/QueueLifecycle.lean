/-
  Driver/QueueLifecycle.lean --- the life of the storage of a point cloud queue
  (`comm/ldq.cpp`, `lds.cpp`).

  `PushLidarData` decides by the pointer alone whether a queue is ready.  `InitQueue`
  gives it a block, `DeInitQueue` deletes the block and clears the size fields, and the
  pointer keeps its value.  Here the operations come one after another, in any order and
  on the queues of all LiDARs, from static storage on.

      QueueOp.apply         one operation on one queue; a slot access outside a live
                            block, or a second release of a block, is `none`
      LdsLidar.lifecycle    one operation of the data source
      queue_lifecycle_iff   when every state on the way is uninitialised or ready

  The semaphore that a push signals is left out.
-/
import RoboRacer.Driver.LidarCallback
import RoboRacer.Driver.QueuePolling

set_option autoImplicit false

namespace RoboRacer.Driver

open RoboRacer.Foundation

variable {R : Type}

/-! ## The operations -/

/-- `ResetQueue`. -/
def resetQueue (queue : LidarDataQueue R) : LidarDataQueue R :=
  { queue with rdIdx := 0, wrIdx := 0 }

/-- `PushLidarData`, on the queue of the LiDAR; `lidarData` may be the null pointer. -/
def pushLidarData (publishFreq : ℚ) (queue : LidarDataQueue R)
    (lidarData : Option (PointPacket R)) (baseTime : UInt64) : Option (LidarDataQueue R) :=
  match lidarData with
  | none => some queue
  | some lidarData => do
    let queue ←
      if queue.storagePacket.isNull then initQueue queue (calculatePacketQueueSize publishFreq)
      else some queue
    if queueIsFull queue then return queue
    queuePushAny queue lidarData baseTime

/-- The operations on one queue. -/
inductive QueueOp (R : Type) where
  | pushLidarData (lidarData : Option (PointPacket R)) (baseTime : UInt64)
  | queuePop
  | resetQueue
  | deInitQueue
  | initQueue (queueSize : UInt32)

namespace QueueOp

def apply (publishFreq : ℚ) (queue : LidarDataQueue R) : QueueOp R → Option (LidarDataQueue R)
  | .pushLidarData lidarData baseTime =>
    Driver.pushLidarData publishFreq queue lidarData baseTime
  | .queuePop => (Driver.queuePop queue).map Prod.fst
  | .resetQueue => some (Driver.resetQueue queue)
  | .deInitQueue => Driver.deInitQueue queue
  | .initQueue queueSize => Driver.initQueue queue queueSize

/-- The operation leaves the queue with storage, whatever it had before. -/
def initialises : QueueOp R → Bool
  | .pushLidarData lidarData _ => lidarData.isSome
  | .initQueue _ => true
  | _ => false

/-- The operation deletes the storage, if there is any. -/
def releases : QueueOp R → Bool
  | .deInitQueue => true
  | _ => false

end QueueOp

/-- The operations on the queues of a data source. -/
inductive LifecycleOp (R : Type) where
  | queue (i : Fin kMaxSourceLidar) (op : QueueOp R)
  | resetLidar (i : Fin kMaxSourceLidar) (dataSrc : UInt8)
  | resetLds (dataSrc : UInt8)

/-- What an operation is on the queue of LiDAR `i`. -/
def LifecycleOp.on (i : Fin kMaxSourceLidar) : LifecycleOp R → Option (QueueOp R)
  | .queue j op => if j = i then some op else none
  | .resetLidar j _ => if j = i then some .deInitQueue else none
  | .resetLds _ => some .deInitQueue

/-- The operations on the queue of LiDAR `i`. -/
def opsOn (i : Fin kMaxSourceLidar) (ops : List (LifecycleOp R)) : List (QueueOp R) :=
  ops.filterMap (LifecycleOp.on i)

namespace LdsLidar

/-- One operation. -/
def lifecycle (publishFreq : ℚ) (lds : LdsLidar R) : LifecycleOp R → Option (LdsLidar R)
  | .queue i op => do
    let data ← op.apply publishFreq (lds.lidars i).data
    return lds.setDevice i { lds.lidars i with data := data }
  | .resetLidar i dataSrc => do
    let lidar ← Driver.resetLidar (lds.lidars i) dataSrc
    return lds.setDevice i lidar
  | .resetLds dataSrc => lds.resetLds dataSrc

/-- A sequence of operations. -/
def lifecycles (publishFreq : ℚ) (lds : LdsLidar R) (ops : List (LifecycleOp R)) :
    Option (LdsLidar R) :=
  ops.foldlM (lifecycle publishFreq) lds

end LdsLidar

/-- The queue is as static storage leaves it: no block, and no size. -/
def LidarDataQueue.Uninitialised (queue : LidarDataQueue R) : Prop :=
  queue.storagePacket = .null ∧ queue.size = 0

/-- The two states that a queue may be in between two operations. -/
def LidarDataQueue.Valid (queue : LidarDataQueue R) : Prop :=
  queue.Uninitialised ∨ ∃ k slots, queue.Ready k slots

/-- The storage of a valid queue can be released. -/
theorem LidarDataQueue.Valid.isSome_release {queue : LidarDataQueue R} (h : queue.Valid) :
    queue.storagePacket.release.isSome := by
  rcases h with ⟨hnull, -⟩ | ⟨k, slots, hready⟩
  · rw [hnull]
    rfl
  · rw [hready.storage]
    rfl

/-! ## `InitQueue`, for every size -/

/-- Beyond `2 ^ 31` the loop of `RoundupPowerOf2` ends with its last power. -/
theorem roundupPowerOf2Loop_of_large {size : UInt32} (hsize : 2 ^ 31 < size.toNat) :
    ∀ (remaining i : Nat) (power2Val : UInt32), i + remaining = 32 → 0 < remaining →
      (roundupPowerOf2Loop size remaining i power2Val).toNat = 2 ^ 31 := by
  intro remaining
  induction remaining with
  | zero => intro i _ _ hpos; exact absurd hpos (Nat.lt_irrefl 0)
  | succ remaining ih =>
    intro i _ hsum _
    have hval := toNat_one_shiftLeft (i := i) (by omega)
    have hpow : 2 ^ i ≤ 2 ^ 31 := Nat.pow_le_pow_right (by decide) (by omega)
    have hgt : ¬ size ≤ (1 : UInt32) <<< UInt32.ofNat i := by
      rw [UInt32.le_iff_toNat_le, hval]
      omega
    rw [roundupPowerOf2Loop, if_neg hgt]
    cases remaining with
    | zero =>
      obtain rfl : i = 31 := by omega
      exact hval
    | succ remaining => exact ih (i + 1) _ (by omega) (Nat.succ_pos _)

/-- Every requested size stands for one from 1 to `2 ^ 31`. -/
theorem exists_initQueue_eq (queueSize : UInt32) :
    ∃ size : UInt32, 1 ≤ size.toNat ∧ size.toNat ≤ 2 ^ 31 ∧
      ∀ queue : LidarDataQueue R, initQueue queue queueSize = initQueue queue size := by
  by_cases hlarge : 2 ^ 31 < queueSize.toNat
  · have hnot : isPowerOf2 queueSize = false := by
      rw [← Bool.not_eq_true]
      intro hpow
      obtain ⟨k, hk, heq⟩ := isPowerOf2_spec hpow
      have hpow' : 2 ^ k ≤ 2 ^ 31 := Nat.pow_le_pow_right (by decide) hk
      omega
    have hround : roundupPowerOf2 queueSize = 2147483648 :=
      UInt32.toNat_inj.mp (roundupPowerOf2Loop_of_large hlarge 32 0 0 rfl (by decide))
    refine ⟨2147483648, by decide, by decide, fun queue => ?_⟩
    rw [initQueue, hnot, if_neg Bool.false_ne_true, hround]
    rfl
  · rcases Nat.eq_zero_or_pos queueSize.toNat with hzero | hpos
    · obtain rfl : queueSize = 0 := UInt32.toNat_inj.mp hzero
      exact ⟨1, by decide, by decide, fun queue => rfl⟩
    · exact ⟨queueSize, hpos, by omega, fun queue => rfl⟩

/-- `InitQueue` gives a ready queue that holds nothing. -/
theorem initQueue_holds {queue queue' : LidarDataQueue R} {queueSize : UInt32}
    (h : initQueue queue queueSize = some queue') : queue'.Holds [] := by
  obtain ⟨size, hpos, hle, heq⟩ := exists_initQueue_eq (R := R) queueSize
  rw [heq] at h
  obtain ⟨k, slots, hready, -, -, hrd, hwr⟩ := initQueue_spec hpos hle h
  exact ⟨k, slots, 0, hready, hrd, hwr, Nat.zero_le _, Ring.Holds.nil slots 0,
    List.forall_mem_nil _⟩

/-- `InitQueue` fails only on a block that is gone. -/
theorem isSome_initQueue {queue : LidarDataQueue R} (h : queue.storagePacket.release.isSome)
    (queueSize : UInt32) : (initQueue queue queueSize).isSome := by
  obtain ⟨released, hreleased⟩ := Option.isSome_iff_exists.mp h
  rw [initQueue, hreleased]
  rfl

/-! ## What an operation does to a queue -/

/-- Where a queue is in its life: nothing has initialised it, or it is ready. -/
def LidarDataQueue.Stage (queue : LidarDataQueue R) (initialised : Bool) : Prop :=
  if initialised then ∃ held, queue.Holds held else queue = .zeroed

theorem LidarDataQueue.Stage.valid {queue : LidarDataQueue R} {initialised : Bool}
    (h : queue.Stage initialised) : queue.Valid := by
  cases initialised with
  | false =>
    have hzeroed : queue = .zeroed := h
    rw [hzeroed]
    exact .inl ⟨rfl, rfl⟩
  | true =>
    obtain ⟨held, k, slots, popped, hready, -⟩ := h
    exact .inr ⟨k, slots, hready⟩

/-- A push into a queue that is not full. -/
theorem LidarDataQueue.Holds.push {queue : LidarDataQueue R} {held : List (StoragePacket R)}
    (h : queue.Holds held) (hroom : queueIsFull queue = false) (lidarData : PointPacket R)
    (baseTime : UInt64) :
    ∃ queue', queuePushAny queue lidarData baseTime = some queue' ∧
      queue'.Holds (held ++ [lidarData.stored baseTime]) := by
  obtain ⟨k, slots, popped, hready, hrd, hwr, hle, hwindow, hpoints⟩ := h
  have hlt : held.length < slots.length := by
    have hnot : ¬ queueIsFull queue = true := by simp [hroom]
    rw [queueIsFull_iff hready hrd hwr (by omega) (by omega)] at hnot
    omega
  have hslot : queuePushSlot queue lidarData baseTime = some
      { queue with
        storagePacket := .live (slots.set ((popped + held.length) % slots.length)
          (lidarData.stored baseTime)) } := by
    have hwrite := hready.writeSlot_eq (popped + held.length) (lidarData.stored baseTime)
    rw [← hwr] at hwrite
    exact hwrite
  refine ⟨_, by rw [queuePushAny, hslot]; rfl, ?_⟩
  have hwindow' := hwindow.set (lidarData.stored baseTime) hlt
  refine ⟨k, slots.set ((popped + held.length) % slots.length) (lidarData.stored baseTime),
    popped, ⟨hready.width, rfl, ?_, hready.size, hready.mask⟩, hrd, ?_, ?_, hwindow'.snoc ?_, ?_⟩
  · rw [List.length_set]
    exact hready.length
  · change queue.wrIdx + 1 = _
    rw [hwr, List.length_append, List.length_singleton, ← Nat.add_assoc,
      UInt32.ofNat_add (popped + held.length) 1]
    rfl
  · rw [List.length_append, List.length_singleton, List.length_set]
    exact hlt
  · rw [List.length_set, List.getElem?_set_self]
    exact Nat.mod_lt _ hready.length_pos
  · intro packet hmem
    rcases List.mem_append.mp hmem with hold | hnew
    · exact hpoints packet hold
    · obtain rfl := List.mem_singleton.mp hnew
      exact lidarData.length_payload

/-- `ResetQueue` forgets what a ready queue holds. -/
theorem LidarDataQueue.Holds.reset {queue : LidarDataQueue R} {held : List (StoragePacket R)}
    (h : queue.Holds held) : (resetQueue queue).Holds [] := by
  obtain ⟨k, slots, popped, hready, -⟩ := h
  exact ⟨k, slots, 0, ⟨hready.width, hready.storage, hready.length, hready.size, hready.mask⟩,
    rfl, rfl, Nat.zero_le _, Ring.Holds.nil slots 0, List.forall_mem_nil _⟩

/-- A push on a ready queue leaves it ready: a full queue drops the packet. -/
theorem LidarDataQueue.Holds.pushLidarData {queue : LidarDataQueue R}
    {held : List (StoragePacket R)} (h : queue.Holds held) (publishFreq : ℚ)
    (lidarData : Option (PointPacket R)) (baseTime : UInt64) :
    ∃ queue' held', pushLidarData publishFreq queue lidarData baseTime = some queue' ∧
      queue'.Holds held' := by
  cases lidarData with
  | none => exact ⟨queue, held, rfl, h⟩
  | some lidarData =>
    have hstep : Driver.pushLidarData publishFreq queue (some lidarData) baseTime =
        if queueIsFull queue then some queue else queuePushAny queue lidarData baseTime := by
      rw [Driver.pushLidarData, h.isNull]
      rfl
    cases hfull : queueIsFull queue with
    | true => exact ⟨queue, held, by rw [hstep, hfull]; rfl, h⟩
    | false =>
      obtain ⟨queue', hpush, hholds⟩ := h.push hfull lidarData baseTime
      exact ⟨queue', _, by rw [hstep, hfull, ← hpush]; rfl, hholds⟩

/-- A queue that nothing has initialised has nothing to release. -/
theorem exists_initQueue_zeroed (queueSize : UInt32) :
    ∃ queue, initQueue (.zeroed : LidarDataQueue R) queueSize = some queue := by
  have hnull : (LidarDataQueue.zeroed : LidarDataQueue R).storagePacket.release.isSome = true := rfl
  exact Option.isSome_iff_exists.mp (isSome_initQueue hnull queueSize)

/-- The first push initialises the queue before it touches a slot. -/
theorem pushLidarData_zeroed (publishFreq : ℚ) (lidarData : PointPacket R) (baseTime : UInt64) :
    ∃ queue' held, pushLidarData publishFreq .zeroed (some lidarData) baseTime = some queue' ∧
      queue'.Holds held := by
  obtain ⟨queue, hinit⟩ := exists_initQueue_zeroed (R := R) (calculatePacketQueueSize publishFreq)
  obtain ⟨queue', held', hpush, hholds⟩ :=
    (initQueue_holds hinit).pushLidarData publishFreq (some lidarData) baseTime
  refine ⟨queue', held', ?_, hholds⟩
  have hrest : (if queueIsFull queue then some queue
      else queuePushAny queue lidarData baseTime) = some queue' := by
    rw [← hpush, pushLidarData, (initQueue_holds hinit).isNull]
    rfl
  change ((initQueue .zeroed (calculatePacketQueueSize publishFreq)).bind fun queue =>
    if queueIsFull queue then some queue else queuePushAny queue lidarData baseTime) = _
  rw [hinit, Option.bind_some, hrest]

/-- Every operation on a queue that nothing has initialised. -/
theorem QueueOp.apply_zeroed (publishFreq : ℚ) (op : QueueOp R) :
    ∃ queue', op.apply publishFreq .zeroed = some queue' ∧ queue'.Stage op.initialises := by
  cases op with
  | pushLidarData lidarData baseTime =>
    cases lidarData with
    | none => exact ⟨.zeroed, rfl, rfl⟩
    | some lidarData =>
      obtain ⟨queue', held, hpush, hholds⟩ := pushLidarData_zeroed publishFreq lidarData baseTime
      exact ⟨queue', hpush, held, hholds⟩
  | queuePop => exact ⟨.zeroed, rfl, rfl⟩
  | resetQueue => exact ⟨.zeroed, rfl, rfl⟩
  | deInitQueue => exact ⟨.zeroed, rfl, rfl⟩
  | initQueue queueSize =>
    obtain ⟨queue', hinit⟩ := exists_initQueue_zeroed (R := R) queueSize
    exact ⟨queue', hinit, [], initQueue_holds hinit⟩

/-- Every operation on a ready queue, except one that releases it. -/
theorem QueueOp.apply_holds {queue : LidarDataQueue R} {held : List (StoragePacket R)}
    (h : queue.Holds held) (publishFreq : ℚ) {op : QueueOp R} (hop : op.releases = false) :
    ∃ queue' held', op.apply publishFreq queue = some queue' ∧ queue'.Holds held' := by
  cases op with
  | pushLidarData lidarData baseTime => exact h.pushLidarData publishFreq lidarData baseTime
  | queuePop =>
    cases held with
    | nil =>
      have hempty : Driver.queuePop queue = some (queue, none) := by
        rw [Driver.queuePop, queuePrePop, h.isEmpty_iff.mpr rfl]
        rfl
      exact ⟨queue, [], congrArg (Option.map Prod.fst) hempty, h⟩
    | cons pkg rest =>
      obtain ⟨hpop, hrest⟩ := h.pop
      exact ⟨_, rest, congrArg (Option.map Prod.fst) hpop, hrest⟩
  | resetQueue => exact ⟨_, [], rfl, h.reset⟩
  | deInitQueue => cases hop
  | initQueue queueSize =>
    obtain ⟨k, slots, popped, hready, -⟩ := h
    have hrelease : queue.storagePacket.release.isSome := by
      rw [hready.storage]
      rfl
    obtain ⟨queue', hinit⟩ := Option.isSome_iff_exists.mp (isSome_initQueue hrelease queueSize)
    exact ⟨queue', [], hinit, initQueue_holds hinit⟩

/-- A ready queue that is released is in neither state: the pointer keeps its value. -/
theorem QueueOp.not_valid_of_releases {queue queue' : LidarDataQueue R}
    {held : List (StoragePacket R)} (h : queue.Holds held) {publishFreq : ℚ} {op : QueueOp R}
    (hop : op.releases = true) (happly : op.apply publishFreq queue = some queue') :
    ¬ queue'.Valid := by
  obtain ⟨k, slots, popped, hready, -⟩ := h
  cases op with
  | deInitQueue =>
    have hdangling : queue'.storagePacket = .dangling := by
      change Driver.deInitQueue queue = some queue' at happly
      rw [Driver.deInitQueue, hready.storage] at happly
      cases happly
      rfl
    intro hvalid
    have hrelease := hvalid.isSome_release
    rw [hdangling] at hrelease
    cases hrelease
  | pushLidarData lidarData baseTime => cases hop
  | queuePop => cases hop
  | resetQueue => cases hop
  | initQueue queueSize => cases hop

/-- An operation that does not release a ready queue takes a queue to its next stage. -/
theorem LidarDataQueue.Stage.apply {queue : LidarDataQueue R} {initialised : Bool}
    (h : queue.Stage initialised) (publishFreq : ℚ) {op : QueueOp R}
    (hop : initialised = true → op.releases = false) :
    ∃ queue', op.apply publishFreq queue = some queue' ∧
      queue'.Stage (initialised || op.initialises) := by
  cases initialised with
  | false =>
    obtain rfl : queue = .zeroed := h
    exact QueueOp.apply_zeroed publishFreq op
  | true =>
    obtain ⟨held, hholds⟩ := h
    obtain ⟨queue', held', happly, hholds'⟩ := QueueOp.apply_holds hholds publishFreq (hop rfl)
    exact ⟨queue', happly, held', hholds'⟩

/-! ## The data source -/

section ResetLds

variable {f : LidarDevice R → Option (LidarDevice R)}

/-- The loop of `ResetLds` treats each device of its range once. -/
theorem foldlM_setDevice {indices : List (Fin kMaxSourceLidar)} (hnodup : indices.Nodup)
    {lds lds' : LdsLidar R}
    (h : indices.foldlM (fun (lds : LdsLidar R) i => do
      let lidar ← f (lds.lidars i)
      return lds.setDevice i lidar) lds = some lds') (i : Fin kMaxSourceLidar) :
    (i ∈ indices → f (lds.lidars i) = some (lds'.lidars i)) ∧
      (i ∉ indices → lds'.lidars i = lds.lidars i) := by
  induction indices generalizing lds with
  | nil =>
    cases h
    exact ⟨fun hmem => absurd hmem List.not_mem_nil, fun _ => rfl⟩
  | cons j indices ih =>
    obtain ⟨hj, hnodup⟩ := List.nodup_cons.mp hnodup
    rw [List.foldlM_cons] at h
    obtain ⟨next, hnext, hrest⟩ := Option.bind_eq_some_iff.mp h
    obtain ⟨lidar, hlidar, hset⟩ := Option.bind_eq_some_iff.mp hnext
    obtain rfl : lds.setDevice j lidar = next := Option.some.inj hset
    obtain ⟨hin, hout⟩ := ih hnodup hrest
    by_cases hij : i = j
    · subst hij
      have hsame : (lds.setDevice i lidar).lidars i = lidar := Function.update_self ..
      refine ⟨fun _ => ?_, fun hnot => absurd List.mem_cons_self hnot⟩
      rw [hlidar, hout hj, hsame]
    · have hother : (lds.setDevice j lidar).lidars i = lds.lidars i :=
        Function.update_of_ne hij ..
      rw [hother] at hin hout
      constructor
      · intro hmem
        exact hin ((List.mem_cons.mp hmem).resolve_left hij)
      · intro hnot
        exact hout fun hmem => hnot (List.mem_cons_of_mem j hmem)

theorem isSome_foldlM_setDevice {indices : List (Fin kMaxSourceLidar)} (hnodup : indices.Nodup)
    {lds : LdsLidar R} (h : ∀ i ∈ indices, (f (lds.lidars i)).isSome) :
    (indices.foldlM (fun (lds : LdsLidar R) i => do
      let lidar ← f (lds.lidars i)
      return lds.setDevice i lidar) lds).isSome := by
  induction indices generalizing lds with
  | nil => rfl
  | cons j indices ih =>
    obtain ⟨hj, hnodup⟩ := List.nodup_cons.mp hnodup
    obtain ⟨lidar, hlidar⟩ := Option.isSome_iff_exists.mp (h j List.mem_cons_self)
    rw [List.foldlM_cons, hlidar]
    refine ih hnodup fun i hmem => ?_
    have hother : (lds.setDevice j lidar).lidars i = lds.lidars i :=
      Function.update_of_ne (ne_of_mem_of_not_mem hmem hj) ..
    rw [hother]
    exact h i (List.mem_cons_of_mem j hmem)

end ResetLds

/-- `ResetLidar` is `DeInitQueue` on the queue. -/
theorem data_resetLidar {lidar lidar' : LidarDevice R} {dataSrc : UInt8}
    (h : resetLidar lidar dataSrc = some lidar') : deInitQueue lidar.data = some lidar'.data := by
  obtain ⟨data, hdata, hlidar⟩ := Option.bind_eq_some_iff.mp h
  cases hlidar
  exact hdata

theorem isSome_resetLidar {lidar : LidarDevice R} (h : (deInitQueue lidar.data).isSome)
    (dataSrc : UInt8) : (resetLidar lidar dataSrc).isSome := by
  obtain ⟨data, hdata⟩ := Option.isSome_iff_exists.mp h
  rw [resetLidar, hdata]
  rfl

namespace LdsLidar

variable {publishFreq : ℚ} {lds lds' : LdsLidar R} {op : LifecycleOp R}

/-- An operation on the device `j`, seen from the queue of LiDAR `i`. -/
theorem data_setDevice {queueOp : QueueOp R} {j : Fin kMaxSourceLidar} {lidar : LidarDevice R}
    (hdata : queueOp.apply publishFreq (lds.lidars j).data = some lidar.data)
    (i : Fin kMaxSourceLidar) :
    (∀ op, (if j = i then some queueOp else none) = some op →
        op.apply publishFreq (lds.lidars i).data =
          some ((lds.setDevice j lidar).lidars i).data) ∧
      ((if j = i then some queueOp else none) = none →
        ((lds.setDevice j lidar).lidars i).data = (lds.lidars i).data) := by
  by_cases hj : j = i
  · subst hj
    have hself : (lds.setDevice j lidar).lidars j = lidar := Function.update_self ..
    rw [if_pos rfl, hself]
    refine ⟨fun op hop => ?_, fun hnone => (by cases hnone)⟩
    cases hop
    exact hdata
  · have hother : (lds.setDevice j lidar).lidars i = lds.lidars i :=
      Function.update_of_ne (Ne.symm hj) ..
    rw [if_neg hj, hother]
    exact ⟨fun _ hsome => (by cases hsome), fun _ => rfl⟩

/-- What an operation does to the queue of LiDAR `i` is its operation on that queue. -/
theorem data_lifecycle (h : lds.lifecycle publishFreq op = some lds') (i : Fin kMaxSourceLidar) :
    (∀ queueOp, op.on i = some queueOp →
        queueOp.apply publishFreq (lds.lidars i).data = some (lds'.lidars i).data) ∧
      (op.on i = none → (lds'.lidars i).data = (lds.lidars i).data) := by
  cases op with
  | queue j op =>
    obtain ⟨data, hdata, hlds⟩ := Option.bind_eq_some_iff.mp h
    cases hlds
    exact data_setDevice hdata i
  | resetLidar j dataSrc =>
    obtain ⟨lidar, hlidar, hlds⟩ := Option.bind_eq_some_iff.mp h
    cases hlds
    have hdata : QueueOp.apply publishFreq (lds.lidars j).data .deInitQueue = some lidar.data :=
      data_resetLidar hlidar
    exact data_setDevice hdata i
  | resetLds dataSrc =>
    refine ⟨?_, fun hnone => (by cases hnone)⟩
    intro queueOp hqueueOp
    cases hqueueOp
    exact data_resetLidar ((foldlM_setDevice (f := fun lidar => Driver.resetLidar lidar dataSrc)
      (List.nodup_finRange _) h i).1 (List.mem_finRange i))

/-- An operation succeeds when it does on every queue. -/
theorem isSome_lifecycle (h : ∀ i queueOp, op.on i = some queueOp →
    (queueOp.apply publishFreq (lds.lidars i).data).isSome) :
    (lds.lifecycle publishFreq op).isSome := by
  cases op with
  | queue j op =>
    obtain ⟨data, hdata⟩ := Option.isSome_iff_exists.mp (h j op (if_pos rfl))
    rw [lifecycle, hdata]
    rfl
  | resetLidar j dataSrc =>
    obtain ⟨lidar, hlidar⟩ := Option.isSome_iff_exists.mp
      (isSome_resetLidar (h j .deInitQueue (if_pos rfl)) dataSrc)
    rw [lifecycle, hlidar]
    rfl
  | resetLds dataSrc =>
    exact isSome_foldlM_setDevice (f := fun lidar => Driver.resetLidar lidar dataSrc)
      (List.nodup_finRange _) fun i _ => isSome_resetLidar (h i .deInitQueue rfl) dataSrc

theorem lifecycles_concat (ops : List (LifecycleOp R)) (op : LifecycleOp R) :
    lds.lifecycles publishFreq (ops ++ [op]) =
      (lds.lifecycles publishFreq ops).bind (·.lifecycle publishFreq op) := by
  rw [lifecycles, List.foldlM_append]
  exact congrArg _ (funext fun lds => by simp)

end LdsLidar

/-! ## Whole runs -/

/-- No operation on a queue releases it after one has initialised it. -/
def KeepsStorage (ops : List (QueueOp R)) : Prop :=
  ops.Pairwise fun earlier later => earlier.initialises = true → later.releases = false

theorem keepsStorage_concat {ops : List (QueueOp R)} {op : QueueOp R} :
    KeepsStorage (ops ++ [op]) ↔
      KeepsStorage ops ∧ (ops.any QueueOp.initialises = true → op.releases = false) := by
  rw [KeepsStorage, List.pairwise_append]
  constructor
  · rintro ⟨hops, -, hlast⟩
    refine ⟨hops, fun hany => ?_⟩
    obtain ⟨earlier, hmem, hinit⟩ := List.any_eq_true.mp hany
    exact hlast earlier hmem op (List.mem_singleton_self op) hinit
  · rintro ⟨hops, hlast⟩
    refine ⟨hops, List.pairwise_singleton _ _, ?_⟩
    intro earlier hmem later hlater hinit
    obtain rfl := List.mem_singleton.mp hlater
    exact hlast (List.any_eq_true.mpr ⟨earlier, hmem, hinit⟩)

theorem opsOn_concat (i : Fin kMaxSourceLidar) (ops : List (LifecycleOp R))
    (op : LifecycleOp R) : opsOn i (ops ++ [op]) = opsOn i ops ++ (op.on i).toList := by
  rw [opsOn, List.filterMap_append]
  cases hop : op.on i with
  | none => simp [hop, opsOn]
  | some queueOp => simp [hop, opsOn]

/-- **The run.**  While no queue is released after it was initialised, every operation
succeeds, and a queue is ready from the first operation on that initialises it. -/
theorem stage_of_keepsStorage [IntCast R] (publishFreq : ℚ) (ops : List (LifecycleOp R))
    (h : ∀ i, KeepsStorage (opsOn i ops)) :
    ∃ lds, (LdsLidar.zeroed : LdsLidar R).lifecycles publishFreq ops = some lds ∧
      ∀ i, (lds.lidars i).data.Stage ((opsOn i ops).any QueueOp.initialises) := by
  induction ops using List.reverseRecOn with
  | nil => exact ⟨_, rfl, fun i => rfl⟩
  | append_singleton ops op ih =>
    have hsplit : ∀ i, KeepsStorage (opsOn i ops ++ (op.on i).toList) := by
      intro i
      rw [← opsOn_concat]
      exact h i
    have hold : ∀ i, KeepsStorage (opsOn i ops) := fun i =>
      (List.pairwise_append.mp (hsplit i)).1
    obtain ⟨lds, hlds, hstage⟩ := ih hold
    -- on each queue the next operation is one that its stage admits
    have hnext : ∀ i queueOp, op.on i = some queueOp →
        ∃ queue', queueOp.apply publishFreq (lds.lidars i).data = some queue' ∧
          queue'.Stage ((opsOn i ops).any QueueOp.initialises || queueOp.initialises) := by
      intro i queueOp hop
      have hkeeps := hsplit i
      rw [hop, Option.toList_some, keepsStorage_concat] at hkeeps
      exact (hstage i).apply publishFreq hkeeps.2
    obtain ⟨lds', hlds'⟩ := Option.isSome_iff_exists.mp
      (LdsLidar.isSome_lifecycle fun i queueOp hop => by
        obtain ⟨queue', happly, -⟩ := hnext i queueOp hop
        exact Option.isSome_iff_exists.mpr ⟨queue', happly⟩)
    refine ⟨lds', by rw [LdsLidar.lifecycles_concat, hlds]; exact hlds', fun i => ?_⟩
    obtain ⟨hdata, hsame⟩ := LdsLidar.data_lifecycle hlds' i
    rw [opsOn_concat, List.any_append]
    cases hop : op.on i with
    | none =>
      rw [hsame hop, Option.toList_none, List.any_nil, Bool.or_false]
      exact hstage i
    | some queueOp =>
      obtain ⟨queue', happly, hstage'⟩ := hnext i queueOp hop
      obtain rfl : queue' = (lds'.lidars i).data :=
        Option.some.inj (happly.symm.trans (hdata queueOp hop))
      simpa using hstage'

/-- **The life of a queue.**  From static storage on, every operation succeeds and leaves
every queue uninitialised or ready if and only if no queue is released, directly, by
`ResetLidar` or by `ResetLds`, after an operation has initialised it. -/
theorem queue_lifecycle_iff [IntCast R] (publishFreq : ℚ) (ops : List (LifecycleOp R)) :
    (∀ done, done <+: ops →
        ∃ lds, (LdsLidar.zeroed : LdsLidar R).lifecycles publishFreq done = some lds ∧
          ∀ i, (lds.lidars i).data.Valid) ↔
      ∀ i, KeepsStorage (opsOn i ops) := by
  constructor
  · intro h
    induction ops using List.reverseRecOn with
    | nil => exact fun i => List.Pairwise.nil
    | append_singleton ops op ih =>
      have hold := ih fun done hdone => h done (hdone.trans (List.prefix_append ops [op]))
      obtain ⟨lds, hlds, hstage⟩ := stage_of_keepsStorage publishFreq ops hold
      obtain ⟨lds', hlds', hvalid⟩ := h (ops ++ [op]) (List.prefix_refl _)
      rw [LdsLidar.lifecycles_concat, hlds] at hlds'
      intro i
      rw [opsOn_concat]
      cases hop : op.on i with
      | none =>
        rw [Option.toList_none, List.append_nil]
        exact hold i
      | some queueOp =>
        rw [Option.toList_some, keepsStorage_concat]
        refine ⟨hold i, fun hinit => ?_⟩
        rw [← Bool.not_eq_true]
        intro hreleases
        have hready := hstage i
        rw [hinit] at hready
        obtain ⟨held, hholds⟩ := hready
        exact QueueOp.not_valid_of_releases hholds hreleases
          ((LdsLidar.data_lifecycle hlds' i).1 queueOp hop) (hvalid i)
  · intro h done hdone
    obtain ⟨rest, rfl⟩ := hdone
    have hdoneKeeps : ∀ i, KeepsStorage (opsOn i done) := by
      intro i
      have hi := h i
      rw [opsOn, List.filterMap_append] at hi
      exact (List.pairwise_append.mp hi).1
    obtain ⟨lds, hlds, hstage⟩ := stage_of_keepsStorage publishFreq done hdoneKeeps
    exact ⟨lds, hlds, fun i => (hstage i).valid⟩

/-! ### A LiDAR that is reset after its first packet -/

def onePointPacket : PointPacket Int where
  handle := 1
  lidarType := LidarProtoType.kLivoxLidarType.code
  pointsNum := 1
  points := [{ x := 1, y := 2, z := 3, intensity := 0, tag := 0, line := 0, offsetTime := 7 }]
  backed := by decide

def firstLidar : Fin kMaxSourceLidar := ⟨0, by decide⟩

/-- A push, and a reset. -/
def pushThenReset : List (LifecycleOp Int) :=
  [.queue firstLidar (.pushLidarData (some onePointPacket) 7), .resetLidar firstLidar 0]

/-- After the reset the queue of the LiDAR is in neither state.  The next push writes to the
block that is gone, and the next `ResetLds` releases it again. -/
theorem queue_dangles_after_reset :
    (¬ ∀ done, done <+: pushThenReset →
        ∃ lds, (LdsLidar.zeroed : LdsLidar Int).lifecycles 10 done = some lds ∧
          ∀ i, (lds.lidars i).data.Valid) ∧
      ((LdsLidar.zeroed : LdsLidar Int).lifecycles 10 pushThenReset).isSome ∧
      (LdsLidar.zeroed : LdsLidar Int).lifecycles 10
          (pushThenReset ++ [.queue firstLidar (.pushLidarData (some onePointPacket) 8)]) = none ∧
      (LdsLidar.zeroed : LdsLidar Int).lifecycles 10 (pushThenReset ++ [.resetLds 0]) = none := by
  refine ⟨?_, by decide +kernel, ?_, ?_⟩
  · intro h
    obtain ⟨lds, hlds, hvalid⟩ := h pushThenReset (List.prefix_refl _)
    have hgone : (((LdsLidar.zeroed : LdsLidar Int).lifecycles 10 pushThenReset).bind
        fun lds => (lds.lidars firstLidar).data.storagePacket.release).isNone = true := by
      decide +kernel
    rw [hlds, Option.bind_some, Option.isNone_iff_eq_none] at hgone
    have hrelease := (hvalid firstLidar).isSome_release
    rw [hgone] at hrelease
    cases hrelease
  · rw [← Option.isNone_iff_eq_none]
    decide +kernel
  · rw [← Option.isNone_iff_eq_none]
    decide +kernel

end RoboRacer.Driver
