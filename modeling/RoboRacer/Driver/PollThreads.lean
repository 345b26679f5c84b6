/-
  Driver/PollThreads.lean --- the point cloud poll thread and its producer
  (`lds.cpp`, `lddc.cpp`, `comm/semaphore.cpp`, `livox_ros_driver2.cpp`).

  The producer runs `Lds::PushLidarData` for one LiDAR after another.  The
  consumer is `DriverNode::PointCloudDataPollThread`: it waits for the semaphore,
  makes one pass over the LiDARs, publishing what their queues hold, and looks at
  the exit signal.  Each test, each queue operation and each semaphore operation
  is one step, and the two threads interleave in any order.

      PollControl       the control flow that both poll threads share
      PcdStep           one step of the producer or of the consumer
      PcdSide.Inv       what the program counters say of the queues

  The queue of each LiDAR is the machine of Driver/QueueThreads.lean, once it is
  initialised.
-/
import RoboRacer.Driver.QueueThreads
import RoboRacer.Driver.Settings

set_option autoImplicit false

namespace RoboRacer.Driver

open RoboRacer.Foundation

variable {R : Type}

/-! ## The control flow of a poll thread -/

/-- What all threads of the driver share beside the queues. -/
structure DriverFlags where
  connectState : Fin kMaxSourceLidar → LidarConnectState
  requestExit : Bool
  /-- Whether the exit promise is set. -/
  exitSignal : Bool

/-- Where a poll thread is. -/
inductive PollPc where
  /-- At the `IsRequestExit` test of the distribute function. -/
  | distribute
  /-- In `Semaphore::Wait`. -/
  | wait
  /-- At the head of the loop over the LiDARs. -/
  | scan (i : Nat)
  /-- At the test for the queue's storage. -/
  | polling (i : Fin kMaxSourceLidar)
  /-- At the `IsRequestExit` test of the loop over one queue. -/
  | whileExit (i : Fin kMaxSourceLidar)
  /-- At the emptiness test of the loop over one queue. -/
  | whileEmpty (i : Fin kMaxSourceLidar)
  /-- In the publish function. -/
  | publish (i : Fin kMaxSourceLidar)
  /-- About to look at the exit signal. -/
  | exitSignal
  | finished

/-- What a poll thread reads of the queues. -/
structure QueueView where
  hasStorage : Fin kMaxSourceLidar → Bool
  isEmpty : Fin kMaxSourceLidar → Bool
  /-- Whether the publish function takes anything out of a queue. -/
  publishes : Bool

/-- The tests of a poll thread. -/
inductive PollLabel where
  | exitSeen
  | sleep
  | skip (i : Fin kMaxSourceLidar)
  | visit (i : Fin kMaxSourceLidar)
  | noStorage (i : Fin kMaxSourceLidar)
  | storage (i : Fin kMaxSourceLidar)
  | whileExit (i : Fin kMaxSourceLidar)
  | whileOpen (i : Fin kMaxSourceLidar)
  | whileEmpty (i : Fin kMaxSourceLidar)
  | whileHeld (i : Fin kMaxSourceLidar)
  | scanEnd
  | exitSet
  | again

/-- One test of a poll thread. -/
inductive PollControl (flags : DriverFlags) (view : QueueView) : PollPc → PollLabel → PollPc → Prop
  | exitSeen : flags.requestExit = true →
      PollControl flags view .distribute .exitSeen .exitSignal
  | sleep : flags.requestExit = false → PollControl flags view .distribute .sleep .wait
  | skip {i : Fin kMaxSourceLidar} : flags.connectState i ≠ .kConnectStateSampling →
      PollControl flags view (.scan i) (.skip i) (.scan (i + 1))
  | visit {i : Fin kMaxSourceLidar} : flags.connectState i = .kConnectStateSampling →
      PollControl flags view (.scan i) (.visit i) (.polling i)
  | noStorage {i : Fin kMaxSourceLidar} : view.hasStorage i = false →
      PollControl flags view (.polling i) (.noStorage i) (.scan (i + 1))
  | storage {i : Fin kMaxSourceLidar} : view.hasStorage i = true →
      PollControl flags view (.polling i) (.storage i) (.whileExit i)
  | whileExit {i : Fin kMaxSourceLidar} : flags.requestExit = true →
      PollControl flags view (.whileExit i) (.whileExit i) (.scan (i + 1))
  | whileOpen {i : Fin kMaxSourceLidar} : flags.requestExit = false →
      PollControl flags view (.whileExit i) (.whileOpen i) (.whileEmpty i)
  | whileEmpty {i : Fin kMaxSourceLidar} : view.isEmpty i = true →
      PollControl flags view (.whileEmpty i) (.whileEmpty i) (.scan (i + 1))
  | whileHeld {i : Fin kMaxSourceLidar} : view.isEmpty i = false →
      PollControl flags view (.whileEmpty i) (.whileHeld i)
        (if view.publishes then .publish i else .whileExit i)
  | scanEnd : PollControl flags view (.scan kMaxSourceLidar) .scanEnd .exitSignal
  | exitSet : flags.exitSignal = true → PollControl flags view .exitSignal .exitSet .finished
  | again : flags.exitSignal = false → PollControl flags view .exitSignal .again .distribute

/-! ## The point cloud side -/

/-- The settings that the two threads depend on. -/
structure PollConfig where
  publishFreq : PublishFreq
  transferFormat : UInt8

/-- The size that `PushLidarData` asks for. -/
def PollConfig.queueSize (config : PollConfig) : UInt32 :=
  calculatePacketQueueSize config.publishFreq.hz

/-- Whether the publish function of the format pops the queue: `PublishPclMsg`
returns at once, and for any other format there is no publish function. -/
def PollConfig.publishes (config : PollConfig) : Bool :=
  config.transferFormat == kPointCloud2Msg || config.transferFormat == kLivoxCustomMsg

/-- Where the producer is inside `PushLidarData`. -/
inductive PushPc (R : Type) where
  | idle
  /-- At the `QueueIsFull` test. -/
  | test (i : Fin kMaxSourceLidar) (call : PushCall R)
  /-- In `QueuePushAny`. -/
  | push (i : Fin kMaxSourceLidar)
  /-- At the `QueueIsEmpty` test. -/
  | testEmpty (i : Fin kMaxSourceLidar)
  /-- About to read the semaphore's count. -/
  | getCount
  /-- About to signal. -/
  | signal

/-- The queues, `pcd_semaphore_` and the two threads. -/
structure PcdSide (R : Type) where
  lidars : Fin kMaxSourceLidar → QueueState R
  count : Nat
  producer : PushPc R
  consumer : PollPc

def StoragePtr.isNull : StoragePtr R → Bool
  | .null => true
  | _ => false

namespace PcdSide

/-- No queue has storage yet, and nothing has happened. -/
def initial : PcdSide R where
  lidars := fun _ => .initial .zeroed
  count := 0
  producer := .idle
  consumer := .distribute

/-- The state of one queue changes. -/
def setQueue (s : PcdSide R) (i : Fin kMaxSourceLidar) (q : QueueState R) : PcdSide R :=
  { s with lidars := Function.update s.lidars i q }

@[simp] theorem lidars_setQueue (s : PcdSide R) (i : Fin kMaxSourceLidar) (q : QueueState R) :
    (s.setQueue i q).lidars = Function.update s.lidars i q := rfl

/-- What the consumer reads of the queues. -/
def view (config : PollConfig) (s : PcdSide R) : QueueView where
  hasStorage i := !(s.lidars i).queue.storagePacket.isNull
  isEmpty i := queueIsEmpty (s.lidars i).queue
  publishes := config.publishes

end PcdSide

/-- The lazy initialisation at the beginning of `PushLidarData`. -/
def lazyInit (config : PollConfig) (q : QueueState R) : Option (QueueState R) :=
  if q.queue.storagePacket.isNull then
    (initQueue q.queue config.queueSize).map (fun queue => { q with queue := queue })
  else some q

/-- The steps of the two threads, with the LiDAR they are about. -/
inductive PcdLabel (R : Type) where
  | enter (i : Fin kMaxSourceLidar) (call : PushCall R)
  | full (i : Fin kMaxSourceLidar) (call : PushCall R)
  | room (i : Fin kMaxSourceLidar) (call : PushCall R)
  | write (i : Fin kMaxSourceLidar)
  | advance (i : Fin kMaxSourceLidar)
  | held (i : Fin kMaxSourceLidar)
  | drained (i : Fin kMaxSourceLidar)
  | countZero
  | countPositive
  | signal
  | poll (l : PollLabel)
  | wake
  | publish (i : Fin kMaxSourceLidar) (l : QueueLabel R)
  | published (i : Fin kMaxSourceLidar)
  | fault (i : Fin kMaxSourceLidar)

/-- The steps inside a publish function. -/
def QueueLabel.pops : QueueLabel R → Bool
  | .poll => true
  | .prePopEmpty => true
  | .prePop => true
  | .copy => true
  | .update => true
  | _ => false

/-- One step of either thread. -/
inductive PcdStep (config : PollConfig) (flags : DriverFlags) :
    PcdSide R → PcdLabel R → PcdSide R → Prop
  | enter {s : PcdSide R} {i : Fin kMaxSourceLidar} {call : PushCall R} {q : QueueState R} :
      s.producer = .idle → lazyInit config (s.lidars i) = some q →
      PcdStep config flags s (.enter i call) { s.setQueue i q with producer := .test i call }
  | full {s : PcdSide R} {i : Fin kMaxSourceLidar} {call : PushCall R} {q : QueueState R} :
      s.producer = .test i call → QueueStep (s.lidars i) (.refuse call) q →
      PcdStep config flags s (.full i call) { s.setQueue i q with producer := .getCount }
  | room {s : PcdSide R} {i : Fin kMaxSourceLidar} {call : PushCall R} {q : QueueState R} :
      s.producer = .test i call → QueueStep (s.lidars i) (.enter call) q →
      PcdStep config flags s (.room i call) { s.setQueue i q with producer := .push i }
  | write {s : PcdSide R} {i : Fin kMaxSourceLidar} {q : QueueState R} :
      s.producer = .push i → QueueStep (s.lidars i) .write q →
      PcdStep config flags s (.write i) (s.setQueue i q)
  | advance {s : PcdSide R} {i : Fin kMaxSourceLidar} {q : QueueState R} :
      s.producer = .push i → QueueStep (s.lidars i) .advance q →
      PcdStep config flags s (.advance i) { s.setQueue i q with producer := .testEmpty i }
  | held {s : PcdSide R} {i : Fin kMaxSourceLidar} :
      s.producer = .testEmpty i → queueIsEmpty (s.lidars i).queue = false →
      PcdStep config flags s (.held i) { s with producer := .getCount }
  | drained {s : PcdSide R} {i : Fin kMaxSourceLidar} :
      s.producer = .testEmpty i → queueIsEmpty (s.lidars i).queue = true →
      PcdStep config flags s (.drained i) { s with producer := .idle }
  | countZero {s : PcdSide R} : s.producer = .getCount → s.count ≤ 0 →
      PcdStep config flags s .countZero { s with producer := .signal }
  | countPositive {s : PcdSide R} : s.producer = .getCount → ¬ s.count ≤ 0 →
      PcdStep config flags s .countPositive { s with producer := .idle }
  | signal {s : PcdSide R} : s.producer = .signal →
      PcdStep config flags s .signal { s with count := s.count + 1, producer := .idle }
  | poll {s : PcdSide R} {l : PollLabel} {pc : PollPc} :
      PollControl flags (s.view config) s.consumer l pc →
      PcdStep config flags s (.poll l) { s with consumer := pc }
  | wake {s : PcdSide R} : s.consumer = .wait → 0 < s.count →
      PcdStep config flags s .wake { s with count := s.count - 1, consumer := .scan 0 }
  | publish {s : PcdSide R} {i : Fin kMaxSourceLidar} {l : QueueLabel R} {q : QueueState R} :
      s.consumer = .publish i → l.pops = true → QueueStep (s.lidars i) l q →
      PcdStep config flags s (.publish i l) (s.setQueue i q)
  | published {s : PcdSide R} {i : Fin kMaxSourceLidar} {q : QueueState R} :
      s.consumer = .publish i → QueueStep (s.lidars i) .pollEmpty q →
      PcdStep config flags s (.published i) { s.setQueue i q with consumer := .whileExit i }
  | fault {s : PcdSide R} {i : Fin kMaxSourceLidar} {q : QueueState R} :
      QueueStep (s.lidars i) .fault q → PcdStep config flags s (.fault i) (s.setQueue i q)

/-! ## The queues under the two threads

A queue is either untouched or a reachable state of the machine of
Driver/QueueThreads.lean on an initialised queue. -/

/-- The queue has been initialised, and only the two threads have used it since. -/
def InUse (config : PollConfig) (q : QueueState R) : Prop :=
  ∃ queue, initQueue .zeroed config.queueSize = some queue ∧ (queueMachine queue).Reachable q

/-- The queue is untouched or in use. -/
def QueueOk (config : PollConfig) (q : QueueState R) : Prop :=
  q = .initial .zeroed ∨ InUse config q

/-- Writing a slot does not change whether the queue is empty. -/
theorem queueIsEmpty_pushSlot {queue queue' : LidarDataQueue R} {lidarData : PointPacket R}
    {baseTime : UInt64} (h : queuePushSlot queue lidarData baseTime = some queue') :
    queueIsEmpty queue' = queueIsEmpty queue := by
  unfold queuePushSlot writeSlot at h
  split at h
  · split at h
    · cases h
      rfl
    · cases h
  · cases h

/-- Only the two index updates change whether a queue is empty. -/
theorem queueIsEmpty_of_step {q q' : QueueState R} {l : QueueLabel R} (hstep : QueueStep q l q')
    (hadvance : l ≠ .advance) (hupdate : l ≠ .update) :
    queueIsEmpty q'.queue = queueIsEmpty q.queue := by
  cases hstep with
  | advance => exact absurd rfl hadvance
  | update => exact absurd rfl hupdate
  | write _ hslot => exact queueIsEmpty_pushSlot hslot
  | _ => rfl

section Queues

variable {config : PollConfig} {q q' : QueueState R}

/-- A queue in use has the invariant of Driver/QueueThreads.lean. -/
theorem InUse.inv (h : InUse config q) : ∃ k slots, QueueInv k q slots := by
  obtain ⟨queue, hinit, hreach⟩ := h
  obtain ⟨hlow, hhigh⟩ := calculatePacketQueueSize_bounds config.publishFreq
  have hpos : 1 ≤ config.queueSize.toNat := le_trans (by decide) hlow
  have hle : config.queueSize.toNat ≤ 2 ^ 31 := hhigh.trans (by decide)
  obtain ⟨k, slots, hready, -, -, hrd, hwr⟩ := initQueue_spec hpos hle hinit
  obtain ⟨slots', hinv⟩ := queueInv_of_reachable hready hrd hwr hreach
  exact ⟨k, slots', hinv⟩

theorem InUse.isNull (h : InUse config q) : q.queue.storagePacket.isNull = false := by
  obtain ⟨k, slots, hinv⟩ := h.inv
  rw [hinv.ready.storage]
  rfl

theorem InUse.step {l : QueueLabel R} (h : InUse config q) (hstep : QueueStep q l q') :
    InUse config q' := by
  obtain ⟨queue, hinit, hreach⟩ := h
  exact ⟨queue, hinit, .step hreach hstep⟩

/-- A queue without storage is empty. -/
theorem QueueOk.isEmpty_of_isNull (h : QueueOk config q)
    (hnull : q.queue.storagePacket.isNull = true) : queueIsEmpty q.queue = true := by
  obtain rfl | hin := h
  · rfl
  · rw [hin.isNull] at hnull
    cases hnull

/-- The lazy initialisation always succeeds, and only gives the queue its storage. -/
theorem QueueOk.lazyInit (h : QueueOk config q) :
    ∃ queue, lazyInit config q = some { q with queue := queue } ∧
      InUse config { q with queue := queue } ∧ queueIsEmpty queue = queueIsEmpty q.queue := by
  obtain rfl | hin := h
  · have hinit : initQueue (.zeroed : LidarDataQueue R) config.queueSize = some _ := rfl
    refine ⟨_, rfl, ⟨_, hinit, .init rfl⟩, rfl⟩
  · refine ⟨q.queue, ?_, hin, rfl⟩
    rw [Driver.lazyInit, hin.isNull]
    rfl

/-- The steps inside a publish function find an untouched queue empty. -/
theorem QueueOk.step_of_pops (h : QueueOk config q) {l : QueueLabel R}
    (hpops : l.pops = true ∨ l = .pollEmpty ∨ l = .fault) (hstep : QueueStep q l q') :
    QueueOk config q' := by
  obtain rfl | hin := h
  · -- no thread is inside a call on an untouched queue
    cases hstep with
    | pollEmpty _ _ => exact .inl rfl
    | poll _ hheld => cases hheld
    | enter _ _ => simp [QueueLabel.pops] at hpops
    | refuse _ _ => simp [QueueLabel.pops] at hpops
    | write hpc _ => cases hpc
    | writeFault hpc _ => cases hpc
    | advance hpc => cases hpc
    | prePopEmpty hpc _ => cases hpc
    | prePop hpc _ => cases hpc
    | copy hpc _ => cases hpc
    | copyFault hpc _ => cases hpc
    | update hpc => cases hpc
  · exact .inr (hin.step hstep)

end Queues

/-- What the two program counters say of the queue of LiDAR `i`. -/
structure LidarInv (config : PollConfig) (producer : PushPc R) (consumer : PollPc)
    (i : Fin kMaxSourceLidar) (q : QueueState R) : Prop where
  ok : QueueOk config q
  /-- A queue that a push call has got to is in use. -/
  tested : ∀ call, producer = .test i call → InUse config q
  pushing : producer = .push i → InUse config q
  /-- The producer is inside a queue operation exactly when it is in `QueuePushAny`. -/
  inner : q.producer = .idle ↔ producer ≠ .push i
  /-- The consumer is inside one only in a publish function. -/
  popping : q.consumer = .idle ∨ consumer = .publish i

/-- The program counters move, but not at this LiDAR. -/
theorem LidarInv.elsewhere {config : PollConfig} {producer producer' : PushPc R}
    {consumer consumer' : PollPc} {i : Fin kMaxSourceLidar} {q : QueueState R}
    (h : LidarInv config producer consumer i q) (hpush : producer ≠ .push i)
    (htest' : ∀ call, producer' ≠ .test i call) (hpush' : producer' ≠ .push i)
    (hpublish : consumer = .publish i → consumer' = .publish i) :
    LidarInv config producer' consumer' i q where
  ok := h.ok
  tested call hcall := absurd hcall (htest' call)
  pushing hpc := absurd hpc hpush'
  inner := iff_of_true (h.inner.mpr hpush) hpush'
  popping := h.popping.imp_right hpublish

/-- Only the consumer moves, and it is inside no publish function that it was not
inside before. -/
theorem LidarInv.consumer {config : PollConfig} {producer : PushPc R}
    {consumer consumer' : PollPc} {i : Fin kMaxSourceLidar} {q : QueueState R}
    (h : LidarInv config producer consumer i q)
    (hpublish : consumer = .publish i → consumer' = .publish i) :
    LidarInv config producer consumer' i q :=
  ⟨h.ok, h.tested, h.pushing, h.inner, h.popping.imp_right hpublish⟩

/-- What the consumer does to a queue is nothing to the producer. -/
theorem producer_of_pops {q q' : QueueState R} {l : QueueLabel R} (hpops : l.pops = true)
    (hstep : QueueStep q l q') : q'.producer = q.producer := by
  cases hstep with
  | poll => rfl
  | prePopEmpty => rfl
  | prePop => rfl
  | copy => rfl
  | update => rfl
  | _ => cases hpops

/-- Nor does it add to what was accepted. -/
theorem accepted_of_pops {q q' : QueueState R} {l : QueueLabel R} (hpops : l.pops = true)
    (hstep : QueueStep q l q') : q'.accepted = q.accepted := by
  cases hstep with
  | poll => rfl
  | prePopEmpty => rfl
  | prePop => rfl
  | copy => rfl
  | update => rfl
  | _ => cases hpops

/-- No test of the consumer leaves a publish function. -/
theorem PollControl.not_publish {flags : DriverFlags} {view : QueueView} {pc pc' : PollPc}
    {l : PollLabel} (h : PollControl flags view pc l pc') (i : Fin kMaxSourceLidar) :
    pc ≠ .publish i := by
  cases h <;> simp

/-- What holds on the point cloud side in every reachable state. -/
def PcdSide.Inv (config : PollConfig) (s : PcdSide R) : Prop :=
  ∀ i, LidarInv config s.producer s.consumer i (s.lidars i)

namespace PcdSide

variable {config : PollConfig} {flags : DriverFlags} {s t : PcdSide R}

/-- A queue changes and has accepted no more. -/
theorem accepted_setQueue {i : Fin kMaxSourceLidar} {q : QueueState R}
    (h : q.accepted = (s.lidars i).accepted) (j : Fin kMaxSourceLidar) :
    ((s.setQueue i q).lidars j).accepted = (s.lidars j).accepted := by
  by_cases hj : j = i
  · rw [hj, lidars_setQueue, Function.update_self, h]
  · rw [lidars_setQueue, Function.update_of_ne hj]

theorem inv_initial : (initial : PcdSide R).Inv config := by
  intro i
  exact ⟨.inl rfl, fun call h => (by cases h), fun h => (by cases h),
    iff_of_true rfl (fun h => (by cases h)), .inl rfl⟩

/-- A thread step that changes one queue. -/
theorem inv_setQueue {i : Fin kMaxSourceLidar} {q : QueueState R} {producer : PushPc R}
    {consumer : PollPc} (hi : LidarInv config producer consumer i q)
    (hother : ∀ j, j ≠ i → LidarInv config producer consumer j (s.lidars j)) :
    Inv config { s.setQueue i q with producer := producer, consumer := consumer } :=
  (Function.forall_update_iff s.lidars (fun j q => LidarInv config producer consumer j q)).mpr
    ⟨hi, hother⟩

theorem Inv.step {l : PcdLabel R} (h : s.Inv config) (hstep : PcdStep config flags s l t) :
    t.Inv config := by
  cases hstep with
  | @enter i call q hpc hinit =>
    obtain ⟨queue, hqueue, hin, -⟩ := (h i).ok.lazyInit
    rw [hinit] at hqueue
    cases hqueue
    have hidle := (h i).inner.mpr (by rw [hpc]; simp)
    refine inv_setQueue ⟨.inr hin, fun _ _ => hin, fun hpc' => (by cases hpc'),
      iff_of_true hidle (by simp), (h i).popping⟩ (fun j hj => ?_)
    exact (h j).elsewhere (by rw [hpc]; simp) (by simp [hj.symm]) (by simp) id
  | @full i call q hpc hq =>
    cases hq with
    | refuse hidle _ =>
      refine inv_setQueue ?_ (fun j _ => ?_)
      · exact (h i).elsewhere (by rw [hpc]; simp) (by simp) (by simp) id
      · exact (h j).elsewhere (by rw [hpc]; simp) (by simp) (by simp) id
  | @room i call q hpc hq =>
    have hin := ((h i).tested call hpc).step hq
    cases hq with
    | enter _ _ =>
      refine inv_setQueue ⟨.inr hin, fun _ hpc' => (by cases hpc'), fun _ => hin,
        iff_of_false (by simp) (by simp), (h i).popping⟩ (fun j hj => ?_)
      exact (h j).elsewhere (by rw [hpc]; simp) (by simp) (by simp [hj.symm]) id
  | @write i q hpc hq =>
    have hin := ((h i).pushing hpc).step hq
    cases hq with
    | write _ _ =>
      refine inv_setQueue ⟨.inr hin, fun _ hpc' => ?_, fun _ => hin, ?_, (h i).popping⟩
        (fun j _ => h j)
      · rw [hpc] at hpc'
        cases hpc'
      · rw [hpc]
        exact iff_of_false (by simp) (by simp)
  | @advance i q hpc hq =>
    have hin := ((h i).pushing hpc).step hq
    cases hq with
    | advance _ =>
      refine inv_setQueue ⟨.inr hin, fun _ hpc' => (by cases hpc'), fun hpc' => (by cases hpc'),
        iff_of_true rfl (by simp), (h i).popping⟩ (fun j hj => ?_)
      exact (h j).elsewhere (by rw [hpc]; simp [hj.symm]) (by simp) (by simp) id
  | held hpc _ => exact fun j => (h j).elsewhere (by rw [hpc]; simp) (by simp) (by simp) id
  | drained hpc _ => exact fun j => (h j).elsewhere (by rw [hpc]; simp) (by simp) (by simp) id
  | countZero hpc _ => exact fun j => (h j).elsewhere (by rw [hpc]; simp) (by simp) (by simp) id
  | countPositive hpc _ =>
    exact fun j => (h j).elsewhere (by rw [hpc]; simp) (by simp) (by simp) id
  | signal hpc => exact fun j => (h j).elsewhere (by rw [hpc]; simp) (by simp) (by simp) id
  | poll hcontrol => exact fun j => (h j).consumer (fun hpc => absurd hpc (hcontrol.not_publish j))
  | wake hpc _ =>
    refine fun j => (h j).consumer (fun hpc' => ?_)
    rw [hpc] at hpc'
    cases hpc'
  | @publish i l q hpc hpops hq =>
    refine inv_setQueue ⟨(h i).ok.step_of_pops (.inl hpops) hq,
      fun call hpc' => ((h i).tested call hpc').step hq, fun hpc' => ((h i).pushing hpc').step hq,
      ?_, .inr hpc⟩ (fun j _ => h j)
    rw [producer_of_pops hpops hq]
    exact (h i).inner
  | @published i q hpc hq =>
    cases hq with
    | pollEmpty hidle _ =>
      refine inv_setQueue ⟨(h i).ok, (h i).tested, (h i).pushing, (h i).inner, .inl hidle⟩
        (fun j hj => (h j).consumer (fun hpc' => ?_))
      rw [hpc] at hpc'
      cases hpc'
      exact absurd rfl hj
  | @fault i q hq =>
    have hok := (h i).ok.step_of_pops (.inr (.inr rfl)) hq
    have hin : InUse config (s.lidars i) → InUse config q := fun hin => hin.step hq
    have hpcs : q.producer = (s.lidars i).producer ∧ q.consumer = (s.lidars i).consumer := by
      cases hq <;> exact ⟨rfl, rfl⟩
    refine inv_setQueue ⟨hok, fun call hpc => hin ((h i).tested call hpc),
      fun hpc => hin ((h i).pushing hpc), ?_, ?_⟩ (fun j _ => h j)
    · rw [hpcs.1]
      exact (h i).inner
    · rw [hpcs.2]
      exact (h i).popping

end PcdSide

/-! ## The two threads with the rest of the driver -/

/-- The point cloud side, what it shares with the rest of the driver, and for each
LiDAR whether it has been sampling in every state so far. -/
structure PollState (R : Type) where
  flags : DriverFlags
  pcd : PcdSide R
  steady : Fin kMaxSourceLidar → Bool

/-- The steps of the two threads, and what the rest of the driver does meanwhile. -/
inductive DriverLabel (R : Type) where
  | pcd (l : PcdLabel R)
  | setConnectState (i : Fin kMaxSourceLidar) (state : LidarConnectState)
  | requestExit
  | setExitSignal

/-- The connect state of one LiDAR is written. -/
def DriverFlags.setConnectState (flags : DriverFlags) (i : Fin kMaxSourceLidar)
    (state : LidarConnectState) : DriverFlags :=
  { flags with connectState := Function.update flags.connectState i state }

/-- One step. -/
inductive PollStep (config : PollConfig) : PollState R → DriverLabel R → PollState R → Prop
  | pcd {s : PollState R} {l : PcdLabel R} {pcd : PcdSide R} :
      PcdStep config s.flags s.pcd l pcd → PollStep config s (.pcd l) { s with pcd := pcd }
  | setConnectState {s : PollState R} {i : Fin kMaxSourceLidar} {state : LidarConnectState} :
      PollStep config s (.setConnectState i state)
        { s with
          flags := s.flags.setConnectState i state
          steady := Function.update s.steady i
            (s.steady i && decide (state = .kConnectStateSampling)) }
  | requestExit {s : PollState R} :
      PollStep config s .requestExit { s with flags := { s.flags with requestExit := true } }
  | setExitSignal {s : PollState R} :
      PollStep config s .setExitSignal { s with flags := { s.flags with exitSignal := true } }

/-- The threads start with empty queues and any connect states. -/
structure PollState.Init (s : PollState R) : Prop where
  pcd : s.pcd = .initial
  steady : ∀ i, s.steady i = decide (s.flags.connectState i = .kConnectStateSampling)
  requestExit : s.flags.requestExit = false
  exitSignal : s.flags.exitSignal = false

/-- The poll thread and its producer. -/
def pollMachine (config : PollConfig) : Machine (PollState R) (DriverLabel R) where
  Init := PollState.Init
  Step := PollStep config

section Polling

variable {config : PollConfig} {s t : PollState R}

theorem inv_of_poll_reachable (h : (pollMachine config).Reachable s) : s.pcd.Inv config := by
  refine h.invariant (fun s => s.pcd.Inv config) ?_ ?_
  · intro s hinit
    rw [hinit.pcd]
    exact PcdSide.inv_initial
  · intro s l t _ hs hstep
    cases hstep with
    | pcd hpcd => exact hs.step hpcd
    | setConnectState => exact hs
    | requestExit => exact hs
    | setExitSignal => exact hs

/-- A LiDAR that has been sampling throughout is sampling now. -/
theorem sampling_of_steady (h : (pollMachine config).Reachable s) {i : Fin kMaxSourceLidar}
    (hsteady : s.steady i = true) : s.flags.connectState i = .kConnectStateSampling := by
  revert i
  refine h.invariant (fun s => ∀ {i}, s.steady i = true →
    s.flags.connectState i = .kConnectStateSampling) ?_ ?_
  · intro s hinit i hsteady
    rw [hinit.steady] at hsteady
    exact of_decide_eq_true hsteady
  · intro s l t _ hs hstep i hsteady
    cases hstep with
    | @setConnectState j state =>
      simp only [DriverFlags.setConnectState] at hsteady ⊢
      by_cases hij : i = j
      · rw [hij, Function.update_self] at hsteady ⊢
        rw [Bool.and_eq_true] at hsteady
        exact of_decide_eq_true hsteady.2
      · rw [Function.update_of_ne hij] at hsteady ⊢
        exact hs hsteady
    | pcd _ => exact hs hsteady
    | requestExit => exact hs hsteady
    | setExitSignal => exact hs hsteady

end Polling

end RoboRacer.Driver
