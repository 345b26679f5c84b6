/-
  Driver/ImuStreams.lean --- from IMU samples to IMU messages (`lds.cpp`, `lddc.cpp`,
  `call_back/lidar_common_callback.cpp`).

  The SDK's thread hands every sample to `StorageImuData`, which looks up the slot of
  its LiDAR, appends it to the list of the slot and may signal.  The IMU poll thread
  takes the samples out of the lists and publishes them.  Meanwhile LiDARs are
  registered, connect states change and the exit may be requested:

      ImuSystem          the threads of Driver/ImuThreads.lean with what is around them
      imu_delivered      nothing is lost, doubled, reordered or left behind
      imu_settles        without new samples the threads come to rest
-/
import Mathlib.Algebra.BigOperators.Fin
import RoboRacer.Driver.CacheIndex
import RoboRacer.Driver.ImuThreads
import RoboRacer.Driver.PollSettling
import RoboRacer.Foundation.Settling

set_option autoImplicit false

namespace RoboRacer.Driver

open RoboRacer.Foundation

variable {R : Type} {outputType : UInt8}

/-! ## Messages -/

/-- `sensor_msgs/Imu`, as far as the driver fills it.  The stamp is in nanoseconds. -/
structure ImuMsg (R : Type) where
  frameId : String
  stamp : UInt64
  angularVelocity : Fin 3 → R
  linearAcceleration : Fin 3 → R

/-- `InitImuMsg`.  The time that it returns too is for bag files only. -/
def initImuMsg (imuData : ImuData R) : ImuMsg R where
  frameId := "livox_frame"
  stamp := imuData.timeStamp
  angularVelocity := ![imuData.gyroX, imuData.gyroY, imuData.gyroZ]
  linearAcceleration := ![imuData.accX, imuData.accY, imuData.accZ]

/-- The slot that `StorageImuData` finds for a sample. -/
def imuSlot (cacheIndex : CacheIndex) (imuData : ImuData R) : Option (Fin kMaxSourceLidar) :=
  if imuData.lidarType = LidarProtoType.kLivoxLidarType.code then
    cacheIndex.getIndex imuData.lidarType imuData.handle
  else none

/-- The sample comes from the Livox LiDAR `handle`. -/
def ImuData.From (handle : UInt32) (imuData : ImuData R) : Prop :=
  imuData.lidarType = LidarProtoType.kLivoxLidarType.code ∧ imuData.handle = handle

instance (handle : UInt32) (imuData : ImuData R) : Decidable (imuData.From handle) :=
  inferInstanceAs (Decidable (_ ∧ _))

theorem imuSlot_eq_some_iff {cacheIndex : CacheIndex} {imuData : ImuData R}
    {i : Fin kMaxSourceLidar} : imuSlot cacheIndex imuData = some i ↔
      imuData.lidarType = LidarProtoType.kLivoxLidarType.code ∧
        cacheIndex.indexOf imuData.handle = some i := by
  unfold imuSlot
  by_cases htype : imuData.lidarType = LidarProtoType.kLivoxLidarType.code
  · rw [if_pos htype, htype]
    exact ⟨fun h => ⟨rfl, h⟩, And.right⟩
  · rw [if_neg htype]
    exact iff_of_false (by simp) fun h => htype h.1

/-- A sample gets the slot of a LiDAR exactly if it comes from that LiDAR. -/
theorem imuSlot_eq_iff_from {cacheIndex : CacheIndex} (hsound : cacheIndex.Sound)
    {handle : UInt32} {i : Fin kMaxSourceLidar} (hslot : cacheIndex.indexOf handle = some i)
    (imuData : ImuData R) : imuSlot cacheIndex imuData = some i ↔ imuData.From handle := by
  rw [imuSlot_eq_some_iff]
  constructor
  · rintro ⟨htype, hindex⟩
    exact ⟨htype, hsound.injective _ _ i hindex hslot⟩
  · rintro ⟨htype, rfl⟩
    exact ⟨htype, hslot⟩

/-! ## The system -/

/-- The two IMU threads, the registry, what was published for each slot, and for each
slot whether its LiDAR has been sampling in every state so far. -/
structure ImuSystem (R : Type) where
  flags : DriverFlags
  cacheIndex : CacheIndex
  side : ImuSide R
  published : Fin kMaxSourceLidar → List (ImuMsg R)
  steady : Fin kMaxSourceLidar → Bool

/-- The steps, by what they are about. -/
inductive ImuSystemLabel (R : Type) where
  | storageImuData (imuData : ImuData R)
  | side (l : ImuLabel R)
  | register (handle : UInt32)
  | setConnectState (i : Fin kMaxSourceLidar) (state : LidarConnectState)
  | requestExit
  | setExitSignal

/-- What `PublishImuData` does with a message under a value of `output_type_`: for any other
than `kOutputToRos` there would have to be a bag, and nothing calls `CreateBagFile`. -/
def publishImuMsg (outputType : UInt8) (imuMsg : ImuMsg R) : List (ImuMsg R) :=
  if kOutputToRos = outputType then [imuMsg] else []

/-- The messages for slot `i` that a step of the two threads publishes. -/
def ImuLabel.sent (outputType : UInt8) (side : ImuSide R) (i : Fin kMaxSourceLidar) :
    ImuLabel R → List (ImuMsg R)
  | .pop j =>
    if j = i then
      (side.lidars i).head?.toList.flatMap fun imuData =>
        publishImuMsg outputType (initImuMsg imuData)
    else []
  | _ => []

/-- One step. -/
inductive ImuSystemStep (outputType : UInt8) :
    ImuSystem R → ImuSystemLabel R → ImuSystem R → Prop
  | unregistered {s : ImuSystem R} {imuData : ImuData R} :
      s.side.producer = .idle → imuSlot s.cacheIndex imuData = none →
      ImuSystemStep outputType s (.storageImuData imuData) s
  | stored {s : ImuSystem R} {imuData : ImuData R} {i : Fin kMaxSourceLidar}
      {side : ImuSide R} :
      imuSlot s.cacheIndex imuData = some i → ImuStep s.flags s.side (.push i imuData) side →
      ImuSystemStep outputType s (.storageImuData imuData) { s with side := side }
  | side {s : ImuSystem R} {l : ImuLabel R} {side : ImuSide R} :
      (∀ i imuData, l ≠ .push i imuData) → ImuStep s.flags s.side l side →
      ImuSystemStep outputType s (.side l)
        { s with side := side, published := fun i => s.published i ++ l.sent outputType s.side i }
  | register {s : ImuSystem R} {handle : UInt32} {cacheIndex : CacheIndex}
      {i : Fin kMaxSourceLidar} :
      s.cacheIndex.getFreeIndex LidarProtoType.kLivoxLidarType.code handle =
        some (cacheIndex, i) →
      ImuSystemStep outputType s (.register handle) { s with cacheIndex := cacheIndex }
  | setConnectState {s : ImuSystem R} {i : Fin kMaxSourceLidar} {state : LidarConnectState} :
      ImuSystemStep outputType s (.setConnectState i state)
        { s with
          flags := s.flags.setConnectState i state
          steady := Function.update s.steady i
            (s.steady i && decide (state = .kConnectStateSampling)) }
  | requestExit {s : ImuSystem R} :
      ImuSystemStep outputType s .requestExit
        { s with flags := { s.flags with requestExit := true } }
  | setExitSignal {s : ImuSystem R} :
      ImuSystemStep outputType s .setExitSignal
        { s with flags := { s.flags with exitSignal := true } }

/-- The threads start with empty lists, any connect states and some LiDARs registered. -/
structure ImuSystem.Init (s : ImuSystem R) : Prop where
  side : s.side = .initial
  registry : s.cacheIndex.Sound
  published : ∀ i, s.published i = []
  steady : ∀ i, s.steady i = decide (s.flags.connectState i = .kConnectStateSampling)
  requestExit : s.flags.requestExit = false
  exitSignal : s.flags.exitSignal = false

/-- `StorageImuData`, the IMU poll thread, and the rest of the driver. -/
def imuMachine (outputType : UInt8) : Machine (ImuSystem R) (ImuSystemLabel R) where
  Init := ImuSystem.Init
  Step := ImuSystemStep outputType

/-! ## Delivery -/

/-- The sample that a step hands to `StorageImuData`. -/
def ImuSystemLabel.samples : ImuSystemLabel R → List (ImuData R)
  | .storageImuData imuData => [imuData]
  | _ => []

/-- What has been published for slot `i`, and what is to be. -/
def ImuSystem.delivery (s : ImuSystem R) (i : Fin kMaxSourceLidar) : List (ImuMsg R) :=
  s.published i ++ (s.side.lidars i).map initImuMsg

/-- The messages that the samples of a LiDAR are to become. -/
def imuMessages (handle : UInt32) (samples : List (ImuData R)) : List (ImuMsg R) :=
  (samples.filter fun imuData => imuData.From handle).map initImuMsg

theorem imuMessages_append (handle : UInt32) (xs ys : List (ImuData R)) :
    imuMessages handle (xs ++ ys) = imuMessages handle xs ++ imuMessages handle ys := by
  rw [imuMessages, List.filter_append, List.map_append]
  rfl

/-- What the poll thread does moves messages from the lists to the topics. -/
theorem delivery_of_side {flags : DriverFlags} {side next : ImuSide R} {l : ImuLabel R}
    (hstep : ImuStep flags side l next) (hnot : ∀ i imuData, l ≠ .push i imuData)
    (i : Fin kMaxSourceLidar) :
    l.sent kOutputToRos side i ++ (next.lidars i).map initImuMsg =
      (side.lidars i).map initImuMsg := by
  cases hstep with
  | push => exact absurd rfl (hnot _ _)
  | @pop j imuData rest _ hqueue =>
    by_cases hj : j = i
    · subst hj
      simp [ImuLabel.sent, publishImuMsg, hqueue]
    · simp [ImuLabel.sent, hj, Function.update_of_ne (Ne.symm hj)]
  | _ => rfl

section Delivery

variable {s t : ImuSystem R} {handle : UInt32} {i : Fin kMaxSourceLidar}

/-- With another output type nothing is published. -/
theorem published_of_step {l : ImuSystemLabel R} (hros : outputType ≠ kOutputToRos)
    (hstep : ImuSystemStep outputType s l t) (i : Fin kMaxSourceLidar) :
    t.published i = s.published i := by
  cases hstep with
  | @side l side _ _ =>
    have hnone : l.sent outputType s.side i = [] := by
      cases l with
      | pop j => simp [ImuLabel.sent, publishImuMsg, hros.symm]
      | _ => rfl
    simp only [hnone, List.append_nil]
  | _ => rfl

theorem sound_of_step {l : ImuSystemLabel R} (h : s.cacheIndex.Sound)
    (hstep : ImuSystemStep outputType s l t) : t.cacheIndex.Sound := by
  cases hstep with
  | register hfree => exact h.getFreeIndex hfree
  | _ => exact h

/-- A registered LiDAR keeps its slot. -/
theorem indexOf_of_step {l : ImuSystemLabel R} (h : s.cacheIndex.indexOf handle = some i)
    (hstep : ImuSystemStep outputType s l t) : t.cacheIndex.indexOf handle = some i := by
  cases hstep with
  | register hfree =>
    obtain ⟨-, rfl⟩ | ⟨hnew, -, -, hnext⟩ := CacheIndex.getFreeIndex_cases hfree
    · exact h
    · rw [hnext, if_neg]
      · exact h
      · rintro rfl
        rw [hnew] at h
        cases h
  | _ => exact h

/-- One step: the samples of a registered LiDAR are added to what its slot delivers. -/
theorem delivery_of_step {l : ImuSystemLabel R} (hsound : s.cacheIndex.Sound)
    (hslot : s.cacheIndex.indexOf handle = some i) (hstep : ImuSystemStep kOutputToRos s l t) :
    t.delivery i = s.delivery i ++ imuMessages handle l.samples := by
  have hnone : imuMessages handle ([] : List (ImuData R)) = [] := rfl
  cases hstep with
  | @unregistered imuData _ hunknown =>
    have hother : ¬ imuData.From handle := by
      rw [← imuSlot_eq_iff_from hsound hslot, hunknown]
      simp
    simp [imuMessages, ImuSystemLabel.samples, hother]
  | @stored imuData j side hfound hpush =>
    cases hpush with
    | push _ =>
      by_cases hj : j = i
      · have hfrom : imuData.From handle :=
          (imuSlot_eq_iff_from hsound hslot imuData).mp (hj ▸ hfound)
        subst hj
        simp [ImuSystem.delivery, imuMessages, ImuSystemLabel.samples, hfrom]
      · have hother : ¬ imuData.From handle := by
          rw [← imuSlot_eq_iff_from hsound hslot, hfound]
          simpa using hj
        simp [ImuSystem.delivery, imuMessages, ImuSystemLabel.samples, hother,
          Function.update_of_ne (Ne.symm hj)]
  | @side l side hnot hside =>
    have hmoved := delivery_of_side hside hnot i
    simp only [ImuSystem.delivery, ImuSystemLabel.samples, hnone, List.append_nil,
      List.append_assoc, hmoved]
  | register _ => exact (List.append_nil _).symm
  | setConnectState => exact (List.append_nil _).symm
  | requestExit => exact (List.append_nil _).symm
  | setExitSignal => exact (List.append_nil _).symm

theorem sound_of_reachable (h : (imuMachine (R := R) outputType).Reachable s) :
    s.cacheIndex.Sound :=
  h.invariant (fun s => s.cacheIndex.Sound) (fun _ (hinit : ImuSystem.Init _) => hinit.registry)
    (fun _ _ _ _ hs hstep => sound_of_step hs hstep)

/-- A whole run: the LiDAR keeps its slot, and the slot delivers its samples in order. -/
theorem delivery_of_run {labels : List (ImuSystemLabel R)} (hs : s.cacheIndex.Sound)
    (hslot : s.cacheIndex.indexOf handle = some i)
    (hrun : (imuMachine kOutputToRos).Run s labels t) :
    t.delivery i =
      s.delivery i ++ imuMessages handle (labels.flatMap ImuSystemLabel.samples) := by
  suffices h : t.cacheIndex.Sound ∧ t.cacheIndex.indexOf handle = some i ∧ t.delivery i =
      s.delivery i ++ imuMessages handle (labels.flatMap ImuSystemLabel.samples) from h.2.2
  induction hrun with
  | nil => exact ⟨hs, hslot, (List.append_nil _).symm⟩
  | @snoc t u labels l _ hstep ih =>
    obtain ⟨hsound, hindex, hdelivery⟩ := ih
    refine ⟨sound_of_step hsound hstep, indexOf_of_step hindex hstep, ?_⟩
    rw [delivery_of_step hsound hindex hstep, hdelivery, List.append_assoc,
      ← imuMessages_append, List.flatMap_append, List.flatMap_singleton]

/-- With another output type a whole run publishes nothing. -/
theorem published_of_run {labels : List (ImuSystemLabel R)} (hros : outputType ≠ kOutputToRos)
    (hrun : (imuMachine outputType).Run s labels t) (i : Fin kMaxSourceLidar) :
    t.published i = s.published i := by
  induction hrun with
  | nil => rfl
  | snoc _ hstep ih => exact (published_of_step hros hstep i).trans ih

end Delivery

/-! ## Waking up -/

/-- Where the producer is, as far as the protocol sees it. -/
def StorageImuPc.toProducer : StorageImuPc → WakeUp.Producer kMaxSourceLidar
  | .idle => .away
  | .testEmpty i => .check i
  | .getCount => .read
  | .signal => .signal

/-- The state of the protocol: the boxes are the lists. -/
def ImuSystem.toWakeUp (s : ImuSystem R) : WakeUp kMaxSourceLidar where
  occupied i := !(s.side.lidars i).isEmpty
  attended := s.steady
  count := s.side.count
  closing := s.flags.requestExit
  producer := s.side.producer.toProducer
  consumer := s.side.consumer.toConsumer

/-- The step of the protocol that a step of the two threads is. -/
def ImuLabel.toEvent : ImuLabel R → Option (WakeUp.Event kMaxSourceLidar)
  | .push i _ => some (.deposit i)
  | .held _ => some .checkOccupied
  | .drained _ => some .checkEmpty
  | .countZero => some .readZero
  | .countPositive => some .readPositive
  | .signal => some .signal
  | .poll l => l.toEvent
  | .wake => some .wake
  | .pop i => some (.take i)
  | .popEmpty i => some (.take i)

/-- The step of the protocol that a step of the system is. -/
def ImuSystemLabel.toEvent (s : ImuSystem R) :
    ImuSystemLabel R → Option (WakeUp.Event kMaxSourceLidar)
  | .storageImuData imuData => (imuSlot s.cacheIndex imuData).map .deposit
  | .side l => l.toEvent
  | .register _ => none
  | .setConnectState _ _ => some .neglect
  | .requestExit => some .close
  | .setExitSignal => none

/-- One list changes, and the program counters. -/
theorem toWakeUp_update (s : ImuSystem R) (i : Fin kMaxSourceLidar) (list : List (ImuData R))
    (producer : StorageImuPc) (consumer : PollPc) (count : Nat)
    (published : Fin kMaxSourceLidar → List (ImuMsg R)) :
    { s with
      side :=
        { lidars := Function.update s.side.lidars i list
          count := count, producer := producer, consumer := consumer }
      published := published }.toWakeUp =
    { s.toWakeUp with
      occupied := Function.update s.toWakeUp.occupied i (!list.isEmpty)
      count := count
      producer := producer.toProducer
      consumer := consumer.toConsumer } := by
  have hocc : (fun j => !(Function.update s.side.lidars i list j).isEmpty) =
      Function.update (fun j => !(s.side.lidars j).isEmpty) i (!list.isEmpty) := by
    funext j
    by_cases hj : j = i
    · rw [hj, Function.update_self, Function.update_self]
    · rw [Function.update_of_ne hj, Function.update_of_ne hj]
  exact congrArg (fun occupied => WakeUp.mk occupied s.steady count s.flags.requestExit
    producer.toProducer consumer.toConsumer) hocc

/-- A step of the two threads is a step of the protocol, or none. -/
theorem wakeUp_of_side {s : ImuSystem R}
    (hsteady : ∀ i, s.steady i = true → s.flags.connectState i = .kConnectStateSampling)
    {l : ImuLabel R} {side : ImuSide R} (hstep : ImuStep s.flags s.side l side)
    (published : Fin kMaxSourceLidar → List (ImuMsg R)) :
    match l.toEvent with
    | some e => WakeUp.Step s.toWakeUp e { s with side := side, published := published }.toWakeUp
    | none => { s with side := side, published := published }.toWakeUp = s.toWakeUp := by
  have hproducer : ∀ {pc : StorageImuPc}, s.side.producer = pc →
      s.toWakeUp.producer = pc.toProducer := fun h => congrArg StorageImuPc.toProducer h
  have hconsumer : ∀ {pc : PollPc}, s.side.consumer = pc →
      s.toWakeUp.consumer = pc.toConsumer := fun h => congrArg PollPc.toConsumer h
  cases hstep with
  | @push i imuData hpc =>
    have habs := toWakeUp_update s i (s.side.lidars i ++ [imuData]) (.testEmpty i)
      s.side.consumer s.side.count published
    have hstep : WakeUp.Step s.toWakeUp (.deposit i) _ :=
      .deposit (b := !(s.side.lidars i ++ [imuData]).isEmpty) (hproducer hpc)
    exact habs ▸ hstep
  | held hpc hheld =>
    exact .checkOccupied (hproducer hpc) (by simp [ImuSystem.toWakeUp, hheld])
  | drained hpc hempty =>
    exact .checkEmpty (hproducer hpc) (by simp [ImuSystem.toWakeUp, hempty])
  | countZero hpc hzero => exact .readZero (hproducer hpc) (Nat.le_zero.mp hzero)
  | countPositive hpc hpos => exact .readPositive (hproducer hpc) (Nat.lt_of_not_le hpos)
  | signal hpc => exact .signal (hproducer hpc)
  | poll hcontrol =>
    refine wakeUp_of_control rfl rfl hsteady (fun i hnull => ?_) (fun i hnothing => ?_) hcontrol
    · cases hnull
    · have hnil : (s.side.lidars i).isEmpty = true := hnothing
      simp [ImuSystem.toWakeUp, hnil]
  | wake hpc hpos => exact .wake (hconsumer hpc) hpos
  | @pop i imuData rest hpc _ =>
    have habs := toWakeUp_update s i rest s.side.producer (.whileExit i) s.side.count published
    have hstep : WakeUp.Step s.toWakeUp (.take i) _ :=
      .take (b := !rest.isEmpty) (hconsumer hpc)
    have hsame : (PollPc.whileExit i).toConsumer = s.toWakeUp.consumer := (hconsumer hpc).symm
    rw [hsame] at habs
    exact habs ▸ hstep
  | @popEmpty i hpc hnil =>
    have habs := toWakeUp_update s i [] s.side.producer (.whileExit i) s.side.count published
    have hlist : Function.update s.side.lidars i [] = s.side.lidars := by
      rw [← hnil, Function.update_eq_self]
    rw [hlist] at habs
    have hstep : WakeUp.Step s.toWakeUp (.take i) _ :=
      .take (b := !([] : List (ImuData R)).isEmpty) (hconsumer hpc)
    have hsame : (PollPc.whileExit i).toConsumer = s.toWakeUp.consumer := (hconsumer hpc).symm
    rw [hsame] at habs
    exact habs ▸ hstep

/-- A LiDAR that has been sampling throughout is sampling now. -/
theorem imu_sampling_of_steady {s : ImuSystem R}
    (h : (imuMachine (R := R) outputType).Reachable s) :
    ∀ i, s.steady i = true → s.flags.connectState i = .kConnectStateSampling := by
  refine h.invariant (fun s => ∀ i, s.steady i = true →
    s.flags.connectState i = .kConnectStateSampling) ?_ ?_
  · intro s (hinit : s.Init) i hsteady
    rw [hinit.steady] at hsteady
    exact of_decide_eq_true hsteady
  · intro s l t _ hs hstep i hsteady
    cases hstep with
    | @setConnectState j state =>
      simp only [DriverFlags.setConnectState] at hsteady ⊢
      by_cases hij : i = j
      · rw [hij, Function.update_self] at hsteady ⊢
        rw [Bool.and_eq_true] at hsteady
        exact of_decide_eq_true hsteady.2
      · rw [Function.update_of_ne hij] at hsteady ⊢
        exact hs i hsteady
    | _ => exact hs i hsteady

/-- The IMU threads, with whatever the rest of the driver does meanwhile, follow the
wake-up protocol over the lists. -/
def imuRefinement :
    (imuMachine (R := R) outputType).Refinement (WakeUp.machine kMaxSourceLidar) where
  abs := ImuSystem.toWakeUp
  event s l := l.toEvent s
  init := by
    intro s hinit
    have hside := hinit.side
    refine ⟨?_, ?_, ?_, ?_⟩
    · simp only [ImuSystem.toWakeUp, hside]
      rfl
    · simp only [ImuSystem.toWakeUp, hside]
      rfl
    · simp only [ImuSystem.toWakeUp, hside]
      rfl
    · simp only [ImuSystem.toWakeUp, hside]
      rfl
  step := by
    intro s l t e hs hstep hevent
    cases hstep with
    | unregistered _ hunknown => simp [ImuSystemLabel.toEvent, hunknown] at hevent
    | @stored imuData i side hfound hpush =>
      have h := wakeUp_of_side (imu_sampling_of_steady hs) hpush s.published
      rw [ImuSystemLabel.toEvent, hfound] at hevent
      cases hevent
      exact h
    | @side l side _ hside =>
      have h := wakeUp_of_side (imu_sampling_of_steady hs) hside
        (fun i => s.published i ++ l.sent outputType s.side i)
      rw [show l.toEvent = some e from hevent] at h
      exact h
    | register _ => cases hevent
    | @setConnectState i state =>
      cases hevent
      refine .neglect fun j hj => ?_
      change Function.update s.steady i _ j = true at hj
      by_cases hji : j = i
      · rw [hji, Function.update_self, Bool.and_eq_true] at hj
        rw [hji]
        exact hj.1
      · rwa [Function.update_of_ne hji] at hj
    | requestExit =>
      cases hevent
      exact .close
    | setExitSignal => cases hevent
  stutter := by
    intro s l t hs hstep hevent
    cases hstep with
    | unregistered _ _ => rfl
    | stored hfound _ => simp [ImuSystemLabel.toEvent, hfound] at hevent
    | @side l side _ hside =>
      have h := wakeUp_of_side (imu_sampling_of_steady hs) hside
        (fun i => s.published i ++ l.sent outputType s.side i)
      rw [show l.toEvent = none from hevent] at h
      exact h
    | register _ => rfl
    | setConnectState => cases hevent
    | requestExit => cases hevent
    | setExitSignal => rfl

/-- The invariant of the wake-up protocol, for the lists. -/
theorem wakeUpInv_of_reachable {s : ImuSystem R}
    (h : (imuMachine (R := R) outputType).Reachable s) :
    s.toWakeUp.Inv :=
  WakeUp.inv_of_reachable (imuRefinement.reachable h)

/-- The poll thread sleeps with count 0, and no sample is being stored. -/
structure ImuSystem.Asleep (s : ImuSystem R) : Prop where
  consumer : s.side.consumer = .wait
  count : s.side.count = 0
  producer : s.side.producer = .idle

/-- Then the list of a LiDAR that has been sampling throughout is empty. -/
theorem lidars_eq_nil_of_asleep {s : ImuSystem R}
    (h : (imuMachine (R := R) outputType).Reachable s) (hasleep : s.Asleep)
    {i : Fin kMaxSourceLidar} (hsteady : s.steady i = true) : s.side.lidars i = [] := by
  have hempty : (!(s.side.lidars i).isEmpty) = false :=
    (wakeUpInv_of_reachable h).empty_of_asleep (congrArg PollPc.toConsumer hasleep.consumer)
      hasleep.count (congrArg StorageImuPc.toProducer hasleep.producer) hsteady
  simpa using hempty

/-! ## Coming to rest -/

/-- A step of the two threads, other than the arrival of a sample. -/
def ImuSystemLabel.Quiet : ImuSystemLabel R → Prop
  | .side _ => True
  | _ => False

/-- How far `StorageImuData` is from its end. -/
def StorageImuPc.rank : StorageImuPc → Nat
  | .idle => 0
  | .testEmpty _ => 3
  | .getCount => 2
  | .signal => 1

/-- Whether the call may still signal. -/
def StorageImuPc.calls : StorageImuPc → Nat
  | .idle => 0
  | _ => 1

/-- How many samples wait in the lists. -/
def ImuSide.held (s : ImuSide R) : Nat :=
  ∑ i, (s.lidars i).length

/-- What the two threads have to do: passes over the LiDARs, the rest of a call, the
samples that are held, and the rest of a pass. -/
def ImuSide.work (s : ImuSide R) : Nat :=
  200 * (s.count + s.producer.calls) + s.producer.rank + 4 * s.held + s.consumer.rank

/-- The driver is not to exit, and the poll thread is where it can be then. -/
structure ImuSystem.Open (s : ImuSystem R) : Prop where
  requestExit : s.flags.requestExit = false
  exitSignal : s.flags.exitSignal = false
  bounded : s.side.consumer.Bounded
  running : s.side.consumer ≠ .finished
  publishing : ∀ i, s.side.consumer = .publish i → s.side.lidars i ≠ []

theorem held_pop {s : ImuSide R} {i : Fin kMaxSourceLidar} {imuData : ImuData R}
    {rest : List (ImuData R)} (h : s.lidars i = imuData :: rest) (count : Nat)
    (producer : StorageImuPc) (consumer : PollPc) :
    (ImuSide.mk (Function.update s.lidars i rest) count producer consumer).held + 1 = s.held := by
  have hrest : ∀ j ∈ Finset.univ.erase i,
      (Function.update s.lidars i rest j).length = (s.lidars j).length := by
    intro j hj
    rw [Function.update_of_ne (Finset.ne_of_mem_erase hj)]
  simp only [ImuSide.held]
  rw [← Finset.add_sum_erase _ _ (Finset.mem_univ i),
    ← Finset.add_sum_erase _ (fun j => (s.lidars j).length) (Finset.mem_univ i),
    Finset.sum_congr rfl hrest, Function.update_self, h, List.length_cons]
  omega

/-- Every step of the two threads uses up work. -/
theorem work_lt {s : ImuSystem R} (h : s.Open) {l : ImuLabel R} {side : ImuSide R}
    (hstep : ImuStep s.flags s.side l side) (hnot : ∀ i imuData, l ≠ .push i imuData) :
    side.work < s.side.work := by
  cases hstep with
  | push => exact absurd rfl (hnot _ _)
  | held hpc _ =>
    simp only [ImuSide.work, ImuSide.held, hpc, StorageImuPc.rank, StorageImuPc.calls]
    omega
  | drained hpc _ =>
    simp only [ImuSide.work, ImuSide.held, hpc, StorageImuPc.rank, StorageImuPc.calls]
    omega
  | countZero hpc _ =>
    simp only [ImuSide.work, ImuSide.held, hpc, StorageImuPc.rank, StorageImuPc.calls]
    omega
  | countPositive hpc _ =>
    simp only [ImuSide.work, ImuSide.held, hpc, StorageImuPc.rank, StorageImuPc.calls]
    omega
  | signal hpc =>
    simp only [ImuSide.work, ImuSide.held, hpc, StorageImuPc.rank, StorageImuPc.calls]
    omega
  | poll hcontrol =>
    have hlt := hcontrol.rank_lt h.requestExit rfl
    simp only [ImuSide.work, ImuSide.held]
    omega
  | wake hpc hpos =>
    -- a pass over all LiDARs is less than what the semaphore's count stands for
    simp only [ImuSide.work, ImuSide.held, hpc, PollPc.rank, kMaxSourceLidar]
    omega
  | @pop i imuData rest hpc hqueue =>
    have hheld := held_pop hqueue s.side.count s.side.producer (.whileExit i)
    have hlt := i.isLt
    simp only [ImuSide.work, hpc, PollPc.rank]
    omega
  | popEmpty hpc hnil => exact absurd hnil (h.publishing _ hpc)

/-- No sample leaves the lists but through the poll thread. -/
theorem publishing_of_step {flags : DriverFlags} {side next : ImuSide R} {l : ImuLabel R}
    (h : ∀ i, side.consumer = .publish i → side.lidars i ≠ []) (hstep : ImuStep flags side l next)
    (i : Fin kMaxSourceLidar) (hpc : next.consumer = .publish i) : next.lidars i ≠ [] := by
  cases hstep with
  | @push j imuData _ =>
    by_cases hj : i = j
    · subst hj
      simp
    · simp only [Function.update_of_ne hj]
      exact h i hpc
  | poll hcontrol =>
    have hheld : (side.lidars i).isEmpty = false := hcontrol.held_of_publish hpc
    exact List.isEmpty_eq_false_iff.mp hheld
  | wake => cases hpc
  | pop => cases hpc
  | popEmpty => cases hpc
  | _ => exact h i hpc

theorem publishing_of_reachable {s : ImuSystem R}
    (h : (imuMachine (R := R) outputType).Reachable s) :
    ∀ i, s.side.consumer = .publish i → s.side.lidars i ≠ [] := by
  refine h.invariant (fun s => ∀ i, s.side.consumer = .publish i → s.side.lidars i ≠ []) ?_ ?_
  · intro s (hinit : s.Init) i hpc
    rw [hinit.side] at hpc
    cases hpc
  · intro s l t _ hs hstep
    cases hstep with
    | stored _ hpush => exact publishing_of_step hs hpush
    | side _ hside => exact publishing_of_step hs hside
    | _ => exact hs

/-- The poll thread stays inside its loops, and ends on the exit signal only. -/
theorem control_of_reachable {s : ImuSystem R} (h : (imuMachine (R := R) outputType).Reachable s) :
    s.side.consumer.Bounded ∧ (s.side.consumer = .finished → s.flags.exitSignal = true) := by
  refine h.invariant (fun s => s.side.consumer.Bounded ∧
    (s.side.consumer = .finished → s.flags.exitSignal = true)) ?_ ?_
  · intro s (hinit : s.Init)
    rw [hinit.side]
    exact ⟨fun i hi => (by cases hi), fun hpc => (by cases hpc)⟩
  · rintro s l t _ ⟨hbounded, hfinished⟩ hstep
    cases hstep with
    | stored _ hpush =>
      refine ⟨ImuSide.bounded_of_step hbounded hpush, ?_⟩
      cases hpush with
      | push _ => exact hfinished
    | side hnot hside =>
      refine ⟨ImuSide.bounded_of_step hbounded hside, fun hpc => ?_⟩
      cases hside with
      | push => exact absurd rfl (hnot _ _)
      | poll hcontrol => exact hcontrol.exitSignal_of_finished hpc
      | wake => cases hpc
      | pop => cases hpc
      | popEmpty => cases hpc
      | _ => exact hfinished hpc
    | setExitSignal => exact ⟨hbounded, fun _ => rfl⟩
    | _ => exact ⟨hbounded, hfinished⟩

theorem open_of_reachable {s : ImuSystem R} (h : (imuMachine (R := R) outputType).Reachable s)
    (hexit : s.flags.requestExit = false) (hsignal : s.flags.exitSignal = false) : s.Open where
  requestExit := hexit
  exitSignal := hsignal
  bounded := (control_of_reachable h).1
  running hpc := by
    rw [(control_of_reachable h).2 hpc] at hsignal
    cases hsignal
  publishing := publishing_of_reachable h

/-- The two threads settle while the driver is not to exit. -/
theorem imuMachine_settles (steady : Fin kMaxSourceLidar → Bool) :
    (imuMachine (R := R) outputType).Settles ImuSystemLabel.Quiet
      (fun s => (imuMachine (R := R) outputType).Reachable s ∧ s.Open ∧ s.steady = steady)
      (fun s => s.side.work) where
  keeps := by
    rintro s t l ⟨hs, hopen, hsteady⟩ hquiet hstep
    have ht := hs.step hstep
    cases hstep with
    | side _ _ => exact ⟨ht, open_of_reachable ht hopen.requestExit hopen.exitSignal, hsteady⟩
    | _ => cases hquiet
  works := by
    rintro s t l ⟨_, hopen, _⟩ hquiet hstep
    cases hstep with
    | side hnot hside => exact work_lt hopen hside hnot
    | _ => cases hquiet

/-- A producer in the middle of a call can go on. -/
theorem producer_idle_of_rests {s : ImuSystem R}
    (hrest : (imuMachine outputType).Rests ImuSystemLabel.Quiet s) : s.side.producer = .idle := by
  have hno : ∀ {l : ImuLabel R} {side : ImuSide R}, (∀ i imuData, l ≠ .push i imuData) →
      ¬ ImuStep s.flags s.side l side := fun {l} _ hnot hstep =>
    hrest (.side l) _ trivial (.side hnot hstep)
  cases hpc : s.side.producer with
  | idle => rfl
  | testEmpty i =>
    cases hheld : (s.side.lidars i).isEmpty with
    | true => exact absurd (.drained hpc hheld) (hno (by simp))
    | false => exact absurd (.held hpc hheld) (hno (by simp))
  | getCount =>
    by_cases hcount : s.side.count ≤ 0
    · exact absurd (.countZero hpc hcount) (hno (by simp))
    · exact absurd (.countPositive hpc hcount) (hno (by simp))
  | signal => exact absurd (.signal hpc) (hno (by simp))

/-- A poll thread that is not to exit can go on unless it waits with count 0. -/
theorem asleep_of_rests {s : ImuSystem R} (h : s.Open)
    (hrest : (imuMachine outputType).Rests ImuSystemLabel.Quiet s) : s.Asleep := by
  have hno : ∀ {l : ImuLabel R} {side : ImuSide R}, (∀ i imuData, l ≠ .push i imuData) →
      ¬ ImuStep s.flags s.side l side := fun {l} _ hnot hstep =>
    hrest (.side l) _ trivial (.side hnot hstep)
  have hidle := producer_idle_of_rests hrest
  rcases PollPc.exists_test s.side.view h.requestExit h.exitSignal h.bounded with
    hwait | hfinished | ⟨i, hpc⟩ | ⟨l, pc, hcontrol⟩
  · refine ⟨hwait, Nat.eq_zero_of_not_pos fun hpos => ?_, hidle⟩
    exact hno (by simp) (.wake hwait hpos)
  · exact absurd hfinished h.running
  · obtain ⟨imuData, rest, hqueue⟩ := List.exists_cons_of_ne_nil (h.publishing i hpc)
    exact absurd (.pop hpc hqueue) (hno (by simp))
  · exact absurd (.poll hcontrol) (hno (by simp))

/-- No samples come in a quiet run. -/
theorem samples_of_quiet {labels : List (ImuSystemLabel R)} (hquiet : ∀ l ∈ labels, l.Quiet) :
    labels.flatMap ImuSystemLabel.samples = [] := by
  refine List.flatMap_eq_nil_iff.mpr fun l hl => ?_
  have hl' := hquiet l hl
  cases l with
  | side _ => rfl
  | _ => cases hl'

/-! ## The results -/

/-- **Every sample of a registered LiDAR is delivered.**

Take any run from any reachable state, with samples of any LiDARs, registrations, changes of
the connect states and requests to exit.

  * The semaphore's count never exceeds 1, and while the poll thread sleeps with count 0 and
    no sample is being stored, the list of every LiDAR that has been sampling throughout is
    empty.
  * If the output goes to ROS, what the slot of a registered LiDAR has published and still
    holds grows by the messages of exactly the LiDAR's samples, in order; and while the poll
    thread sleeps, all of it is published.
  * With any other output type nothing is published. -/
theorem imu_delivered {s t : ImuSystem R} (hs : (imuMachine (R := R) outputType).Reachable s)
    {labels : List (ImuSystemLabel R)} (hrun : (imuMachine outputType).Run s labels t) :
    t.side.count ≤ 1 ∧
    (t.Asleep → ∀ i, t.steady i = true → t.side.lidars i = []) ∧
    (outputType = kOutputToRos → ∀ handle i, s.cacheIndex.indexOf handle = some i →
      t.delivery i = s.delivery i ++ imuMessages handle (labels.flatMap ImuSystemLabel.samples) ∧
      (t.Asleep → t.steady i = true →
        t.published i =
          s.delivery i ++ imuMessages handle (labels.flatMap ImuSystemLabel.samples))) ∧
    (outputType ≠ kOutputToRos → ∀ i, t.published i = s.published i) := by
  have ht := hrun.reachable hs
  refine ⟨(wakeUpInv_of_reachable ht).count_le, fun hasleep i => lidars_eq_nil_of_asleep ht hasleep,
    ?_, fun hros => published_of_run hros hrun⟩
  rintro rfl handle i hslot
  have hdelivery := delivery_of_run (sound_of_reachable hs) hslot hrun
  refine ⟨hdelivery, fun hasleep hsteady => ?_⟩
  have hnil := lidars_eq_nil_of_asleep ht hasleep hsteady
  rw [← hdelivery, ImuSystem.delivery, hnil, List.map_nil, List.append_nil]

/-- A sample of LiDAR 7. -/
def oneSample : ImuData Int where
  lidarType := LidarProtoType.kLivoxLidarType.code
  handle := 7
  timeStamp := 1000
  gyroX := 1
  gyroY := 2
  gyroZ := 3
  accX := 4
  accY := 5
  accZ := 6

/-- LiDAR 7 is registered and sampling, and its first sample is stored. -/
theorem exists_imu_stored (outputType : UInt8) : ∃ (s : ImuSystem Int) (side : ImuSide Int)
    (i : Fin kMaxSourceLidar), s.Init ∧ s.cacheIndex.indexOf 7 = some i ∧ s.steady i = true ∧
      s.delivery i = [] ∧
      (imuMachine outputType).Run s [.storageImuData oneSample] { s with side := side } := by
  obtain ⟨cacheIndex, i, hsound, hslot⟩ := CacheIndex.exists_registered 7
  let start : ImuSystem Int :=
    { flags := ⟨fun _ => .kConnectStateSampling, false, false⟩
      cacheIndex := cacheIndex
      side := .initial
      published := fun _ => []
      steady := fun _ => true }
  have hstored : imuSlot cacheIndex oneSample = some i := imuSlot_eq_some_iff.mpr ⟨rfl, hslot⟩
  have hstep : ImuSystemStep outputType start _ _ := .stored hstored (.push rfl)
  exact ⟨start, _, i, ⟨rfl, hsound, fun _ => rfl, fun _ => rfl, rfl, rfl⟩, hslot, rfl, rfl,
    .snoc (.nil start) hstep⟩

/-- The sample of LiDAR 7 is stored, taken by the poll thread and published. -/
theorem imu_delivered_oneSample :
    ∃ (s t : ImuSystem Int) (i : Fin kMaxSourceLidar) (labels : List (ImuSystemLabel Int)),
      s.Init ∧ s.cacheIndex.indexOf 7 = some i ∧ (imuMachine kOutputToRos).Run s labels t ∧
      labels.flatMap ImuSystemLabel.samples = [oneSample] ∧ t.Asleep ∧
      t.published i = [initImuMsg oneSample] := by
  obtain ⟨s, side, i, hinit, hslot, hsteady, hempty, hrun⟩ := exists_imu_stored kOutputToRos
  have hs := hrun.reachable (.init hinit)
  have hopen := open_of_reachable hs hinit.requestExit hinit.exitSignal
  have hsettles : (imuMachine (R := Int) kOutputToRos).Settles _ _ _ :=
    imuMachine_settles s.steady
  obtain ⟨more, t, hmore, hquiet, hrest⟩ := hsettles.exists_rest ⟨hs, hopen, rfl⟩
  obtain ⟨⟨-, hopen', hsame⟩, -⟩ := hsettles.run hmore hquiet ⟨hs, hopen, rfl⟩
  have hasleep := asleep_of_rests hopen' hrest
  have hsamples : (.storageImuData oneSample :: more).flatMap ImuSystemLabel.samples =
      [oneSample] := by
    rw [List.flatMap_cons, samples_of_quiet hquiet]
    rfl
  obtain ⟨-, -, hdelivered, -⟩ := imu_delivered (.init hinit) (hrun.append hmore)
  have hpublished := (hdelivered rfl 7 i hslot).2 hasleep (hsame ▸ hsteady)
  rw [hempty, List.singleton_append, hsamples] at hpublished
  exact ⟨s, t, i, _, hinit, hslot, hrun.append hmore, hsamples, hasleep, hpublished⟩

/-- **The IMU threads come to rest.**

In any reachable state of a driver that is not to exit, let no more samples come.  However
the two threads interleave, they take no more steps than there is work; every run of theirs
can be continued until no step is left; and then the poll thread sleeps, and the lists of the
LiDARs that have been sampling throughout are empty: if the output goes to ROS, everything is
published that the registered ones among them ever sent. -/
theorem imu_settles {s t : ImuSystem R} (hs : (imuMachine (R := R) outputType).Reachable s)
    (hexit : s.flags.requestExit = false) (hsignal : s.flags.exitSignal = false)
    {labels : List (ImuSystemLabel R)} (hrun : (imuMachine outputType).Run s labels t)
    (hquiet : ∀ l ∈ labels, l.Quiet) :
    labels.length ≤ s.side.work ∧
    (∃ more u, (imuMachine outputType).Run t more u ∧ (∀ l ∈ more, l.Quiet) ∧
      (imuMachine outputType).Rests ImuSystemLabel.Quiet u) ∧
    ((imuMachine outputType).Rests ImuSystemLabel.Quiet t → t.Asleep ∧
      (∀ i, s.steady i = true → t.side.lidars i = []) ∧
      (outputType = kOutputToRos → ∀ handle i, s.cacheIndex.indexOf handle = some i →
        s.steady i = true → t.published i = s.delivery i)) := by
  have hsettles : (imuMachine (R := R) outputType).Settles _ _ _ := imuMachine_settles s.steady
  have hstart : (imuMachine outputType).Reachable s ∧ s.Open ∧ s.steady = s.steady :=
    ⟨hs, open_of_reachable hs hexit hsignal, rfl⟩
  obtain ⟨⟨ht, hopen, hsame⟩, -⟩ := hsettles.run hrun hquiet hstart
  refine ⟨hsettles.length_le hrun hquiet hstart,
    hsettles.exists_rest ⟨ht, hopen, hsame⟩, fun hrest => ?_⟩
  have hasleep := asleep_of_rests hopen hrest
  have hempty : ∀ i, s.steady i = true → t.side.lidars i = [] := fun i hsteady =>
    lidars_eq_nil_of_asleep ht hasleep (hsame ▸ hsteady)
  refine ⟨hasleep, hempty, ?_⟩
  rintro rfl handle i hslot hsteady
  have hdelivery := delivery_of_run (sound_of_reachable hs) hslot hrun
  rw [samples_of_quiet hquiet, ImuSystem.delivery, hempty i hsteady, List.map_nil,
    List.append_nil] at hdelivery
  exact hdelivery.trans (List.append_nil _)

/-- The sample of LiDAR 7 is stored while nothing else is going on, and the threads settle. -/
theorem imu_settles_oneSample :
    ∃ (start s t : ImuSystem Int) (i : Fin kMaxSourceLidar)
      (more : List (ImuSystemLabel Int)),
      start.Init ∧ (imuMachine kOutputToRos).Run start [.storageImuData oneSample] s ∧
      s.published i = [] ∧ (imuMachine kOutputToRos).Run s more t ∧
      more.length ≤ s.side.work ∧ t.Asleep ∧ t.published i = [initImuMsg oneSample] := by
  obtain ⟨s, side, i, hinit, hslot, hsteady, hempty, hrun⟩ := exists_imu_stored kOutputToRos
  have hs := hrun.reachable (.init hinit)
  obtain ⟨-, ⟨more, t, hmore, hquiet, hrest⟩, -⟩ :=
    imu_settles hs hinit.requestExit hinit.exitSignal (.nil _)
      (fun l hl => absurd hl List.not_mem_nil)
  obtain ⟨hlength, -, hdone⟩ := imu_settles hs hinit.requestExit hinit.exitSignal hmore hquiet
  obtain ⟨hasleep, -, hpublished⟩ := hdone hrest
  have hdelivery := delivery_of_run hinit.registry hslot hrun
  rw [hempty] at hdelivery
  exact ⟨s, _, t, i, more, hinit, hrun, hinit.published i, hmore, hlength, hasleep,
    (hpublished rfl 7 i hslot hsteady).trans hdelivery⟩

end RoboRacer.Driver
