/-
  Driver/QueuePolling.lean --- does polling one queue come to an end?  (`lddc.cpp`,
  `PollingLidarPointCloudData` and the publish functions it calls.)

  `PollingLidarPointCloudData` loops until the queue is empty and leaves it to the
  publish function of the transfer format to take packets out.  Here nobody asks for
  an exit and nobody pushes, so each run is one thread alone:

      Polling.step           one test, one pop or one call
      pollingMachine         a call of `PollingLidarPointCloudData`
      polling_drains_iff     when the call returns with an empty queue

  The publish functions are given by what they take out of the queue; the packets
  whose messages go out are recorded.
-/
import RoboRacer.Driver.PollThreads

set_option autoImplicit false

namespace RoboRacer.Driver

open RoboRacer.Foundation

variable {R : Type}

/-! ## The program -/

/-- The ROS version that the driver is built for. -/
inductive RosVersion where
  | ros1
  | ros2
  deriving DecidableEq

/-- The publish functions of `Lddc`. -/
inductive PublishFunction where
  | publishPointcloud2
  | publishCustomPointcloud
  | publishPclMsg
  deriving DecidableEq

/-- The publish function of a value of `transfer_format_`. -/
def publishFunction (transferFormat : UInt8) : Option PublishFunction :=
  if kPointCloud2Msg = transferFormat then some .publishPointcloud2
  else if kLivoxCustomMsg = transferFormat then some .publishCustomPointcloud
  else if kPclPxyziMsg = transferFormat then some .publishPclMsg
  else none

/-- Whether the function has a loop over the queue: built for ROS 2, `PublishPclMsg`
reports an error and returns. -/
def PublishFunction.loops : PublishFunction → RosVersion → Bool
  | .publishPclMsg, .ros2 => false
  | _, _ => true

/-- `QueuePrePop`: a copy of the oldest packet, or `none` for an empty queue. -/
def queuePrePop (queue : LidarDataQueue R) : Option (Option (StoragePacket R)) :=
  if queueIsEmpty queue then some none else (queueCopySlot queue).map some

/-- `QueuePop`. -/
def queuePop (queue : LidarDataQueue R) :
    Option (LidarDataQueue R × Option (StoragePacket R)) := do
  match ← queuePrePop queue with
  | none => return (queue, none)
  | some pkg => return (queuePopUpdate queue, some pkg)

/-- Where the thread is. -/
inductive PollingPc where
  /-- At the test for the queue's storage. -/
  | enter
  /-- At the head of the loop of `PollingLidarPointCloudData`. -/
  | whileHeld
  /-- In the publish function, at the head of its loop if it has one. -/
  | publish (function : PublishFunction)
  | returned
  deriving DecidableEq

/-- The thread, the queue and the packets published so far. -/
structure Polling (R : Type) where
  pc : PollingPc
  queue : LidarDataQueue R
  published : List (StoragePacket R)

namespace Polling

/-- `PollingLidarPointCloudData` is called. -/
def initial (queue : LidarDataQueue R) : Polling R :=
  { pc := .enter, queue := queue, published := [] }

/-- The body of a publish loop: a packet without points is skipped. -/
def publishNext (s : Polling R) : Option (Polling R) := do
  let (queue, pkg) ← queuePop s.queue
  let pkg := pkg.getD .fresh
  if pkg.points.isEmpty then return { s with queue := queue }
  return { s with queue := queue, published := s.published ++ [pkg] }

/-- One step of the thread.  A step is `none` when the thread has returned, or when it
would read a slot that is not there. -/
def step (ros : RosVersion) (transferFormat : UInt8) (s : Polling R) (_ : Unit) :
    Option (Polling R) :=
  match s.pc with
  | .enter =>
    if s.queue.storagePacket.isNull then some { s with pc := .returned }
    else some { s with pc := .whileHeld }
  | .whileHeld =>
    if queueIsEmpty s.queue then some { s with pc := .returned }
    else
      match publishFunction transferFormat with
      | none => some s
      | some function => some { s with pc := .publish function }
  | .publish function =>
    if function.loops ros = false ∨ queueIsEmpty s.queue then some { s with pc := .whileHeld }
    else s.publishNext
  | .returned => none

end Polling

/-- `PollingLidarPointCloudData` on a queue. -/
def pollingMachine (ros : RosVersion) (transferFormat : UInt8) (queue : LidarDataQueue R) :
    Machine (Polling R) Unit :=
  .ofStep (.initial queue) (Polling.step ros transferFormat)

/-! ## The property -/

/-- The call returns, and the queue is empty then. -/
def PollingDrains (ros : RosVersion) (transferFormat : UInt8) (queue : LidarDataQueue R) : Prop :=
  ∃ labels s, (pollingMachine ros transferFormat queue).Run (.initial queue) labels s ∧
    s.pc = .returned ∧ queueIsEmpty s.queue = true

/-- Whether the transfer format has a publish function that takes packets out. -/
def consumes (ros : RosVersion) (transferFormat : UInt8) : Bool :=
  match publishFunction transferFormat with
  | none => false
  | some function => function.loops ros

/-- The formats that take packets out, in either build. -/
theorem consumes_iff (ros : RosVersion) (transferFormat : UInt8) :
    consumes ros transferFormat = true ↔ transferFormat = kPointCloud2Msg ∨
      transferFormat = kLivoxCustomMsg ∨ (transferFormat = kPclPxyziMsg ∧ ros = .ros1) := by
  unfold consumes publishFunction
  by_cases hpointcloud2 : kPointCloud2Msg = transferFormat
  · rw [if_pos hpointcloud2]
    exact ⟨fun _ => .inl hpointcloud2.symm, fun _ => rfl⟩
  rw [if_neg hpointcloud2]
  by_cases hcustom : kLivoxCustomMsg = transferFormat
  · rw [if_pos hcustom]
    exact ⟨fun _ => .inr (.inl hcustom.symm), fun _ => rfl⟩
  rw [if_neg hcustom]
  by_cases hpcl : kPclPxyziMsg = transferFormat
  · rw [if_pos hpcl]
    subst hpcl
    cases ros with
    | ros1 => exact ⟨fun _ => .inr (.inr ⟨rfl, rfl⟩), fun _ => rfl⟩
    | ros2 => decide
  · rw [if_neg hpcl]
    constructor
    · intro h
      cases h
    · rintro (h | h | ⟨h, -⟩)
      · exact absurd h.symm hpointcloud2
      · exact absurd h.symm hcustom
      · exact absurd h.symm hpcl

/-! ## What a queue holds -/

/-- The packets that a queue holds, oldest first. -/
def LidarDataQueue.Holds (queue : LidarDataQueue R) (held : List (StoragePacket R)) : Prop :=
  ∃ k slots popped, queue.Ready k slots ∧ queue.rdIdx = UInt32.ofNat popped ∧
    queue.wrIdx = UInt32.ofNat (popped + held.length) ∧ held.length ≤ slots.length ∧
    Ring.Holds slots popped held ∧ ∀ pkg ∈ held, pkg.points.length = pkg.pointsNum.toNat

namespace LidarDataQueue.Holds

variable {queue : LidarDataQueue R} {held : List (StoragePacket R)}

theorem isEmpty_iff (h : queue.Holds held) : queueIsEmpty queue = true ↔ held = [] := by
  obtain ⟨k, slots, popped, hready, hrd, hwr, hroom, -, -⟩ := h
  have hlen := hready.length_le
  rw [queueIsEmpty_iff hrd hwr (by omega) (by omega), ← List.length_eq_zero_iff]
  omega

theorem isNull (h : queue.Holds held) : queue.storagePacket.isNull = false := by
  obtain ⟨k, slots, popped, hready, -⟩ := h
  rw [hready.storage]
  rfl

/-- A pop takes the oldest packet, and the queue holds the others. -/
theorem pop {pkg : StoragePacket R} {rest : List (StoragePacket R)}
    (h : queue.Holds (pkg :: rest)) :
    queuePop queue = some (queuePopUpdate queue, some pkg) ∧
      (queuePopUpdate queue).Holds rest := by
  have hheld : queueIsEmpty queue = false := by
    rw [← Bool.not_eq_true, h.isEmpty_iff]
    exact List.cons_ne_nil pkg rest
  obtain ⟨k, slots, popped, hready, hrd, hwr, hroom, hwindow, hpoints⟩ := h
  have hlen : pkg.points.length = pkg.pointsNum.toNat := hpoints pkg List.mem_cons_self
  constructor
  · have hcopy : queueCopySlot queue = some pkg := by
      unfold queueCopySlot
      rw [hrd, hready.readSlot_eq, hwindow.head]
      simp only [hlen, Nat.le_refl, if_true]
      rw [← hlen, List.take_length]
    unfold queuePop queuePrePop
    rw [hheld, if_neg Bool.false_ne_true, hcopy]
    rfl
  · have hready' : (queuePopUpdate queue).Ready k slots :=
      ⟨hready.width, hready.storage, hready.length, hready.size, hready.mask⟩
    refine ⟨k, slots, popped + 1, hready', ?_, ?_, ?_, hwindow.tail, ?_⟩
    · change queue.rdIdx + 1 = _
      rw [hrd, UInt32.ofNat_add]
      rfl
    · change queue.wrIdx = _
      rw [hwr, List.length_cons]
      congr 1
      omega
    · rw [List.length_cons] at hroom
      omega
    · intro packet hmem
      exact hpoints packet (List.mem_cons_of_mem _ hmem)

end LidarDataQueue.Holds

/-- A queue that only the two threads have used holds what was pushed and not popped. -/
theorem InUse.holds {config : PollConfig} {q : QueueState R} (h : InUse config q) :
    q.queue.Holds q.held := by
  obtain ⟨k, slots, hinv⟩ := h.inv
  refine ⟨k, slots, q.popped.length, hinv.ready, hinv.rdIdx, ?_, hinv.room, hinv.window, ?_⟩
  · rw [hinv.wrIdx, hinv.length_pushed]
  · intro packet hmem
    exact length_points_of_mem_pushed (List.mem_of_mem_drop hmem)

/-! ## Runs -/

section Runs

variable {ros : RosVersion} {transferFormat : UInt8} {queue : LidarDataQueue R} {s t : Polling R}

/-- One step at the beginning of a run. -/
theorem run_step {labels : List Unit} {u : Polling R}
    (h : Polling.step ros transferFormat s () = some t)
    (hrun : (pollingMachine ros transferFormat queue).Run t labels u) :
    (pollingMachine ros transferFormat queue).Run s (() :: labels) u :=
  Machine.Run.cons h hrun

/-- The packets that have points. -/
def withPoints (held : List (StoragePacket R)) : List (StoragePacket R) :=
  held.filter (fun pkg => !pkg.points.isEmpty)

/-- The body of a publish loop takes the oldest packet out of the queue. -/
theorem publishNext_eq {pkg : StoragePacket R} {queue : LidarDataQueue R}
    (hpop : queuePop s.queue = some (queue, some pkg)) :
    s.publishNext = some
      { s with queue := queue, published := s.published ++ withPoints [pkg] } := by
  unfold Polling.publishNext
  rw [hpop]
  cases hpoints : pkg.points.isEmpty with
  | true => simp_all [withPoints]
  | false => simp_all [withPoints]

/-- A publish loop takes everything out of the queue, by induction on what it holds:
packets without points are taken out as well. -/
theorem publish_loop (ros : RosVersion) (transferFormat : UInt8) (queue : LidarDataQueue R)
    {s : Polling R} {function : PublishFunction} (hloops : function.loops ros = true)
    {held : List (StoragePacket R)} (hpc : s.pc = .publish function) (hheld : s.queue.Holds held) :
    ∃ labels t, (pollingMachine ros transferFormat queue).Run s labels t ∧
      t.pc = .whileHeld ∧ t.queue.Holds [] ∧ t.published = s.published ++ withPoints held := by
  induction held generalizing s with
  | nil =>
    have hempty : queueIsEmpty s.queue = true := hheld.isEmpty_iff.mpr rfl
    have hstep : Polling.step ros transferFormat s () = some { s with pc := .whileHeld } := by
      simp [Polling.step, hpc, hempty]
    exact ⟨[()], _, run_step hstep (.nil _), rfl, hheld, by simp [withPoints]⟩
  | cons pkg rest ih =>
    obtain ⟨hpop, hrest⟩ := hheld.pop
    have hempty : queueIsEmpty s.queue = false := by
      rw [← Bool.not_eq_true, hheld.isEmpty_iff]
      exact List.cons_ne_nil pkg rest
    have hstep : Polling.step ros transferFormat s () = s.publishNext := by
      simp [Polling.step, hpc, hempty, hloops]
    rw [publishNext_eq hpop] at hstep
    obtain ⟨labels, t, hrun, htpc, hdrained, hpublished⟩ :=
      ih (s := { s with
        queue := queuePopUpdate s.queue
        published := s.published ++ withPoints [pkg] }) hpc hrest
    refine ⟨_, t, run_step hstep hrun, htpc, hdrained, ?_⟩
    rw [hpublished, List.append_assoc]
    congr 1
    exact (List.filter_append ..).symm

/-- The call returns at once when the queue is empty. -/
theorem drains_of_empty (hempty : queueIsEmpty queue = true) :
    PollingDrains ros transferFormat queue := by
  cases hnull : queue.storagePacket.isNull with
  | true =>
    have henter : Polling.step ros transferFormat (.initial queue) () =
        some { Polling.initial queue with pc := .returned } := by
      simp [Polling.step, Polling.initial, hnull]
    exact ⟨_, _, run_step henter (.nil _), rfl, hempty⟩
  | false =>
    have henter : Polling.step ros transferFormat (.initial queue) () =
        some { Polling.initial queue with pc := .whileHeld } := by
      simp [Polling.step, Polling.initial, hnull]
    have hreturn : Polling.step ros transferFormat
        { Polling.initial queue with pc := .whileHeld } () =
          some { Polling.initial queue with pc := .returned } := by
      simp [Polling.step, Polling.initial, hempty]
    exact ⟨_, _, run_step henter (run_step hreturn (.nil _)), rfl, hempty⟩

/-- A transfer format whose packets are taken out: the call publishes what the queue
holds, and empties it. -/
theorem drains_of_consumes (hconsumes : consumes ros transferFormat = true)
    (hempty : queueIsEmpty queue = false) {held : List (StoragePacket R)}
    (hheld : queue.Holds held) :
    ∃ labels s, (pollingMachine ros transferFormat queue).Run (.initial queue) labels s ∧
      s.pc = .returned ∧ queueIsEmpty s.queue = true ∧ s.published = withPoints held := by
  have henter : Polling.step ros transferFormat (.initial queue) () =
      some { Polling.initial queue with pc := .whileHeld } := by
    simp [Polling.step, Polling.initial, hheld.isNull]
  unfold consumes at hconsumes
  cases hfunction : publishFunction transferFormat with
  | none =>
    rw [hfunction] at hconsumes
    cases hconsumes
  | some function =>
    rw [hfunction] at hconsumes
    have hcall : Polling.step ros transferFormat
        { Polling.initial queue with pc := .whileHeld } () =
        some { Polling.initial queue with pc := .publish function } := by
      simp [Polling.step, Polling.initial, hempty, hfunction]
    obtain ⟨labels, t, hrun, htpc, hdrained, hpublished⟩ :=
      publish_loop ros transferFormat queue hconsumes
        (s := { Polling.initial queue with pc := .publish function }) rfl hheld
    have hdone : queueIsEmpty t.queue = true := hdrained.isEmpty_iff.mpr rfl
    have hreturn : Polling.step ros transferFormat t () = some { t with pc := .returned } := by
      simp [Polling.step, htpc, hdone]
    exact ⟨_, _, run_step henter (run_step hcall (hrun.append (run_step hreturn (.nil _)))),
      rfl, hdone, hpublished⟩

/-- A transfer format whose packets stay where they are: as long as the queue holds
something, the call does not return. -/
theorem spins_of_not_consumes (hconsumes : consumes ros transferFormat = false)
    (hnull : queue.storagePacket.isNull = false) (hheld : queueIsEmpty queue = false)
    {labels : List Unit}
    (hrun : (pollingMachine ros transferFormat queue).Run (.initial queue) labels s) :
    s.pc ≠ .returned ∧ s.queue = queue ∧
      ∀ function, s.pc = .publish function → function.loops ros = false := by
  induction hrun with
  | nil => exact ⟨nofun, rfl, nofun⟩
  | @snoc t u labels l _ hstep ih =>
    obtain ⟨hpc, hqueue, hpublish⟩ := ih
    have hstep : Polling.step ros transferFormat t l = some u := hstep
    unfold Polling.step at hstep
    rw [hqueue, hnull, hheld] at hstep
    cases htpc : t.pc with
    | enter =>
      rw [htpc] at hstep
      cases hstep
      exact ⟨nofun, rfl, nofun⟩
    | whileHeld =>
      rw [htpc] at hstep
      unfold consumes at hconsumes
      cases hfunction : publishFunction transferFormat with
      | none =>
        rw [hfunction] at hstep
        cases hstep
        exact ⟨hpc, hqueue, hpublish⟩
      | some function =>
        rw [hfunction] at hstep hconsumes
        cases hstep
        refine ⟨nofun, rfl, fun other hother => ?_⟩
        cases hother
        exact hconsumes
    | publish function =>
      rw [htpc] at hstep
      dsimp only at hstep
      rw [if_pos (.inl (hpublish function htpc))] at hstep
      cases hstep
      exact ⟨nofun, rfl, nofun⟩
    | returned => exact absurd htpc hpc

end Runs

/-- **Polling a queue.**  The call returns with an empty queue exactly when there was
nothing to poll, or when the transfer format has a publish function that takes packets
out: the formats 0 and 1, and in a build for ROS 1 also the format 2. -/
theorem polling_drains_iff (ros : RosVersion) {config : PollConfig} {q : QueueState R}
    (hq : QueueOk config q) :
    PollingDrains ros config.transferFormat q.queue ↔ queueIsEmpty q.queue = true ∨
      config.transferFormat = kPointCloud2Msg ∨ config.transferFormat = kLivoxCustomMsg ∨
      (config.transferFormat = kPclPxyziMsg ∧ ros = .ros1) := by
  rw [← consumes_iff]
  cases hempty : queueIsEmpty q.queue with
  | true => exact ⟨fun _ => .inl rfl, fun _ => drains_of_empty hempty⟩
  | false =>
    have huse : InUse config q := by
      rcases hq with rfl | huse
      · cases hempty
      · exact huse
    cases hconsumes : consumes ros config.transferFormat with
    | true =>
      obtain ⟨labels, s, hrun, hpc, hdone, -⟩ := drains_of_consumes hconsumes hempty huse.holds
      exact ⟨fun _ => .inr rfl, fun _ => ⟨labels, s, hrun, hpc, hdone⟩⟩
    | false =>
      constructor
      · rintro ⟨labels, s, hrun, hpc, -⟩
        exact absurd hpc (spins_of_not_consumes hconsumes huse.isNull hempty hrun).1
      · rintro (h | h)
        · cases h
        · cases h

/-- Any packet can be the only one in a queue. -/
theorem exists_inUse_single (config : PollConfig) (call : PushCall R) :
    ∃ q : QueueState R, InUse config q ∧ queueIsEmpty q.queue = false := by
  have huntouched : QueueOk config (.initial (.zeroed : LidarDataQueue R)) := .inl rfl
  obtain ⟨queue, -, huse, -⟩ := huntouched.lazyInit
  obtain ⟨k, slots, hinv⟩ := huse.inv
  have hroom : queueIsFull queue = false := by
    rw [← Bool.not_eq_true, hinv.isFull_iff]
    exact hinv.ready.length_pos.ne
  have henter := huse.step (show QueueStep _ (.enter call) _ from .enter rfl hroom)
  obtain ⟨k, slots, hinv⟩ := henter.inv
  have hwrite := henter.step (.write rfl (hinv.pushSlot_eq call))
  have hadvance := hwrite.step (.advance rfl)
  obtain ⟨k, slots, hinv⟩ := hadvance.inv
  refine ⟨_, hadvance, ?_⟩
  rw [← Bool.not_eq_true, hinv.isEmpty_iff]
  exact List.cons_ne_nil call.stored []

theorem polling_drains_pointcloud2 :
    ∃ q : QueueState Int, queueIsEmpty q.queue = false ∧
      (PollingDrains .ros2 kPointCloud2Msg q.queue ↔ queueIsEmpty q.queue = true ∨
        kPointCloud2Msg = kPointCloud2Msg ∨ kPointCloud2Msg = kLivoxCustomMsg ∨
        (kPointCloud2Msg = kPclPxyziMsg ∧ RosVersion.ros2 = .ros1)) := by
  obtain ⟨q, huse, hheld⟩ := exists_inUse_single (R := Int)
    ⟨.ofParameter 10, kPointCloud2Msg⟩ ⟨⟨0, 0, 0, [], Nat.le_refl 0⟩, 0⟩
  exact ⟨q, hheld, polling_drains_iff .ros2 (.inr huse)⟩

/-- Built for ROS 2, with the format 2: the call never returns from a queue with one
packet. -/
theorem pclMsg_spins :
    ¬ ∀ (ros : RosVersion) (config : PollConfig) (q : QueueState Int), QueueOk config q →
      PollingDrains ros config.transferFormat q.queue := by
  intro h
  let config : PollConfig := ⟨.ofParameter 10, kPclPxyziMsg⟩
  obtain ⟨q, huse, hheld⟩ := exists_inUse_single (R := Int) config ⟨⟨0, 0, 0, [], Nat.le_refl 0⟩, 0⟩
  obtain ⟨labels, s, hrun, hpc, -⟩ := h .ros2 config q (.inr huse)
  exact (spins_of_not_consumes rfl huse.isNull hheld hrun).1 hpc

end RoboRacer.Driver
