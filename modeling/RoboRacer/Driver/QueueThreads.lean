/-
  Driver/QueueThreads.lean --- one producer and one consumer on a point cloud queue.

  The producer runs `Lds::PushLidarData`: it tests `QueueIsFull`, writes a slot
  and increments `wr_idx`.  The consumer runs the publish loop of `Lddc`: it
  tests `QueueIsEmpty`, tests it again inside `QueuePrePop`, copies a slot and
  increments `rd_idx`.  Each of these is one step, and the two threads
  interleave in any order.

  The main result is that this machine refines the bounded FIFO of
  `Foundation/BoundedFifo.lean`: a push takes effect when `wr_idx` is
  incremented, a pop when `rd_idx` is.
-/
import RoboRacer.Driver.Ldq

set_option autoImplicit false

namespace RoboRacer.Driver

open RoboRacer.Foundation

variable {R : Type}

/-! ## The two threads -/

/-- The arguments of one `PushLidarData` call. -/
structure PushCall (R : Type) where
  lidarData : PointPacket R
  baseTime : UInt64

/-- The slot contents a push call stands for. -/
def PushCall.stored (call : PushCall R) : StoragePacket R :=
  call.lidarData.stored call.baseTime

/-- Where the producer is inside `PushLidarData`. -/
inductive ProducerPc (R : Type) where
  /-- Not in a call, or about to test `QueueIsFull`. -/
  | idle
  /-- The queue was not full; the slot is to be written. -/
  | write (call : PushCall R)
  /-- The slot is written; `wr_idx` is to be incremented. -/
  | advance (call : PushCall R)

/-- Where the consumer is inside its publish loop. -/
inductive ConsumerPc (R : Type) where
  /-- At the loop's `QueueIsEmpty` test. -/
  | idle
  /-- At the `QueueIsEmpty` test of `QueuePrePop`. -/
  | prePop
  /-- About to copy the slot. -/
  | copy
  /-- The slot is copied to `pkg`; `rd_idx` is to be incremented. -/
  | update (pkg : StoragePacket R)

/-- The queue, the two threads, and the history of completed pushes and pops. -/
structure QueueState (R : Type) where
  queue : LidarDataQueue R
  producer : ProducerPc R
  consumer : ConsumerPc R
  accepted : List (PushCall R)
  popped : List (StoragePacket R)
  faulted : Bool

/-- `wr_idx++`, which completes a `PushLidarData` call. -/
def QueueState.advance (s : QueueState R) (call : PushCall R) : QueueState R :=
  { s with
    queue := queuePushUpdate s.queue
    producer := .idle
    accepted := s.accepted ++ [call] }

/-- `rd_idx++`, which completes a `QueuePop` call. -/
def QueueState.update (s : QueueState R) (pkg : StoragePacket R) : QueueState R :=
  { s with
    queue := queuePopUpdate s.queue
    consumer := .idle
    popped := s.popped ++ [pkg] }

/-- The steps of the two threads. -/
inductive QueueLabel (R : Type) where
  | enter (call : PushCall R)
  | refuse (call : PushCall R)
  | write
  | advance
  | pollEmpty
  | poll
  | prePopEmpty
  | prePop
  | copy
  | update
  | fault

/-- One step of either thread. -/
inductive QueueStep : QueueState R → QueueLabel R → QueueState R → Prop
  | enter {s : QueueState R} {call : PushCall R} :
      s.producer = .idle → queueIsFull s.queue = false →
      QueueStep s (.enter call) { s with producer := .write call }
  | refuse {s : QueueState R} {call : PushCall R} :
      s.producer = .idle → queueIsFull s.queue = true →
      QueueStep s (.refuse call) s
  | write {s : QueueState R} {call : PushCall R} {queue : LidarDataQueue R} :
      s.producer = .write call →
      queuePushSlot s.queue call.lidarData call.baseTime = some queue →
      QueueStep s .write { s with queue := queue, producer := .advance call }
  | writeFault {s : QueueState R} {call : PushCall R} :
      s.producer = .write call →
      queuePushSlot s.queue call.lidarData call.baseTime = none →
      QueueStep s .fault { s with faulted := true }
  | advance {s : QueueState R} {call : PushCall R} :
      s.producer = .advance call →
      QueueStep s .advance (s.advance call)
  | pollEmpty {s : QueueState R} :
      s.consumer = .idle → queueIsEmpty s.queue = true → QueueStep s .pollEmpty s
  | poll {s : QueueState R} :
      s.consumer = .idle → queueIsEmpty s.queue = false →
      QueueStep s .poll { s with consumer := .prePop }
  | prePopEmpty {s : QueueState R} :
      s.consumer = .prePop → queueIsEmpty s.queue = true →
      QueueStep s .prePopEmpty { s with consumer := .idle }
  | prePop {s : QueueState R} :
      s.consumer = .prePop → queueIsEmpty s.queue = false →
      QueueStep s .prePop { s with consumer := .copy }
  | copy {s : QueueState R} {pkg : StoragePacket R} :
      s.consumer = .copy → queueCopySlot s.queue = some pkg →
      QueueStep s .copy { s with consumer := .update pkg }
  | copyFault {s : QueueState R} :
      s.consumer = .copy → queueCopySlot s.queue = none →
      QueueStep s .fault { s with faulted := true }
  | update {s : QueueState R} {pkg : StoragePacket R} :
      s.consumer = .update pkg →
      QueueStep s .update (s.update pkg)

/-- The state in which the threads find a freshly initialised queue. -/
def QueueState.initial (queue : LidarDataQueue R) : QueueState R :=
  { queue := queue, producer := .idle, consumer := .idle, accepted := [], popped := []
    faulted := false }

/-- The two threads on `queue`. -/
def queueMachine (queue : LidarDataQueue R) : Machine (QueueState R) (QueueLabel R) where
  Init s := s = .initial queue
  Step := QueueStep

/-- The slot contents of all completed pushes. -/
def QueueState.pushed (s : QueueState R) : List (StoragePacket R) :=
  s.accepted.map PushCall.stored

/-- The packets the queue holds: pushed and not yet popped. -/
def QueueState.held (s : QueueState R) : List (StoragePacket R) :=
  s.pushed.drop s.popped.length

@[simp] theorem QueueState.pushed_advance (s : QueueState R) (call : PushCall R) :
    (s.advance call).pushed = s.pushed ++ [call.stored] := by
  simp [QueueState.pushed, QueueState.advance]

@[simp] theorem QueueState.pushed_update (s : QueueState R) (pkg : StoragePacket R) :
    (s.update pkg).pushed = s.pushed := rfl

@[simp] theorem QueueState.popped_advance (s : QueueState R) (call : PushCall R) :
    (s.advance call).popped = s.popped := rfl

@[simp] theorem QueueState.popped_update (s : QueueState R) (pkg : StoragePacket R) :
    (s.update pkg).popped = s.popped ++ [pkg] := rfl

/-- A completed push is held behind everything else. -/
theorem QueueState.held_advance {s : QueueState R} (call : PushCall R)
    (h : s.popped.length ≤ s.pushed.length) :
    (s.advance call).held = s.held ++ [call.stored] := by
  rw [held, held, pushed_advance, popped_advance]
  exact List.drop_append_of_le_length h

/-- A completed pop removes the oldest held packet. -/
theorem QueueState.held_update {s : QueueState R} {pkg : StoragePacket R}
    {rest : List (StoragePacket R)} (h : s.held = pkg :: rest) : (s.update pkg).held = rest := by
  rw [held] at h
  rw [held, pushed_update, popped_update, List.length_append, List.length_singleton,
    ← List.drop_drop, h]
  rfl

/-! ## The invariant

`slots` is the storage block.  The window of the live packets starts at the
number of completed pops; what the two program counters have established about
it is recorded beside it. -/

/-- What the producer's last test has established. -/
def ProducerPc.Holds (pc : ProducerPc R) (slots : List (StoragePacket R)) (lo : Nat)
    (held : List (StoragePacket R)) : Prop :=
  match pc with
  | .idle => True
  | .write _ => held.length < slots.length
  | .advance call => held.length < slots.length ∧
      slots[(lo + held.length) % slots.length]? = some call.stored

/-- What the consumer's last test has established. -/
def ConsumerPc.Holds (pc : ConsumerPc R) (held : List (StoragePacket R)) : Prop :=
  match pc with
  | .idle => True
  | .prePop => True
  | .copy => held ≠ []
  | .update pkg => held.head? = some pkg

/-- A new packet behind the window keeps what the consumer knows of its head. -/
theorem ConsumerPc.Holds.append {pc : ConsumerPc R} {held : List (StoragePacket R)}
    (h : pc.Holds held) (packet : StoragePacket R) : pc.Holds (held ++ [packet]) := by
  cases pc with
  | idle => trivial
  | prePop => trivial
  | copy => simp [ConsumerPc.Holds]
  | update pkg =>
    obtain ⟨rest, rfl⟩ : ∃ rest, held = pkg :: rest := List.head?_eq_some_iff.mp h
    rfl

/-- The position behind the window is the same slot before and after a pop. -/
theorem ProducerPc.Holds.advance_window {pc : ProducerPc R} {slots : List (StoragePacket R)}
    {lo : Nat} {held rest : List (StoragePacket R)} (h : pc.Holds slots lo held)
    (hlen : held.length = rest.length + 1) : pc.Holds slots (lo + 1) rest := by
  have hpos : lo + 1 + rest.length = lo + held.length := by omega
  cases pc with
  | idle => trivial
  | write call =>
    have hlt : held.length < slots.length := h
    change rest.length < slots.length
    omega
  | advance call =>
    obtain ⟨hlt, hslot⟩ := h
    exact ⟨by omega, by rw [hpos]; exact hslot⟩

/-- The inductive invariant of the two threads on a queue of `2 ^ k` slots. -/
structure QueueInv (k : Nat) (s : QueueState R) (slots : List (StoragePacket R)) : Prop where
  ready : s.queue.Ready k slots
  history : s.popped ++ s.held = s.pushed
  rdIdx : s.queue.rdIdx = UInt32.ofNat s.popped.length
  wrIdx : s.queue.wrIdx = UInt32.ofNat s.pushed.length
  room : s.held.length ≤ slots.length
  window : Ring.Holds slots s.popped.length s.held
  producer : s.producer.Holds slots s.popped.length s.held
  consumer : s.consumer.Holds s.held
  unfaulted : s.faulted = false

/-- Every packet pushed carries exactly `points_num` points. -/
theorem length_points_of_mem_pushed {s : QueueState R} {packet : StoragePacket R}
    (h : packet ∈ s.pushed) : packet.points.length = packet.pointsNum.toNat := by
  obtain ⟨call, _, rfl⟩ := List.mem_map.mp h
  exact call.lidarData.length_payload

namespace QueueInv

variable {k : Nat} {s t : QueueState R} {slots : List (StoragePacket R)}

theorem length_pushed (h : QueueInv k s slots) :
    s.pushed.length = s.popped.length + s.held.length := by
  rw [← h.history, List.length_append]

theorem popped_le (h : QueueInv k s slots) : s.popped.length ≤ s.pushed.length := by
  rw [h.length_pushed]
  exact Nat.le_add_right _ _

theorem lt_wrap (h : QueueInv k s slots) : s.pushed.length < s.popped.length + 2 ^ 32 := by
  have := h.ready.length_le
  have := h.room
  rw [h.length_pushed]
  omega

/-- The fullness test, in terms of what the queue holds. -/
theorem isFull_iff (h : QueueInv k s slots) :
    queueIsFull s.queue = true ↔ s.held.length = slots.length := by
  have hlen := h.length_pushed
  have hroom := h.room
  rw [queueIsFull_iff h.ready h.rdIdx h.wrIdx h.popped_le (by omega)]
  omega

/-- The emptiness test, in terms of what the queue holds. -/
theorem isEmpty_iff (h : QueueInv k s slots) : queueIsEmpty s.queue = true ↔ s.held = [] := by
  have hlen := h.length_pushed
  rw [queueIsEmpty_iff h.rdIdx h.wrIdx h.popped_le h.lt_wrap, ← List.length_eq_zero_iff]
  omega

/-- The used size is the number of held packets. -/
theorem usedSize_eq (h : QueueInv k s slots) :
    (queueUsedSize s.queue).toNat = s.held.length := by
  have hlen := h.length_pushed
  rw [queueUsedSize_eq h.rdIdx h.wrIdx h.popped_le h.lt_wrap]
  omega

/-- The producer's write goes to the slot behind the window. -/
theorem pushSlot_eq (h : QueueInv k s slots) (call : PushCall R) :
    queuePushSlot s.queue call.lidarData call.baseTime = some
      { s.queue with
        storagePacket :=
          .live (slots.set ((s.popped.length + s.held.length) % slots.length) call.stored) } := by
  unfold queuePushSlot
  rw [h.wrIdx, h.ready.writeSlot_eq, h.length_pushed]
  rfl

/-- The consumer's copy is the oldest held packet. -/
theorem copySlot_eq (h : QueueInv k s slots) {pkg : StoragePacket R}
    {rest : List (StoragePacket R)} (hheld : s.held = pkg :: rest) :
    queueCopySlot s.queue = some pkg := by
  have hmem : pkg ∈ s.pushed := by
    rw [← h.history, hheld]
    exact List.mem_append_right _ List.mem_cons_self
  have hlen := length_points_of_mem_pushed hmem
  have hwindow := h.window
  rw [hheld] at hwindow
  unfold queueCopySlot
  rw [h.rdIdx, h.ready.readSlot_eq, hwindow.head]
  simp only [hlen, Nat.le_refl, if_true]
  rw [← hlen, List.take_length]

theorem initial {queue : LidarDataQueue R} (hready : queue.Ready k slots)
    (hrd : queue.rdIdx = 0) (hwr : queue.wrIdx = 0) :
    QueueInv k (.initial queue) slots where
  ready := hready
  history := rfl
  rdIdx := hrd
  wrIdx := hwr
  room := Nat.zero_le _
  window := Ring.Holds.nil slots 0
  producer := trivial
  consumer := trivial
  unfaulted := rfl

/-! ### One step

Tests only strengthen what is known at a program counter; the three steps that
change the queue have a lemma each. -/

theorem of_write (h : QueueInv k s slots) {call : PushCall R} {queue : LidarDataQueue R}
    (hpc : s.producer = .write call)
    (hq : queuePushSlot s.queue call.lidarData call.baseTime = some queue) :
    QueueInv k { s with queue := queue, producer := .advance call }
      (slots.set ((s.popped.length + s.held.length) % slots.length) call.stored) := by
  have hfree : s.held.length < slots.length := by
    have := h.producer
    rwa [hpc] at this
  rw [h.pushSlot_eq call] at hq
  cases hq
  have hset := @List.length_set _ slots
    ((s.popped.length + s.held.length) % slots.length) call.stored
  refine
    { ready := ⟨h.ready.width, rfl, by rw [hset, h.ready.length], h.ready.size, h.ready.mask⟩
      history := h.history
      rdIdx := h.rdIdx
      wrIdx := h.wrIdx
      room := by rw [hset]; exact h.room
      window := h.window.set _ hfree
      producer := ⟨by rw [hset]; exact hfree, ?_⟩
      consumer := h.consumer
      unfaulted := h.unfaulted }
  rw [hset]
  exact List.getElem?_set_self (Nat.mod_lt _ h.ready.length_pos)

/-- Completing a push makes the written slot the newest packet of the window. -/
theorem of_advance (h : QueueInv k s slots) {call : PushCall R}
    (hpc : s.producer = .advance call) : QueueInv k (s.advance call) slots := by
  obtain ⟨hfree, hslot⟩ : s.held.length < slots.length ∧
      slots[(s.popped.length + s.held.length) % slots.length]? = some call.stored := by
    have := h.producer
    rwa [hpc] at this
  have hheld := QueueState.held_advance call h.popped_le
  refine
    { ready := ⟨h.ready.width, h.ready.storage, h.ready.length, h.ready.size, h.ready.mask⟩
      history := ?_
      rdIdx := h.rdIdx
      wrIdx := ?_
      room := ?_
      window := ?_
      producer := trivial
      consumer := ?_
      unfaulted := h.unfaulted }
  · rw [hheld, QueueState.pushed_advance, QueueState.popped_advance, ← List.append_assoc,
      h.history]
  · rw [QueueState.pushed_advance, List.length_append, List.length_singleton,
      UInt32.ofNat_add, ← h.wrIdx]
    rfl
  · rw [hheld, List.length_append, List.length_singleton]
    exact hfree
  · rw [hheld]
    exact h.window.snoc hslot
  · rw [hheld]
    exact h.consumer.append call.stored

/-- Completing a pop takes the oldest packet out of the window. -/
theorem of_update (h : QueueInv k s slots) {pkg : StoragePacket R}
    (hpc : s.consumer = .update pkg) : QueueInv k (s.update pkg) slots := by
  obtain ⟨rest, hcons⟩ : ∃ rest, s.held = pkg :: rest := by
    have := h.consumer
    rw [hpc] at this
    exact List.head?_eq_some_iff.mp this
  have hheld := QueueState.held_update hcons
  have hpopped : (s.update pkg).popped.length = s.popped.length + 1 := by simp
  have hlen : s.held.length = rest.length + 1 := by rw [hcons, List.length_cons]
  have hroom := h.room
  refine
    { ready := ⟨h.ready.width, h.ready.storage, h.ready.length, h.ready.size, h.ready.mask⟩
      history := ?_
      rdIdx := ?_
      wrIdx := h.wrIdx
      room := by rw [hheld]; omega
      window := ?_
      producer := ?_
      consumer := trivial
      unfaulted := h.unfaulted }
  · rw [hheld, QueueState.pushed_update, QueueState.popped_update, ← h.history, hcons,
      List.append_assoc]
    rfl
  · rw [hpopped, UInt32.ofNat_add, ← h.rdIdx]
    rfl
  · rw [hheld, hpopped]
    have hwindow := h.window
    rw [hcons] at hwindow
    exact hwindow.tail
  · rw [hheld, hpopped]
    exact h.producer.advance_window hlen

/-- Every step of either thread preserves the invariant. -/
theorem step (h : QueueInv k s slots) {l : QueueLabel R} (hstep : QueueStep s l t) :
    ∃ slots', QueueInv k t slots' := by
  cases hstep with
  | enter hpc hnot =>
    refine ⟨slots, { h with producer := ?_ }⟩
    have hne : s.held.length ≠ slots.length := by
      intro heq
      rw [h.isFull_iff.mpr heq] at hnot
      cases hnot
    exact lt_of_le_of_ne h.room hne
  | refuse _ _ => exact ⟨slots, h⟩
  | write hpc hq => exact ⟨_, h.of_write hpc hq⟩
  | writeFault hpc hnone =>
    rw [h.pushSlot_eq] at hnone
    cases hnone
  | advance hpc => exact ⟨slots, h.of_advance hpc⟩
  | pollEmpty _ _ => exact ⟨slots, h⟩
  | poll _ _ => exact ⟨slots, { h with consumer := trivial }⟩
  | prePopEmpty _ _ => exact ⟨slots, { h with consumer := trivial }⟩
  | prePop _ hnot =>
    refine ⟨slots, { h with consumer := ?_ }⟩
    intro hnil
    have : queueIsEmpty s.queue = true := h.isEmpty_iff.mpr hnil
    rw [this] at hnot
    cases hnot
  | @copy pkg hpc hcopy =>
    refine ⟨slots, { h with consumer := ?_ }⟩
    have hne : s.held ≠ [] := by
      have := h.consumer
      rwa [hpc] at this
    obtain ⟨oldest, rest, hheld⟩ := List.exists_cons_of_ne_nil hne
    have hsame : oldest = pkg := Option.some.inj ((h.copySlot_eq hheld).symm.trans hcopy)
    change s.held.head? = some pkg
    rw [hheld, hsame]
    rfl
  | copyFault hpc hnone =>
    have hne : s.held ≠ [] := by
      have := h.consumer
      rwa [hpc] at this
    obtain ⟨oldest, rest, hheld⟩ := List.exists_cons_of_ne_nil hne
    rw [h.copySlot_eq hheld] at hnone
    cases hnone
  | update hpc => exact ⟨slots, h.of_update hpc⟩

end QueueInv

/-- The invariant holds in every reachable state of a ready queue. -/
theorem queueInv_of_reachable {queue : LidarDataQueue R} {k : Nat}
    {slots : List (StoragePacket R)} (hready : queue.Ready k slots)
    (hrd : queue.rdIdx = 0) (hwr : queue.wrIdx = 0) {s : QueueState R}
    (hs : (queueMachine queue).Reachable s) : ∃ slots', QueueInv k s slots' := by
  refine hs.invariant (fun t => ∃ slots', QueueInv k t slots') ?_ ?_
  · rintro t rfl
    exact ⟨slots, .initial hready hrd hwr⟩
  · rintro t l u _ ⟨slots', hinv⟩ hstep
    exact hinv.step hstep

/-! ### Progress of one thread

A thread that runs alone completes its call: the producer when the queue has
room, the consumer when it holds something. -/

/-- From a state with room, a push takes effect without the consumer moving. -/
theorem exists_push {queue : LidarDataQueue R} {k : Nat} {s : QueueState R}
    {slots : List (StoragePacket R)} (h : QueueInv k s slots)
    (hs : (queueMachine queue).Reachable s) (hidle : s.producer = .idle)
    (hroom : s.held.length < slots.length) (call : PushCall R) :
    ∃ t, (queueMachine queue).Reachable t ∧
      (t.accepted = s.accepted ++ [call] ∧ t.popped = s.popped) ∧ t.consumer = s.consumer := by
  have hnotFull : queueIsFull s.queue = false := by
    rw [← Bool.not_eq_true, h.isFull_iff]
    exact hroom.ne
  have henter : (queueMachine queue).Reachable { s with producer := .write call } :=
    .step hs (.enter hidle hnotFull)
  have hwrite := Machine.Reachable.step henter (.write rfl (h.pushSlot_eq call))
  exact ⟨_, .step hwrite (.advance rfl), ⟨rfl, rfl⟩, rfl⟩

/-- From a state that holds something, a pop takes effect without the producer moving. -/
theorem exists_pop {queue : LidarDataQueue R} {k : Nat} {s : QueueState R}
    {slots : List (StoragePacket R)} (h : QueueInv k s slots)
    (hs : (queueMachine queue).Reachable s) (hidle : s.consumer = .idle)
    {pkg : StoragePacket R} {rest : List (StoragePacket R)} (hheld : s.held = pkg :: rest) :
    ∃ t, (queueMachine queue).Reachable t ∧
      t.accepted = s.accepted ∧ t.popped = s.popped ++ [pkg] := by
  have hnotEmpty : queueIsEmpty s.queue = false := by
    rw [← Bool.not_eq_true, h.isEmpty_iff, hheld]
    exact List.cons_ne_nil _ _
  have hpoll : (queueMachine queue).Reachable { s with consumer := .prePop } :=
    .step hs (.poll hidle hnotEmpty)
  have hprePop : (queueMachine queue).Reachable { s with consumer := .copy } :=
    .step hpoll (.prePop rfl hnotEmpty)
  have hcopy : (queueMachine queue).Reachable { s with consumer := .update pkg } :=
    .step hprePop (.copy rfl (h.copySlot_eq hheld))
  exact ⟨_, .step hcopy (.update rfl), rfl, rfl⟩

/-! ## Refinement of the bounded FIFO -/

/-- The FIFO a queue state stands for. -/
def QueueState.toFifo (s : QueueState R) : Fifo (StoragePacket R) :=
  { contents := s.held, accepted := s.pushed, removed := s.popped }

/-- The FIFO operation a step completes, if any. -/
def queueEvent (s : QueueState R) : QueueLabel R → Option (FifoOp (StoragePacket R))
  | .refuse call => some (.refuse call.stored)
  | .advance =>
      match s.producer with
      | .advance call => some (.push call.stored)
      | _ => none
  | .update =>
      match s.consumer with
      | .update pkg => some (.pop pkg)
      | _ => none
  | _ => none

theorem queueEvent_none_toFifo {s t : QueueState R} {l : QueueLabel R}
    (hstep : QueueStep s l t) (hev : queueEvent s l = none) : t.toFifo = s.toFifo := by
  cases hstep with
  | refuse _ _ => cases hev
  | advance hpc => simp [queueEvent, hpc] at hev
  | update hpc => simp [queueEvent, hpc] at hev
  -- every other step leaves the history alone
  | _ => rfl

theorem queueEvent_some_step {k : Nat} {s t : QueueState R} {slots : List (StoragePacket R)}
    {l : QueueLabel R} {op : FifoOp (StoragePacket R)} (h : QueueInv k s slots)
    (hstep : QueueStep s l t) (hev : queueEvent s l = some op) :
    Fifo.Step (2 ^ k) s.toFifo op t.toFifo := by
  cases hstep with
  | refuse _ hfull =>
    cases hev
    apply Fifo.Step.refuse
    rw [← h.ready.length]
    exact h.isFull_iff.mp hfull
  | @advance call hpc =>
    simp only [queueEvent, hpc, Option.some.injEq] at hev
    subst hev
    have hroom : s.held.length < 2 ^ k := by
      have := h.producer
      rw [hpc] at this
      rw [← h.ready.length]
      exact this.1
    have hpush : Fifo.Step (2 ^ k) s.toFifo (.push call.stored) _ := .push hroom
    have hfifo : (s.advance call).toFifo =
        { contents := s.held ++ [call.stored], accepted := s.pushed ++ [call.stored],
          removed := s.popped } := by
      simp [QueueState.toFifo, QueueState.held_advance call h.popped_le]
    rw [hfifo]
    exact hpush
  | @update pkg hpc =>
    simp only [queueEvent, hpc, Option.some.injEq] at hev
    subst hev
    obtain ⟨rest, hcons⟩ : ∃ rest, s.held = pkg :: rest := by
      have := h.consumer
      rw [hpc] at this
      exact List.head?_eq_some_iff.mp this
    have hpop : Fifo.Step (2 ^ k) s.toFifo (.pop pkg) _ := .pop hcons
    have hfifo : (s.update pkg).toFifo =
        { contents := rest, accepted := s.pushed, removed := s.popped ++ [pkg] } := by
      simp [QueueState.toFifo, QueueState.held_update hcons]
    rw [hfifo]
    exact hpop
  -- no other step completes an operation
  | _ => cases hev

/-- The two threads on a ready queue of `2 ^ k` slots refine the FIFO of that capacity. -/
def queueRefinement {queue : LidarDataQueue R} {k : Nat} {slots : List (StoragePacket R)}
    (hready : queue.Ready k slots) (hrd : queue.rdIdx = 0) (hwr : queue.wrIdx = 0) :
    (queueMachine queue).Refinement (Fifo.machine (α := StoragePacket R) (2 ^ k)) where
  abs := QueueState.toFifo
  event := queueEvent
  init := by
    rintro s rfl
    rfl
  step := by
    intro s l t op hs hstep hev
    obtain ⟨slots', hinv⟩ := queueInv_of_reachable hready hrd hwr hs
    exact queueEvent_some_step hinv hstep hev
  stutter := by
    intro s l t _ hstep hev
    exact queueEvent_none_toFifo hstep hev

/-- **The point cloud queue is a bounded FIFO under every interleaving.**

For every requested size from 1 to `2 ^ 31` the queue has `2 ^ k` slots, the
least power of two that is not smaller, and in every reachable state, however
often the 32-bit indices have wrapped:

  * the packets popped are a prefix of the packets pushed, with their
    `base_time`, `points_num` and points;
  * the used size is at most `2 ^ k`, and it is the number of packets held;
  * a push that is turned away finds exactly `2 ^ k` packets held;
  * no slot access has left the storage block, and the state stands for a
    reachable state of the FIFO machine of capacity `2 ^ k`. -/
theorem pointCloudQueue_refines_fifo {queue queue' : LidarDataQueue R} {queueSize : UInt32}
    (hpos : 1 ≤ queueSize.toNat) (hle : queueSize.toNat ≤ 2 ^ 31)
    (hinit : initQueue queue queueSize = some queue') :
    ∃ k, queue'.size.toNat = 2 ^ k ∧ queueSize.toNat ≤ 2 ^ k ∧ 2 ^ k < 2 * queueSize.toNat ∧
      ∀ s, (queueMachine queue').Reachable s →
        s.popped <+: s.accepted.map (fun call => call.lidarData.stored call.baseTime) ∧
        (queueUsedSize s.queue).toNat ≤ 2 ^ k ∧
        (queueUsedSize s.queue).toNat = s.held.length ∧
        (∀ call t, QueueStep s (.refuse call) t → s.held.length = 2 ^ k) ∧
        s.faulted = false ∧
        (Fifo.machine (2 ^ k)).Reachable s.toFifo := by
  obtain ⟨k, slots, hready, hge, htight, hrd, hwr⟩ := initQueue_spec hpos hle hinit
  refine ⟨k, hready.toNat_size.trans hready.length, hge, htight, ?_⟩
  intro s hs
  have hfifo := (queueRefinement hready hrd hwr).reachable hs
  have hsound := Fifo.sound_of_reachable hfifo
  obtain ⟨slots', hinv⟩ := queueInv_of_reachable hready hrd hwr hs
  refine ⟨hsound.removed_isPrefix, ?_, hinv.usedSize_eq, ?_, hinv.unfaulted, hfifo⟩
  · rw [hinv.usedSize_eq]
    exact hsound.bounded
  · intro call t hstep
    cases hstep with
    | refuse _ hfull =>
      rw [← hinv.ready.length]
      exact hinv.isFull_iff.mp hfull

/-- The default request of 10 slots on a zeroed queue. -/
theorem pointCloudQueue_refines_fifo_ten :
    ∃ (queue' : LidarDataQueue Int) (k : Nat), initQueue .zeroed 10 = some queue' ∧
      queue'.size.toNat = 2 ^ k ∧
      ∀ s, (queueMachine queue').Reachable s → (queueUsedSize s.queue).toNat ≤ 2 ^ k := by
  obtain ⟨k, hsize, _, _, hall⟩ :=
    @pointCloudQueue_refines_fifo Int .zeroed _ 10 (by decide) (by decide) rfl
  exact ⟨_, k, rfl, hsize, fun s hs => (hall s hs).2.1⟩

end RoboRacer.Driver
