/-
  Driver/FrameWakeUp.lean --- the wake-up protocol of the point cloud side.

  The producer signals `pcd_semaphore_` only when it reads the count as zero, and
  it reads the count without a lock; the poll thread takes the semaphore down
  before it looks at the queues.  The two threads of Driver/PollThreads.lean are
  the two parties of Foundation/WakeUp.lean, with the queues as boxes:

      pollRefinement          the refinement
      queueIsEmpty_of_asleep  while the poll thread sleeps no queue is waiting for it
-/
import RoboRacer.Driver.PollThreads
import RoboRacer.Foundation.WakeUp

set_option autoImplicit false

namespace RoboRacer.Driver

open RoboRacer.Foundation

variable {R : Type}

/-! ## The wake-up protocol -/

/-- Where the producer is, as far as the protocol sees it. -/
def PushPc.toProducer : PushPc R → WakeUp.Producer kMaxSourceLidar
  | .testEmpty i => .check i
  | .getCount => .read
  | .signal => .signal
  | _ => .away

/-- Where the consumer is, as far as the protocol sees it. -/
def PollPc.toConsumer : PollPc → WakeUp.Consumer
  | .wait => .asleep
  | .scan i => .visit i
  | .polling i => .visit i
  | .whileExit i => .visit i
  | .whileEmpty i => .visit i
  | .publish i => .visit i
  | _ => .away

/-- The state of the protocol: the boxes are the queues. -/
def PollState.toWakeUp (s : PollState R) : WakeUp kMaxSourceLidar where
  occupied i := !queueIsEmpty (s.pcd.lidars i).queue
  attended := s.steady
  count := s.pcd.count
  closing := s.flags.requestExit
  producer := s.pcd.producer.toProducer
  consumer := s.pcd.consumer.toConsumer

/-- The step of the protocol that a test of the poll thread is. -/
def PollLabel.toEvent : PollLabel → Option (WakeUp.Event kMaxSourceLidar)
  | .sleep => some .sleep
  | .skip i => some (.pass i)
  | .noStorage i => some (.pass i)
  | .whileExit i => some (.pass i)
  | .whileEmpty i => some (.pass i)
  | .scanEnd => some .leave
  | _ => none

/-- The step of the protocol that a step of the two threads is. -/
def DriverLabel.toEvent : DriverLabel R → Option (WakeUp.Event kMaxSourceLidar)
  | .pcd (.full _ _) => some .refuse
  | .pcd (.advance i) => some (.deposit i)
  | .pcd (.held _) => some .checkOccupied
  | .pcd (.drained _) => some .checkEmpty
  | .pcd .countZero => some .readZero
  | .pcd .countPositive => some .readPositive
  | .pcd .signal => some .signal
  | .pcd (.poll l) => l.toEvent
  | .pcd .wake => some .wake
  | .pcd (.publish i .update) => some (.take i)
  | .setConnectState _ _ => some .neglect
  | .requestExit => some .close
  | _ => none

/-- One queue changes, and the program counters. -/
theorem toWakeUp_setQueue (s : PollState R) (i : Fin kMaxSourceLidar) (q : QueueState R)
    (producer : PushPc R) (consumer : PollPc) :
    { s with
      pcd := { s.pcd.setQueue i q with producer := producer, consumer := consumer } }.toWakeUp =
    { s.toWakeUp with
      occupied := Function.update s.toWakeUp.occupied i (!queueIsEmpty q.queue)
      producer := producer.toProducer
      consumer := consumer.toConsumer } := by
  have hocc : (fun j => !queueIsEmpty ((s.pcd.setQueue i q).lidars j).queue) =
      Function.update (fun j => !queueIsEmpty (s.pcd.lidars j).queue) i
        (!queueIsEmpty q.queue) := by
    funext j
    by_cases hj : j = i
    · rw [hj, PcdSide.lidars_setQueue, Function.update_self, Function.update_self]
    · rw [PcdSide.lidars_setQueue, Function.update_of_ne hj, Function.update_of_ne hj]
  exact congrArg (fun occupied => WakeUp.mk occupied s.steady s.pcd.count s.flags.requestExit
    producer.toProducer consumer.toConsumer) hocc

/-- A queue that is as empty as it was leaves the boxes as they are. -/
theorem toWakeUp_setQueue_of_same {s : PollState R} {i : Fin kMaxSourceLidar}
    {q : QueueState R} (producer : PushPc R) (consumer : PollPc)
    (h : queueIsEmpty q.queue = queueIsEmpty (s.pcd.lidars i).queue) :
    { s with
      pcd := { s.pcd.setQueue i q with producer := producer, consumer := consumer } }.toWakeUp =
    { s.toWakeUp with
      producer := producer.toProducer
      consumer := consumer.toConsumer } := by
  have hocc : Function.update s.toWakeUp.occupied i (!queueIsEmpty q.queue) =
      s.toWakeUp.occupied := by
    rw [h]
    exact Function.update_eq_self ..
  rw [toWakeUp_setQueue, hocc]

/-- A step that the protocol does not see. -/
theorem toWakeUp_stutter {s : PollState R} {i : Fin kMaxSourceLidar} {q : QueueState R}
    {producer : PushPc R} {consumer : PollPc}
    (h : queueIsEmpty q.queue = queueIsEmpty (s.pcd.lidars i).queue)
    (hproducer : s.pcd.producer.toProducer = producer.toProducer)
    (hconsumer : s.pcd.consumer.toConsumer = consumer.toConsumer) :
    { s with
      pcd := { s.pcd.setQueue i q with producer := producer, consumer := consumer } }.toWakeUp =
    s.toWakeUp := by
  rw [toWakeUp_setQueue_of_same producer consumer h, ← hproducer, ← hconsumer]
  rfl

/-- A test of the poll thread is a step of the protocol, or none. -/
theorem wakeUp_control {config : PollConfig} {s : PollState R} (hinv : s.pcd.Inv config)
    (hsteady : ∀ i, s.steady i = true → s.flags.connectState i = .kConnectStateSampling)
    {l : PollLabel} {pc : PollPc}
    (h : PollControl s.flags (s.pcd.view config) s.pcd.consumer l pc) :
    match l.toEvent with
    | some e =>
      WakeUp.Step s.toWakeUp e { s.toWakeUp with consumer := pc.toConsumer }
    | none => { s.toWakeUp with consumer := pc.toConsumer } = s.toWakeUp := by
  obtain ⟨flags, ⟨lidars, count, producer, consumer⟩, steady⟩ := s
  cases h with
  | exitSeen => rfl
  | sleep hopen => exact .sleep rfl hopen
  | @skip i hoff =>
    refine .pass rfl (fun hatt _ => absurd (hsteady i hatt) hoff)
  | visit => rfl
  | @noStorage i hnull =>
    refine .pass rfl (fun _ hocc => ?_)
    have hempty : queueIsEmpty (lidars i).queue = true :=
      (hinv i).ok.isEmpty_of_isNull (by simpa [PcdSide.view] using hnull)
    have hheld : (!queueIsEmpty (lidars i).queue) = true := hocc
    rw [hempty] at hheld
    cases hheld
  | storage => rfl
  | whileExit hexit => exact .pass rfl (fun _ _ => hexit)
  | whileOpen => rfl
  | @whileEmpty i hempty =>
    refine .pass rfl (fun _ hocc => ?_)
    have hheld : (!queueIsEmpty (lidars i).queue) = true := hocc
    rw [show queueIsEmpty (lidars i).queue = true from hempty] at hheld
    cases hheld
  | @whileHeld i _ =>
    -- whichever format it is, the thread stays at this LiDAR
    have hvisit : (if config.publishes then PollPc.publish i else .whileExit i).toConsumer =
        .visit i := by
      split <;> rfl
    exact congrArg (fun consumer => { PollState.toWakeUp _ with consumer := consumer }) hvisit
  | scanEnd => exact .leave rfl
  | exitSet => rfl
  | again => rfl

/-- A step of the two threads is a step of the protocol, or none. -/
theorem wakeUp_pcd {config : PollConfig} {s : PollState R} (hinv : s.pcd.Inv config)
    (hsteady : ∀ i, s.steady i = true → s.flags.connectState i = .kConnectStateSampling)
    {l : PcdLabel R} {pcd : PcdSide R} (h : PcdStep config s.flags s.pcd l pcd) :
    match (DriverLabel.pcd l).toEvent with
    | some e => WakeUp.Step s.toWakeUp e { s with pcd := pcd }.toWakeUp
    | none => { s with pcd := pcd }.toWakeUp = s.toWakeUp := by
  have hproducer : ∀ {pc : PushPc R}, s.pcd.producer = pc →
      s.toWakeUp.producer = pc.toProducer := fun h => congrArg PushPc.toProducer h
  have hconsumer : ∀ {pc : PollPc}, s.pcd.consumer = pc →
      s.toWakeUp.consumer = pc.toConsumer := fun h => congrArg PollPc.toConsumer h
  cases h with
  | @enter i call q hpc hinit =>
    obtain ⟨queue, hqueue, -, hsame⟩ := (hinv i).ok.lazyInit
    rw [hinit] at hqueue
    cases hqueue
    exact toWakeUp_stutter hsame (by rw [hpc]; rfl) rfl
  | @full i call q hpc hq =>
    have hsame := queueIsEmpty_of_step hq (by simp) (by simp)
    have habs := toWakeUp_setQueue_of_same .getCount s.pcd.consumer hsame
    have hstep : WakeUp.Step s.toWakeUp .refuse _ := .refuse (hproducer hpc)
    exact habs ▸ hstep
  | @room i call q hpc hq =>
    exact toWakeUp_stutter (queueIsEmpty_of_step hq (by simp) (by simp)) (by rw [hpc]; rfl) rfl
  | @write i q hpc hq =>
    exact toWakeUp_stutter (queueIsEmpty_of_step hq (by simp) (by simp)) rfl rfl
  | @advance i q hpc hq =>
    have habs := toWakeUp_setQueue s i q (.testEmpty i) s.pcd.consumer
    have hstep : WakeUp.Step s.toWakeUp (.deposit i) _ :=
      .deposit (b := !queueIsEmpty q.queue) (hproducer hpc)
    exact habs ▸ hstep
  | @held i hpc hheld =>
    exact .checkOccupied (hproducer hpc) (by simp [PollState.toWakeUp, hheld])
  | @drained i hpc hempty =>
    exact .checkEmpty (hproducer hpc) (by simp [PollState.toWakeUp, hempty])
  | countZero hpc hzero => exact .readZero (hproducer hpc) (Nat.le_zero.mp hzero)
  | countPositive hpc hpos => exact .readPositive (hproducer hpc) (Nat.lt_of_not_le hpos)
  | signal hpc => exact .signal (hproducer hpc)
  | poll hcontrol => exact wakeUp_control hinv hsteady hcontrol
  | wake hpc hpos => exact .wake (hconsumer hpc) hpos
  | @publish i l q hpc hpops hq =>
    by_cases hupdate : l = .update
    · subst hupdate
      have habs := toWakeUp_setQueue s i q s.pcd.producer s.pcd.consumer
      have hstep : WakeUp.Step s.toWakeUp (.take i) _ :=
        .take (b := !queueIsEmpty q.queue) (hconsumer hpc)
      exact habs ▸ hstep
    · have hadvance : l ≠ .advance := by
        rintro rfl
        cases hpops
      have hsame := queueIsEmpty_of_step hq hadvance hupdate
      have hnone : (DriverLabel.pcd (.publish i l)).toEvent = none := by
        cases l with
        | update => exact absurd rfl hupdate
        | _ => rfl
      rw [hnone]
      exact toWakeUp_stutter hsame rfl rfl
  | @published i q hpc hq =>
    exact toWakeUp_stutter (queueIsEmpty_of_step hq (by simp) (by simp)) rfl (by rw [hpc]; rfl)
  | @fault i q hq =>
    exact toWakeUp_stutter (queueIsEmpty_of_step hq (by simp) (by simp)) rfl rfl

/-- The two threads, with whatever the rest of the driver does meanwhile, follow the
wake-up protocol over the queues. -/
def pollRefinement (config : PollConfig) :
    (pollMachine (R := R) config).Refinement (WakeUp.machine kMaxSourceLidar) where
  abs := PollState.toWakeUp
  event _ l := l.toEvent
  init := by
    intro s hinit
    refine ⟨?_, ?_, ?_, ?_⟩
    · simp only [PollState.toWakeUp, hinit.pcd]
      rfl
    · simp only [PollState.toWakeUp, hinit.pcd]
      rfl
    · simp only [PollState.toWakeUp, hinit.pcd]
      rfl
    · simp only [PollState.toWakeUp, hinit.pcd]
      rfl
  step := by
    intro s l t e hs hstep hevent
    cases hstep with
    | pcd hpcd =>
      have h := wakeUp_pcd (inv_of_poll_reachable hs) (fun _ => sampling_of_steady hs) hpcd
      rw [hevent] at h
      exact h
    | @setConnectState i state =>
      cases hevent
      refine .neglect (fun j hj => ?_)
      change Function.update s.steady i _ j = true at hj
      by_cases hji : j = i
      · rw [hji, Function.update_self, Bool.and_eq_true] at hj
        rw [hji]
        exact hj.1
      · rwa [Function.update_of_ne hji] at hj
    | requestExit =>
      cases hevent
      exact .close
    | setExitSignal => cases hevent
  stutter := by
    intro s l t hs hstep hevent
    cases hstep with
    | pcd hpcd =>
      have h := wakeUp_pcd (inv_of_poll_reachable hs) (fun _ => sampling_of_steady hs) hpcd
      rw [hevent] at h
      exact h
    | setConnectState => cases hevent
    | requestExit => cases hevent
    | setExitSignal => rfl

/-- A LiDAR that the poll thread attends to has an empty queue while that thread sleeps and no
push call is in progress. -/
theorem queueIsEmpty_of_asleep {config : PollConfig} {s : PollState R}
    (h : (pollMachine config).Reachable s) (hwait : s.pcd.consumer = .wait)
    (hcount : s.pcd.count = 0) (hidle : s.pcd.producer = .idle) {i : Fin kMaxSourceLidar}
    (hsteady : s.steady i = true) : queueIsEmpty (s.pcd.lidars i).queue = true := by
  have hinv := WakeUp.inv_of_reachable ((pollRefinement config).reachable h)
  have hempty : (!queueIsEmpty (s.pcd.lidars i).queue) = false :=
    hinv.empty_of_asleep (congrArg PollPc.toConsumer hwait) hcount
      (congrArg PushPc.toProducer hidle) hsteady
  simpa using hempty

end RoboRacer.Driver
