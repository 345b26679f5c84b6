/-
  Driver/PollSettling.lean --- what both poll threads do while the driver is not to
  exit (`lddc.cpp`, `livox_ros_driver2.cpp`).

  A pass over the LiDARs ends, pops not counted, and the thread is never stuck outside
  `Wait` and the publish functions:

      PollControl.rank_lt    every test brings it closer to its next `Wait`
      PollPc.exists_test     there is always a test to make
-/
import RoboRacer.Driver.FrameWakeUp
import RoboRacer.Driver.PollProgress

set_option autoImplicit false

namespace RoboRacer.Driver

open RoboRacer.Foundation

/-! ## One pass -/

/-- How far a poll thread is from its next `Wait`, pops not counted. -/
def PollPc.rank : PollPc → Nat
  | .wait => 0
  | .finished => 0
  | .distribute => 1
  | .exitSignal => 2
  | .scan i => 3 + 5 * (kMaxSourceLidar - i)
  | .polling i => 2 + 5 * (kMaxSourceLidar - i)
  | .whileExit i => 1 + 5 * (kMaxSourceLidar - i)
  | .whileEmpty i => 5 * (kMaxSourceLidar - i)
  | .publish i => 5 * (kMaxSourceLidar - i) - 1

/-- A test of a poll thread that is not to exit brings it closer to its next `Wait`. -/
theorem PollControl.rank_lt {flags : DriverFlags} {view : QueueView} {pc pc' : PollPc}
    {l : PollLabel} (h : PollControl flags view pc l pc') (hopen : flags.requestExit = false)
    (hpublishes : view.publishes = true) : pc'.rank < pc.rank := by
  have hlt : ∀ i : Fin kMaxSourceLidar, 0 < kMaxSourceLidar - i.val := fun i =>
    Nat.sub_pos_of_lt i.isLt
  cases h with
  | exitSeen hexit =>
    rw [hopen] at hexit
    cases hexit
  | whileExit hexit =>
    rw [hopen] at hexit
    cases hexit
  | @skip i _ =>
    have := hlt i
    simp only [PollPc.rank]
    omega
  | @noStorage i _ =>
    have := hlt i
    simp only [PollPc.rank]
    omega
  | @whileEmpty i _ =>
    have := hlt i
    simp only [PollPc.rank]
    omega
  | @whileHeld i _ =>
    have := hlt i
    rw [if_pos hpublishes]
    simp only [PollPc.rank]
    omega
  | _ =>
    simp only [PollPc.rank]
    omega

/-- A poll thread begins to publish when it has found something. -/
theorem PollControl.held_of_publish {flags : DriverFlags} {view : QueueView} {pc pc' : PollPc}
    {l : PollLabel} (h : PollControl flags view pc l pc') {i : Fin kMaxSourceLidar}
    (hpc : pc' = .publish i) : view.isEmpty i = false := by
  cases h with
  | whileHeld hheld =>
    split at hpc
    · cases hpc
      exact hheld
    · cases hpc
  | _ => cases hpc

/-- A poll thread ends on the exit signal. -/
theorem PollControl.exitSignal_of_finished {flags : DriverFlags} {view : QueueView}
    {pc pc' : PollPc} {l : PollLabel} (h : PollControl flags view pc l pc')
    (hpc : pc' = .finished) : flags.exitSignal = true := by
  cases h with
  | exitSet hset => exact hset
  | whileHeld => split at hpc <;> cases hpc
  | _ => cases hpc

/-- Outside `Wait` and the publish functions there is a test to make. -/
theorem PollPc.exists_test {flags : DriverFlags} (view : QueueView) {pc : PollPc}
    (hexit : flags.requestExit = false) (hsignal : flags.exitSignal = false)
    (hbounded : pc.Bounded) : pc = .wait ∨ pc = .finished ∨ (∃ i, pc = .publish i) ∨
      ∃ l pc', PollControl flags view pc l pc' := by
  cases pc with
  | wait => exact .inl rfl
  | finished => exact .inr (.inl rfl)
  | publish i => exact .inr (.inr (.inl ⟨i, rfl⟩))
  | distribute => exact .inr (.inr (.inr ⟨_, _, .sleep hexit⟩))
  | scan i =>
    rcases Nat.lt_or_eq_of_le (hbounded i rfl) with hlt | rfl
    · by_cases hon : flags.connectState ⟨i, hlt⟩ = .kConnectStateSampling
      · exact .inr (.inr (.inr ⟨_, _, .visit (i := ⟨i, hlt⟩) hon⟩))
      · exact .inr (.inr (.inr ⟨_, _, .skip (i := ⟨i, hlt⟩) hon⟩))
    · exact .inr (.inr (.inr ⟨_, _, .scanEnd⟩))
  | polling i =>
    cases hstorage : view.hasStorage i with
    | true => exact .inr (.inr (.inr ⟨_, _, .storage hstorage⟩))
    | false => exact .inr (.inr (.inr ⟨_, _, .noStorage hstorage⟩))
  | whileExit i => exact .inr (.inr (.inr ⟨_, _, .whileOpen hexit⟩))
  | whileEmpty i =>
    cases hempty : view.isEmpty i with
    | true => exact .inr (.inr (.inr ⟨_, _, .whileEmpty hempty⟩))
    | false => exact .inr (.inr (.inr ⟨_, _, .whileHeld hempty⟩))
  | exitSignal => exact .inr (.inr (.inr ⟨_, _, .again hsignal⟩))

/-! ## The wake-up protocol -/

/-- A test of a poll thread is a step of the protocol, or none.  The boxes are whatever
the thread's two tests are about. -/
theorem wakeUp_of_control {w : WakeUp kMaxSourceLidar} {flags : DriverFlags} {view : QueueView}
    {pc pc' : PollPc} {l : PollLabel} (hconsumer : w.consumer = pc.toConsumer)
    (hclosing : w.closing = flags.requestExit)
    (hattended : ∀ i, w.attended i = true → flags.connectState i = .kConnectStateSampling)
    (hstorage : ∀ i, view.hasStorage i = false → w.occupied i = false)
    (hempty : ∀ i, view.isEmpty i = true → w.occupied i = false)
    (h : PollControl flags view pc l pc') :
    match l.toEvent with
    | some e => WakeUp.Step w e { w with consumer := pc'.toConsumer }
    | none => { w with consumer := pc'.toConsumer } = w := by
  have hsame : ∀ {c : WakeUp.Consumer}, w.consumer = c → { w with consumer := c } = w := by
    rintro c rfl
    rfl
  cases h with
  | exitSeen => exact hsame hconsumer
  | sleep hopen => exact .sleep hconsumer (hclosing.trans hopen)
  | skip hoff => exact .pass hconsumer fun hatt _ => absurd (hattended _ hatt) hoff
  | visit => exact hsame hconsumer
  | noStorage hnull =>
    refine .pass hconsumer fun _ hocc => ?_
    rw [hstorage _ hnull] at hocc
    cases hocc
  | storage => exact hsame hconsumer
  | whileExit hexit => exact .pass hconsumer fun _ _ => hclosing.trans hexit
  | whileOpen => exact hsame hconsumer
  | whileEmpty hnothing =>
    refine .pass hconsumer fun _ hocc => ?_
    rw [hempty _ hnothing] at hocc
    cases hocc
  | whileHeld =>
    refine hsame (hconsumer.trans ?_)
    split <;> rfl
  | scanEnd => exact .leave hconsumer
  | exitSet => exact hsame hconsumer
  | again => exact hsame hconsumer

end RoboRacer.Driver
