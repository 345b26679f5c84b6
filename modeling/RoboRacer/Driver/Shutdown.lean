/-
  Driver/Shutdown.lean --- the destructor of the driver node (`driver_node.cpp`).

  `~DriverNode` requests the exit, sets the exit promise and joins the two poll
  threads, one after the other.  Nothing in it signals a semaphore:

      DriverStep             the destructor beside both pairs of threads
      Deadlocked             it waits for a thread that nothing can wake
      shutdown_returns_iff   when no such state is ahead
-/
import RoboRacer.Driver.FrameSettling
import RoboRacer.Driver.ImuThreads

set_option autoImplicit false

namespace RoboRacer.Driver

open RoboRacer.Foundation Relation

variable {R : Type}

/-! ## The destructor -/

/-- Where `~DriverNode` is. -/
inductive DestructorPc where
  /-- The node is in use. -/
  | notCalled
  /-- `RequestExit` has been called. -/
  | setValue
  /-- In the `join` of the point cloud thread. -/
  | joinPointcloud
  /-- In the `join` of the IMU thread. -/
  | joinImu
  | returned

/-- The driver: both pairs of threads, what they share, and the destructor. -/
structure DriverState (R : Type) where
  flags : DriverFlags
  pcd : PcdSide R
  imu : ImuSide R
  destructor : DestructorPc

/-- The steps of the driver. -/
inductive ShutdownLabel (R : Type) where
  | pcd (l : PcdLabel R)
  | imu (l : ImuLabel R)
  | setConnectState (i : Fin kMaxSourceLidar) (state : LidarConnectState)
  | requestExit
  | setValue
  | joinPointcloud
  | joinImu

/-- The labels of new LiDAR or IMU data. -/
def ShutdownLabel.bringsData : ShutdownLabel R → Bool
  | .pcd (.enter _ _) => true
  | .imu (.push _ _) => true
  | _ => false

/-- One step of the driver. -/
inductive DriverStep (config : PollConfig) :
    DriverState R → ShutdownLabel R → DriverState R → Prop
  | pcd {s : DriverState R} {l : PcdLabel R} {pcd : PcdSide R} :
      PcdStep config s.flags s.pcd l pcd → DriverStep config s (.pcd l) { s with pcd := pcd }
  | imu {s : DriverState R} {l : ImuLabel R} {imu : ImuSide R} :
      ImuStep s.flags s.imu l imu → DriverStep config s (.imu l) { s with imu := imu }
  | setConnectState {s : DriverState R} {i : Fin kMaxSourceLidar} {state : LidarConnectState} :
      DriverStep config s (.setConnectState i state)
        { s with flags := s.flags.setConnectState i state }
  | requestExit {s : DriverState R} : s.destructor = .notCalled →
      DriverStep config s .requestExit
        { s with flags := { s.flags with requestExit := true }, destructor := .setValue }
  | setValue {s : DriverState R} : s.destructor = .setValue →
      DriverStep config s .setValue
        { s with flags := { s.flags with exitSignal := true }, destructor := .joinPointcloud }
  | joinPointcloud {s : DriverState R} :
      s.destructor = .joinPointcloud → s.pcd.consumer = .finished →
      DriverStep config s .joinPointcloud { s with destructor := .joinImu }
  | joinImu {s : DriverState R} :
      s.destructor = .joinImu → s.imu.consumer = .finished →
      DriverStep config s .joinImu { s with destructor := .returned }

/-- The driver starts with empty queues and any connect states. -/
structure DriverState.Init (s : DriverState R) : Prop where
  pcd : s.pcd = .initial
  imu : s.imu = .initial
  requestExit : s.flags.requestExit = false
  exitSignal : s.flags.exitSignal = false
  destructor : s.destructor = .notCalled

/-- The driver and its destructor. -/
def driverMachine (config : PollConfig) : Machine (DriverState R) (ShutdownLabel R) where
  Init := DriverState.Init
  Step := DriverStep config

/-- A step that brings no new data. -/
def DriverState.Quiet (config : PollConfig) (s t : DriverState R) : Prop :=
  ∃ l, DriverStep config s l t ∧ l.bringsData = false

/-- **Deadlock.**  The destructor is in the `join` of a thread that is blocked in
`Wait`, and no steps without new data raise the count of its semaphore. -/
def DriverState.Deadlocked (config : PollConfig) (s : DriverState R) : Prop :=
  (s.destructor = .joinPointcloud ∧ s.pcd.consumer = .wait ∧
    ∀ t, ReflTransGen (DriverState.Quiet config) s t → t.pcd.count = 0) ∨
  (s.destructor = .joinImu ∧ s.imu.consumer = .wait ∧
    ∀ t, ReflTransGen (DriverState.Quiet config) s t → t.imu.count = 0)

/-- A poll thread is stranded, or both are. -/
def DriverState.Stranded (s : DriverState R) : Prop :=
  s.pcd.Stranded ∨ s.imu.Stranded

namespace DriverState

variable {config : PollConfig} {s t : DriverState R}

/-! ## Steps of one side -/

/-- What the point cloud threads do without new data is a run of the driver. -/
theorem quiet_of_pcd {pcd : PcdSide R}
    (h : ReflTransGen (PcdQuiet config s.flags) s.pcd pcd) :
    ReflTransGen (Quiet config) s { s with pcd := pcd } := by
  refine ReflTransGen.lift (fun pcd => { s with pcd := pcd }) ?_ _ _ h
  rintro pcd₁ pcd₂ ⟨l, hstep, hnot⟩
  have hdriver : DriverStep config { s with pcd := pcd₁ } (.pcd l) { s with pcd := pcd₂ } :=
    .pcd hstep
  refine ⟨_, hdriver, ?_⟩
  cases l with
  | enter i call => exact absurd rfl (hnot i call)
  | _ => rfl

/-- What the IMU threads do without new data is a run of the driver. -/
theorem quiet_of_imu {imu : ImuSide R} (h : ReflTransGen (ImuQuiet s.flags) s.imu imu) :
    ReflTransGen (Quiet config) s { s with imu := imu } := by
  refine ReflTransGen.lift (fun imu => { s with imu := imu }) ?_ _ _ h
  rintro imu₁ imu₂ ⟨l, hstep, hnot⟩
  have hdriver : DriverStep config { s with imu := imu₁ } (.imu l) { s with imu := imu₂ } :=
    .imu hstep
  refine ⟨_, hdriver, ?_⟩
  cases l with
  | push i imuData => exact absurd rfl (hnot i imuData)
  | _ => rfl

/-! ## The invariant -/

/-- What holds of the driver in every reachable state. -/
structure Inv (config : PollConfig) (s : DriverState R) : Prop where
  pcd : s.pcd.Inv config
  pcdBounded : s.pcd.consumer.Bounded
  imuBounded : s.imu.consumer.Bounded
  requested : s.destructor ≠ .notCalled → s.flags.requestExit = true

theorem Inv.step {l : ShutdownLabel R} (h : s.Inv config) (hstep : DriverStep config s l t) :
    t.Inv config := by
  cases hstep with
  | pcd hpcd =>
    exact ⟨h.pcd.step hpcd, PcdSide.bounded_of_step h.pcdBounded hpcd, h.imuBounded, h.requested⟩
  | imu himu => exact ⟨h.pcd, h.pcdBounded, ImuSide.bounded_of_step h.imuBounded himu, h.requested⟩
  | setConnectState => exact ⟨h.pcd, h.pcdBounded, h.imuBounded, h.requested⟩
  | requestExit => exact ⟨h.pcd, h.pcdBounded, h.imuBounded, fun _ => rfl⟩
  | setValue hpc =>
    exact ⟨h.pcd, h.pcdBounded, h.imuBounded, fun _ => h.requested (by simp [hpc])⟩
  | joinPointcloud hpc _ =>
    exact ⟨h.pcd, h.pcdBounded, h.imuBounded, fun _ => h.requested (by simp [hpc])⟩
  | joinImu hpc _ =>
    exact ⟨h.pcd, h.pcdBounded, h.imuBounded, fun _ => h.requested (by simp [hpc])⟩

theorem inv_of_reachable (h : (driverMachine config).Reachable s) : s.Inv config := by
  refine h.invariant (fun s => s.Inv config) ?_ (fun s l t _ hs hstep => hs.step hstep)
  intro s hinit
  have hdistribute : PollPc.distribute.Bounded := fun i hi => (by cases hi)
  refine ⟨?_, ?_, ?_, fun hcalled => absurd hinit.destructor hcalled⟩
  · rw [hinit.pcd]
    exact PcdSide.inv_initial
  · rw [hinit.pcd]
    exact hdistribute
  · rw [hinit.imu]
    exact hdistribute

/-- No step takes the exit back. -/
theorem exiting_of_step {l : ShutdownLabel R} (h : s.flags.Exiting)
    (hstep : DriverStep config s l t) : t.flags.Exiting := by
  cases hstep with
  | requestExit => exact ⟨rfl, h.exitSignal⟩
  | setValue => exact ⟨h.requestExit, rfl⟩
  | setConnectState => exact ⟨h.requestExit, h.exitSignal⟩
  | _ => exact h

/-! ## Stranded threads under the destructor -/

/-- A stranded point cloud thread stays stranded without new data. -/
theorem pcd_stranded_quiet (h : s.pcd.Stranded) (hrun : ReflTransGen (Quiet config) s t) :
    t.pcd.Stranded := by
  induction hrun with
  | refl => exact h
  | tail _ hquiet ih =>
    obtain ⟨l, hstep, hnot⟩ := hquiet
    cases hstep with
    | pcd hpcd =>
      refine ih.quiet ⟨_, hpcd, ?_⟩
      rintro i call rfl
      cases hnot
    | _ => exact ih

/-- A stranded IMU thread stays stranded without new data. -/
theorem imu_stranded_quiet (h : s.imu.Stranded) (hrun : ReflTransGen (Quiet config) s t) :
    t.imu.Stranded := by
  induction hrun with
  | refl => exact h
  | tail _ hquiet ih =>
    obtain ⟨l, hstep, hnot⟩ := hquiet
    cases hstep with
    | imu himu =>
      refine ih.quiet ⟨_, himu, ?_⟩
      rintro i imuData rfl
      cases hnot
    | _ => exact ih

/-- Once the exit is requested no step strands a thread. -/
theorem Stranded.of_step {l : ShutdownLabel R} (h : t.Stranded) (hinv : s.Inv config)
    (hexit : s.flags.requestExit = true) (hstep : DriverStep config s l t) : s.Stranded := by
  cases hstep with
  | pcd hpcd => exact h.imp_left (fun hpcd' => hpcd'.of_step hinv.pcd hexit hpcd)
  | imu himu => exact h.imp_right (fun himu' => himu'.of_step hexit himu)
  | _ => exact h

/-- While the driver shuts down no thread becomes stranded. -/
theorem not_stranded_of_quiet (hinv : s.Inv config) (hexit : s.flags.Exiting)
    (hnot : ¬ s.Stranded) (hrun : ReflTransGen (Quiet config) s t) :
    t.Inv config ∧ t.flags.Exiting ∧ ¬ t.Stranded := by
  induction hrun with
  | refl => exact ⟨hinv, hexit, hnot⟩
  | tail _ hquiet ih =>
    obtain ⟨hinv', hexit', hnot'⟩ := ih
    obtain ⟨l, hstep, -⟩ := hquiet
    exact ⟨hinv'.step hstep, exiting_of_step hexit' hstep,
      fun h => hnot' (h.of_step hinv' hexit'.requestExit hstep)⟩

/-- A deadlock needs a stranded thread: any other one can still be signalled. -/
theorem Deadlocked.stranded (h : s.Deadlocked config) (hinv : s.Inv config) : s.Stranded := by
  by_contra hnot
  obtain ⟨-, hwait, hzero⟩ | ⟨-, hwait, hzero⟩ := h
  · have hsignals : s.pcd.Signals config s.flags :=
      PcdSide.signals_of_not_stranded hinv.pcd hwait (hzero s .refl) (fun h => hnot (.inl h))
    obtain ⟨pcd, hrun, hpos, -⟩ := hsignals
    have hcount : pcd.count = 0 := hzero _ (quiet_of_pcd hrun)
    exact absurd hcount (Nat.pos_iff_ne_zero.mp hpos)
  · have hsignals : s.imu.Signals s.flags :=
      ImuSide.signals_of_not_stranded hwait (hzero s .refl) (fun h => hnot (.inr h))
    obtain ⟨imu, hrun, hpos, -⟩ := hsignals
    have hcount : imu.count = 0 := hzero _ (quiet_of_imu hrun)
    exact absurd hcount (Nat.pos_iff_ne_zero.mp hpos)

/-- If a thread is stranded when the destructor begins to join, it deadlocks: in the
first `join`, or in the second one once the point cloud thread has ended. -/
theorem Stranded.exists_deadlocked (h : s.Stranded) (hinv : s.Inv config)
    (hexit : s.flags.Exiting) (hpc : s.destructor = .joinPointcloud) :
    ∃ t, ReflTransGen (Quiet config) s t ∧ t.Deadlocked config := by
  by_cases hpcd : s.pcd.Stranded
  · exact ⟨s, .refl, .inl ⟨hpc, hpcd.waiting, fun t hrun => (pcd_stranded_quiet hpcd hrun).count⟩⟩
  · have himu : s.imu.Stranded := h.resolve_left hpcd
    obtain ⟨pcd, hrun, hdone⟩ := PcdSide.exists_finished hexit hinv.pcd hinv.pcdBounded hpcd
    have hjoin : Quiet config { s with pcd := pcd } { s with pcd := pcd, destructor := .joinImu } :=
      ⟨_, .joinPointcloud hpc hdone, rfl⟩
    have hzero : ∀ t, ReflTransGen (Quiet config) { s with pcd := pcd, destructor := .joinImu } t →
        t.imu.count = 0 := by
      intro t hquiet
      have hstill := imu_stranded_quiet (s := { s with pcd := pcd, destructor := .joinImu })
        himu hquiet
      exact hstill.count
    exact ⟨_, (quiet_of_pcd hrun).tail hjoin, .inr ⟨rfl, himu.waiting, hzero⟩⟩

/-- If no thread is stranded, the destructor can return. -/
theorem exists_returned (hinv : s.Inv config) (hexit : s.flags.Exiting) (hnot : ¬ s.Stranded)
    (hpc : s.destructor = .joinPointcloud) :
    ∃ t, ReflTransGen (Quiet config) s t ∧ t.destructor = .returned := by
  obtain ⟨pcd, hpcd, hdone⟩ :=
    PcdSide.exists_finished hexit hinv.pcd hinv.pcdBounded (fun h => hnot (.inl h))
  obtain ⟨imu, himu, himuDone⟩ :=
    ImuSide.exists_finished hexit hinv.imuBounded (fun h => hnot (.inr h))
  have hjoin : Quiet config { s with pcd := pcd } { s with pcd := pcd, destructor := .joinImu } :=
    ⟨_, .joinPointcloud hpc hdone, rfl⟩
  have himuRun : ReflTransGen (Quiet config) { s with pcd := pcd, destructor := .joinImu }
      { s with pcd := pcd, destructor := .joinImu, imu := imu } :=
    quiet_of_imu (s := { s with pcd := pcd, destructor := .joinImu }) himu
  have hreturn : Quiet config { s with pcd := pcd, destructor := .joinImu, imu := imu }
      { s with pcd := pcd, imu := imu, destructor := .returned } :=
    ⟨_, .joinImu rfl himuDone, rfl⟩
  exact ⟨_, (((quiet_of_pcd hpcd).tail hjoin).trans himuRun).tail hreturn, rfl⟩

end DriverState

/-! ## When the shutdown is safe -/

/-- A driver whose LiDARs are all off and whose threads have done nothing. -/
def DriverState.initial : DriverState R where
  flags := ⟨fun _ => .kConnectStateOff, false, false⟩
  pcd := .initial
  imu := .initial
  destructor := .notCalled

theorem DriverState.reachable_initial (config : PollConfig) :
    (driverMachine config).Reachable (.initial : DriverState R) :=
  .init ⟨rfl, rfl, rfl, rfl, rfl⟩

/-- What the point cloud threads can do between two push calls they can do in the driver. -/
theorem DriverState.reachable_of_poll {config : PollConfig} {p q : PollState R}
    {labels : List (DriverLabel R)} (hrun : (pollMachine config).Run p labels q)
    (hquiet : ∀ l ∈ labels, l.Quiet) {s : DriverState R}
    (h : (driverMachine config).Reachable { s with flags := p.flags, pcd := p.pcd }) :
    (driverMachine config).Reachable { s with flags := q.flags, pcd := q.pcd } := by
  induction hrun with
  | nil => exact h
  | @snoc q r labels l _ hstep ih =>
    have hbefore := ih fun l hl => hquiet l (List.mem_append_left _ hl)
    have hl : l.Quiet := hquiet l (List.mem_append_right _ (List.mem_singleton_self l))
    cases hstep with
    | pcd hpcd => exact hbefore.step (.pcd hpcd)
    | _ => exact hl.elim

/-- **When the shutdown cannot deadlock.**

For every earlier history, let the destructor have requested the exit and set the
exit promise.  No state that can be reached from there without new data is a
deadlock, exactly if neither poll thread was in `Wait` with count 0 and a producer
that was not going to signal. -/
theorem shutdown_returns_iff {config : PollConfig} {s t : DriverState R}
    (h : (driverMachine config).Reachable s) (hset : DriverStep config s .setValue t) :
    (∀ u, ReflTransGen (DriverState.Quiet config) t u → ¬ u.Deadlocked config) ↔
      ¬ s.pcd.Stranded ∧ ¬ s.imu.Stranded := by
  have hinv := DriverState.inv_of_reachable h
  have hinv' := hinv.step hset
  cases hset with
  | setValue hpc =>
    have hrequest : s.flags.requestExit = true := hinv.requested (by simp [hpc])
    rw [← not_or]
    constructor
    · intro hsafe hstranded
      obtain ⟨u, hrun, hdead⟩ := DriverState.Stranded.exists_deadlocked
        (s := { s with
          flags := { s.flags with exitSignal := true }
          destructor := .joinPointcloud }) hstranded hinv' ⟨hrequest, rfl⟩ rfl
      exact hsafe u hrun hdead
    · intro hnot u hrun hdead
      obtain ⟨hu, -, hnot'⟩ :=
        DriverState.not_stranded_of_quiet hinv' ⟨hrequest, rfl⟩ hnot hrun
      exact hnot' (hdead.stranded hu)

/-- A packet is pushed and popped, and both poll threads sleep with new data signalled when the
driver is destroyed. -/
theorem shutdown_returns_signalled :
    ∃ (config : PollConfig) (s t : DriverState Int) (i : Fin kMaxSourceLidar),
      (driverMachine config).Reachable s ∧ (s.pcd.lidars i).popped = [onePush.stored] ∧
      s.pcd.consumer = .wait ∧ s.pcd.count = 1 ∧ s.imu.consumer = .wait ∧ s.imu.count = 1 ∧
      DriverStep config s .setValue t ∧
      ∀ u, ReflTransGen (DriverState.Quiet config) t u → ¬ u.Deadlocked config := by
  let config : PollConfig := ⟨.ofParameter 10, kLivoxCustomMsg⟩
  let i : Fin kMaxSourceLidar := ⟨0, by decide⟩
  let start : PollState Int :=
    { flags := ⟨fun _ => .kConnectStateSampling, false, false⟩
      pcd := .initial
      steady := fun _ => true }
  have hstart : (pollMachine config).Reachable start := .init ⟨rfl, fun _ => rfl, rfl, rfl⟩
  -- the packet goes through its queue, and a second one is pushed
  obtain ⟨u, labels, v, henter, hserve, hquiet, hsteady, hwait, hzero, hidle, haccepted, hpopped⟩ :=
    exists_served (i := i) hstart rfl rfl rfl rfl rfl onePush
  have hv := hserve.reachable (hstart.step henter)
  have hheld : (v.pcd.lidars i).held = [] := by
    rw [QueueState.held, hpopped rfl, List.drop_length]
  obtain ⟨u', labels', w, henter', hpush, hquiet', hstores⟩ :=
    exists_pushed (inv_of_poll_reachable hv) hidle hheld onePush
  -- the IMU thread sleeps while a sample is stored
  let imuData : ImuData Int :=
    { lidarType := LidarProtoType.kLivoxLidarType.code, handle := 7, timeStamp := 1000
      gyroX := 1, gyroY := 2, gyroZ := 3, accX := 4, accY := 5, accZ := 6 }
  let driver : DriverState Int :=
    { flags := start.flags, pcd := start.pcd, imu := .initial, destructor := .notCalled }
  have hdriver : (driverMachine config).Reachable driver := .init ⟨rfl, rfl, rfl, rfl, rfl⟩
  have hpush : ImuStep driver.flags { driver.imu with consumer := .wait } (.push i imuData) _ :=
    .push rfl
  have himu := ((((hdriver.step (.imu (.poll (.sleep rfl)))).step (.imu hpush)).step
    (.imu (.held rfl rfl))).step (.imu (.countZero rfl (Nat.le_refl 0)))).step
      (.imu (.signal rfl))
  cases henter with
  | pcd hpcd =>
    have hserved := DriverState.reachable_of_poll hserve hquiet (himu.step (.pcd hpcd))
    cases henter' with
    | pcd hpcd' =>
      have hpushed := DriverState.reachable_of_poll hpush hquiet' (hserved.step (.pcd hpcd'))
      have hs := hpushed.step (.requestExit rfl)
      have hcount : w.pcd.count = 1 := by
        rw [hstores.count, hzero]
        rfl
      have hdone : (w.pcd.lidars i).popped = [onePush.stored] := by
        rw [hstores.popped, hpopped rfl, QueueState.pushed, haccepted]
        rfl
      refine ⟨config, _, _, i, hs, hdone, hstores.consumer.trans hwait, hcount, rfl, rfl,
        .setValue rfl, (shutdown_returns_iff hs (.setValue rfl)).mpr ⟨?_, ?_⟩⟩
      · intro hstranded
        exact Nat.one_ne_zero (hcount.symm.trans hstranded.count)
      · intro hstranded
        exact Nat.one_ne_zero hstranded.count

/-- Destroying a driver that never got any data: both threads have gone into `Wait`,
and the destructor stays in its first `join`. -/
theorem destructor_joins_waiting_thread :
    ¬ ∀ (config : PollConfig) (s t u : DriverState Int), (driverMachine config).Reachable s →
      DriverStep config s .setValue t → ReflTransGen (DriverState.Quiet config) t u →
      ¬ u.Deadlocked config := by
  intro hclaim
  let config : PollConfig := ⟨.ofParameter 10, kLivoxCustomMsg⟩
  have hinitial := DriverState.reachable_initial (R := Int) config
  have hpcd := Machine.Reachable.step hinitial (.pcd (.poll (.sleep rfl)))
  have himu := Machine.Reachable.step hpcd (.imu (.poll (.sleep rfl)))
  have hrequest := Machine.Reachable.step himu (.requestExit rfl)
  refine hclaim config _ _ _ hrequest (.setValue rfl) .refl (.inl ⟨rfl, rfl, ?_⟩)
  intro u hrun
  exact (DriverState.pcd_stranded_quiet ⟨rfl, rfl, .inl rfl⟩ hrun).count

end RoboRacer.Driver
