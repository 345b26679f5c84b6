/-
  Driver/ImuThreads.lean --- the IMU poll thread and its producer (`lds.cpp`,
  `lddc.cpp`, `comm/lidar_imu_data_queue.cpp`).

  The IMU side has the shape of the point cloud side of Driver/PollThreads.lean:
  the same tests, another semaphore, and an unbounded list under a mutex for each
  LiDAR, so that every operation on a queue is one step.
-/
import RoboRacer.Driver.LidarDevice
import RoboRacer.Driver.PollProgress

set_option autoImplicit false

namespace RoboRacer.Driver

open RoboRacer.Foundation Relation

variable {R : Type}

/-! ## The two threads -/

/-- Where the producer is inside `StorageImuData`, once it knows the slot. -/
inductive StorageImuPc where
  /-- Not in a call, or about to push. -/
  | idle
  /-- At the `Empty` test. -/
  | testEmpty (i : Fin kMaxSourceLidar)
  /-- About to read the semaphore's count. -/
  | getCount
  /-- About to signal. -/
  | signal

/-- The IMU queues, `imu_semaphore_` and the two threads. -/
structure ImuSide (R : Type) where
  lidars : Fin kMaxSourceLidar → List (ImuData R)
  count : Nat
  producer : StorageImuPc
  consumer : PollPc

namespace ImuSide

/-- No data has come yet. -/
def initial : ImuSide R where
  lidars := fun _ => []
  count := 0
  producer := .idle
  consumer := .distribute

/-- What the consumer reads of the queues: a list always has its storage. -/
def view (s : ImuSide R) : QueueView where
  hasStorage _ := true
  isEmpty i := (s.lidars i).isEmpty
  publishes := true

end ImuSide

/-- The steps of the two threads, with the LiDAR they are about. -/
inductive ImuLabel (R : Type) where
  | push (i : Fin kMaxSourceLidar) (imuData : ImuData R)
  | held (i : Fin kMaxSourceLidar)
  | drained (i : Fin kMaxSourceLidar)
  | countZero
  | countPositive
  | signal
  | poll (l : PollLabel)
  | wake
  | pop (i : Fin kMaxSourceLidar)
  | popEmpty (i : Fin kMaxSourceLidar)

/-- One step of either thread. -/
inductive ImuStep (flags : DriverFlags) : ImuSide R → ImuLabel R → ImuSide R → Prop
  | push {s : ImuSide R} {i : Fin kMaxSourceLidar} {imuData : ImuData R} :
      s.producer = .idle →
      ImuStep flags s (.push i imuData)
        { s with
          lidars := Function.update s.lidars i (s.lidars i ++ [imuData])
          producer := .testEmpty i }
  | held {s : ImuSide R} {i : Fin kMaxSourceLidar} :
      s.producer = .testEmpty i → (s.lidars i).isEmpty = false →
      ImuStep flags s (.held i) { s with producer := .getCount }
  | drained {s : ImuSide R} {i : Fin kMaxSourceLidar} :
      s.producer = .testEmpty i → (s.lidars i).isEmpty = true →
      ImuStep flags s (.drained i) { s with producer := .idle }
  | countZero {s : ImuSide R} : s.producer = .getCount → s.count ≤ 0 →
      ImuStep flags s .countZero { s with producer := .signal }
  | countPositive {s : ImuSide R} : s.producer = .getCount → ¬ s.count ≤ 0 →
      ImuStep flags s .countPositive { s with producer := .idle }
  | signal {s : ImuSide R} : s.producer = .signal →
      ImuStep flags s .signal { s with count := s.count + 1, producer := .idle }
  | poll {s : ImuSide R} {l : PollLabel} {pc : PollPc} :
      PollControl flags s.view s.consumer l pc →
      ImuStep flags s (.poll l) { s with consumer := pc }
  | wake {s : ImuSide R} : s.consumer = .wait → 0 < s.count →
      ImuStep flags s .wake { s with count := s.count - 1, consumer := .scan 0 }
  | pop {s : ImuSide R} {i : Fin kMaxSourceLidar} {imuData : ImuData R}
      {rest : List (ImuData R)} :
      s.consumer = .publish i → s.lidars i = imuData :: rest →
      ImuStep flags s (.pop i)
        { s with lidars := Function.update s.lidars i rest, consumer := .whileExit i }
  | popEmpty {s : ImuSide R} {i : Fin kMaxSourceLidar} :
      s.consumer = .publish i → s.lidars i = [] →
      ImuStep flags s (.popEmpty i) { s with consumer := .whileExit i }

/-- A step that brings no new data. -/
def ImuQuiet (flags : DriverFlags) (s t : ImuSide R) : Prop :=
  ∃ l, ImuStep flags s l t ∧ ∀ i imuData, l ≠ .push i imuData

/-! ## Stranded threads -/

/-- The poll thread is in `Wait` with count 0, and the producer is not going to
signal. -/
structure ImuSide.Stranded (s : ImuSide R) : Prop where
  waiting : s.consumer = .wait
  count : s.count = 0
  producer : s.producer = .idle ∨ ∃ i, s.producer = .testEmpty i ∧ s.lidars i = []

namespace ImuSide

variable {flags : DriverFlags} {s t : ImuSide R}

/-- The scan of the IMU thread stays in bounds. -/
theorem bounded_of_step {l : ImuLabel R} (h : s.consumer.Bounded) (hstep : ImuStep flags s l t) :
    t.consumer.Bounded := by
  cases hstep with
  | poll hcontrol => exact hcontrol.bounded
  | wake =>
    intro i hi
    cases hi
    exact Nat.zero_le _
  | pop =>
    intro i hi
    cases hi
  | popEmpty =>
    intro i hi
    cases hi
  | _ => exact h

/-- Without new data a stranded thread stays stranded. -/
theorem Stranded.quiet (h : s.Stranded) (hquiet : ImuQuiet flags s t) : t.Stranded := by
  obtain ⟨l, hstep, hnot⟩ := hquiet
  have hproducer : s.producer ≠ .getCount ∧ s.producer ≠ .signal := by
    obtain hpc | ⟨i, hpc, -⟩ := h.producer <;> rw [hpc] <;> exact ⟨by simp, by simp⟩
  cases hstep with
  | push => exact absurd rfl (hnot _ _)
  | held hpc hheld =>
    obtain heq | ⟨j, heq, hempty⟩ := h.producer
    · rw [hpc] at heq
      cases heq
    · rw [hpc] at heq
      cases heq
      rw [hempty] at hheld
      cases hheld
  | drained _ _ => exact ⟨h.waiting, h.count, .inl rfl⟩
  | countZero hpc _ => exact absurd hpc hproducer.1
  | countPositive hpc _ => exact absurd hpc hproducer.1
  | signal hpc => exact absurd hpc hproducer.2
  | poll hcontrol =>
    rw [h.waiting] at hcontrol
    cases hcontrol
  | wake _ hpos =>
    rw [h.count] at hpos
    exact absurd hpos (Nat.lt_irrefl 0)
  | pop hpc _ =>
    rw [h.waiting] at hpc
    cases hpc
  | popEmpty hpc _ =>
    rw [h.waiting] at hpc
    cases hpc

/-- Once the exit is requested no step strands the thread. -/
theorem Stranded.of_step {l : ImuLabel R} (h : t.Stranded) (hexit : flags.requestExit = true)
    (hstep : ImuStep flags s l t) : s.Stranded := by
  cases hstep with
  | @push i imuData _ =>
    obtain hpc | ⟨j, hpc, hempty⟩ := h.producer
    · cases hpc
    · cases hpc
      simp at hempty
  | held => obtain hpc | ⟨j, hpc, -⟩ := h.producer <;> cases hpc
  | @drained i hpc hempty =>
    exact ⟨h.waiting, h.count, .inr ⟨i, hpc, List.isEmpty_iff.mp hempty⟩⟩
  | countZero => obtain hpc | ⟨j, hpc, -⟩ := h.producer <;> cases hpc
  | countPositive _ hpos => exact absurd (Nat.le_of_eq h.count) hpos
  | signal => exact absurd h.count (Nat.succ_ne_zero _)
  | poll hcontrol => exact absurd h.waiting (hcontrol.ne_wait hexit)
  | wake => cases h.waiting
  | pop => cases h.waiting
  | popEmpty => cases h.waiting

/-! ## Progress -/

theorem quiet_of_step {l : ImuLabel R} (hstep : ImuStep flags s l t)
    (hnot : ∀ i imuData, l ≠ .push i imuData) : ImuQuiet flags s t :=
  ⟨l, hstep, hnot⟩

/-- Without new data the producer can raise the count while the poll thread stays
where it is. -/
def Signals (flags : DriverFlags) (s : ImuSide R) : Prop :=
  ∃ t, ReflTransGen (ImuQuiet flags) s t ∧ 0 < t.count ∧ t.consumer = s.consumer

/-- A producer that is about to read the count 0 signals. -/
theorem signals_of_getCount (hpc : s.producer = .getCount) (hcount : s.count = 0) :
    s.Signals flags := by
  have hread : ImuQuiet flags s { s with producer := .signal } :=
    quiet_of_step (.countZero hpc (Nat.le_of_eq hcount)) (by simp)
  have hsignal : ImuQuiet flags { s with producer := .signal }
      { s with count := s.count + 1, producer := .idle } :=
    quiet_of_step (.signal rfl) (by simp)
  exact ⟨_, (ReflTransGen.single hread).tail hsignal, Nat.succ_pos _, rfl⟩

/-- If the thread waits with count 0 and is not stranded, it can be woken. -/
theorem signals_of_not_stranded (hwait : s.consumer = .wait) (hcount : s.count = 0)
    (hnot : ¬ s.Stranded) : s.Signals flags := by
  cases hpc : s.producer with
  | idle => exact absurd ⟨hwait, hcount, .inl hpc⟩ hnot
  | testEmpty i =>
    have hheld : (s.lidars i).isEmpty = false := by
      rw [← Bool.not_eq_true, List.isEmpty_iff]
      exact fun hempty => hnot ⟨hwait, hcount, .inr ⟨i, hpc, hempty⟩⟩
    have hstep : ImuStep flags s (.held i) { s with producer := .getCount } := .held hpc hheld
    have hnext : Signals flags { s with producer := .getCount } :=
      signals_of_getCount rfl hcount
    obtain ⟨t, hrun, hpos, ht⟩ := hnext
    exact ⟨t, hrun.head (quiet_of_step hstep (by simp)), hpos, ht⟩
  | getCount => exact signals_of_getCount hpc hcount
  | signal =>
    have hsignal : ImuQuiet flags s { s with count := s.count + 1, producer := .idle } :=
      quiet_of_step (.signal hpc) (by simp)
    exact ⟨_, .single hsignal, Nat.succ_pos _, rfl⟩

/-- The tests of the poll thread are steps of the IMU side. -/
theorem quiet_of_tests {pc : PollPc} (h : ReflTransGen (Tests flags s.view) s.consumer pc) :
    ReflTransGen (ImuQuiet flags) s { s with consumer := pc } := by
  refine ReflTransGen.lift (fun pc => { s with consumer := pc }) ?_ _ _ h
  rintro pc₁ pc₂ ⟨l, hcontrol⟩
  have hstep : ImuStep flags { s with consumer := pc₁ } (.poll l)
      { s with consumer := pc₂ } := .poll hcontrol
  exact quiet_of_step hstep (by simp)

/-- The consumer inside `PublishImuData` can come out of it. -/
theorem exists_published {i : Fin kMaxSourceLidar} (hpc : s.consumer = .publish i) :
    ∃ t, ImuQuiet flags s t ∧ t.consumer = .whileExit i := by
  cases hqueue : s.lidars i with
  | nil =>
    have hstep : ImuStep flags s (.popEmpty i) _ := .popEmpty hpc hqueue
    exact ⟨_, quiet_of_step hstep (by simp), rfl⟩
  | cons imuData rest =>
    have hstep : ImuStep flags s (.pop i) _ := .pop hpc hqueue
    exact ⟨_, quiet_of_step hstep (by simp), rfl⟩

/-- An exiting poll thread that is not stranded can come to its end. -/
theorem exists_finished (hexit : flags.Exiting) (hbound : s.consumer.Bounded)
    (hnot : ¬ s.Stranded) :
    ∃ t, ReflTransGen (ImuQuiet flags) s t ∧ t.consumer = .finished := by
  have hkeeps : ∀ s t : ImuSide R, True → ReflTransGen (ImuQuiet flags) s t → True :=
    fun _ _ _ _ => trivial
  refine exists_finished_of_wakes hexit hkeeps (fun s pc h => ⟨_, quiet_of_tests h, rfl⟩)
    (fun s i _ hpc => ?_) trivial hbound (fun hwait => ?_)
  · obtain ⟨t, hstep, ht⟩ := exists_published hpc
    exact ⟨t, .single hstep, ht⟩
  · obtain ⟨u, hrun, hcount, hu⟩ : s.Signals flags := by
      rcases Nat.eq_zero_or_pos s.count with hzero | hpos
      · exact signals_of_not_stranded hwait hzero hnot
      · exact ⟨s, .refl, hpos, rfl⟩
    have hstep : ImuStep flags u .wake _ := .wake (hu.trans hwait) hcount
    exact ⟨_, hrun.tail (quiet_of_step hstep (by simp)), rfl⟩

end ImuSide

end RoboRacer.Driver
