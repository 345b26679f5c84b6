/-
  Slam/UndistortionReads.lean --- what motion correction reads
  (`lidar_undistortion.hpp`).

  None of the arrays has an initialiser, and neither have the locals that keep the pose of
  the first point of a scan.  The reads of every call are listed here next to the state
  they are made in:

      reads                            the reads of a run
      undistortion_reads_written_iff   when all of them are of written values
      sample_reads_written             which of the samples are not
      reference_assigned_iff           when the pose of the first point is

  The first `getImu` already measures the time since the sample in the last slot, which
  nothing has written.
-/
import RoboRacer.Slam.Undistortion

set_option autoImplicit false

namespace RoboRacer.Slam

open RoboRacer.Foundation

/-! ## Reads -/

/-- A read of a value without an initialiser. -/
inductive ImuRead where
  /-- Of `imu_time_`, `imu_roll_`, `imu_pitch_` or `imu_yaw_`. -/
  | sample (i : ImuPtr)
  /-- Of a shift, a velocity or an angle. -/
  | integral (i : ImuPtr)
  /-- Of `r_s_i`, `shift_start` or `velo_start`. -/
  | reference

namespace LidarUndistortion

variable {K Q : Type}

/-- What is read has been written. -/
def ScanState.Written (s : ScanState K) : ImuRead → Prop
  | .sample i => s.imu.sampled i = true
  | .integral i => s.imu.integrated i = true
  | .reference => s.reference.isSome = true

variable [Field K] [LinearOrder K]

/-- The reads of `getImu`, which it makes behind its first writes. -/
def getImuReads (lib : AngleLib K Q) (s : LidarUndistortion K) (sample : ImuSample K Q) :
    List (ScanState K × ImuRead) :=
  let last := s.nextPtr
  let s := s.pushSample lib sample
  let reads : List ImuRead := [.sample last, .sample (last - 1)] ++
    if s.imuTime last - s.imuTime (last - 1) < s.scanPeriod then [.integral (last - 1)] else []
  reads.map ({ imu := s, reference := none }, ·)

/-- The reads of one pass of the loop of `adjustDistortion`, behind its guard. -/
def Visit.guardedReads (visit : Visit K) (last : ImuPtr) : List ImuRead :=
  let imu := visit.state.imu
  let front := imu.searchFront last visit.time
  (searched (imu.stopsAt visit.time) last imu.imuPtrLastIter).map .sample ++ [.sample front] ++
    if imu.skips front visit.time then []
    else
      (if imu.imuTime front < visit.time then [.sample front, .integral front]
      else [.sample (front - 1), .sample front, .integral front, .integral (front - 1)]) ++
        if visit.isFirst then [] else [.reference]

/-- The reads of one pass of the loop of `adjustDistortion`. -/
def Visit.reads (visit : Visit K) : List ImuRead :=
  match visit.state.imu.guardLast with
  | none => []
  | some last => visit.guardedReads last

/-- The reads of some passes. -/
def readsOf (visits : List (Visit K)) : List (ScanState K × ImuRead) :=
  visits.flatMap fun visit => visit.reads.map (visit.state, ·)

/-- The reads of a call. -/
def callReads (lib : AngleLib K Q) (s : LidarUndistortion K) (call : ImuCall K Q) :
    List (ScanState K × ImuRead) :=
  match call with
  | .getImu sample => getImuReads lib s sample
  | .scan _ _ _ => readsOf (s.callVisits lib call)

/-- The reads of a run. -/
def reads (lib : AngleLib K Q) :
    LidarUndistortion K → List (ImuCall K Q) → List (ScanState K × ImuRead)
  | _, [] => []
  | s, call :: calls => s.callReads lib call ++ reads lib (s.step lib call) calls

/-! ## Before the first sample -/

/-- The first sample is compared with the last slot of the ring. -/
theorem exists_getImuReads_not_written {s : LidarUndistortion K} (h : Ring [] s)
    (lib : AngleLib K Q) (sample : ImuSample K Q) :
    ∃ read ∈ getImuReads lib s sample, ¬ read.1.Written read.2 := by
  have hnext : s.nextPtr = 0 := h.nextPtr
  have hlast : s.sampled (0 - 1) = false := by
    rw [← Bool.not_eq_true, h.sampled]
    exact Nat.not_lt_zero _
  refine ⟨({ imu := s.pushSample lib sample, reference := none }, .sample (s.nextPtr - 1)),
    List.mem_map_of_mem (List.mem_append_left _ (.tail _ (.head _))), ?_⟩
  simp only [ScanState.Written, pushSample, hnext]
  rw [Function.update_of_ne (by decide), hlast]
  exact Bool.false_ne_true

theorem mem_readsOf {visits : List (Visit K)} {read : ScanState K × ImuRead} :
    read ∈ readsOf visits ↔
      ∃ visit ∈ visits, read.2 ∈ visit.reads ∧ read.1 = visit.state := by
  simp only [readsOf, List.mem_flatMap, List.mem_map]
  constructor
  · rintro ⟨visit, hvisit, r, hr, rfl⟩
    exact ⟨visit, hvisit, hr, rfl⟩
  · rintro ⟨visit, hvisit, hr, hstate⟩
    exact ⟨visit, hvisit, read.2, hr, by rw [← hstate]⟩

/-- Without a sample a scan reads nothing. -/
theorem reads_of_ring_nil {visit : Visit K} (h : Ring [] visit.state.imu) :
    visit.reads = [] := by
  have hnone : visit.state.imu.guardLast = none := by
    rw [guardLast, h.last]
    rfl
  rw [Visit.reads, hnone]

/-- The reads of a run, from an object that has got no sample. -/
theorem reads_written_iff (lib : AngleLib K Q) {s : LidarUndistortion K} (h : Ring [] s)
    (calls : List (ImuCall K Q)) :
    (∀ read ∈ reads lib s calls, read.1.Written read.2) ↔ ∀ sample, .getImu sample ∉ calls := by
  induction calls generalizing s with
  | nil => simp [reads]
  | cons call calls ih =>
    cases call with
    | getImu sample =>
      refine iff_of_false (fun hwritten => ?_) fun hno => hno sample List.mem_cons_self
      obtain ⟨read, hmem, hnot⟩ := exists_getImuReads_not_written h lib sample
      exact hnot (hwritten read (List.mem_append_left _ hmem))
    | scan points scanTime memory =>
      have hnext : Ring [] (s.step lib (.scan points scanTime memory)) :=
        h.step lib (.scan points scanTime memory)
      have hreads : s.callReads lib (.scan points scanTime memory) = [] := by
        rw [List.eq_nil_iff_forall_not_mem]
        intro read hread
        obtain ⟨visit, hvisit, hr, -⟩ := mem_readsOf.mp hread
        rw [reads_of_ring_nil (h.callVisits lib _ visit hvisit)] at hr
        cases hr
      rw [reads, hreads, List.nil_append, ih hnext]
      simp

/-! ## Behind the first sample -/

/-- A read of the arrays that every sample writes is of a slot that has been written, or of
the one before the first. -/
def SampledOrLast (read : ScanState K × ImuRead) : Prop :=
  ∀ i, read.2 = .sample i → read.1.imu.sampled i = true ∨ i = 0 - 1

variable {times : List K}

omit [Field K] [LinearOrder K] in
/-- The slot before one that was written. -/
theorem Ring.back {s : LidarUndistortion K} (h : Ring times s) {i : ImuPtr}
    (hi : s.sampled i = true) : s.sampled (i - 1) = true ∨ i - 1 = 0 - 1 := by
  by_cases hzero : i = 0
  · exact .inr (congrArg (· - 1) hzero)
  · refine .inl ((h.sampled _).mpr ?_)
    have hlt := (h.sampled i).mp hi
    have hval : (i - 1).val = i.val - 1 := Fin.val_sub_one_of_ne_zero hzero
    omega

theorem Ring.getImuReads {s : LidarUndistortion K} (h : Ring times s) (lib : AngleLib K Q)
    (sample : ImuSample K Q) : ∀ read ∈ getImuReads lib s sample, SampledOrLast read := by
  have hlast : (s.pushSample lib sample).sampled s.nextPtr = true := Function.update_self ..
  have hback := (h.pushSample lib sample).back hlast
  intro read hread i hi
  obtain ⟨r, hr, rfl⟩ := List.mem_map.mp hread
  cases hi
  rcases List.mem_append.mp hr with hsample | hintegral
  · rcases List.mem_cons.mp hsample with heq | hsample
    · cases heq
      exact .inl hlast
    · cases List.mem_singleton.mp hsample
      exact hback
  · split at hintegral
    · cases List.mem_singleton.mp hintegral
    · cases hintegral

/-- The slots that a point reads a sample of. -/
theorem sample_mem_reads {visit : Visit K} {last i : ImuPtr}
    (hlast : visit.state.imu.guardLast = some last) (hi : ImuRead.sample i ∈ visit.reads) :
    i ∈ searched (visit.state.imu.stopsAt visit.time) last visit.state.imu.imuPtrLastIter ∨
      i = visit.state.imu.searchFront last visit.time ∨
      i = visit.state.imu.searchFront last visit.time - 1 := by
  rw [Visit.reads, hlast] at hi
  rcases List.mem_append.mp hi with hsearch | hpose
  · rcases List.mem_append.mp hsearch with hpassed | hfront
    · obtain ⟨j, hj, heq⟩ := List.mem_map.mp hpassed
      cases heq
      exact .inl hj
    · cases List.mem_singleton.mp hfront
      exact .inr (.inl rfl)
  · right
    split at hpose
    · cases hpose
    · rcases List.mem_append.mp hpose with hpose | hreference
      · split at hpose
        · exact .inl (by simpa using hpose)
        · simpa [or_comm] using hpose
      · split at hreference
        · cases hreference
        · cases List.mem_singleton.mp hreference

theorem Ring.visitReads {visit : Visit K} (h : Ring times visit.state.imu) :
    ∀ r ∈ visit.reads, SampledOrLast (visit.state, r) := by
  intro r hr i hi
  cases hi
  cases hlast : visit.state.imu.guardLast with
  | none =>
    rw [Visit.reads, hlast] at hr
    cases hr
  | some last =>
    have hfront := h.sampled_searchFront hlast visit.time
    obtain ⟨hiter, hnext⟩ := h.slots hlast
    rcases sample_mem_reads hlast hr with hsearched | rfl | rfl
    · refine .inl ((h.sampled i).mpr ?_)
      exact searched_invariant (fun i => i.val < times.length)
        (fun i hi hne _ => hnext i hi hne) hiter i hsearched
    · exact .inl hfront
    · exact h.back hfront

theorem Ring.callReads {s : LidarUndistortion K} (h : Ring times s) (lib : AngleLib K Q)
    (call : ImuCall K Q) : ∀ read ∈ s.callReads lib call, SampledOrLast read := by
  cases call with
  | getImu sample => exact h.getImuReads lib sample
  | scan points scanTime memory =>
    intro read hread
    obtain ⟨visit, hvisit, hr, hstate⟩ := mem_readsOf.mp hread
    have hring := h.callVisits lib (.scan points scanTime memory) visit hvisit
    obtain ⟨state, r⟩ := read
    cases hstate
    exact hring.visitReads r hr

theorem Ring.reads {s : LidarUndistortion K} (h : Ring times s) (lib : AngleLib K Q)
    (calls : List (ImuCall K Q)) : ∀ read ∈ reads lib s calls, SampledOrLast read := by
  induction calls generalizing s times with
  | nil => exact fun _ hread => absurd hread List.not_mem_nil
  | cons call calls ih =>
    intro read hread
    rcases List.mem_append.mp hread with hcall | hrest
    · exact h.callReads lib call read hcall
    · exact ih (h.step lib call) read hrest

/-! ## The pose of the first point -/

/-- Once it is assigned the reference stays assigned. -/
theorem adjustPoint_reference (lib : AngleLib K Q) (memory : ScanReference K) (scanTime : K)
    (s : ScanState K) (p : PointXYZI K) (relTime : K) :
    (adjustPoint lib memory scanTime false s p relTime).1.reference = s.reference := by
  unfold adjustPoint
  split
  · rfl
  · dsimp only
    split
    · rfl
    · rfl

/-- All points of a scan but the first find the same reference. -/
theorem reference_scanVisits (lib : AngleLib K Q) (memory : ScanReference K) (scanTime : K)
    (s : ScanState K) (points : List (PointXYZI K × K)) :
    ∀ visit ∈ scanVisits lib memory scanTime false s points,
      visit.state.reference = s.reference := by
  induction points generalizing s with
  | nil => exact fun _ hvisit => absurd hvisit List.not_mem_nil
  | cons point points ih =>
    intro visit hvisit
    rcases List.mem_cons.mp hvisit with rfl | hrest
    · rfl
    · exact (ih _ visit hrest).trans (adjustPoint_reference lib memory scanTime s ..)

/-- The first point does not read the reference. -/
theorem reference_not_mem_reads {visit : Visit K} (h : visit.isFirst = true) :
    ImuRead.reference ∉ visit.reads := by
  rw [Visit.reads]
  split
  · exact List.not_mem_nil
  · rw [Visit.guardedReads, h]
    split
    · simp
    · split
      · simp
      · simp

/-- The loop behind the first point of a scan. -/
def behindFirst (lib : AngleLib K Q) (memory : ScanReference K) (scanTime : K)
    (s : LidarUndistortion K) (first : PointXYZI K × K) : ScanState K :=
  (adjustPoint lib memory scanTime true { imu := s, reference := none } first.1 first.2).1

/-- **When the pose of the first point is assigned before it is used.**

The reads of the reference in a scan are of assigned locals if and only if the first point
assigns them, or no later point gets as far as to read them. -/
theorem reference_assigned_iff (lib : AngleLib K Q) (memory : ScanReference K) (scanTime : K)
    (s : LidarUndistortion K) (first : PointXYZI K × K) (points : List (PointXYZI K × K)) :
    (∀ visit ∈ s.callVisits lib (.scan (first :: points) scanTime memory),
      ImuRead.reference ∈ visit.reads → visit.state.Written .reference) ↔
    (behindFirst lib memory scanTime s first).reference.isSome = true ∨
      ∀ visit ∈ scanVisits lib memory scanTime false (behindFirst lib memory scanTime s first)
        points, ImuRead.reference ∉ visit.reads := by
  have hlater := reference_scanVisits lib memory scanTime (behindFirst lib memory scanTime s first)
    points
  constructor
  · intro hwritten
    refine or_iff_not_imp_left.mpr fun hnone visit hvisit href => hnone ?_
    have hassigned := hwritten visit (List.mem_cons_of_mem _ hvisit) href
    exact (congrArg Option.isSome (hlater visit hvisit)).symm.trans hassigned
  · intro hor visit hvisit href
    rcases List.mem_cons.mp hvisit with rfl | hrest
    · exact absurd href (reference_not_mem_reads rfl)
    · rcases hor with hassigned | hnever
      · exact (congrArg Option.isSome (hlater visit hrest)).trans hassigned
      · exact absurd href (hnever visit hrest)

end LidarUndistortion

/-! ## Runs -/

/-- **When undistortion reads only written values.**

In any calls on a fresh object, whatever its memory, the samples, the points and their
times, all reads are of written values if and only if there is no `getImu` among them: the
first one measures the time since a sample that was never there. -/
theorem undistortion_reads_written_iff {K Q : Type} [Field K] [LinearOrder K]
    (lib : AngleLib K Q) (scanPeriod : K) (memory : LidarUndistortion K)
    (calls : List (ImuCall K Q)) :
    (∀ read ∈ LidarUndistortion.reads lib (.fresh scanPeriod memory) calls,
      read.1.Written read.2) ↔ ∀ sample, .getImu sample ∉ calls :=
  LidarUndistortion.reads_written_iff lib (.fresh scanPeriod memory) calls

/-- One sample. -/
theorem first_sample_reads_unwritten :
    ¬ ∀ calls : List (ImuCall ℚ Unit),
      ∀ read ∈ LidarUndistortion.reads axesLib (.fresh (1 / 10) zeroMemory) calls,
        read.1.Written read.2 := by
  intro h
  -- the time in the last slot
  have hwritten : Function.update (fun _ => false) 0 true (0 - 1 : ImuPtr) = true :=
    h [.getImu (restingSample 0)] _ (.tail _ (.head _))
  exact absurd hwritten (by decide)

/-- **What is not written when it is read.**

In every run, a time, roll, pitch or yaw that is read without having been written is in the
last slot, where the sample before the first one would be. -/
theorem sample_reads_written {K Q : Type} [Field K] [LinearOrder K] (lib : AngleLib K Q)
    (scanPeriod : K) (memory : LidarUndistortion K) (calls : List (ImuCall K Q)) :
    ∀ read ∈ LidarUndistortion.reads lib (.fresh scanPeriod memory) calls,
      LidarUndistortion.SampledOrLast read :=
  (LidarUndistortion.Ring.fresh scanPeriod memory).reads lib calls

end RoboRacer.Slam
