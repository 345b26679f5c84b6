/-
  Slam/ImuPointers.lean --- the pointers of the IMU ring as the integers they are
  (`lidar_undistortion.hpp`).

  `Slam/Undistortion` has pointers that cannot leave the ring.  Those of the source are
  `int`s, one of which starts at -1, and the inner loop of `adjustDistortion` runs until two
  of them are equal.  Here both functions are a machine whose labels are their assignments
  and branches, with any outcome of a comparison of times:

      InRange                    where the pointers are, and how long a search may still be
      imu_pointers_in_range      in every run they are in the ring
      run_of_calls               the calls of `Slam/Undistortion` are runs of the machine
-/
import RoboRacer.Foundation.Machine
import RoboRacer.Slam.Undistortion

set_option autoImplicit false

namespace RoboRacer.Slam

open RoboRacer.Foundation

/-! ## The machine -/

/-- `(i + 1) % imu_que_length_`. -/
def nextIndex (i : Int) : Int :=
  (i + 1).tmod 200

/-- `(i - 1 + imu_que_length_) % imu_que_length_`. -/
def backIndex (i : Int) : Int :=
  (i - 1 + 200).tmod 200

/-- Where the calls are. -/
inductive PointerControl where
  /-- In none of the functions. -/
  | idle
  /-- In front of a point, or behind the last one. -/
  | scanning
  /-- At the condition of the inner loop, behind so many passes. -/
  | searching (passes : Nat)
  /-- Behind the inner loop. -/
  | found
  deriving DecidableEq

/-- The three pointers. -/
structure PointerState where
  imuPtrFront : Int
  imuPtrLast : Int
  imuPtrLastIter : Int
  control : PointerControl
  deriving DecidableEq

inductive PointerStep where
  | getImu
  | beginScan
  | endScan
  /-- A point while `imu_ptr_last_ > 0` is false. -/
  | passPoint
  | beginSearch
  /-- A pass of the inner loop, without the break. -/
  | advance
  /-- The break: the point comes before the sample. -/
  | stop
  /-- The condition of the inner loop is false. -/
  | reachLast
  /-- `continue`: the sample is too far away. -/
  | skip
  /-- The point is corrected, with the sample before the one found unless it is beyond. -/
  | correct (beyond : Bool)
  deriving DecidableEq

namespace PointerState

/-- The members as they are initialised. -/
def initial : PointerState where
  imuPtrFront := 0
  imuPtrLast := -1
  imuPtrLastIter := 0
  control := .idle

/-- One step; none where the source cannot take it. -/
def step (s : PointerState) (l : PointerStep) : Option PointerState :=
  match s.control, l with
  | .idle, .getImu =>
    let last := nextIndex s.imuPtrLast
    let front :=
      if nextIndex last = s.imuPtrFront then nextIndex s.imuPtrFront else s.imuPtrFront
    some { s with imuPtrLast := last, imuPtrFront := front }
  | .idle, .beginScan => some { s with control := .scanning }
  | .scanning, .endScan => some { s with control := .idle }
  | .scanning, .passPoint =>
    if 0 < s.imuPtrLast then none else some { s with imuPtrLastIter := s.imuPtrFront }
  | .scanning, .beginSearch =>
    if 0 < s.imuPtrLast then
      some { s with imuPtrFront := s.imuPtrLastIter, control := .searching 0 }
    else none
  | .searching passes, .advance =>
    if s.imuPtrFront = s.imuPtrLast then none
    else some { s with imuPtrFront := nextIndex s.imuPtrFront, control := .searching (passes + 1) }
  | .searching _, .stop =>
    if s.imuPtrFront = s.imuPtrLast then none else some { s with control := .found }
  | .searching _, .reachLast =>
    if s.imuPtrFront = s.imuPtrLast then some { s with control := .found } else none
  | .found, .skip => some { s with control := .scanning }
  | .found, .correct _ =>
    some { s with imuPtrLastIter := s.imuPtrFront, control := .scanning }
  | _, _ => none

/-- The indices that a step uses on the arrays. -/
def indices (s : PointerState) : PointerStep → List Int
  | .getImu => [nextIndex s.imuPtrLast, backIndex (nextIndex s.imuPtrLast)]
  | .advance => [s.imuPtrFront]
  | .stop => [s.imuPtrFront]
  | .skip => [s.imuPtrFront]
  | .correct true => [s.imuPtrFront]
  | .correct false => [s.imuPtrFront, backIndex s.imuPtrFront]
  | _ => []

end PointerState

/-- All calls of `getImu` and `adjustDistortion`, in any order and with any data. -/
def imuPointerMachine : Machine PointerState PointerStep :=
  .ofStep .initial PointerState.step

/-! ## The ring -/

/-- An index into the ring. -/
def InRing (i : Int) : Prop :=
  0 ≤ i ∧ i ≤ 199

theorem nextIndex_eq {i : Int} (h : -1 ≤ i) : nextIndex i = (i + 1) % 200 :=
  Int.tmod_eq_emod_of_nonneg (by omega)

theorem backIndex_eq {i : Int} (h : 0 ≤ i) : backIndex i = (i + 199) % 200 := by
  rw [backIndex, Int.tmod_eq_emod_of_nonneg (by omega)]
  congr 1
  omega

theorem inRing_nextIndex {i : Int} (h : -1 ≤ i) : InRing (nextIndex i) := by
  rw [nextIndex_eq h]
  exact ⟨by omega, by omega⟩

theorem inRing_backIndex {i : Int} (h : 0 ≤ i) : InRing (backIndex i) := by
  rw [backIndex_eq h]
  exact ⟨by omega, by omega⟩

namespace PointerState

/-- The pointers are in the ring, and a search has not more to go than is left of one
round. -/
structure InRange (sampled : Prop) (s : PointerState) : Prop where
  front : InRing s.imuPtrFront
  iter : InRing s.imuPtrLastIter
  last : sampled → InRing s.imuPtrLast
  unsampled : ¬ sampled → s.imuPtrLast = -1
  search : ∀ passes, s.control = .searching passes →
    InRing s.imuPtrLast ∧ passes + (s.imuPtrLast - s.imuPtrFront) % 200 ≤ 199

theorem inRange_initial : InRange False initial where
  front := ⟨by decide, by decide⟩
  iter := ⟨by decide, by decide⟩
  last := False.elim
  unsampled _ := rfl
  search passes h := by cases h

variable {sampled : Prop} {s t : PointerState} {l : PointerStep}

theorem InRange.last_ge (h : s.InRange sampled) : -1 ≤ s.imuPtrLast := by
  by_cases hsampled : sampled
  · have hlast := (h.last hsampled).1
    omega
  · rw [h.unsampled hsampled]

/-- The arrays are only used in the ring. -/
theorem InRange.indices (h : s.InRange sampled) (l : PointerStep) :
    ∀ i ∈ s.indices l, InRing i := by
  have hlast := inRing_nextIndex h.last_ge
  have hback := inRing_backIndex hlast.1
  have hfront := h.front
  have hbefore := inRing_backIndex hfront.1
  cases l with
  | getImu => simp [PointerState.indices, hlast, hback]
  | correct beyond =>
    cases beyond with
    | true => simp [PointerState.indices, hfront]
    | false => simp [PointerState.indices, hfront, hbefore]
  | advance => simp [PointerState.indices, hfront]
  | stop => simp [PointerState.indices, hfront]
  | skip => simp [PointerState.indices, hfront]
  | _ => simp [PointerState.indices]

/-- A step that leaves `imu_ptr_last_` alone. -/
theorem InRange.moves (h : s.InRange sampled) (hne : l ≠ .getImu)
    (hlast : t.imuPtrLast = s.imuPtrLast) (hfront : InRing t.imuPtrFront)
    (hiter : InRing t.imuPtrLastIter)
    (hsearch : ∀ passes, t.control = .searching passes →
      InRing t.imuPtrLast ∧ passes + (t.imuPtrLast - t.imuPtrFront) % 200 ≤ 199) :
    t.InRange (sampled ∨ l = .getImu) := by
  rw [or_iff_left hne]
  exact ⟨hfront, hiter, by rw [hlast]; exact h.last, by rw [hlast]; exact h.unsampled, hsearch⟩

/-- **Step lemma.** -/
theorem InRange.step (h : s.InRange sampled) (hstep : s.step l = some t) :
    t.InRange (sampled ∨ l = .getImu) := by
  have hnext := inRing_nextIndex h.last_ge
  unfold PointerState.step at hstep
  split at hstep
  case h_1 hcontrol =>
    -- getImu
    cases hstep
    have hfront := inRing_nextIndex (by have := h.front.1; omega : -1 ≤ s.imuPtrFront)
    refine ⟨?_, h.iter, fun _ => hnext, fun hnot => absurd (.inr rfl) hnot, fun passes hs => ?_⟩
    · dsimp only
      split
      · exact hfront
      · exact h.front
    · rw [hcontrol] at hs
      cases hs
  case h_2 =>
    cases hstep
    exact h.moves (by simp) rfl h.front h.iter (fun _ hs => by cases hs)
  case h_3 =>
    cases hstep
    exact h.moves (by simp) rfl h.front h.iter (fun _ hs => by cases hs)
  case h_4 hcontrol =>
    split at hstep
    · cases hstep
    · cases hstep
      exact h.moves (by simp) rfl h.front h.front h.search
  case h_5 =>
    split at hstep
    case isTrue hguard =>
      cases hstep
      refine h.moves (by simp) rfl h.iter h.iter fun passes hs => ?_
      cases hs
      have hsampled : sampled := by
        by_contra hnot
        rw [h.unsampled hnot] at hguard
        omega
      refine ⟨h.last hsampled, ?_⟩
      dsimp only
      omega
    case isFalse => cases hstep
  case h_6 passes hcontrol =>
    split at hstep
    case isTrue => cases hstep
    case isFalse hne =>
      cases hstep
      obtain ⟨hlast, hleft⟩ := h.search passes hcontrol
      obtain ⟨hfront, hfront'⟩ := h.front
      refine h.moves (by simp) rfl (inRing_nextIndex (by omega)) h.iter fun passes' hs => ?_
      cases hs
      refine ⟨hlast, ?_⟩
      -- one slot less is left
      have hmoved := nextIndex_eq (by omega : -1 ≤ s.imuPtrFront)
      obtain ⟨hlast, hlast'⟩ := hlast
      dsimp only
      rw [hmoved]
      push_cast
      omega
  case h_7 =>
    split at hstep
    · cases hstep
    · cases hstep
      exact h.moves (by simp) rfl h.front h.iter (fun _ hs => by cases hs)
  case h_8 =>
    split at hstep
    · cases hstep
      exact h.moves (by simp) rfl h.front h.iter (fun _ hs => by cases hs)
    · cases hstep
  case h_9 =>
    cases hstep
    exact h.moves (by simp) rfl h.front h.iter (fun _ hs => by cases hs)
  case h_10 =>
    cases hstep
    exact h.moves (by simp) rfl h.front h.front (fun _ hs => by cases hs)
  case h_11 => cases hstep

/-- **Run lemma.** -/
theorem inRange_of_run {labels : List PointerStep} (h : imuPointerMachine.Run initial labels s) :
    s.InRange (.getImu ∈ labels) := by
  induction h with
  | nil => simpa using inRange_initial
  | @snoc t u labels l _ hstep ih =>
    have hnext := ih.step hstep
    simpa [eq_comm] using hnext

/-- A pass of the inner loop. -/
theorem control_advance (h : s.step .advance = some t) :
    ∃ passes, s.control = .searching passes ∧ t.control = .searching (passes + 1) := by
  unfold PointerState.step at h
  cases hcontrol : s.control with
  | searching passes =>
    rw [hcontrol] at h
    dsimp only at h
    split at h
    · cases h
    · cases h
      exact ⟨passes, rfl, rfl⟩
  | idle => simp [hcontrol] at h
  | scanning => simp [hcontrol] at h
  | found => simp [hcontrol] at h

/-- Passes in a row are counted. -/
theorem control_advances {n passes : Nat}
    (h : imuPointerMachine.Run s (List.replicate n .advance) t)
    (hcontrol : s.control = .searching passes) : t.control = .searching (passes + n) := by
  induction n generalizing s passes with
  | zero =>
    cases Machine.Run.unique h (.nil s)
    exact hcontrol
  | succ n ih =>
    obtain ⟨u, hstep, hrest⟩ := Machine.run_cons_iff.mp h
    obtain ⟨passes', hs, hu⟩ := control_advance hstep
    rw [hcontrol] at hs
    cases hs
    rw [ih hrest hu, Nat.add_assoc, Nat.add_comm 1 n]

/-- A search makes at most 199 passes, and behind the last one its condition is false. -/
theorem InRange.passes (h : s.InRange sampled) {passes : Nat}
    (hcontrol : s.control = .searching passes) :
    passes ≤ 199 ∧ (passes = 199 → s.imuPtrFront = s.imuPtrLast) := by
  obtain ⟨hlast, hleft⟩ := h.search passes hcontrol
  obtain ⟨hlast, hlast'⟩ := hlast
  obtain ⟨hfront, hfront'⟩ := h.front
  exact ⟨by omega, by omega⟩

end PointerState

/-- **The pointers stay in the ring and the search ends.**

In every run of the calls, whatever the samples, the clouds and the times: the pointers of
the search are in the ring, the pointer to the last sample is -1 before the first one and in
the ring from then on, and the arrays are used only in the ring.  The inner loop makes at
most 199 passes: no more can be made in a row, and behind that many its condition is
false. -/
theorem imu_pointers_in_range {labels : List PointerStep} {s : PointerState}
    (h : imuPointerMachine.Run .initial labels s) :
    (InRing s.imuPtrFront ∧ InRing s.imuPtrLastIter) ∧
    ((.getImu ∈ labels → InRing s.imuPtrLast) ∧ (.getImu ∉ labels → s.imuPtrLast = -1)) ∧
    (∀ l, ∀ i ∈ s.indices l, InRing i) ∧
    (∀ passes, s.control = .searching passes →
      passes ≤ 199 ∧ (passes = 199 → s.imuPtrFront = s.imuPtrLast)) ∧
    ∀ n t, imuPointerMachine.Run s (List.replicate n .advance) t → n ≤ 199 := by
  have hrange := PointerState.inRange_of_run h
  refine ⟨⟨hrange.front, hrange.iter⟩, ⟨hrange.last, hrange.unsampled⟩, hrange.indices,
    fun _ => hrange.passes, fun n t hrun => ?_⟩
  cases n with
  | zero => exact Nat.zero_le _
  | succ n =>
    obtain ⟨u, hstep, -⟩ := Machine.run_cons_iff.mp hrun
    obtain ⟨passes, hcontrol, -⟩ := PointerState.control_advance hstep
    have hpasses := PointerState.control_advances hrun hcontrol
    have hbound := ((PointerState.inRange_of_run (h.append hrun)).passes hpasses).1
    omega

/-- Two samples, and a search in front of the second one. -/
theorem run_two_samples :
    imuPointerMachine.Run .initial [.getImu, .getImu, .beginScan, .beginSearch]
      ⟨0, 1, 0, .searching 0⟩ :=
  Machine.run_ofStep rfl

theorem imu_pointers_in_range_two :
    (InRing 0 ∧ InRing 0) ∧
    ((.getImu ∈ [PointerStep.getImu, .getImu, .beginScan, .beginSearch] → InRing 1) ∧
      (.getImu ∉ [PointerStep.getImu, .getImu, .beginScan, .beginSearch] → (1 : Int) = -1)) ∧
    (∀ l, ∀ i ∈ PointerState.indices ⟨0, 1, 0, .searching 0⟩ l, InRing i) ∧
    (∀ passes, PointerControl.searching 0 = .searching passes →
      passes ≤ 199 ∧ (passes = 199 → (0 : Int) = 1)) ∧
    ∀ n t, imuPointerMachine.Run ⟨0, 1, 0, .searching 0⟩ (List.replicate n .advance) t →
      n ≤ 199 :=
  imu_pointers_in_range run_two_samples

/-! ## The calls of the ring -/

/-- Steps without a sample. -/
def Moves (s t : PointerState) : Prop :=
  ∃ labels, imuPointerMachine.Run s labels t ∧ .getImu ∉ labels

theorem Moves.single {s t : PointerState} {l : PointerStep} (h : s.step l = some t)
    (hne : l ≠ .getImu) : Moves s t :=
  ⟨[l], .snoc (.nil s) h, fun hmem => hne (List.mem_singleton.mp hmem).symm⟩

theorem Moves.trans {s t u : PointerState} (h : Moves s t) (h' : Moves t u) : Moves s u := by
  obtain ⟨labels, hrun, hnot⟩ := h
  obtain ⟨labels', hrun', hnot'⟩ := h'
  exact ⟨labels ++ labels', hrun.append hrun',
    fun hmem => (List.mem_append.mp hmem).elim hnot hnot'⟩

namespace LidarUndistortion

/-- `imu_ptr_last_`. -/
def lastIndex : Option ImuPtr → Int
  | none => -1
  | some last => last.val

theorem lastIndex_some (last : ImuPtr) : lastIndex (some last) = last.val :=
  rfl

variable {K Q : Type}

/-- The pointers of the ring as integers. -/
def pointers (s : LidarUndistortion K) (control : PointerControl) : PointerState where
  imuPtrFront := s.imuPtrFront.val
  imuPtrLast := lastIndex s.imuPtrLast
  imuPtrLastIter := s.imuPtrLastIter.val
  control := control

theorem nextIndex_val (i : ImuPtr) : nextIndex i.val = (i + 1).val := by
  rw [nextIndex_eq (by omega), val_add_one]
  omega

theorem nextIndex_lastIndex (s : LidarUndistortion K) :
    nextIndex (lastIndex s.imuPtrLast) = s.nextPtr.val := by
  unfold nextPtr
  cases s.imuPtrLast with
  | none => rfl
  | some last => exact nextIndex_val last

theorem val_eq_iff {i j : ImuPtr} : (i.val : Int) = j.val ↔ i = j := by
  rw [Int.natCast_inj, Fin.val_inj]

/-- The guard of `adjustDistortion`. -/
theorem lastIndex_pos_iff {s : LidarUndistortion K} :
    0 < lastIndex s.imuPtrLast ↔ s.CorrectionRuns := by
  unfold CorrectionRuns guardLast
  cases s.imuPtrLast with
  | none => simp [lastIndex]
  | some last =>
    simp [lastIndex, Option.isSome_filter]

/-- The inner loop. -/
theorem search_moves (stop : ImuPtr → Bool) (last i : ImuPtr) (iter : Int) (passes : Nat) :
    Moves ⟨i.val, last.val, iter, .searching passes⟩
      ⟨(search stop last i).val, last.val, iter, .found⟩ := by
  induction i using ring_induction generalizing passes with
  | here =>
    rw [search_self]
    exact .single (l := .reachLast) (if_pos rfl) (by simp)
  | next i hne ih =>
    have hval : (i.val : Int) ≠ last.val := val_eq_iff.not.mpr hne
    rw [search_eq, if_neg hne]
    split
    case isTrue => exact .single (l := .stop) (if_neg hval) (by simp)
    case isFalse =>
      have hadvance : PointerState.step ⟨i.val, last.val, iter, .searching passes⟩ .advance =
          some ⟨(i + 1).val, last.val, iter, .searching (passes + 1)⟩ := by
        rw [← nextIndex_val]
        exact if_neg hval
      exact (Moves.single hadvance (by simp)).trans (ih (passes + 1))

variable [Field K] [LinearOrder K]

/-- A sample is one step. -/
theorem step_getImu (lib : AngleLib K Q) (s : LidarUndistortion K) (sample : ImuSample K Q) :
    (s.pointers .idle).step .getImu = some ((s.getImu lib sample).pointers .idle) := by
  obtain ⟨hlast, hfront, hiter⟩ := getImu_pointers lib s sample
  simp only [pointers, PointerState.step, nextIndex_lastIndex, nextIndex_val, val_eq_iff, hlast,
    hfront, hiter, lastIndex_some]
  split
  · rfl
  · rfl

/-- A pass of the loop over the points. -/
theorem adjustPoint_moves (lib : AngleLib K Q) (memory : ScanReference K) (scanTime : K)
    (isFirst : Bool) (s : ScanState K) (p : PointXYZI K) (relTime : K) :
    Moves (s.imu.pointers .scanning)
      ((adjustPoint lib memory scanTime isFirst s p relTime).1.imu.pointers .scanning) := by
  unfold adjustPoint
  cases hguard : s.imu.guardLast with
  | none =>
    have hnot : ¬ 0 < lastIndex s.imu.imuPtrLast := by
      rw [lastIndex_pos_iff, CorrectionRuns, hguard]
      exact Bool.false_ne_true
    exact .single (l := .passPoint) (if_neg hnot) (by simp)
  | some last =>
    obtain ⟨hlast, -⟩ := guardLast_eq_some_iff.mp hguard
    have hpos : 0 < lastIndex s.imu.imuPtrLast := by
      rw [lastIndex_pos_iff, CorrectionRuns, hguard]
      rfl
    have hval : lastIndex s.imu.imuPtrLast = last.val := by rw [hlast, lastIndex_some]
    have hbegin : Moves (s.imu.pointers .scanning)
        ⟨s.imu.imuPtrLastIter.val, lastIndex s.imu.imuPtrLast, s.imu.imuPtrLastIter.val,
          .searching 0⟩ :=
      .single (l := .beginSearch) (if_pos hpos) (by simp)
    have hsearch := search_moves (s.imu.stopsAt (scanTime + relTime)) last
      s.imu.imuPtrLastIter s.imu.imuPtrLastIter.val 0
    rw [← hval] at hsearch
    have hfound := hbegin.trans hsearch
    dsimp only
    split
    case isTrue => exact hfound.trans (.single (l := .skip) rfl (by simp))
    case isFalse =>
      -- whether the point is beyond the sample does not matter to the pointers
      have hcorrect := hfound.trans (.single (l := .correct true) rfl (by simp))
      split
      case isTrue => exact hcorrect
      case isFalse => exact hcorrect

theorem adjustPoints_moves (lib : AngleLib K Q) (memory : ScanReference K) (scanTime : K)
    (isFirst : Bool) (s : ScanState K) (points : List (PointXYZI K × K)) :
    Moves (s.imu.pointers .scanning)
      ((adjustPoints lib memory scanTime isFirst s points).1.pointers .scanning) := by
  induction points generalizing isFirst s with
  | nil => exact ⟨[], .nil _, List.not_mem_nil⟩
  | cons point points ih =>
    exact (adjustPoint_moves lib memory scanTime isFirst s point.1 point.2).trans (ih false _)

/-- **Step lemma.**  A call is a run, with a sample for each of its own. -/
theorem run_of_step (lib : AngleLib K Q) (s : LidarUndistortion K) (call : ImuCall K Q) :
    ∃ labels, imuPointerMachine.Run (s.pointers .idle) labels ((s.step lib call).pointers .idle) ∧
      labels.count .getImu = (imuTimes [call]).length := by
  cases call with
  | getImu sample => exact ⟨[.getImu], .snoc (.nil _) (s.step_getImu lib sample), rfl⟩
  | scan points scanTime memory =>
    have hbegin : Moves (s.pointers .idle) (s.pointers .scanning) :=
      .single (l := .beginScan) rfl (by simp)
    have hpoints := adjustPoints_moves lib memory scanTime true ⟨s, none⟩ points
    obtain ⟨labels, hrun, hnot⟩ :=
      (hbegin.trans hpoints).trans (.single (l := .endScan) rfl (by simp))
    exact ⟨labels, hrun, List.count_eq_zero.mpr hnot⟩

end LidarUndistortion

/-- **Run rule.**  The calls of the ring are runs of the machine: with integers for its
pointers, its object is where some run ends, and the run has a step for each sample. -/
theorem run_of_calls {K Q : Type} [Field K] [LinearOrder K] (lib : AngleLib K Q)
    (scanPeriod : K) (memory : LidarUndistortion K) (calls : List (ImuCall K Q)) :
    ∃ labels, imuPointerMachine.Run .initial labels
      (((LidarUndistortion.fresh scanPeriod memory).after lib calls).pointers .idle) ∧
      labels.count .getImu = (imuTimes calls).length := by
  induction calls using List.reverseRecOn with
  | nil => exact ⟨[], .nil _, rfl⟩
  | append_singleton calls call ih =>
    obtain ⟨labels, hrun, hcount⟩ := ih
    obtain ⟨labels', hrun', hcount'⟩ := LidarUndistortion.run_of_step lib
      ((LidarUndistortion.fresh scanPeriod memory).after lib calls) call
    refine ⟨labels ++ labels', ?_, ?_⟩
    · rw [LidarUndistortion.after, List.foldl_append]
      exact hrun.append hrun'
    · rw [List.count_append, hcount, hcount', imuTimes_append, List.length_append]

end RoboRacer.Slam
