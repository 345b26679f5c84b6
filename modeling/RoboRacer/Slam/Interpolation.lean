/-
  Slam/Interpolation.lean --- interpolation between two samples
  (`lidar_undistortion.hpp`, `adjustDistortion`).

  A point that is not behind the sample that the search has found is corrected with the
  weighted sum of that sample and the one before.  The search begins where the one for the
  point before has ended, and never goes back:

      visits                        the points of a run
      StartsBehind                  the search begins behind the samples around a point
      interpolation_brackets_iff    when every weight lies between 0 and 1
-/
import Mathlib.Algebra.Order.Field.Rat
import RoboRacer.Slam.Undistortion

set_option autoImplicit false

namespace RoboRacer.Slam

open RoboRacer.Foundation

namespace LidarUndistortion

variable {K Q : Type} [Field K] [LinearOrder K]

/-! ## The points of a run -/

/-- The passes of a run. -/
def visits (lib : AngleLib K Q) :
    LidarUndistortion K → List (ImuCall K Q) → List (Visit K)
  | _, [] => []
  | s, call :: calls => s.callVisits lib call ++ visits lib (s.step lib call) calls

/-! ## The samples around a point -/

/-- The time lies between the sample at `front` and the one before. -/
structure Bracketed (s : LidarUndistortion K) (front : ImuPtr) (time : K) : Prop where
  lower : s.imuTime (front - 1) ≤ time
  upper : time ≤ s.imuTime front
  nonneg : 0 ≤ s.ratioFront front time
  le_one : s.ratioFront front time ≤ 1

/-- When a point is interpolated and the slot before the one that was found holds a sample,
the point lies between the two. -/
def Interpolated (s : LidarUndistortion K) (time : K) : Prop :=
  ∀ last, s.guardLast = some last → s.skips (s.searchFront last time) time = false →
    ¬ s.imuTime (s.searchFront last time) < time →
    s.sampled (s.searchFront last time - 1) = true → s.Bracketed (s.searchFront last time) time

/-- The search for a point begins at a sample that is near enough for the point, and stays
there, though the point is earlier than the sample before. -/
structure StartsBehind (s : LidarUndistortion K) (time : K) : Prop where
  sampled : s.sampled (s.imuPtrLastIter - 1) = true
  earlier : time < s.imuTime (s.imuPtrLastIter - 1)
  stays : ∃ last, s.guardLast = some last ∧
    (s.imuPtrLastIter = last ∨ time < s.imuTime s.imuPtrLastIter)
  upper : time ≤ s.imuTime s.imuPtrLastIter
  near : s.skips s.imuPtrLastIter time = false

variable {times : List K} {s : LidarUndistortion K}

omit [Field K] [LinearOrder K] in
/-- Every slot that was written holds one of the last 200 samples. -/
theorem Ring.exists_stored (h : Ring times s) {i : ImuPtr} (hi : s.sampled i = true) :
    ∃ m time, times[m]? = some time ∧ Fin.ofNat imuQueLength m = i ∧ s.imuTime i = time := by
  have hlt := (h.sampled i).mp hi
  have hi200 : i.val < 200 := i.isLt
  -- the last index that is `i` modulo 200
  let m := i.val + 200 * ((times.length - 1 - i.val) / 200)
  have hm : m < times.length := by omega
  have hslot : Fin.ofNat imuQueLength m = i := by
    refine Fin.ext ?_
    rw [val_ofNat]
    omega
  have htime := List.getElem?_eq_getElem hm
  refine ⟨m, _, htime, hslot, ?_⟩
  rw [← hslot]
  refine h.stored m _ htime ?_
  change times.length ≤ m + 200
  omega

omit [Field K] in
/-- When the samples come in order, different slots hold different times. -/
theorem Ring.imuTime_ne (h : Ring times s) (htimes : times.Pairwise (· < ·)) {i j : ImuPtr}
    (hi : s.sampled i = true) (hj : s.sampled j = true) (hne : i ≠ j) :
    s.imuTime i ≠ s.imuTime j := by
  obtain ⟨m, time, hm, rfl, hti⟩ := h.exists_stored hi
  obtain ⟨m', time', hm', rfl, htj⟩ := h.exists_stored hj
  obtain ⟨hlt, rfl⟩ := List.getElem?_eq_some_iff.mp hm
  obtain ⟨hlt', rfl⟩ := List.getElem?_eq_some_iff.mp hm'
  rw [hti, htj]
  rw [List.pairwise_iff_getElem] at htimes
  rcases Nat.lt_trichotomy m m' with hmm | rfl | hmm
  · exact (htimes m m' hlt hlt' hmm).ne
  · exact absurd rfl hne
  · exact (htimes m' m hlt' hlt hmm).ne'

omit [Field K] in
/-- The search has passed the slot before the one that it finds, or has not moved. -/
theorem searchFront_passed (s : LidarUndistortion K) (last : ImuPtr) (time : K) :
    s.searchFront last time = s.imuPtrLastIter ∨
      s.imuTime (s.searchFront last time - 1) ≤ time := by
  refine (search_passed (s.stopsAt time) last s.imuPtrLastIter).imp_right fun hpass => ?_
  exact not_lt.mp (of_decide_eq_false hpass)

omit [Field K] in
/-- A search that stays where it begins. -/
theorem searchFront_eq_iter {last : ImuPtr} {time : K}
    (h : s.imuPtrLastIter = last ∨ time < s.imuTime s.imuPtrLastIter) :
    s.searchFront last time = s.imuPtrLastIter :=
  search_eq_start (h.imp_right decide_eq_true)

omit [Field K] in
theorem stays_of_searchFront_eq {last : ImuPtr} {time : K}
    (h : s.searchFront last time = s.imuPtrLastIter) :
    s.imuPtrLastIter = last ∨ time < s.imuTime s.imuPtrLastIter := by
  have hend := search_end (s.stopsAt time) last s.imuPtrLastIter
  rw [← searchFront, h] at hend
  exact hend.imp_right of_decide_eq_true

variable [IsStrictOrderedRing K]

/-- A point between two samples at different times has its weight between 0 and 1. -/
theorem bracketed_of_le {front : ImuPtr} {time : K} (hlower : s.imuTime (front - 1) ≤ time)
    (hupper : time ≤ s.imuTime front) (hne : s.imuTime (front - 1) ≠ s.imuTime front) :
    s.Bracketed front time := by
  have hpos : 0 < s.imuTime front - s.imuTime (front - 1) :=
    sub_pos.mpr (lt_of_le_of_ne (hlower.trans hupper) hne)
  refine ⟨hlower, hupper, ?_, ?_⟩
  · exact div_nonneg (sub_nonneg.mpr hlower) hpos.le
  · exact (div_le_one hpos).mpr (sub_le_sub_right hupper _)

/-- **One point.**  It is interpolated between the samples around it unless the search for
it begins behind them. -/
theorem Ring.interpolated_iff (h : Ring times s) (htimes : times.Pairwise (· < ·)) (time : K) :
    s.Interpolated time ↔ ¬ s.StartsBehind time := by
  constructor
  · intro hinterpolated hbehind
    obtain ⟨last, hlast, hstays⟩ := hbehind.stays
    have hfront := searchFront_eq_iter hstays
    have hbracketed := hinterpolated last hlast (by rw [hfront]; exact hbehind.near)
      (by rw [hfront]; exact not_lt.mpr hbehind.upper) (by rw [hfront]; exact hbehind.sampled)
    rw [hfront] at hbracketed
    exact absurd hbehind.earlier (not_lt.mpr hbracketed.lower)
  · intro hbehind last hlast hnear hupper hback
    have hne : s.searchFront last time - 1 ≠ s.searchFront last time := by
      intro heq
      exact absurd (sub_eq_self.mp heq) (by decide)
    have htime := h.imuTime_ne htimes hback (h.sampled_searchFront hlast time) hne
    refine bracketed_of_le ?_ (not_lt.mp hupper) htime
    rcases searchFront_passed s last time with hstayed | hpassed
    · by_contra hearlier
      rw [hstayed] at hearlier hnear hupper hback
      exact hbehind ⟨hback, not_le.mp hearlier, ⟨last, hlast, stays_of_searchFront_eq hstayed⟩,
        not_lt.mp hupper, hnear⟩
    · exact hpassed

/-! ## Runs -/

omit [IsStrictOrderedRing K] in
/-- Before every point of a run the ring is what the samples so far say. -/
theorem Ring.visits (h : Ring times s) (lib : AngleLib K Q) (calls : List (ImuCall K Q)) :
    ∀ visit ∈ visits lib s calls, ∃ earlier, earlier <+: times ++ imuTimes calls ∧
      Ring earlier visit.state.imu := by
  induction calls generalizing s times with
  | nil => exact fun _ hvisit => absurd hvisit List.not_mem_nil
  | cons call calls ih =>
    intro visit hvisit
    rcases List.mem_append.mp hvisit with hcall | hrest
    · exact ⟨times, List.prefix_append .., h.callVisits lib call visit hcall⟩
    · obtain ⟨earlier, hpre, hring⟩ := ih (h.step lib call) visit hrest
      refine ⟨earlier, ?_, hring⟩
      rwa [List.append_assoc, ← imuTimes_append] at hpre

end LidarUndistortion

/-- **When interpolation is not extrapolation.**

For samples in strict order, any scans between them and any times of their points, every
point that is interpolated lies between the two samples it is interpolated between, with a
weight from 0 to 1, if and only if there is no point for which the search begins behind
both: at a sample that is near enough, while the one before already is too late. -/
theorem interpolation_brackets_iff {K Q : Type} [Field K] [LinearOrder K] [IsStrictOrderedRing K]
    (lib : AngleLib K Q) (scanPeriod : K) (memory : LidarUndistortion K)
    (calls : List (ImuCall K Q)) (htimes : (imuTimes calls).Pairwise (· < ·)) :
    (∀ visit ∈ LidarUndistortion.visits lib (.fresh scanPeriod memory) calls,
      visit.state.imu.Interpolated visit.time) ↔
    ∀ visit ∈ LidarUndistortion.visits lib (.fresh scanPeriod memory) calls,
      ¬ visit.state.imu.StartsBehind visit.time := by
  refine forall₂_congr fun visit hvisit => ?_
  obtain ⟨earlier, hpre, hring⟩ :=
    (LidarUndistortion.Ring.fresh scanPeriod memory).visits lib calls visit hvisit
  exact hring.interpolated_iff (htimes.sublist hpre.sublist) visit.time

/-! ### Points out of order -/

/-- Five samples and a scan: ahead, to the right, and ahead again. -/
def returningScan : List (ImuCall ℚ Unit) :=
  [.getImu (restingSample 0), .getImu (restingSample (1 / 100)),
    .getImu (restingSample (2 / 100)), .getImu (restingSample (3 / 100)),
    .getImu (restingSample (4 / 100)),
    .adjustDistortion axesLib (1 / 10) [planePoint 1 0, planePoint 0 (-1), planePoint 1 0]
      (11 / 1000) ⟨0, 0, 1⟩]

theorem interpolation_brackets_returning :
    (∀ visit ∈ LidarUndistortion.visits axesLib (.fresh (1 / 10) zeroMemory) returningScan,
      visit.state.imu.Interpolated visit.time) ↔
    ∀ visit ∈ LidarUndistortion.visits axesLib (.fresh (1 / 10) zeroMemory) returningScan,
      ¬ visit.state.imu.StartsBehind visit.time :=
  interpolation_brackets_iff axesLib (1 / 10) zeroMemory returningScan (by decide +kernel)

/-- The second point takes the search to the last sample, at 0.04.  The third one is at
0.011 again, and is interpolated between 0.03 and 0.04. -/
theorem returning_point_extrapolated :
    ¬ ∀ calls : List (ImuCall ℚ Unit), (imuTimes calls).Pairwise (· < ·) →
      ∀ visit ∈ LidarUndistortion.visits axesLib (.fresh (1 / 10) zeroMemory) calls,
        visit.state.imu.Interpolated visit.time := by
  intro h
  have hpoint := h returningScan (by decide +kernel)
    ((LidarUndistortion.visits axesLib (.fresh (1 / 10) zeroMemory) returningScan).get
      ⟨2, by decide +kernel⟩) (List.get_mem _ _)
  have hbracketed := hpoint 4 (by decide +kernel) (by decide +kernel) (by decide +kernel)
    (by decide +kernel)
  exact absurd hbracketed.lower (by decide +kernel)

end RoboRacer.Slam
