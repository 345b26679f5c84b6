/-
  Slam/PointTimes.lean --- the times of the points of a scan
  (`lidar_undistortion.hpp`, `adjustDistortion`).

  A point gets its time from its bearing, as a fraction of the angle from the first point
  to the last one.  Bearings are unwrapped by three rules, and each is one turn towards a
  window of one turn (`unwrap`).  The rule for the last point puts the angle between π and
  3π if the bearing is in reach of that window:

      oriDiff                   the angle
      oriH_near                 how far from the first point the others are
      point_times_bounded_iff   when angle and times are of the right order

  The bearing is not brought up by a turn before the rule is applied, so that it is out of
  reach when it is more than π below the first one.
-/
import RoboRacer.Foundation.Unwrap
import RoboRacer.Slam.Undistortion

set_option autoImplicit false

namespace RoboRacer.Slam

open RoboRacer.Foundation

variable {K Q : Type} [Field K]

theorem startOri_eq (lib : AngleLib K Q) {cloud : List (PointXYZI K)} (h : cloud ≠ []) :
    startOri lib cloud = bearing lib (cloud.head h) := by
  rw [startOri, List.head?_eq_some_head h]
  rfl

variable [LinearOrder K]

/-- `ori_diff`. -/
def oriDiff (lib : AngleLib K Q) (cloud : List (PointXYZI K)) : K :=
  endOri lib cloud - startOri lib cloud

/-! ## The rules -/

/-- The rule for the points of the first half. -/
theorem oriH_firstHalf (lib : AngleLib K Q) (startOri endOri : K) (p : PointXYZI K) :
    (oriH lib startOri endOri false p).1 =
      unwrap (2 * lib.pi) (startOri - lib.pi * (1 / 2)) (startOri + lib.pi * (3 / 2))
        (bearing lib p) :=
  rfl

/-- The rule for the points of the second half. -/
theorem oriH_secondHalf (lib : AngleLib K Q) (startOri endOri : K) (p : PointXYZI K) :
    (oriH lib startOri endOri true p).1 =
      unwrap (2 * lib.pi) (endOri - 3 / 2 * lib.pi) (endOri + 1 / 2 * lib.pi)
        (bearing lib p + 2 * lib.pi) :=
  rfl

variable [IsStrictOrderedRing K] {lib : AngleLib K Q}

/-- The rule for the last point. -/
theorem endOri_eq_unwrap (hpi : 0 < lib.pi) {cloud : List (PointXYZI K)} (h : cloud ≠ []) :
    endOri lib cloud = unwrap (2 * lib.pi) (startOri lib cloud + lib.pi)
      (startOri lib cloud + 3 * lib.pi) (bearing lib (cloud.getLast h)) := by
  rw [endOri, List.getLast?_eq_some_getLast h]
  dsimp only [Option.map_some, Option.getD_some]
  unfold unwrap
  -- the source asks first for the other side of the window
  rcases lt_or_ge (bearing lib (cloud.getLast h)) (startOri lib cloud + lib.pi) with hbelow | hlo
  · rw [if_neg (by linarith), if_pos (by linarith), if_pos hbelow]
  · rw [if_neg (not_lt.mpr hlo), if_neg (by linarith : ¬ _ - _ < lib.pi)]
    exact if_congr lt_sub_iff_add_lt' rfl rfl

/-- The bearing of the last point is never lowered: no two bearings are that far apart. -/
theorem endOri_not_lowered (hpi : 0 < lib.pi) {cloud : List (PointXYZI K)} (h : cloud ≠ [])
    (hbearing : ∀ p ∈ cloud, |bearing lib p| ≤ lib.pi) :
    bearing lib (cloud.getLast h) ≤ endOri lib cloud := by
  have hfirst := abs_le.mp (hbearing _ (List.head_mem h))
  have hlast := abs_le.mp (hbearing _ (List.getLast_mem h))
  rw [endOri_eq_unwrap hpi h, startOri_eq lib h, unwrap]
  split
  case isTrue => linarith
  case isFalse =>
    rw [if_neg (by linarith)]

/-! ## The angle -/

/-- The angle from the first point to the last one is in its window if and only if the last
bearing is not more than π below the first one. -/
theorem oriDiff_mem_iff (hpi : 0 < lib.pi) {cloud : List (PointXYZI K)} (h : cloud ≠ [])
    (hbearing : ∀ p ∈ cloud, |bearing lib p| ≤ lib.pi) :
    (lib.pi ≤ oriDiff lib cloud ∧ oriDiff lib cloud ≤ 3 * lib.pi) ↔
      -lib.pi ≤ bearing lib (cloud.getLast h) - bearing lib (cloud.head h) := by
  have hfirst := abs_le.mp (hbearing _ (List.head_mem h))
  have hlast := abs_le.mp (hbearing _ (List.getLast_mem h))
  have hturn : 0 ≤ 2 * lib.pi := by linarith
  have hwidth : startOri lib cloud + lib.pi + 2 * lib.pi = startOri lib cloud + 3 * lib.pi := by
    ring
  have hlower := le_unwrap_iff (x := bearing lib (cloud.getLast h)) hturn hwidth
  have hupper := unwrap_le_iff (x := bearing lib (cloud.getLast h)) hturn hwidth
  rw [← endOri_eq_unwrap hpi h, startOri_eq lib h] at hlower hupper
  rw [oriDiff, startOri_eq lib h]
  constructor
  · rintro ⟨hge, -⟩
    have := hlower.mp (by linarith)
    linarith
  · intro hreach
    have hge := hlower.mpr (by linarith)
    have hle := hupper.mpr (by linarith)
    exact ⟨by linarith, by linarith⟩

/-! ## The points -/

/-- The bearing of a point is at most two spans away from the first one. -/
theorem oriH_near {startOri endOri : K} (hstart : |startOri| ≤ lib.pi)
    (hdiff : lib.pi ≤ endOri - startOri) (hdiff' : endOri - startOri ≤ 3 * lib.pi)
    (halfPassed : Bool) {p : PointXYZI K} (hp : |bearing lib p| ≤ lib.pi) :
    |(oriH lib startOri endOri halfPassed p).1 - startOri| ≤ 2 * (endOri - startOri) := by
  obtain ⟨hstart, hstart'⟩ := abs_le.mp hstart
  obtain ⟨hp, hp'⟩ := abs_le.mp hp
  have hturn : 0 ≤ 2 * lib.pi := by linarith
  rw [abs_le]
  cases halfPassed with
  | false =>
    have hwidth : startOri - lib.pi * (1 / 2) + 2 * lib.pi = startOri + lib.pi * (3 / 2) := by
      ring
    have hlower := (le_unwrap_iff hturn hwidth).mpr (by linarith : _ ≤ bearing lib p)
    have hupper := (unwrap_le_iff hturn hwidth).mpr (by linarith : bearing lib p ≤ _)
    rw [oriH_firstHalf]
    exact ⟨by linarith, by linarith⟩
  | true =>
    have hwidth : endOri - 3 / 2 * lib.pi + 2 * lib.pi = endOri + 1 / 2 * lib.pi := by
      ring
    have hlower := (le_unwrap_iff hturn hwidth).mpr
      (by linarith : _ ≤ bearing lib p + 2 * lib.pi)
    rw [oriH_secondHalf]
    refine ⟨by linarith, ?_⟩
    -- a bearing above the window is less than a turn above it
    rcases le_max_iff.mp (unwrap_le (x := bearing lib p + 2 * lib.pi) hturn hwidth) with
      hupper | hupper
    · linarith
    · linarith

/-- A time is of the order of the scan period when the bearing is of the order of the span. -/
theorem abs_relTime_le {x span scanPeriod : K} (hspan : 0 < span) (hperiod : 0 ≤ scanPeriod)
    (hx : |x| ≤ 2 * span) : |x / span * scanPeriod| ≤ 2 * scanPeriod := by
  rw [abs_mul, abs_div, abs_of_pos hspan, abs_of_nonneg hperiod]
  exact mul_le_mul_of_nonneg_right ((div_le_iff₀ hspan).mpr hx) hperiod

/-- The loop, from any point on and whether or not the half has been passed. -/
theorem relTimesFrom_bounded {startOri endOri scanPeriod : K} (hpi : 0 < lib.pi)
    (hstart : |startOri| ≤ lib.pi) (hdiff : lib.pi ≤ endOri - startOri)
    (hdiff' : endOri - startOri ≤ 3 * lib.pi) (hperiod : 0 ≤ scanPeriod) (halfPassed : Bool)
    {points : List (PointXYZI K)} (hpoints : ∀ p ∈ points, |bearing lib p| ≤ lib.pi) :
    ∀ t ∈ relTimesFrom lib scanPeriod startOri endOri halfPassed points,
      |t| ≤ 2 * scanPeriod := by
  induction points generalizing halfPassed with
  | nil => exact fun t ht => absurd ht List.not_mem_nil
  | cons p points ih =>
    obtain ⟨hp, hpoints⟩ := List.forall_mem_cons.mp hpoints
    refine List.forall_mem_cons.mpr ⟨?_, ih _ hpoints⟩
    exact abs_relTime_le (by linarith) hperiod (oriH_near hstart hdiff hdiff' halfPassed hp)

/-- **When the times of the points are of the order of the scan.**

For every cloud with points, whatever their bearings are between -π and π, the angle from
the first point to the last one is between π and 3π and every time is at most two scan
periods if and only if the last bearing is not more than π below the first one, and the scan
period is not negative. -/
theorem point_times_bounded_iff (lib : AngleLib K Q) (hpi : 0 < lib.pi) (scanPeriod : K)
    (cloud : List (PointXYZI K)) (hcloud : cloud ≠ [])
    (hbearing : ∀ p ∈ cloud, |bearing lib p| ≤ lib.pi) :
    ((lib.pi ≤ oriDiff lib cloud ∧ oriDiff lib cloud ≤ 3 * lib.pi) ∧
      ∀ t ∈ relTimes lib scanPeriod cloud, |t| ≤ 2 * scanPeriod) ↔
    -lib.pi ≤ bearing lib (cloud.getLast hcloud) - bearing lib (cloud.head hcloud) ∧
      0 ≤ scanPeriod := by
  rw [oriDiff_mem_iff hpi hcloud hbearing]
  refine and_congr_right fun hreach => ⟨fun htimes => ?_, fun hperiod => ?_⟩
  · obtain ⟨first, points, rfl⟩ := List.exists_cons_of_ne_nil hcloud
    have hfirst := (abs_nonneg _).trans (htimes _ List.mem_cons_self)
    linarith
  · obtain ⟨hdiff, hdiff'⟩ := (oriDiff_mem_iff hpi hcloud hbearing).mpr hreach
    have hstart : |startOri lib cloud| ≤ lib.pi := by
      rw [startOri_eq lib hcloud]
      exact hbearing _ (List.head_mem hcloud)
    exact relTimesFrom_bounded hpi hstart hdiff hdiff' hperiod false hbearing

/-! ### Points on the axes -/

/-- From the front over the right to the back: half a turn. -/
def halfTurnCloud : List (PointXYZI ℚ) :=
  [planePoint 1 0, planePoint 0 (-1), planePoint (-1) 0]

/-- From the right to the back, a quarter of a turn. -/
def quarterTurnCloud : List (PointXYZI ℚ) :=
  [planePoint 0 (-1), planePoint (-1) 0]

theorem point_times_bounded_halfTurn :
    ((axesLib.pi ≤ oriDiff axesLib halfTurnCloud ∧
        oriDiff axesLib halfTurnCloud ≤ 3 * axesLib.pi) ∧
      ∀ t ∈ relTimes axesLib (1 / 10) halfTurnCloud, |t| ≤ 2 * (1 / 10)) ↔
    -axesLib.pi ≤ bearing axesLib (planePoint (-1) 0) - bearing axesLib (planePoint 1 0) ∧
      (0 : ℚ) ≤ 1 / 10 :=
  point_times_bounded_iff axesLib (by decide +kernel) (1 / 10) halfTurnCloud
    (List.cons_ne_nil _ _) (by decide +kernel)

/-- From the right to the back the angle is a quarter of a turn. -/
theorem quarter_turn_below_window :
    ¬ ∀ cloud : List (PointXYZI ℚ), cloud ≠ [] →
      (∀ p ∈ cloud, |bearing axesLib p| ≤ axesLib.pi) →
      (axesLib.pi ≤ oriDiff axesLib cloud ∧ oriDiff axesLib cloud ≤ 3 * axesLib.pi) ∧
        ∀ t ∈ relTimes axesLib (1 / 10) cloud, |t| ≤ 2 * (1 / 10) := by
  intro h
  have hspan := (h quarterTurnCloud (List.cons_ne_nil _ _) (by decide +kernel)).1.1
  exact absurd hspan (by decide +kernel)

end RoboRacer.Slam
