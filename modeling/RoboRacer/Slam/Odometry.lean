/-
  Slam/Odometry.lean --- the initial guess of a registration
  (`scanmatcher_component.cpp`, `receiveCloud`, in both copies of the node).

  With `use_odom` a scan is registered from the current pose moved by what the odometry
  has added since the scan before.  Whether there was a reading before is told by the
  stored matrix not being the identity, and a lookup that throws leaves the
  default-constructed transform to be used as if it had been returned.

      OdomScan                    a scan as it is registered
      Linked                      the stored matrix along a run
      odometry_telescopes_iff     every lookup succeeds: are all increments applied?
      failed_lookup_harmless_iff  some throw: do these scans change nothing?

  The node is that of Slam/Localization.lean, with rigid transforms in a group, and what
  registration makes of a guess is arbitrary.
-/
import RoboRacer.Slam.Localization

set_option autoImplicit false

namespace RoboRacer.Slam

variable {S G P V Q : Type}

/-! ## Scans as they are registered -/

/-- What `receiveCloud` reads and writes for the guess. -/
structure OdomScan (G : Type) where
  /-- The matrix of the current pose. -/
  pose : G
  /-- What the lookup returned, unless it threw. -/
  reading : Option G
  /-- `previous_odom_mat_` before the scan. -/
  previous : G
  /-- The guess that is passed to `align`. -/
  simTrans : G
  /-- `previous_odom_mat_` after the scan. -/
  stored : G

namespace Localization

variable [Group G] [DecidableEq G]

/-- The guess of `receiveCloud` with `use_odom`. -/
def simTrans (config : LocalizationConfig S G P V Q) (s : Localization S G P V Q)
    (scan : InputCloud S G P) : G :=
  let simTrans := getTransformation config.tf s.correntPoseStamped.pose
  if s.previousOdomMat ≠ 1 then
    simTrans * s.previousOdomMat⁻¹ * scan.odomTransform.getD 1
  else simTrans

/-- The scan of an event that gets to `receiveCloud`. -/
def odomScan (config : LocalizationConfig S G P V Q) (s : Localization S G P V Q) :
    LocalizationEvent S G P V Q → Option (OdomScan G)
  | .initialPose _ => none
  | .inputCloud scan =>
    if s.initialPoseReceived && scan.robotTransform.isSome then
      some {
        pose := getTransformation config.tf s.correntPoseStamped.pose
        reading := scan.odomTransform
        previous := s.previousOdomMat
        simTrans := s.simTrans config scan
        stored := scan.odomTransform.getD 1 }
    else none

variable [SMul G P]

/-- The scans of a run. -/
def odomScans (config : LocalizationConfig S G P V Q) :
    Localization S G P V Q → List (LocalizationEvent S G P V Q) → List (OdomScan G)
  | _, [] => []
  | s, e :: events => (s.odomScan config e).toList ++ odomScans config (s.step config e) events

end Localization

/-- What the lookups return to the scans that get to `receiveCloud`: one has to find an
initial pose and the frame of the robot. -/
def odomReadings (globalFrameId : String) : Bool → List (LocalizationEvent S G P V Q) →
    List (Option G)
  | _, [] => []
  | received, .initialPose msg :: events =>
    odomReadings globalFrameId (received || msg.frameId = globalFrameId) events
  | received, .inputCloud scan :: events =>
    (if received && scan.robotTransform.isSome then [scan.odomTransform] else []) ++
      odomReadings globalFrameId received events

/-! ## What a run stores -/

/-- One scan, by its reading. -/
structure OdomScan.Ok [Group G] [DecidableEq G] (scan : OdomScan G) : Prop where
  simTrans : scan.simTrans =
    if scan.previous ≠ 1 then scan.pose * scan.previous⁻¹ * scan.stored else scan.pose
  stored : scan.stored = scan.reading.getD 1

/-- The scans of a run: the first finds `initial` stored, every other what the one before
has stored. -/
structure Linked [Group G] [DecidableEq G] (initial : G) (scans : List (OdomScan G)) : Prop where
  ok : ∀ scan ∈ scans, scan.Ok
  first : ∀ scan, scans[0]? = some scan → scan.previous = initial
  next : ∀ k earlier later, scans[k]? = some earlier → scans[k + 1]? = some later →
    later.previous = earlier.stored

namespace Linked

variable [Group G] [DecidableEq G] {initial : G} {scans : List (OdomScan G)}

theorem nil : Linked initial ([] : List (OdomScan G)) :=
  ⟨fun scan h => absurd h List.not_mem_nil, fun scan h => (by cases h),
    fun k earlier later h => (by cases h)⟩

theorem cons {scan : OdomScan G} (hok : scan.Ok) (h : Linked scan.stored scans) :
    Linked scan.previous (scan :: scans) := by
  refine ⟨List.forall_mem_cons.mpr ⟨hok, h.ok⟩, fun first hfirst => ?_,
    fun k earlier later hearlier hlater => ?_⟩
  · cases hfirst
    rfl
  · cases k with
    | zero =>
      cases hearlier
      exact h.first later hlater
    | succ k => exact h.next k earlier later hearlier hlater

end Linked

namespace Localization

section Steps

variable [Group G] [DecidableEq G] {config : LocalizationConfig S G P V Q}
  {s : Localization S G P V Q}

/-- The guess is what `align` is given, and the reading is what is stored. -/
theorem receiveCloud_eq (huse : config.useOdom = true) (scan : InputCloud S G P)
    (cloud : List P) :
    s.receiveCloud config scan cloud =
      { s with previousOdomMat := scan.odomTransform.getD 1 }.publishMapAndPose config
        (scan.align (config.voxelGrid cloud) (s.inputTarget.getD []) (s.simTrans config scan))
        scan.stamp := by
  unfold receiveCloud simTrans
  simp only [huse, Bool.true_and, decide_eq_true_eq, if_true]

variable [SMul G P]

/-- A scan that gets past the early returns is registered, in a state that differs from
the one it finds in the map block at most. -/
theorem cloudCallback_reaches (config : LocalizationConfig S G P V Q) {scan : InputCloud S G P}
    (hreceived : s.initialPoseReceived = true) (htransform : scan.robotTransform.isSome = true) :
    ∃ (t : Localization S G P V Q) (cloud : List P),
      s.cloudCallback config scan = t.receiveCloud config scan cloud ∧
      t.correntPoseStamped = s.correntPoseStamped ∧ t.previousOdomMat = s.previousOdomMat ∧
      t.initialPoseReceived = s.initialPoseReceived := by
  obtain ⟨transform, htransform⟩ := Option.isSome_iff_exists.mp htransform
  unfold cloudCallback
  simp only [hreceived, htransform]
  cases hcloud : s.initialCloudReceived with
  | false => exact ⟨s.loadMap config scan, _, rfl, rfl, rfl, hreceived⟩
  | true =>
    simp only [Bool.true_eq_false, if_false, hcloud, if_true]
    exact ⟨s, _, rfl, rfl, rfl, hreceived⟩

/-- A scan that gets to `receiveCloud` is aligned from its guess and stores its reading. -/
theorem step_of_odomScan (huse : config.useOdom = true) {e : LocalizationEvent S G P V Q}
    {scan : OdomScan G} (h : s.odomScan config e = some scan) :
    ∃ (msg : InputCloud S G P) (t : Localization S G P V Q) (cloud : List P),
      e = .inputCloud msg ∧ s.step config e =
        { t with previousOdomMat := scan.stored }.publishMapAndPose config
          (msg.align (config.voxelGrid cloud) (t.inputTarget.getD []) scan.simTrans) msg.stamp := by
  cases e with
  | initialPose msg => cases h
  | inputCloud msg =>
    obtain ⟨hreach, heq⟩ := Option.ite_none_right_eq_some.mp h
    rw [Bool.and_eq_true] at hreach
    obtain ⟨t, cloud, hstep, hpose, hprevious, -⟩ :=
      cloudCallback_reaches config hreach.1 hreach.2
    have hguess : t.simTrans config msg = s.simTrans config msg := by
      rw [simTrans, simTrans, hpose, hprevious]
    cases heq
    refine ⟨msg, t, cloud, rfl, ?_⟩
    rw [step, hstep, receiveCloud_eq huse, hguess]

/-- A scan that gets to `receiveCloud` finds what is stored, and stores its reading. -/
theorem previousOdomMat_step (huse : config.useOdom = true) {e : LocalizationEvent S G P V Q}
    {scan : OdomScan G} (h : s.odomScan config e = some scan) :
    scan.Ok ∧ scan.previous = s.previousOdomMat ∧
      (s.step config e).previousOdomMat = scan.stored := by
  obtain ⟨msg, t, cloud, rfl, hstep⟩ := step_of_odomScan huse h
  obtain ⟨-, heq⟩ := Option.ite_none_right_eq_some.mp h
  rw [hstep]
  cases heq
  exact ⟨⟨rfl, rfl⟩, rfl, rfl⟩

/-- No other event writes the stored matrix. -/
theorem previousOdomMat_step_of_none {e : LocalizationEvent S G P V Q}
    (h : s.odomScan config e = none) :
    (s.step config e).previousOdomMat = s.previousOdomMat := by
  cases e with
  | initialPose msg =>
    rw [step, initialPoseCallback]
    split <;> rfl
  | inputCloud msg =>
    have hreach : ¬ (s.initialPoseReceived && msg.robotTransform.isSome) = true := by
      intro hreach
      rw [odomScan, if_pos hreach] at h
      cases h
    rw [step, cloudCallback]
    cases hreceived : s.initialPoseReceived with
    | false => rfl
    | true =>
      cases htransform : msg.robotTransform with
      | none => rfl
      | some transform => exact absurd (by rw [hreceived, htransform]; rfl) hreach

/-- The stored matrix along a run. -/
theorem linked_odomScans (huse : config.useOdom = true)
    (events : List (LocalizationEvent S G P V Q)) (s : Localization S G P V Q) :
    Linked s.previousOdomMat (odomScans config s events) := by
  induction events generalizing s with
  | nil => exact Linked.nil
  | cons e events ih =>
    rw [odomScans]
    cases hscan : s.odomScan config e with
    | none =>
      rw [← previousOdomMat_step_of_none hscan]
      exact ih (s.step config e)
    | some scan =>
      obtain ⟨hok, hprevious, hstored⟩ := previousOdomMat_step huse hscan
      rw [← hprevious]
      exact Linked.cons hok (hstored ▸ ih (s.step config e))

/-! ## The readings of a run -/

/-- Only a message changes whether there is an initial pose. -/
theorem initialPoseReceived_step (e : LocalizationEvent S G P V Q) :
    (s.step config e).initialPoseReceived = match e with
      | .initialPose msg => s.initialPoseReceived || msg.frameId = config.globalFrameId
      | .inputCloud _ => s.initialPoseReceived := by
  cases e with
  | initialPose msg =>
    simp only [step, initialPoseCallback]
    split
    case isTrue hframe => simp [hframe]
    case isFalse hframe => simp [not_not.mp hframe]
  | inputCloud msg =>
    simp only [step]
    cases hreceived : s.initialPoseReceived with
    | false =>
      rw [cloudCallback, if_pos hreceived]
      exact hreceived
    | true =>
      cases htransform : msg.robotTransform with
      | none =>
        rw [cloudCallback, if_neg (by simp [hreceived]), htransform]
        exact hreceived
      | some transform =>
        obtain ⟨t, cloud, hstep, -, -, ht⟩ :=
          cloudCallback_reaches config hreceived (by rw [htransform]; rfl)
        rw [hstep, (receiveCloud_keeps config t msg cloud).2.2.1, ht, hreceived]

/-- The scans of a run have the readings that its lookups return. -/
theorem reading_odomScans (events : List (LocalizationEvent S G P V Q))
    (s : Localization S G P V Q) :
    (odomScans config s events).map OdomScan.reading =
      odomReadings config.globalFrameId s.initialPoseReceived events := by
  induction events generalizing s with
  | nil => rfl
  | cons e events ih =>
    rw [odomScans, List.map_append, ih, initialPoseReceived_step]
    cases e with
    | initialPose msg => rfl
    | inputCloud msg =>
      rw [odomReadings, odomScan]
      split <;> rfl

end Steps

end Localization

/-! ## Every lookup succeeds -/

section Properties

variable [Group G]

/-- From one reading to the next, the guess is the current pose moved by what the odometry
has added. -/
def Telescopes (scans : List (OdomScan G)) : Prop :=
  ∀ k earlier later o o', scans[k]? = some earlier → scans[k + 1]? = some later →
    earlier.reading = some o → later.reading = some o' →
    later.simTrans = later.pose * o⁻¹ * o'

/-- A scan whose lookup throws is aligned from the current pose and leaves the stored
matrix. -/
def FailuresIgnored (scans : List (OdomScan G)) : Prop :=
  ∀ scan ∈ scans, scan.reading = none →
    scan.simTrans = scan.pose ∧ scan.stored = scan.previous

/-- The first reading after some failures is related to the last one before them. -/
def FailuresBridged (scans : List (OdomScan G)) : Prop :=
  ∀ i j earlier later o o', i + 1 < j → scans[i]? = some earlier → scans[j]? = some later →
    earlier.reading = some o → later.reading = some o' →
    (∀ m between, i < m → m < j → scans[m]? = some between → between.reading = none) →
    later.simTrans = later.pose * o⁻¹ * o'

/-- No reading at the identity is followed by one that is not. -/
def IdentityStays (readings : List (Option G)) : Prop :=
  ∀ (k : Nat) (o' : G), readings[k]? = some (some 1) → readings[k + 1]? = some (some o') → o' = 1

/-- The lookups throw behind readings at the identity only. -/
def FailsAtIdentity (readings : List (Option G)) : Prop :=
  ∀ (k : Nat) (o : G), readings[k]? = some (some o) → readings[k + 1]? = some none → o = 1

/-- The first reading behind some failures, when there was one before them, is at the
identity. -/
def ResumesAtIdentity (readings : List (Option G)) : Prop :=
  ∀ (i j : Nat) (o o' : G), i + 1 < j → readings[i]? = some (some o) →
    readings[j]? = some (some o') → (∀ m, i < m → m < j → readings[m]? = some none) →
    o' = 1

end Properties

namespace Linked

variable [Group G] [DecidableEq G] {initial : G} {scans : List (OdomScan G)}

/-- What the reading of a scan says of what the next one finds stored. -/
theorem previous_eq (h : Linked initial scans) {k : Nat} {earlier later : OdomScan G}
    (hearlier : scans[k]? = some earlier) (hlater : scans[k + 1]? = some later) :
    later.previous = earlier.reading.getD 1 := by
  rw [h.next k earlier later hearlier hlater]
  exact (h.ok earlier (List.mem_of_getElem? hearlier)).stored

/-- The guess, when the scan before had a reading: the increment is applied unless that
reading was the identity. -/
theorem simTrans_eq (h : Linked initial scans) {k : Nat} {earlier later : OdomScan G} {o o' : G}
    (hearlier : scans[k]? = some earlier) (hlater : scans[k + 1]? = some later)
    (ho : earlier.reading = some o) (ho' : later.reading = some o') :
    later.simTrans = if o ≠ 1 then later.pose * o⁻¹ * o' else later.pose := by
  have hok := h.ok later (List.mem_of_getElem? hlater)
  rw [hok.simTrans, hok.stored, h.previous_eq hearlier hlater, ho, ho']
  rfl

theorem telescopes_iff (h : Linked initial scans) :
    Telescopes scans ↔ IdentityStays (scans.map OdomScan.reading) := by
  simp only [IdentityStays, List.getElem?_map, Option.map_eq_some_iff]
  constructor
  · rintro htelescopes k o' ⟨earlier, hearlier, ho⟩ ⟨later, hlater, ho'⟩
    have hguess := htelescopes k earlier later 1 o' hearlier hlater ho ho'
    rw [h.simTrans_eq hearlier hlater ho ho', if_neg (not_not.mpr rfl), inv_one, mul_one] at hguess
    exact mul_eq_left.mp hguess.symm
  · intro hstays k earlier later o o' hearlier hlater ho ho'
    rw [h.simTrans_eq hearlier hlater ho ho']
    split
    case isTrue => rfl
    case isFalse hone =>
      have ho1 : o = 1 := not_not.mp hone
      subst ho1
      have ho'1 : o' = 1 := hstays k o' ⟨earlier, hearlier, ho⟩ ⟨later, hlater, ho'⟩
      rw [ho'1, inv_one, mul_one, mul_one]

/-! ## Some lookups throw -/

/-- A scan behind a failed lookup is aligned from the current pose. -/
theorem simTrans_of_failed (h : Linked initial scans) {k : Nat} {earlier later : OdomScan G}
    (hearlier : scans[k]? = some earlier) (hlater : scans[k + 1]? = some later)
    (hfailed : earlier.reading = none) : later.simTrans = later.pose := by
  rw [(h.ok later (List.mem_of_getElem? hlater)).simTrans, h.previous_eq hearlier hlater, hfailed]
  exact if_neg (not_not.mpr rfl)

theorem failuresIgnored_iff (h : Linked 1 scans) :
    FailuresIgnored scans ↔ FailsAtIdentity (scans.map OdomScan.reading) := by
  simp only [FailsAtIdentity, List.getElem?_map, Option.map_eq_some_iff]
  constructor
  · rintro hignored k o ⟨earlier, hearlier, ho⟩ ⟨later, hlater, hfailed⟩
    have hmem := List.mem_of_getElem? hlater
    have hkept := (hignored later hmem hfailed).2
    rw [(h.ok later hmem).stored, h.previous_eq hearlier hlater, hfailed, ho] at hkept
    exact hkept.symm
  · intro hfails scan hmem hfailed
    have hok := h.ok scan hmem
    -- nothing but the identity is stored when the lookup throws
    have hprevious : scan.previous = 1 := by
      obtain ⟨k, hk⟩ := List.mem_iff_getElem?.mp hmem
      cases k with
      | zero => exact h.first scan hk
      | succ k =>
        have hlt : k < scans.length :=
          Nat.lt_of_succ_lt (List.getElem?_eq_some_iff.mp hk).1
        have hearlier := List.getElem?_eq_getElem hlt
        rw [h.previous_eq hearlier hk]
        cases ho : (scans[k]).reading with
        | none => rfl
        | some o => exact hfails k o ⟨_, hearlier, ho⟩ ⟨scan, hk, hfailed⟩
    refine ⟨?_, ?_⟩
    · rw [hok.simTrans, if_neg (not_not.mpr hprevious)]
    · rw [hok.stored, hfailed, hprevious]
      rfl

omit [Group G] [DecidableEq G] in
/-- A scan before another one has been registered. -/
theorem exists_of_lt {i j : Nat} {later : OdomScan G} (hlt : i < j)
    (hlater : scans[j]? = some later) : ∃ scan, scans[i]? = some scan :=
  ⟨_, List.getElem?_eq_getElem (hlt.trans (List.getElem?_eq_some_iff.mp hlater).1)⟩

theorem failuresBridged_iff (h : Linked initial scans)
    (hfails : FailsAtIdentity (scans.map OdomScan.reading)) :
    FailuresBridged scans ↔ ResumesAtIdentity (scans.map OdomScan.reading) := by
  simp only [FailsAtIdentity, ResumesAtIdentity, List.getElem?_map, Option.map_eq_some_iff]
    at hfails ⊢
  -- the scan before the second reading throws, so that its guess is the current pose
  have hguess : ∀ {i j later}, i + 1 < j → scans[j]? = some later →
      (∀ m between, i < m → m < j → scans[m]? = some between → between.reading = none) →
      later.simTrans = later.pose := by
    intro i j later hlt hlater hbetween
    cases j with
    | zero => omega
    | succ j =>
      obtain ⟨last, hlast⟩ := exists_of_lt (Nat.lt_succ_self j) hlater
      exact h.simTrans_of_failed hlast hlater
        (hbetween j last (by omega) (Nat.lt_succ_self j) hlast)
  -- the scan behind the first reading throws, so that the reading is the identity
  have hone : ∀ {i j o}, i + 1 < j → (∃ scan, scans[i]? = some scan ∧ scan.reading = some o) →
      (∃ scan, scans[i + 1]? = some scan ∧ scan.reading = none) → o = 1 :=
    fun _ hscan hfailed => hfails _ _ hscan hfailed
  constructor
  · rintro hbridged i j o o' hlt ⟨earlier, hearlier, ho⟩ ⟨later, hlater, ho'⟩ hall
    have hbetween : ∀ m between, i < m → m < j → scans[m]? = some between →
        between.reading = none := by
      intro m between him hmj hm
      obtain ⟨scan, hscan, hreading⟩ := hall m him hmj
      rw [hm] at hscan
      cases hscan
      exact hreading
    have heq := hbridged i j earlier later o o' hlt hearlier hlater ho ho' hbetween
    rw [hguess hlt hlater hbetween,
      hone hlt ⟨earlier, hearlier, ho⟩ (hall (i + 1) (Nat.lt_succ_self i) hlt), inv_one,
      mul_one] at heq
    exact mul_eq_left.mp heq.symm
  · intro hresumes i j earlier later o o' hlt hearlier hlater ho ho' hbetween
    have hall : ∀ m, i < m → m < j → ∃ scan, scans[m]? = some scan ∧ scan.reading = none := by
      intro m him hmj
      obtain ⟨scan, hscan⟩ := exists_of_lt hmj hlater
      exact ⟨scan, hscan, hbetween m scan him hmj hscan⟩
    have ho1 := hone hlt ⟨earlier, hearlier, ho⟩ (hall (i + 1) (Nat.lt_succ_self i) hlt)
    have ho'1 := hresumes i j o o' hlt ⟨earlier, hearlier, ho⟩ ⟨later, hlater, ho'⟩ hall
    rw [hguess hlt hlater hbetween, ho1, ho'1, inv_one, mul_one, mul_one]

end Linked

/-! ## The runs of the node -/

namespace Localization

variable [Group G]

theorem initial_previousOdomMat (config : LocalizationConfig S G P V Q) :
    (initial config).previousOdomMat = 1 := by
  unfold initial
  split <;> rfl

theorem initial_initialPoseReceived (config : LocalizationConfig S G P V Q) :
    (initial config).initialPoseReceived = config.setInitialPose := by
  unfold initial
  split
  case isTrue hset => exact hset.symm
  case isFalse hset => exact (Bool.of_not_eq_true hset).symm

end Localization

/-- **When odometry increments telescope.**

For all callbacks, whatever the lookups and registration answer, the guess of every scan
whose lookup succeeds, like that of the scan before, is the current pose times the inverse
of the reading before times its own reading, if and only if no reading at the identity is
followed by one that is not.  The stored identity stands for no reading, so that the
increment from such a reading is dropped. -/
theorem odometry_telescopes_iff [Group G] [DecidableEq G] [SMul G P]
    (config : LocalizationConfig S G P V Q) (huse : config.useOdom = true)
    (events : List (LocalizationEvent S G P V Q)) :
    Telescopes (Localization.odomScans config (Localization.initial config) events) ↔
      IdentityStays (odomReadings config.globalFrameId config.setInitialPose events) := by
  have hlinked := Localization.linked_odomScans huse events (Localization.initial config)
  rw [hlinked.telescopes_iff, Localization.reading_odomScans,
    Localization.initial_initialPoseReceived]

/-- **When a failed odometry lookup is a no-op.**

For all callbacks, every scan whose lookup throws is aligned from the current pose and
leaves the stored matrix, and the next reading is related to the last one before the
failures, if and only if the lookups throw behind readings at the identity only, and the
next reading then is the identity again.  The scan composes and stores the default of the
transform, the identity, as if it had been read. -/
theorem failed_lookup_harmless_iff [Group G] [DecidableEq G] [SMul G P]
    (config : LocalizationConfig S G P V Q) (huse : config.useOdom = true)
    (events : List (LocalizationEvent S G P V Q)) :
    FailuresIgnored (Localization.odomScans config (Localization.initial config) events) ∧
      FailuresBridged (Localization.odomScans config (Localization.initial config) events) ↔
    FailsAtIdentity (odomReadings config.globalFrameId config.setInitialPose events) ∧
      ResumesAtIdentity (odomReadings config.globalFrameId config.setInitialPose events) := by
  have hlinked := Localization.linked_odomScans huse events (Localization.initial config)
  rw [Localization.initial_previousOdomMat] at hlinked
  rw [hlinked.failuresIgnored_iff, and_congr_right hlinked.failuresBridged_iff,
    Localization.reading_odomScans, Localization.initial_initialPoseReceived]

/-! ### A robot on a line -/

/-- A node on a line that uses the odometry. -/
def lineOdomConfig : LocalizationConfig Unit (Multiplicative Int) Int Int Unit :=
  { lineLocalizationConfig with useOdom := true }

/-- A scan with a reading, or with a lookup that throws.  Registration keeps its guess. -/
def lineOdomScan (reading : Option Int) :
    LocalizationEvent Unit (Multiplicative Int) Int Int Unit :=
  .inputCloud {
    stamp := ()
    cloud := []
    robotTransform := some 1
    odomTransform := reading.map Multiplicative.ofAdd
    adjustDistortion := id
    mapFile := none
    align := fun _ _ guess => guess }

theorem odometry_telescopes_on_line :
    Telescopes (Localization.odomScans lineOdomConfig (Localization.initial lineOdomConfig)
        [lineOdomScan (some 0), lineOdomScan (some 5)]) ↔
      IdentityStays (odomReadings "map" true [lineOdomScan (some 0), lineOdomScan (some 5)]) :=
  odometry_telescopes_iff lineOdomConfig rfl _

/-- The robot starts where its odometry does and moves by 5: the guess stays at 2. -/
theorem increment_from_identity_dropped :
    ¬ ∀ events : List (LocalizationEvent Unit (Multiplicative Int) Int Int Unit),
      (∀ reading ∈ odomReadings "map" true events, reading.isSome = true) →
      Telescopes (Localization.odomScans lineOdomConfig (Localization.initial lineOdomConfig)
        events) := by
  intro h
  have hguess := h [lineOdomScan (some 0), lineOdomScan (some 5)] (by decide) 0
    { pose := .ofAdd 2, reading := some 1, previous := 1, simTrans := .ofAdd 2, stored := 1 }
    { pose := .ofAdd 2, reading := some (.ofAdd 5), previous := 1, simTrans := .ofAdd 2,
      stored := .ofAdd 5 } 1 (.ofAdd 5) rfl rfl rfl rfl
  exact absurd hguess (by decide)

theorem failed_lookup_harmless_on_line :
    FailuresIgnored (Localization.odomScans lineOdomConfig (Localization.initial lineOdomConfig)
        [lineOdomScan (some 5), lineOdomScan none]) ∧
      FailuresBridged (Localization.odomScans lineOdomConfig
        (Localization.initial lineOdomConfig) [lineOdomScan (some 5), lineOdomScan none]) ↔
    FailsAtIdentity (odomReadings "map" true [lineOdomScan (some 5), lineOdomScan none]) ∧
      ResumesAtIdentity (odomReadings "map" true [lineOdomScan (some 5), lineOdomScan none]) :=
  failed_lookup_harmless_iff lineOdomConfig rfl _

/-- The odometry is at 5 when a lookup throws: the guess moves back by 5, and the reading
is lost. -/
theorem failed_lookup_moves_guess :
    ¬ ∀ events : List (LocalizationEvent Unit (Multiplicative Int) Int Int Unit),
      FailuresIgnored (Localization.odomScans lineOdomConfig
        (Localization.initial lineOdomConfig) events) ∧
      FailuresBridged (Localization.odomScans lineOdomConfig
        (Localization.initial lineOdomConfig) events) := by
  intro h
  have hkept := (h [lineOdomScan (some 5), lineOdomScan none]).1
    { pose := .ofAdd 2, reading := none, previous := .ofAdd 5, simTrans := .ofAdd (-3),
      stored := 1 } (.tail _ (.head _)) rfl
  exact absurd hkept (by decide)

end RoboRacer.Slam
