/-
  Driver/SamplingState.lean --- what the connect state of a LiDAR says about its
  configuration.

  `Lddc` publishes a LiDAR if and only if its connect state is
  `kConnectStateSampling`.  Along every run of the driver and the SDK:

      configuration_bookkeeping     the first announcement of a listed LiDAR
      sampling_iff_configured       which LiDARs are ever published
      notHalfConfigured_iff         when none is published half configured

  The bookkeeping of one announcement is right.  Two gaps are left around it: the
  connect state is written by the answers to the optional items alone, so a LiDAR
  that is asked for none of them is never published, and a new announcement raises
  the bits again without lowering the connect state.
-/
import RoboRacer.Driver.ConfigHandshake

set_option autoImplicit false

namespace RoboRacer.Driver

open RoboRacer.Foundation

/-! ## Concrete runs -/

/-- A user config for the LiDAR `handle`, without extrinsics. -/
def ParsedConfig.ofItems (handle : UInt32) (pclDataType patternMode : Int8)
    (blindSpotSet : Int32) (dualEmitEn : Int8) : ParsedConfig Int where
  handle := handle
  pclDataType := pclDataType
  patternMode := patternMode
  blindSpotSet := blindSpotSet
  dualEmitEn := dualEmitEn
  extrinsicParam := { roll := 0, pitch := 0, yaw := 0, x := 0, y := 0, z := 0 }
  setBits := 0
  getBits := 0
  noSetBits := rfl
  noGetBits := rfl

/-- A run that the step function takes, with what can be read off its end. -/
theorem exists_run {R β : Type} [IntCast R] {userConfigs : List (ParsedConfig R)}
    {events : List SdkEvent} {observe : SdkSession R → β} {b : β}
    (h : (events.foldlM SdkSession.step (.booted userConfigs)).map observe = some b) :
    ∃ t, (SdkSession.machine userConfigs).Run (.booted userConfigs) events t ∧ observe t = b := by
  obtain ⟨t, ht, hb⟩ := Option.map_eq_some_iff.mp h
  exact ⟨t, Machine.run_ofStep ht, hb⟩

/-- For each item of a LiDAR, the number of its commands in flight and whether one
has failed. -/
def SdkSession.settlement {R : Type} (s : SdkSession R) (handle : UInt32) (item : ConfigItem) :
    Nat × Bool :=
  ((s.outstanding handle item).length, (s.answers handle item).contains .failed)

/-- All answers are in, and none is a failure. -/
theorem SdkSession.answered_of_settlement {R : Type} {s : SdkSession R} {handle : UInt32}
    (h : s.settlement handle = fun _ => (0, false)) :
    (∀ item, s.outstanding handle item = []) ∧ ∀ item, .failed ∉ s.answers handle item := by
  refine ⟨fun item => ?_, fun item hmem => ?_⟩
  · exact List.length_eq_zero_iff.mp (Prod.mk.inj (congrFun h item)).1
  · have hcontains := (Prod.mk.inj (congrFun h item)).2
    rw [List.contains_iff_mem.mpr hmem] at hcontains
    cases hcontains

/-! ## Results -/

section Results

variable {R : Type} [IntCast R] {userConfigs : List (ParsedConfig R)} {handle : UInt32}
  {events : List SdkEvent} {t : SdkSession R}

/-- The config that a run keeps for a LiDAR asks for what it asked for at the
start. -/
theorem Follows.requested {a : Handshake ConfigItem} {config : UserLivoxLidarConfig R}
    (h : Follows handle config t a) {lidar : LidarDevice R}
    (hdevice : t.lds.device handle = some lidar) (item : ConfigItem) :
    item.requested lidar.livoxConfig = item.requested config := by
  rw [h.configured lidar hdevice, requested_setBits]

/-- **The bookkeeping of one announcement.**  A listed LiDAR is announced once and
its commands are answered in any order: its bits are the requested items not yet
acknowledged, each item without an answer has its command in flight exactly once,
with the value in the config, and a LiDAR that is sampling has had every requested
item acknowledged. -/
theorem configuration_bookkeeping {listed : LidarDevice R}
    (hlisted : (SdkSession.booted userConfigs).lds.device handle = some listed)
    (hrun : (SdkSession.machine userConfigs).Run (.booted userConfigs) events t)
    (honce : events.count (.lidarInfoChange handle) = 1) :
    ∃ lidar, t.lds.device handle = some lidar ∧ ∀ item : ConfigItem,
      (lidar.livoxConfig.setBits &&& item.bit ≠ 0 ↔
        item.requested listed.livoxConfig = true ∧
          .kLivoxLidarStatusSuccess ∉ t.answers handle item) ∧
      (item.requested listed.livoxConfig = true →
        .kLivoxLidarStatusSuccess ∉ t.answers handle item → .failed ∉ t.answers handle item →
        t.outstanding handle item = [item.command handle listed.livoxConfig]) ∧
      (lidar.connectState = .kConnectStateSampling → item.requested listed.livoxConfig = true →
        .kLivoxLidarStatusSuccess ∈ t.answers handle item) := by
  obtain ⟨-, a, ha, hfollows, -, hrounds⟩ := handshake_simulated hrun handle
  have hconfig : configOf userConfigs handle = listed.livoxConfig := by
    rw [configOf, hlisted]
    rfl
  obtain ⟨hsome, hcount⟩ := hrounds (by rw [hlisted]; rfl)
  rw [hconfig] at ha hfollows
  rw [honce] at hcount
  obtain ⟨lidar, hlidar⟩ := Option.isSome_iff_exists.mp hsome
  have hsound := Handshake.sound_of_reachable ha
  refine ⟨lidar, hlidar, fun item => ⟨?_, ?_, ?_⟩⟩
  · rw [hfollows.configured lidar hlidar, ConfigItem.encode_and_bit,
      hsound.mem_pending_iff hcount, ConfigItem.mem_requestedItems, ← hfollows.acknowledged,
      List.count_eq_zero]
  · intro hrequested hacknowledged hfailed
    rw [← List.count_eq_zero, hfollows.acknowledged] at hacknowledged
    rw [← List.count_eq_zero, hfollows.failed] at hfailed
    rw [hfollows.outstanding, hsound.outstanding_eq_one hcount
      (ConfigItem.mem_requestedItems.mpr hrequested) hacknowledged hfailed]
    rfl
  · intro hsampling hrequested
    have hready := (hfollows.connectState lidar hlidar).mp hsampling
    have hacknowledged := hsound.acknowledged_of_ready hcount hready
      (ConfigItem.mem_requestedItems.mpr hrequested)
    rw [← hfollows.acknowledged] at hacknowledged
    exact List.count_pos_iff.mp (Nat.pos_of_ne_zero hacknowledged)

/-- All four items are requested; the scan pattern times out and is sent again,
then the data type is acknowledged. -/
theorem configuration_bookkeeping_timeout :
    let userConfigs := [ParsedConfig.ofItems 5 1 0 50 1]
    let events := [.lidarInfoChange 5, .response 1 .kLivoxLidarStatusTimeout false,
      .response 0 .kLivoxLidarStatusSuccess true]
    ∃ listed t, (SdkSession.booted userConfigs).lds.device 5 = some listed ∧
      (SdkSession.machine userConfigs).Run (.booted userConfigs) events t ∧
      ∃ lidar, t.lds.device 5 = some lidar ∧ ∀ item : ConfigItem,
        (lidar.livoxConfig.setBits &&& item.bit ≠ 0 ↔
          item.requested listed.livoxConfig = true ∧
            .kLivoxLidarStatusSuccess ∉ t.answers 5 item) ∧
        (item.requested listed.livoxConfig = true →
          .kLivoxLidarStatusSuccess ∉ t.answers 5 item → .failed ∉ t.answers 5 item →
          t.outstanding 5 item = [item.command 5 listed.livoxConfig]) ∧
        (lidar.connectState = .kConnectStateSampling →
          item.requested listed.livoxConfig = true →
          .kLivoxLidarStatusSuccess ∈ t.answers 5 item) := by
  intro userConfigs events
  have hsteps : (events.foldlM SdkSession.step (.booted userConfigs)).map
      (fun s => s.inFlight.length) = some 6 := by decide
  obtain ⟨t, hrun, -⟩ := exists_run hsteps
  exact ⟨_, t, rfl, hrun, configuration_bookkeeping rfl hrun (by decide)⟩

/-- The LiDAR counts as sampling, so that its queues are published. -/
def SdkSession.Sampling (s : SdkSession R) (handle : UInt32) : Prop :=
  ∃ lidar, s.lds.device handle = some lidar ∧ lidar.connectState = .kConnectStateSampling

/-- Some announcement of the run found the LiDAR registered with a config that
asks for one of the items at least. -/
def AnnouncedConfigured (userConfigs : List (ParsedConfig R)) (handle : UInt32)
    (events : List SdkEvent) : Prop :=
  ∃ earlier u lidar, earlier ++ [.lidarInfoChange handle] <+: events ∧
    (SdkSession.machine userConfigs).Run (.booted userConfigs) earlier u ∧
    u.lds.device handle = some lidar ∧
    ∃ item : ConfigItem, item.requested lidar.livoxConfig = true

/-- The config a LiDAR has is the same at every announcement. -/
theorem announcedConfigured_iff :
    AnnouncedConfigured userConfigs handle events ↔
      (ConfigItem.requestedItems (configOf userConfigs handle)).Nonempty ∧
        AnnouncedRegistered userConfigs handle events := by
  constructor
  · rintro ⟨earlier, u, lidar, hpre, hu, hdevice, item, hitem⟩
    obtain ⟨-, a, -, hfollows, -⟩ := handshake_simulated hu handle
    rw [hfollows.requested hdevice] at hitem
    exact ⟨⟨item, ConfigItem.mem_requestedItems.mpr hitem⟩, earlier, u, hpre, hu,
      by rw [hdevice]; rfl⟩
  · rintro ⟨⟨item, hitem⟩, earlier, u, hpre, hu, hsome⟩
    obtain ⟨lidar, hdevice⟩ := Option.isSome_iff_exists.mp hsome
    obtain ⟨-, a, -, hfollows, -⟩ := handshake_simulated hu handle
    refine ⟨earlier, u, lidar, hpre, hu, hdevice, item, ?_⟩
    rw [hfollows.requested hdevice]
    exact ConfigItem.mem_requestedItems.mp hitem

/-- **Which LiDARs get published.**  Once every item command of a LiDAR has been
answered and none has failed, the LiDAR is sampling if and only if it was once
announced as a registered LiDAR with an item to set. -/
theorem sampling_iff_configured
    (hrun : (SdkSession.machine userConfigs).Run (.booted userConfigs) events t)
    (hanswered : ∀ item, t.outstanding handle item = [])
    (hfailed : ∀ item, .failed ∉ t.answers handle item) :
    t.Sampling handle ↔ AnnouncedConfigured userConfigs handle events := by
  obtain ⟨-, a, ha, hfollows, hbegun, -⟩ := handshake_simulated hrun handle
  have hready : t.Sampling handle ↔ a.ready = true := by
    constructor
    · rintro ⟨lidar, hdevice, hstate⟩
      exact (hfollows.connectState lidar hdevice).mp hstate
    · intro hready
      cases hdevice : t.lds.device handle with
      | none =>
        rw [(hfollows.unregistered hdevice).2] at hready
        cases hready
      | some lidar => exact ⟨lidar, hdevice, (hfollows.connectState lidar hdevice).mpr hready⟩
  rw [hready, announcedConfigured_iff, ← hbegun]
  refine (Handshake.sound_of_reachable ha).ready_iff_of_answered (fun item => ?_) (fun item => ?_)
  · have hempty := hfollows.outstanding item
    rw [hanswered item] at hempty
    exact (List.replicate_eq_nil_iff _).mp hempty.symm
  · rw [← hfollows.failed, List.count_eq_zero]
    exact hfailed item

/-- A listed LiDAR with the data type as its only item. -/
theorem sampling_iff_configured_dataType :
    let userConfigs := [ParsedConfig.ofItems 5 1 (-1) (-1) (-1)]
    let events := [.lidarInfoChange 5, .response 0 .kLivoxLidarStatusSuccess true]
    ∃ t, (SdkSession.machine userConfigs).Run (.booted userConfigs) events t ∧
      (t.Sampling 5 ↔ AnnouncedConfigured userConfigs 5 events) := by
  intro userConfigs events
  have hsteps : (events.foldlM SdkSession.step (.booted userConfigs)).map
      (fun s => s.settlement 5) = some (fun _ => (0, false)) := by decide
  obtain ⟨t, hrun, hsettled⟩ := exists_run hsteps
  obtain ⟨hout, hfailed⟩ := SdkSession.answered_of_settlement hsettled
  exact ⟨t, hrun, sampling_iff_configured hrun hout hfailed⟩

/-- A LiDAR that is listed without any of the four items is announced, every
command sent to it succeeds, and it is never published. -/
theorem itemless_lidar_not_sampling :
    ¬ ∀ (userConfigs : List (ParsedConfig Int)) (handle : UInt32) (events : List SdkEvent)
      (t : SdkSession Int),
      (SdkSession.machine userConfigs).Run (.booted userConfigs) events t →
      .lidarInfoChange handle ∈ events → (∀ item, t.outstanding handle item = []) →
      (∀ item, .failed ∉ t.answers handle item) → t.Sampling handle := by
  intro h
  have hsteps : (([.lidarInfoChange 5, .response 0 .kLivoxLidarStatusSuccess true,
        .response 0 .kLivoxLidarStatusSuccess true,
        .response 0 .kLivoxLidarStatusSuccess true] : List SdkEvent).foldlM SdkSession.step
        (.booted [ParsedConfig.ofItems 5 (-1) (-1) (-1) (-1)])).map
      (fun s => (s.settlement 5, (s.lds.device 5).map LidarDevice.connectState)) =
      some (fun _ => (0, false), some .kConnectStateOff) := by decide
  obtain ⟨t, hrun, hobserved⟩ := exists_run hsteps
  obtain ⟨hsettled, hstate⟩ := Prod.mk.inj hobserved
  obtain ⟨hout, hfailed⟩ := SdkSession.answered_of_settlement hsettled
  obtain ⟨lidar, hdevice, hsampling⟩ := h _ 5 _ t hrun (by decide) hout hfailed
  rw [hdevice, Option.map_some, hsampling] at hstate
  cases hstate

/-- A sampling LiDAR has no item left to configure. -/
def SdkSession.NotHalfConfigured (s : SdkSession R) (handle : UInt32) : Prop :=
  ∀ lidar, s.lds.device handle = some lidar → lidar.connectState = .kConnectStateSampling →
    lidar.livoxConfig.setBits = 0

/-- A callback keeps a sampling LiDAR configured, unless it announces it. -/
theorem Progress.notHalfConfigured {s : SdkSession R} {e : SdkEvent}
    (h : Progress handle s t e) (hs : s.NotHalfConfigured handle)
    (hannounced : e = .lidarInfoChange handle → ¬ s.Sampling handle) :
    t.NotHalfConfigured handle := by
  intro lidar' hdevice hsampling
  cases h with
  | idle unregistered device outstanding answers =>
    exact hs lidar' (device ▸ hdevice) hsampling
  | registered unregistered device off config outstanding answers =>
    rw [device] at hdevice
    cases hdevice
    rw [off] at hsampling
    cases hsampling
  | @announced lidar registered device outstanding answers =>
    -- the callback does not write the connect state
    rw [device] at hdevice
    cases hdevice
    exact absurd ⟨lidar, registered, hsampling⟩ (hannounced rfl)
  | @answered lidar item i status hasResponse c before after registered device sent
      outstanding answers others =>
    rw [device] at hdevice
    by_cases hstatus : status = .kLivoxLidarStatusSuccess
    · rw [if_pos hstatus] at hdevice
      cases hdevice
      by_cases hzero : lidar.livoxConfig.setBits &&& ~~~item.bit = 0
      · exact hzero
      · simp only [lowerBit, if_neg hzero] at hsampling
        rw [hs lidar registered hsampling, UInt32.zero_and] at hzero
        exact absurd rfl hzero
    · rw [if_neg hstatus] at hdevice
      have heq : lidar = lidar' := Option.some.inj hdevice
      rw [← heq] at hsampling ⊢
      exact hs lidar registered hsampling

/-- An announcement that finds the LiDAR sampling leaves it half configured. -/
theorem halfConfigured_of_announced {s : SdkSession R}
    (hrun : (SdkSession.machine userConfigs).Run (.booted userConfigs) events s)
    (hstep : s.step (.lidarInfoChange handle) = some t) (hsampling : s.Sampling handle) :
    ¬ t.NotHalfConfigured handle := by
  obtain ⟨hwf, a, ha, hfollows, -⟩ := handshake_simulated hrun handle
  obtain ⟨lidar, hdevice, hstate⟩ := hsampling
  -- it is sampling because some item was asked for, and that item is asked for again
  obtain ⟨hne, -⟩ := (Handshake.sound_of_reachable ha).started
    ((hfollows.connectState lidar hdevice).mp hstate)
  have hprogress := progress_of_step hwf hstep handle
  cases hprogress with
  | idle unregistered =>
    rw [unregistered rfl] at hdevice
    cases hdevice
  | registered unregistered =>
    rw [unregistered] at hdevice
    cases hdevice
  | announced registered device =>
    rw [hdevice] at registered
    cases registered
    intro hlowered
    have hbits := hlowered _ device hstate
    rw [livoxConfig_raiseBits (hfollows.configured lidar hdevice),
      ConfigItem.encode_eq_zero] at hbits
    exact (hne.mono Finset.subset_union_right).ne_empty hbits

/-- **When no LiDAR is published half configured.**  In every state of a run a
sampling LiDAR has no bit raised, if and only if no announcement in the run finds
it sampling. -/
theorem notHalfConfigured_iff :
    (∀ earlier u, earlier <+: events →
      (SdkSession.machine userConfigs).Run (.booted userConfigs) earlier u →
      u.NotHalfConfigured handle) ↔
    (∀ earlier u, earlier ++ [.lidarInfoChange handle] <+: events →
      (SdkSession.machine userConfigs).Run (.booted userConfigs) earlier u →
      ¬ u.Sampling handle) := by
  constructor
  · intro hall earlier u hpre hu hsampling
    have hstep : u.step (.lidarInfoChange handle) = some _ := rfl
    exact halfConfigured_of_announced hu hstep hsampling (hall _ _ hpre (.snoc hu hstep))
  · intro hnone earlier u hpre hu
    induction hu with
    | nil =>
      intro lidar hdevice hsampling
      rw [((LdsLidar.idle_initLivoxLidar userConfigs).device hdevice).1] at hsampling
      cases hsampling
    | @snoc s u earlier e hs hstep ih =>
      have hprogress := progress_of_step (handshake_simulated hs handle).1 hstep handle
      apply hprogress.notHalfConfigured (ih ((List.prefix_append ..).trans hpre))
      rintro rfl
      exact hnone earlier s hpre hs

/-- A LiDAR with the data type as its only item is announced, configured, and
announced again: it is sampling with the bit of the data type raised. -/
theorem reannounced_lidar_half_configured :
    ¬ ∀ (userConfigs : List (ParsedConfig Int)) (handle : UInt32) (events : List SdkEvent)
      (t : SdkSession Int),
      (SdkSession.machine userConfigs).Run (.booted userConfigs) events t →
      t.NotHalfConfigured handle := by
  intro h
  have hsteps : (([.lidarInfoChange 5, .response 0 .kLivoxLidarStatusSuccess true,
        .lidarInfoChange 5] : List SdkEvent).foldlM SdkSession.step
        (.booted [ParsedConfig.ofItems 5 1 (-1) (-1) (-1)])).map
      (fun s => (s.lds.device 5).map
        (fun lidar => (lidar.connectState, lidar.livoxConfig.setBits))) =
      some (some (.kConnectStateSampling, kConfigDataType)) := by decide
  obtain ⟨t, hrun, hobserved⟩ := exists_run hsteps
  obtain ⟨lidar, hdevice, hlidar⟩ := Option.map_eq_some_iff.mp hobserved
  obtain ⟨hstate, hbits⟩ := Prod.mk.inj hlidar
  rw [h _ 5 _ t hrun lidar hdevice hstate] at hbits
  exact absurd hbits (by decide)

end Results

end RoboRacer.Driver
