/-
  Driver/PublishSlots.lean --- does synchronised framing meet every publication slot?

  `CheckTimer` tests the millisecond of the recent time against
  `publish_interval_ms_`, and the span of the buffer against
  `publish_interval_tolerance_`.  The first number is the publish interval
  truncated to whole milliseconds, the second is not.  Seen through `cutter`, a
  packet is one burst of the cutter of `Foundation/Slots.lean`, whose unit is one
  millisecond and whose `rest` is what the truncation drops.

  In a gap-free stream every slot is met exactly when the dropped part is small:
  at the frequencies of whole-millisecond intervals, but not at 30 Hz.
-/
import RoboRacer.Driver.Framing
import RoboRacer.Driver.Settings
import RoboRacer.Driver.SyncModes
import RoboRacer.Foundation.Slots

set_option autoImplicit false

namespace RoboRacer.Driver

open RoboRacer.Foundation

/-! ## The configuration of a frequency -/

/-- `publish_interval_`: `(kNsPerSecond / (publish_freq * 10)) * 10`, in exact
arithmetic, cast to `uint64_t`. -/
def publishInterval (freq : PublishFreq) : UInt64 :=
  UInt64.ofNat ⌊(kNsPerSecond.toNat : ℚ) / (freq.hz * 10) * 10⌋.toNat

/-- The interval is between 10 ms and 2 s. -/
theorem publishInterval_bounds (freq : PublishFreq) :
    10000000 ≤ (publishInterval freq).toNat ∧ (publishInterval freq).toNat ≤ 2000000000 := by
  have hpos : 0 < freq.hz := lt_of_lt_of_le (by norm_num) freq.lower
  have hexact : (kNsPerSecond.toNat : ℚ) / (freq.hz * 10) * 10 = 1000000000 / freq.hz := by
    have hsecond : kNsPerSecond.toNat = 1000000000 := rfl
    rw [hsecond]
    field_simp
    norm_num
  have hlow : 10000000 ≤ ⌊(1000000000 : ℚ) / freq.hz⌋ := by
    apply Int.le_floor.mpr
    rw [le_div_iff₀ hpos]
    have hupper := freq.upper
    push_cast
    linarith
  have hhigh : ⌊(1000000000 : ℚ) / freq.hz⌋ ≤ 2000000000 := by
    have hle : (1000000000 : ℚ) / freq.hz ≤ 2000000000 := by
      rw [div_le_iff₀ hpos]
      have hlower := freq.lower
      linarith
    exact_mod_cast (Int.floor_le _).trans hle
  rw [publishInterval, hexact, UInt64.toNat_ofNat']
  omega

theorem toNat_kRatioOfMsToNs : kRatioOfMsToNs.toNat = 1000000 := rfl

/-- The interval has at least ten whole milliseconds. -/
theorem publishInterval_ms_bound (freq : PublishFreq) :
    10 ≤ (publishInterval freq / kRatioOfMsToNs).toNat := by
  have hbounds := publishInterval_bounds freq
  rw [UInt64.toNat_div, toNat_kRatioOfMsToNs]
  omega

theorem publishInterval_ms_ne (freq : PublishFreq) :
    publishInterval freq / kRatioOfMsToNs ≠ 0 := by
  intro hzero
  have hbound := publishInterval_ms_bound freq
  rw [hzero] at hbound
  exact absurd hbound (by decide)

/-- The configuration that `SetPointCloudConfig` derives from a frequency. -/
def publishConfig (freq : PublishFreq) : PublishConfig :=
  .setPointCloudConfig (publishInterval freq) (publishInterval_ms_ne freq)

/-- The milliseconds that the driver tests, and what the interval has beyond them. -/
def publishSlots (freq : PublishFreq) : Slots where
  width := kRatioOfMsToNs.toNat
  count := (publishConfig freq).publishIntervalMs.toNat
  rest := (publishInterval freq).toNat % kRatioOfMsToNs.toNat
  rest_lt := Nat.mod_lt _ (by decide)
  four_le_count := le_trans (by decide) (publishInterval_ms_bound freq)

theorem interval_publishSlots (freq : PublishFreq) :
    (publishSlots freq).interval = (publishInterval freq).toNat := by
  unfold Slots.interval Slots.period publishSlots
  change (publishInterval freq / kRatioOfMsToNs).toNat * _ + _ = _
  rw [UInt64.toNat_div]
  exact Nat.div_add_mod' _ _

theorem tolerance_publishSlots (freq : PublishFreq) :
    (publishSlots freq).tolerance = (publishConfig freq).publishIntervalTolerance.toNat := by
  have hbounds := publishInterval_bounds freq
  have hle : kNsTolerantFrameTimeDeviation ≤ publishInterval freq := by
    rw [UInt64.le_iff_toNat_le]
    have hdeviation : kNsTolerantFrameTimeDeviation.toNat = 1000000 := rfl
    omega
  unfold Slots.tolerance
  rw [interval_publishSlots]
  change _ = (publishInterval freq - kNsTolerantFrameTimeDeviation).toNat
  rw [UInt64.toNat_sub_of_le _ _ hle]
  rfl

/-! ## Streams of packets -/

section Streams

variable {R : Type} [LivoxSdk]

/-- A packet, from its first point to its last. -/
def RawPacket.span (rawData : RawPacket) : Span where
  first := (rawData.pointTimes.head?.getD 0).toNat
  last := (rawData.pointTimes.getLast?.getD 0).toNat

/-- The packets of `id`, in processing order. -/
def packetsOf (id : UInt32) (events : List (PubEvent R)) : List RawPacket :=
  events.flatMap fun
    | .packet rawData _ _ => if rawData.id = id then [rawData] else []
    | _ => []

omit [LivoxSdk] in
theorem packetsOf_concat (id : UInt32) (events : List (PubEvent R)) (rawData : RawPacket)
    (isTimestampSync : Bool) (now : Int) :
    packetsOf id (events ++ [.packet rawData isTimestampSync now]) =
      packetsOf id events ++ if rawData.id = id then [rawData] else [] := by
  rw [packetsOf, List.flatMap_append, List.flatMap_singleton]
  rfl

/-- Every packet has points.  They follow each other in time, across the packets
too, and the last points of two packets are at most `gap` apart. -/
structure GapFreePackets (gap : Nat) (packets : List RawPacket) : Prop where
  pointTimes_ne : ∀ rawData ∈ packets, rawData.pointTimes ≠ []
  spans : GapFree gap (packets.map RawPacket.span)

theorem GapFreePackets.left_of_append {gap : Nat} {xs ys : List RawPacket}
    (h : GapFreePackets gap (xs ++ ys)) : GapFreePackets gap xs where
  pointTimes_ne := fun rawData hmem => h.pointTimes_ne rawData (List.mem_append_left _ hmem)
  spans := by
    have hspans := h.spans
    rw [List.map_append] at hspans
    exact hspans.left_of_append

/-! ### A stream of single points -/

/-- A packet with one high-resolution point, at time `t`. -/
def pointPacket (handle : UInt32) (t : Nat) : RawPacket where
  lidarType := .kLivoxLidarType
  handle := handle
  extrinsicEnable := false
  pointNum := 1
  dataType := LivoxSdk.kLivoxLidarCartesianCoordinateHighData
  lineNum := kLineNumberMid360
  timeStamp := UInt64.ofNat t
  pointInterval := 0
  rawData := List.replicate 14 0

theorem pointTimes_pointPacket (handle : UInt32) (t : Nat) :
    (pointPacket handle t).pointTimes = [UInt64.ofNat t] := by
  rw [RawPacket.pointTimes, if_pos ⟨rfl, .inl rfl⟩]
  change [UInt64.ofNat t + UInt64.ofNat 0 * 0] = _
  rw [UInt64.mul_zero, UInt64.add_zero]

theorem span_pointPacket (handle : UInt32) {t : Nat} (h : t < 2 ^ 64) :
    (pointPacket handle t).span = { first := t, last := t } := by
  have htime : (UInt64.ofNat t).toNat = t := UInt64.toNat_ofNat_of_lt' h
  rw [RawPacket.span, pointTimes_pointPacket, List.head?_singleton, List.getLast?_singleton,
    Option.getD_some, htime]

variable (R) in
/-- Such packets at each of the times. -/
def pointStream (id : UInt32) (times : List Nat) : List (PubEvent R) :=
  times.map fun t => .packet (pointPacket id t) true 0

theorem synced_pointStream (id : UInt32) (times : List Nat) :
    ∀ event ∈ pointStream R id times, event.Synced := by
  intro event hevent
  obtain ⟨t, _, rfl⟩ := List.mem_map.mp hevent
  rfl

theorem packetsOf_pointStream (id : UInt32) (times : List Nat) :
    packetsOf id (pointStream R id times) = times.map (pointPacket id) := by
  unfold packetsOf pointStream
  rw [List.flatMap_map, ← List.flatMap_singleton' (times.map _), List.flatMap_map]
  apply List.flatMap_congr
  intro t _
  exact if_pos rfl

theorem spans_pointStream (id : UInt32) {times : List Nat} (h : ∀ t ∈ times, t < 2 ^ 64) :
    (packetsOf id (pointStream R id times)).map RawPacket.span = Slots.instants times := by
  rw [packetsOf_pointStream, List.map_map]
  apply List.map_congr_left
  intro t ht
  exact span_pointPacket id (h t ht)

theorem gapFreePackets_pointStream (id : UInt32) {gap : Nat} {times : List Nat}
    (hsteps : Slots.Steps gap times) (h : ∀ t ∈ times, t < 2 ^ 64) :
    GapFreePackets gap (packetsOf id (pointStream R id times)) where
  pointTimes_ne := by
    rw [packetsOf_pointStream]
    intro rawData hmem
    obtain ⟨t, _, rfl⟩ := List.mem_map.mp hmem
    rw [pointTimes_pointPacket]
    exact List.cons_ne_nil _ _
  spans := by
    rw [spans_pointStream id h]
    exact Slots.gapFree_instants hsteps

end Streams

/-! ## Packets as bursts -/

section Framing

variable {R : Type}

/-- The tests of `CheckTimer` are those of the cutter. -/
theorem cutDue_iff (freq : PublishFreq) {handler : LidarPubHandler R}
    (hle : handler.getLidarBaseTime.toNat ≤ handler.getRecentTimeStamp.toNat) :
    PubHandler.cutDue (publishConfig freq) handler = true ↔
      (publishSlots freq).Due handler.getLidarBaseTime.toNat
        handler.getRecentTimeStamp.toNat := by
  unfold PubHandler.cutDue Slots.Due Slots.InSlot
  rw [tolerance_publishSlots, ← UInt64.toNat_sub_of_le _ _ (UInt64.le_iff_toNat_le.mpr hle)]
  simp [publishSlots, ← UInt64.toNat_inj, UInt64.lt_iff_toNat_lt]

/-- An entry, from its base time to its last point. -/
def entrySpan (entry : UInt64 × List (PointXyzlt R)) : Span where
  first := entry.1.toNat
  last := ((entry.2.map fun point => (point.offsetTime : UInt64)).getLast?.getD 0).toNat

/-- The framing of one LiDAR as a cutter. -/
def OwnFraming.cutter (own : OwnFraming R) : Cutter where
  base := own.handler.pointsClouds.head?.map fun point => point.offsetTime.toNat
  frames := own.entries.map entrySpan

variable [Add R] [Sub R] [Mul R] [Div R] [Neg R] [IntCast R] [Trig R] [LivoxSdk]

/-- A packet adds its timestamps to the buffer, whatever the extrinsic. -/
theorem LidarPubHandler.offsetTime_pointCloudProcess (handler : LidarPubHandler R)
    (lidarParam : Option (LidarExtParameter R)) (rawData : RawPacket) :
    ((handler.configured lidarParam).pointCloudProcess rawData).pointsClouds.map (·.offsetTime) =
      handler.pointsClouds.map (·.offsetTime) ++ rawData.pointTimes := by
  rw [pointCloudProcess, List.map_append, decodePoints_offsetTime, pointsClouds_configured]

/-- **A packet is a burst.** -/
theorem cutter_ownStep (freq : PublishFreq) (lidarParam : Option (LidarExtParameter R))
    {own : OwnFraming R} {rawData : RawPacket} (hpoints : rawData.pointTimes ≠ [])
    (hle : own.cutter.base.getD rawData.span.first ≤ rawData.span.last) :
    (ownStep (publishConfig freq) lidarParam own rawData).cutter =
      (publishSlots freq).step own.cutter rawData.span := by
  have htimes := own.handler.offsetTime_pointCloudProcess lidarParam rawData
  unfold ownStep
  generalize (own.handler.configured lidarParam).pointCloudProcess rawData = handler at *
  have hbase : handler.getLidarBaseTime.toNat = own.cutter.base.getD rawData.span.first := by
    rw [LidarPubHandler.getLidarBaseTime_eq, htimes]
    unfold OwnFraming.cutter RawPacket.span
    cases own.handler.pointsClouds with
    | nil => rfl
    | cons point rest => rfl
  have hlast : (handler.pointsClouds.map (·.offsetTime)).getLast? =
      rawData.pointTimes.getLast? := by
    rw [htimes, List.getLast?_append_of_ne_nil _ hpoints]
  have hrecent : handler.getRecentTimeStamp.toNat = rawData.span.last := by
    rw [LidarPubHandler.getRecentTimeStamp_eq, hlast]
    rfl
  have hiff : PubHandler.cutDue (publishConfig freq) handler = true ↔
      (publishSlots freq).Due (own.cutter.base.getD rawData.span.first) rawData.span.last := by
    rw [← hbase, ← hrecent] at hle ⊢
    exact cutDue_iff freq hle
  by_cases hdue : PubHandler.cutDue (publishConfig freq) handler = true
  · rw [if_pos hdue, Slots.step_due (hiff.mp hdue), ← hbase, ← hrecent]
    simp [OwnFraming.cutter, entrySpan, LidarPubHandler.getRecentTimeStamp_eq]
  · rw [if_neg hdue, Slots.step_keep (fun h => hdue (hiff.mpr h)), ← hbase]
    have hhead : handler.pointsClouds.head?.map (fun point => point.offsetTime.toNat) =
        some handler.getLidarBaseTime.toNat := by
      unfold LidarPubHandler.getLidarBaseTime
      cases hbuffer : handler.pointsClouds with
      | nil =>
        rw [hbuffer, List.map_nil] at htimes
        exact absurd (List.append_eq_nil_iff.mp htimes.symm).2 hpoints
      | cons point rest => rfl
    rw [← hhead]
    rfl

/-! ## Runs -/

/-- What a run of a gap-free stream keeps. -/
structure CutterRun (freq : PublishFreq) (id : UInt32) (events : List (PubEvent R))
    (run : FramingRun R) : Prop where
  config : run.self.config = publishConfig freq
  lidarNum : run.self.frame.lidarNum = 0
  cutter : (projection id run.self run.frames).cutter =
    (publishSlots freq).run Slots.start ((packetsOf id events).map RawPacket.span)

variable {freq : PublishFreq} {id : UInt32}

omit [Add R] [Sub R] [Mul R] [Div R] [Neg R] [Trig R] in
theorem CutterRun.start :
    CutterRun freq id [] (FramingRun.start (publishConfig freq) : FramingRun R) where
  config := rfl
  lidarNum := rfl
  cutter := rfl

theorem CutterRun.packet {events : List (PubEvent R)} {run next : FramingRun R}
    (h : CutterRun freq id events run) {rawData : RawPacket} {now : Int} {gap : Nat}
    (hfree : GapFreePackets gap (packetsOf id (events ++ [.packet rawData true now])))
    (hstep : run.step (.packet rawData true now) = some next) :
    CutterRun freq id (events ++ [.packet rawData true now]) next := by
  obtain ⟨⟨self, frame⟩, hprocess, hnext⟩ := Option.bind_eq_some_iff.mp hstep
  cases hnext
  obtain ⟨hsame, hproj⟩ := projection_rawDataProcess h.lidarNum hprocess id run.frames
  refine ⟨hsame.config.trans h.config, hsame.lidarNum, ?_⟩
  change (projection id self (run.frames ++ frame.toList)).cutter = _
  rw [packetsOf_concat] at hfree ⊢
  rw [hproj]
  by_cases hid : rawData.id = id
  · rw [if_pos hid] at hfree
    rw [if_pos hid, if_pos hid]
    have hspans := hfree.spans
    rw [List.map_append, List.map_singleton] at hspans ⊢
    have hle := Slots.base_le (z := publishSlots freq) _ hspans
    rw [← h.cutter] at hle
    rw [h.config, cutter_ownStep freq _ (hfree.pointTimes_ne rawData (by simp)) hle,
      h.cutter, Slots.run_append]
    rfl
  · rw [if_neg hid, if_neg hid, List.append_nil]
    exact h.cutter

/-- **The frames of a gap-free stream are those of the cutter.** -/
theorem CutterRun.of_steps (events : List (PubEvent R)) (hsynced : ∀ event ∈ events, event.Synced)
    {gap : Nat} (hfree : GapFreePackets gap (packetsOf id events)) {run : FramingRun R}
    (hrun : (FramingRun.start (publishConfig freq)).steps events = some run) :
    CutterRun freq id events run := by
  induction events using List.reverseRecOn generalizing run with
  | nil =>
    cases hrun
    exact .start
  | append_singleton events event ih =>
    obtain ⟨last, hlast, hstep⟩ := FramingRun.exists_of_steps_concat hrun
    have hsynced' : ∀ e ∈ events, e.Synced := fun e he => hsynced e (List.mem_append_left _ he)
    have hfree' : GapFreePackets gap (packetsOf id events) := by
      rw [packetsOf, List.flatMap_append] at hfree
      exact hfree.left_of_append
    have hkept := ih hsynced' hfree' hlast
    cases event with
    | packet rawData isTimestampSync now =>
      have hsync : isTimestampSync = true := hsynced _ (List.mem_append_right _ List.mem_cons_self)
      subst hsync
      exact hkept.packet hfree hstep
    | addLidarsExtParam lidarParam =>
      cases hstep
      refine ⟨hkept.config, hkept.lidarNum, ?_⟩
      rw [packetsOf, List.flatMap_append, List.flatMap_singleton, List.append_nil]
      exact hkept.cutter
    | clearAllLidarsExtrinsicParams =>
      cases hstep
      refine ⟨hkept.config, hkept.lidarNum, ?_⟩
      rw [packetsOf, List.flatMap_append, List.flatMap_singleton, List.append_nil]
      exact hkept.cutter

/-! ## The exact frequencies -/

/-- From its base time to its last point the entry spans at least the publish
interval less 1 ms, and less than the publish interval and 1 ms. -/
def SpansInterval (freq : PublishFreq) (entry : UInt64 × List (PointXyzlt R)) : Prop :=
  ∃ point ∈ entry.2.getLast?,
    ((publishInterval freq).toNat : Int) - 1000000 ≤
        (point.offsetTime.toNat : Int) - entry.1.toNat ∧
      (point.offsetTime.toNat : Int) - entry.1.toNat < (publishInterval freq).toNat + 1000000

omit [Add R] [Sub R] [Mul R] [Div R] [Neg R] [IntCast R] [Trig R] [LivoxSdk] in
theorem spansInterval_iff (freq : PublishFreq) (entry : UInt64 × List (PointXyzlt R)) :
    SpansInterval freq entry ↔ (publishSlots freq).Fits (entrySpan entry) := by
  have hbounds := publishInterval_bounds freq
  have hwidth : (publishSlots freq).width = 1000000 := rfl
  unfold SpansInterval Slots.Fits Slots.tolerance entrySpan
  rw [interval_publishSlots, hwidth, List.getLast?_map]
  cases entry.2.getLast? with
  | none =>
    constructor
    · rintro ⟨point, hpoint, _⟩
      cases hpoint
    · rintro ⟨hlong, _⟩
      have hzero : (0 : UInt64).toNat = 0 := rfl
      change _ ≤ (0 : UInt64).toNat at hlong
      omega
  | some point =>
    change _ ↔ entry.1.toNat + _ ≤ point.offsetTime.toNat ∧
      point.offsetTime.toNat < entry.1.toNat + _ + _
    constructor
    · rintro ⟨last, hlast, hlong, hshort⟩
      cases hlast
      omega
    · rintro ⟨hlong, hshort⟩
      exact ⟨point, rfl, by omega, by omega⟩

variable (R) in
/-- Every gap-free stream of `id`, with the last points of its packets at most
`gap` apart, is framed slot by slot: a frame after the first spans an interval. -/
def KeepsSlots (freq : PublishFreq) (gap : Nat) (id : UInt32) : Prop :=
  ∀ events : List (PubEvent R), (∀ event ∈ events, event.Synced) →
    GapFreePackets gap (packetsOf id events) →
    ∃ run : FramingRun R, (FramingRun.start (publishConfig freq)).steps events = some run ∧
      ∀ entry ∈ (entriesOf id run.frames).tail, SpansInterval freq entry

omit [Add R] [Sub R] [Mul R] [Div R] [Neg R] [Trig R] in
/-- The entries handed over are the frames of the cutter. -/
theorem CutterRun.entries {events : List (PubEvent R)} {run : FramingRun R}
    (h : CutterRun freq id events run) :
    ((entriesOf id run.frames).tail).map entrySpan =
      ((publishSlots freq).run Slots.start
        ((packetsOf id events).map RawPacket.span)).frames.tail := by
  rw [← h.cutter, List.map_tail]
  rfl

theorem keepsSlots_of_le {gap : Nat}
    (hgap : 2 * gap + (publishInterval freq).toNat % 1000000 ≤ 1000001) :
    KeepsSlots R freq gap id := by
  intro events hsynced hfree
  obtain ⟨_, run, hrun, _⟩ := FramingInv.synced (publishConfig freq) events hsynced
  refine ⟨run, hrun, ?_⟩
  have hentries := (CutterRun.of_steps events hsynced hfree hrun).entries
  intro entry hentry
  rw [spansInterval_iff]
  apply Slots.fits_of_gapFree hgap hfree.spans
  rw [← hentries]
  exact List.mem_map_of_mem hentry

variable (R) in
/-- The stream that misses the second slot. -/
def missedEvents (freq : PublishFreq) (gap : Nat) (id : UInt32) : List (PubEvent R) :=
  pointStream R id ((publishSlots freq).missedTimes gap)

/-- It is gap-free, and its second frame does not span an interval. -/
theorem missedEvents_spec (freq : PublishFreq) {gap : Nat} (hgap : gap ≤ 1000000)
    (h : 1000002 ≤ 2 * gap + (publishInterval freq).toNat % 1000000) (id : UInt32) :
    GapFreePackets gap (packetsOf id (missedEvents R freq gap id)) ∧
      ∃ run : FramingRun R,
        (FramingRun.start (publishConfig freq)).steps (missedEvents R freq gap id) = some run ∧
        ∃ entry ∈ (entriesOf id run.frames).tail, ¬ SpansInterval freq entry := by
  have hspec : Slots.MissedTimes (publishSlots freq) gap := Slots.missedTimes_spec hgap h
  have hsmall : ∀ t ∈ (publishSlots freq).missedTimes gap, t < 2 ^ 64 := by
    intro t ht
    have hle := hspec.le t ht
    have hinterval := interval_publishSlots freq
    have hbounds := publishInterval_bounds freq
    unfold Slots.interval at hinterval
    omega
  have hfree := gapFreePackets_pointStream (R := R) id hspec.steps hsmall
  have hsynced := synced_pointStream (R := R) id ((publishSlots freq).missedTimes gap)
  refine ⟨hfree, ?_⟩
  obtain ⟨_, run, hrun, _⟩ := FramingInv.synced (publishConfig freq) _ hsynced
  refine ⟨run, hrun, ?_⟩
  have hentries := (CutterRun.of_steps _ hsynced hfree hrun).entries
  rw [spans_pointStream id hsmall] at hentries
  obtain ⟨frame, hframe, hnot⟩ := hspec.not_fits
  rw [← hentries] at hframe
  obtain ⟨entry, hentry, rfl⟩ := List.mem_map.mp hframe
  refine ⟨entry, hentry, ?_⟩
  rw [spansInterval_iff]
  exact hnot

/-- **The slots are met exactly when the interval is nearly whole.** -/
theorem keepsSlots_gap_iff (freq : PublishFreq) {gap : Nat} (hgap : gap ≤ 1000000)
    (id : UInt32) :
    KeepsSlots R freq gap id ↔
      2 * gap + (publishInterval freq).toNat % 1000000 ≤ 1000001 := by
  constructor
  · intro hkeeps
    by_contra hlarge
    obtain ⟨hfree, run, hrun, entry, hentry, hnot⟩ :=
      missedEvents_spec (R := R) freq hgap (by omega) id
    obtain ⟨run', hrun', hall⟩ := hkeeps _ (synced_pointStream id _) hfree
    have hsame : run' = run := Option.some.inj (hrun'.symm.trans hrun)
    subst hsame
    exact hnot (hall entry hentry)
  · exact keepsSlots_of_le

/-- **No slot is missed at the right frequencies.**  The frames of every gap-free
stream, its packets at most 0.4 ms apart, span the publish interval up to 1 ms,
from the second on, if and only if the publish interval exceeds a whole number
of milliseconds by at most 200001 ns. -/
theorem keepsSlots_iff (freq : PublishFreq) (id : UInt32) :
    KeepsSlots R freq 400000 id ↔ (publishInterval freq).toNat % 1000000 ≤ 200001 := by
  rw [keepsSlots_gap_iff freq (by decide) id]
  omega

end Framing

/-! ### 30 Hz -/

/-- An interval of 33333333 ns. -/
def thirtyHz : PublishFreq where
  hz := 30
  lower := by norm_num
  upper := by norm_num

theorem publishInterval_thirtyHz : (publishInterval thirtyHz).toNat = 33333333 := by
  have hfloor : ⌊(kNsPerSecond.toNat : ℚ) / (thirtyHz.hz * 10) * 10⌋ = 33333333 := by
    have hsecond : kNsPerSecond.toNat = 1000000000 := rfl
    have hhz : thirtyHz.hz = 30 := rfl
    rw [hsecond, hhz, Int.floor_eq_iff]
    norm_num
  rw [publishInterval, hfloor]
  rfl

/-- At 30 Hz a gap-free stream is published at the first slot and the third. -/
theorem second_slot_missed :
    (∀ event ∈ missedEvents Float thirtyHz 400000 1, event.Synced) ∧
      GapFreePackets 400000 (packetsOf 1 (missedEvents Float thirtyHz 400000 1)) ∧
      ∃ run : FramingRun Float,
        (FramingRun.start (publishConfig thirtyHz)).steps
            (missedEvents Float thirtyHz 400000 1) = some run ∧
          ∃ entry ∈ (entriesOf 1 run.frames).tail, ¬ SpansInterval thirtyHz entry := by
  refine ⟨synced_pointStream 1 _, missedEvents_spec thirtyHz (by decide) ?_ 1⟩
  rw [publishInterval_thirtyHz]
  decide

end RoboRacer.Driver
