/-
  Driver/Timestamps.lean --- when do point timestamps survive the CustomMsg format?

  In a run of time-synchronised packets a frame is cut whenever a packet
  completes an interval, and it holds everything that was pending.  How long a
  frame spans is therefore decided by the stream, pauses included, and not by
  the publish interval.  The main result is the exact condition on the stream:
  no packet may complete an interval `2 ^ 32` ns or more after the oldest
  pending point of its LiDAR.
-/
import RoboRacer.Driver.CustomMsg
import RoboRacer.Driver.Framing

set_option autoImplicit false

namespace RoboRacer.Driver

open RoboRacer.Foundation

section Runs

variable {R : Type} [Add R] [Sub R] [Mul R] [Div R] [Neg R] [IntCast R] [Trig R] [LivoxSdk]

/-! ## The cuts of a run -/

/-- The packet completes a publish interval of its LiDAR. -/
def PubHandler.completes (self : PubHandler R) (rawData : RawPacket) : Bool :=
  cutDue self.config (self.decodedHandler rawData)

/-- The entry that a packet completing an interval hands over. -/
def PubHandler.cutEntry (self : PubHandler R) (rawData : RawPacket) : UInt64 × PointPacket R :=
  ((self.decodedHandler rawData).getLidarBaseTime,
    lidarPoint rawData.id (self.decodedHandler rawData).pointsClouds)

/-- Among `events`, `rawData` completes an interval when the handler is `before`. -/
def CutAt (config : PublishConfig) (events : List (PubEvent R)) (before : PubHandler R)
    (rawData : RawPacket) : Prop :=
  ∃ pre post now run, events = pre ++ .packet rawData true now :: post ∧
    (FramingRun.start config).steps pre = some run ∧ run.self = before ∧
    before.completes rawData = true

/-- A cut of a longer run is a cut of the shorter one, or made by the last event. -/
theorem cutAt_concat {config : PublishConfig} {events : List (PubEvent R)} {event : PubEvent R}
    {run : FramingRun R} (hrun : (FramingRun.start config).steps events = some run)
    (before : PubHandler R) (rawData : RawPacket) :
    CutAt config (events ++ [event]) before rawData ↔
      CutAt config events before rawData ∨
        ((∃ now, event = .packet rawData true now) ∧ run.self = before ∧
          before.completes rawData = true) := by
  constructor
  · rintro ⟨pre, post, now, last, heq, hlast, hself, hdue⟩
    rcases List.eq_nil_or_concat post with rfl | ⟨post', final, rfl⟩
    · obtain ⟨hpre, hevent⟩ := List.append_inj' heq rfl
      subst hpre
      have hsame : run = last := Option.some.inj (hrun.symm.trans hlast)
      subst hsame
      exact .inr ⟨⟨now, List.singleton_inj.mp hevent⟩, hself, hdue⟩
    · rw [List.concat_eq_append, ← List.cons_append, ← List.append_assoc] at heq
      obtain ⟨hevents, _⟩ := List.append_inj' heq rfl
      exact .inl ⟨pre, post', now, last, hevents, hlast, hself, hdue⟩
  · rintro (⟨pre, post, now, last, heq, hlast, hself, hdue⟩ | ⟨⟨now, rfl⟩, hself, hdue⟩)
    · exact ⟨pre, post ++ [event], now, last, by simp [heq], hlast, hself, hdue⟩
    · exact ⟨events, [], now, run, rfl, hrun, hself, hdue⟩

/-- The entries handed over so far. -/
def FramingRun.entries (run : FramingRun R) : List (UInt64 × PointPacket R) :=
  run.frames.flatMap PointFrame.entries

/-- A synchronised packet hands over its cut entry, or nothing. -/
theorem FramingRun.entries_step_packet {run next : FramingRun R} {rawData : RawPacket} {now : Int}
    (hnum : run.self.frame.lidarNum = 0)
    (hnext : run.step (.packet rawData true now) = some next) :
    next.entries = run.entries ++
      if run.self.completes rawData then [run.self.cutEntry rawData] else [] := by
  cases hdue : run.self.completes rawData with
  | false =>
    have hstep := step_packet (PubHandler.rawDataProcess_keep now hnum hdue)
    rw [hnext, Option.some_inj] at hstep
    subst hstep
    simp [entries]
  | true =>
    have hstep := step_packet (PubHandler.rawDataProcess_cut now hnum hdue)
    rw [hnext, Option.some_inj] at hstep
    subst hstep
    simp [entries, PubHandler.entries_cut hnum, PubHandler.cutEntry]

/-- **Frames are cuts.**  In a run of synchronised packets the entries handed
over are the cut entries of the packets that complete an interval. -/
theorem mem_entries_iff_cutAt {config : PublishConfig} (events : List (PubEvent R))
    (hsynced : ∀ event ∈ events, event.Synced) {run : FramingRun R}
    (hrun : (FramingRun.start config).steps events = some run)
    (entry : UInt64 × PointPacket R) :
    entry ∈ run.entries ↔
      ∃ before rawData, CutAt config events before rawData ∧
        entry = before.cutEntry rawData := by
  induction events using List.reverseRecOn generalizing run with
  | nil =>
    have hstart : run = .start config := (Option.some.inj hrun).symm
    subst hstart
    simp [FramingRun.entries, FramingRun.start, CutAt]
  | append_singleton events event ih =>
    have hsynced' : ∀ e ∈ events, e.Synced := fun e he => hsynced e (List.mem_append_left _ he)
    obtain ⟨last, hlast, hstep⟩ := FramingRun.exists_of_steps_concat hrun
    obtain ⟨handles, last', hlast', hinv⟩ := FramingInv.synced config events hsynced'
    have hsame : last' = last := Option.some.inj (hlast'.symm.trans hlast)
    subst hsame
    have hold := ih hsynced' hlast
    cases event with
    | addLidarsExtParam lidarParam =>
      have hnext : last'.entries = run.entries := by
        cases hstep
        rfl
      simp only [← hnext, hold, cutAt_concat hlast]
      simp
    | clearAllLidarsExtrinsicParams =>
      have hnext : last'.entries = run.entries := by
        cases hstep
        rfl
      simp only [← hnext, hold, cutAt_concat hlast]
      simp
    | packet rawData isTimestampSync now =>
      have hsync : isTimestampSync = true := hsynced _ (List.mem_append_right _ List.mem_cons_self)
      subst hsync
      rw [FramingRun.entries_step_packet hinv.lidarNum hstep, List.mem_append, hold]
      constructor
      · rintro (⟨before, raw, hcut, rfl⟩ | hnew)
        · exact ⟨before, raw, (cutAt_concat hlast before raw).mpr (.inl hcut), rfl⟩
        · split at hnew
          · rename_i hdue
            refine ⟨last'.self, rawData, ?_, List.mem_singleton.mp hnew⟩
            exact (cutAt_concat hlast _ rawData).mpr (.inr ⟨⟨now, rfl⟩, rfl, hdue⟩)
          · exact absurd hnew List.not_mem_nil
      · rintro ⟨before, raw, hcut, rfl⟩
        rcases (cutAt_concat hlast before raw).mp hcut with hcut | ⟨⟨now', heq⟩, rfl, hdue⟩
        · exact .inl ⟨before, raw, hcut, rfl⟩
        · cases heq
          rw [if_pos hdue]
          exact .inr (List.mem_singleton_self _)

/-! ## The timestamps of a LiDAR -/

/-- The timestamps an event brings, under the id of their LiDAR. -/
def PubEvent.times : PubEvent R → List (UInt32 × List UInt64)
  | .packet rawData _ _ => [(rawData.id, rawData.pointTimes)]
  | _ => []

/-- The timestamps of the points of `id`, in processing order. -/
def timesOf (id : UInt32) (events : List (PubEvent R)) : List UInt64 :=
  stream id (events.flatMap PubEvent.times)

omit [Add R] [Sub R] [Mul R] [Div R] [Neg R] [IntCast R] [Trig R] in
theorem timesOf_append (id : UInt32) (xs ys : List (PubEvent R)) :
    timesOf id (xs ++ ys) = timesOf id xs ++ timesOf id ys := by
  rw [timesOf, List.flatMap_append, stream_append]
  rfl

omit [Add R] [Sub R] [Mul R] [Div R] [Neg R] [IntCast R] [Trig R] in
theorem timesOf_packet_self (rawData : RawPacket) (isTimestampSync : Bool) (now : Int) :
    timesOf rawData.id [(.packet rawData isTimestampSync now : PubEvent R)] =
      rawData.pointTimes := by
  simp [timesOf, PubEvent.times]

/-- One event adds its timestamps to the decoded ones. -/
theorem offsetTime_stream_step (id : UInt32) {run next : FramingRun R} {event : PubEvent R}
    (h : run.step event = some next) :
    (stream id next.decoded).map (·.offsetTime) =
      (stream id run.decoded).map (·.offsetTime) ++ timesOf id [event] := by
  cases event with
  | addLidarsExtParam lidarParam =>
    cases h
    exact (List.append_nil _).symm
  | clearAllLidarsExtrinsicParams =>
    cases h
    exact (List.append_nil _).symm
  | packet rawData isTimestampSync now =>
    rw [FramingRun.decoded_of_step h, stream_append, List.map_append]
    rcases eq_or_ne rawData.id id with rfl | hne
    · rw [stream_singleton_self, decodePoints_offsetTime, timesOf_packet_self]
    · simp [timesOf, PubEvent.times, stream_singleton_of_ne hne]

/-- A run decodes every LiDAR to the timestamps its packets carry. -/
theorem offsetTime_stream_decoded (id : UInt32) {run last : FramingRun R}
    (events : List (PubEvent R)) (h : run.steps events = some last) :
    (stream id last.decoded).map (·.offsetTime) =
      (stream id run.decoded).map (·.offsetTime) ++ timesOf id events := by
  induction events generalizing run with
  | nil =>
    cases h
    exact (List.append_nil _).symm
  | cons event rest ih =>
    obtain ⟨first, hfirst, hrest⟩ := FramingRun.exists_of_steps_cons h
    rw [ih hrest, offsetTime_stream_step id hfirst, List.append_assoc, ← timesOf_append]
    rfl

/-- The timestamps in the buffer of a LiDAR are the last ones it has sent. -/
theorem offsetTime_decodedHandler_isSuffix {config : PublishConfig} {pre : List (PubEvent R)}
    (hsynced : ∀ event ∈ pre, event.Synced) {run : FramingRun R}
    (hrun : (FramingRun.start config).steps pre = some run) (rawData : RawPacket) (now : Int) :
    (run.self.decodedHandler rawData).pointsClouds.map (·.offsetTime) <:+
      timesOf rawData.id (pre ++ [(.packet rawData true now : PubEvent R)]) := by
  obtain ⟨handles, run', hrun', hinv⟩ := FramingInv.synced config pre hsynced
  have hsame : run' = run := Option.some.inj (hrun'.symm.trans hrun)
  subst hsame
  have hdecoded := offsetTime_stream_decoded rawData.id pre hrun
  rw [← hinv.conserved rawData.id, List.map_append] at hdecoded
  refine ⟨(handedPoints run'.frames rawData.id).map (·.offsetTime), ?_⟩
  rw [PubHandler.pointsClouds_decodedHandler, List.map_append, decodePoints_offsetTime,
    timesOf_append, timesOf_packet_self, ← List.append_assoc, hdecoded]
  rfl

/-! ## The exact condition -/

/-- The last point that the entry of a completed interval announces is less than
`2 ^ 32` ns after the oldest pending one. -/
def PubHandler.SpanShort (before : PubHandler R) (rawData : RawPacket) : Prop :=
  let buffer := (before.decodedHandler rawData).pointsClouds
  let announced := buffer.take (UInt32.ofNat buffer.length).toNat
  ∀ last ∈ announced.getLast?,
    last.offsetTime.toNat <
      (before.decodedHandler rawData).getLidarBaseTime.toNat + 2 ^ 32

omit [Add R] [Sub R] [Mul R] [Div R] [Neg R] [IntCast R] [Trig R] [LivoxSdk] in
/-- Among sorted timestamps, all are close to the first when the last is. -/
theorem forall_lt_iff_getLast {points : List (PointXyzlt R)} (bound : Nat)
    (hsorted : (points.map (·.offsetTime.toNat)).Pairwise (· ≤ ·)) :
    (∀ point ∈ points, point.offsetTime.toNat < bound) ↔
      ∀ last ∈ points.getLast?, last.offsetTime.toNat < bound := by
  constructor
  · intro h last hlast
    exact h last (List.mem_of_getLast? hlast)
  · intro h point hpoint
    have hne : points ≠ [] := List.ne_nil_of_mem hpoint
    have hlast := h (points.getLast hne) (List.getLast?_eq_some_getLast hne)
    have hsplit := List.dropLast_append_getLast hne
    rw [← hsplit, List.map_append, List.pairwise_append] at hsorted
    rw [← hsplit, List.mem_append, List.mem_singleton] at hpoint
    rcases hpoint with hinit | rfl
    · have hle : point.offsetTime.toNat ≤ (points.getLast hne).offsetTime.toNat :=
        hsorted.2.2 _ (List.mem_map_of_mem hinit) _ (by simp)
      omega
    · exact hlast

/-- A message of a sorted entry keeps its timestamps exactly when the entry is short. -/
theorem survive_cutEntry_iff [ToByte R] (frameId : String) (lidar : LidarDevice R)
    {before : PubHandler R} {rawData : RawPacket}
    (hsorted : ((before.decodedHandler rawData).pointsClouds.map
      (·.offsetTime.toNat)).Pairwise (· ≤ ·)) :
    (∀ pkg, DeliveredAs ⟨(before.cutEntry rawData).2, (before.cutEntry rawData).1⟩ pkg →
      ∀ msg, publishCustomPointcloud frameId lidar pkg = some (some msg) →
        TimestampsSurvive msg (before.cutEntry rawData).2.points) ↔
      before.SpanShort rawData := by
  have hannounced : (before.cutEntry rawData).2.payload <+:
      (before.decodedHandler rawData).pointsClouds := List.take_prefix _ _
  -- the base time is the least timestamp of the buffer
  have hbase : ∀ point ∈ (before.cutEntry rawData).2.payload,
      (before.cutEntry rawData).1.toNat ≤ point.offsetTime.toNat := by
    intro point hpoint
    have hmem := hannounced.subset hpoint
    change (before.decodedHandler rawData).getLidarBaseTime.toNat ≤ _
    unfold LidarPubHandler.getLidarBaseTime
    cases hpoints : (before.decodedHandler rawData).pointsClouds with
    | nil => simp
    | cons first rest =>
      rw [hpoints] at hmem hsorted
      rcases List.mem_cons.mp hmem with rfl | hrest
      · exact Nat.le_refl _
      · rw [List.map_cons, List.pairwise_cons] at hsorted
        exact hsorted.1 _ (List.mem_map_of_mem hrest)
  have hpayload : ((before.cutEntry rawData).2.payload.map
      (·.offsetTime.toNat)).Pairwise (· ≤ ·) :=
    hsorted.sublist (hannounced.sublist.map _)
  have hexact : (∀ point ∈ (before.cutEntry rawData).2.payload,
        (before.cutEntry rawData).1 +
          (point.offsetTime - (before.cutEntry rawData).1).toUInt32.toUInt64 =
        point.offsetTime) ↔ before.SpanShort rawData := by
    refine Iff.trans ?_ (forall_lt_iff_getLast _ hpayload)
    exact forall₂_congr fun point hpoint => add_toUInt32_eq_iff (hbase point hpoint)
  rw [← hexact]
  constructor
  · intro h point hpoint
    have hmsg := publishCustomPointcloud_stored frameId lidar (before.cutEntry rawData).2
      (before.cutEntry rawData).1
    have hne : ¬ (before.cutEntry rawData).2.payload.isEmpty = true := by
      rw [List.isEmpty_iff]
      exact List.ne_nil_of_mem hpoint
    rw [if_neg hne] at hmsg
    exact (timestampsSurvive_iff hmsg).mp (h _ (deliveredAs_stored _) _ hmsg) point hpoint
  · intro h pkg hpkg msg hmsg
    have hstored := hpkg.eq_stored
    subst hstored
    exact (timestampsSurvive_iff hmsg).mpr h

/-- **Timestamps survive exactly in short frames.**  In a run of synchronised
packets, with the timestamps of `id` never decreasing, every message published
for a frame entry of `id`, through any queue, determines the 64-bit timestamps
of its points if and only if no packet of `id` completes an interval with an
announced point `2 ^ 32` ns or more after the oldest pending one. -/
theorem customMsg_timestamps_survive_iff [ToByte R] (config : PublishConfig)
    (events : List (PubEvent R)) (hsynced : ∀ event ∈ events, event.Synced) (id : UInt32)
    (hsorted : ((timesOf id events).map UInt64.toNat).Pairwise (· ≤ ·))
    (frameId : String) (lidar : LidarDevice R) :
    ∃ run : FramingRun R, (FramingRun.start config).steps events = some run ∧
      ((∀ entry ∈ run.entries, entry.2.handle = id →
          ∀ pkg, DeliveredAs ⟨entry.2, entry.1⟩ pkg →
            ∀ msg, publishCustomPointcloud frameId lidar pkg = some (some msg) →
              TimestampsSurvive msg entry.2.points) ↔
        ∀ before rawData, CutAt config events before rawData → rawData.id = id →
          before.SpanShort rawData) := by
  obtain ⟨handles, run, hrun, hinv⟩ := FramingInv.synced config events hsynced
  have hcutSorted : ∀ before rawData, CutAt config events before rawData → rawData.id = id →
      ((before.decodedHandler rawData).pointsClouds.map (·.offsetTime.toNat)).Pairwise
        (· ≤ ·) := by
    rintro before rawData ⟨pre, post, now, last, rfl, hlast, rfl, _⟩ rfl
    have hpre : ∀ event ∈ pre, event.Synced := fun e he => hsynced e (List.mem_append_left _ he)
    have hsuffix := offsetTime_decodedHandler_isSuffix hpre hlast rawData now
    have hcons : pre ++ .packet rawData true now :: post =
        (pre ++ [.packet rawData true now]) ++ post := by simp
    rw [hcons, timesOf_append, List.map_append, List.pairwise_append] at hsorted
    have hsub := hsorted.1.sublist (hsuffix.sublist.map UInt64.toNat)
    rwa [List.map_map] at hsub
  refine ⟨run, hrun, ?_⟩
  constructor
  · intro h before rawData hcut hid
    have hmem : before.cutEntry rawData ∈ run.entries :=
      (mem_entries_iff_cutAt events hsynced hrun _).mpr ⟨before, rawData, hcut, rfl⟩
    exact (survive_cutEntry_iff frameId lidar (hcutSorted before rawData hcut hid)).mp
      (h _ hmem hid)
  · intro h entry hentry hid
    obtain ⟨before, rawData, hcut, rfl⟩ :=
      (mem_entries_iff_cutAt events hsynced hrun entry).mp hentry
    exact (survive_cutEntry_iff frameId lidar (hcutSorted before rawData hcut hid)).mpr
      (h before rawData hcut hid)

end Runs

/-! ### A stream that pauses -/

/-- A packet of one high-resolution point at time `timeStamp`. -/
def singlePacket (timeStamp : UInt64) : RawPacket where
  lidarType := .kLivoxLidarType
  handle := 1
  extrinsicEnable := false
  pointNum := 1
  dataType := 1
  lineNum := kLineNumberMid360
  timeStamp := timeStamp
  pointInterval := 0
  rawData := List.replicate 14 0

/-- One point 1 ns after the epoch, and the next one five seconds later. -/
def pauseEvents : List (PubEvent Float) :=
  [.packet (singlePacket 1) true 0, .packet (singlePacket 5000000000) true 0]

theorem pauseEvents_synced : ∀ event ∈ pauseEvents, event.Synced := by
  simp [pauseEvents, PubEvent.Synced]

theorem customMsg_timestamps_survive_iff_pause :
    ∃ run : FramingRun Float, (FramingRun.start PublishConfig.initial).steps pauseEvents = some run ∧
      ((∀ entry ∈ run.entries, entry.2.handle = 1 →
          ∀ pkg, DeliveredAs ⟨entry.2, entry.1⟩ pkg →
            ∀ msg, publishCustomPointcloud "livox_frame" .zeroed pkg = some (some msg) →
              TimestampsSurvive msg entry.2.points) ↔
        ∀ before rawData, CutAt PublishConfig.initial pauseEvents before rawData →
          rawData.id = 1 → before.SpanShort rawData) :=
  customMsg_timestamps_survive_iff PublishConfig.initial pauseEvents pauseEvents_synced 1
    (by decide) "livox_frame" .zeroed

/-- The handler when the second packet arrives: one point is pending. -/
def pausedHandler : PubHandler Float :=
  (PubHandler.fresh PublishConfig.initial).decodePacket (singlePacket 1)

theorem pauseEvents_cutAt :
    CutAt PublishConfig.initial pauseEvents pausedHandler (singlePacket 5000000000) := by
  have hfirst := FramingRun.step_packet
    (PubHandler.rawDataProcess_keep 0 rfl (by decide) :
      (FramingRun.start PublishConfig.initial : FramingRun Float).self.rawDataProcess
        (singlePacket 1) true 0 = _)
  have hsteps := FramingRun.steps_concat
    (rfl : (FramingRun.start PublishConfig.initial : FramingRun Float).steps [] = _) hfirst
  exact ⟨_, [], 0, _, rfl, hsteps, rfl, by decide⟩

/-- The timestamp of the second point is lost: its distance of 4999999999 ns from
the time base does not fit the 32-bit `offset_time`. -/
theorem customMsg_timestamp_lost :
    (∀ event ∈ pauseEvents, event.Synced) ∧
      ((timesOf 1 pauseEvents).map UInt64.toNat).Pairwise (· ≤ ·) ∧
      ∃ run : FramingRun Float,
        (FramingRun.start PublishConfig.initial).steps pauseEvents = some run ∧
        ∃ entry ∈ run.entries, entry.2.handle = 1 ∧
          ∃ pkg msg, DeliveredAs ⟨entry.2, entry.1⟩ pkg ∧
            publishCustomPointcloud "livox_frame" .zeroed pkg = some (some msg) ∧
            ¬ TimestampsSurvive msg entry.2.points := by
  refine ⟨pauseEvents_synced, by decide, ?_⟩
  obtain ⟨handles, run, hrun, _⟩ :=
    FramingInv.synced PublishConfig.initial pauseEvents pauseEvents_synced
  have hmem := (mem_entries_iff_cutAt pauseEvents pauseEvents_synced hrun _).mpr
    ⟨_, _, pauseEvents_cutAt, rfl⟩
  have hmsg := publishCustomPointcloud_stored "livox_frame" (LidarDevice.zeroed)
    (pausedHandler.cutEntry (singlePacket 5000000000)).2
    (pausedHandler.cutEntry (singlePacket 5000000000)).1
  rw [if_neg (by decide)] at hmsg
  refine ⟨run, hrun, _, hmem, rfl, _, _, deliveredAs_stored _, hmsg, ?_⟩
  intro h
  have htimes := (timestampsSurvive_iff hmsg).mp h
  exact absurd htimes (by decide)

end RoboRacer.Driver
