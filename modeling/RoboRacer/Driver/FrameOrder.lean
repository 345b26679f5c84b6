/-
  Driver/FrameOrder.lean --- the points of a LiDAR come out in the order of time.

  The points of a packet are `point_interval` apart, the packet's time interval divided by
  its number of points and rounded down.  A packet therefore ends before its interval
  does.  If the next packet does not begin earlier than that, the timestamps of the LiDAR
  never decrease, and what the framing hands over is that sequence, cut into frames.

      ObserverCall.before_of_mem_pointTimes   a packet ends inside its interval
      sorted_timesOf                          the timestamps of the LiDAR never decrease
      frames_time_ordered                     nor do they in the frames
-/
import RoboRacer.Driver.FrameBounds
import RoboRacer.Driver.SyncModes
import RoboRacer.Driver.Timestamps

set_option autoImplicit false

namespace RoboRacer.Driver

open RoboRacer.Foundation

variable {R : Type}

/-! ## Packets -/

/-- The later packet begins where the time interval of the earlier one ends, or after. -/
def ObserverCall.Spaced (earlier later : ObserverCall) : Prop :=
  earlier.data.timestamp.toNat + earlier.data.timeInterval.toNat * 100 ≤
    later.data.timestamp.toNat

instance : Trans ObserverCall.Spaced ObserverCall.Spaced ObserverCall.Spaced where
  trans {a b c} hab hbc := by
    unfold ObserverCall.Spaced at *
    omega

section Packets

variable [LivoxSdk]

/-- What the observer makes of a packet of a synchronised clock. -/
structure ObserverCall.Framed (call : ObserverCall) (packet : RawPacket) : Prop where
  id : packet.id = call.handle
  timeStamp : packet.timeStamp = call.data.timestamp
  pointNum : packet.pointNum.toNat = call.data.dotNum.toNat
  pointInterval : packet.pointInterval.toNat =
    call.data.timeInterval.toNat * 100 / call.data.dotNum.toNat

theorem ObserverCall.framed_of_framedPacket {call : ObserverCall} {packet : RawPacket}
    (htime : call.data.TimeSynchronised) (h : call.framedPacket = some packet) :
    call.Framed packet := by
  unfold framedPacket at h
  split at h
  · cases h
  · have hid := id_rawPacket h
    unfold rawPacket at h
    simp only at h
    split at h
    · cases h
    · cases h
      refine ⟨hid, if_pos htime, ?_, ?_⟩
      · exact UInt16.toNat_toUInt32 _
      · have hinterval := call.data.timeInterval.toNat_lt
        have hle : call.data.timeInterval.toNat * 100 / call.data.dotNum.toNat ≤
            call.data.timeInterval.toNat * 100 := Nat.div_le_self _ _
        rw [UInt64.toNat_ofNat', Nat.mod_eq_of_lt (by omega)]

omit [LivoxSdk] in
/-- The time of point `i` of a packet. -/
theorem toNat_pointTime {call : ObserverCall} {packet : RawPacket} (h : call.Framed packet)
    (hsmall : call.data.timestamp.toNat < 2 ^ 63) {i : Nat} (hi : i < packet.pointNum.toNat) :
    (packet.timeStamp + UInt64.ofNat i * packet.pointInterval).toNat =
        packet.timeStamp.toNat + i * packet.pointInterval.toNat ∧
      i * packet.pointInterval.toNat ≤ call.data.timeInterval.toNat * 100 := by
  rw [h.pointNum] at hi
  have hspan : i * packet.pointInterval.toNat ≤ call.data.timeInterval.toNat * 100 := by
    rw [h.pointInterval]
    calc i * (call.data.timeInterval.toNat * 100 / call.data.dotNum.toNat)
        ≤ call.data.dotNum.toNat *
            (call.data.timeInterval.toNat * 100 / call.data.dotNum.toNat) :=
          Nat.mul_le_mul_right _ hi.le
      _ ≤ call.data.timeInterval.toNat * 100 := Nat.mul_div_le _ _
  have hinterval := call.data.timeInterval.toNat_lt
  have hdots := call.data.dotNum.toNat_lt
  have hstamp : packet.timeStamp.toNat < 2 ^ 63 := by
    rw [h.timeStamp]
    exact hsmall
  have hindex : i % 2 ^ 64 = i := Nat.mod_eq_of_lt (by omega)
  refine ⟨?_, hspan⟩
  rw [UInt64.toNat_add, UInt64.toNat_mul, UInt64.toNat_ofNat', hindex,
    Nat.mod_eq_of_lt (by omega : i * packet.pointInterval.toNat < 2 ^ 64),
    Nat.mod_eq_of_lt (by omega)]

theorem mem_pointTimes {packet : RawPacket} {t : UInt64} (ht : t ∈ packet.pointTimes) :
    ∃ i < packet.pointNum.toNat, t = packet.timeStamp + UInt64.ofNat i * packet.pointInterval := by
  unfold RawPacket.pointTimes at ht
  split at ht
  · obtain ⟨i, hi, rfl⟩ := List.mem_map.mp ht
    exact ⟨i, List.mem_range.mp hi, rfl⟩
  · exact absurd ht List.not_mem_nil

/-- The points of a packet lie between its timestamp and the end of its interval. -/
theorem ObserverCall.Framed.bounds {call : ObserverCall} {packet : RawPacket}
    (h : call.Framed packet) (hsmall : call.data.timestamp.toNat < 2 ^ 63) {t : UInt64}
    (ht : t ∈ packet.pointTimes) :
    call.data.timestamp.toNat ≤ t.toNat ∧
      t.toNat ≤ call.data.timestamp.toNat + call.data.timeInterval.toNat * 100 := by
  obtain ⟨i, hi, rfl⟩ := mem_pointTimes ht
  obtain ⟨htime, hspan⟩ := toNat_pointTime h hsmall hi
  rw [htime, h.timeStamp]
  omega

/-- Inside a packet the timestamps do not decrease. -/
theorem ObserverCall.Framed.sorted {call : ObserverCall} {packet : RawPacket}
    (h : call.Framed packet) (hsmall : call.data.timestamp.toNat < 2 ^ 63) :
    packet.pointTimes.Pairwise (· ≤ ·) := by
  unfold RawPacket.pointTimes
  split
  · rw [List.pairwise_map]
    refine List.pairwise_iff_getElem.mpr fun i j hi hj hij => ?_
    rw [List.length_range] at hi hj
    rw [List.getElem_range, List.getElem_range, UInt64.le_iff_toNat_le,
      (toNat_pointTime h hsmall hi).1, (toNat_pointTime h hsmall hj).1]
    exact Nat.add_le_add_left (Nat.mul_le_mul_right _ hij.le) _
  · exact List.Pairwise.nil

/-! ## The timestamps of a LiDAR -/

/-- What is asked of the packets of the LiDAR: a synchronised clock, points, and a
timestamp that leaves room for them. -/
structure ObserverCall.Timed (call : ObserverCall) : Prop where
  synchronised : call.data.TimeSynchronised
  dotNum : 1 ≤ call.data.dotNum.toNat
  timestamp : call.data.timestamp.toNat < 2 ^ 63

/-- The raw packets of `id` that are processed. -/
def rawPacketsOf (id : UInt32) (events : List (PubEvent R)) : List RawPacket :=
  events.filterMap fun
    | .packet rawData _ _ => if rawData.id = id then some rawData else none
    | _ => none

theorem timesOf_eq_flatMap (id : UInt32) (events : List (PubEvent R)) :
    timesOf id events = (rawPacketsOf id events).flatMap RawPacket.pointTimes := by
  induction events with
  | nil => rfl
  | cons event events ih =>
    have hcons : timesOf id (event :: events) = timesOf id [event] ++ timesOf id events :=
      timesOf_append id [event] events
    rw [hcons, ih]
    cases event with
    | addLidarsExtParam lidarParam => rfl
    | clearAllLidarsExtrinsicParams => rfl
    | packet rawData isTimestampSync now =>
      by_cases hid : rawData.id = id
      · subst hid
        rw [timesOf_packet_self]
        simp [rawPacketsOf]
      · simp [rawPacketsOf, timesOf, PubEvent.times, stream_singleton_of_ne hid, hid]

/-- **The timestamps of the LiDAR never decrease.** -/
theorem sorted_timesOf {id : UInt32} {calls : List ObserverCall} {events : List (PubEvent R)}
    (htimed : ∀ call ∈ calls, call.Timed) (hspaced : calls.IsChain ObserverCall.Spaced)
    (hpackets : rawPacketsOf id events = calls.filterMap ObserverCall.framedPacket) :
    (timesOf id events).Pairwise (· ≤ ·) := by
  have hframed : ∀ call ∈ calls, ∀ packet, call.framedPacket = some packet →
      call.Framed packet := fun call hcall packet hpacket =>
    ObserverCall.framed_of_framedPacket (htimed call hcall).synchronised hpacket
  rw [timesOf_eq_flatMap, hpackets, List.pairwise_flatMap]
  constructor
  · intro packet hmem
    obtain ⟨call, hcall, hpacket⟩ := List.mem_filterMap.mp hmem
    exact (hframed call hcall packet hpacket).sorted (htimed call hcall).timestamp
  · rw [List.pairwise_filterMap]
    refine (List.isChain_iff_pairwise.mp hspaced).imp_of_mem ?_
    intro earlier later hearlier hlater hle packet hpacket packet' hpacket' t ht t' ht'
    have hbefore := (hframed earlier hearlier packet hpacket).bounds
      (htimed earlier hearlier).timestamp ht
    have hafter := (hframed later hlater packet' hpacket').bounds
      (htimed later hlater).timestamp ht'
    unfold ObserverCall.Spaced at hle
    rw [UInt64.le_iff_toNat_le]
    omega

end Packets

/-! ## The frames of a LiDAR -/

/-- Entries in the order of time: the points of an entry do not go back, its base time is
the least of their timestamps, and no point is later than the base time of an entry behind. -/
structure TimeOrdered (entries : List (UInt64 × List (PointXyzlt R))) : Prop where
  sorted : ∀ entry ∈ entries, entry.2.Pairwise fun p q => p.offsetTime ≤ q.offsetTime
  baseTime_mem : ∀ entry ∈ entries, ∃ point ∈ entry.2, point.offsetTime = entry.1
  baseTime_le : ∀ entry ∈ entries, ∀ point ∈ entry.2, entry.1 ≤ point.offsetTime
  disjoint : entries.Pairwise fun earlier later =>
    ∀ point ∈ earlier.2, point.offsetTime ≤ later.1

/-- The points handed over for `id` are those of its entries. -/
theorem handedPoints_eq_flatMap (frames : List (PointFrame R)) (id : UInt32) :
    handedPoints frames id = (entriesOf id frames).flatMap Prod.snd := by
  have hbatches : frames.flatMap PointFrame.batches =
      (frames.flatMap PointFrame.entries).map fun entry => (entry.2.handle, entry.2.points) := by
    rw [List.map_flatMap]
    rfl
  rw [handedPoints, stream_eq_flatMap, hbatches, entriesOf, List.filter_map, List.flatMap_map,
    List.flatMap_map]
  rfl

/-- An entry in order begins with the point of its base time. -/
theorem head_of_mem_entriesOf {frames : List (PointFrame R)}
    (hok : ∀ frame ∈ frames, ∀ entry ∈ frame.entries, EntryOk entry) {id : UInt32}
    {entry : UInt64 × List (PointXyzlt R)} (hentry : entry ∈ entriesOf id frames) :
    ∃ first rest, entry.2 = first :: rest ∧ first.offsetTime = entry.1 := by
  obtain ⟨source, hsource, rfl⟩ := List.mem_map.mp hentry
  obtain ⟨frame, hframe, hmem⟩ := List.mem_flatMap.mp (List.mem_filter.mp hsource).1
  have hentryOk := hok frame hframe source hmem
  obtain ⟨first, rest, hpoints⟩ := List.exists_cons_of_ne_nil hentryOk.nonempty
  have hbase := hentryOk.baseTime
  rw [hpoints] at hbase
  exact ⟨first, rest, hpoints, Option.some.inj hbase⟩

/-- If the points that were handed over are in the order of time, so are the entries. -/
theorem timeOrdered_of_handedPoints {frames : List (PointFrame R)} {id : UInt32}
    (hok : ∀ frame ∈ frames, ∀ entry ∈ frame.entries, EntryOk entry)
    (hsorted : (handedPoints frames id).Pairwise fun p q => p.offsetTime ≤ q.offsetTime) :
    TimeOrdered (entriesOf id frames) := by
  rw [handedPoints_eq_flatMap, List.pairwise_flatMap] at hsorted
  obtain ⟨hinside, hacross⟩ := hsorted
  refine ⟨hinside, ?_, ?_, ?_⟩
  · intro entry hentry
    obtain ⟨first, rest, hpoints, hbase⟩ := head_of_mem_entriesOf hok hentry
    exact ⟨first, hpoints ▸ List.mem_cons_self, hbase⟩
  · intro entry hentry point hpoint
    obtain ⟨first, rest, hpoints, hbase⟩ := head_of_mem_entriesOf hok hentry
    have hfirst := hinside entry hentry
    rw [hpoints] at hfirst hpoint
    rw [← hbase]
    rcases List.mem_cons.mp hpoint with rfl | hrest
    · exact UInt64.le_refl _
    · exact (List.pairwise_cons.mp hfirst).1 point hrest
  · refine hacross.imp_of_mem ?_
    intro earlier later _ hlater hle point hpoint
    obtain ⟨first, rest, hpoints, hbase⟩ := head_of_mem_entriesOf hok hlater
    rw [← hbase]
    exact hle point hpoint first (hpoints ▸ List.mem_cons_self)

section Runs

variable [Add R] [Sub R] [Mul R] [Div R] [Neg R] [IntCast R] [Trig R] [LivoxSdk]

/-- **Frames are in the order of time.**  Take any sequence of packets of the LiDAR `id`
from a synchronised clock, each beginning no earlier than the interval of the one before
ends.  However the processing thread meets them, among packets of other LiDARs, with any
value of the synchronisation flag and any time of the host clock, every entry handed over
for `id` has its points in the order of time and its least timestamp as base time, and no
point of it is later than the base time of the next. -/
theorem frames_time_ordered (config : PublishConfig) (id : UInt32) (calls : List ObserverCall)
    (htimed : ∀ call ∈ calls, call.Timed) (hspaced : calls.IsChain ObserverCall.Spaced)
    (events : List (PubEvent R))
    (hpackets : rawPacketsOf id events = calls.filterMap ObserverCall.framedPacket)
    (hroom : ∀ event ∈ events, ¬ event.Synced → (seenIds events).card ≤ kMaxSourceLidar) :
    ∃ run : FramingRun R, (FramingRun.start config).steps events = some run ∧
      TimeOrdered (entriesOf id run.frames) := by
  obtain ⟨run, hrun, hinv⟩ := (FramingInv.start (seenIds events) config).steps events
    (fun event hevent id hid => List.mem_toFinset.mpr (List.mem_flatMap.mpr ⟨event, hevent, hid⟩))
    hroom
  refine ⟨run, hrun, timeOrdered_of_handedPoints hinv.entriesOk ?_⟩
  -- what was handed over begins the sequence of all decoded points
  have hdecoded := offsetTime_stream_decoded id events hrun
  have hsorted := sorted_timesOf htimed hspaced hpackets
  have hall : ((stream id run.decoded).map (·.offsetTime)).Pairwise (· ≤ ·) := by
    rw [hdecoded]
    exact hsorted
  rw [List.pairwise_map, ← hinv.conserved id, List.pairwise_append] at hall
  exact hall.1

end Runs

/-! ### Three packets of a synchronised LiDAR -/

/-- Two points in 100 ns, then two that complete an interval, then one more. -/
def orderedCalls : List ObserverCall :=
  [{ handle := 1, devType := 9
     data :=
      { length := 64, timeInterval := 1, dotNum := 2, dataType := 1
        timeType := kTimestampTypeGptpOrPtp, timestamp := 0, data := List.replicate 28 0 } },
    { handle := 1, devType := 9
      data :=
      { length := 64, timeInterval := 1, dotNum := 2, dataType := 1
        timeType := kTimestampTypeGptpOrPtp, timestamp := 100000000
        data := List.replicate 28 0 } },
    pointCall 1 kTimestampTypeGptpOrPtp 200000000]

/-- Their packets, and one of an unsynchronised LiDAR. -/
def orderedEvents : List (PubEvent Float) :=
  (orderedCalls.filterMap ObserverCall.framedPacket).map (fun packet => .packet packet true 0) ++
    [.packet (unsyncedPacket 2) false 0]

theorem frames_time_ordered_three :
    ∃ run : FramingRun Float,
      (FramingRun.start PublishConfig.initial).steps orderedEvents = some run ∧
        TimeOrdered (entriesOf 1 run.frames) := by
  refine frames_time_ordered PublishConfig.initial 1 orderedCalls ?_ ?_ orderedEvents rfl ?_
  · simp only [orderedCalls, List.forall_mem_cons, List.not_mem_nil, false_implies, implies_true,
      and_true]
    exact ⟨⟨by decide, by decide, by decide⟩, ⟨by decide, by decide, by decide⟩,
      ⟨by decide, by decide, by decide⟩⟩
  · simp [orderedCalls, ObserverCall.Spaced, pointCall]
  · intro _ _ _
    decide

end RoboRacer.Driver
