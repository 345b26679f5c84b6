/-
  Driver/SyncModes.lean --- one synchronisation flag for all LiDARs.

  Two threads: the SDK's, which calls the point cloud observer for every packet,
  and the processing thread, which runs `RawDataProcess`.  They share the packet
  queue and `is_timestamp_sync_`, which the observer overwrites with the mode of
  every packet and `CheckTimer` loads later.

  The framing of a LiDAR therefore depends on what the others send.  While all
  packets are time-synchronised it does not: projected to one LiDAR the system
  is the machine `ownFraming`, which sees the packets of that LiDAR alone.
-/
import RoboRacer.Driver.FrameSteps
import RoboRacer.Driver.LidarDevice
import RoboRacer.Driver.SdkLayout
import RoboRacer.Foundation.Machine

set_option autoImplicit false

namespace RoboRacer.Driver

open RoboRacer.Foundation

/-! ## The observer -/

/-- The fields of `LivoxLidarEthernetPacket` that the driver reads.  `timestamp`
is the eight bytes as `LdsStamp` reads them. -/
structure EthernetPacket where
  length : UInt16
  timeInterval : UInt16
  dotNum : UInt16
  dataType : UInt8
  timeType : UInt8
  timestamp : UInt64
  data : List UInt8

/-- The arguments of one observer call. -/
structure ObserverCall where
  handle : UInt32
  devType : UInt8
  data : EthernetPacket

/-- `GetEthPacketTimestamp`: the host clock stands in for an unknown time type. -/
def getEthPacketTimestamp (timestampType : UInt8) (timeStamp now : UInt64) : UInt64 :=
  if timestampType = kTimestampTypeGptpOrPtp ∨ timestampType = kTimestampTypeGps then timeStamp
  else now

/-- The value a packet stores in `is_timestamp_sync_`. -/
def EthernetPacket.syncs (data : EthernetPacket) : Bool := data.timeType != kTimestampTypeNoSync

section Observer

variable [LivoxSdk]

/-- The line number of a device type. -/
def lineNum (devType : UInt8) : UInt8 :=
  if devType = LivoxSdk.kLivoxLidarTypeIndustrialHAP then kLineNumberHAP
  else if devType = LivoxSdk.kLivoxLidarTypeMid360 then kLineNumberMid360
  else kLineNumberDefault

/-- The raw packet of a point packet.  A division by zero `dot_num` and a read
behind the payload are `none`. -/
def ObserverCall.rawPacket (call : ObserverCall) (now : UInt64) : Option RawPacket :=
  let length : UInt32 :=
    call.data.length.toUInt32 - UInt32.ofNat LivoxSdk.sizeofEthernetPacket + 1
  if call.data.dotNum = 0 ∨ call.data.data.length < length.toNat then none
  else some
    { lidarType := .kLivoxLidarType
      handle := call.handle
      extrinsicEnable := false
      pointNum := call.data.dotNum.toUInt32
      dataType := call.data.dataType
      lineNum := lineNum call.devType
      timeStamp := getEthPacketTimestamp call.data.timeType call.data.timestamp now
      pointInterval :=
        UInt64.ofNat (call.data.timeInterval.toNat * 100 / call.data.dotNum.toNat)
      rawData := call.data.data.take length.toNat }

/-- The `ImuData` of an IMU packet. -/
def ObserverCall.imuData {R : Type} [ReadImu R] (call : ObserverCall) (now : UInt64) :
    ImuData R :=
  let imu : RawImuPoint R := ReadImu.rawImu call.data.data
  { lidarType := LidarProtoType.kLivoxLidarType.code
    handle := call.handle
    timeStamp := getEthPacketTimestamp call.data.timeType call.data.timestamp now
    gyroX := imu.gyroX
    gyroY := imu.gyroY
    gyroZ := imu.gyroZ
    accX := imu.accX
    accY := imu.accY
    accZ := imu.accZ }

/-- The packet is one of IMU data, which never reaches the packet queue. -/
def ObserverCall.IsImu (call : ObserverCall) : Prop :=
  call.data.dataType = LivoxSdk.kLivoxLidarImuData

instance (call : ObserverCall) : Decidable call.IsImu :=
  inferInstanceAs (Decidable (_ = _))

end Observer

section Own

variable {R : Type} [Add R] [Sub R] [Mul R] [Div R] [Neg R] [IntCast R] [Trig R] [LivoxSdk]

/-! ## One LiDAR on its own -/

/-- The buffer of one LiDAR and the entries it has handed over. -/
structure OwnFraming (R : Type) where
  handler : LidarPubHandler R
  entries : List (UInt64 × List (PointXyzlt R))

/-- A handler given the extrinsic of its LiDAR, if there is one. -/
def LidarPubHandler.configured (handler : LidarPubHandler R)
    (lidarParam : Option (LidarExtParameter R)) : LidarPubHandler R :=
  match lidarParam with
  | none => handler
  | some lidarParam => handler.setLidarsExtParam lidarParam

omit [LivoxSdk] in
theorem LidarPubHandler.pointsClouds_configured (handler : LidarPubHandler R)
    (lidarParam : Option (LidarExtParameter R)) :
    (handler.configured lidarParam).pointsClouds = handler.pointsClouds := by
  cases lidarParam with
  | none => rfl
  | some lidarParam =>
    change (handler.setLidarsExtParam lidarParam).pointsClouds = _
    rw [setLidarsExtParam, apply_ite pointsClouds, ite_self]

/-- One packet of a LiDAR that is framed on its own. -/
def ownStep (config : PublishConfig) (lidarParam : Option (LidarExtParameter R))
    (own : OwnFraming R) (rawData : RawPacket) : OwnFraming R :=
  let handler := (own.handler.configured lidarParam).pointCloudProcess rawData
  if PubHandler.cutDue config handler then
    { handler := { handler with pointsClouds := [] }
      entries := own.entries ++ [(handler.getLidarBaseTime, handler.pointsClouds)] }
  else { own with handler := handler }

/-- The framing of a LiDAR that sees its own packets only. -/
def ownFraming (config : PublishConfig) (lidarParam : Option (LidarExtParameter R))
    (packets : List RawPacket) : OwnFraming R :=
  packets.foldl (ownStep config lidarParam) { handler := .fresh, entries := [] }

/-- The entries handed over for `id`: base time and points. -/
def entriesOf (id : UInt32) (frames : List (PointFrame R)) : List (UInt64 × List (PointXyzlt R)) :=
  ((frames.flatMap PointFrame.entries).filter fun entry => entry.2.handle = id).map fun entry =>
    (entry.1, entry.2.points)

/-- What of a handler and its frames belongs to `id`. -/
def projection (id : UInt32) (self : PubHandler R) (frames : List (PointFrame R)) :
    OwnFraming R :=
  { handler := (self.lidarProcessHandlers[id]?).getD .fresh
    entries := entriesOf id frames }

omit [Add R] [Sub R] [Mul R] [Div R] [Neg R] [IntCast R] [Trig R] [LivoxSdk] in
theorem entriesOf_append (id : UInt32) (xs ys : List (PointFrame R)) :
    entriesOf id (xs ++ ys) = entriesOf id xs ++ entriesOf id ys := by
  simp [entriesOf]

theorem decodedHandler_eq (self : PubHandler R) (frames : List (PointFrame R))
    (rawData : RawPacket) :
    self.decodedHandler rawData =
      ((projection rawData.id self frames).handler.configured
        self.lidarExtrinsics[rawData.id]?).pointCloudProcess rawData := rfl

/-- What a synchronised packet does to the configuration and to the frame under
construction: nothing. -/
structure SameSetup (before next : PubHandler R) : Prop where
  config : next.config = before.config
  lidarExtrinsics : next.lidarExtrinsics = before.lidarExtrinsics
  lidarNum : next.frame.lidarNum = 0

/-- The frame of a packet that completes an interval has an entry of its LiDAR alone. -/
theorem entriesOf_entered {self : PubHandler R} {rawData : RawPacket}
    (hnum : self.frame.lidarNum = 0) (id : UInt32) :
    entriesOf id [((self.decodePacket rawData).entered rawData.id
        (self.decodedHandler rawData)).frame] =
      if rawData.id = id then
        [((self.decodedHandler rawData).getLidarBaseTime,
          (self.decodedHandler rawData).pointsClouds)]
      else [] := by
  rw [entriesOf, List.flatMap_singleton, PubHandler.entries_cut hnum]
  by_cases hid : rawData.id = id
  · simp [PubHandler.lidarPoint, hid]
  · simp [PubHandler.lidarPoint, hid]

/-- It empties the handler of its LiDAR and touches no other. -/
theorem handlers_entered (self : PubHandler R) (rawData : RawPacket) (id : UInt32) :
    ((self.decodePacket rawData).entered rawData.id
        (self.decodedHandler rawData)).lidarProcessHandlers[id]? =
      if rawData.id = id then some { self.decodedHandler rawData with pointsClouds := [] }
      else self.lidarProcessHandlers[id]? := by
  rw [PubHandler.entered, PubHandler.taken, PubHandler.decodePacket]
  by_cases hid : rawData.id = id
  · simp [hid]
  · simp [Std.TreeMap.getElem?_insert, hid]

/-- **Projection of one packet.**  A synchronised packet is a step of its own
LiDAR's framing, and no step of any other. -/
theorem projection_rawDataProcess {self next : PubHandler R} {rawData : RawPacket} {now : Int}
    {frame : Option (PointFrame R)} (hnum : self.frame.lidarNum = 0)
    (h : self.rawDataProcess rawData true now = some (next, frame)) (id : UInt32)
    (frames : List (PointFrame R)) :
    SameSetup self next ∧
      projection id next (frames ++ frame.toList) =
        if rawData.id = id then
          ownStep self.config self.lidarExtrinsics[id]? (projection id self frames) rawData
        else projection id self frames := by
  cases hdue : PubHandler.cutDue self.config (self.decodedHandler rawData) with
  | false =>
    rw [PubHandler.rawDataProcess_keep now hnum hdue] at h
    cases h
    refine ⟨⟨rfl, rfl, hnum⟩, ?_⟩
    rcases eq_or_ne rawData.id id with rfl | hne
    · rw [if_pos rfl, ownStep, ← decodedHandler_eq self frames rawData, hdue]
      simp [projection, PubHandler.decodePacket, PubHandler.decodedHandler]
    · rw [if_neg hne]
      simp [projection, PubHandler.decodePacket, Std.TreeMap.getElem?_insert, hne]
  | true =>
    rw [PubHandler.rawDataProcess_cut now hnum hdue] at h
    cases h
    refine ⟨⟨rfl, rfl, rfl⟩, ?_⟩
    have hproj : projection id ((self.decodePacket rawData).entered rawData.id
        (self.decodedHandler rawData)).resetFrame
          (frames ++ [((self.decodePacket rawData).entered rawData.id
            (self.decodedHandler rawData)).frame]) =
        { handler := (if rawData.id = id then
              some { self.decodedHandler rawData with pointsClouds := [] }
            else self.lidarProcessHandlers[id]?).getD .fresh
          entries := entriesOf id frames ++ if rawData.id = id then
            [((self.decodedHandler rawData).getLidarBaseTime,
              (self.decodedHandler rawData).pointsClouds)]
            else [] } := by
      rw [← entriesOf_entered hnum, ← handlers_entered, ← entriesOf_append]
      rfl
    rw [Option.toList_some, hproj]
    rcases eq_or_ne rawData.id id with rfl | hne
    · rw [if_pos rfl, if_pos rfl, if_pos rfl, ownStep, ← decodedHandler_eq self frames rawData,
        if_pos hdue]
      rfl
    · rw [if_neg hne, if_neg hne, if_neg hne, List.append_nil]
      rfl

end Own

/-! ## The two threads -/

/-- The shared state and where the two threads are. -/
structure SyncSystem (R : Type) where
  isTimestampSync : Bool
  /-- The observer call that has stored the flag and not delivered its packet yet. -/
  observer : Option ObserverCall
  rawPacketQueue : List RawPacket
  /-- The packet the processing thread has taken from the queue. -/
  rawData : Option RawPacket
  self : PubHandler R
  /-- The frames handed to `points_callback_`. -/
  frames : List (PointFrame R)
  /-- What was handed to `imu_callback_`. -/
  imu : List (ImuData R)
  /-- The packets processed so far. -/
  processed : List RawPacket

/-- The steps of the two threads; a step that reads the host clock carries it. -/
inductive SyncLabel where
  /-- The observer is called and stores the flag. -/
  | store (call : ObserverCall)
  /-- The observer delivers its packet. -/
  | deliver (now : UInt64)
  /-- The processing thread takes a packet from the queue. -/
  | take
  /-- It decodes the packet and calls `CheckTimer`, which loads the flag. -/
  | process (now : Int)

section System

variable {R : Type} [Add R] [Sub R] [Mul R] [Div R] [Neg R] [IntCast R] [Trig R] [LivoxSdk]
  [ReadImu R]

def syncStep (s : SyncSystem R) : SyncLabel → Option (SyncSystem R)
  | .store call =>
    if s.observer.isSome then none
    else some { s with isTimestampSync := call.data.syncs, observer := some call }
  | .deliver now => do
    let call ← s.observer
    if call.IsImu then return { s with observer := none, imu := s.imu ++ [call.imuData now] }
    let packet ← call.rawPacket now
    return { s with observer := none, rawPacketQueue := s.rawPacketQueue ++ [packet] }
  | .take =>
    match s.rawData, s.rawPacketQueue with
    | none, packet :: rest => some { s with rawData := some packet, rawPacketQueue := rest }
    | _, _ => none
  | .process now => do
    let rawData ← s.rawData
    let (self, frame) ← s.self.rawDataProcess rawData s.isTimestampSync now
    return { s with
      rawData := none
      self := self
      frames := s.frames ++ frame.toList
      processed := s.processed ++ [rawData] }

/-- The system before the first packet, with the extrinsics of the configuration. -/
def SyncSystem.initial (config : PublishConfig)
    (lidarExtrinsics : Std.TreeMap UInt32 (LidarExtParameter R)) : SyncSystem R :=
  { isTimestampSync := false
    observer := none
    rawPacketQueue := []
    rawData := none
    self := { PubHandler.fresh config with lidarExtrinsics := lidarExtrinsics }
    frames := []
    imu := []
    processed := [] }

def syncMachine (config : PublishConfig)
    (lidarExtrinsics : Std.TreeMap UInt32 (LidarExtParameter R)) :
    Machine (SyncSystem R) SyncLabel :=
  .ofStep (.initial config lidarExtrinsics) syncStep

/-! ## Projecting a synchronised run -/

/-- The packets of a run, in the order of their observer calls. -/
def observed (labels : List SyncLabel) : List ObserverCall :=
  labels.filterMap fun
    | .store call => some call
    | _ => none

/-- The packet carries the time of a synchronised clock. -/
def EthernetPacket.TimeSynchronised (data : EthernetPacket) : Prop :=
  data.timeType = kTimestampTypeGptpOrPtp ∨ data.timeType = kTimestampTypeGps

instance (data : EthernetPacket) : Decidable data.TimeSynchronised :=
  inferInstanceAs (Decidable (_ ∨ _))

/-- The raw packet that a call puts into the queue, if it is not one of IMU data. -/
def ObserverCall.framedPacket (call : ObserverCall) : Option RawPacket :=
  if call.IsImu then none else call.rawPacket 0

/-- The raw packets of `id` among the calls. -/
def framedPackets (id : UInt32) (calls : List ObserverCall) : List RawPacket :=
  (calls.filter fun call => call.handle = id).filterMap ObserverCall.framedPacket

omit [Add R] [Sub R] [Mul R] [Div R] [Neg R] [IntCast R] [Trig R] [ReadImu R] in
theorem framedPackets_append (id : UInt32) (xs ys : List ObserverCall) :
    framedPackets id (xs ++ ys) = framedPackets id xs ++ framedPackets id ys := by
  simp [framedPackets]

omit [Add R] [Sub R] [Mul R] [Div R] [Neg R] [IntCast R] [Trig R] [ReadImu R] in
theorem framedPackets_singleton (id : UInt32) (call : ObserverCall) :
    framedPackets id [call] = if call.handle = id then call.framedPacket.toList else [] := by
  by_cases hid : call.handle = id
  · cases hframed : call.framedPacket with
    | none => simp [framedPackets, hid, hframed]
    | some packet => simp [framedPackets, hid, hframed]
  · simp [framedPackets, hid]

/-- A synchronised packet is the same whatever the host clock says. -/
theorem ObserverCall.rawPacket_eq {call : ObserverCall} (h : call.data.TimeSynchronised)
    (now : UInt64) : call.rawPacket now = call.rawPacket 0 := by
  have hstamp : ∀ t, getEthPacketTimestamp call.data.timeType call.data.timestamp t =
      call.data.timestamp := fun t => if_pos h
  simp only [ObserverCall.rawPacket, hstamp]

theorem ObserverCall.id_rawPacket {call : ObserverCall} {now : UInt64} {packet : RawPacket}
    (h : call.rawPacket now = some packet) : packet.id = call.handle := by
  unfold rawPacket at h
  simp only at h
  split at h
  · cases h
  · cases h
    rfl

/-- What holds along a synchronised run, seen from the LiDAR `id`. -/
structure SyncInv (config : PublishConfig)
    (lidarExtrinsics : Std.TreeMap UInt32 (LidarExtParameter R)) (id : UInt32)
    (labels : List SyncLabel) (s : SyncSystem R) : Prop where
  config_eq : s.self.config = config
  extrinsics_eq : s.self.lidarExtrinsics = lidarExtrinsics
  lidarNum : s.self.frame.lidarNum = 0
  flag : s.isTimestampSync = true ∨
    (s.observer = none ∧ s.rawData = none ∧ s.rawPacketQueue = [])
  observer : ∀ call ∈ s.observer, call.handle = id → call.data.TimeSynchronised
  projected : projection id s.self s.frames =
    ownFraming config lidarExtrinsics[id]? (s.processed.filter fun packet => packet.id = id)
  packets : framedPackets id (observed labels) =
    ((s.processed ++ s.rawData.toList ++ s.rawPacketQueue).filter fun packet => packet.id = id) ++
      framedPackets id s.observer.toList

section Invariant

variable {config : PublishConfig} {lidarExtrinsics : Std.TreeMap UInt32 (LidarExtParameter R)}
  {id : UInt32} {labels : List SyncLabel} {s t : SyncSystem R}

omit [ReadImu R] in
theorem SyncInv.initial :
    SyncInv config lidarExtrinsics id [] (.initial config lidarExtrinsics) where
  config_eq := rfl
  extrinsics_eq := rfl
  lidarNum := rfl
  flag := .inr ⟨rfl, rfl, rfl⟩
  observer := by simp [SyncSystem.initial]
  projected := by
    simp [projection, SyncSystem.initial, PubHandler.fresh, entriesOf, ownFraming]
  packets := rfl

omit [LivoxSdk] in
theorem observed_append (labels labels' : List SyncLabel) :
    observed (labels ++ labels') = observed labels ++ observed labels' := by
  rw [observed, List.filterMap_append]
  rfl

omit [ReadImu R] in
theorem SyncInv.store (h : SyncInv config lidarExtrinsics id labels s) (hidle : s.observer = none)
    {call : ObserverCall} (hsyncs : call.data.syncs = true)
    (htime : call.handle = id → call.data.TimeSynchronised) :
    SyncInv config lidarExtrinsics id (labels ++ [.store call])
      { s with isTimestampSync := call.data.syncs, observer := some call } where
  config_eq := h.config_eq
  extrinsics_eq := h.extrinsics_eq
  lidarNum := h.lidarNum
  flag := .inl hsyncs
  observer := by
    intro c hc
    cases hc
    exact htime
  projected := h.projected
  packets := by
    rw [observed_append, framedPackets_append, h.packets, hidle]
    simp [framedPackets, observed]

omit [ReadImu R] in
/-- The observer is done with a call; `delivered` is what it put into the queue. -/
theorem SyncInv.deliver (h : SyncInv config lidarExtrinsics id labels s) {call : ObserverCall}
    (hcall : s.observer = some call) {delivered : List RawPacket}
    (hdelivered : framedPackets id [call] = delivered.filter fun packet => packet.id = id)
    {now : UInt64} {imu : List (ImuData R)} :
    SyncInv config lidarExtrinsics id (labels ++ [.deliver now])
      { s with observer := none, imu := imu
               rawPacketQueue := s.rawPacketQueue ++ delivered } where
  config_eq := h.config_eq
  extrinsics_eq := h.extrinsics_eq
  lidarNum := h.lidarNum
  flag := .inl (h.flag.resolve_right (fun hidle => by rw [hidle.1] at hcall; cases hcall))
  observer := by simp
  projected := h.projected
  packets := by
    have hpackets := h.packets
    rw [hcall, Option.toList_some, hdelivered] at hpackets
    rw [observed_append, framedPackets_append, hpackets]
    simp [framedPackets, observed]

/-- The packet of a call, if it is not one of IMU data, is the one that is framed. -/
theorem framedPackets_of_rawPacket {call : ObserverCall} {now : UInt64} {packet : RawPacket}
    (himu : ¬ call.IsImu) (hpacket : call.rawPacket now = some packet)
    (htime : call.handle = id → call.data.TimeSynchronised) :
    framedPackets id [call] = [packet].filter fun packet => packet.id = id := by
  have hid := ObserverCall.id_rawPacket hpacket
  rw [framedPackets_singleton, ObserverCall.framedPacket, if_neg himu]
  by_cases hsame : call.handle = id
  · rw [if_pos hsame, ← ObserverCall.rawPacket_eq (htime hsame) now, hpacket]
    simp [hid, hsame]
  · rw [if_neg hsame]
    simp [hid, hsame]

omit [ReadImu R] in
theorem SyncInv.take (h : SyncInv config lidarExtrinsics id labels s) {packet : RawPacket}
    {rest : List RawPacket} (hidle : s.rawData = none)
    (hqueue : s.rawPacketQueue = packet :: rest) :
    SyncInv config lidarExtrinsics id (labels ++ [.take])
      { s with rawData := some packet, rawPacketQueue := rest } where
  config_eq := h.config_eq
  extrinsics_eq := h.extrinsics_eq
  lidarNum := h.lidarNum
  flag := .inl (h.flag.resolve_right (fun hidle => by rw [hidle.2.2] at hqueue; cases hqueue))
  observer := h.observer
  projected := h.projected
  packets := by
    rw [observed_append, framedPackets_append, h.packets, hidle, hqueue]
    simp [framedPackets, observed]

omit [ReadImu R] in
theorem SyncInv.process (h : SyncInv config lidarExtrinsics id labels s) {rawData : RawPacket}
    (hraw : s.rawData = some rawData) {now : Int} {next : PubHandler R}
    {frame : Option (PointFrame R)}
    (hprocess : s.self.rawDataProcess rawData s.isTimestampSync now = some (next, frame)) :
    SyncInv config lidarExtrinsics id (labels ++ [.process now])
      { s with
        rawData := none
        self := next
        frames := s.frames ++ frame.toList
        processed := s.processed ++ [rawData] } := by
  have hflag : s.isTimestampSync = true :=
    h.flag.resolve_right (fun hidle => by rw [hidle.2.1] at hraw; cases hraw)
  rw [hflag] at hprocess
  obtain ⟨hsame, hproj⟩ := projection_rawDataProcess h.lidarNum hprocess id s.frames
  refine
    { config_eq := hsame.config.trans h.config_eq
      extrinsics_eq := hsame.lidarExtrinsics.trans h.extrinsics_eq
      lidarNum := hsame.lidarNum
      flag := .inl hflag
      observer := h.observer
      projected := ?_
      packets := ?_ }
  · show projection id next (s.frames ++ frame.toList) = _
    rw [hproj, h.projected, h.config_eq, h.extrinsics_eq]
    by_cases hid : rawData.id = id
    · simp [hid, ownFraming]
    · simp [hid]
  · rw [observed_append, framedPackets_append, h.packets, hraw]
    simp [framedPackets, observed]

/-- Every step of a synchronised run keeps the invariant. -/
theorem SyncInv.step (h : SyncInv config lidarExtrinsics id labels s) {l : SyncLabel}
    (hstep : syncStep s l = some t)
    (hsyncs : ∀ call ∈ observed [l], call.data.syncs = true)
    (htime : ∀ call ∈ observed [l], call.handle = id → call.data.TimeSynchronised) :
    SyncInv config lidarExtrinsics id (labels ++ [l]) t := by
  cases l with
  | store call =>
    have hcall : call ∈ observed [.store call] := List.mem_singleton_self _
    simp only [syncStep] at hstep
    split at hstep
    · cases hstep
    · rename_i hnone
      cases hstep
      exact h.store (by simpa using hnone) (hsyncs call hcall) (htime call hcall)
  | deliver now =>
    obtain ⟨call, hcall, hstep⟩ := Option.bind_eq_some_iff.mp hstep
    by_cases himu : call.IsImu
    · rw [if_pos himu] at hstep
      cases hstep
      have hnothing : framedPackets id [call] = [].filter fun packet => packet.id = id := by
        rw [framedPackets_singleton, ObserverCall.framedPacket, if_pos himu]
        simp
      have hnext : SyncInv config lidarExtrinsics id (labels ++ [.deliver now])
          { s with observer := none, imu := s.imu ++ [call.imuData now]
                   rawPacketQueue := s.rawPacketQueue ++ [] } := h.deliver hcall hnothing
      rw [List.append_nil] at hnext
      exact hnext
    · rw [if_neg himu] at hstep
      obtain ⟨packet, hpacket, hstep⟩ := Option.bind_eq_some_iff.mp hstep
      cases hstep
      exact h.deliver hcall (framedPackets_of_rawPacket himu hpacket (h.observer call hcall))
  | take =>
    simp only [syncStep] at hstep
    split at hstep
    · rename_i packet rest hidle hqueue
      cases hstep
      exact h.take hidle hqueue
    · cases hstep
  | process now =>
    obtain ⟨rawData, hraw, hstep⟩ := Option.bind_eq_some_iff.mp hstep
    obtain ⟨⟨next, frame⟩, hprocess, hstep⟩ := Option.bind_eq_some_iff.mp hstep
    cases hstep
    exact h.process hraw hprocess

/-- The invariant along a whole run of synchronised packets. -/
theorem SyncInv.run (hrun : (syncMachine config lidarExtrinsics).Run
      (.initial config lidarExtrinsics) labels s)
    (hsyncs : ∀ call ∈ observed labels, call.data.syncs = true)
    (htime : ∀ call ∈ observed labels, call.handle = id → call.data.TimeSynchronised) :
    SyncInv config lidarExtrinsics id labels s := by
  induction hrun with
  | nil => exact .initial
  | @snoc t u labels l _ hlast ih =>
    rw [observed_append] at hsyncs htime
    have hinv := ih (fun c hc => hsyncs c (List.mem_append_left _ hc))
      (fun c hc => htime c (List.mem_append_left _ hc))
    exact hinv.step hlast (fun c hc => hsyncs c (List.mem_append_right _ hc))
      (fun c hc => htime c (List.mem_append_right _ hc))

end Invariant

/-- Every observed packet of `id` has been delivered and processed. -/
structure SyncSystem.Drained (s : SyncSystem R) (id : UInt32) : Prop where
  observer : ∀ call ∈ s.observer, call.handle ≠ id
  rawData : ∀ packet ∈ s.rawData, packet.id ≠ id
  rawPacketQueue : ∀ packet ∈ s.rawPacketQueue, packet.id ≠ id

omit [ReadImu R] in
/-- In a synchronised run that has processed its packets, the entries of a LiDAR are
those of its own framing, of its own packets. -/
theorem entriesOf_eq_ownFraming {config : PublishConfig}
    {lidarExtrinsics : Std.TreeMap UInt32 (LidarExtParameter R)} {id : UInt32}
    {labels : List SyncLabel} {s : SyncSystem R} (h : SyncInv config lidarExtrinsics id labels s)
    (hdrained : s.Drained id) :
    entriesOf id s.frames =
      (ownFraming config lidarExtrinsics[id]? (framedPackets id (observed labels))).entries := by
  have hobserver : framedPackets id s.observer.toList = [] := by
    have hnone : (s.observer.toList.filter fun call => call.handle = id) = [] := by
      rw [List.filter_eq_nil_iff]
      intro call hcall
      simpa using hdrained.observer call (Option.mem_toList.mp hcall)
    rw [framedPackets, hnone]
    rfl
  have hrawData : (s.rawData.toList.filter fun packet => packet.id = id) = [] := by
    rw [List.filter_eq_nil_iff]
    intro packet hpacket
    simpa using hdrained.rawData packet (Option.mem_toList.mp hpacket)
  have hqueue : (s.rawPacketQueue.filter fun packet => packet.id = id) = [] := by
    rw [List.filter_eq_nil_iff]
    intro packet hpacket
    simpa using hdrained.rawPacketQueue packet hpacket
  have hpackets := h.packets
  rw [List.filter_append, List.filter_append, hobserver, hrawData, hqueue, List.append_nil,
    List.append_nil, List.append_nil] at hpackets
  rw [hpackets, ← h.projected]
  rfl

/-- **Synchronised LiDARs do not disturb each other's framing.**  Take two runs
with the same publish configuration and the same extrinsic of `id`, in which all
packets, of IMU data too, are time-synchronised.  If they contain the same
packets of `id` in the same order, and these have been processed, then the
entries handed over for `id` are the same, whatever the other LiDARs have sent
and however the threads have interleaved. -/
theorem synced_framing_independent {config : PublishConfig}
    {lidarExtrinsics lidarExtrinsics' : Std.TreeMap UInt32 (LidarExtParameter R)} {id : UInt32}
    (hextrinsic : lidarExtrinsics[id]? = lidarExtrinsics'[id]?)
    {labels labels' : List SyncLabel} {s s' : SyncSystem R}
    (hrun : (syncMachine config lidarExtrinsics).Run (.initial config lidarExtrinsics) labels s)
    (hrun' : (syncMachine config lidarExtrinsics').Run (.initial config lidarExtrinsics') labels' s')
    (hsame : (observed labels).filter (fun call => call.handle = id) =
      (observed labels').filter fun call => call.handle = id)
    (htime : ∀ call ∈ observed labels, call.handle = id → call.data.TimeSynchronised)
    (hsyncs : ∀ call ∈ observed labels, call.data.syncs = true)
    (hsyncs' : ∀ call ∈ observed labels', call.data.syncs = true)
    (hdrained : s.Drained id) (hdrained' : s'.Drained id) :
    entriesOf id s.frames = entriesOf id s'.frames := by
  have htime' : ∀ call ∈ observed labels', call.handle = id → call.data.TimeSynchronised := by
    intro call hcall hid
    have hmem : call ∈ (observed labels').filter fun call => call.handle = id :=
      List.mem_filter.mpr ⟨hcall, by simpa using hid⟩
    rw [← hsame] at hmem
    exact htime call (List.mem_filter.mp hmem).1 hid
  have hinv := SyncInv.run hrun hsyncs htime
  have hinv' := SyncInv.run hrun' hsyncs' htime'
  have hpackets : framedPackets id (observed labels) = framedPackets id (observed labels') := by
    rw [framedPackets, framedPackets, hsame]
  rw [entriesOf_eq_ownFraming hinv hdrained, entriesOf_eq_ownFraming hinv' hdrained', hpackets,
    hextrinsic]

end System

/-! ### Two LiDARs, with and without synchronisation -/

/-- A call with one high-resolution point. -/
def pointCall (handle : UInt32) (timeType : UInt8) (timestamp : UInt64) : ObserverCall where
  handle := handle
  devType := 9
  data :=
    { length := 50, timeInterval := 0, dotNum := 1, dataType := 1, timeType := timeType
      timestamp := timestamp, data := List.replicate 14 0 }

/-- LiDAR 1 completes an interval. -/
def aloneLabels : List SyncLabel :=
  [.store (pointCall 1 kTimestampTypeGptpOrPtp 100000000), .deliver 0, .take, .process 0,
    .store (pointCall 1 kTimestampTypeGptpOrPtp 200000000), .deliver 0, .take, .process 0]

/-- The same packets with one of LiDAR 2, whose observer call comes between two
steps of the processing thread. -/
def accompaniedLabels : List SyncLabel :=
  [.store (pointCall 1 kTimestampTypeGptpOrPtp 100000000), .deliver 0, .take,
    .store (pointCall 2 kTimestampTypeGps 100000000), .process 7, .deliver 0,
    .store (pointCall 1 kTimestampTypeGptpOrPtp 200000000), .take, .process 8, .deliver 0,
    .take, .process 9]

/-- The state a list of steps leads to, with the default configuration. -/
def runLabels (labels : List SyncLabel) : Option (SyncSystem Float) :=
  labels.foldlM syncStep (.initial .initial ∅)

theorem run_runLabels {labels : List SyncLabel} (h : (runLabels labels).isSome = true) :
    (syncMachine .initial ∅).Run (.initial .initial ∅) labels ((runLabels labels).get h) :=
  Machine.run_ofStep (Option.some_get h).symm

theorem synced_framing_independent_pair :
    entriesOf 1 ((runLabels aloneLabels).get (by decide)).frames =
      entriesOf 1 ((runLabels accompaniedLabels).get (by decide)).frames :=
  synced_framing_independent rfl (run_runLabels (by decide)) (run_runLabels (by decide)) rfl
    (by decide) (by decide) (by decide) ⟨by decide, by decide, by decide⟩
    ⟨by decide, by decide, by decide⟩

/-- One packet of LiDAR 1 that does not complete an interval. -/
def pendingLabels : List SyncLabel :=
  [.store (pointCall 1 kTimestampTypeGptpOrPtp 1050000000), .deliver 0, .take, .process 0]

/-- The same packet, followed by two packets of an unsynchronised LiDAR. -/
def disturbedLabels : List SyncLabel :=
  pendingLabels ++
    [.store (pointCall 2 kTimestampTypeNoSync 0), .deliver 0, .take, .process 0,
      .store (pointCall 2 kTimestampTypeNoSync 0), .deliver 0, .take, .process 100000000]

/-- An unsynchronised LiDAR makes `CheckTimer` hand over the pending points of a
synchronised one. -/
theorem unsynced_lidar_disturbs_framing :
    ∃ s s' : SyncSystem Float,
      (syncMachine .initial ∅).Run (.initial .initial ∅) pendingLabels s ∧
      (syncMachine .initial ∅).Run (.initial .initial ∅) disturbedLabels s' ∧
      (observed pendingLabels).filter (fun call => call.handle = 1) =
        (observed disturbedLabels).filter (fun call => call.handle = 1) ∧
      (∀ call ∈ observed pendingLabels, call.handle = 1 → call.data.TimeSynchronised) ∧
      s.Drained 1 ∧ s'.Drained 1 ∧ entriesOf 1 s.frames ≠ entriesOf 1 s'.frames := by
  refine ⟨_, _, run_runLabels (by decide), run_runLabels (by decide), rfl, by decide,
    ⟨by decide, by decide, by decide⟩, ⟨by decide, by decide, by decide⟩, ?_⟩
  intro h
  have hlength := congrArg List.length h
  exact absurd hlength (by decide)

end RoboRacer.Driver
