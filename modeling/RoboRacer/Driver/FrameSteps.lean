/-
  Driver/FrameSteps.lean --- what each step of the framing logic does.

  While the frame has room, the steps of `CheckTimer` cannot fault, and their
  results are the total functions `taken` (a buffer is swapped out) and
  `entered` (and becomes a frame entry).  Everything later modules know about
  `CheckTimer` goes through the equations of this file.
-/
import RoboRacer.Driver.PubHandler

set_option autoImplicit false

namespace RoboRacer.Driver

variable {R : Type}

/-! ## Frames -/

/-- An entry as the consumers of a frame expect it: not empty, of the Livox
type, with the base time of its first point and the 32-bit count of its points. -/
structure EntryOk (entry : UInt64 × PointPacket R) : Prop where
  nonempty : entry.2.points ≠ []
  baseTime : entry.2.points.head?.map (·.offsetTime) = some entry.1
  pointsNum : entry.2.pointsNum = UInt32.ofNat entry.2.points.length
  lidarType : entry.2.lidarType = LidarProtoType.kLivoxLidarType.code

namespace PointFrame

@[simp] theorem lidarNum_withBaseTime (frame : PointFrame R) (t : UInt64) :
    (frame.withBaseTime t).lidarNum = frame.lidarNum := rfl

/-- The base time is written behind the entries in use. -/
@[simp] theorem entries_withBaseTime (frame : PointFrame R) (t : UInt64) :
    (frame.withBaseTime t).entries = frame.entries := by
  simp [entries, withBaseTime, List.take_set_of_le]

theorem entries_eq_nil {frame : PointFrame R} (h : frame.lidarNum = 0) : frame.entries = [] := by
  simp [entries, h]

@[simp] theorem entries_resetLidarNum (frame : PointFrame R) :
    frame.resetLidarNum.entries = [] := entries_eq_nil rfl

theorem setBaseTime_eq {frame : PointFrame R} (h : frame.lidarNum.toNat < kMaxSourceLidar)
    (t : UInt64) : frame.setBaseTime t = some (frame.withBaseTime t) := by
  simp [setBaseTime, h]

theorem pushLidarPoint_eq {frame : PointFrame R} (h : frame.lidarNum.toNat < kMaxSourceLidar)
    (p : PointPacket R) : frame.pushLidarPoint p = some (frame.withLidarPoint p) := by
  simp [pushLidarPoint, h]

theorem toNat_lidarNum_withLidarPoint {frame : PointFrame R}
    (h : frame.lidarNum.toNat < kMaxSourceLidar) (p : PointPacket R) :
    (frame.withLidarPoint p).lidarNum.toNat = frame.lidarNum.toNat + 1 := by
  unfold kMaxSourceLidar at h
  have hsum : frame.lidarNum.toNat + 1 < 256 := by omega
  simpa [withLidarPoint, UInt8.toNat_add] using hsum

theorem take_succ_set {α : Type} {l : List α} {n : Nat} (h : n < l.length) (a : α) :
    (l.set n a).take (n + 1) = l.take n ++ [a] := by
  rw [List.take_succ_eq_append_getElem (by simpa using h)]
  simp [List.take_set_of_le]

/-- Writing both halves of the next entry appends it to the entries in use. -/
theorem entries_push {frame : PointFrame R} (h : frame.lidarNum.toNat < kMaxSourceLidar)
    (t : UInt64) (p : PointPacket R) :
    ((frame.withBaseTime t).withLidarPoint p).entries = frame.entries ++ [(t, p)] := by
  have hnum : ((frame.withBaseTime t).withLidarPoint p).lidarNum.toNat =
      (frame.withBaseTime t).lidarNum.toNat + 1 := toNat_lidarNum_withLidarPoint h p
  have hbase : frame.lidarNum.toNat < frame.baseTime.length := by
    rw [frame.length_baseTime]; exact h
  have hpoint : frame.lidarNum.toNat < frame.lidarPoint.length := by
    rw [frame.length_lidarPoint]; exact h
  unfold entries
  rw [hnum, lidarNum_withBaseTime]
  change ((frame.baseTime.set frame.lidarNum.toNat t).take (frame.lidarNum.toNat + 1)).zip
      ((frame.lidarPoint.set frame.lidarNum.toNat p).take (frame.lidarNum.toNat + 1)) = _
  rw [take_succ_set hbase, take_succ_set hpoint, List.zip_append (by simp; omega)]
  rfl

end PointFrame

/-! ## The steps of `CheckTimer` -/

namespace PubHandler

/-- The points still pending in the buffer of `id`. -/
def pendingAt (self : PubHandler R) (id : UInt32) : List (PointXyzlt R) :=
  match self.lidarProcessHandlers[id]? with
  | none => []
  | some handler => handler.pointsClouds

theorem pendingAt_eq {self : PubHandler R} {id : UInt32} {handler : LidarPubHandler R}
    (h : self.lidarProcessHandlers[id]? = some handler) :
    self.pendingAt id = handler.pointsClouds := by
  simp [pendingAt, h]

@[simp] theorem pendingAt_resetFrame (self : PubHandler R) :
    self.resetFrame.pendingAt = self.pendingAt := rfl

/-- The state after `takePoints`. -/
def taken (self : PubHandler R) (id : UInt32) (handler : LidarPubHandler R) : PubHandler R :=
  { self with
    frame := self.frame.withBaseTime handler.getLidarBaseTime
    points := (self.points.insert id []).insert id handler.pointsClouds
    lidarProcessHandlers :=
      self.lidarProcessHandlers.insert id { handler with pointsClouds := [] } }

theorem takePoints_eq {self : PubHandler R} (h : self.frame.lidarNum.toNat < kMaxSourceLidar)
    (id : UInt32) (handler : LidarPubHandler R) :
    self.takePoints id handler = some (self.taken id handler) := by
  unfold takePoints
  rw [PointFrame.setBaseTime_eq h]
  rfl

@[simp] theorem pointsAt_taken (self : PubHandler R) (id : UInt32)
    (handler : LidarPubHandler R) : (self.taken id handler).pointsAt id = handler.pointsClouds := by
  simp [pointsAt, taken]

/-- Taking the points of a LiDAR empties its buffer and no other. -/
@[simp] theorem pendingAt_taken (self : PubHandler R) (id : UInt32)
    (handler : LidarPubHandler R) :
    (self.taken id handler).pendingAt = Function.update self.pendingAt id [] := by
  funext key
  rcases eq_or_ne key id with rfl | hne
  · simp [pendingAt, taken]
  · simp [pendingAt, taken, Function.update_of_ne hne, Std.TreeMap.getElem?_insert,
      hne.symm]

section DecodePacket

variable [Add R] [Sub R] [Mul R] [Div R] [Neg R] [IntCast R] [Trig R] [LivoxSdk]

omit [LivoxSdk] in
/-- `SetLidarsExtParam` leaves the buffer alone. -/
theorem pointsClouds_handlerFor (self : PubHandler R) (id : UInt32) :
    (self.handlerFor id).pointsClouds = self.pendingAt id := by
  have hbase : ((self.lidarProcessHandlers[id]?).getD .fresh).pointsClouds =
      self.pendingAt id := by
    unfold pendingAt
    cases self.lidarProcessHandlers[id]? with
    | none => rfl
    | some handler => rfl
  unfold handlerFor
  cases self.lidarExtrinsics[id]? with
  | none => exact hbase
  | some lidarParam =>
    simp only [LidarPubHandler.setLidarsExtParam]
    split
    · exact hbase
    · exact hbase

theorem getElem?_decodePacket (self : PubHandler R) (rawData : RawPacket) :
    (self.decodePacket rawData).lidarProcessHandlers[rawData.id]? =
      some ((self.handlerFor rawData.id).pointCloudProcess rawData) := by
  simp [decodePacket]

/-- Decoding appends to the buffer of the packet's LiDAR and to no other. -/
theorem pendingAt_decodePacket (self : PubHandler R) (rawData : RawPacket) :
    (self.decodePacket rawData).pendingAt =
      Function.update self.pendingAt rawData.id
        (self.pendingAt rawData.id ++
          decodePoints (self.handlerFor rawData.id).extrinsic rawData) := by
  funext key
  rcases eq_or_ne key rawData.id with rfl | hne
  · rw [pendingAt_eq (getElem?_decodePacket self rawData), Function.update_self,
      LidarPubHandler.pointCloudProcess, pointsClouds_handlerFor]
  · simp [pendingAt, decodePacket, Function.update_of_ne hne, Std.TreeMap.getElem?_insert,
      hne.symm]

end DecodePacket

/-- The state after an entry for `id` has been appended to the frame. -/
def entered (self : PubHandler R) (id : UInt32) (handler : LidarPubHandler R) : PubHandler R :=
  { self.taken id handler with
    frame := (self.taken id handler).frame.withLidarPoint (lidarPoint id handler.pointsClouds) }

theorem addLidarPoint_taken {self : PubHandler R}
    (h : self.frame.lidarNum.toNat < kMaxSourceLidar) (id : UInt32)
    (handler : LidarPubHandler R) :
    (self.taken id handler).addLidarPoint id = some (self.entered id handler) := by
  have hroom : (self.taken id handler).frame.lidarNum.toNat < kMaxSourceLidar := h
  unfold addLidarPoint
  rw [pointsAt_taken, PointFrame.pushLidarPoint_eq hroom]
  rfl

@[simp] theorem pendingAt_entered (self : PubHandler R) (id : UInt32)
    (handler : LidarPubHandler R) :
    (self.entered id handler).pendingAt = Function.update self.pendingAt id [] :=
  pendingAt_taken self id handler

theorem entries_entered {self : PubHandler R}
    (h : self.frame.lidarNum.toNat < kMaxSourceLidar) (id : UInt32)
    (handler : LidarPubHandler R) :
    (self.entered id handler).frame.entries =
      self.frame.entries ++ [(handler.getLidarBaseTime, lidarPoint id handler.pointsClouds)] :=
  PointFrame.entries_push h _ _

theorem toNat_lidarNum_entered {self : PubHandler R}
    (h : self.frame.lidarNum.toNat < kMaxSourceLidar) (id : UInt32)
    (handler : LidarPubHandler R) :
    (self.entered id handler).frame.lidarNum.toNat = self.frame.lidarNum.toNat + 1 :=
  PointFrame.toNat_lidarNum_withLidarPoint h (lidarPoint id handler.pointsClouds)

/-- The base time read before the swap is the one of the first point. -/
theorem entryOk_lidarPoint {handler : LidarPubHandler R} (h : handler.pointsClouds ≠ [])
    (id : UInt32) : EntryOk (handler.getLidarBaseTime, lidarPoint id handler.pointsClouds) := by
  obtain ⟨point, rest, hcons⟩ := List.exists_cons_of_ne_nil h
  refine ⟨h, ?_, rfl, rfl⟩
  simp [lidarPoint, LidarPubHandler.getLidarBaseTime, hcons]

/-- One pass of the loop over all handlers. -/
theorem flushHandler_eq {self : PubHandler R} {handle : UInt32} {handler : LidarPubHandler R}
    (hroom : self.frame.lidarNum.toNat < kMaxSourceLidar)
    (hget : self.lidarProcessHandlers[handle]? = some handler) :
    self.flushHandler handle =
      some (if handler.pointsClouds.isEmpty then self.taken handle handler
        else self.entered handle handler) := by
  simp only [flushHandler, hget, takePoints_eq hroom, Option.bind_eq_bind, Option.bind_some,
    pointsAt_taken]
  split
  · rfl
  · exact addLidarPoint_taken hroom handle handler

/-- `CheckTimer` in the synchronised branch: a due buffer becomes a frame of one
entry, and nothing happens otherwise. -/
theorem checkTimerSynced_eq {self : PubHandler R} {id : UInt32} {handler : LidarPubHandler R}
    (hnum : self.frame.lidarNum = 0)
    (hget : self.lidarProcessHandlers[id]? = some handler) :
    self.checkTimerSynced id = some
      (if cutDue self.config handler then
        if handler.pointsClouds.isEmpty then (self.taken id handler, none)
        else ((self.entered id handler).resetFrame, some (self.entered id handler).frame)
      else (self, none)) := by
  have hroom : self.frame.lidarNum.toNat < kMaxSourceLidar := by
    rw [hnum]; decide
  have hone : (self.entered id handler).frame.lidarNum ≠ 0 := by
    intro hzero
    have hsucc := toNat_lidarNum_entered hroom id handler
    rw [hzero] at hsucc
    exact absurd hsucc (Nat.succ_ne_zero _).symm
  simp only [checkTimerSynced, hget, Option.bind_eq_bind, Option.bind_some]
  split
  · rw [takePoints_eq hroom, Option.bind_some, pointsAt_taken]
    split
    · rfl
    · rw [addLidarPoint_taken hroom, Option.bind_some, if_pos hone]
      rfl
  · rfl

/-- A buffer without points is never due: its recent time is 0. -/
theorem cutDue_nil {config : PublishConfig} {handler : LidarPubHandler R}
    (h : handler.pointsClouds = []) : cutDue config handler = false := by
  have hzero : handler.getRecentTimeStamp = 0 := by
    rw [LidarPubHandler.getRecentTimeStamp, h]
    rfl
  simp [cutDue, hzero, kRatioOfMsToNs]

section RawDataProcess

variable [Add R] [Sub R] [Mul R] [Div R] [Neg R] [IntCast R] [Trig R] [LivoxSdk]

/-- The handler of a packet's LiDAR once the packet is decoded. -/
def decodedHandler (self : PubHandler R) (rawData : RawPacket) : LidarPubHandler R :=
  (self.handlerFor rawData.id).pointCloudProcess rawData

theorem pointsClouds_decodedHandler (self : PubHandler R) (rawData : RawPacket) :
    (self.decodedHandler rawData).pointsClouds =
      self.pendingAt rawData.id ++
        decodePoints (self.handlerFor rawData.id).extrinsic rawData := by
  rw [decodedHandler, LidarPubHandler.pointCloudProcess, pointsClouds_handlerFor]

/-- A packet that does not complete an interval only fills the buffer. -/
theorem rawDataProcess_keep {self : PubHandler R} {rawData : RawPacket} (now : Int)
    (hnum : self.frame.lidarNum = 0)
    (hdue : cutDue self.config (self.decodedHandler rawData) = false) :
    self.rawDataProcess rawData true now = some (self.decodePacket rawData, none) := by
  have hnum' : (self.decodePacket rawData).frame.lidarNum = 0 := hnum
  have hdue' : ¬ cutDue (self.decodePacket rawData).config
      (self.decodedHandler rawData) = true := by
    rw [Bool.not_eq_true]
    exact hdue
  rw [rawDataProcess, checkTimer, if_pos rfl,
    checkTimerSynced_eq hnum' (getElem?_decodePacket self rawData)]
  exact congrArg some (if_neg hdue')

/-- A packet that completes an interval is handed over with all that is pending. -/
theorem rawDataProcess_cut {self : PubHandler R} {rawData : RawPacket} (now : Int)
    (hnum : self.frame.lidarNum = 0)
    (hdue : cutDue self.config (self.decodedHandler rawData) = true) :
    self.rawDataProcess rawData true now =
      some (((self.decodePacket rawData).entered rawData.id
          (self.decodedHandler rawData)).resetFrame,
        some ((self.decodePacket rawData).entered rawData.id
          (self.decodedHandler rawData)).frame) := by
  have hnum' : (self.decodePacket rawData).frame.lidarNum = 0 := hnum
  have hdue' : cutDue (self.decodePacket rawData).config (self.decodedHandler rawData) = true :=
    hdue
  have hne' : ¬ (self.decodedHandler rawData).pointsClouds.isEmpty = true := by
    rw [List.isEmpty_iff]
    intro hnil
    rw [cutDue_nil hnil] at hdue
    cases hdue
  rw [rawDataProcess, checkTimer, if_pos rfl,
    checkTimerSynced_eq hnum' (getElem?_decodePacket self rawData)]
  exact congrArg some ((if_pos hdue').trans (if_neg hne'))

/-- The frame of a packet that completes an interval has one entry. -/
theorem entries_cut {self : PubHandler R} (hnum : self.frame.lidarNum = 0) (rawData : RawPacket) :
    ((self.decodePacket rawData).entered rawData.id (self.decodedHandler rawData)).frame.entries =
      [((self.decodedHandler rawData).getLidarBaseTime,
        lidarPoint rawData.id (self.decodedHandler rawData).pointsClouds)] := by
  have hnum' : (self.decodePacket rawData).frame.lidarNum = 0 := hnum
  have hroom : (self.decodePacket rawData).frame.lidarNum.toNat < kMaxSourceLidar := by
    rw [hnum']
    decide
  rw [entries_entered hroom, PointFrame.entries_eq_nil hnum', List.nil_append]

end RawDataProcess

end PubHandler

end RoboRacer.Driver
