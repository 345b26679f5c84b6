/-
  Driver/Framing.lean --- runs of the framing logic conserve points.

  A run feeds raw packets to `RawDataProcess`, in any order and from any
  LiDARs, with any value of the synchronisation flag and any clock reading at
  each of them, while extrinsics are added and cleared.  Seen through
  `keyedView`, decoding a packet is one `receive` of the keyed store of
  `Foundation/KeyedStreams.lean`, and every entry that enters a frame is one
  `handOver`: the conservation law is the law of that store.
-/
import RoboRacer.Driver.FrameSteps
import RoboRacer.Driver.SdkLayout
import RoboRacer.Foundation.KeyedStreams

set_option autoImplicit false

namespace RoboRacer.Driver

open RoboRacer.Foundation

variable {R : Type}

/-! ## Runs -/

/-- What the processing thread meets: packets from its queue, and changes of the
extrinsics. -/
inductive PubEvent (R : Type) where
  /-- A packet, with the flag `CheckTimer` loads and the time it reads. -/
  | packet (rawData : RawPacket) (isTimestampSync : Bool) (now : Int)
  | addLidarsExtParam (lidarParam : LidarExtParameter R)
  | clearAllLidarsExtrinsicParams

/-- The handler with its history. -/
structure FramingRun (R : Type) where
  self : PubHandler R
  /-- The frames handed to `points_callback_`, oldest first. -/
  frames : List (PointFrame R)
  /-- The points each packet decoded to, under the id of its LiDAR. -/
  decoded : List (UInt32 × List (PointXyzlt R))

namespace FramingRun

def start (config : PublishConfig) : FramingRun R :=
  { self := .fresh config, frames := [], decoded := [] }

section Step

variable [Add R] [Sub R] [Mul R] [Div R] [Neg R] [IntCast R] [Trig R] [LivoxSdk]

/-- One event.  `none` is an access outside the frame or through a null handler. -/
def step (run : FramingRun R) : PubEvent R → Option (FramingRun R)
  | .packet rawData isTimestampSync now => do
    let (self, frame) ← run.self.rawDataProcess rawData isTimestampSync now
    return {
      self := self
      frames := run.frames ++ frame.toList
      decoded := run.decoded ++
        [(rawData.id, decodePoints (run.self.handlerFor rawData.id).extrinsic rawData)] }
  | .addLidarsExtParam lidarParam =>
    some { run with self := run.self.addLidarsExtParam lidarParam }
  | .clearAllLidarsExtrinsicParams =>
    some { run with self := run.self.clearAllLidarsExtrinsicParams }

theorem step_packet {run : FramingRun R} {rawData : RawPacket} {isTimestampSync : Bool}
    {now : Int} {self : PubHandler R} {frame : Option (PointFrame R)}
    (h : run.self.rawDataProcess rawData isTimestampSync now = some (self, frame)) :
    run.step (.packet rawData isTimestampSync now) = some {
      self := self
      frames := run.frames ++ frame.toList
      decoded := run.decoded ++
        [(rawData.id, decodePoints (run.self.handlerFor rawData.id).extrinsic rawData)] } := by
  simp [step, h]

def steps (run : FramingRun R) (events : List (PubEvent R)) : Option (FramingRun R) :=
  events.foldlM step run

theorem steps_concat {run last next : FramingRun R} {events : List (PubEvent R)}
    {event : PubEvent R} (h : run.steps events = some last) (hlast : last.step event = some next) :
    run.steps (events ++ [event]) = some next := by
  rw [steps] at h ⊢
  rw [List.foldlM_append, h]
  simp [hlast]

/-- A packet's points are recorded under the id of its LiDAR. -/
theorem decoded_of_step {run next : FramingRun R} {rawData : RawPacket} {isTimestampSync : Bool}
    {now : Int} (h : run.step (.packet rawData isTimestampSync now) = some next) :
    next.decoded = run.decoded ++
      [(rawData.id, decodePoints (run.self.handlerFor rawData.id).extrinsic rawData)] := by
  obtain ⟨result, _, hnext⟩ := Option.bind_eq_some_iff.mp h
  cases hnext
  rfl

/-- The first event of a run. -/
theorem exists_of_steps_cons {run next : FramingRun R} {events : List (PubEvent R)}
    {event : PubEvent R} (h : run.steps (event :: events) = some next) :
    ∃ first, run.step event = some first ∧ first.steps events = some next := by
  rw [steps, List.foldlM_cons] at h
  exact Option.bind_eq_some_iff.mp h

/-- The last event of a run. -/
theorem exists_of_steps_concat {run next : FramingRun R} {events : List (PubEvent R)}
    {event : PubEvent R} (h : run.steps (events ++ [event]) = some next) :
    ∃ last, run.steps events = some last ∧ last.step event = some next := by
  rw [steps, List.foldlM_append] at h
  obtain ⟨last, hlast, hnext⟩ := Option.bind_eq_some_iff.mp h
  exact ⟨last, hlast, by simpa using hnext⟩

end Step

end FramingRun

/-- The LiDAR whose packet the event is, if it is one. -/
def PubEvent.ids : PubEvent R → List UInt32
  | .packet rawData _ _ => [rawData.id]
  | _ => []

/-- The event is not a packet met with the synchronisation flag down. -/
def PubEvent.Synced : PubEvent R → Prop
  | .packet _ isTimestampSync _ => isTimestampSync = true
  | _ => True

/-! ## The keyed view -/

/-- The batches of a frame: each entry's handle and points. -/
def PointFrame.batches (frame : PointFrame R) : List (UInt32 × List (PointXyzlt R)) :=
  frame.entries.map fun entry => (entry.2.handle, entry.2.points)

/-- All batches handed over for `id`, as one list of points. -/
def handedPoints (frames : List (PointFrame R)) (id : UInt32) : List (PointXyzlt R) :=
  stream id (frames.flatMap PointFrame.batches)

/-- The handler, its published frames and the decoded points as a keyed store.
The frame under construction counts as handed over. -/
def keyedView (decoded : List (UInt32 × List (PointXyzlt R))) (frames : List (PointFrame R))
    (self : PubHandler R) : Keyed UInt32 (PointXyzlt R) :=
  { pending := self.pendingAt
    received := decoded
    handed := (frames ++ [self.frame]).flatMap PointFrame.batches }

variable {decoded : List (UInt32 × List (PointXyzlt R))} {frames : List (PointFrame R)}

/-- Publishing the frame and resetting `lidar_num` moves nothing. -/
theorem keyedView_publish (self : PubHandler R) :
    keyedView decoded (frames ++ [self.frame]) self.resetFrame = keyedView decoded frames self := by
  have hframe : self.resetFrame.frame.batches = [] := by
    simp [PubHandler.resetFrame, PointFrame.batches]
  simp [keyedView, hframe]

/-- Swapping out an empty buffer moves nothing. -/
theorem keyedView_taken {self : PubHandler R} {id : UInt32} {handler : LidarPubHandler R}
    (hget : self.lidarProcessHandlers[id]? = some handler) (hempty : handler.pointsClouds = []) :
    keyedView decoded frames (self.taken id handler) = keyedView decoded frames self := by
  have hpending : self.pendingAt id = [] := by
    rw [PubHandler.pendingAt_eq hget, hempty]
  simp only [keyedView, PubHandler.pendingAt_taken, Keyed.mk.injEq, true_and,
    List.flatMap_append, List.append_cancel_left_eq]
  refine ⟨?_, ?_⟩
  · rw [← hpending, Function.update_eq_self]
  · simp [PointFrame.batches, PubHandler.taken]

/-- A new entry of the frame is one `handOver`. -/
theorem keyedView_entered {self : PubHandler R} {id : UInt32} {handler : LidarPubHandler R}
    (hroom : self.frame.lidarNum.toNat < kMaxSourceLidar)
    (hget : self.lidarProcessHandlers[id]? = some handler) (hne : handler.pointsClouds ≠ []) :
    Keyed.machine.Step (keyedView decoded frames self) (.handOver id)
      (keyedView decoded frames (self.entered id handler)) := by
  have hpending := PubHandler.pendingAt_eq hget
  have hview : keyedView decoded frames (self.entered id handler) =
      { keyedView decoded frames self with
        pending := Function.update self.pendingAt id []
        handed := (keyedView decoded frames self).handed ++ [(id, self.pendingAt id)] } := by
    simp [keyedView, PointFrame.batches, PubHandler.entries_entered hroom,
      PubHandler.lidarPoint, hpending]
  rw [hview]
  apply Keyed.Step.handOver
  change self.pendingAt id ≠ []
  rw [hpending]
  exact hne

/-- Decoding a packet is one `receive`. -/
theorem keyedView_decodePacket [Add R] [Sub R] [Mul R] [Div R] [Neg R] [IntCast R] [Trig R]
    [LivoxSdk] (self : PubHandler R) (rawData : RawPacket) :
    Keyed.machine.Step (keyedView decoded frames self)
      (.receive rawData.id (decodePoints (self.handlerFor rawData.id).extrinsic rawData))
      (keyedView
        (decoded ++ [(rawData.id, decodePoints (self.handlerFor rawData.id).extrinsic rawData)])
        frames (self.decodePacket rawData)) := by
  have hview := PubHandler.pendingAt_decodePacket self rawData
  simp only [keyedView, hview]
  exact Keyed.Step.receive

/-! ## The loop over all handlers -/

/-- What the loop keeps, and how it is seen: a run of `handOver`s. -/
structure Flushed (decoded : List (UInt32 × List (PointXyzlt R))) (frames : List (PointFrame R))
    (start result : PubHandler R) : Prop where
  view : ∃ ops, Keyed.machine.Run (keyedView decoded frames start) ops
    (keyedView decoded frames result)
  entriesOk : (∀ entry ∈ start.frame.entries, EntryOk entry) →
    ∀ entry ∈ result.frame.entries, EntryOk entry
  mem_iff : ∀ id, id ∈ result.lidarProcessHandlers ↔ id ∈ start.lidarProcessHandlers

theorem Flushed.refl (self : PubHandler R) : Flushed decoded frames self self :=
  ⟨⟨[], .nil _⟩, fun h => h, fun _ => Iff.rfl⟩

/-- One pass of the loop followed by the rest of it. -/
theorem Flushed.trans {a b c : PubHandler R} (hab : Flushed decoded frames a b)
    (hbc : Flushed decoded frames b c) : Flushed decoded frames a c := by
  obtain ⟨ops, hrun⟩ := hab.view
  obtain ⟨ops', hrun'⟩ := hbc.view
  refine ⟨⟨ops ++ ops', hrun.append hrun'⟩, fun h => hbc.entriesOk (hab.entriesOk h), ?_⟩
  intro id
  rw [hbc.mem_iff, hab.mem_iff]

/-- Taking one LiDAR's buffer, empty or not, is such a pass. -/
theorem flushHandler_spec {self : PubHandler R} {handle : UInt32}
    (hroom : self.frame.lidarNum.toNat < kMaxSourceLidar)
    (hmem : handle ∈ self.lidarProcessHandlers) :
    ∃ result, self.flushHandler handle = some result ∧ Flushed decoded frames self result ∧
      result.frame.lidarNum.toNat ≤ self.frame.lidarNum.toNat + 1 := by
  obtain ⟨handler, hget⟩ := Option.isSome_iff_exists.mp
    (Std.TreeMap.isSome_getElem?_iff_mem.mpr hmem)
  have hkeys : ∀ id, id ∈ (self.taken handle handler).lidarProcessHandlers ↔
      id ∈ self.lidarProcessHandlers := by
    intro id
    rw [PubHandler.taken, Std.TreeMap.mem_insert]
    constructor
    · rintro (heq | h)
      · rwa [← Std.LawfulEqOrd.eq_of_compare heq]
      · exact h
    · exact Or.inr
  rw [PubHandler.flushHandler_eq hroom hget]
  by_cases hempty : handler.pointsClouds = []
  · refine ⟨self.taken handle handler, by simp [hempty], ⟨?_, ?_, hkeys⟩, ?_⟩
    · rw [keyedView_taken hget hempty]
      exact ⟨[], .nil _⟩
    · simp [PubHandler.taken]
    · exact Nat.le_succ _
  · refine ⟨self.entered handle handler, by simp [hempty], ⟨?_, ?_, hkeys⟩, ?_⟩
    · exact ⟨[] ++ [.handOver handle], .snoc (.nil _) (keyedView_entered hroom hget hempty)⟩
    · intro hok entry hentry
      rw [PubHandler.entries_entered hroom, List.mem_append, List.mem_singleton] at hentry
      rcases hentry with hold | rfl
      · exact hok entry hold
      · exact PubHandler.entryOk_lidarPoint hempty handle
    · exact (PubHandler.toNat_lidarNum_entered hroom handle handler).le

/-- The whole loop: it does not fault while the frame has room for one entry per
handler still to come. -/
theorem flushAll_spec (handles : List UInt32) {self : PubHandler R}
    (hroom : self.frame.lidarNum.toNat + handles.length ≤ kMaxSourceLidar)
    (hmem : ∀ handle ∈ handles, handle ∈ self.lidarProcessHandlers) :
    ∃ result, handles.foldlM PubHandler.flushHandler self = some result ∧
      Flushed decoded frames self result := by
  induction handles generalizing self with
  | nil => exact ⟨self, rfl, .refl self⟩
  | cons handle rest ih =>
    rw [List.length_cons] at hroom
    obtain ⟨next, hnext, hflushed, hnum⟩ :
        ∃ next, self.flushHandler handle = some next ∧ Flushed decoded frames self next ∧
          next.frame.lidarNum.toNat ≤ self.frame.lidarNum.toNat + 1 :=
      flushHandler_spec (by omega) (hmem handle List.mem_cons_self)
    have hnextMem : ∀ id ∈ rest, id ∈ next.lidarProcessHandlers := by
      intro id hid
      exact (hflushed.mem_iff id).mpr (hmem id (List.mem_cons_of_mem _ hid))
    obtain ⟨result, hresult, hrest⟩ := ih (by omega) hnextMem
    exact ⟨result, by rw [List.foldlM_cons, hnext]; exact hresult, hflushed.trans hrest⟩

/-! ## One packet -/

/-- What a call of `CheckTimer` does, with the frame it hands over. -/
structure Framed (decoded : List (UInt32 × List (PointXyzlt R))) (frames : List (PointFrame R))
    (start result : PubHandler R) (frame : Option (PointFrame R)) : Prop where
  view : ∃ ops, Keyed.machine.Run (keyedView decoded frames start) ops
    (keyedView decoded (frames ++ frame.toList) result)
  entriesOk : ∀ f ∈ frame, ∀ entry ∈ f.entries, EntryOk entry
  mem_iff : ∀ id, id ∈ result.lidarProcessHandlers ↔ id ∈ start.lidarProcessHandlers
  lidarNum : result.frame.lidarNum = 0

/-- A call that hands nothing over. -/
theorem Framed.quiet {start result : PubHandler R} (h : Flushed decoded frames start result)
    (hnum : result.frame.lidarNum = 0) : Framed decoded frames start result none := by
  refine ⟨?_, fun f hf => absurd hf (by simp), h.mem_iff, hnum⟩
  rw [Option.toList_none, List.append_nil]
  exact h.view

/-- A call that collects entries and hands the frame over. -/
theorem Framed.publish {start flushed : PubHandler R} (hnum : start.frame.lidarNum = 0)
    (h : Flushed decoded frames start flushed) :
    Framed decoded frames start flushed.resetFrame (some flushed.frame) := by
  obtain ⟨ops, hrun⟩ := h.view
  refine ⟨⟨ops, ?_⟩, ?_, h.mem_iff, rfl⟩
  · rw [Option.toList_some, keyedView_publish]
    exact hrun
  · intro f hf
    rw [Option.mem_some_iff] at hf
    subst hf
    apply h.entriesOk
    intro entry hentry
    simp [PointFrame.entries_eq_nil hnum] at hentry

/-- `CheckTimer` does not fault.  The unsynchronised branch, which collects all
LiDARs in one frame, needs that there are at most `kMaxSourceLidar`. -/
theorem checkTimer_spec {self : PubHandler R} {id : UInt32} (isTimestampSync : Bool) (now : Int)
    (hnum : self.frame.lidarNum = 0) (hmem : id ∈ self.lidarProcessHandlers)
    (hkeys : isTimestampSync = false →
      self.lidarProcessHandlers.keys.length ≤ kMaxSourceLidar) :
    ∃ result frame, self.checkTimer isTimestampSync now id = some (result, frame) ∧
      Framed decoded frames self result frame := by
  cases isTimestampSync with
  | true =>
    have hroom : self.frame.lidarNum.toNat < kMaxSourceLidar := by
      rw [hnum]; decide
    obtain ⟨handler, hget⟩ := Option.isSome_iff_exists.mp
      (Std.TreeMap.isSome_getElem?_iff_mem.mpr hmem)
    obtain ⟨flushed, hflush, hflushed, _⟩ :
        ∃ flushed, self.flushHandler id = some flushed ∧ Flushed decoded frames self flushed ∧
          flushed.frame.lidarNum.toNat ≤ self.frame.lidarNum.toNat + 1 :=
      flushHandler_spec hroom hmem
    rw [PubHandler.flushHandler_eq hroom hget, Option.some_inj] at hflush
    simp only [PubHandler.checkTimer, if_true, PubHandler.checkTimerSynced_eq hnum hget]
    by_cases hdue : PubHandler.cutDue self.config handler = true
    · rw [if_pos hdue]
      by_cases hempty : handler.pointsClouds.isEmpty = true
      · rw [if_pos hempty] at hflush ⊢
        subst hflush
        exact ⟨_, _, rfl, Framed.quiet hflushed hnum⟩
      · rw [if_neg hempty] at hflush ⊢
        subst hflush
        exact ⟨_, _, rfl, Framed.publish hnum hflushed⟩
    · rw [if_neg hdue]
      exact ⟨_, _, rfl, Framed.quiet (.refl self) hnum⟩
  | false =>
    simp only [PubHandler.checkTimer, Bool.false_eq_true, if_false, PubHandler.checkTimerUnsynced]
    split
    · exact ⟨_, _, rfl, Framed.quiet ⟨⟨[], .nil _⟩, fun h => h, fun _ => Iff.rfl⟩ hnum⟩
    · split
      · exact ⟨_, _, rfl, Framed.quiet (.refl self) hnum⟩
      · -- advancing `last_pub_time_` is invisible; the loop starts from an empty frame
        have hstart : self.advancePubTime.frame.lidarNum = 0 := hnum
        obtain ⟨flushed, hflush, hflushed⟩ :
            ∃ flushed, self.lidarProcessHandlers.keys.foldlM PubHandler.flushHandler
                self.advancePubTime = some flushed ∧
              Flushed decoded frames self.advancePubTime flushed := by
          refine flushAll_spec _ ?_ ?_
          · rw [hstart]
            simpa using hkeys rfl
          · intro handle hhandle
            exact Std.TreeMap.mem_of_mem_keys hhandle
        have hframed := Framed.publish hstart hflushed
        refine ⟨flushed.resetFrame, some flushed.frame, ?_, ?_⟩
        · simp [hflush]
        · exact ⟨hframed.view, hframed.entriesOk, hframed.mem_iff, hframed.lidarNum⟩

/-! ## The invariant of a run -/

/-- The handlers' ids are among `handles`, the frame is not in use between
packets, and every frame handed over is in order. -/
structure FramingInv (handles : Finset UInt32) (run : FramingRun R) : Prop where
  reachable : Keyed.machine.Reachable (keyedView run.decoded run.frames run.self)
  entriesOk : ∀ frame ∈ run.frames, ∀ entry ∈ frame.entries, EntryOk entry
  handlers : ∀ id ∈ run.self.lidarProcessHandlers, id ∈ handles
  lidarNum : run.self.frame.lidarNum = 0

theorem FramingInv.start (handles : Finset UInt32) (config : PublishConfig) :
    FramingInv handles (FramingRun.start config : FramingRun R) := by
  refine ⟨.init ?_, ?_, ?_, rfl⟩
  · have hpending : (PubHandler.fresh config : PubHandler R).pendingAt = fun _ => [] := by
      funext id
      simp [PubHandler.pendingAt, PubHandler.fresh]
    have hbatches : (PubHandler.fresh config : PubHandler R).frame.batches = [] := by
      rw [PointFrame.batches, PointFrame.entries_eq_nil rfl, List.map_nil]
    change keyedView [] [] (PubHandler.fresh config : PubHandler R) = _
    simp [keyedView, hpending, hbatches]
  · simp [FramingRun.start]
  · simp [FramingRun.start, PubHandler.fresh]

/-- The conservation law, read back from the keyed store. -/
theorem FramingInv.conserved {handles : Finset UInt32} {run : FramingRun R}
    (h : FramingInv handles run) (id : UInt32) :
    handedPoints run.frames id ++ run.self.pendingAt id = stream id run.decoded := by
  have hempty : run.self.frame.batches = [] := by
    rw [PointFrame.batches, PointFrame.entries_eq_nil h.lidarNum, List.map_nil]
  have hlaw := (Keyed.conserved_of_reachable h.reachable).stream_eq id
  simpa [keyedView, handedPoints, hempty] using hlaw

/-- There are no more handlers than LiDARs. -/
theorem FramingInv.length_keys {handles : Finset UInt32} {self : PubHandler R}
    (hcard : handles.card ≤ kMaxSourceLidar)
    (h : ∀ id ∈ self.lidarProcessHandlers, id ∈ handles) :
    self.lidarProcessHandlers.keys.length ≤ kMaxSourceLidar := by
  refine le_trans ?_ hcard
  rw [← List.toFinset_card_of_nodup Std.TreeMap.nodup_keys]
  apply Finset.card_le_card
  intro id hid
  exact h id (Std.TreeMap.mem_of_mem_keys (List.mem_toFinset.mp hid))

section Runs

variable [Add R] [Sub R] [Mul R] [Div R] [Neg R] [IntCast R] [Trig R] [LivoxSdk]

/-- Every event keeps the invariant, and none faults. -/
theorem FramingInv.step {handles : Finset UInt32} {run : FramingRun R}
    (h : FramingInv handles run) (event : PubEvent R) (hids : ∀ id ∈ event.ids, id ∈ handles)
    (hcard : ¬ event.Synced → handles.card ≤ kMaxSourceLidar) :
    ∃ next, run.step event = some next ∧ FramingInv handles next := by
  cases event with
  | addLidarsExtParam lidarParam =>
    exact ⟨_, rfl, ⟨h.reachable, h.entriesOk, h.handlers, h.lidarNum⟩⟩
  | clearAllLidarsExtrinsicParams =>
    exact ⟨_, rfl, ⟨h.reachable, h.entriesOk, h.handlers, h.lidarNum⟩⟩
  | packet rawData isTimestampSync now =>
    have hmem : ∀ id ∈ (run.self.decodePacket rawData).lidarProcessHandlers, id ∈ handles := by
      intro id hid
      rw [PubHandler.decodePacket, Std.TreeMap.mem_insert] at hid
      rcases hid with heq | hold
      · rw [← Std.LawfulEqOrd.eq_of_compare heq]
        exact hids _ (by simp [PubEvent.ids])
      · exact h.handlers id hold
    obtain ⟨result, frame, hresult, hframed⟩ : ∃ result frame,
        (run.self.decodePacket rawData).checkTimer isTimestampSync now rawData.id =
          some (result, frame) ∧
        Framed
          (run.decoded ++
            [(rawData.id, decodePoints (run.self.handlerFor rawData.id).extrinsic rawData)])
          run.frames (run.self.decodePacket rawData) result frame :=
      checkTimer_spec isTimestampSync now h.lidarNum (by simp [PubHandler.decodePacket])
        (fun hsync => FramingInv.length_keys (hcard (by simp [PubEvent.Synced, hsync])) hmem)
    obtain ⟨ops, hrun⟩ := hframed.view
    refine ⟨_, FramingRun.step_packet hresult, ?_, ?_, ?_, hframed.lidarNum⟩
    · exact hrun.reachable (.step h.reachable (keyedView_decodePacket run.self rawData))
    · intro f hf
      rcases List.mem_append.mp hf with hold | hnew
      · exact h.entriesOk f hold
      · exact hframed.entriesOk f (Option.mem_toList.mp hnew)
    · intro id hid
      exact hmem id ((hframed.mem_iff id).mp hid)

theorem FramingInv.steps {handles : Finset UInt32} (events : List (PubEvent R))
    {run : FramingRun R} (h : FramingInv handles run)
    (hids : ∀ event ∈ events, ∀ id ∈ event.ids, id ∈ handles)
    (hcard : ∀ event ∈ events, ¬ event.Synced → handles.card ≤ kMaxSourceLidar) :
    ∃ last, run.steps events = some last ∧ FramingInv handles last := by
  induction events generalizing run with
  | nil => exact ⟨run, rfl, h⟩
  | cons event rest ih =>
    obtain ⟨next, hnext, hinv⟩ := h.step event (hids event List.mem_cons_self)
      (hcard event List.mem_cons_self)
    obtain ⟨last, hlast, hinv'⟩ := ih hinv (fun e he => hids e (List.mem_cons_of_mem _ he))
      (fun e he => hcard e (List.mem_cons_of_mem _ he))
    refine ⟨last, ?_, hinv'⟩
    rw [FramingRun.steps, List.foldlM_cons, hnext]
    exact hlast

/-- A run of synchronised packets does not fault, however many LiDARs there are. -/
theorem FramingInv.synced (config : PublishConfig) (events : List (PubEvent R))
    (hsynced : ∀ event ∈ events, event.Synced) :
    ∃ (handles : Finset UInt32) (run : FramingRun R),
      (FramingRun.start config).steps events = some run ∧ FramingInv handles run := by
  obtain ⟨run, hrun, hinv⟩ :=
    (FramingInv.start (events.flatMap PubEvent.ids).toFinset config).steps events
      (fun event he id hid => List.mem_toFinset.mpr (List.mem_flatMap.mpr ⟨event, he, hid⟩))
      (fun event he hnot => absurd (hsynced event he) hnot)
  exact ⟨_, run, hrun, hinv⟩

/-- **Point conservation.**  In every run with at most `kMaxSourceLidar` LiDARs
nothing faults; for each LiDAR, what was handed over followed by what is pending
is what its packets decoded to; every entry handed over is in order; and the
frame is not in use between two calls of `CheckTimer`. -/
theorem pubHandler_conserves_points (config : PublishConfig) (handles : Finset UInt32)
    (hcard : handles.card ≤ kMaxSourceLidar) (events : List (PubEvent R))
    (hids : ∀ event ∈ events, ∀ id ∈ event.ids, id ∈ handles) :
    ∃ run : FramingRun R, (FramingRun.start config).steps events = some run ∧
      (∀ id, handedPoints run.frames id ++ run.self.pendingAt id = stream id run.decoded) ∧
      (∀ frame ∈ run.frames, ∀ entry ∈ frame.entries, EntryOk entry) ∧
      run.self.frame.lidarNum = 0 := by
  obtain ⟨run, hrun, hinv⟩ := (FramingInv.start handles config).steps events hids
    fun _ _ _ => hcard
  exact ⟨run, hrun, hinv.conserved, hinv.entriesOk, hinv.lidarNum⟩

end Runs

/-! ### Two LiDARs, and a buffer of more than `2 ^ 32` points -/

/-- A packet of 96 high-resolution points, all at time `timeStamp`. -/
def stampedPacket (handle : UInt32) (timeStamp : UInt64) : RawPacket where
  lidarType := .kLivoxLidarType
  handle := handle
  extrinsicEnable := false
  pointNum := 96
  dataType := 1
  lineNum := kLineNumberMid360
  timeStamp := timeStamp
  pointInterval := 0
  rawData := List.replicate (96 * 14) 0

theorem id_stampedPacket (handle : UInt32) (timeStamp : UInt64) :
    (stampedPacket handle timeStamp).id = handle :=
  rfl

/-- Two LiDARs, the synchronisation mode changing between their packets. -/
def pairEvents : List (PubEvent Float) :=
  [.packet (stampedPacket 1 5000000) true 0, .packet (stampedPacket 2 7000000) false 0,
    .packet (stampedPacket 1 105000000) false 100000000]

theorem pubHandler_conserves_points_pair :
    ∃ run : FramingRun Float, (FramingRun.start PublishConfig.initial).steps pairEvents = some run ∧
      (∀ id, handedPoints run.frames id ++ run.self.pendingAt id = stream id run.decoded) ∧
      (∀ frame ∈ run.frames, ∀ entry ∈ frame.entries, EntryOk entry) ∧
      run.self.frame.lidarNum = 0 :=
  pubHandler_conserves_points PublishConfig.initial {1, 2} (by decide) pairEvents
    (by simp [pairEvents, PubEvent.ids, id_stampedPacket])

/-- A LiDAR whose clock stands still for `n` packets, until one packet at 100 ms. -/
def overflowEvents (n : Nat) : List (PubEvent Float) :=
  List.replicate n (.packet (stampedPacket 1 0) true 0) ++
    [.packet (stampedPacket 1 100000000) true 0]

theorem offsetTime_stampedPacket (ext : ExtParameterDetailed Float) (timeStamp : UInt64) :
    (decodePoints ext (stampedPacket 1 timeStamp)).map (·.offsetTime) =
      List.replicate 96 timeStamp := by
  rw [decodePoints_offsetTime, RawPacket.pointTimes, if_pos ⟨rfl, .inl rfl⟩]
  refine List.eq_replicate_iff.mpr ⟨?_, ?_⟩
  · rw [List.length_map, List.length_range]
    rfl
  · intro t ht
    obtain ⟨i, _, rfl⟩ := List.mem_map.mp ht
    change timeStamp + UInt64.ofNat i * 0 = timeStamp
    simp

/-- The times in the buffer once another such packet is decoded. -/
theorem offsetTime_decodedHandler {self : PubHandler Float} {n : Nat} (timeStamp : UInt64)
    (h : (self.pendingAt 1).map (·.offsetTime) = List.replicate n 0) :
    (self.decodedHandler (stampedPacket 1 timeStamp)).pointsClouds.map (·.offsetTime) =
      List.replicate n 0 ++ List.replicate 96 timeStamp := by
  rw [PubHandler.pointsClouds_decodedHandler, List.map_append, offsetTime_stampedPacket]
  exact congrArg (· ++ _) h

/-- While the clock of the LiDAR stands still nothing is handed over. -/
theorem overflow_pending (n : Nat) :
    ∃ run : FramingRun Float,
      (FramingRun.start PublishConfig.initial).steps
          (List.replicate n (.packet (stampedPacket 1 0) true 0)) = some run ∧
      run.frames = [] ∧
      run.self.config = PublishConfig.initial ∧ run.self.frame.lidarNum = 0 ∧
      (run.self.pendingAt 1).map (·.offsetTime) = List.replicate (96 * n) 0 := by
  induction n with
  | zero => exact ⟨_, rfl, rfl, rfl, rfl, rfl⟩
  | succ n ih =>
    obtain ⟨run, hrun, hframes, hconfig, hnum, htimes⟩ := ih
    have hzero := offsetTime_decodedHandler 0 htimes
    rw [← List.replicate_add] at hzero
    have hrecent : (run.self.decodedHandler (stampedPacket 1 0)).getRecentTimeStamp = 0 := by
      rw [LidarPubHandler.getRecentTimeStamp_eq, hzero, List.getLast?_replicate]
      rfl
    have hdue : PubHandler.cutDue run.self.config
        (run.self.decodedHandler (stampedPacket 1 0)) = false := by
      simp [PubHandler.cutDue, hrecent, kRatioOfMsToNs]
    have hnext := FramingRun.steps_concat hrun
      (FramingRun.step_packet (PubHandler.rawDataProcess_keep 0 hnum hdue))
    rw [← List.replicate_succ'] at hnext
    have hpending : (run.self.decodePacket (stampedPacket 1 0)).pendingAt 1 =
        (run.self.decodedHandler (stampedPacket 1 0)).pointsClouds :=
      PubHandler.pendingAt_eq (PubHandler.getElem?_decodePacket run.self (stampedPacket 1 0))
    have htimes' : ((run.self.decodePacket (stampedPacket 1 0)).pendingAt 1).map (·.offsetTime) =
        List.replicate (96 * (n + 1)) 0 := by
      rw [hpending, hzero]
      rfl
    exact ⟨_, hnext, by rw [hframes]; rfl, hconfig, hnum, htimes'⟩

/-- The packet at 100 ms hands over all that is pending, in one entry. -/
theorem overflow_cut {run : FramingRun Float} {n : Nat}
    (hconfig : run.self.config = PublishConfig.initial) (hnum : run.self.frame.lidarNum = 0)
    (htimes : (run.self.pendingAt 1).map (·.offsetTime) = List.replicate (96 * n) 0)
    (hn : n ≠ 0) :
    ∃ (next : FramingRun Float) (frame : PointFrame Float) (points : List (PointXyzlt Float)),
      run.step (.packet (stampedPacket 1 100000000) true 0) = some next ∧
      next.frames = run.frames ++ [frame] ∧ frame.lidarNum.toNat = 1 ∧
      frame.entries = [(0, PubHandler.lidarPoint 1 points)] ∧ points.length = 96 * n + 96 ∧
      next.self.pendingAt 1 = [] := by
  have hall := offsetTime_decodedHandler 100000000 htimes
  have hlength : (run.self.decodedHandler (stampedPacket 1 100000000)).pointsClouds.length =
      96 * n + 96 := by
    rw [← List.length_map (fun p => p.offsetTime), hall]
    simp
  have hbase : (run.self.decodedHandler (stampedPacket 1 100000000)).getLidarBaseTime = 0 := by
    have hpos : 96 * n ≠ 0 := by omega
    rw [LidarPubHandler.getLidarBaseTime_eq, hall, List.head?_append, List.head?_replicate,
      if_neg hpos]
    rfl
  have hdue : PubHandler.cutDue run.self.config
      (run.self.decodedHandler (stampedPacket 1 100000000)) = true := by
    have hrecent : (run.self.decodedHandler (stampedPacket 1 100000000)).getRecentTimeStamp =
        100000000 := by
      rw [LidarPubHandler.getRecentTimeStamp_eq, hall, List.getLast?_append,
        List.getLast?_replicate]
      rfl
    rw [PubHandler.cutDue, hrecent, hbase, hconfig]
    decide
  have hroom : (run.self.decodePacket (stampedPacket 1 100000000)).frame.lidarNum = 0 := hnum
  have hentries := PubHandler.entries_cut hnum (stampedPacket 1 100000000)
  rw [hbase] at hentries
  refine ⟨_, _, _, FramingRun.step_packet (PubHandler.rawDataProcess_cut 0 hnum hdue), rfl, ?_,
    hentries, hlength, ?_⟩
  · rw [PubHandler.toNat_lidarNum_entered (by rw [hroom]; decide), hroom]
    rfl
  · rw [PubHandler.pendingAt_resetFrame, PubHandler.pendingAt_entered]
    exact Function.update_self ..

theorem toNat_pointsNum_ne {points : List (PointXyzlt R)} (id : UInt32)
    (h : 2 ^ 32 ≤ points.length) :
    (PubHandler.lidarPoint id points).pointsNum.toNat ≠ points.length := by
  have hlt : (PubHandler.lidarPoint id points).pointsNum.toNat < 2 ^ 32 := UInt32.toNat_lt _
  exact (hlt.trans_le h).ne

/-- Once the buffer has reached `2 ^ 32` points, its entry announces fewer. -/
theorem overflow_points_num {n : Nat} (hn : 2 ^ 32 ≤ 96 * n + 96) :
    ∃ run : FramingRun Float,
      (FramingRun.start PublishConfig.initial).steps (overflowEvents n) = some run ∧
      ∃ frame ∈ run.frames, ∃ entry ∈ frame.entries,
        entry.2.pointsNum.toNat ≠ entry.2.points.length := by
  obtain ⟨run, hrun, -, hconfig, hnum, htimes⟩ := overflow_pending n
  obtain ⟨next, frame, points, hstep, hframes, -, hentries, hlength, -⟩ :=
    overflow_cut hconfig hnum htimes (by omega)
  refine ⟨next, FramingRun.steps_concat hrun hstep, frame,
    hframes ▸ List.mem_append_right _ (List.mem_singleton_self _), _,
    hentries ▸ List.mem_singleton_self _, ?_⟩
  apply toNat_pointsNum_ne 1
  rw [hlength]
  exact hn

/-- The 32-bit `points_num` is not always the number of points. -/
theorem pubHandler_points_num_truncated :
    ∃ run : FramingRun Float,
      (FramingRun.start PublishConfig.initial).steps (overflowEvents 44739243) = some run ∧
      ∃ frame ∈ run.frames, ∃ entry ∈ frame.entries,
        entry.2.pointsNum.toNat ≠ entry.2.points.length :=
  overflow_points_num (by decide)

end RoboRacer.Driver
