/-
  Driver/DataPlane.lean --- from the raw packets to the queues of the LiDARs
  (`pub_handler.cpp`, `lidar_common_callback.cpp`, `lds.cpp`).

  `PublishPointCloud` hands a frame to `OnLidarPointClounCb` in the processing thread, and
  `StoragePointData` ends before that thread takes its next packet.  Meanwhile the poll
  thread pops the queues and LiDARs are registered.  Put together, the points of a LiDAR
  are never lost, repeated or reordered on the way, but for the entries that a full queue
  turns away:

      DataPlane          the framing logic and what becomes of its frames
      points_accounted   popped, queued, on the way, and not yet in a frame
-/
import RoboRacer.Driver.FrameBounds
import RoboRacer.Driver.FrameSettling
import RoboRacer.Driver.Routing

set_option autoImplicit false

namespace RoboRacer.Driver

open RoboRacer.Foundation

variable {R : Type}

/-! ## The system -/

/-- The framing logic with its history, and the routing of its frames. -/
structure DataPlane (R : Type) where
  framing : FramingRun R
  routing : RoutingState R

/-- The processing thread is done with its last frame. -/
def DataPlane.Stored (s : DataPlane R) : Prop :=
  s.routing.pending = [] ∧ s.routing.poll.pcd.producer = .idle

/-- The last frame is stored, and the poll thread sleeps. -/
structure DataPlane.Asleep (s : DataPlane R) : Prop where
  stored : s.Stored
  consumer : s.routing.poll.pcd.consumer = .wait
  count : s.routing.poll.pcd.count = 0

/-- The steps, by what they are about. -/
inductive DataPlaneLabel (R : Type) where
  | framing (event : PubEvent R)
  | routing (l : RoutingLabel R)

/-- The packets of a run are of LiDARs among `handles`. -/
def DataPlaneLabel.Within (handles : Finset UInt32) : DataPlaneLabel R → Prop
  | .framing event => ∀ id ∈ event.ids, id ∈ handles
  | .routing _ => True

theorem within_packet {handles : Finset UInt32} {rawData : RawPacket} (hid : rawData.id ∈ handles)
    (isTimestampSync : Bool) (now : Int) :
    DataPlaneLabel.Within (R := R) handles (.framing (.packet rawData isTimestampSync now)) := by
  intro id hmem
  rwa [List.mem_singleton.mp hmem]

section System

variable [Add R] [Sub R] [Mul R] [Div R] [Neg R] [IntCast R] [Trig R] [LivoxSdk]

/-- One step.  A packet is decoded when the frame before it is stored; a frame that it
completes is the next to be stored. -/
inductive DataPlaneStep (config : PollConfig) :
    DataPlane R → DataPlaneLabel R → DataPlane R → Prop
  | quiet {s : DataPlane R} {event : PubEvent R} {framing : FramingRun R} :
      (event.ids ≠ [] → s.Stored) → s.framing.step event = some framing →
      framing.frames = s.framing.frames →
      DataPlaneStep config s (.framing event) { s with framing := framing }
  | published {s : DataPlane R} {event : PubEvent R} {framing : FramingRun R}
      {frame : PointFrame R} {routing : RoutingState R} :
      s.framing.step event = some framing → framing.frames = s.framing.frames ++ [frame] →
      RoutingStep config s.routing (.storagePointData frame) routing →
      DataPlaneStep config s (.framing event) { framing := framing, routing := routing }
  | routing {s : DataPlane R} {l : RoutingLabel R} {routing : RoutingState R} :
      (∀ frame, l ≠ .storagePointData frame) → RoutingStep config s.routing l routing →
      DataPlaneStep config s (.routing l) { s with routing := routing }

/-- The processing thread, the poll thread and the registry, with packets of `handles`. -/
def dataPlaneMachine (handles : Finset UInt32) (publish : PublishConfig) (config : PollConfig) :
    Machine (DataPlane R) (DataPlaneLabel R) where
  Init s := s.framing = .start publish ∧ s.routing.Init
  Step s l t := l.Within handles ∧ DataPlaneStep config s l t

/-! ## The invariant -/

/-- The entries that the routing has met are those of the frames handed over. -/
structure DataPlaneInv (handles : Finset UInt32) (config : PollConfig) (s : DataPlane R) :
    Prop where
  framing : FramingInv handles s.framing
  routing : RoutingInv config s.routing
  poll : (pollMachine config).Reachable s.routing.poll
  entries : s.routing.entries = s.framing.frames.flatMap PointFrame.entries

variable {handles : Finset UInt32} {publish : PublishConfig} {config : PollConfig}
  {s t : DataPlane R}

/-- A step of the framing logic that has a result keeps its invariant. -/
theorem FramingInv.of_step (hcard : handles.card ≤ kMaxSourceLidar) {run next : FramingRun R}
    (h : FramingInv handles run) {event : PubEvent R} (hids : ∀ id ∈ event.ids, id ∈ handles)
    (hstep : run.step event = some next) : FramingInv handles next := by
  obtain ⟨next', hnext, hinv⟩ := h.step event hids (fun _ => hcard)
  rw [hstep] at hnext
  cases hnext
  exact hinv

omit [Add R] [Sub R] [Mul R] [Div R] [Neg R] [IntCast R] [Trig R] [LivoxSdk] in
/-- The entries change with a new frame only. -/
theorem entries_of_routingStep {r r' : RoutingState R} {l : RoutingLabel R}
    (hnot : ∀ frame, l ≠ .storagePointData frame) (hstep : RoutingStep config r l r') :
    r'.entries = r.entries := by
  cases hstep with
  | storagePointData => exact absurd rfl (hnot _)
  | _ => rfl

theorem DataPlaneInv.step (hcard : handles.card ≤ kMaxSourceLidar)
    (h : DataPlaneInv handles config s) {l : DataPlaneLabel R} (hwithin : l.Within handles)
    (hstep : DataPlaneStep config s l t) : DataPlaneInv handles config t := by
  cases hstep with
  | quiet _ hevent hframes =>
    refine ⟨h.framing.of_step hcard hwithin hevent, h.routing, h.poll, ?_⟩
    rw [hframes]
    exact h.entries
  | published hevent hframes hrouting =>
    -- the routing meets the entries of the frame in the step that hands it over
    refine ⟨h.framing.of_step hcard hwithin hevent, h.routing.step hrouting,
      poll_reachable_of_routingStep h.poll hrouting, ?_⟩
    rw [hframes, List.flatMap_append, List.flatMap_singleton, ← h.entries]
    cases hrouting with
    | storagePointData => rfl
  | routing hnot hrouting =>
    refine ⟨h.framing, h.routing.step hrouting,
      poll_reachable_of_routingStep h.poll hrouting, ?_⟩
    rw [entries_of_routingStep hnot hrouting]
    exact h.entries

theorem dataPlaneInv_of_reachable (hcard : handles.card ≤ kMaxSourceLidar)
    (hs : (dataPlaneMachine handles publish config).Reachable s) :
    DataPlaneInv handles config s := by
  refine hs.invariant (DataPlaneInv handles config) ?_ ?_
  · rintro start ⟨hframing, hrouting⟩
    refine ⟨?_, routingInv_of_init hrouting, .init hrouting.poll, ?_⟩
    · rw [hframing]
      exact .start handles publish
    · rw [hrouting.entries, hframing]
      rfl
  · rintro before l after - h ⟨hwithin, hstep⟩
    exact h.step hcard hwithin hstep

end System

/-! ## No packet is refused -/

namespace PubHandler

/-- A pass of the loop over all handlers ends inside the frame. -/
theorem lidarNum_of_flushHandler {self next : PubHandler R} {handle : UInt32}
    (h : self.flushHandler handle = some next) :
    next.frame.lidarNum.toNat ≤ kMaxSourceLidar := by
  by_cases hroom : self.frame.lidarNum.toNat < kMaxSourceLidar
  · have hmem : handle ∈ self.lidarProcessHandlers := by
      refine Std.TreeMap.isSome_getElem?_iff_mem.mp ?_
      unfold flushHandler at h
      obtain ⟨handler, hget, -⟩ := Option.bind_eq_some_iff.mp h
      rw [hget]
      rfl
    obtain ⟨next', hnext, hpassed⟩ := flushHandler_passed hroom hmem
    rw [h] at hnext
    cases hnext
    rw [hpassed.lidarNum]
    split <;> omega
  · rw [flushHandler_eq_none hroom] at h
    cases h

/-- So does the loop. -/
theorem lidarNum_of_flushAll {keys : List UInt32} {self next : PubHandler R}
    (hnum : self.frame.lidarNum.toNat ≤ kMaxSourceLidar)
    (h : keys.foldlM flushHandler self = some next) :
    next.frame.lidarNum.toNat ≤ kMaxSourceLidar := by
  induction keys generalizing self with
  | nil =>
    cases h
    exact hnum
  | cons handle rest ih =>
    rw [List.foldlM_cons] at h
    obtain ⟨first, hfirst, hrest⟩ := Option.bind_eq_some_iff.mp h
    exact ih (lidarNum_of_flushHandler hfirst) hrest

/-- A frame that is handed over has no more entries than its arrays. -/
theorem lidarNum_of_checkTimer {self next : PubHandler R} {isTimestampSync : Bool} {now : Int}
    {id : UInt32} {frame : PointFrame R} (hnum : self.frame.lidarNum = 0)
    (h : self.checkTimer isTimestampSync now id = some (next, some frame)) :
    frame.lidarNum.toNat ≤ kMaxSourceLidar := by
  have hzero : self.frame.lidarNum.toNat = 0 := by
    rw [hnum]
    rfl
  cases isTimestampSync with
  | true =>
    simp only [checkTimer, if_true] at h
    cases hget : self.lidarProcessHandlers[id]? with
    | none =>
      unfold checkTimerSynced at h
      rw [hget] at h
      cases h
    | some handler =>
      have hroom : self.frame.lidarNum.toNat < kMaxSourceLidar := by
        rw [hzero]
        decide
      rw [checkTimerSynced_eq hnum hget, Option.some_inj] at h
      split at h
      · split at h
        · cases h
        · cases h
          rw [toNat_lidarNum_entered hroom, hzero]
          decide
      · cases h
  | false =>
    simp only [checkTimer, Bool.false_eq_true, if_false, checkTimerUnsynced] at h
    split at h
    · cases h
    · split at h
      · cases h
      · -- the frame of all handlers, as the loop leaves it
        obtain ⟨flushed, hflush, hresult⟩ := Option.bind_eq_some_iff.mp h
        cases hresult
        exact lidarNum_of_flushAll (hzero ▸ Nat.zero_le _) hflush

end PubHandler

section Accepts

variable [Add R] [Sub R] [Mul R] [Div R] [Neg R] [IntCast R] [Trig R] [LivoxSdk]
  {handles : Finset UInt32} {config : PollConfig} {s : DataPlane R}

/-- A packet either leaves the frames as they are or hands over one that fits. -/
theorem frames_of_packet {run next : FramingRun R} (hnum : run.self.frame.lidarNum = 0)
    {rawData : RawPacket} {isTimestampSync : Bool} {now : Int}
    (h : run.step (.packet rawData isTimestampSync now) = some next) :
    next.frames = run.frames ∨ ∃ frame : PointFrame R,
      next.frames = run.frames ++ [frame] ∧ frame.lidarNum.toNat ≤ kMaxSourceLidar := by
  obtain ⟨⟨self, frame⟩, hprocess, hnext⟩ := Option.bind_eq_some_iff.mp h
  cases hnext
  cases frame with
  | none => exact .inl (List.append_nil _)
  | some frame =>
    have hdecoded : (run.self.decodePacket rawData).frame.lidarNum = 0 := hnum
    exact .inr ⟨frame, rfl, PubHandler.lidarNum_of_checkTimer hdecoded hprocess⟩

/-- Once the last frame is stored, the next packet is processed, whatever it is. -/
theorem DataPlaneInv.accepts (hcard : handles.card ≤ kMaxSourceLidar)
    (h : DataPlaneInv handles config s) (hstored : s.Stored) {rawData : RawPacket}
    (hid : rawData.id ∈ handles) (isTimestampSync : Bool) (now : Int) :
    ∃ t, DataPlaneStep config s (.framing (.packet rawData isTimestampSync now)) t := by
  obtain ⟨framing, hstep, -⟩ :=
    h.framing.step _ (within_packet hid isTimestampSync now) (fun _ => hcard)
  obtain hframes | ⟨frame, hframes, hfits⟩ := frames_of_packet h.framing.lidarNum hstep
  · exact ⟨_, .quiet (fun _ => hstored) hstep hframes⟩
  · exact ⟨_, .published hstep hframes (.storagePointData hstored.1 hstored.2 hfits)⟩

end Accepts

/-! ## The points of one LiDAR -/

/-- The points of the calls that are for `handle`. -/
def callPoints (handle : UInt32) (calls : List (PushCall R)) : List (PointXyzlt R) :=
  (calls.filter fun call => call.lidarData.handle = handle).flatMap (·.lidarData.points)

theorem callPoints_append (handle : UInt32) (calls later : List (PushCall R)) :
    callPoints handle (calls ++ later) = callPoints handle calls ++ callPoints handle later := by
  rw [callPoints, List.filter_append, List.flatMap_append]
  rfl

/-- What the frames hand over for a LiDAR, read from their entries. -/
theorem handedPoints_eq_callPoints (frames : List (PointFrame R)) (handle : UInt32) :
    handedPoints frames handle =
      callPoints handle ((frames.flatMap PointFrame.entries).map pushCall) := by
  have hbatches : frames.flatMap PointFrame.batches =
      (frames.flatMap PointFrame.entries).map fun entry => (entry.2.handle, entry.2.points) :=
    (List.map_flatMap ..).symm
  rw [handedPoints, hbatches, stream_eq_flatMap, callPoints, List.filter_map, List.filter_map,
    List.flatMap_map, List.flatMap_map]
  rfl

namespace DataPlane

/-- The points of the packets that queue `i` has passed on or holds. -/
def delivered (s : DataPlane R) (i : Fin kMaxSourceLidar) : List (PointXyzlt R) :=
  ((s.routing.poll.pcd.lidars i).popped ++
    queueContents (s.routing.poll.pcd.lidars i).queue).flatMap (·.points)

/-- The points of the entries that `StoragePointData` is done with. -/
def done (s : DataPlane R) (handle : UInt32) : List (PointXyzlt R) :=
  callPoints handle (s.routing.log.map Prod.fst)

/-- The points of the entry that is being pushed and of those still to come. -/
def inTransit (s : DataPlane R) (handle : UInt32) : List (PointXyzlt R) :=
  callPoints handle
    ((currentCall s.routing.poll.pcd).map Prod.snd ++ s.routing.pending.map pushCall)

/-- Every entry of `handle` that is done was pushed to queue `i`. -/
def AllStored (s : DataPlane R) (handle : UInt32) (i : Fin kMaxSourceLidar) : Prop :=
  ∀ done ∈ s.routing.log, done.1.lidarData.handle = handle → done.2 = .stored i

/-- No entry has so many points that their number does not fit into 32 bits. -/
def CountsFit (s : DataPlane R) : Prop :=
  ∀ entry ∈ s.routing.entries, entry.2.points.length < 2 ^ 32

end DataPlane

/-- The stored packet has the points of the entry when their number fits. -/
theorem points_stored {call : PushCall R}
    (hcount : call.lidarData.pointsNum = UInt32.ofNat call.lidarData.points.length)
    (hfits : call.lidarData.points.length < 2 ^ 32) :
    call.stored.points = call.lidarData.points := by
  have hnum : call.lidarData.pointsNum.toNat = call.lidarData.points.length := by
    rw [hcount, UInt32.toNat_ofNat', Nat.mod_eq_of_lt hfits]
  change call.lidarData.payload = _
  rw [PointPacket.payload, hnum, List.take_length]

namespace DataPlaneInv

variable {handles : Finset UInt32} {config : PollConfig} {s : DataPlane R} {handle : UInt32}
  {i : Fin kMaxSourceLidar}

/-- Between a packet and the end of `StoragePointData` nothing is lost. -/
theorem conserved (h : DataPlaneInv handles config s) (handle : UInt32) :
    s.done handle ++ s.inTransit handle ++ s.framing.self.pendingAt handle =
      stream handle s.framing.decoded := by
  have hcalls : s.done handle ++ s.inTransit handle = handedPoints s.framing.frames handle := by
    rw [DataPlane.done, DataPlane.inTransit, ← callPoints_append, ← List.append_assoc,
      h.routing.order, h.entries, handedPoints_eq_callPoints]
  rw [hcalls, h.framing.conserved]

/-- The packets of a queue are those of the calls pushed to it. -/
theorem delivered_eq (h : DataPlaneInv handles config s) (i : Fin kMaxSourceLidar) :
    s.delivered i = (storedAt i s.routing.log).flatMap (·.stored.points) := by
  rw [DataPlane.delivered, (h.routing.pcd i).ok.history, h.routing.accepted, List.flatMap_map]

/-- What goes to the slot of a LiDAR is its own. -/
theorem handle_of_slotOf (h : DataPlaneInv handles config s)
    (hslot : s.routing.cacheIndex.indexOf handle = some i) {call : PushCall R}
    (hcall : slotOf s.routing.cacheIndex call = some i) : call.lidarData.handle = handle :=
  h.routing.registry.injective _ _ i (slotOf_eq_some_iff.mp hcall).2 hslot

/-- What was pushed is, in order, among what was handed over. -/
theorem delivered_sublist (h : DataPlaneInv handles config s)
    (hslot : s.routing.cacheIndex.indexOf handle = some i) :
    (s.delivered i).Sublist (s.done handle) := by
  have hpoints : (s.delivered i).Sublist
      ((storedAt i s.routing.log).flatMap (·.lidarData.points)) := by
    rw [h.delivered_eq]
    exact List.Sublist.flatMap_right _ fun call _ => List.take_sublist _ _
  have hcalls : (storedAt i s.routing.log).Sublist
      ((s.routing.log.map Prod.fst).filter fun call => call.lidarData.handle = handle) := by
    refine (storedAt_sublist fun call hmem => h.routing.done call i (.inl hmem)).trans ?_
    refine List.monotone_filter_right _ fun call hcall => ?_
    exact decide_eq_true (h.handle_of_slotOf hslot (of_decide_eq_true hcall))
  exact hpoints.trans (hcalls.flatMap _)

/-- The points of an entry that is done are all stored when their number fits. -/
theorem points_stored_of_mem (h : DataPlaneInv handles config s) (hfits : s.CountsFit)
    {call : PushCall R} (hmem : call ∈ s.routing.log.map Prod.fst) :
    call.stored.points = call.lidarData.points := by
  have hcall : call ∈ s.routing.entries.map pushCall := by
    rw [← h.routing.order, List.append_assoc]
    exact List.mem_append_left _ hmem
  obtain ⟨entry, hentry, rfl⟩ := List.mem_map.mp hcall
  have hframes := hentry
  rw [h.entries] at hframes
  obtain ⟨frame, hframe, hin⟩ := List.mem_flatMap.mp hframes
  exact points_stored (h.framing.entriesOk frame hframe entry hin).pointsNum (hfits entry hentry)

/-- Without refusals, everything that was handed over is delivered. -/
theorem delivered_eq_done (h : DataPlaneInv handles config s)
    (hslot : s.routing.cacheIndex.indexOf handle = some i) (hstored : s.AllStored handle i)
    (hfits : s.CountsFit) : s.delivered i = s.done handle := by
  -- the calls of the LiDAR are exactly those that its queue accepted
  have hcalls : storedAt i s.routing.log =
      (s.routing.log.map Prod.fst).filter fun call => call.lidarData.handle = handle := by
    rw [storedAt_eq_map_filter, List.filter_map]
    refine congrArg (List.map Prod.fst) (List.filter_congr ?_)
    rintro ⟨call, outcome⟩ hmem
    refine decide_eq_decide.mpr ⟨?_, hstored _ hmem⟩
    rintro rfl
    exact h.handle_of_slotOf hslot (h.routing.done call i (.inl hmem))
  rw [h.delivered_eq, hcalls, DataPlane.done, callPoints]
  refine List.flatMap_congr fun call hcall => ?_
  exact h.points_stored_of_mem hfits (List.mem_of_mem_filter hcall)

/-- Nothing is on its way once the last frame is stored. -/
theorem inTransit_of_stored (hstored : s.Stored) (handle : UInt32) : s.inTransit handle = [] := by
  have hcurrent : currentCall s.routing.poll.pcd = [] := by
    simp only [currentCall, hstored.2]
  rw [DataPlane.inTransit, hcurrent, hstored.1]
  rfl

/-- While the poll thread sleeps, the queues it has attended to are empty. -/
theorem popped_of_asleep (h : DataPlaneInv handles config s) (hasleep : s.Asleep)
    (hsteady : s.routing.poll.steady i = true) :
    (s.routing.poll.pcd.lidars i).popped.flatMap (·.points) = s.delivered i := by
  have hempty :=
    queueIsEmpty_of_asleep h.poll hasleep.consumer hasleep.count hasleep.stored.2 hsteady
  have hpopped := (h.routing.pcd i).ok.popped_of_empty hempty
  rw [DataPlane.delivered, (h.routing.pcd i).ok.history, hpopped]
  rfl

end DataPlaneInv

section Runs

variable [Add R] [Sub R] [Mul R] [Div R] [Neg R] [IntCast R] [Trig R] [LivoxSdk]
  {handles : Finset UInt32} {publish : PublishConfig} {config : PollConfig} {s : DataPlane R}

/-- The routing can do here whatever it can do by itself between two frames. -/
theorem exists_dataPlane_run {labels : List (RoutingLabel R)} {routing : RoutingState R}
    (hrun : (routingMachine config).Run s.routing labels routing)
    (hnot : ∀ l ∈ labels, ∀ frame, l ≠ .storagePointData frame) :
    (dataPlaneMachine handles publish config).Run s (labels.map .routing)
      { s with routing := routing } := by
  induction hrun with
  | nil => exact .nil s
  | @snoc r u labels l _ hstep ih =>
    have hbefore := ih fun l hl => hnot l (List.mem_append_left _ hl)
    rw [List.map_append]
    exact hbefore.snoc
      ⟨trivial, .routing (hnot l (List.mem_append_right _ (List.mem_singleton_self l))) hstep⟩

/-- **Every point is accounted for, from the packet to the queue.**

For packets of at most `kMaxSourceLidar` LiDARs, any synchronisation flag, clock and
extrinsics, and any interleaving of the processing thread with the poll thread, the
registration of LiDARs and requests to exit:

  * the points a LiDAR's packets decoded to are, in order, those of the entries that are
    done, of the entries on their way, and those that wait for their frame;
  * if the LiDAR is registered, what the queue of its slot has passed on or holds is, in
    order, among them, and nothing of another LiDAR is;
  * if no entry was turned away, it is all of them but those on their way or waiting;
  * then, while the poll thread sleeps, all that does not wait for its frame is popped, of a
    LiDAR that has been sampling throughout;
  * and once the last frame is stored, the next packet is processed. -/
theorem points_accounted (hcard : handles.card ≤ kMaxSourceLidar)
    (hs : (dataPlaneMachine handles publish config).Reachable s) (handle : UInt32) :
    s.done handle ++ s.inTransit handle ++ s.framing.self.pendingAt handle =
      stream handle s.framing.decoded ∧
    (∀ i, s.routing.cacheIndex.indexOf handle = some i →
      (s.delivered i).Sublist (stream handle s.framing.decoded) ∧
      (s.AllStored handle i → s.CountsFit →
        s.delivered i ++ s.inTransit handle ++ s.framing.self.pendingAt handle =
          stream handle s.framing.decoded) ∧
      (s.AllStored handle i → s.CountsFit → s.Asleep → s.routing.poll.steady i = true →
        (s.routing.poll.pcd.lidars i).popped.flatMap (·.points) ++
          s.framing.self.pendingAt handle = stream handle s.framing.decoded)) ∧
    (s.Stored → ∀ rawData : RawPacket, rawData.id ∈ handles → ∀ isTimestampSync now,
      ∃ t, DataPlaneStep config s (.framing (.packet rawData isTimestampSync now)) t) := by
  have h := dataPlaneInv_of_reachable hcard hs
  have hconserved := h.conserved handle
  refine ⟨hconserved, fun i hslot => ⟨?_, fun hstored hfits => ?_,
    fun hstored hfits hasleep hsteady => ?_⟩, fun hidle rawData hid isTimestampSync now => ?_⟩
  · rw [← hconserved, List.append_assoc]
    exact (h.delivered_sublist hslot).trans (List.sublist_append_left _ _)
  · rw [h.delivered_eq_done hslot hstored hfits]
    exact hconserved
  · rw [DataPlaneInv.inTransit_of_stored hasleep.stored, List.append_nil] at hconserved
    rw [h.popped_of_asleep hasleep hsteady, h.delivered_eq_done hslot hstored hfits]
    exact hconserved
  · exact h.accepts hcard hidle hid isTimestampSync now

end Runs

/-- LiDAR 1 is registered, its two packets make a frame, and the frame is stored and popped. -/
theorem points_accounted_oneFrame :
    ∃ (config : PollConfig) (s : DataPlane Float) (i : Fin kMaxSourceLidar),
      (dataPlaneMachine {1} .initial config).Reachable s ∧ s.Asleep ∧
      s.routing.cacheIndex.indexOf 1 = some i ∧ s.framing.frames.length = 1 ∧
      (stream 1 s.framing.decoded).length = 192 ∧
      (s.routing.poll.pcd.lidars i).popped.flatMap (·.points) = stream 1 s.framing.decoded := by
  obtain ⟨cacheIndex, i, hsound, hslot⟩ := CacheIndex.exists_registered 1
  let config : PollConfig := ⟨.ofParameter 10, kLivoxCustomMsg⟩
  let start : DataPlane Float :=
    { framing := .start .initial
      routing :=
        { poll :=
            { flags := ⟨fun _ => .kConnectStateSampling, false, false⟩
              pcd := .initial
              steady := fun _ => true }
          cacheIndex := cacheIndex
          pending := []
          entries := []
          log := [] } }
  have hcard : ({1} : Finset UInt32).card ≤ kMaxSourceLidar := by decide
  have hstart : (dataPlaneMachine {1} .initial config).Reachable start :=
    .init ⟨rfl, ⟨rfl, fun _ => rfl, rfl, rfl⟩, hsound, rfl, rfl, rfl⟩
  -- the two packets
  obtain ⟨first, hfirst, hnone, hconfig, hnum, htimes⟩ := overflow_pending 1
  obtain ⟨first', hstep, hrest⟩ := FramingRun.exists_of_steps_cons hfirst
  cases hrest
  have hs₁ := hstart.step (l := .framing (.packet (stampedPacket 1 0) true 0))
    ⟨within_packet (by simp [id_stampedPacket]) true 0, .quiet (fun _ => ⟨rfl, rfl⟩) hstep hnone⟩
  obtain ⟨next, frame, points, hcut, hframes, hone, hentries, hlength, hpending⟩ :=
    overflow_cut hconfig hnum htimes (by decide)
  have hs₂ := hs₁.step (l := .framing (.packet (stampedPacket 1 100000000) true 0))
    ⟨within_packet (by simp [id_stampedPacket]) true 0,
      .published hcut hframes (.storagePointData rfl rfl (by rw [hone]; decide))⟩
  -- the entry is pushed, and the poll thread drains its queue
  let call : PushCall Float := pushCall (0, PubHandler.lidarPoint 1 points)
  have hentry : slotOf cacheIndex call = some i := slotOf_eq_some_iff.mpr ⟨rfl, hslot⟩
  obtain ⟨labels, r, hr, hnot, hcache, hdone, hsteady, hwait, hzero, hidle, haccepted⟩ :=
    exists_popped (dataPlaneInv_of_reachable hcard hs₂).poll rfl rfl rfl rfl hentries hentry rfl
  have hs₃ := (exists_dataPlane_run hr hnot).reachable hs₂
  have hasleep : DataPlane.Asleep { framing := next, routing := r } :=
    ⟨⟨hdone, hidle⟩, hwait, hzero⟩
  -- its outcome is the only one that is logged
  have h := dataPlaneInv_of_reachable hcard hs₃
  have hall : r.entries = [(0, PubHandler.lidarPoint 1 points)] := by
    rw [h.entries, hframes, hnone, List.nil_append, List.flatMap_singleton, hentries]
  have hlog : r.log = [(call, .stored i)] :=
    h.routing.log_of_accepted hidle hdone hall (by rw [haccepted]; exact List.mem_concat_self)
  have hstored : DataPlane.AllStored { framing := next, routing := r } 1 i := by
    intro done hmem _
    rw [hlog] at hmem
    rw [List.mem_singleton.mp hmem]
  have hfits : DataPlane.CountsFit { framing := next, routing := r } := by
    intro entry hmem
    rw [hall] at hmem
    rw [List.mem_singleton.mp hmem]
    change points.length < 2 ^ 32
    omega
  have hslot' : r.cacheIndex.indexOf 1 = some i := by
    rw [hcache]
    exact hslot
  obtain ⟨hconserved, hslots, -⟩ := points_accounted hcard hs₃ 1
  obtain ⟨-, -, hpopped⟩ := hslots i hslot'
  have hpoints := hpopped hstored hfits hasleep (by rw [hsteady])
  rw [hpending, List.append_nil] at hpoints
  refine ⟨config, _, i, hs₃, hasleep, hslot', ?_, ?_, hpoints⟩
  · rw [hframes, hnone]
    rfl
  · rw [← hconserved, DataPlaneInv.inTransit_of_stored hasleep.stored, hpending, DataPlane.done,
      hlog]
    simp [callPoints, call, pushCall, PubHandler.lidarPoint, hlength]

end RoboRacer.Driver
