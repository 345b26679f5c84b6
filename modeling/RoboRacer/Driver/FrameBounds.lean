/-
  Driver/FrameBounds.lean --- do the arrays of a frame always suffice?
  (`comm/pub_handler.cpp`, `CheckTimer` and `RawDataProcess`).

  A frame has room for `kMaxSourceLidar` LiDARs.  There is a handler for every handle that
  has sent a packet, and without time synchronisation one frame takes the points of all of
  them.  The loop writes `base_time[lidar_num]` before it knows whether there are points.

      PubHandler.crowd              the LiDARs with points that another LiDAR follows
      isSome_flushAll_iff           the loop over all handlers
      frame_arrays_in_bounds_iff    a run stays inside the arrays if and only if there are
                                    fewer than `kMaxSourceLidar` of them at every flush
-/
import RoboRacer.Driver.Framing

set_option autoImplicit false

namespace RoboRacer.Driver

variable {R : Type}

/-! ## The loop over all handlers -/

/-- In an increasing list, what comes before the last element is what another follows. -/
theorem countP_dropLast {α : Type} [DecidableEq α] [LT α] [DecidableLT α]
    (hasymm : ∀ {a b : α}, a < b → ¬ b < a) (p : α → Bool) {l : List α}
    (h : l.Pairwise (· < ·)) :
    l.dropLast.countP p =
      (l.toFinset.filter fun a => p a = true ∧ ∃ b ∈ l.toFinset, a < b).card := by
  have hirrefl : ∀ a : α, ¬ a < a := fun a hlt => hasymm hlt hlt
  rcases List.eq_nil_or_concat l with rfl | ⟨init, last, rfl⟩
  · rfl
  · rw [List.concat_eq_append] at h ⊢
    obtain ⟨hinit, -, hlast⟩ := List.pairwise_append.mp h
    have hbelow : ∀ a ∈ init, a < last := fun a ha =>
      hlast a ha last (List.mem_singleton_self last)
    have hfilter : ((init ++ [last]).toFinset.filter fun a =>
        p a = true ∧ ∃ b ∈ (init ++ [last]).toFinset, a < b) = (init.filter p).toFinset := by
      ext a
      simp only [Finset.mem_filter, List.mem_toFinset, List.mem_append, List.mem_singleton,
        List.mem_filter]
      constructor
      · rintro ⟨hmem, hp, b, hb, hlt⟩
        refine ⟨hmem.resolve_right ?_, hp⟩
        rintro rfl
        rcases hb with hb | rfl
        · exact hasymm hlt (hbelow b hb)
        · exact hirrefl b hlt
      · rintro ⟨hmem, hp⟩
        exact ⟨.inl hmem, hp, last, .inr rfl, hbelow a hmem⟩
    have hnodup : (init.filter p).Nodup := by
      refine List.Pairwise.filter p (hinit.imp fun {a b} hlt => ?_)
      rintro rfl
      exact hirrefl a hlt
    rw [hfilter, List.toFinset_card_of_nodup hnodup, List.dropLast_concat,
      List.countP_eq_length_filter]

namespace PubHandler

/-- The buffer of `id` holds points. -/
def pends (self : PubHandler R) (id : UInt32) : Bool := !(self.pendingAt id).isEmpty

/-- What one pass of the loop leaves: the frame has one more entry if there were points,
and the buffers of the other LiDARs are as they were. -/
structure Passed (before next : PubHandler R) (handle : UInt32) : Prop where
  lidarNum : next.frame.lidarNum.toNat =
    before.frame.lidarNum.toNat + if before.pends handle then 1 else 0
  pendingAt : ∀ id, id ≠ handle → next.pendingAt id = before.pendingAt id
  mem_iff : ∀ id, id ∈ next.lidarProcessHandlers ↔ id ∈ before.lidarProcessHandlers

/-- One pass succeeds as long as there is room in the frame. -/
theorem flushHandler_passed {self : PubHandler R} {handle : UInt32}
    (hroom : self.frame.lidarNum.toNat < kMaxSourceLidar)
    (hmem : handle ∈ self.lidarProcessHandlers) :
    ∃ next, self.flushHandler handle = some next ∧ self.Passed next handle := by
  obtain ⟨handler, hget⟩ := Option.isSome_iff_exists.mp
    (Std.TreeMap.isSome_getElem?_iff_mem.mpr hmem)
  have hpends : self.pends handle = !handler.pointsClouds.isEmpty := by
    rw [pends, pendingAt_eq hget]
  obtain ⟨next, hnext, hflushed, -⟩ :
      ∃ next, self.flushHandler handle = some next ∧ Flushed [] [] self next ∧ _ :=
    flushHandler_spec hroom hmem
  refine ⟨next, hnext, ?_, ?_, hflushed.mem_iff⟩
  · rw [flushHandler_eq hroom hget] at hnext
    cases hempty : handler.pointsClouds.isEmpty with
    | true =>
      rw [hempty] at hnext
      cases hnext
      rw [hpends, hempty]
      rfl
    | false =>
      rw [hempty] at hnext
      cases hnext
      rw [hpends, hempty]
      exact toNat_lidarNum_entered hroom handle handler
  · intro id hne
    rw [flushHandler_eq hroom hget] at hnext
    have hupdate : next.pendingAt = Function.update self.pendingAt handle [] := by
      cases hempty : handler.pointsClouds.isEmpty with
      | true =>
        rw [hempty] at hnext
        cases hnext
        exact pendingAt_taken self handle handler
      | false =>
        rw [hempty] at hnext
        cases hnext
        exact pendingAt_entered self handle handler
    rw [hupdate, Function.update_of_ne hne]

/-- Without room the first write of a pass is out of bounds. -/
theorem flushHandler_eq_none {self : PubHandler R} {handle : UInt32}
    (hfull : ¬ self.frame.lidarNum.toNat < kMaxSourceLidar) :
    self.flushHandler handle = none := by
  have htake : ∀ handler : LidarPubHandler R, self.takePoints handle handler = none := by
    intro handler
    rw [takePoints, PointFrame.setBaseTime, if_neg hfull]
    rfl
  unfold flushHandler
  cases self.lidarProcessHandlers[handle]? with
  | none => rfl
  | some handler =>
    change (self.takePoints handle handler).bind _ = none
    rw [htake]
    rfl

/-- **The loop.**  It stays inside the frame exactly when, before the last handler, the
entries in use and the buffers with points are fewer than the frame has room for. -/
theorem isSome_flushAll_iff {handles : List UInt32} (hne : handles ≠ []) {self : PubHandler R}
    (hnum : self.frame.lidarNum.toNat ≤ kMaxSourceLidar) (hnodup : handles.Nodup)
    (hmem : ∀ handle ∈ handles, handle ∈ self.lidarProcessHandlers) :
    (handles.foldlM flushHandler self).isSome ↔
      self.frame.lidarNum.toNat + handles.dropLast.countP self.pends < kMaxSourceLidar := by
  induction handles generalizing self with
  | nil => exact absurd rfl hne
  | cons handle rest ih =>
    rw [List.foldlM_cons]
    by_cases hroom : self.frame.lidarNum.toNat < kMaxSourceLidar
    · obtain ⟨next, hnext, hpassed⟩ := flushHandler_passed hroom (hmem handle List.mem_cons_self)
      rw [hnext]
      change (rest.foldlM flushHandler next).isSome ↔ _
      cases rest with
      | nil => simpa using hroom
      | cons second rest =>
        obtain ⟨hhandle, hnodup⟩ := List.nodup_cons.mp hnodup
        have hnextNum : next.frame.lidarNum.toNat ≤ kMaxSourceLidar := by
          rw [hpassed.lidarNum]
          split <;> omega
        have hnextMem : ∀ id ∈ second :: rest, id ∈ next.lidarProcessHandlers := fun id hid =>
          (hpassed.mem_iff id).mpr (hmem id (List.mem_cons_of_mem handle hid))
        rw [ih (List.cons_ne_nil second rest) hnextNum hnodup hnextMem, hpassed.lidarNum]
        have hsame : (second :: rest).dropLast.countP next.pends =
            (second :: rest).dropLast.countP self.pends := by
          refine List.countP_congr fun id hid => ?_
          have hid' : id ≠ handle :=
            ne_of_mem_of_not_mem (List.mem_of_mem_dropLast hid) hhandle
          rw [pends, pends, hpassed.pendingAt id hid']
        rw [hsame, List.dropLast_cons_cons, List.countP_cons]
        omega
    · rw [flushHandler_eq_none hroom]
      refine iff_of_false Bool.false_ne_true ?_
      omega

/-- A loop that succeeds adds no handler. -/
theorem mem_iff_of_flushAll {handles : List UInt32} {self result : PubHandler R}
    (hmem : ∀ handle ∈ handles, handle ∈ self.lidarProcessHandlers)
    (h : handles.foldlM flushHandler self = some result) (id : UInt32) :
    id ∈ result.lidarProcessHandlers ↔ id ∈ self.lidarProcessHandlers := by
  induction handles generalizing self with
  | nil =>
    cases h
    exact Iff.rfl
  | cons handle rest ih =>
    rw [List.foldlM_cons] at h
    obtain ⟨next, hnext, hrest⟩ := Option.bind_eq_some_iff.mp h
    have hroom : self.frame.lidarNum.toNat < kMaxSourceLidar := by
      by_contra hfull
      rw [flushHandler_eq_none hfull] at hnext
      cases hnext
    obtain ⟨next', hnext', hpassed⟩ := flushHandler_passed hroom (hmem handle List.mem_cons_self)
    obtain rfl : next' = next := Option.some.inj (hnext'.symm.trans hnext)
    rw [ih (fun id hid => (hpassed.mem_iff id).mpr (hmem id (List.mem_cons_of_mem handle hid)))
      hrest, hpassed.mem_iff]

/-! ## One packet -/

/-- The unsynchronised branch of `CheckTimer` reaches its loop. -/
def flushDue (self : PubHandler R) (now : Int) : Bool :=
  !self.first && !decide (now - self.lastPubTime < (self.config.publishInterval.toNat : Int))

theorem checkTimerUnsynced_of_not_due {self : PubHandler R} {now : Int}
    (h : self.flushDue now = false) :
    ∃ next, self.checkTimerUnsynced now = some (next, none) ∧ next.frame = self.frame ∧
      next.lidarProcessHandlers = self.lidarProcessHandlers := by
  unfold checkTimerUnsynced
  cases hfirst : self.first with
  | true => exact ⟨_, rfl, rfl, rfl⟩
  | false =>
    have hearly : now - self.lastPubTime < (self.config.publishInterval.toNat : Int) := by
      simpa [flushDue, hfirst] using h
    refine ⟨self, ?_, rfl, rfl⟩
    rw [if_neg Bool.false_ne_true, if_pos hearly]
    rfl

theorem checkTimerUnsynced_of_due {self : PubHandler R} {now : Int}
    (h : self.flushDue now = true) :
    self.checkTimerUnsynced now =
      (self.lidarProcessHandlers.keys.foldlM flushHandler self.advancePubTime).map fun flushed =>
        (flushed.resetFrame, some flushed.frame) := by
  obtain ⟨hfirst, hlate⟩ : self.first = false ∧
      ¬ now - self.lastPubTime < (self.config.publishInterval.toNat : Int) := by
    simpa [flushDue] using h
  rw [checkTimerUnsynced, hfirst, if_neg Bool.false_ne_true, if_neg hlate]
  exact Option.map_eq_bind.symm

section RawDataProcess

variable [LivoxSdk]

/-- Once `rawData` is decoded, the buffer of `id` holds points. -/
def willPend (self : PubHandler R) (rawData : RawPacket) (id : UInt32) : Bool :=
  self.pends id || (id == rawData.id && !rawData.pointTimes.isEmpty)

/-- Among the LiDARs `seen`, those whose buffers hold points once `rawData` is decoded and
that another one follows in the order of the handles. -/
def crowd (self : PubHandler R) (rawData : RawPacket) (seen : Finset UInt32) : Nat :=
  (seen.filter fun id => self.willPend rawData id = true ∧ ∃ later ∈ seen, id < later).card

variable [Add R] [Sub R] [Mul R] [Div R] [Neg R] [IntCast R] [Trig R]

theorem pends_decodePacket (self : PubHandler R) (rawData : RawPacket) (id : UInt32) :
    (self.decodePacket rawData).pends id = self.willPend rawData id := by
  have hempty : ∀ ext : ExtParameterDetailed R,
      (decodePoints ext rawData).isEmpty = rawData.pointTimes.isEmpty := by
    intro ext
    rw [← decodePoints_offsetTime ext rawData, List.isEmpty_map]
  rw [pends, pendingAt_decodePacket, willPend, pends]
  by_cases hid : id = rawData.id
  · subst hid
    rw [Function.update_self, beq_self_eq_true, Bool.true_and, ← hempty
      (self.handlerFor rawData.id).extrinsic]
    cases self.pendingAt rawData.id with
    | nil => rfl
    | cons point points => rfl
  · rw [Function.update_of_ne hid, beq_eq_false_iff_ne.mpr hid, Bool.false_and, Bool.or_false]

theorem mem_decodePacket (self : PubHandler R) (rawData : RawPacket) (id : UInt32) :
    id ∈ (self.decodePacket rawData).lidarProcessHandlers ↔
      id = rawData.id ∨ id ∈ self.lidarProcessHandlers := by
  rw [decodePacket, Std.TreeMap.mem_insert, Std.LawfulEqOrd.compare_eq_iff_eq, eq_comm]

/-- A flush stays inside the frame exactly when the crowd is small enough. -/
theorem isSome_flush_iff {self : PubHandler R} {rawData : RawPacket} {seen : Finset UInt32}
    (hnum : self.frame.lidarNum = 0)
    (hseen : ∀ id, id ∈ (self.decodePacket rawData).lidarProcessHandlers ↔ id ∈ seen) :
    (((self.decodePacket rawData).lidarProcessHandlers.keys).foldlM flushHandler
        (self.decodePacket rawData).advancePubTime).isSome ↔
      self.crowd rawData seen < kMaxSourceLidar := by
  have hne : (self.decodePacket rawData).lidarProcessHandlers.keys ≠ [] :=
    List.ne_nil_of_mem (Std.TreeMap.mem_keys.mpr
      ((mem_decodePacket self rawData rawData.id).mpr (.inl rfl)))
  have hmem : ∀ handle ∈ (self.decodePacket rawData).lidarProcessHandlers.keys,
      handle ∈ (self.decodePacket rawData).advancePubTime.lidarProcessHandlers :=
    fun handle hhandle => Std.TreeMap.mem_of_mem_keys hhandle
  have hzero : (self.decodePacket rawData).advancePubTime.frame.lidarNum.toNat = 0 :=
    congrArg UInt8.toNat hnum
  have hsorted : (self.decodePacket rawData).lidarProcessHandlers.keys.Pairwise (· < ·) :=
    Std.TreeMap.ordered_keys.imp fun hlt => Std.compare_eq_lt.mp hlt
  have hkeys : (self.decodePacket rawData).lidarProcessHandlers.keys.toFinset = seen := by
    ext id
    rw [List.mem_toFinset, Std.TreeMap.mem_keys, hseen]
  have hpends : (self.decodePacket rawData).advancePubTime.pends = self.willPend rawData :=
    funext (pends_decodePacket self rawData)
  rw [isSome_flushAll_iff hne (by omega) Std.TreeMap.nodup_keys hmem, hzero, Nat.zero_add,
    countP_dropLast UInt32.lt_asymm _ hsorted, hkeys, hpends]
  exact Iff.rfl

/-- A synchronised packet flushes its own handler, into an empty frame. -/
theorem checkTimer_synced {self : PubHandler R} (rawData : RawPacket)
    (hnum : self.frame.lidarNum = 0) (now : Int) :
    ∃ result frame, (self.decodePacket rawData).checkTimer true now rawData.id =
      some (result, frame) ∧ Framed [] [] (self.decodePacket rawData) result frame :=
  checkTimer_spec true now hnum ((mem_decodePacket self rawData rawData.id).mpr (.inl rfl))
    fun hsync => by cases hsync

/-- **One packet.**  Only a flush can leave the frame. -/
theorem isSome_rawDataProcess_iff {self : PubHandler R} {rawData : RawPacket}
    {seen : Finset UInt32} (hnum : self.frame.lidarNum = 0)
    (hseen : ∀ id, id ∈ (self.decodePacket rawData).lidarProcessHandlers ↔ id ∈ seen)
    (isTimestampSync : Bool) (now : Int) :
    (self.rawDataProcess rawData isTimestampSync now).isSome ↔
      (isTimestampSync = false → self.flushDue now = true →
        self.crowd rawData seen < kMaxSourceLidar) := by
  cases isTimestampSync with
  | true =>
    refine iff_of_true ?_ fun hsync => (by cases hsync)
    obtain ⟨result, frame, hresult, -⟩ := checkTimer_synced rawData hnum now
    rw [rawDataProcess, hresult]
    rfl
  | false =>
    change ((self.decodePacket rawData).checkTimerUnsynced now).isSome ↔ _
    cases hdue : self.flushDue now with
    | false =>
      have hdue' : (self.decodePacket rawData).flushDue now = false := hdue
      obtain ⟨next, hnext, -⟩ := checkTimerUnsynced_of_not_due hdue'
      rw [hnext]
      exact iff_of_true rfl fun _ hflush => (by cases hflush)
    | true =>
      have hdue' : (self.decodePacket rawData).flushDue now = true := hdue
      rw [checkTimerUnsynced_of_due hdue', Option.isSome_map, isSome_flush_iff hnum hseen]
      simp

/-- A packet that is processed leaves the frame unused and adds its own handler. -/
theorem rawDataProcess_keeps {self next : PubHandler R} {rawData : RawPacket}
    {isTimestampSync : Bool} {now : Int} {frame : Option (PointFrame R)}
    (hnum : self.frame.lidarNum = 0)
    (h : self.rawDataProcess rawData isTimestampSync now = some (next, frame)) :
    next.frame.lidarNum = 0 ∧
      ∀ id, id ∈ next.lidarProcessHandlers ↔ id = rawData.id ∨ id ∈ self.lidarProcessHandlers := by
  simp only [← mem_decodePacket self rawData]
  cases isTimestampSync with
  | true =>
    obtain ⟨result, frame', hresult, hframed⟩ := checkTimer_synced rawData hnum now
    rw [rawDataProcess, hresult] at h
    cases h
    exact ⟨hframed.lidarNum, hframed.mem_iff⟩
  | false =>
    change (self.decodePacket rawData).checkTimerUnsynced now = _ at h
    cases hdue : (self.decodePacket rawData).flushDue now with
    | false =>
      obtain ⟨next', hnext', hframe, hhandlers⟩ := checkTimerUnsynced_of_not_due hdue
      rw [hnext'] at h
      cases h
      rw [hframe, hhandlers]
      exact ⟨hnum, fun _ => Iff.rfl⟩
    | true =>
      rw [checkTimerUnsynced_of_due hdue] at h
      obtain ⟨flushed, hflush, hresult⟩ := Option.map_eq_some_iff.mp h
      cases hresult
      refine ⟨rfl, fun id => ?_⟩
      exact mem_iff_of_flushAll
        (fun handle hhandle => Std.TreeMap.mem_of_mem_keys hhandle) hflush id

end RawDataProcess

end PubHandler

/-! ## Runs -/

/-- The LiDARs that have sent a packet. -/
def seenIds (events : List (PubEvent R)) : Finset UInt32 :=
  (events.flatMap PubEvent.ids).toFinset

/-- Between two packets the frame is not in use, and there is a handler for every LiDAR. -/
structure BoundsInv (events : List (PubEvent R)) (run : FramingRun R) : Prop where
  lidarNum : run.self.frame.lidarNum = 0
  mem_iff : ∀ id, id ∈ run.self.lidarProcessHandlers ↔ id ∈ seenIds events

theorem seenIds_concat_packet (events : List (PubEvent R)) (rawData : RawPacket)
    (isTimestampSync : Bool) (now : Int) (id : UInt32) :
    id ∈ seenIds (events ++ [.packet rawData isTimestampSync now]) ↔
      id = rawData.id ∨ id ∈ seenIds events := by
  simp [seenIds, PubEvent.ids]

section Runs

variable [Add R] [Sub R] [Mul R] [Div R] [Neg R] [IntCast R] [Trig R] [LivoxSdk]

/-- The condition on an event: when a flush is due there is room for the crowd. -/
def HasRoom (run : FramingRun R) (events : List (PubEvent R)) : PubEvent R → Prop
  | .packet rawData isTimestampSync now =>
    isTimestampSync = false → run.self.flushDue now = true →
      run.self.crowd rawData (seenIds (events ++ [.packet rawData isTimestampSync now])) <
        kMaxSourceLidar
  | _ => True

omit [Add R] [Sub R] [Mul R] [Div R] [Neg R] [IntCast R] [Trig R] [LivoxSdk] in
theorem BoundsInv.start (config : PublishConfig) :
    BoundsInv [] (FramingRun.start config : FramingRun R) where
  lidarNum := rfl
  mem_iff := by simp [FramingRun.start, PubHandler.fresh, seenIds]

section Step

variable {events : List (PubEvent R)} {run next : FramingRun R} {event : PubEvent R}

theorem BoundsInv.isSome_step_iff (h : BoundsInv events run) (event : PubEvent R) :
    (run.step event).isSome ↔ HasRoom run events event := by
  cases event with
  | addLidarsExtParam lidarParam => exact iff_of_true rfl trivial
  | clearAllLidarsExtrinsicParams => exact iff_of_true rfl trivial
  | packet rawData isTimestampSync now =>
    have hstep : (run.step (.packet rawData isTimestampSync now)).isSome ↔
        (run.self.rawDataProcess rawData isTimestampSync now).isSome := by
      rw [FramingRun.step]
      cases run.self.rawDataProcess rawData isTimestampSync now with
      | none => exact Iff.rfl
      | some result => exact Iff.rfl
    rw [hstep]
    refine PubHandler.isSome_rawDataProcess_iff h.lidarNum ?_ isTimestampSync now
    intro id
    rw [PubHandler.mem_decodePacket, seenIds_concat_packet, h.mem_iff]

theorem BoundsInv.step (h : BoundsInv events run) (hnext : run.step event = some next) :
    BoundsInv (events ++ [event]) next := by
  cases event with
  | addLidarsExtParam lidarParam =>
    cases hnext
    exact ⟨h.lidarNum, fun id => (h.mem_iff id).trans (by simp [seenIds, PubEvent.ids])⟩
  | clearAllLidarsExtrinsicParams =>
    cases hnext
    exact ⟨h.lidarNum, fun id => (h.mem_iff id).trans (by simp [seenIds, PubEvent.ids])⟩
  | packet rawData isTimestampSync now =>
    obtain ⟨⟨self, frame⟩, hprocess, hresult⟩ := Option.bind_eq_some_iff.mp hnext
    cases hresult
    obtain ⟨hnum, hmem⟩ := PubHandler.rawDataProcess_keeps h.lidarNum hprocess
    refine ⟨hnum, fun id => ?_⟩
    rw [hmem, seenIds_concat_packet, h.mem_iff]

end Step

theorem BoundsInv.steps (config : PublishConfig) {events : List (PubEvent R)}
    {run : FramingRun R} (h : (FramingRun.start config).steps events = some run) :
    BoundsInv events run := by
  induction events using List.reverseRecOn generalizing run with
  | nil =>
    cases h
    exact .start config
  | append_singleton events event ih =>
    obtain ⟨last, hlast, hstep⟩ := FramingRun.exists_of_steps_concat h
    exact (ih hlast).step hstep

/-- **When a run stays inside the arrays.**  Every write to the arrays of the frame is in
bounds if and only if, at every flush of a packet without time synchronisation, fewer than
`kMaxSourceLidar` LiDARs have points pending and are followed, in the order of the handles,
by another LiDAR that has sent a packet. -/
theorem frame_arrays_in_bounds_iff (config : PublishConfig) (events : List (PubEvent R)) :
    ((FramingRun.start config : FramingRun R).steps events).isSome ↔
      ∀ before event, before ++ [event] <+: events →
        ∀ run, (FramingRun.start config).steps before = some run → HasRoom run before event := by
  constructor
  · rintro h before event ⟨rest, rfl⟩ run hrun
    have hinv := BoundsInv.steps config hrun
    obtain ⟨last, hlast⟩ := Option.isSome_iff_exists.mp h
    rw [FramingRun.steps, List.foldlM_append] at hlast
    obtain ⟨next, hnext, -⟩ := Option.bind_eq_some_iff.mp hlast
    obtain ⟨run', hrun', hstep⟩ := FramingRun.exists_of_steps_concat hnext
    obtain rfl : run' = run := Option.some.inj (hrun'.symm.trans hrun)
    exact (hinv.isSome_step_iff event).mp (Option.isSome_iff_exists.mpr ⟨next, hstep⟩)
  · intro h
    induction events using List.reverseRecOn with
    | nil => rfl
    | append_singleton events event ih =>
      have hold := ih fun before event' hpre =>
        h before event' (hpre.trans (List.prefix_append events [event]))
      obtain ⟨run, hrun⟩ := Option.isSome_iff_exists.mp hold
      obtain ⟨next, hnext⟩ := Option.isSome_iff_exists.mp
        (((BoundsInv.steps config hrun).isSome_step_iff event).mpr
          (h events event (List.prefix_refl _) run hrun))
      rw [FramingRun.steps_concat hrun hnext]
      rfl

omit [Add R] [Sub R] [Mul R] [Div R] [Neg R] [IntCast R] [Trig R] in
/-- With at most `kMaxSourceLidar` LiDARs there is always room: no other follows the last. -/
theorem hasRoom_of_card_le {run : FramingRun R} {events : List (PubEvent R)}
    {event : PubEvent R} (h : (seenIds (events ++ [event])).card ≤ kMaxSourceLidar) :
    HasRoom run events event := by
  cases event with
  | addLidarsExtParam lidarParam => trivial
  | clearAllLidarsExtrinsicParams => trivial
  | packet rawData isTimestampSync now =>
    intro _ _
    refine lt_of_lt_of_le ?_ h
    have hmem : rawData.id ∈ seenIds (events ++ [.packet rawData isTimestampSync now]) :=
      (seenIds_concat_packet events rawData isTimestampSync now rawData.id).mpr (.inl rfl)
    obtain ⟨last, hlast, hmax⟩ := Finset.exists_max_image _ UInt32.toNat ⟨_, hmem⟩
    refine Finset.card_lt_card ((Finset.filter_ssubset).mpr ⟨last, hlast, ?_⟩)
    rintro ⟨-, later, hlater, hlt⟩
    have hle := hmax later hlater
    rw [UInt32.lt_iff_toNat_lt] at hlt
    omega

end Runs

/-! ### One LiDAR more than there is room for -/

/-- A packet of one high-resolution point from a LiDAR that is not synchronised. -/
def unsyncedPacket (handle : UInt32) : RawPacket where
  lidarType := .kLivoxLidarType
  handle := handle
  extrinsicEnable := false
  pointNum := 1
  dataType := 1
  lineNum := kLineNumberMid360
  timeStamp := 0
  pointInterval := 0
  rawData := List.replicate 14 0

/-- Packets of LiDARs 0 to 32 inside one interval of the host clock, and one after it. -/
def crowdedEvents : List (PubEvent Float) :=
  (List.range 33).map (fun handle => .packet (unsyncedPacket (UInt32.ofNat handle)) false 0) ++
    [.packet (unsyncedPacket 0) false 100000000]

/-- The flush after the interval writes `base_time[32]`. -/
theorem frame_overrun_by_thirty_three :
    ((FramingRun.start PublishConfig.initial).steps (crowdedEvents.take 33)).isSome = true ∧
      (FramingRun.start PublishConfig.initial).steps crowdedEvents = none := by
  refine ⟨by decide +kernel, ?_⟩
  rw [← Option.isNone_iff_eq_none]
  decide +kernel

end RoboRacer.Driver
