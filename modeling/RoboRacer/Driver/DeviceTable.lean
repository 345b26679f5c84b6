/-
  Driver/DeviceTable.lean --- the device table beside the index registry.

  Two paths give a LiDAR a slot: `InitLivoxLidar` for the LiDARs of the user
  configs, and `LidarInfoChangeCallback` for a LiDAR it has never heard of.  The
  slots go to the first 32 LiDARs that either path asks for.  Readers of the
  table take the LiDAR's handle from the slot itself:

      TableInv             which LiDARs are registered, and what their slots say
      deviceTable_agrees_iff
                           when every slot names the LiDAR that it belongs to
-/
import RoboRacer.Driver.LidarCallback
import RoboRacer.Foundation.Seats

set_option autoImplicit false

namespace RoboRacer.Driver

open RoboRacer.Foundation

/-! ## The registry as seats -/

namespace CacheIndex

/-- The registry holds the LiDARs of `seated`, each in the slot of its position. -/
structure Lists (cache : CacheIndex) (seated : List UInt32) : Prop where
  index : ∀ handle i, cache.indexOf handle = some i ↔ seated[i.val]? = some handle
  used : ∀ i, cache.indexCache i = true ↔ i.val < seated.length
  nodup : seated.Nodup
  room : seated.length ≤ kMaxSourceLidar

theorem lists_fresh : fresh.Lists [] where
  index handle i := by simp
  used i := by simp [fresh]
  nodup := List.nodup_nil
  room := Nat.zero_le _

variable {cache : CacheIndex} {seated : List UInt32}

/-- The registered LiDARs are the seated ones. -/
theorem Lists.mem_iff (h : cache.Lists seated) {handle : UInt32} :
    handle ∈ seated ↔ ∃ i, cache.indexOf handle = some i := by
  rw [List.mem_iff_getElem?]
  constructor
  · rintro ⟨n, hn⟩
    have hlt : n < kMaxSourceLidar :=
      (List.getElem?_eq_some_iff.mp hn).choose.trans_le h.room
    exact ⟨⟨n, hlt⟩, (h.index handle ⟨n, hlt⟩).mpr hn⟩
  · rintro ⟨i, hi⟩
    exact ⟨i.val, (h.index handle i).mp hi⟩

/-- The first free slot is the next seat. -/
theorem Lists.find?_free (h : cache.Lists seated) :
    (List.finRange kMaxSourceLidar).find? (fun i => !cache.indexCache i) =
      if hlt : seated.length < kMaxSourceLidar then some ⟨seated.length, hlt⟩ else none := by
  split
  case isTrue hlt =>
    rw [List.find?_eq_some_iff_getElem]
    refine ⟨?_, seated.length, by rw [List.length_finRange]; exact hlt, by simp, ?_⟩
    · rw [Bool.not_eq_true', ← Bool.not_eq_true, h.used]
      exact Nat.lt_irrefl _
    · intro j hj
      rw [List.getElem_finRange, Bool.not_not]
      exact (h.used _).mpr hj
  case isFalse hnot =>
    rw [List.find?_eq_none]
    intro i _
    rw [Bool.not_eq_true, Bool.not_eq_false', h.used]
    exact i.isLt.trans_le (Nat.le_of_not_lt hnot)

/-- Registration turns a LiDAR away exactly when it has no seat and none is left. -/
theorem Lists.getFreeIndex_none (h : cache.Lists seated) {handle : UInt32}
    (hnone : cache.getFreeIndex LidarProtoType.kLivoxLidarType.code handle = none) :
    handle ∉ seated ∧ kMaxSourceLidar ≤ seated.length := by
  rw [getFreeIndex_eq] at hnone
  cases hindex : cache.indexOf handle with
  | some i => rw [hindex] at hnone; cases hnone
  | none =>
    refine ⟨fun hmem => ?_, Nat.le_of_not_lt (fun hlt => ?_)⟩
    · obtain ⟨i, hi⟩ := h.mem_iff.mp hmem
      rw [hindex] at hi
      cases hi
    · have hfree := h.find?_free
      rw [dif_pos hlt] at hfree
      simp [hindex, takeFreeIndex, hfree] at hnone

/-- The slot taken for a new LiDAR is the next seat. -/
theorem Lists.val_getFreeIndex (h : cache.Lists seated) {next : CacheIndex} {handle : UInt32}
    {i : Fin kMaxSourceLidar} (hindex : cache.indexOf handle = none)
    (hsome : cache.getFreeIndex LidarProtoType.kLivoxLidarType.code handle = some (next, i)) :
    i.val = seated.length := by
  rw [getFreeIndex_eq, hindex] at hsome
  obtain ⟨free, hfree, htaken⟩ := Option.bind_eq_some_iff.mp hsome
  cases htaken
  rw [h.find?_free] at hfree
  split at hfree
  · cases hfree
    rfl
  · cases hfree

/-- Registration gives a LiDAR the seat that it has, or the next one. -/
theorem Lists.getFreeIndex_some (h : cache.Lists seated) {next : CacheIndex} {handle : UInt32}
    {i : Fin kMaxSourceLidar}
    (hsome : cache.getFreeIndex LidarProtoType.kLivoxLidarType.code handle = some (next, i)) :
    next.Lists (seat kMaxSourceLidar seated handle) := by
  obtain ⟨hindex, rfl⟩ | ⟨hindex, -, hcache, hnext⟩ := getFreeIndex_cases hsome
  · rwa [seat, if_pos (.inl (h.mem_iff.mpr ⟨i, hindex⟩))]
  have hi := h.val_getFreeIndex hindex hsome
  have hnew : handle ∉ seated := by
    intro hmem
    obtain ⟨j, hj⟩ := h.mem_iff.mp hmem
    rw [hindex] at hj
    cases hj
  have hlt : seated.length < kMaxSourceLidar := hi ▸ i.isLt
  have hseat : seat kMaxSourceLidar seated handle = seated ++ [handle] := by
    rw [seat, if_neg]
    rintro (hmem | hle)
    · exact hnew hmem
    · exact absurd hlt (Nat.not_lt.mpr hle)
  refine ⟨fun other j => ?_, fun j => ?_, nodup_seat h.nodup, length_seat_le h.room⟩
  · rw [hnext, hseat]
    by_cases hother : other = handle
    · rw [if_pos hother, hother, Option.some_inj]
      constructor
      · rintro rfl
        rw [hi, List.getElem?_concat_length]
      · intro hj
        rcases Nat.lt_or_ge j.val seated.length with hjlt | hge
        · rw [List.getElem?_append_left hjlt] at hj
          exact absurd (List.mem_of_getElem? hj) hnew
        · have hjle := (List.getElem?_eq_some_iff.mp hj).choose
          rw [List.length_append, List.length_singleton] at hjle
          exact Fin.ext (by omega)
    · rw [if_neg hother, h.index]
      rcases Nat.lt_or_ge j.val seated.length with hjlt | hge
      · rw [List.getElem?_append_left hjlt]
      · rw [List.getElem?_eq_none hge, List.getElem?_append_right hge]
        constructor
        · intro hj; cases hj
        · intro hj
          rw [List.getElem?_singleton] at hj
          split at hj
          · exact absurd (Option.some.inj hj).symm hother
          · cases hj
  · rw [hcache, hseat, List.length_append, List.length_singleton]
    by_cases hj : j = i
    · rw [hj, Function.update_self, hi]
      simp
    · rw [Function.update_of_ne hj, h.used]
      have hne : j.val ≠ seated.length := fun heq => hj (Fin.ext (heq.trans hi.symm))
      omega

end CacheIndex

/-! ## Everything that writes the table -/

variable {R : Type}

/-- The calls that give out slots. -/
inductive TableEvent (R : Type) where
  /-- `InitLivoxLidar`, once the SDK is initialised. -/
  | initLivoxLidar (userConfigs : List (UserLivoxLidarConfig R))
  /-- `LidarInfoChangeCallback`. -/
  | lidarInfoChange (handle : UInt32)

namespace TableEvent

/-- What a call does to the data source. -/
def apply (lds : LdsLidar R) : TableEvent R → LdsLidar R
  | initLivoxLidar userConfigs => userConfigs.foldl LdsLidar.fillInDevice lds
  | lidarInfoChange handle => (lidarInfoChangeCallback handle lds).1

/-- The LiDARs a call asks a slot for, in order. -/
def arrivals : TableEvent R → List UInt32
  | initLivoxLidar userConfigs => userConfigs.map (·.handle)
  | lidarInfoChange handle => [handle]

/-- The LiDARs of the user configs among them. -/
def filledIn : TableEvent R → List UInt32
  | initLivoxLidar userConfigs => userConfigs.map (·.handle)
  | lidarInfoChange _ => []

end TableEvent

namespace LdsLidar

/-- The data source after the given calls. -/
def tableAfter [IntCast R] (events : List (TableEvent R)) : LdsLidar R :=
  events.foldl TableEvent.apply zeroed

/-- The table agrees with the registry: the slot of a LiDAR names it. -/
def TableAgrees (lds : LdsLidar R) : Prop :=
  ∀ handle i, lds.cacheIndex.getIndex LidarProtoType.kLivoxLidarType.code handle = some i →
    (lds.lidars i).handle = handle ∧
    (lds.lidars i).lidarType = LidarProtoType.kLivoxLidarType.code

/-- What the slot of a registered LiDAR says: the type, and its handle if a config
named it. -/
structure Entry (named : Prop) (handle : UInt32) (lidar : LidarDevice R) : Prop where
  lidarType : lidar.lidarType = LidarProtoType.kLivoxLidarType.code
  ofNamed : named → lidar.handle = handle
  ofUnnamed : ¬ named → lidar.handle = 0
  config : lidar.livoxConfig.handle = lidar.handle

theorem Entry.raiseBits {named : Prop} {handle : UInt32} {lidar : LidarDevice R}
    (h : Entry named handle lidar) {bits : List UInt32} :
    Entry named handle (raiseBits lidar bits) :=
  ⟨h.lidarType, h.ofNamed, h.ofUnnamed, h.config⟩

theorem Entry.lowerBit {named : Prop} {handle : UInt32} {lidar : LidarDevice R}
    (h : Entry named handle lidar) {bit : UInt32} : Entry named handle (lowerBit lidar bit) :=
  ⟨h.lidarType, h.ofNamed, h.ofUnnamed, h.config⟩

/-- The state of registry and table after the LiDARs `arrivals` have asked for a
slot, those of `filledIn` through a user config. -/
structure TableInv [IntCast R] (arrivals filledIn : List UInt32) (lds : LdsLidar R) : Prop where
  wellFormed : lds.WellFormed
  seated : lds.cacheIndex.Lists (seats kMaxSourceLidar arrivals)
  named : ∀ handle ∈ filledIn, handle ∈ arrivals
  entry : ∀ handle lidar, lds.device handle = some lidar →
    Entry (handle ∈ filledIn) handle lidar

namespace TableInv

variable [IntCast R] {arrivals filledIn : List UInt32} {lds : LdsLidar R}

theorem zeroed : TableInv [] [] (.zeroed : LdsLidar R) where
  wellFormed := wellFormed_zeroed
  seated := CacheIndex.lists_fresh
  named handle h := by cases h
  entry handle lidar h := by
    obtain ⟨i, hi, -⟩ := Option.map_eq_some_iff.mp h
    rw [show (LdsLidar.zeroed : LdsLidar R).getLidarDevice handle = none from
      CacheIndex.indexOf_fresh handle] at hi
    cases hi

theorem entry_of_index (h : TableInv arrivals filledIn lds) {handle : UInt32}
    {i : Fin kMaxSourceLidar} (hi : lds.getLidarDevice handle = some i) :
    Entry (handle ∈ filledIn) handle (lds.lidars i) :=
  h.entry handle _ (Option.map_eq_some_iff.mpr ⟨i, hi, rfl⟩)

/-- The slot that a LiDAR gets is still zeroed. -/
theorem zeroed_of_new (h : TableInv arrivals filledIn lds) {handle : UInt32}
    {cacheIndex : CacheIndex} {index : Fin kMaxSourceLidar}
    (hnew : lds.getLidarDevice handle = none)
    (hfree : lds.cacheIndex.getFreeIndex LidarProtoType.kLivoxLidarType.code handle =
      some (cacheIndex, index)) : lds.lidars index = .zeroed := by
  obtain ⟨hindex, -⟩ | ⟨-, hunused, -, -⟩ := CacheIndex.getFreeIndex_cases hfree
  · rw [show lds.getLidarDevice handle = some index from hindex] at hnew
    cases hnew
  · exact h.wellFormed.untouched index hunused

/-- The LiDARs of the configs stay among the arrivals. -/
theorem named_concat (h : TableInv arrivals filledIn lds) {handle : UInt32}
    {filledIn' : List UInt32}
    (hsame : ∀ other, other ≠ handle → (other ∈ filledIn' ↔ other ∈ filledIn)) :
    ∀ other ∈ filledIn', other ∈ arrivals ++ [handle] := by
  intro other hother
  by_cases heq : other = handle
  · rw [heq]
    exact List.mem_append_right _ List.mem_cons_self
  · exact List.mem_append_left _ (h.named other ((hsame other heq).mp hother))

/-- A LiDAR that is turned away stays unregistered. -/
theorem turnedAway (h : TableInv arrivals filledIn lds) {handle : UInt32}
    (hnone : lds.cacheIndex.getFreeIndex LidarProtoType.kLivoxLidarType.code handle = none)
    {filledIn' : List UInt32}
    (hsame : ∀ other, other ≠ handle → (other ∈ filledIn' ↔ other ∈ filledIn)) :
    TableInv (arrivals ++ [handle]) filledIn' lds := by
  obtain ⟨hnew, hfull⟩ := h.seated.getFreeIndex_none hnone
  refine ⟨h.wellFormed, ?_, h.named_concat hsame, fun other lidar hother => ?_⟩
  · rw [seats_concat, seat, if_pos (.inr hfull)]
    exact h.seated
  · have hne : other ≠ handle := by
      rintro rfl
      obtain ⟨i, hi, -⟩ := Option.map_eq_some_iff.mp hother
      exact hnew (h.seated.mem_iff.mpr ⟨i, hi⟩)
    rw [hsame other hne]
    exact h.entry other lidar hother

/-- A LiDAR has its slot, and the slot is written. -/
theorem seatedAt (h : TableInv arrivals filledIn lds) {handle : UInt32}
    {cacheIndex : CacheIndex} {index : Fin kMaxSourceLidar}
    (hfree : lds.cacheIndex.getFreeIndex LidarProtoType.kLivoxLidarType.code handle =
      some (cacheIndex, index)) {lidar : LidarDevice R} {filledIn' : List UInt32}
    (hentry : Entry (handle ∈ filledIn') handle lidar)
    (hsame : ∀ other, other ≠ handle → (other ∈ filledIn' ↔ other ∈ filledIn)) :
    TableInv (arrivals ++ [handle]) filledIn'
      ({ lds with cacheIndex := cacheIndex }.setDevice index lidar) := by
  refine ⟨h.wellFormed.getFreeIndex hfree lidar, ?_, h.named_concat hsame,
    fun other found hother => ?_⟩
  · rw [seats_concat]
    exact h.seated.getFreeIndex_some hfree
  · rw [device_getFreeIndex h.wellFormed.sound hfree] at hother
    split at hother
    case isTrue heq =>
      cases hother
      rwa [heq]
    case isFalse hne =>
      rw [hsame other hne]
      exact h.entry other found hother

/-- A registered LiDAR's slot is written, and says the same of the LiDAR. -/
theorem setDevice (h : TableInv arrivals filledIn lds) {handle : UInt32}
    {index : Fin kMaxSourceLidar} (hindex : lds.getLidarDevice handle = some index)
    {lidar : LidarDevice R} (hentry : Entry (handle ∈ filledIn) handle lidar) :
    TableInv arrivals filledIn (lds.setDevice index lidar) := by
  refine ⟨h.wellFormed.setDevice hindex lidar, h.seated, h.named, fun other found hother => ?_⟩
  rw [device_setDevice h.wellFormed.sound hindex] at hother
  split at hother
  case isTrue heq =>
    cases hother
    rwa [heq]
  case isFalse hne => exact h.entry other found hother

/-- One user config is filled in. -/
theorem fillInDevice (h : TableInv arrivals filledIn lds) (config : UserLivoxLidarConfig R) :
    TableInv (arrivals ++ [config.handle]) (filledIn ++ [config.handle])
      (lds.fillInDevice config) := by
  have hsame : ∀ other, other ≠ config.handle →
      (other ∈ filledIn ++ [config.handle] ↔ other ∈ filledIn) := by
    intro other hne
    rw [List.mem_append, List.mem_singleton, or_iff_left hne]
  unfold LdsLidar.fillInDevice
  split
  case h_1 hnone => exact h.turnedAway hnone hsame
  case h_2 cacheIndex index hfree =>
    have hmem : config.handle ∈ filledIn ++ [config.handle] :=
      List.mem_append_right _ List.mem_cons_self
    exact h.seatedAt hfree ⟨rfl, fun _ => rfl, fun hnot => absurd hmem hnot, rfl⟩ hsame

/-- A LiDAR of a user config that is not registered finds no free slot any more. -/
theorem not_named_of_new (h : TableInv arrivals filledIn lds) {handle : UInt32}
    {cacheIndex : CacheIndex} {index : Fin kMaxSourceLidar}
    (hnew : lds.getLidarDevice handle = none)
    (hfree : lds.cacheIndex.getFreeIndex LidarProtoType.kLivoxLidarType.code handle =
      some (cacheIndex, index)) : handle ∉ filledIn := by
  intro hnamed
  have hseat : handle ∉ seats kMaxSourceLidar arrivals := by
    intro hmem
    obtain ⟨i, hi⟩ := h.seated.mem_iff.mp hmem
    rw [show lds.getLidarDevice handle = some i from hi] at hnew
    cases hnew
  have hfull := full_of_not_mem_seats (h.named handle hnamed) hseat
  have hlt := index.isLt
  rw [h.seated.val_getFreeIndex hnew hfree] at hlt
  exact absurd hfull (Nat.not_le.mpr hlt)

/-- One LiDAR is announced. -/
theorem lidarInfoChange (h : TableInv arrivals filledIn lds) (handle : UInt32) :
    TableInv (arrivals ++ [handle]) filledIn (lidarInfoChangeCallback handle lds).1 := by
  unfold lidarInfoChangeCallback
  cases hindex : lds.getLidarDevice handle with
  | none =>
    simp only
    split
    case h_1 hnone => exact h.turnedAway hnone (fun _ _ => Iff.rfl)
    case h_2 cacheIndex index hfree =>
      -- the handle of the slot is not written
      refine h.seatedAt hfree ⟨rfl, fun hnamed => ?_, fun _ => ?_, ?_⟩ (fun _ _ => Iff.rfl)
      · exact absurd hnamed (h.not_named_of_new hindex hfree)
      · rw [h.zeroed_of_new hindex hfree]
        rfl
      · rw [h.zeroed_of_new hindex hfree]
        rfl
  | some index =>
    -- only the bits of the configuration are written
    have hkept : lds.cacheIndex.getFreeIndex LidarProtoType.kLivoxLidarType.code handle =
        some (lds.cacheIndex, index) := by
      rw [CacheIndex.getFreeIndex_eq, show lds.cacheIndex.indexOf handle = some index from hindex]
    exact h.seatedAt hkept (h.entry_of_index hindex).raiseBits (fun _ _ => Iff.rfl)

/-- The loop of `InitLivoxLidar`. -/
theorem initLivoxLidar (h : TableInv arrivals filledIn lds)
    (userConfigs : List (UserLivoxLidarConfig R)) :
    TableInv (arrivals ++ userConfigs.map (·.handle)) (filledIn ++ userConfigs.map (·.handle))
      (userConfigs.foldl LdsLidar.fillInDevice lds) := by
  induction userConfigs generalizing arrivals filledIn lds with
  | nil => simpa using h
  | cons config userConfigs ih =>
    have hrest := ih (h.fillInDevice config)
    rw [List.append_assoc, List.append_assoc] at hrest
    exact hrest

/-- One call. -/
theorem apply (h : TableInv arrivals filledIn lds) (e : TableEvent R) :
    TableInv (arrivals ++ e.arrivals) (filledIn ++ e.filledIn) (e.apply lds) := by
  cases e with
  | initLivoxLidar userConfigs => exact h.initLivoxLidar userConfigs
  | lidarInfoChange handle =>
    rw [TableEvent.filledIn, List.append_nil]
    exact h.lidarInfoChange handle

/-- The slot of a registered LiDAR names it if a config does, or by accident if
its handle is 0. -/
theorem names_iff (h : TableInv arrivals filledIn lds) {handle : UInt32}
    {i : Fin kMaxSourceLidar} (hi : lds.getLidarDevice handle = some i) :
    (lds.lidars i).handle = handle ↔ handle = 0 ∨ handle ∈ filledIn := by
  by_cases hmem : handle ∈ filledIn
  · exact ⟨fun _ => .inr hmem, fun _ => (h.entry_of_index hi).ofNamed hmem⟩
  · rw [(h.entry_of_index hi).ofUnnamed hmem, or_iff_left hmem]
    exact eq_comm

end TableInv

/-- The registry and the table after any calls. -/
theorem tableInv_tableAfter [IntCast R] (events : List (TableEvent R)) :
    TableInv (events.flatMap TableEvent.arrivals) (events.flatMap TableEvent.filledIn)
      (tableAfter events) := by
  induction events using List.reverseRecOn with
  | nil => exact .zeroed
  | append_singleton events e ih =>
    rw [List.flatMap_append, List.flatMap_append, List.flatMap_singleton, List.flatMap_singleton,
      tableAfter, List.foldl_append]
    exact ih.apply e

end LdsLidar

/-- **When the device table agrees with the registry.**

After any calls of `InitLivoxLidar` and `LidarInfoChangeCallback`, in any order
and for any LiDARs, the slot of every registered LiDAR holds its handle and its
type if and only if every LiDAR that got one of the 32 slots, other than the one
with handle 0, is named in a user config given to one of the calls. -/
theorem deviceTable_agrees_iff {R : Type} [IntCast R] (events : List (TableEvent R)) :
    (LdsLidar.tableAfter events).TableAgrees ↔
      ∀ handle ∈ seats kMaxSourceLidar (events.flatMap TableEvent.arrivals),
        handle = 0 ∨ handle ∈ events.flatMap TableEvent.filledIn := by
  have hinv := LdsLidar.tableInv_tableAfter events
  constructor
  · intro hagrees handle hseat
    obtain ⟨i, hi⟩ := hinv.seated.mem_iff.mp hseat
    exact (hinv.names_iff hi).mp (hagrees handle i hi).1
  · intro hnamed handle i hi
    have hseat := hinv.seated.mem_iff.mpr ⟨i, hi⟩
    exact ⟨(hinv.names_iff hi).mpr (hnamed handle hseat), (hinv.entry_of_index hi).lidarType⟩

/-- A LiDAR at 192.168.1.100 that no user config names is registered when it is
announced, and its slot keeps the handle 0. -/
theorem unlisted_lidar_slot_unnamed :
    ¬ ∀ events : List (TableEvent Int), (LdsLidar.tableAfter events).TableAgrees := by
  intro h
  have hinv := LdsLidar.tableInv_tableAfter [(.lidarInfoChange 1677830336 : TableEvent Int)]
  have hseat : (1677830336 : UInt32) ∈ seats kMaxSourceLidar [1677830336] := by decide
  obtain ⟨i, hi⟩ := hinv.seated.mem_iff.mp hseat
  rcases (hinv.names_iff hi).mp (h _ _ i hi).1 with hzero | hnamed
  · exact absurd hzero (by decide)
  · cases hnamed

end RoboRacer.Driver
