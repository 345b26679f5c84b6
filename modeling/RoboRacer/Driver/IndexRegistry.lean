/-
  Driver/IndexRegistry.lean --- the registry over any sequence of calls
  (`comm/cache_index.cpp`).

  The calls run one at a time, with arbitrary handles of type `kLivoxLidarType`:

      CacheIndex.call      one call, with the index it returns
      registryMachine      any calls, one after another
      liveHandles          which LiDARs are registered, told by the calls alone

  The map and the occupancy array stay in step: together they are leases of the
  slots of the device array, and `liveHandles` are their holders.
-/
import Mathlib.Data.Finset.Lattice.Basic
import RoboRacer.Driver.CacheIndex
import RoboRacer.Foundation.Leases
import RoboRacer.Foundation.Machine

set_option autoImplicit false

namespace RoboRacer.Driver

open RoboRacer.Foundation

/-! ## Calls -/

/-- A call of the registry, for a LiDAR of type `kLivoxLidarType`. -/
inductive RegistryCall where
  | getFreeIndex (handle : UInt32)
  | getIndex (handle : UInt32)
  | lvxGetIndex (handle : UInt32)
  | resetIndex (handle : UInt32)
  deriving DecidableEq

namespace CacheIndex

/-- What a call that may register a LiDAR leaves: a call that fails writes nothing. -/
def registered (cache : CacheIndex) :
    Option (CacheIndex × Fin kMaxSourceLidar) → CacheIndex × Option (Fin kMaxSourceLidar)
  | some (next, index) => (next, some index)
  | none => (cache, none)

/-- One call, with the index that it returns. -/
def call (cache : CacheIndex) : RegistryCall → CacheIndex × Option (Fin kMaxSourceLidar)
  | .getFreeIndex handle =>
    cache.registered (cache.getFreeIndex LidarProtoType.kLivoxLidarType.code handle)
  | .getIndex handle => (cache, cache.getIndex LidarProtoType.kLivoxLidarType.code handle)
  | .lvxGetIndex handle =>
    cache.registered (cache.lvxGetIndex LidarProtoType.kLivoxLidarType.code handle)
  | .resetIndex handle => (cache.resetIndex LidarProtoType.kLivoxLidarType.code handle, none)

end CacheIndex

/-- A call and what it returned. -/
abbrev RegistryEvent := RegistryCall × Option (Fin kMaxSourceLidar)

/-- The registry under any calls. -/
def registryMachine : Machine CacheIndex RegistryEvent where
  Init cache := cache = .fresh
  Step cache event next := cache.call event.1 = (next, event.2)

/-- What an event does to the set of live handles: a call that returns an index for
its LiDAR makes it live, until `ResetIndex`. -/
def trackHandle (live : Finset UInt32) : RegistryEvent → Finset UInt32
  | (.getFreeIndex handle, some _) => insert handle live
  | (.lvxGetIndex handle, some _) => insert handle live
  | (.resetIndex handle, _) => live.erase handle
  | _ => live

/-- The handles that are registered after `trace`. -/
def liveHandles (trace : List RegistryEvent) : Finset UInt32 :=
  trace.foldl trackHandle ∅

theorem liveHandles_concat (trace : List RegistryEvent) (event : RegistryEvent) :
    liveHandles (trace ++ [event]) = trackHandle (liveHandles trace) event := by
  rw [liveHandles, List.foldl_concat]
  rfl

namespace CacheIndex

/-! ## One call at a time -/

/-- `LvxGetIndex` is `GetFreeIndex`, which makes the same lookup first. -/
theorem call_lvxGetIndex (cache : CacheIndex) (handle : UInt32) :
    cache.call (.lvxGetIndex handle) = cache.call (.getFreeIndex handle) := by
  simp only [call, lvxGetIndex_eq]

/-- A registered LiDAR keeps its slot. -/
theorem call_getFreeIndex_live {cache : CacheIndex} {handle : UInt32} {i : Fin kMaxSourceLidar}
    (h : cache.indexOf handle = some i) : cache.call (.getFreeIndex handle) = (cache, some i) := by
  simp only [call, getFreeIndex_eq, h]
  rfl

/-- Any other LiDAR gets the first free slot, if there is one. -/
theorem call_getFreeIndex_new {cache : CacheIndex} {handle : UInt32}
    (h : cache.indexOf handle = none) :
    cache.call (.getFreeIndex handle) =
      cache.registered (cache.takeFreeIndex ("livox_lidar_" ++ toString handle.toNat)) := by
  simp only [call, getFreeIndex_eq, h]

theorem resetIndex_eq (cache : CacheIndex) (handle : UInt32) :
    cache.resetIndex LidarProtoType.kLivoxLidarType.code handle =
      match cache.indexOf handle with
      | none => cache
      | some index =>
        ⟨cache.mapIndex.erase ("livox_lidar_" ++ toString handle.toNat),
          Function.update cache.indexCache index false⟩ := rfl

/-! ## The map and the array in step -/

/-- The map and the array of the registry are the same leases of the slots. -/
structure Represents (cache : CacheIndex) (leases : Leases UInt32 (Fin kMaxSourceLidar)) :
    Prop where
  map : cache.indexOf = leases.slotOf
  array : ∀ i, cache.indexCache i = true ↔ ∃ handle, leases.slotOf handle = some i

section Represents

variable {cache next : CacheIndex} {leases : Leases UInt32 (Fin kMaxSourceLidar)}
  {handle : UInt32} {i : Fin kMaxSourceLidar}

/-- The free slots of the array are those that nobody holds. -/
theorem Represents.free_iff (h : cache.Represents leases) :
    leases.Free i ↔ cache.indexCache i = false := by
  rw [← Bool.not_eq_true, h.array]
  exact not_exists.symm

theorem Represents.fresh : CacheIndex.fresh.Represents ⟨fun _ => none, fun h _ => nomatch h⟩ where
  map := funext indexOf_fresh
  array i := by simp [CacheIndex.fresh]

/-- Registration is a lease. -/
theorem Represents.takeFreeIndex (h : cache.Represents leases) (hnew : cache.indexOf handle = none)
    (htake : cache.takeFreeIndex ("livox_lidar_" ++ toString handle.toNat) = some (next, i)) :
    ∃ hfree : leases.Free i, next.Represents (leases.lease handle i hfree) := by
  obtain ⟨hleast, hcache, hindex⟩ := takeFreeIndex_spec htake
  have hfree : leases.Free i := h.free_iff.mpr hleast.1
  refine ⟨hfree, ?_, fun j => ?_⟩
  · rw [hindex, h.map]
    rfl
  · rw [hcache, leases.exists_lease_iff handle hfree (h.map ▸ hnew), ← h.array]
    by_cases hj : j = i
    · simp [hj]
    · simp [hj]

/-- `ResetIndex` of a registered LiDAR is a release. -/
theorem Represents.resetIndex (h : cache.Represents leases)
    (hslot : cache.indexOf handle = some i) :
    (cache.resetIndex LidarProtoType.kLivoxLidarType.code handle).Represents
      (leases.release handle) := by
  rw [resetIndex_eq, hslot]
  refine ⟨?_, fun j => ?_⟩
  · rw [indexOf_erase, h.map]
    rfl
  · rw [leases.exists_release_iff handle (h.map ▸ hslot), ← h.array]
    change Function.update cache.indexCache i false j = true ↔ _
    by_cases hj : j = i
    · simp [hj]
    · simp [hj]

end Represents

/-! ## Every sequence of calls -/

/-- The registry after some calls, and the handles that these left live. -/
structure InStep (live : Finset UInt32) (cache : CacheIndex) : Prop where
  represents : ∃ leases, cache.Represents leases
  live : ∀ handle, handle ∈ live ↔ (cache.indexOf handle).isSome

section InStep

variable {live : Finset UInt32} {cache next : CacheIndex} {handle : UInt32}
  {result : Option (Fin kMaxSourceLidar)}

theorem InStep.getFreeIndex (h : InStep live cache)
    (hcall : cache.call (.getFreeIndex handle) = (next, result)) :
    InStep (trackHandle live (.getFreeIndex handle, result)) next := by
  cases hslot : cache.indexOf handle with
  | some i =>
    rw [call_getFreeIndex_live hslot] at hcall
    cases hcall
    have hmem : handle ∈ live := (h.live handle).mpr (by rw [hslot]; rfl)
    refine ⟨h.represents, fun other => ?_⟩
    rw [trackHandle, Finset.insert_eq_of_mem hmem]
    exact h.live other
  | none =>
    rw [call_getFreeIndex_new hslot] at hcall
    cases htake : cache.takeFreeIndex ("livox_lidar_" ++ toString handle.toNat) with
    | none =>
      rw [htake] at hcall
      cases hcall
      exact h
    | some taken =>
      obtain ⟨cache', i⟩ := taken
      rw [htake] at hcall
      cases hcall
      obtain ⟨leases, hleases⟩ := h.represents
      obtain ⟨hfree, hnext⟩ := hleases.takeFreeIndex hslot htake
      refine ⟨⟨_, hnext⟩, fun other => ?_⟩
      rw [trackHandle, Finset.mem_insert, h.live, (takeFreeIndex_spec htake).2.2,
        Function.update_apply]
      split
      case isTrue heq => simp [heq]
      case isFalse hne => simp [hne]

theorem InStep.resetIndex (h : InStep live cache)
    (hcall : cache.call (.resetIndex handle) = (next, result)) :
    InStep (trackHandle live (.resetIndex handle, result)) next := by
  cases hcall
  rw [trackHandle]
  cases hslot : cache.indexOf handle with
  | none =>
    have habsent : handle ∉ live := by
      rw [h.live, hslot]
      exact Bool.false_ne_true
    rw [Finset.erase_eq_of_notMem habsent, resetIndex_eq, hslot]
    exact h
  | some i =>
    obtain ⟨leases, hleases⟩ := h.represents
    refine ⟨⟨_, hleases.resetIndex hslot⟩, fun other => ?_⟩
    rw [Finset.mem_erase, h.live, resetIndex_eq, hslot, indexOf_erase, Function.update_apply]
    split
    case isTrue heq => simp [heq]
    case isFalse hne => simp [hne]

/-- Every call keeps the registry in step. -/
theorem InStep.call (h : InStep live cache) {event : RegistryEvent}
    (hcall : cache.call event.1 = (next, event.2)) : InStep (trackHandle live event) next := by
  obtain ⟨call, result⟩ := event
  cases call with
  | getFreeIndex handle => exact h.getFreeIndex hcall
  | getIndex handle =>
    cases hcall
    exact h
  | lvxGetIndex handle =>
    rw [call_lvxGetIndex] at hcall
    have hsame : trackHandle live (.lvxGetIndex handle, result) =
        trackHandle live (.getFreeIndex handle, result) := by
      cases result <;> rfl
    rw [hsame]
    exact h.getFreeIndex hcall
  | resetIndex handle => exact h.resetIndex hcall

theorem inStep_fresh : InStep ∅ fresh where
  represents := ⟨_, .fresh⟩
  live handle := by simp

/-- The registry is in step after any calls. -/
theorem inStep_of_run {trace : List RegistryEvent} {cache : CacheIndex}
    (hrun : registryMachine.Run .fresh trace cache) : InStep (liveHandles trace) cache := by
  induction hrun with
  | nil => exact inStep_fresh
  | snoc _ hstep ih =>
    rw [liveHandles_concat]
    exact ih.call hstep

end InStep

end CacheIndex

/-! ## The specification -/

/-- What a registry with the given live handles does. -/
structure RegistrySpec (live : Finset UInt32) (cache : CacheIndex) : Prop where
  mapped : ∀ handle, handle ∈ live ↔ ∃ i, cache.indexOf handle = some i
  injective : ∀ handle ∈ live, ∀ other ∈ live,
    cache.indexOf handle = cache.indexOf other → handle = other
  occupied : ∀ i, cache.indexCache i = true ↔ ∃ handle ∈ live, cache.indexOf handle = some i
  getFreeIndex_live : ∀ handle ∈ live,
    cache.call (.getFreeIndex handle) = (cache, cache.indexOf handle)
  getFreeIndex_new : ∀ handle, handle ∉ live → ∀ i,
    (cache.call (.getFreeIndex handle)).2 = some i →
      IsLeast {j | cache.indexCache j = false} i ∧
      (cache.call (.getFreeIndex handle)).1.indexOf =
        Function.update cache.indexOf handle (some i)
  getFreeIndex_fails : ∀ handle,
    (cache.call (.getFreeIndex handle)).2 = none ↔ (live.erase handle).card = kMaxSourceLidar
  getFreeIndex_unchanged : ∀ handle,
    (cache.call (.getFreeIndex handle)).2 = none → (cache.call (.getFreeIndex handle)).1 = cache
  lvxGetIndex : ∀ handle, cache.call (.lvxGetIndex handle) = cache.call (.getFreeIndex handle)
  getIndex_succeeds : ∀ handle, (cache.call (.getIndex handle)).2.isSome ↔ handle ∈ live
  getIndex_returns : ∀ handle, cache.call (.getIndex handle) = (cache, cache.indexOf handle)
  resetIndex : ∀ handle,
    (cache.call (.resetIndex handle)).1.indexOf = Function.update cache.indexOf handle none

namespace CacheIndex

section Spec

variable {live : Finset UInt32} {cache : CacheIndex}

theorem InStep.mem_iff (h : InStep live cache) (handle : UInt32) :
    handle ∈ live ↔ ∃ i, cache.indexOf handle = some i := by
  rw [h.live, Option.isSome_iff_exists]

/-- A registry without a free slot has as many live handles as slots. -/
theorem InStep.takeFreeIndex_eq_none_iff (h : InStep live cache) (key : String) :
    cache.takeFreeIndex key = none ↔ live.card = kMaxSourceLidar := by
  obtain ⟨leases, hleases⟩ := h.represents
  have hholders : ∀ handle, handle ∈ live ↔ (leases.slotOf handle).isSome := by
    intro handle
    rw [h.live, hleases.map]
  have hfull := leases.forall_not_free_iff hholders
  rw [Fintype.card_fin] at hfull
  rw [CacheIndex.takeFreeIndex_eq_none_iff, ← hfull]
  refine forall_congr' fun i => ?_
  rw [hleases.free_iff, Bool.not_eq_false]

/-- Never more handles are live than there are slots. -/
theorem InStep.card_le (h : InStep live cache) : live.card ≤ kMaxSourceLidar := by
  obtain ⟨leases, hleases⟩ := h.represents
  have hholders : ∀ handle ∈ live, (leases.slotOf handle).isSome := by
    intro handle hmem
    rw [← hleases.map]
    exact (h.live handle).mp hmem
  have hle := leases.card_le hholders
  rwa [Fintype.card_fin] at hle

theorem InStep.getFreeIndex_fails (h : InStep live cache) (handle : UInt32) :
    (cache.call (.getFreeIndex handle)).2 = none ↔
      (live.erase handle).card = kMaxSourceLidar := by
  cases hslot : cache.indexOf handle with
  | some i =>
    have hmem : handle ∈ live := (h.mem_iff handle).mpr ⟨i, hslot⟩
    have hle := h.card_le
    have hpos : 0 < live.card := Finset.card_pos.mpr ⟨handle, hmem⟩
    rw [call_getFreeIndex_live hslot, Finset.card_erase_of_mem hmem]
    constructor
    · intro hnone
      cases hnone
    · intro hcard
      omega
  | none =>
    have habsent : handle ∉ live := by
      rw [h.live, hslot]
      exact Bool.false_ne_true
    rw [call_getFreeIndex_new hslot, Finset.erase_eq_of_notMem habsent,
      ← h.takeFreeIndex_eq_none_iff ("livox_lidar_" ++ toString handle.toNat)]
    cases cache.takeFreeIndex ("livox_lidar_" ++ toString handle.toNat) with
    | none => exact ⟨fun _ => rfl, fun _ => rfl⟩
    | some taken => exact ⟨fun hnone => (nomatch hnone), fun hnone => (nomatch hnone)⟩

/-- A registry in step does what it should. -/
theorem InStep.spec (h : InStep live cache) : RegistrySpec live cache where
  mapped := h.mem_iff
  injective handle hmem other _ heq := by
    obtain ⟨leases, hleases⟩ := h.represents
    obtain ⟨i, hi⟩ := (h.mem_iff handle).mp hmem
    rw [hi, hleases.map] at heq
    rw [hleases.map] at hi
    exact leases.injective hi heq.symm
  occupied i := by
    obtain ⟨leases, hleases⟩ := h.represents
    rw [hleases.array, ← hleases.map]
    exact exists_congr fun handle =>
      ⟨fun hi => ⟨(h.mem_iff handle).mpr ⟨i, hi⟩, hi⟩, And.right⟩
  getFreeIndex_live handle hmem := by
    obtain ⟨i, hi⟩ := (h.mem_iff handle).mp hmem
    rw [call_getFreeIndex_live hi, hi]
  getFreeIndex_new handle habsent i hi := by
    have hslot : cache.indexOf handle = none := by
      rw [Option.eq_none_iff_forall_ne_some]
      exact fun i hi => habsent ((h.mem_iff handle).mpr ⟨i, hi⟩)
    rw [call_getFreeIndex_new hslot] at hi ⊢
    cases htake : cache.takeFreeIndex ("livox_lidar_" ++ toString handle.toNat) with
    | none =>
      rw [htake] at hi
      cases hi
    | some taken =>
      rw [htake] at hi
      cases hi
      obtain ⟨hleast, -, hindex⟩ := takeFreeIndex_spec htake
      exact ⟨hleast, hindex⟩
  getFreeIndex_fails := h.getFreeIndex_fails
  getFreeIndex_unchanged handle hnone := by
    simp only [CacheIndex.call] at hnone ⊢
    cases hfree : cache.getFreeIndex LidarProtoType.kLivoxLidarType.code handle with
    | none => rfl
    | some taken =>
      rw [hfree] at hnone
      cases hnone
  lvxGetIndex := cache.call_lvxGetIndex
  getIndex_succeeds handle := (h.live handle).symm
  getIndex_returns _ := rfl
  resetIndex handle := by
    change (cache.resetIndex LidarProtoType.kLivoxLidarType.code handle).indexOf = _
    rw [resetIndex_eq]
    cases hslot : cache.indexOf handle with
    | none =>
      dsimp only
      rw [← hslot, Function.update_eq_self]
    | some i => exact indexOf_erase ..

end Spec

end CacheIndex

/-- **The index registry.**  After any calls with any handles, the registry has
given every live handle a slot of its own, knows which slots are in use, and goes on
to serve every call as specified. -/
theorem registry_spec {trace : List RegistryEvent} {cache : CacheIndex}
    (hrun : registryMachine.Run .fresh trace cache) :
    RegistrySpec (liveHandles trace) cache :=
  (CacheIndex.inStep_of_run hrun).spec


theorem registry_spec_register_reset :
    ∃ cache, registryMachine.Run .fresh
        [(.getFreeIndex 5, some ⟨0, by decide⟩), (.resetIndex 5, none)] cache ∧
      RegistrySpec
        (liveHandles [(.getFreeIndex 5, some ⟨0, by decide⟩), (.resetIndex 5, none)]) cache := by
  have hrun : registryMachine.Run .fresh
      [(.getFreeIndex 5, some ⟨0, by decide⟩), (.resetIndex 5, none)] _ :=
    .snoc (.snoc (.nil _) rfl) rfl
  exact ⟨_, hrun, registry_spec hrun⟩

end RoboRacer.Driver
