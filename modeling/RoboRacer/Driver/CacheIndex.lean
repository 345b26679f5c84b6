/-
  Driver/CacheIndex.lean --- the index registry of the data source
  (`comm/cache_index.cpp`).

  A LiDAR is known to the driver by its handle, its IPv4 address as a number.
  `CacheIndex` gives each handle a slot of the device array and finds it again.
  An index is a `Fin kMaxSourceLidar`, so no lookup leaves the device array.
-/
import Mathlib.Data.List.FinRange
import Mathlib.Logic.Function.Basic
import Mathlib.Order.Bounds.Defs
import RoboRacer.Driver.Types
import Std.Data.String.ToNat
import Std.Data.TreeMap.Lemmas

set_option autoImplicit false

namespace RoboRacer.Driver

/-- `CacheIndex`: the key of every registered LiDAR with its slot, and the slots
in use. -/
structure CacheIndex where
  mapIndex : Std.TreeMap String (Fin kMaxSourceLidar)
  indexCache : Fin kMaxSourceLidar → Bool

namespace CacheIndex

/-- The constructor: nothing registered, every slot free. -/
def fresh : CacheIndex where
  mapIndex := ∅
  indexCache := fun _ => false

/-- `GenerateIndexKey`: only the Livox type has keys. -/
def generateIndexKey (livoxLidarType : UInt8) (handle : UInt32) : Option String :=
  if livoxLidarType = LidarProtoType.kLivoxLidarType.code then
    some ("livox_lidar_" ++ toString handle.toNat)
  else none

/-- `GetIndex`. -/
def getIndex (cache : CacheIndex) (livoxLidarType : UInt8) (handle : UInt32) :
    Option (Fin kMaxSourceLidar) := do
  let key ← generateIndexKey livoxLidarType handle
  cache.mapIndex[key]?

/-- The second critical section of `GetFreeIndex`: the first free slot is taken
for `key`. -/
def takeFreeIndex (cache : CacheIndex) (key : String) :
    Option (CacheIndex × Fin kMaxSourceLidar) := do
  let i ← (List.finRange kMaxSourceLidar).find? (fun i => !cache.indexCache i)
  return ({ mapIndex := cache.mapIndex.insert key i
            indexCache := Function.update cache.indexCache i true }, i)

/-- `GetFreeIndex`: the slot of a registered LiDAR, else the first free one. -/
def getFreeIndex (cache : CacheIndex) (livoxLidarType : UInt8) (handle : UInt32) :
    Option (CacheIndex × Fin kMaxSourceLidar) := do
  let key ← generateIndexKey livoxLidarType handle
  match cache.mapIndex[key]? with
  | some index => return (cache, index)
  | none => cache.takeFreeIndex key

/-- `LvxGetIndex`: the slot of a registered LiDAR, and registration of any other. -/
def lvxGetIndex (cache : CacheIndex) (livoxLidarType : UInt8) (handle : UInt32) :
    Option (CacheIndex × Fin kMaxSourceLidar) := do
  let key ← generateIndexKey livoxLidarType handle
  match cache.mapIndex[key]? with
  | some index => return (cache, index)
  | none => cache.getFreeIndex livoxLidarType handle

/-- `ResetIndex`, for a device of the given type and handle. -/
def resetIndex (cache : CacheIndex) (lidarType : UInt8) (handle : UInt32) : CacheIndex :=
  match generateIndexKey lidarType handle with
  | none => cache
  | some key =>
    match cache.mapIndex[key]? with
    | none => cache
    | some index =>
      { mapIndex := cache.mapIndex.erase key
        indexCache := Function.update cache.indexCache index false }

/-! ## What the registry means -/

/-- The slot of a Livox LiDAR. -/
def indexOf (cache : CacheIndex) (handle : UInt32) : Option (Fin kMaxSourceLidar) :=
  cache.getIndex LidarProtoType.kLivoxLidarType.code handle

/-- Registered slots are marked as used, and no two LiDARs share one. -/
structure Sound (cache : CacheIndex) : Prop where
  used : ∀ handle i, cache.indexOf handle = some i → cache.indexCache i = true
  injective : ∀ handle other i,
    cache.indexOf handle = some i → cache.indexOf other = some i → handle = other

/-- Two Livox LiDARs with one key are one LiDAR. -/
theorem key_injective {handle other : UInt32}
    (h : "livox_lidar_" ++ toString handle.toNat = "livox_lidar_" ++ toString other.toNat) :
    handle = other := by
  have hrepr : handle.toNat.repr = other.toNat.repr := by simpa using h
  exact UInt32.toNat_inj.mp (Nat.repr_injective hrepr)

theorem indexOf_eq (cache : CacheIndex) (handle : UInt32) :
    cache.indexOf handle = cache.mapIndex["livox_lidar_" ++ toString handle.toNat]? := rfl

@[simp] theorem indexOf_fresh (handle : UInt32) : fresh.indexOf handle = none := by
  rw [indexOf_eq]
  exact Std.TreeMap.getElem?_emptyc

theorem sound_fresh : fresh.Sound where
  used handle i h := by rw [indexOf_fresh] at h; cases h
  injective handle other i h := by rw [indexOf_fresh] at h; cases h

theorem getFreeIndex_eq (cache : CacheIndex) (handle : UInt32) :
    cache.getFreeIndex LidarProtoType.kLivoxLidarType.code handle =
      match cache.indexOf handle with
      | some index => some (cache, index)
      | none => cache.takeFreeIndex ("livox_lidar_" ++ toString handle.toNat) := rfl

theorem lvxGetIndex_eq (cache : CacheIndex) (handle : UInt32) :
    cache.lvxGetIndex LidarProtoType.kLivoxLidarType.code handle =
      cache.getFreeIndex LidarProtoType.kLivoxLidarType.code handle := by
  have hunfold : cache.lvxGetIndex LidarProtoType.kLivoxLidarType.code handle =
      match cache.indexOf handle with
      | some index => some (cache, index)
      | none => cache.getFreeIndex LidarProtoType.kLivoxLidarType.code handle := rfl
  rw [hunfold, getFreeIndex_eq]
  cases cache.indexOf handle with
  | none => rfl
  | some index => rfl

/-- A key is entered for one LiDAR only. -/
theorem indexOf_insert (cache : CacheIndex) (handle : UInt32) (i : Fin kMaxSourceLidar)
    (indexCache : Fin kMaxSourceLidar → Bool) :
    indexOf ⟨cache.mapIndex.insert ("livox_lidar_" ++ toString handle.toNat) i, indexCache⟩ =
      Function.update cache.indexOf handle (some i) := by
  funext other
  rw [indexOf_eq, Std.TreeMap.getElem?_insert, ← indexOf_eq]
  by_cases hother : other = handle
  · rw [hother, Function.update_self, if_pos Std.ReflCmp.compare_self]
  · rw [Function.update_of_ne hother, if_neg]
    intro hcompare
    exact hother (key_injective (Std.LawfulEqCmp.eq_of_compare hcompare)).symm

/-- A key is erased for one LiDAR only. -/
theorem indexOf_erase (cache : CacheIndex) (handle : UInt32)
    (indexCache : Fin kMaxSourceLidar → Bool) :
    indexOf ⟨cache.mapIndex.erase ("livox_lidar_" ++ toString handle.toNat), indexCache⟩ =
      Function.update cache.indexOf handle none := by
  funext other
  rw [indexOf_eq, Std.TreeMap.getElem?_erase, ← indexOf_eq]
  by_cases hother : other = handle
  · rw [hother, Function.update_self, if_pos Std.ReflCmp.compare_self]
  · rw [Function.update_of_ne hother, if_neg]
    intro hcompare
    exact hother (key_injective (Std.LawfulEqCmp.eq_of_compare hcompare)).symm

/-- The second critical section takes the first free slot. -/
theorem takeFreeIndex_spec {cache next : CacheIndex} {handle : UInt32} {i : Fin kMaxSourceLidar}
    (h : cache.takeFreeIndex ("livox_lidar_" ++ toString handle.toNat) = some (next, i)) :
    IsLeast {j | cache.indexCache j = false} i ∧
      next.indexCache = Function.update cache.indexCache i true ∧
      next.indexOf = Function.update cache.indexOf handle (some i) := by
  obtain ⟨free, hfree, htaken⟩ := Option.bind_eq_some_iff.mp h
  cases htaken
  refine ⟨?_, rfl, indexOf_insert ..⟩
  obtain ⟨hi, before, after, hsplit, hbefore⟩ := List.find?_eq_some_iff_append.mp hfree
  refine ⟨by simpa using hi, fun j hj => ?_⟩
  have hsorted : (before ++ i :: after).Pairwise (· ≤ ·) := by
    rw [← hsplit]
    exact (List.pairwise_lt_finRange _).imp le_of_lt
  have hmem : j ∈ before ++ i :: after := hsplit ▸ List.mem_finRange j
  rcases List.mem_append.mp hmem with hearlier | hlater
  · have htaken := hbefore j hearlier
    rw [show cache.indexCache j = false from hj] at htaken
    cases htaken
  · have hle := (List.pairwise_append.mp hsorted).2.1
    rcases List.mem_cons.mp hlater with rfl | hlater
    · exact le_refl _
    · exact (List.pairwise_cons.mp hle).1 j hlater

/-- It takes one whenever there is one. -/
theorem takeFreeIndex_eq_none_iff (cache : CacheIndex) (key : String) :
    cache.takeFreeIndex key = none ↔ ∀ i, cache.indexCache i = true := by
  unfold takeFreeIndex
  simp only [Option.bind_eq_bind, Option.bind_eq_none_iff, Option.pure_def, reduceCtorEq,
    imp_false]
  rw [← Option.eq_none_iff_forall_ne_some, List.find?_eq_none]
  simp

/-- **Registration.**  `GetFreeIndex` either finds the LiDAR registered and
changes nothing, or gives it a slot that was free and leaves the others alone. -/
theorem getFreeIndex_cases {cache next : CacheIndex} {handle : UInt32}
    {i : Fin kMaxSourceLidar}
    (h : cache.getFreeIndex LidarProtoType.kLivoxLidarType.code handle = some (next, i)) :
    (cache.indexOf handle = some i ∧ next = cache) ∨
    (cache.indexOf handle = none ∧ cache.indexCache i = false ∧
      next.indexCache = Function.update cache.indexCache i true ∧
      ∀ other, next.indexOf other = if other = handle then some i else cache.indexOf other) := by
  rw [getFreeIndex_eq] at h
  cases hfound : cache.indexOf handle with
  | some index =>
    rw [hfound] at h
    cases h
    exact .inl ⟨rfl, rfl⟩
  | none =>
    rw [hfound] at h
    obtain ⟨hleast, hcache, hindex⟩ := takeFreeIndex_spec h
    refine .inr ⟨rfl, hleast.1, hcache, fun other => ?_⟩
    rw [hindex, Function.update_apply]

/-- Once registered, a LiDAR is found in its slot. -/
theorem indexOf_getFreeIndex {cache next : CacheIndex} {handle : UInt32}
    {i : Fin kMaxSourceLidar}
    (h : cache.getFreeIndex LidarProtoType.kLivoxLidarType.code handle = some (next, i)) :
    next.indexOf handle = some i := by
  obtain ⟨hfound, rfl⟩ | ⟨-, -, -, hnext⟩ := getFreeIndex_cases h
  · exact hfound
  · rw [hnext, if_pos rfl]

/-- A LiDAR other than the one asked for keeps its slot. -/
theorem indexOf_getFreeIndex_other {cache next : CacheIndex} {handle other : UInt32}
    {i : Fin kMaxSourceLidar}
    (h : cache.getFreeIndex LidarProtoType.kLivoxLidarType.code handle = some (next, i))
    (hne : other ≠ handle) : next.indexOf other = cache.indexOf other := by
  obtain ⟨-, rfl⟩ | ⟨-, -, -, hnext⟩ := getFreeIndex_cases h
  · rfl
  · rw [hnext, if_neg hne]

theorem Sound.getFreeIndex {cache next : CacheIndex} (hsound : cache.Sound)
    {handle : UInt32} {i : Fin kMaxSourceLidar}
    (h : cache.getFreeIndex LidarProtoType.kLivoxLidarType.code handle = some (next, i)) :
    next.Sound := by
  obtain ⟨-, rfl⟩ | ⟨-, hfree, hcache, hnext⟩ := getFreeIndex_cases h
  · exact hsound
  -- no registered LiDAR sits in a slot that was free
  have hfresh : ∀ other, cache.indexOf other ≠ some i := by
    intro other hother
    rw [hsound.used other i hother] at hfree
    cases hfree
  constructor
  · intro other j hother
    rw [hnext] at hother
    rw [hcache]
    by_cases heq : other = handle
    · rw [if_pos heq] at hother
      cases hother
      exact Function.update_self ..
    · rw [if_neg heq] at hother
      by_cases hj : j = i
      · rw [hj, Function.update_self]
      · rw [Function.update_of_ne hj]
        exact hsound.used other j hother
  · intro first second j hfirst hsecond
    rw [hnext] at hfirst hsecond
    split at hfirst <;> split at hsecond
    case isTrue.isTrue heq heq' => rw [heq, heq']
    case isTrue.isFalse => exact absurd (hsecond.trans hfirst.symm) (hfresh second)
    case isFalse.isTrue => exact absurd (hfirst.trans hsecond.symm) (hfresh first)
    case isFalse.isFalse => exact hsound.injective first second j hfirst hsecond

/-- From the fresh registry any LiDAR gets a slot. -/
theorem exists_registered (handle : UInt32) :
    ∃ (cache : CacheIndex) (i : Fin kMaxSourceLidar),
      cache.Sound ∧ cache.indexOf handle = some i := by
  obtain ⟨cache, i, hfree⟩ : ∃ cache i,
      fresh.getFreeIndex LidarProtoType.kLivoxLidarType.code handle = some (cache, i) := by
    rw [getFreeIndex_eq, indexOf_fresh]
    exact ⟨_, _, rfl⟩
  exact ⟨cache, i, sound_fresh.getFreeIndex hfree, indexOf_getFreeIndex hfree⟩

end CacheIndex

end RoboRacer.Driver
