/-
  Driver/Registration.lean --- two threads that register the same LiDAR
  (`comm/cache_index.cpp`, `CacheIndex::GetFreeIndex`).

  `GetFreeIndex` locks `index_mutex_` twice, once to look the LiDAR up and once to
  take a free slot.  Each of the two critical sections is one step, and the second
  one does not look again whether the LiDAR is registered by now:

      RegistrationState.step   one critical section of one of two calls
      registration_agrees_iff  when the two calls register the LiDAR once
-/
import RoboRacer.Driver.IndexRegistry

set_option autoImplicit false

namespace RoboRacer.Driver

open RoboRacer.Foundation

/-! ## Two calls -/

/-- The two threads in `GetFreeIndex`. -/
inductive Caller where
  | first
  | second
  deriving DecidableEq

def Caller.other : Caller → Caller
  | .first => .second
  | .second => .first

theorem Caller.other_ne (c : Caller) : c.other ≠ c := by
  cases c <;> decide

@[simp] theorem Caller.other_other (c : Caller) : c.other.other = c := by
  cases c <;> rfl

theorem Caller.eq_or_eq_other (c d : Caller) : d = c ∨ d = c.other := by
  cases c <;> cases d <;> decide

/-- Where a call of `GetFreeIndex` is. -/
inductive GetFreeIndexPc where
  /-- In front of the critical section that looks the key up. -/
  | lookup
  /-- In front of the critical section that takes a free slot. -/
  | take
  /-- The call has returned an index, or failed. -/
  | returned (index : Option (Fin kMaxSourceLidar))

/-- The registry and the two calls, both for the LiDAR with the given handle. -/
structure RegistrationState where
  cache : CacheIndex
  pc : Caller → GetFreeIndexPc

namespace RegistrationState

/-- Both calls are about to begin. -/
def initial (cache : CacheIndex) : RegistrationState where
  cache := cache
  pc := fun _ => .lookup

/-- A call moves on, and leaves the registry as it is. -/
def setPc (s : RegistrationState) (c : Caller) (pc : GetFreeIndexPc) : RegistrationState :=
  { s with pc := Function.update s.pc c pc }

/-- One critical section of one call. -/
def step (handle : UInt32) (s : RegistrationState) (c : Caller) : Option RegistrationState := do
  let key ← CacheIndex.generateIndexKey LidarProtoType.kLivoxLidarType.code handle
  match s.pc c with
  | .lookup =>
    match s.cache.mapIndex[key]? with
    | some index => return s.setPc c (.returned (some index))
    | none => return s.setPc c .take
  | .take =>
    match s.cache.takeFreeIndex key with
    | some (cache, index) => return { s with cache := cache }.setPc c (.returned (some index))
    | none => return s.setPc c (.returned none)
  | .returned _ => none

/-- Both calls have returned. -/
def Finished (s : RegistrationState) : Prop :=
  ∀ c, ∃ index, s.pc c = .returned index

end RegistrationState

/-- Two calls of `GetFreeIndex` for one handle, in any interleaving. -/
def registrationMachine (handle : UInt32) (cache : CacheIndex) :
    Machine RegistrationState Caller :=
  .ofStep (.initial cache) (RegistrationState.step handle)

/-! ## The property -/

namespace CacheIndex

/-- The entries of `index_cache_` that are taken. -/
def takenSlots (cache : CacheIndex) : Finset (Fin kMaxSourceLidar) :=
  Finset.univ.filter (fun i => cache.indexCache i = true)

/-- The entries of `index_cache_` that are free. -/
def freeSlots (cache : CacheIndex) : Finset (Fin kMaxSourceLidar) :=
  Finset.univ.filter (fun i => cache.indexCache i = false)

end CacheIndex

/-- The calls that succeed return one index, and the registry has one more entry than
`cache` had. -/
structure RegisteredOnce (cache : CacheIndex) (s : RegistrationState) : Prop where
  sameIndex : ∀ i j, s.pc .first = .returned (some i) → s.pc .second = .returned (some j) → i = j
  oneEntry : s.cache.takenSlots.card = cache.takenSlots.card + 1

/-- One call runs both of its critical sections before the other begins. -/
def Sequential (schedule : List Caller) : Prop :=
  ∃ c rest, schedule = c :: c :: rest

/-! ## Critical sections -/

namespace CacheIndex

variable {cache next : CacheIndex} {handle : UInt32} {i : Fin kMaxSourceLidar}

/-- A taken slot moves from the free ones to the taken ones. -/
theorem slots_takeFreeIndex
    (h : cache.takeFreeIndex ("livox_lidar_" ++ toString handle.toNat) = some (next, i)) :
    i ∈ cache.freeSlots ∧ next.freeSlots = cache.freeSlots.erase i ∧
      next.takenSlots.card = cache.takenSlots.card + 1 := by
  obtain ⟨hleast, hcache, -⟩ := takeFreeIndex_spec h
  have hi : cache.indexCache i = false := hleast.1
  have htaken : next.takenSlots = insert i cache.takenSlots := by
    ext j
    simp only [takenSlots, Finset.mem_filter, Finset.mem_univ, true_and, Finset.mem_insert, hcache,
      Function.update_apply]
    split
    case isTrue heq => simp [heq]
    case isFalse hne => simp [hne]
  have hfresh : i ∉ cache.takenSlots := by
    simp [takenSlots, hi]
  refine ⟨by simp [freeSlots, hi], ?_, by rw [htaken, Finset.card_insert_of_notMem hfresh]⟩
  ext j
  simp only [freeSlots, Finset.mem_filter, Finset.mem_univ, true_and, Finset.mem_erase, hcache,
    Function.update_apply]
  split
  case isTrue heq => simp [heq]
  case isFalse hne => simp [hne]

/-- Nothing is taken exactly when nothing is free. -/
theorem takeFreeIndex_eq_none_iff_freeSlots (key : String) :
    cache.takeFreeIndex key = none ↔ cache.freeSlots = ∅ := by
  rw [takeFreeIndex_eq_none_iff, freeSlots, Finset.filter_eq_empty_iff]
  simp

end CacheIndex

namespace RegistrationState

variable {handle : UInt32} {s t : RegistrationState} {c : Caller}

/-- What the second critical section leaves. -/
def afterTake (handle : UInt32) (s : RegistrationState) (c : Caller) : RegistrationState :=
  match s.cache.takeFreeIndex ("livox_lidar_" ++ toString handle.toNat) with
  | some (cache, index) => { s with cache := cache }.setPc c (.returned (some index))
  | none => s.setPc c (.returned none)

theorem step_eq (handle : UInt32) (s : RegistrationState) (c : Caller) :
    step handle s c = match s.pc c with
      | .lookup =>
        match s.cache.indexOf handle with
        | some index => some (s.setPc c (.returned (some index)))
        | none => some (s.setPc c .take)
      | .take =>
        match s.cache.takeFreeIndex ("livox_lidar_" ++ toString handle.toNat) with
        | some (cache, index) =>
          some ({ s with cache := cache }.setPc c (.returned (some index)))
        | none => some (s.setPc c (.returned none))
      | .returned _ => none := rfl

theorem step_lookup_new (hpc : s.pc c = .lookup) (hnew : s.cache.indexOf handle = none) :
    step handle s c = some (s.setPc c .take) := by
  simp only [step_eq, hpc, hnew]

theorem step_lookup_found {i : Fin kMaxSourceLidar} (hpc : s.pc c = .lookup)
    (hfound : s.cache.indexOf handle = some i) :
    step handle s c = some (s.setPc c (.returned (some i))) := by
  simp only [step_eq, hpc, hfound]

theorem step_take (hpc : s.pc c = .take) :
    step handle s c = some (s.afterTake handle c) := by
  rw [step_eq, hpc, afterTake]
  dsimp only
  cases s.cache.takeFreeIndex ("livox_lidar_" ++ toString handle.toNat) with
  | none => rfl
  | some taken => rfl

theorem step_returned {index : Option (Fin kMaxSourceLidar)} (hpc : s.pc c = .returned index) :
    step handle s c = none := by
  simp only [step_eq, hpc]

@[simp] theorem pc_setPc_self (pc : GetFreeIndexPc) : (s.setPc c pc).pc c = pc :=
  Function.update_self ..

@[simp] theorem pc_setPc_other (pc : GetFreeIndexPc) : (s.setPc c pc).pc c.other = s.pc c.other :=
  Function.update_of_ne c.other_ne ..

/-- Both calls are moved to the same place. -/
theorem pc_setPc_setPc_other (c : Caller) (pc : GetFreeIndexPc) (d : Caller) :
    ((s.setPc c pc).setPc c.other pc).pc d = pc := by
  rcases c.eq_or_eq_other d with rfl | rfl
  · have hkept := pc_setPc_other (c := d.other) (s := s.setPc d pc) pc
    rw [Caller.other_other] at hkept
    rw [hkept, pc_setPc_self]
  · exact pc_setPc_self _

@[simp] theorem cache_setPc (pc : GetFreeIndexPc) : (s.setPc c pc).cache = s.cache := rfl

/-- The second critical section ends its call, and leaves the other one where it is. -/
theorem pc_afterTake (handle : UInt32) (s : RegistrationState) (c : Caller) :
    (∃ index, (s.afterTake handle c).pc c = .returned index) ∧
      (s.afterTake handle c).pc c.other = s.pc c.other := by
  unfold afterTake
  split
  · exact ⟨⟨_, pc_setPc_self _⟩, pc_setPc_other _⟩
  · exact ⟨⟨_, pc_setPc_self _⟩, pc_setPc_other _⟩

/-! ## Runs to the end -/

/-- A run that is not at its end has a next section. -/
theorem exists_step_of_not_finished {rest : List Caller}
    (h : rest.foldlM (step handle) s = some t) (ht : t.Finished) (hs : ¬ s.Finished) :
    ∃ d rest' u, rest = d :: rest' ∧ step handle s d = some u ∧
      rest'.foldlM (step handle) u = some t := by
  cases rest with
  | nil =>
    cases h
    exact absurd ht hs
  | cons d rest =>
    rw [List.foldlM_cons] at h
    obtain ⟨u, hu, hrest⟩ := Option.bind_eq_some_iff.mp h
    exact ⟨d, rest, u, rfl, hu, hrest⟩

theorem not_finished {pc : GetFreeIndexPc} (hpc : s.pc c = pc) (h : ∀ index, pc ≠ .returned index) :
    ¬ s.Finished := by
  intro hs
  obtain ⟨index, hindex⟩ := hs c
  exact h index (hpc.symm.trans hindex)

/-- When both calls have returned, no section is left to run. -/
theorem eq_of_finished {rest : List Caller} (h : rest.foldlM (step handle) s = some t)
    (hs : s.Finished) : t = s := by
  cases rest with
  | nil =>
    cases h
    rfl
  | cons c rest =>
    obtain ⟨index, hpc⟩ := hs c
    rw [List.foldlM_cons, step_returned hpc] at h
    cases h

/-- Once one call has returned, the next section is one of the other call. -/
theorem exists_step_other {rest : List Caller} {index : Option (Fin kMaxSourceLidar)}
    (h : rest.foldlM (step handle) s = some t) (ht : t.Finished)
    (hc : s.pc c = .returned index) (hother : ∀ index, s.pc c.other ≠ .returned index) :
    ∃ u rest', step handle s c.other = some u ∧
      List.foldlM (step handle) u rest' = some t := by
  obtain ⟨d, rest', u, -, hu, hrest⟩ := exists_step_of_not_finished h ht (not_finished rfl hother)
  rcases c.eq_or_eq_other d with rfl | rfl
  · rw [step_returned hc] at hu
    cases hu
  · exact ⟨u, rest', hu, hrest⟩

theorem finished_of_both {first second : Option (Fin kMaxSourceLidar)}
    (hc : s.pc c = .returned first) (hother : s.pc c.other = .returned second) : s.Finished := by
  intro d
  rcases c.eq_or_eq_other d with rfl | rfl
  · exact ⟨first, hc⟩
  · exact ⟨second, hother⟩

/-- A call that looks up after the other one has registered the LiDAR finds it. -/
theorem finish_lookup {rest : List Caller} {index : Option (Fin kMaxSourceLidar)}
    {i : Fin kMaxSourceLidar} (h : rest.foldlM (step handle) s = some t) (ht : t.Finished)
    (hc : s.pc c = .returned index) (hother : s.pc c.other = .lookup)
    (hfound : s.cache.indexOf handle = some i) :
    t = s.setPc c.other (.returned (some i)) := by
  obtain ⟨u, rest', hu, hrest⟩ := exists_step_other h ht hc (by simp [hother])
  rw [step_lookup_found hother hfound] at hu
  cases hu
  have hkept : (s.setPc c.other (.returned (some i))).pc c = .returned index := by
    have hother' := pc_setPc_other (s := s) (c := c.other) (.returned (some i))
    rw [Caller.other_other] at hother'
    rw [hother', hc]
  exact eq_of_finished hrest (finished_of_both hkept (pc_setPc_self _))

/-- A call that has looked up in vain takes a slot, whatever the other one did since. -/
theorem finish_take {rest : List Caller} {index : Option (Fin kMaxSourceLidar)}
    (h : rest.foldlM (step handle) s = some t) (ht : t.Finished)
    (hc : s.pc c = .returned index) (hother : s.pc c.other = .take) :
    t = s.afterTake handle c.other := by
  obtain ⟨u, rest', hu, hrest⟩ := exists_step_other h ht hc (by simp [hother])
  rw [step_take hother] at hu
  cases hu
  obtain ⟨⟨taken, htaken⟩, hkept⟩ := pc_afterTake handle s c.other
  rw [Caller.other_other, hc] at hkept
  exact eq_of_finished hrest (finished_of_both hkept htaken)

/-- A registry without a free slot stays as it is. -/
theorem cache_eq_of_full {schedule : List Caller} (hfull : s.cache.freeSlots = ∅)
    (h : schedule.foldlM (step handle) s = some t) : t.cache = s.cache := by
  induction schedule generalizing s with
  | nil =>
    cases h
    rfl
  | cons c schedule ih =>
    rw [List.foldlM_cons] at h
    obtain ⟨u, hu, hrest⟩ := Option.bind_eq_some_iff.mp h
    have hstep : u.cache = s.cache := by
      rw [step_eq, (CacheIndex.takeFreeIndex_eq_none_iff_freeSlots _).mpr hfull] at hu
      split at hu
      case h_1 =>
        split at hu
        · cases hu
          rfl
        · cases hu
          rfl
      case h_2 =>
        cases hu
        rfl
      case h_3 => cases hu
    rw [ih (hstep ▸ hfull) hrest, hstep]

end RegistrationState

/-! ## When the calls agree -/

theorem not_sequential_other (c : Caller) (rest : List Caller) :
    ¬ Sequential (c :: c.other :: rest) := by
  rintro ⟨d, rest', heq⟩
  obtain ⟨hc, htail⟩ := List.cons.inj heq
  obtain ⟨hother, -⟩ := List.cons.inj htail
  exact c.other_ne (hother.trans hc.symm)

/-- The property, told from the side of either call. -/
theorem registeredOnce_iff {cache : CacheIndex} {s : RegistrationState} (c : Caller)
    {index index' : Option (Fin kMaxSourceLidar)} (hc : s.pc c = .returned index)
    (hother : s.pc c.other = .returned index') :
    RegisteredOnce cache s ↔ (∀ i j, index = some i → index' = some j → i = j) ∧
      s.cache.takenSlots.card = cache.takenSlots.card + 1 := by
  have hsame : (∀ i j, s.pc .first = .returned (some i) →
      s.pc .second = .returned (some j) → i = j) ↔
        ∀ i j, index = some i → index' = some j → i = j := by
    cases c with
    | first =>
      rw [hc, show s.pc .second = .returned index' from hother]
      simp only [GetFreeIndexPc.returned.injEq]
    | second =>
      rw [hc, show s.pc .first = .returned index' from hother]
      simp only [GetFreeIndexPc.returned.injEq]
      exact ⟨fun h i j hi hj => (h j i hj hi).symm, fun h i j hi hj => (h j i hj hi).symm⟩
  rw [← hsame]
  exact ⟨fun h => ⟨h.sameIndex, h.oneEntry⟩, fun h => ⟨h.1, h.2⟩⟩

section Schedules

open RegistrationState

variable {handle : UInt32} {cache : CacheIndex} {s : RegistrationState} {c : Caller}
  {rest : List Caller}

/-- With a free slot a call takes one. -/
theorem afterTake_of_free {t : RegistrationState} (hfree : t.cache.freeSlots.Nonempty)
    (handle : UInt32) (c : Caller) :
    ∃ next i, t.cache.takeFreeIndex ("livox_lidar_" ++ toString handle.toNat) = some (next, i) ∧
      t.afterTake handle c = { t with cache := next }.setPc c (.returned (some i)) := by
  cases htake : t.cache.takeFreeIndex ("livox_lidar_" ++ toString handle.toNat) with
  | none =>
    rw [CacheIndex.takeFreeIndex_eq_none_iff_freeSlots] at htake
    exact absurd htake hfree.ne_empty
  | some taken =>
    refine ⟨taken.1, taken.2, rfl, ?_⟩
    rw [afterTake, htake]

/-- One call after the other: the second one finds what the first one has taken. -/
theorem registeredOnce_of_sequential {t : RegistrationState} (hcache : t.cache = cache)
    (hother : t.pc c.other = .lookup) (hfree : cache.freeSlots.Nonempty)
    (h : rest.foldlM (step handle) (t.afterTake handle c) = some s) (hs : s.Finished) :
    RegisteredOnce cache s := by
  subst hcache
  obtain ⟨next, i, htake, hstate⟩ := afterTake_of_free hfree handle c
  rw [hstate] at h
  have hfound : next.indexOf handle = some i := by
    rw [(CacheIndex.takeFreeIndex_spec htake).2.2, Function.update_self]
  have hend := finish_lookup (c := c) h hs (pc_setPc_self _)
    ((pc_setPc_other _).trans hother) hfound
  subst hend
  rw [registeredOnce_iff c.other (pc_setPc_self _)
    ((pc_setPc_other _).trans (by rw [Caller.other_other]; exact pc_setPc_self _))]
  refine ⟨fun j k hj hk => Option.some.inj (hj.symm.trans hk), ?_⟩
  exact (CacheIndex.slots_takeFreeIndex htake).2.2

/-- Both lookups first: both calls take a slot, and only the lack of a second one
keeps them from taking two. -/
theorem registeredOnce_of_interleaved {t : RegistrationState} (hcache : t.cache = cache)
    (hother : t.pc c.other = .take) (hfree : cache.freeSlots.Nonempty)
    (h : rest.foldlM (step handle) (t.afterTake handle c) = some s) (hs : s.Finished) :
    RegisteredOnce cache s ↔ cache.freeSlots.card = 1 := by
  subst hcache
  obtain ⟨next, i, htake, hstate⟩ := afterTake_of_free hfree handle c
  obtain ⟨hi, herase, hcard⟩ := CacheIndex.slots_takeFreeIndex htake
  rw [hstate] at h
  have hend := finish_take (c := c) h hs (pc_setPc_self _) ((pc_setPc_other _).trans hother)
  have hleft : next.freeSlots = ∅ ↔ t.cache.freeSlots.card = 1 := by
    rw [herase, ← Finset.card_eq_zero, Finset.card_erase_of_mem hi]
    have hpos := hfree.card_pos
    omega
  cases hsecond : next.takeFreeIndex ("livox_lidar_" ++ toString handle.toNat) with
  | none =>
    rw [afterTake, cache_setPc, hsecond] at hend
    subst hend
    rw [registeredOnce_iff c.other (pc_setPc_self _)
      ((pc_setPc_other _).trans (by rw [Caller.other_other]; exact pc_setPc_self _)), ← hleft]
    rw [CacheIndex.takeFreeIndex_eq_none_iff_freeSlots] at hsecond
    refine ⟨fun _ => hsecond, fun _ => ⟨?_, hcard⟩⟩
    intro j k hj
    cases hj
  | some taken =>
    obtain ⟨last, j⟩ := taken
    rw [afterTake, cache_setPc, hsecond] at hend
    subst hend
    obtain ⟨hj, -, -⟩ := CacheIndex.slots_takeFreeIndex hsecond
    rw [registeredOnce_iff c.other (pc_setPc_self _)
      ((pc_setPc_other _).trans (by rw [Caller.other_other]; exact pc_setPc_self _)), ← hleft]
    constructor
    · rintro ⟨hsame, -⟩
      rw [herase, hsame j i rfl rfl] at hj
      exact absurd rfl (Finset.ne_of_mem_erase hj)
    · intro hempty
      rw [hempty] at hj
      exact absurd hj (Finset.notMem_empty j)

/-- Where no slot is free no schedule takes one. -/
theorem not_registeredOnce_of_full {schedule : List Caller} (hfull : cache.freeSlots = ∅)
    (h : schedule.foldlM (step handle) (.initial cache) = some s) : ¬ RegisteredOnce cache s := by
  intro honce
  have hcard := honce.oneEntry
  have hcache : s.cache = cache := cache_eq_of_full (by exact hfull) h
  rw [hcache] at hcard
  omega

end Schedules

/-- **Concurrent registration.**  Two calls for a LiDAR that is not registered yet
register it once exactly when only one slot is free, or one is free and one call
runs both of its critical sections first. -/
theorem registration_agrees_iff {handle : UInt32} {cache : CacheIndex}
    (hnew : cache.indexOf handle = none) {schedule : List Caller} {s : RegistrationState}
    (hrun : (registrationMachine handle cache).Run (.initial cache) schedule s)
    (hs : s.Finished) :
    RegisteredOnce cache s ↔
      cache.freeSlots.card = 1 ∨ (cache.freeSlots.Nonempty ∧ Sequential schedule) := by
  have hfold := Machine.foldlM_of_run hrun
  by_cases hfree : cache.freeSlots.Nonempty
  · have hstart : ∀ c, (RegistrationState.initial cache).pc c = .lookup := fun _ => rfl
    obtain ⟨c, tail, t, rfl, ht, htail⟩ := RegistrationState.exists_step_of_not_finished hfold hs
      (RegistrationState.not_finished (hstart .first) (by simp))
    rw [RegistrationState.step_lookup_new (hstart c) hnew] at ht
    cases ht
    obtain ⟨d, rest, u, rfl, hu, hrest⟩ :=
      RegistrationState.exists_step_of_not_finished htail hs
        (RegistrationState.not_finished (c := c) (RegistrationState.pc_setPc_self _) (by simp))
    rcases c.eq_or_eq_other d with rfl | rfl
    · rw [RegistrationState.step_take (RegistrationState.pc_setPc_self _)] at hu
      cases hu
      have honce : RegisteredOnce cache s := registeredOnce_of_sequential rfl
        ((RegistrationState.pc_setPc_other _).trans (hstart d.other)) hfree hrest hs
      exact ⟨fun _ => .inr ⟨hfree, d, rest, rfl⟩, fun _ => honce⟩
    · have hother : ((RegistrationState.initial cache).setPc c .take).pc c.other = .lookup :=
        (RegistrationState.pc_setPc_other _).trans (hstart c.other)
      rw [RegistrationState.step_lookup_new hother hnew] at hu
      cases hu
      -- from here on both calls are in front of the section that takes a slot
      have hboth := RegistrationState.pc_setPc_setPc_other
        (s := RegistrationState.initial cache) c .take
      obtain ⟨e, last, v, rfl, hv, hlast⟩ :=
        RegistrationState.exists_step_of_not_finished hrest hs
          (RegistrationState.not_finished (hboth c) (by simp))
      rw [RegistrationState.step_take (hboth e)] at hv
      cases hv
      have hiff : RegisteredOnce cache s ↔ cache.freeSlots.card = 1 :=
        registeredOnce_of_interleaved rfl (hboth e.other) hfree hlast hs
      rw [hiff]
      constructor
      · exact Or.inl
      · rintro (hcard | ⟨-, hseq⟩)
        · exact hcard
        · exact absurd hseq (not_sequential_other c _)
  · rw [Finset.not_nonempty_iff_eq_empty] at hfree
    refine iff_of_false (not_registeredOnce_of_full hfree hfold) ?_
    rintro (hcard | ⟨hnonempty, -⟩)
    · rw [hfree] at hcard
      cases hcard
    · exact absurd hfree hnonempty.ne_empty

theorem registration_agrees_in_turn :
    ∃ s, (registrationMachine 5 .fresh).Run (.initial .fresh) [.first, .first, .second] s ∧
      (RegisteredOnce .fresh s ↔ CacheIndex.fresh.freeSlots.card = 1 ∨
        (CacheIndex.fresh.freeSlots.Nonempty ∧ Sequential [.first, .first, .second])) := by
  have hfold : List.foldlM (RegistrationState.step 5) (.initial .fresh)
      [Caller.first, .first, .second] = some _ := rfl
  have hrun : (registrationMachine 5 .fresh).Run (.initial .fresh) _ _ := Machine.run_ofStep hfold
  refine ⟨_, hrun, registration_agrees_iff (CacheIndex.indexOf_fresh 5) hrun ?_⟩
  intro c
  cases c with
  | first => exact ⟨_, rfl⟩
  | second => exact ⟨_, rfl⟩

/-- Both calls look up before either takes a slot: on a fresh registry the LiDAR
ends up with two slots. -/
theorem registered_twice :
    ¬ ∀ (cache : CacheIndex) (handle : UInt32) (schedule : List Caller) (s : RegistrationState),
      registryMachine.Reachable cache → cache.indexOf handle = none →
      (registrationMachine handle cache).Run (.initial cache) schedule s → s.Finished →
      RegisteredOnce cache s := by
  intro h
  have hfold : List.foldlM (RegistrationState.step 5) (.initial .fresh)
      [Caller.first, .second, .first, .second] = some _ := rfl
  have honce := h .fresh 5 _ _ (.init rfl) (CacheIndex.indexOf_fresh 5)
    (Machine.run_ofStep hfold) (by
      intro c
      cases c with
      | first => exact ⟨some ⟨0, by decide⟩, rfl⟩
      | second => exact ⟨some ⟨1, by decide⟩, rfl⟩)
  have hsame := honce.sameIndex ⟨0, by decide⟩ ⟨1, by decide⟩ rfl rfl
  exact absurd hsame (by decide)

end RoboRacer.Driver
