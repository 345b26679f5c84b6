/-
  Slam/LoopSearch.lean --- the back end (`graph_based_slam_component.cpp`:
  `map_array_callback`, `searchLoop`, `map_save_callback`).

  The callbacks of the node run one at a time.  A map array replaces the one before
  it; a tick of the timer looks once for a loop in it; and the edges of the loops
  stay for the life of the node:

      closeLoop             one search for a loop
      GraphBasedSlam.step   one callback, and its call of `doPoseAdjustment`
      loopEdges_inBounds_iff
                            when every loop edge has both of its vertices

  Distances and scores are an arbitrary type with a comparison and a subtraction.
  Registration is a function that every tick may choose anew.  A submap access out
  of range is a step that cannot be taken.
-/
import RoboRacer.Slam.ModifiedMap

set_option autoImplicit false

namespace RoboRacer.Slam

open RoboRacer.Foundation

variable {H G P V Q D : Type}

/-! ## Searching a loop -/

/-- The parameters of the node, and the operations it takes from its libraries. -/
structure GraphSlamConfig (H G P V Q D : Type) where
  thresholdLoopClosureScore : D
  distanceLoopClosure : D
  rangeOfSearchingLoopClosure : D
  searchSubmapNum : Int
  numAdjacentPoseCnstraints : Int
  useSaveMapInLoop : Bool
  tf : PoseMsgs G V Q
  /-- `VoxelGrid` with the leaf size `voxel_leaf_size`. -/
  voxelGrid : List P → List P
  /-- The norm of the difference of two positions. -/
  dist : V → V → D
  /-- `std::numeric_limits<double>::max()`. -/
  maxDouble : D
  /-- A `SubMap` as it is constructed. -/
  emptySubmap : StampedSubMap H P V Q D

/-- The outcome of `align`. -/
structure Registration (G D : Type) where
  finalTransformation : G
  fitnessScore : D

/-- The variables of the loop over the submaps. -/
structure Candidate (H P V Q D : Type) where
  isCandidate : Bool
  idMin : Nat
  minDist : D
  minSubmap : StampedSubMap H P V Q D

/-- `map_array_msg.submaps[k]`. -/
def submapAt (submaps : List (StampedSubMap H P V Q D)) (k : Int) :
    Option (StampedSubMap H P V Q D) :=
  if 0 ≤ k then submaps[k.toNat]? else none

section Search

variable [LT D] [DecidableLT D] [Sub D]

/-- The body of the loop over the submaps. -/
def considerSubmap (config : GraphSlamConfig H G P V Q D) (latest : StampedSubMap H P V Q D)
    (candidate : Candidate H P V Q D) (entry : StampedSubMap H P V Q D × Nat) :
    Candidate H P V Q D :=
  let dist := config.dist latest.pose.position entry.1.pose.position
  if config.distanceLoopClosure < latest.distance - entry.1.distance ∧
      dist < config.rangeOfSearchingLoopClosure then
    if dist < candidate.minDist then
      { isCandidate := true, idMin := entry.2, minDist := dist, minSubmap := entry.1 }
    else { candidate with isCandidate := true }
  else candidate

/-- The loop over the submaps. -/
def searchCandidate (config : GraphSlamConfig H G P V Q D) (latest : StampedSubMap H P V Q D)
    (submaps : List (StampedSubMap H P V Q D)) : Candidate H P V Q D :=
  submaps.zipIdx.foldl (considerSubmap config latest)
    { isCandidate := false, idMin := 0, minDist := config.maxDouble,
      minSubmap := config.emptySubmap }

/-- The body of the loop that gathers the clouds near the candidate. -/
def addNearSubmap [SMul G P] (config : GraphSlamConfig H G P V Q D)
    (submaps : List (StampedSubMap H P V Q D)) (idMin : Nat) (clouds : List P) (j : Nat) :
    Option (List P) :=
  if (idMin : Int) + j - config.searchSubmapNum < 0 then some clouds
  else do
    let near ← submapAt submaps (idMin + j - config.searchSubmapNum)
    return clouds ++ transformPointCloud near.cloud (config.tf.fromMsg near.pose)

/-- What `searchLoop` does with a new map array: the edge that it closes a loop with,
if it finds one. -/
def closeLoop [Group G] [SMul G P] (config : GraphSlamConfig H G P V Q D)
    (align : List P → List P → Registration G D) (submaps : List (StampedSubMap H P V Q D)) :
    Option (Option (LoopEdge G)) := do
  let latest ← submapAt submaps (submaps.length - 1)
  let candidate := searchCandidate config latest submaps
  if candidate.isCandidate then
    let clouds ← (List.range (2 * config.searchSubmapNum + 1).toNat).foldlM
      (addNearSubmap config submaps candidate.idMin) []
    let initAffine := config.tf.fromMsg latest.pose
    let outcome := align (transformPointCloud latest.cloud initAffine) (config.voxelGrid clouds)
    if outcome.fitnessScore < config.thresholdLoopClosureScore then
      let submapAffine := config.tf.fromMsg candidate.minSubmap.pose
      return some
        { pairId := (candidate.idMin, submaps.length - 1)
          relativePose := submapAffine⁻¹ * (outcome.finalTransformation * initAffine) }
    else return none
  else return none

end Search

/-! ## The node -/

/-- The members that the callbacks share. -/
structure GraphBasedSlam (H G P V Q D : Type) where
  mapArrayMsg : MapArray H P V Q D
  initialMapArrayReceived : Bool
  isMapArrayUpdated : Bool
  loopEdges : List (LoopEdge G)

/-- The callbacks. -/
inductive GraphSlamEvent (H G P V Q D : Type) where
  | mapArray (msg : MapArray H P V Q D)
  /-- A tick, with what registration will make of the clouds it is given. -/
  | searchLoop (align : List P → List P → Registration G D)
  | mapSave

/-- A call of `doPoseAdjustment`, with the loop edges as they are then. -/
structure PoseAdjustment (H G P V Q D : Type) where
  mapArray : MapArray H P V Q D
  loopEdges : List (LoopEdge G)
  doSaveMap : Bool

section Node

variable [LT D] [DecidableLT D] [Sub D] [Group G] [SMul G P]

/-- One callback.  `doPoseAdjustment` publishes, and changes no member. -/
def GraphBasedSlam.step (config : GraphSlamConfig H G P V Q D) (s : GraphBasedSlam H G P V Q D) :
    GraphSlamEvent H G P V Q D →
      Option (GraphBasedSlam H G P V Q D × Option (PoseAdjustment H G P V Q D))
  | .mapArray msg =>
    some ({ s with
      mapArrayMsg := msg
      initialMapArrayReceived := true
      isMapArrayUpdated := true }, none)
  | .searchLoop align =>
    if s.initialMapArrayReceived = false then some (s, none)
    else if s.isMapArrayUpdated = false then some (s, none)
    else do
      let s := { s with isMapArrayUpdated := false }
      match ← closeLoop config align s.mapArrayMsg.submaps with
      | none => return (s, none)
      | some loopEdge =>
        let s := { s with loopEdges := s.loopEdges ++ [loopEdge] }
        return (s, some ⟨s.mapArrayMsg, s.loopEdges, config.useSaveMapInLoop⟩)
  | .mapSave =>
    if s.initialMapArrayReceived = false then some (s, none)
    else some (s, some ⟨s.mapArrayMsg, s.loopEdges, true⟩)

/-- The node and the calls of `doPoseAdjustment` so far, oldest first. -/
structure GraphSlamSession (H G P V Q D : Type) where
  slam : GraphBasedSlam H G P V Q D
  adjustments : List (PoseAdjustment H G P V Q D)

/-- The node as it is constructed. -/
def GraphSlamSession.initial (config : GraphSlamConfig H G P V Q D) :
    GraphSlamSession H G P V Q D where
  slam :=
    { mapArrayMsg :=
        { header := config.emptySubmap.header, submaps := [], cloudCoordinate := 0 }
      initialMapArrayReceived := false
      isMapArrayUpdated := false
      loopEdges := [] }
  adjustments := []

/-- One callback of the session. -/
def GraphSlamSession.step (config : GraphSlamConfig H G P V Q D)
    (s : GraphSlamSession H G P V Q D) (e : GraphSlamEvent H G P V Q D) :
    Option (GraphSlamSession H G P V Q D) :=
  (s.slam.step config e).map fun (slam, call) => ⟨slam, s.adjustments ++ call.toList⟩

/-- The back end, over any callbacks. -/
def graphSlamMachine (config : GraphSlamConfig H G P V Q D) :
    Machine (GraphSlamSession H G P V Q D) (GraphSlamEvent H G P V Q D) :=
  .ofStep (.initial config) (GraphSlamSession.step config)

end Node

/-! ## The property -/

/-- Both indices of every stored loop edge are smaller than the number of submaps. -/
def PoseAdjustment.InBounds (call : PoseAdjustment H G P V Q D) : Prop :=
  ∀ loopEdge ∈ call.loopEdges,
    loopEdge.pairId.1 < call.mapArray.submaps.length ∧
    loopEdge.pairId.2 < call.mapArray.submaps.length

/-- The pose graph of a call: none when `optimizer.vertex` is null for an edge. -/
def PoseAdjustment.optimizer [Group G] (config : GraphSlamConfig H G P V Q D)
    (call : PoseAdjustment H G P V Q D) : Option (Optimizer G) :=
  mapGraph config.tf config.numAdjacentPoseCnstraints call.loopEdges call.mapArray

/-! ## What one search does -/

section SearchLemmas

theorem bounds_of_submapAt {submaps : List (StampedSubMap H P V Q D)} {k : Int}
    {submap : StampedSubMap H P V Q D} (h : submapAt submaps k = some submap) :
    0 ≤ k ∧ k < submaps.length := by
  unfold submapAt at h
  split at h
  case isFalse => cases h
  case isTrue hk =>
    have hlt := (List.getElem?_eq_some_iff.mp h).1
    omega

variable [LT D] [DecidableLT D] [Sub D] {config : GraphSlamConfig H G P V Q D}

/-- The candidate is one of the submaps, or still the first one. -/
theorem idMin_lt {latest : StampedSubMap H P V Q D} {n : Nat}
    (entries : List (StampedSubMap H P V Q D × Nat)) (hentries : ∀ entry ∈ entries, entry.2 < n)
    {candidate : Candidate H P V Q D} (hcandidate : candidate.idMin < n) :
    (entries.foldl (considerSubmap config latest) candidate).idMin < n := by
  induction entries generalizing candidate with
  | nil => exact hcandidate
  | cons entry entries ih =>
    rw [List.forall_mem_cons] at hentries
    refine ih hentries.2 ?_
    unfold considerSubmap
    dsimp only
    split
    · split
      · exact hentries.1
      · exact hcandidate
    · exact hcandidate

variable [Group G] [SMul G P]

/-- The edge that closes a loop joins a submap to the latest one. -/
theorem closeLoop_spec {align : List P → List P → Registration G D}
    {submaps : List (StampedSubMap H P V Q D)} {loopEdge : LoopEdge G}
    (h : closeLoop config align submaps = some (some loopEdge)) :
    0 ≤ loopEdge.pairId.1 ∧ loopEdge.pairId.1 ≤ loopEdge.pairId.2 ∧
      loopEdge.pairId.2 + 1 = submaps.length := by
  unfold closeLoop at h
  obtain ⟨latest, hlatest, h⟩ := Option.bind_eq_some_iff.mp h
  have hbound := bounds_of_submapAt hlatest
  have hid : (searchCandidate config latest submaps).idMin < submaps.length := by
    refine idMin_lt _ (fun entry hentry => ?_) (by dsimp only; omega)
    exact (List.mem_zipIdx' hentry).1
  dsimp only at h
  split at h
  case isFalse => cases h
  case isTrue =>
    obtain ⟨clouds, -, h⟩ := Option.bind_eq_some_iff.mp h
    split at h
    case isFalse => cases h
    case isTrue =>
      cases h
      dsimp only
      omega

end SearchLemmas

/-! ## Which loops have been closed -/

/-- The map array that was received last. -/
def latestMap (events : List (GraphSlamEvent H G P V Q D)) : Option (MapArray H P V Q D) :=
  events.foldl (fun map e => match e with
    | .mapArray msg => some msg
    | _ => map) none

/-- No tick has come since the last map array. -/
def mapUpdated (events : List (GraphSlamEvent H G P V Q D)) : Bool :=
  events.foldl (fun updated e => match e with
    | .mapArray _ => true
    | .searchLoop _ => false
    | .mapSave => updated) false

theorem latestMap_concat (events : List (GraphSlamEvent H G P V Q D))
    (e : GraphSlamEvent H G P V Q D) :
    latestMap (events ++ [e]) = match e with
      | .mapArray msg => some msg
      | _ => latestMap events := by
  rw [latestMap, List.foldl_concat]
  rfl

/-- The last map array has been received. -/
theorem mem_of_latestMap {events : List (GraphSlamEvent H G P V Q D)} {map : MapArray H P V Q D}
    (h : latestMap events = some map) : .mapArray map ∈ events := by
  induction events using List.reverseRecOn with
  | nil => cases h
  | append_singleton events e ih =>
    rw [latestMap_concat] at h
    cases e with
    | mapArray msg =>
      cases h
      exact List.mem_append_right _ (List.mem_singleton_self _)
    | searchLoop align => exact List.mem_append_left _ (ih h)
    | mapSave => exact List.mem_append_left _ (ih h)

theorem mapUpdated_concat (events : List (GraphSlamEvent H G P V Q D))
    (e : GraphSlamEvent H G P V Q D) :
    mapUpdated (events ++ [e]) = match e with
      | .mapArray _ => true
      | .searchLoop _ => false
      | .mapSave => mapUpdated events := by
  rw [mapUpdated, List.foldl_concat]
  rfl

section Closures

variable [LT D] [DecidableLT D] [Sub D] [Group G] [SMul G P]

/-- A tick that comes behind `events` closes a loop in `map`. -/
structure ClosesLoop (config : GraphSlamConfig H G P V Q D)
    (events : List (GraphSlamEvent H G P V Q D)) (align : List P → List P → Registration G D)
    (map : MapArray H P V Q D) : Prop where
  updated : mapUpdated events = true
  latest : latestMap events = some map
  closes : ∃ loopEdge, closeLoop config align map.submaps = some (some loopEdge)

/-- A callback that comes behind `events` adjusts the poses of `map`. -/
def Adjusts (config : GraphSlamConfig H G P V Q D) (events : List (GraphSlamEvent H G P V Q D)) :
    GraphSlamEvent H G P V Q D → MapArray H P V Q D → Prop
  | .mapArray _, _ => False
  | .searchLoop align, map => ClosesLoop config events align map
  | .mapSave, map => latestMap events = some map

/-- Some tick of `events` has closed a loop in a map of `n` submaps. -/
def ClosedIn (config : GraphSlamConfig H G P V Q D) (events : List (GraphSlamEvent H G P V Q D))
    (n : Nat) : Prop :=
  ∃ earlier align map, earlier ++ [.searchLoop align] <+: events ∧
    ClosesLoop config earlier align map ∧ map.submaps.length = n

/-- Every map whose poses are adjusted has at least as many submaps as each map in
which a loop was closed before. -/
def KeepsSubmaps (config : GraphSlamConfig H G P V Q D)
    (events : List (GraphSlamEvent H G P V Q D)) : Prop :=
  ∀ earlier e, earlier ++ [e] <+: events → ∀ map, Adjusts config earlier e map →
    ∀ n, ClosedIn config earlier n → n ≤ map.submaps.length

variable {config : GraphSlamConfig H G P V Q D} {events : List (GraphSlamEvent H G P V Q D)}

/-- One more callback: a loop is closed if it was before, or if this tick closes it. -/
theorem closedIn_concat_iff {e : GraphSlamEvent H G P V Q D} {n : Nat} :
    ClosedIn config (events ++ [e]) n ↔ ClosedIn config events n ∨
      ∃ align map, e = .searchLoop align ∧ ClosesLoop config events align map ∧
        map.submaps.length = n := by
  simp only [ClosedIn, Machine.prefix_concat_concat_iff]
  constructor
  · rintro ⟨earlier, align, map, hpre | ⟨rfl, rfl⟩, hcloses, hn⟩
    · exact .inl ⟨earlier, align, map, hpre, hcloses, hn⟩
    · exact .inr ⟨align, map, rfl, hcloses, hn⟩
  · rintro (⟨earlier, align, map, hpre, hcloses, hn⟩ | ⟨align, map, rfl, hcloses, hn⟩)
    · exact ⟨earlier, align, map, .inl hpre, hcloses, hn⟩
    · exact ⟨events, align, map, .inr ⟨rfl, rfl⟩, hcloses, hn⟩

theorem not_closedIn_nil {n : Nat} : ¬ ClosedIn config [] n := by
  rintro ⟨earlier, align, map, hpre, -⟩
  exact Machine.not_prefix_nil hpre

/-- Only the last map array is adjusted. -/
theorem latestMap_of_adjusts {e : GraphSlamEvent H G P V Q D} {map : MapArray H P V Q D}
    (h : Adjusts config events e map) : latestMap events = some map := by
  cases e with
  | mapArray msg => exact absurd h id
  | searchLoop align => exact ClosesLoop.latest h
  | mapSave => exact h

/-! ## The invariant -/

/-- What the members of the node remember of its callbacks. -/
structure GraphBasedSlam.Remembers (config : GraphSlamConfig H G P V Q D)
    (events : List (GraphSlamEvent H G P V Q D)) (s : GraphBasedSlam H G P V Q D) : Prop where
  map : latestMap events = if s.initialMapArrayReceived then some s.mapArrayMsg else none
  updated : mapUpdated events = s.isMapArrayUpdated
  received : s.isMapArrayUpdated = true → s.initialMapArrayReceived = true
  ordered : ∀ loopEdge ∈ s.loopEdges,
    0 ≤ loopEdge.pairId.1 ∧ loopEdge.pairId.1 ≤ loopEdge.pairId.2
  closed : ∀ n : Nat, ClosedIn config events n ↔
    ∃ loopEdge ∈ s.loopEdges, loopEdge.pairId.2 + 1 = n

namespace GraphBasedSlam

variable {s t : GraphBasedSlam H G P V Q D} {call : Option (PoseAdjustment H G P V Q D)}

/-- The loop edges are in the bounds of a map that is as long as each map in which a
loop was closed. -/
theorem Remembers.inBounds_iff (h : s.Remembers config events) (map : MapArray H P V Q D)
    (doSaveMap : Bool) :
    (PoseAdjustment.mk map s.loopEdges doSaveMap).InBounds ↔
      ∀ n, ClosedIn config events n → n ≤ map.submaps.length := by
  constructor
  · intro hbounds n hn
    obtain ⟨loopEdge, hmem, hlast⟩ := (h.closed n).mp hn
    have hlt := (hbounds loopEdge hmem).2
    dsimp only at hlt
    omega
  · intro hclosed loopEdge hmem
    obtain ⟨hlow, hle⟩ := h.ordered loopEdge hmem
    have hn := hclosed (loopEdge.pairId.2 + 1).toNat
      ((h.closed _).mpr ⟨loopEdge, hmem, by omega⟩)
    dsimp only
    omega

/-- What is known of the call that a callback makes: none when nothing is adjusted,
and otherwise with the loop edges that the node has then. -/
def CallFits (config : GraphSlamConfig H G P V Q D) (events : List (GraphSlamEvent H G P V Q D))
    (e : GraphSlamEvent H G P V Q D) (t : GraphBasedSlam H G P V Q D) :
    Option (PoseAdjustment H G P V Q D) → Prop
  | none => ∀ map, ¬ Adjusts config events e map
  | some call => Adjusts config events e call.mapArray ∧ call.loopEdges = t.loopEdges

/-- A callback that closes no loop. -/
theorem Remembers.closed_concat (h : s.Remembers config events) {e : GraphSlamEvent H G P V Q D}
    (hnone : ∀ align map, e = .searchLoop align → ¬ ClosesLoop config events align map) (n : Nat) :
    ClosedIn config (events ++ [e]) n ↔ ∃ loopEdge ∈ s.loopEdges, loopEdge.pairId.2 + 1 = n := by
  rw [closedIn_concat_iff, h.closed, or_iff_left]
  rintro ⟨align, map, he, hcloses, -⟩
  exact hnone align map he hcloses

theorem Remembers.step_mapArray (h : s.Remembers config events) (msg : MapArray H P V Q D)
    (hstep : s.step config (.mapArray msg) = some (t, call)) :
    t.Remembers config (events ++ [.mapArray msg]) ∧
      CallFits config events (.mapArray msg) t call := by
  cases hstep
  refine ⟨⟨?_, ?_, fun _ => rfl, h.ordered, h.closed_concat (by simp)⟩,
    fun map hadjusts => hadjusts⟩
  · exact latestMap_concat ..
  · exact mapUpdated_concat ..

theorem Remembers.step_mapSave (h : s.Remembers config events)
    (hstep : s.step config .mapSave = some (t, call)) :
    t.Remembers config (events ++ [.mapSave]) ∧ CallFits config events .mapSave t call := by
  have hsame : s.Remembers config (events ++ [.mapSave]) := by
    refine ⟨?_, ?_, h.received, h.ordered, h.closed_concat (by simp)⟩
    · exact (latestMap_concat ..).trans h.map
    · exact (mapUpdated_concat ..).trans h.updated
  dsimp only [GraphBasedSlam.step] at hstep
  split at hstep
  case isTrue hinitial =>
    cases hstep
    refine ⟨hsame, fun map hadjusts => ?_⟩
    have hlatest : latestMap events = some map := hadjusts
    rw [h.map, hinitial] at hlatest
    cases hlatest
  case isFalse hinitial =>
    cases hstep
    refine ⟨hsame, ?_, rfl⟩
    change latestMap events = _
    rw [h.map, Bool.of_not_eq_false hinitial]
    rfl

/-- A tick that finds no loop, or does not look for one. -/
theorem Remembers.step_noLoop (h : s.Remembers config events)
    {align : List P → List P → Registration G D}
    (hnone : ∀ map, ¬ ClosesLoop config events align map) :
    Remembers config (events ++ [.searchLoop align]) { s with isMapArrayUpdated := false } := by
  refine ⟨?_, ?_, fun hupdated => (by cases hupdated), h.ordered, h.closed_concat ?_⟩
  · exact (latestMap_concat ..).trans h.map
  · exact mapUpdated_concat ..
  · rintro align' map he
    cases he
    exact hnone map

/-- A tick that returns at once has no new map array to look at. -/
theorem Remembers.step_idle (h : s.Remembers config events)
    (align : List P → List P → Registration G D) (hupdated : s.isMapArrayUpdated = false) :
    s.Remembers config (events ++ [.searchLoop align]) ∧
      ∀ map, ¬ ClosesLoop config events align map := by
  have hnone : ∀ map, ¬ ClosesLoop config events align map := by
    intro map hcloses
    have hfresh := hcloses.updated
    rw [h.updated, hupdated] at hfresh
    cases hfresh
  refine ⟨?_, hnone⟩
  have hsame := h.step_noLoop hnone
  rwa [← hupdated] at hsame

/-- A tick that closes a loop remembers its edge. -/
theorem Remembers.step_closes (h : s.Remembers config events)
    {align : List P → List P → Registration G D} {loopEdge : LoopEdge G}
    (hcloses : ClosesLoop config events align s.mapArrayMsg)
    (hclosed : closeLoop config align s.mapArrayMsg.submaps = some (some loopEdge)) :
    Remembers config (events ++ [.searchLoop align])
      { s with isMapArrayUpdated := false, loopEdges := s.loopEdges ++ [loopEdge] } := by
  obtain ⟨hlow, hle, hlast⟩ := closeLoop_spec hclosed
  refine ⟨?_, ?_, fun hupdated => (by cases hupdated), ?_, fun n => ?_⟩
  · exact (latestMap_concat ..).trans h.map
  · exact mapUpdated_concat ..
  · intro edge hmem
    rcases List.mem_append.mp hmem with hmem | hmem
    · exact h.ordered edge hmem
    · rw [List.mem_singleton.mp hmem]
      exact ⟨hlow, hle⟩
  · rw [closedIn_concat_iff, h.closed]
    constructor
    · rintro (⟨edge, hmem, hn⟩ | ⟨align', map, he, hmap, hn⟩)
      · exact ⟨edge, List.mem_append_left _ hmem, hn⟩
      · have heq := hmap.latest
        rw [hcloses.latest] at heq
        cases heq
        exact ⟨loopEdge, by simp, by rw [hlast, hn]⟩
    · rintro ⟨edge, hmem, hn⟩
      rcases List.mem_append.mp hmem with hmem | hmem
      · exact .inl ⟨edge, hmem, hn⟩
      · rw [List.mem_singleton.mp hmem, hlast] at hn
        exact .inr ⟨align, s.mapArrayMsg, rfl, hcloses, by omega⟩

theorem Remembers.step_searchLoop (h : s.Remembers config events)
    (align : List P → List P → Registration G D)
    (hstep : s.step config (.searchLoop align) = some (t, call)) :
    t.Remembers config (events ++ [.searchLoop align]) ∧
      CallFits config events (.searchLoop align) t call := by
  dsimp only [GraphBasedSlam.step] at hstep
  split at hstep
  case isTrue hinitial =>
    cases hstep
    refine h.step_idle align ?_
    rw [← Bool.not_eq_true]
    exact fun hupdated => absurd (h.received hupdated) (by rw [hinitial]; simp)
  case isFalse hinitial =>
    split at hstep
    case isTrue hupdated =>
      cases hstep
      exact h.step_idle align hupdated
    case isFalse hupdated =>
      have hlatest : latestMap events = some s.mapArrayMsg := by
        rw [h.map, Bool.of_not_eq_false hinitial]
        rfl
      obtain ⟨closed, hclosed, hrest⟩ := Option.bind_eq_some_iff.mp hstep
      cases closed with
      | none =>
        cases hrest
        have hnone : ∀ map, ¬ ClosesLoop config events align map := by
          intro map hcloses
          have heq := hcloses.latest
          rw [hlatest] at heq
          cases heq
          obtain ⟨loopEdge, hedge⟩ := hcloses.closes
          rw [hclosed] at hedge
          cases hedge
        exact ⟨h.step_noLoop hnone, hnone⟩
      | some loopEdge =>
        cases hrest
        have hcloses : ClosesLoop config events align s.mapArrayMsg :=
          ⟨h.updated.trans (Bool.of_not_eq_false hupdated), hlatest, loopEdge, hclosed⟩
        exact ⟨h.step_closes hcloses hclosed, hcloses, rfl⟩

/-- One callback, and the call of `doPoseAdjustment` that it makes. -/
theorem Remembers.step (h : s.Remembers config events) {e : GraphSlamEvent H G P V Q D}
    (hstep : s.step config e = some (t, call)) :
    t.Remembers config (events ++ [e]) ∧ CallFits config events e t call := by
  cases e with
  | mapArray msg => exact h.step_mapArray msg hstep
  | searchLoop align => exact h.step_searchLoop align hstep
  | mapSave => exact h.step_mapSave hstep

/-- The call of one callback is in bounds, if and only if the map it adjusts is as long
as each map in which a loop was closed before. -/
theorem Remembers.call_inBounds_iff {e : GraphSlamEvent H G P V Q D}
    (h : t.Remembers config (events ++ [e])) (hfits : CallFits config events e t call) :
    (∀ adjusted ∈ call.toList, adjusted.InBounds) ↔
      ∀ map, Adjusts config events e map →
        ∀ n, ClosedIn config events n → n ≤ map.submaps.length := by
  cases call with
  | none => exact iff_of_true (by simp) (fun map hadjusts => absurd hadjusts (hfits map))
  | some adjusted =>
    obtain ⟨hadjusts, hedges⟩ := hfits
    obtain ⟨map, loopEdges, doSaveMap⟩ := adjusted
    dsimp only at hadjusts hedges
    rw [hedges, Option.toList_some, List.forall_mem_singleton, h.inBounds_iff]
    constructor
    · intro hclosed map' hadjusts' n hn
      have heq := latestMap_of_adjusts hadjusts'
      rw [latestMap_of_adjusts hadjusts] at heq
      cases heq
      exact hclosed n (closedIn_concat_iff.mpr (.inl hn))
    · intro hclosed n hn
      rcases closedIn_concat_iff.mp hn with hn | ⟨align, map', rfl, hcloses, hn⟩
      · exact hclosed map hadjusts n hn
      · have heq := hcloses.latest
        rw [latestMap_of_adjusts hadjusts] at heq
        cases heq
        exact Nat.le_of_eq hn.symm

end GraphBasedSlam

/-! ## Loop edges over a run -/

namespace GraphSlamSession

variable {s t : GraphSlamSession H G P V Q D}

/-- What one callback of the session does. -/
theorem step_cases {e : GraphSlamEvent H G P V Q D} (h : s.step config e = some t) :
    ∃ call, s.slam.step config e = some (t.slam, call) ∧
      t.adjustments = s.adjustments ++ call.toList := by
  obtain ⟨⟨slam, call⟩, hstep, rfl⟩ := Option.map_eq_some_iff.mp h
  exact ⟨call, hstep, rfl⟩

theorem remembers_of_run
    (hrun : (graphSlamMachine config).Run (.initial config) events s) :
    s.slam.Remembers config events := by
  induction hrun with
  | nil =>
    refine ⟨rfl, rfl, fun hupdated => (by cases hupdated), fun _ hmem => (by cases hmem),
      fun n => iff_of_false not_closedIn_nil ?_⟩
    rintro ⟨loopEdge, hmem, -⟩
    cases hmem
  | snoc _ hstep ih =>
    obtain ⟨call, hcall, -⟩ := step_cases hstep
    exact (ih.step hcall).1

/-- Every call of a run is in bounds exactly if no map is too short. -/
theorem inBounds_iff (hrun : (graphSlamMachine config).Run (.initial config) events s) :
    (∀ call ∈ s.adjustments, call.InBounds) ↔ KeepsSubmaps config events := by
  induction hrun with
  | nil =>
    refine iff_of_true (fun call hcall => (by cases hcall)) ?_
    exact fun earlier e hpre => absurd hpre Machine.not_prefix_nil
  | @snoc s t events e hrun hstep ih =>
    obtain ⟨call, hcall, hadjustments⟩ := step_cases hstep
    obtain ⟨hremembers, hfits⟩ := (remembers_of_run hrun).step hcall
    rw [hadjustments, List.forall_mem_append, ih, hremembers.call_inBounds_iff hfits]
    exact Machine.forall_prefix_concat.symm

/-- No index of a loop edge is negative. -/
theorem nonneg_of_run (hrun : (graphSlamMachine config).Run (.initial config) events s) :
    ∀ call ∈ s.adjustments, ∀ loopEdge ∈ call.loopEdges,
      0 ≤ loopEdge.pairId.1 ∧ 0 ≤ loopEdge.pairId.2 := by
  induction hrun with
  | nil => exact fun call hcall => (by cases hcall)
  | @snoc s t events e hrun hstep ih =>
    obtain ⟨call, hcall, hadjustments⟩ := step_cases hstep
    obtain ⟨hremembers, hfits⟩ := (remembers_of_run hrun).step hcall
    rw [hadjustments, List.forall_mem_append]
    refine ⟨ih, ?_⟩
    cases call with
    | none => exact fun call hcall => (by cases hcall)
    | some call =>
      rw [Option.toList_some, List.forall_mem_singleton, hfits.2]
      intro loopEdge hmem
      obtain ⟨hlow, hle⟩ := hremembers.ordered loopEdge hmem
      exact ⟨hlow, hlow.trans hle⟩

end GraphSlamSession

/-- **When loop edges refer to existing vertices.**

For any map arrays, ticks with any registration outcome, and requests to save the
map: every time `doPoseAdjustment` runs, both indices of every stored loop edge are
smaller than the number of submaps of its map, so that no vertex of an edge is null,
if and only if every map whose poses are adjusted has at least as many submaps as
each map in which a loop was closed before. -/
theorem loopEdges_inBounds_iff {t : GraphSlamSession H G P V Q D}
    (hrun : (graphSlamMachine config).Run (.initial config) events t) :
    (∀ call ∈ t.adjustments, call.InBounds ∧ (call.optimizer config).isSome = true) ↔
      KeepsSubmaps config events := by
  rw [← GraphSlamSession.inBounds_iff hrun]
  refine forall₂_congr (fun call hcall => and_iff_left_of_imp (fun hbounds => ?_))
  refine poseGraph_isSome _ (fun loopEdge hmem => ?_)
  obtain ⟨hlow, hlow'⟩ := GraphSlamSession.nonneg_of_run hrun call hcall loopEdge hmem
  obtain ⟨hhigh, hhigh'⟩ := hbounds loopEdge hmem
  rw [List.length_map]
  exact ⟨hlow, hhigh, hlow', hhigh'⟩

end Closures

/-! ### Submaps on a line -/

/-- The default parameters, for submaps on a line. -/
def lineSlamConfig : GraphSlamConfig Unit (Multiplicative Int) Int Int Unit Int where
  thresholdLoopClosureScore := 1
  distanceLoopClosure := 20
  rangeOfSearchingLoopClosure := 20
  searchSubmapNum := 3
  numAdjacentPoseCnstraints := 5
  useSaveMapInLoop := true
  tf := linePoseMsgs
  voxelGrid := id
  dist a b := (a - b).natAbs
  maxDouble := 1000000
  emptySubmap := ⟨⟨0, ⟨0, ()⟩, []⟩, ()⟩

/-- A map array of `n` submaps at one place, ten metres of travel apart. -/
def lineMapArray (n : Nat) : MapArray Unit Int Int Unit Int where
  header := ()
  submaps := (List.range n).map fun i => ⟨⟨10 * i, ⟨0, ()⟩, []⟩, ()⟩
  cloudCoordinate := MapArray.LOCAL

/-- A registration that finds every cloud where it is. -/
def lineAlign (_source _target : List Int) : Registration (Multiplicative Int) Int :=
  ⟨1, 0⟩

/-- A loop is closed in a map of five submaps, and then the map is saved. -/
theorem loopEdges_inBounds_line :
    ∃ t : GraphSlamSession Unit (Multiplicative Int) Int Int Unit Int,
      (graphSlamMachine lineSlamConfig).Run (.initial lineSlamConfig)
        [.mapArray (lineMapArray 5), .searchLoop lineAlign, .mapSave] t ∧
      t.adjustments.length = 2 ∧
      ∀ call ∈ t.adjustments, call.InBounds ∧ (call.optimizer lineSlamConfig).isSome = true := by
  have hrun : (graphSlamMachine lineSlamConfig).Run (.initial lineSlamConfig)
      [.mapArray (lineMapArray 5), .searchLoop lineAlign, .mapSave] _ := Machine.run_ofStep rfl
  refine ⟨_, hrun, rfl, (loopEdges_inBounds_iff hrun).mpr ?_⟩
  -- there is only one map array
  have honly : ∀ earlier e map, earlier ++ [e] <+: [.mapArray (lineMapArray 5),
      .searchLoop lineAlign, .mapSave] → latestMap earlier = some map →
      map = lineMapArray 5 := by
    intro earlier e map hpre hlatest
    have hmem := hpre.subset (List.mem_append_left [e] (mem_of_latestMap hlatest))
    simpa using hmem
  intro earlier e hpre map hadjusts n hclosed
  obtain ⟨before, align, map', hpre', hcloses, rfl⟩ := hclosed
  rw [honly _ _ _ hpre (latestMap_of_adjusts hadjusts),
    honly _ _ _ (hpre'.trans ((List.prefix_append ..).trans hpre)) hcloses.latest]

/-- The front end starts again: after a loop in a map of five submaps the next map
array has one, and saving the map adjusts it with the edge (0, 4). -/
theorem loopEdge_outlives_its_map :
    ¬ ∀ (config : GraphSlamConfig Unit (Multiplicative Int) Int Int Unit Int)
      (events : List (GraphSlamEvent Unit (Multiplicative Int) Int Int Unit Int))
      (t : GraphSlamSession Unit (Multiplicative Int) Int Int Unit Int),
      (graphSlamMachine config).Run (.initial config) events t →
      ∀ call ∈ t.adjustments, call.InBounds ∧ (call.optimizer config).isSome = true := by
  intro h
  have hrun : (graphSlamMachine lineSlamConfig).Run (.initial lineSlamConfig)
      [.mapArray (lineMapArray 5), .searchLoop lineAlign, .mapArray (lineMapArray 1), .mapSave] _ :=
    Machine.run_ofStep rfl
  have hcall := (h _ _ _ hrun _ (List.mem_cons_of_mem _ (List.mem_singleton_self _))).2
  exact absurd hcall (by decide)

end RoboRacer.Slam
