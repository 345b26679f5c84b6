/-
  Slam/ModifiedMap.lean --- what the back end publishes
  (`graph_based_slam_component.cpp`, `doPoseAdjustment`).

  After the optimisation every submap is moved by its optimised pose and packed
  into a new map array, next to the map made of all of them.  A map array is read
  by its `cloud_coordinate`, as `publishMap` of the front end and the callbacks of
  the back end read it:

      MapArray.denotation         the cloud that a map array stands for
      modifiedMapPublish          the loop that packs the modified submaps
      modifiedMap_denotes_iff     when the two published maps agree

  Transformations are a group that acts on the points, in exact arithmetic.  The
  conversions between clouds and `PointCloud2` messages lose nothing here, and are
  left out.
-/
import Mathlib.Algebra.Group.Action.Basic
import Mathlib.Algebra.Group.Action.TypeTags
import Mathlib.Algebra.Ring.Int.Defs
import Mathlib.Data.List.Forall2
import RoboRacer.Slam.PoseGraph
import RoboRacer.Slam.ScanMatcher

set_option autoImplicit false

namespace RoboRacer.Slam

variable {H G P V Q D : Type}

/-! ## Map arrays -/

/-- `lidarslam_msgs::msg::SubMap`, with its header. -/
structure StampedSubMap (H P V Q D : Type) extends SubMap P V Q D where
  header : H

/-- `lidarslam_msgs::msg::MapArray`. -/
structure MapArray (H P V Q D : Type) where
  header : H
  submaps : List (StampedSubMap H P V Q D)
  cloudCoordinate : Int8

/-- `MapArray::LOCAL`. -/
def MapArray.LOCAL : Int8 := 0

/-- `tf2::toMsg` and `tf2::fromMsg`: a rigid transformation survives its message. -/
structure PoseMsgs (G V Q : Type) where
  toMsg : G → Pose V Q
  fromMsg : Pose V Q → G
  fromMsg_toMsg : ∀ transform, fromMsg (toMsg transform) = transform

/-- `pcl::transformPointCloud`. -/
def transformPointCloud [SMul G P] (cloud : List P) (transform : G) : List P :=
  cloud.map fun p => transform • p

/-- The loop of `publishMap`, which reads every cloud in its submap's frame. -/
def publishMap [SMul G P] (tf : PoseMsgs G V Q) (submaps : List (StampedSubMap H P V Q D)) :
    List P :=
  submaps.foldl (fun map submap =>
    map ++ transformPointCloud submap.cloud (tf.fromMsg submap.pose)) []

/-- The cloud that a map array stands for: a `LOCAL` one is read as `publishMap`
reads it, and in any other one the clouds are in the map frame already. -/
def MapArray.denotation [SMul G P] (tf : PoseMsgs G V Q) (mapArray : MapArray H P V Q D) :
    List P :=
  if mapArray.cloudCoordinate = MapArray.LOCAL then publishMap tf mapArray.submaps
  else mapArray.submaps.flatMap (·.cloud)

/-! ## The modified map -/

/-- What `doPoseAdjustment` publishes. -/
structure ModifiedMap (H P V Q D : Type) where
  modifiedMapArray : MapArray H P V Q D
  /-- The poses of `modified_path`, with their headers. -/
  modifiedPath : List (H × Pose V Q)
  modifiedMap : List P

section Publish

variable [Zero D] [SMul G P]

/-- The submap that is pushed for `submap` when its optimised pose is `se3`.  The
message is constructed empty, and its distance is not assigned. -/
def modifiedSubmap (tf : PoseMsgs G V Q) (submap : StampedSubMap H P V Q D) (se3 : G) :
    StampedSubMap H P V Q D where
  header := submap.header
  distance := 0
  pose := tf.toMsg se3
  cloud := transformPointCloud submap.cloud se3

/-- The body of the loop over the submaps. -/
def pushModified (tf : PoseMsgs G V Q) (estimate : Nat → G) (out : ModifiedMap H P V Q D)
    (entry : StampedSubMap H P V Q D × Nat) : ModifiedMap H P V Q D :=
  let submap := modifiedSubmap tf entry.1 (estimate entry.2)
  { modifiedMapArray :=
      { out.modifiedMapArray with submaps := out.modifiedMapArray.submaps ++ [submap] }
    modifiedPath := out.modifiedPath ++ [(submap.header, submap.pose)]
    modifiedMap :=
      out.modifiedMap ++ transformPointCloud entry.1.cloud (estimate entry.2) }

/-- The part of `doPoseAdjustment` behind the optimisation.  Of the new map array
only the header is assigned; its `cloud_coordinate` is 0. -/
def modifiedMapPublish (tf : PoseMsgs G V Q) (estimate : Nat → G)
    (mapArray : MapArray H P V Q D) : ModifiedMap H P V Q D :=
  mapArray.submaps.zipIdx.foldl (pushModified tf estimate)
    { modifiedMapArray := { header := mapArray.header, submaps := [], cloudCoordinate := 0 }
      modifiedPath := []
      modifiedMap := [] }

/-- The pose graph of a map array and the loop edges. -/
def mapGraph [Group G] (tf : PoseMsgs G V Q) (numAdjacentPoseCnstraints : Int)
    (loopEdges : List (LoopEdge G)) (mapArray : MapArray H P V Q D) : Option (Optimizer G) :=
  poseGraph numAdjacentPoseCnstraints
    (mapArray.submaps.map fun submap => tf.fromMsg submap.pose) loopEdges

/-- `doPoseAdjustment`: the pose graph, its optimisation, and what is published, with
the map that is saved if that is asked for. -/
def doPoseAdjustment [Group G] (tf : PoseMsgs G V Q) (numAdjacentPoseCnstraints : Int)
    (optimize : Optimizer G → Nat → G) (loopEdges : List (LoopEdge G))
    (mapArray : MapArray H P V Q D) (doSaveMap : Bool) :
    Option (ModifiedMap H P V Q D × Option (List P)) := do
  let optimizer ← mapGraph tf numAdjacentPoseCnstraints loopEdges mapArray
  let out := modifiedMapPublish tf (optimize optimizer) mapArray
  return (out, if doSaveMap then some out.modifiedMap else none)

end Publish

/-! ## What the loops build -/

section Loops

/-- `publishMap` appends the moved clouds. -/
theorem publishMap_eq [SMul G P] (tf : PoseMsgs G V Q)
    (submaps : List (StampedSubMap H P V Q D)) :
    publishMap tf submaps = submaps.flatMap fun submap =>
      transformPointCloud submap.cloud (tf.fromMsg submap.pose) := by
  rw [publishMap, ← List.flatMap_eq_foldl]

variable [Zero D] [SMul G P] (tf : PoseMsgs G V Q) (estimate : Nat → G)

/-- The loop over the submaps, from what it has built so far. -/
theorem foldl_pushModified (entries : List (StampedSubMap H P V Q D × Nat))
    (out : ModifiedMap H P V Q D) :
    entries.foldl (pushModified tf estimate) out =
      { modifiedMapArray :=
          { out.modifiedMapArray with
            submaps := out.modifiedMapArray.submaps ++ entries.map fun entry =>
              modifiedSubmap tf entry.1 (estimate entry.2) }
        modifiedPath := out.modifiedPath ++ entries.map fun entry =>
          (entry.1.header, tf.toMsg (estimate entry.2))
        modifiedMap := out.modifiedMap ++ entries.flatMap fun entry =>
          transformPointCloud entry.1.cloud (estimate entry.2) } := by
  induction entries generalizing out with
  | nil => simp
  | cons entry entries ih =>
    rw [List.foldl_cons, ih]
    simp [pushModified, modifiedSubmap]

theorem modifiedMapPublish_eq (mapArray : MapArray H P V Q D) :
    modifiedMapPublish tf estimate mapArray =
      { modifiedMapArray :=
          { header := mapArray.header
            submaps := mapArray.submaps.zipIdx.map fun entry =>
              modifiedSubmap tf entry.1 (estimate entry.2)
            cloudCoordinate := MapArray.LOCAL }
        modifiedPath := mapArray.submaps.zipIdx.map fun entry =>
          (entry.1.header, tf.toMsg (estimate entry.2))
        modifiedMap := mapArray.submaps.zipIdx.flatMap fun entry =>
          transformPointCloud entry.1.cloud (estimate entry.2) } := by
  rw [modifiedMapPublish, foldl_pushModified]
  rfl

end Loops

/-! ## When the two maps agree -/

/-- Two concatenations of parts of the same lengths are equal part by part. -/
theorem flatMap_eq_iff {α β : Type} {f g : α → List β} (hlen : ∀ a, (f a).length = (g a).length)
    (l : List α) : l.flatMap f = l.flatMap g ↔ ∀ a ∈ l, f a = g a := by
  induction l with
  | nil => simp
  | cons a l ih =>
    rw [List.flatMap_cons, List.flatMap_cons, List.forall_mem_cons, ← ih]
    constructor
    · intro h
      exact List.append_inj h (hlen a)
    · rintro ⟨hhead, htail⟩
      rw [hhead, htail]

/-- Moving a cloud twice is moving it once if the motion fixes its points. -/
theorem transformPointCloud_twice_iff [Group G] [MulAction G P] (cloud : List P)
    (transform : G) :
    transformPointCloud (transformPointCloud cloud transform) transform =
      transformPointCloud cloud transform ↔ ∀ p ∈ cloud, transform • p = p := by
  rw [transformPointCloud, transformPointCloud, List.map_map, List.map_inj_left]
  refine forall₂_congr (fun p _ => ?_)
  exact smul_left_cancel_iff transform

section Agreement

variable [Zero D] [Group G] [MulAction G P] (tf : PoseMsgs G V Q) (estimate : Nat → G)
  (mapArray : MapArray H P V Q D)

/-- What the modified map array stands for: every cloud moved twice. -/
theorem denotation_modifiedMapArray :
    (modifiedMapPublish tf estimate mapArray).modifiedMapArray.denotation tf =
      mapArray.submaps.zipIdx.flatMap fun entry =>
        transformPointCloud (transformPointCloud entry.1.cloud (estimate entry.2))
          (estimate entry.2) := by
  rw [modifiedMapPublish_eq, MapArray.denotation, if_pos rfl, publishMap_eq, List.flatMap_map]
  simp only [modifiedSubmap, tf.fromMsg_toMsg]

/-- **When the modified map array denotes the modified map.**

For every map array and all optimised poses: the modified map array stands for the
modified map, and every submap keeps its header and its travelled distance, if and
only if every submap has the distance 0 and an optimised pose that fixes all points
of its cloud. -/
theorem modifiedMap_denotes_iff :
    ((modifiedMapPublish tf estimate mapArray).modifiedMapArray.denotation tf =
        (modifiedMapPublish tf estimate mapArray).modifiedMap ∧
      List.Forall₂ (fun submap modified =>
          modified.header = submap.header ∧ modified.distance = submap.distance)
        mapArray.submaps (modifiedMapPublish tf estimate mapArray).modifiedMapArray.submaps) ↔
      ∀ i submap, mapArray.submaps[i]? = some submap →
        submap.distance = 0 ∧ ∀ p ∈ submap.cloud, estimate i • p = p := by
  have hclouds : (modifiedMapPublish tf estimate mapArray).modifiedMapArray.denotation tf =
        (modifiedMapPublish tf estimate mapArray).modifiedMap ↔
      ∀ entry ∈ mapArray.submaps.zipIdx, ∀ p ∈ entry.1.cloud, estimate entry.2 • p = p := by
    rw [denotation_modifiedMapArray, modifiedMapPublish_eq,
      flatMap_eq_iff (fun entry => by simp [transformPointCloud])]
    exact forall₂_congr (fun entry _ => transformPointCloud_twice_iff ..)
  have hfields : List.Forall₂ (fun submap modified =>
          modified.header = submap.header ∧ modified.distance = submap.distance)
        mapArray.submaps (modifiedMapPublish tf estimate mapArray).modifiedMapArray.submaps ↔
      ∀ entry ∈ mapArray.submaps.zipIdx, entry.1.distance = 0 := by
    rw [modifiedMapPublish_eq, List.forall₂_map_right_iff]
    conv_lhs =>
      enter [2]
      rw [← List.zipIdx_map_fst 0 mapArray.submaps]
    rw [List.forall₂_map_left_iff, List.forall₂_same]
    exact forall₂_congr (fun entry _ => ⟨fun h => h.2.symm, fun h => ⟨rfl, h.symm⟩⟩)
  rw [hclouds, hfields]
  constructor
  · rintro ⟨hfixed, hdistance⟩ i submap hsubmap
    have hentry : (submap, i) ∈ mapArray.submaps.zipIdx :=
      List.mem_zipIdx_iff_getElem?.mpr hsubmap
    exact ⟨hdistance (submap, i) hentry, hfixed (submap, i) hentry⟩
  · intro hall
    refine ⟨fun entry hentry => ?_, fun entry hentry => ?_⟩
    · exact (hall entry.2 entry.1 (List.mem_zipIdx_iff_getElem?.mp hentry)).2
    · exact (hall entry.2 entry.1 (List.mem_zipIdx_iff_getElem?.mp hentry)).1

end Agreement

/-! ### One submap on a line -/

/-- The translations of a line, with their messages. -/
def linePoseMsgs : PoseMsgs (Multiplicative Int) Int Unit where
  toMsg transform := ⟨transform.toAdd, ()⟩
  fromMsg pose := Multiplicative.ofAdd pose.position
  fromMsg_toMsg _ := rfl

/-- One submap with one point at 1, whose pose the optimisation moves to 2: the
modified map is the point 3, and the modified map array stands for the point 5. -/
theorem modifiedMapArray_moved_twice :
    ¬ ∀ (estimate : Nat → Multiplicative Int) (mapArray : MapArray Unit Int Int Unit Int),
      mapArray.cloudCoordinate = MapArray.LOCAL →
      (∀ p, p ∈ (modifiedMapPublish linePoseMsgs estimate mapArray).modifiedMapArray.denotation
          linePoseMsgs ↔
        p ∈ (modifiedMapPublish linePoseMsgs estimate mapArray).modifiedMap) ∧
      List.Forall₂ (fun submap modified =>
          modified.header = submap.header ∧ modified.distance = submap.distance)
        mapArray.submaps
        (modifiedMapPublish linePoseMsgs estimate mapArray).modifiedMapArray.submaps := by
  intro h
  have hpoint := (h (fun _ => Multiplicative.ofAdd 2)
    ⟨(), [⟨⟨0, ⟨0, ()⟩, [1]⟩, ()⟩], MapArray.LOCAL⟩ rfl).1 3
  exact absurd hpoint (by decide)

end RoboRacer.Slam
