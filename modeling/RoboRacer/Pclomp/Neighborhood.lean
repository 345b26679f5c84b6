/-
  Pclomp/Neighborhood.lean --- the searches of the voxel grid
  (`voxel_grid_covariance_omp.h`, `voxel_grid_covariance_omp_impl.hpp`).

      | `getNeighborhoodAtPoint`  | the cells at given displacements            |
      | `getNeighborhoodAtPoint7` | the cell of the point and its six neighbours |
      | `getNeighborhoodAtPoint1` | the cell of the point                       |
      | `radiusSearch`            | the leaves whose centroid is near           |

  The first three look a leaf up by the offset of its cell; the last one asks the
  kd-tree of the centroids and goes back to the leaves through
  `voxel_centroids_leaf_indices_`.

  `filter` multiplies a coordinate by the inverse of the leaf size, and
  `getNeighborhoodAtPoint` divides it by the leaf size.  In exact arithmetic both
  give one cell; in `float` a point near the border of two cells can be stored in
  one of them and be searched for from the other.
-/
import RoboRacer.Foundation.Rotation
import RoboRacer.Pclomp.LeafStatistics

set_option autoImplicit false

namespace RoboRacer.Pclomp

open Matrix RoboRacer.Foundation

/-! ## The searches -/

section Searches

variable {K : Type} [Field K] [LinearOrder K] [FloorRing K]

/-- `.all ()` of three coefficients. -/
def all (flag : Fin 3 → Bool) : Bool :=
  flag 0 && flag 1 && flag 2

theorem all_iff (flag : Fin 3 → Bool) : all flag = true ↔ ∀ axis, flag axis = true := by
  rw [all, Bool.and_eq_true, Bool.and_eq_true, Fin.forall_fin_succ, Fin.forall_fin_two]
  exact and_assoc

namespace VoxelGridCovariance

/-- `getNeighborhoodAtPoint` with the matrix of relative coordinates, column by column. -/
def getNeighborhoodAtPoint (g : VoxelGridCovariance K) (relative_coordinates : List (Fin 3 → ℤ))
    (reference_point : Fin 3 → K) : List (Leaf K) :=
  let ijk := fun axis => ⌊reference_point axis / g.leaf_size_ axis⌋
  let diff2min := fun axis => g.min_b_ axis - ijk axis
  let diff2max := fun axis => g.max_b_ axis - ijk axis
  relative_coordinates.filterMap fun displacement =>
    if (all fun axis => decide (diff2min axis ≤ displacement axis)) &&
        all fun axis => decide (displacement axis ≤ diff2max axis) then
      match g.getLeafAt (g.offset fun axis => ijk axis + displacement axis - g.min_b_ axis) with
      | some leaf => if g.min_points_per_voxel_ ≤ leaf.nr_points then some leaf else none
      | none => none
    else none

/-- The columns that `getNeighborhoodAtPoint7` fills in. -/
def faceNeighbors : List (Fin 3 → ℤ) :=
  [![0, 0, 0], ![1, 0, 0], ![-1, 0, 0], ![0, 1, 0], ![0, -1, 0], ![0, 0, 1], ![0, 0, -1]]

/-- `getNeighborhoodAtPoint7`. -/
def getNeighborhoodAtPoint7 (g : VoxelGridCovariance K) (reference_point : Fin 3 → K) :
    List (Leaf K) :=
  g.getNeighborhoodAtPoint faceNeighbors reference_point

/-- `getNeighborhoodAtPoint1`. -/
def getNeighborhoodAtPoint1 (g : VoxelGridCovariance K) (reference_point : Fin 3 → K) :
    List (Leaf K) :=
  g.getNeighborhoodAtPoint [![0, 0, 0]] reference_point

/-- The leaf behind a point of the kd-tree; `none` where the code reads past the end of
`voxel_centroids_leaf_indices_` or through the end of `leaves_`. -/
def leafOfCentroid (g : VoxelGridCovariance K) (index : ℕ) : Option (Leaf K) :=
  g.voxel_centroids_leaf_indices_[index]?.bind g.getLeafAt

/-- `radiusSearch` of the kd-tree: the indices of the points that it finds in the cloud it was
given last.  It may do anything before it was given one. -/
abbrev KdTree (K : Type) : Type :=
  Option (List (Fin 3 → K)) → (Fin 3 → K) → K → List ℕ

/-- `radiusSearch`. -/
def radiusSearch (search : KdTree K) (g : VoxelGridCovariance K) (point : Fin 3 → K) (radius : K) :
    Option (List (Leaf K)) :=
  if !g.searchable_ then some []
  else (search g.kdtree_ point radius).mapM g.leafOfCentroid

end VoxelGridCovariance

end Searches

/-! ## Leaves by their points -/

section LeafOf

variable {K : Type} [Field K] [LinearOrder K]

/-- The second pass leaves the mean at the average of the points. -/
theorem finish_mean (lib : GridLib K) (mult : K) (min_points : ℤ) (points : List (Fin 3 → K)) :
    ((summed points).finish lib mult min_points).mean_ = mean points := by
  rw [Leaf.finish]
  split_ifs
  · exact normalize_mean points
  · simp only
    split_ifs
    · exact normalize_mean points
    · exact normalize_mean points
    · exact normalize_mean points

variable [FloorRing K]

namespace VoxelGridCovariance

theorem pointsIn_cell {g : VoxelGridCovariance K} {cloud : PointCloud K} {c : Fin 3 → ℤ}
    {p : Fin 3 → K} (hp : p ∈ g.pointsIn cloud c) : g.cell p = c := by
  simpa using (List.mem_filter.mp hp).2

/-! ## Neighbourhoods -/

/-- Division by the leaf size and multiplication by its inverse agree. -/
theorem LeafSize.floor_div {g : VoxelGridCovariance K} (h : g.LeafSize) (p : Fin 3 → K)
    (axis : Fin 3) : ⌊p axis / g.leaf_size_ axis⌋ = g.cell p axis := by
  rw [cell, h.inverse_eq axis, div_eq_mul_inv]

/-- The leaf of a cell in the search: the points there are enough. -/
def leafIn (lib : GridLib K) (g : VoxelGridCovariance K) (cloud : PointCloud K)
    (c : Fin 3 → ℤ) : Option (Leaf K) :=
  if g.pointsIn cloud c = [] then none
  else if g.min_points_per_voxel_ ≤ (leafOf lib g (g.pointsIn cloud c)).nr_points then
    some (leafOf lib g (g.pointsIn cloud c))
  else none

/-- Outside the bounding box there are no points. -/
theorem Built.pointsIn_eq_nil {lib : GridLib K} {cloud : PointCloud K}
    {g : VoxelGridCovariance K} (h : Built lib cloud g) {c : Fin 3 → ℤ} (hc : ¬ g.InBox c) :
    g.pointsIn cloud c = [] := by
  refine List.filter_eq_nil_iff.mpr fun p hp hcell => hc ?_
  have hcell : g.cell p = c := by simpa using hcell
  exact hcell ▸ h.inBox p hp

/-- Every leaf of a search is a stored one with enough points. -/
theorem exists_leaf_of_neighbor {g : VoxelGridCovariance K}
    {relative_coordinates : List (Fin 3 → ℤ)} {p : Fin 3 → K} {leaf : Leaf K}
    (hleaf : leaf ∈ g.getNeighborhoodAtPoint relative_coordinates p) :
    ∃ k : ℕ, g.leaves_[k]? = some leaf ∧ g.min_points_per_voxel_ ≤ leaf.nr_points := by
  obtain ⟨d, _, hd⟩ := List.mem_filterMap.mp hleaf
  split_ifs at hd
  split at hd
  · next found hfound =>
    split_ifs at hd with henough
    obtain rfl := Option.some.inj hd
    exact ⟨_, hfound, henough⟩
  · exact absurd hd (by simp)

/-- **Neighbourhoods.**  A search returns, in the order of the displacements, the leaves of
the displaced cells that have points enough: no offset stands for a cell outside the box. -/
theorem Built.getNeighborhoodAtPoint_eq {lib : GridLib K} {cloud : PointCloud K}
    {g : VoxelGridCovariance K} (h : Built lib cloud g) (relative_coordinates : List (Fin 3 → ℤ))
    (p : Fin 3 → K) :
    g.getNeighborhoodAtPoint relative_coordinates p =
      (relative_coordinates.map fun d => g.cell p + d).filterMap (leafIn lib g cloud) := by
  rw [getNeighborhoodAtPoint, List.filterMap_map]
  refine List.filterMap_congr fun d _ => ?_
  simp only [h.size.floor_div, Function.comp_apply]
  have hguard : ((all fun axis => decide (g.min_b_ axis - g.cell p axis ≤ d axis)) &&
      all fun axis => decide (d axis ≤ g.max_b_ axis - g.cell p axis)) = true ↔
      g.InBox (g.cell p + d) := by
    rw [Bool.and_eq_true, all_iff, all_iff, ← forall_and]
    refine forall_congr' fun axis => ?_
    rw [decide_eq_true_eq, decide_eq_true_eq, Pi.add_apply, sub_le_iff_le_add', le_sub_iff_add_le']
  by_cases hin : g.InBox (g.cell p + d)
  · have hleaf : g.getLeafAt (g.offset fun axis => g.cell p axis + d axis - g.min_b_ axis) =
        g.leaves_[g.cellKey (g.cell p + d)]? := rfl
    rw [if_pos (hguard.mpr hin), hleaf, h.leaf_of_cell hin, leafIn]
    by_cases hnil : g.pointsIn cloud (g.cell p + d) = []
    · rw [if_pos hnil, if_pos hnil]
    · rw [if_neg hnil, if_neg hnil]
  · rw [if_neg (fun hall => hin (hguard.mp hall)), leafIn, if_pos (h.pointsIn_eq_nil hin)]

/-! ## Means -/

variable [IsStrictOrderedRing K]

/-- **The mean of the points of a cell is in that cell.** -/
theorem cell_mean {g : VoxelGridCovariance K} (hsize : g.LeafSize) {cloud : PointCloud K}
    {c : Fin 3 → ℤ} (hne : g.pointsIn cloud c ≠ []) :
    g.cell (mean (g.pointsIn cloud c)) = c := by
  funext axis
  have hinv := hsize.inverse_pos axis
  have hslab : ∀ p ∈ g.pointsIn cloud c,
      (c axis : K) / g.inverse_leaf_size_ axis ≤ p axis ∧
        p axis < ((c axis : K) + 1) / g.inverse_leaf_size_ axis := by
    intro p hp
    have hcell : ⌊p axis * g.inverse_leaf_size_ axis⌋ = c axis := by
      rw [← pointsIn_cell hp]
      rfl
    rw [div_le_iff₀ hinv, lt_div_iff₀ hinv]
    exact Int.floor_eq_iff.mp hcell
  have hmean := mean_mem_slab hne hslab
  rw [div_le_iff₀ hinv, lt_div_iff₀ hinv] at hmean
  exact Int.floor_eq_iff.mpr hmean

/-- **Lookup by mean.**  Every stored leaf is found again from its own mean. -/
theorem Built.getLeaf_mean {lib : GridLib K} {cloud : PointCloud K} {g : VoxelGridCovariance K}
    (h : Built lib cloud g) {k : ℕ} {leaf : Leaf K} (hleaf : g.leaves_[k]? = some leaf) :
    g.getLeaf leaf.mean_ = some leaf := by
  obtain ⟨p, hp, rfl, rfl⟩ := h.exists_point hleaf
  have hne : g.pointsIn cloud (g.cell p) ≠ [] :=
    List.ne_nil_of_mem (List.mem_filter.mpr ⟨hp, by simp⟩)
  have hcell : g.cell (leafOf lib g (g.pointsIn cloud (g.cell p))).mean_ = g.cell p := by
    rw [leafOf, finish_mean, cell_mean h.size hne]
  have hkey : g.getLeaf (leafOf lib g (g.pointsIn cloud (g.cell p))).mean_ = g.getLeaf p := by
    simp only [getLeaf, hcell]
  rw [hkey, h.getLeaf_eq hp]

end VoxelGridCovariance

end LeafOf

/-! ## The kd-tree of the centroids -/

/-- An `int` comes back from its `size_t` key. -/
theorem toSize_toInt32_toSize (z : ℤ) :
    toSize (toInt32 (toSize (toInt32 z))) = toSize (toInt32 z) := by
  simp only [toSize, toInt32, Int.bmod_def]
  omega

/-- A loop that stops at the first undefined value, when there is none. -/
theorem mapM_eq_some {α β : Type} {f : α → Option β} {value : α → β} {xs : List α}
    (h : ∀ x ∈ xs, f x = some (value x)) : xs.mapM f = some (xs.map value) := by
  induction xs with
  | nil => rfl
  | cons x xs ih =>
    rw [List.mapM_cons, h x List.mem_cons_self, ih fun y hy => h y (List.mem_cons_of_mem x hy)]
    rfl

theorem mapM_eq_none {α β : Type} {f : α → Option β} {xs : List α} (h : ∀ x, f x = none) :
    xs.mapM f = none ↔ xs ≠ [] := by
  cases xs with
  | nil => simp
  | cons x xs => simp [List.mapM_cons, h x]

section Radius

variable {K : Type} [Field K] [LinearOrder K] [FloorRing K]

namespace VoxelGridCovariance

/-- The kd-tree is that of the centroids; each of them has its leaf, and is its mean. -/
structure Indexed (g : VoxelGridCovariance K) : Prop where
  tree : g.kdtree_ = some g.voxel_centroids_
  leaf : ∀ i centroid, g.voxel_centroids_[i]? = some centroid →
    ∃ leaf, g.leafOfCentroid i = some leaf ∧ leaf.mean_ = centroid

/-- Every key is the key of an `int`. -/
theorem firstPass_key {g : VoxelGridCovariance K} {cloud : PointCloud K} {k : ℕ} {leaf : Leaf K}
    (hleaf : (g.firstPass cloud)[k]? = some leaf) :
    (∃ z, k = toSize (toInt32 z)) ∧ ∃ points, leaf = summed points := by
  rw [firstPass_eq, getElem?_groupFold] at hleaf
  by_cases hk : k ∈ cloud.used.map g.key
  · obtain ⟨p, _, rfl⟩ := List.mem_map.mp hk
    rw [if_pos hk] at hleaf
    exact ⟨⟨_, rfl⟩, ⟨_, (Option.some.inj hleaf).symm⟩⟩
  · rw [if_neg hk] at hleaf
    exact absurd hleaf (by simp)

/-- What a `filter` that is not refused leaves behind for the kd-tree. -/
theorem filter_rebuilt (lib : GridLib K) (g : VoxelGridCovariance K) (cloud : PointCloud K)
    (henough : g.tooManyCells (lib.getMinMax3D cloud).1 (lib.getMinMax3D cloud).2 = false)
    (searchable : Bool) :
    let box := g.setBounds (lib.getMinMax3D cloud).1 (lib.getMinMax3D cloud).2
    let output := box.outputLeaves (box.firstPass cloud)
    let g' := g.filter lib (some cloud) searchable
    g'.leaves_ = (box.firstPass cloud).map (fun _ leaf =>
        leaf.finish lib g.min_covar_eigvalue_mult_ g.min_points_per_voxel_) ∧
      g'.voxel_centroids_ = output.map (fun entry => entry.2.normalize.centroid) ∧
      (searchable = true →
        g'.voxel_centroids_leaf_indices_ = output.map fun entry => toInt32 entry.1) ∧
      (searchable = true → g'.voxel_centroids_ ≠ [] →
        g'.kdtree_ = some g'.voxel_centroids_) := by
  have hguard : ({ g with searchable_ := searchable, voxel_centroids_leaf_indices_ := [] } :
      VoxelGridCovariance K).tooManyCells (lib.getMinMax3D cloud).1 (lib.getMinMax3D cloud).2 =
      false := henough
  simp only [filter, applyFilter, hguard, Bool.false_eq_true, if_false]
  refine ⟨rfl, rfl, ?_, ?_⟩
  · rintro rfl
    rfl
  · rintro rfl hne
    exact if_pos (decide_eq_true (List.length_pos_iff.mpr hne))

/-- **A rebuilt grid is indexed**: after a `filter` that was not refused and that found a
centroid, every index that the kd-tree can return leads to a leaf. -/
theorem filter_indexed (lib : GridLib K) (g : VoxelGridCovariance K) (cloud : PointCloud K)
    (henough : g.tooManyCells (lib.getMinMax3D cloud).1 (lib.getMinMax3D cloud).2 = false)
    (hne : (g.filter lib (some cloud) true).voxel_centroids_ ≠ []) :
    (g.filter lib (some cloud) true).Indexed := by
  obtain ⟨hleaves, hcentroids, hindices, htree⟩ := filter_rebuilt lib g cloud henough true
  have hindices := hindices rfl
  have htree := htree rfl hne
  generalize g.setBounds (lib.getMinMax3D cloud).1 (lib.getMinMax3D cloud).2 = box
    at hleaves hcentroids hindices
  refine ⟨htree, fun i centroid hi => ?_⟩
  rw [hcentroids, List.getElem?_map, Option.map_eq_some_iff] at hi
  obtain ⟨⟨k, raw⟩, hentry, rfl⟩ := hi
  have hmem : (k, raw) ∈ (box.firstPass cloud).toList :=
    (List.mem_filter.mp (List.mem_of_getElem? hentry)).1
  have hstored := Std.TreeMap.mem_toList_iff_getElem?_eq_some.mp hmem
  obtain ⟨⟨z, rfl⟩, points, rfl⟩ := firstPass_key hstored
  refine ⟨(summed points).finish lib g.min_covar_eigvalue_mult_ g.min_points_per_voxel_, ?_,
    (finish_mean lib _ _ points).trans (normalize_centroid points).symm⟩
  rw [leafOfCentroid, hindices, List.getElem?_map, hentry, Option.map_some, Option.bind_some,
    getLeafAt, toSize_toInt32_toSize, hleaves, Std.TreeMap.getElem?_map, hstored,
    Option.map_some]

/-- A point of the output cloud is the mean of a stored leaf. -/
theorem exists_leaf_of_centroid (lib : GridLib K) {g : VoxelGridCovariance K}
    {cloud : PointCloud K}
    (henough : g.tooManyCells (lib.getMinMax3D cloud).1 (lib.getMinMax3D cloud).2 = false)
    (searchable : Bool) {centroid : Fin 3 → K}
    (hcentroid : centroid ∈ (g.filter lib (some cloud) searchable).voxel_centroids_) :
    ∃ (k : ℕ) (leaf : Leaf K),
      (g.filter lib (some cloud) searchable).leaves_[k]? = some leaf ∧ leaf.mean_ = centroid := by
  obtain ⟨hleaves, hcentroids, -, -⟩ := filter_rebuilt lib g cloud henough searchable
  rw [hcentroids] at hcentroid
  obtain ⟨⟨k, raw⟩, hentry, rfl⟩ := List.mem_map.mp hcentroid
  have hstored := Std.TreeMap.mem_toList_iff_getElem?_eq_some.mp (List.mem_filter.mp hentry).1
  obtain ⟨_, points, rfl⟩ := firstPass_key hstored
  refine ⟨k, (summed points).finish lib g.min_covar_eigvalue_mult_ g.min_points_per_voxel_, ?_,
    (finish_mean lib _ _ points).trans (normalize_centroid points).symm⟩
  rw [hleaves, Std.TreeMap.getElem?_map, hstored, Option.map_some]

/-- A rebuilt grid keeps the points under the keys of its bounding box. -/
theorem filter_key (lib : GridLib K) {g : VoxelGridCovariance K} {cloud : PointCloud K}
    (henough : g.tooManyCells (lib.getMinMax3D cloud).1 (lib.getMinMax3D cloud).2 = false)
    (searchable : Bool) :
    (g.filter lib (some cloud) searchable).key =
      (g.setBounds (lib.getMinMax3D cloud).1 (lib.getMinMax3D cloud).2).key := by
  have hguard : ({ g with searchable_ := searchable, voxel_centroids_leaf_indices_ := [] } :
      VoxelGridCovariance K).tooManyCells (lib.getMinMax3D cloud).1 (lib.getMinMax3D cloud).2 =
      false := henough
  simp only [filter, applyFilter, hguard, Bool.false_eq_true, if_false]
  rfl

/-- Points enough under one key give a centroid, their mean. -/
theorem mean_mem_voxel_centroids (lib : GridLib K) {g : VoxelGridCovariance K}
    {cloud : PointCloud K}
    (henough : g.tooManyCells (lib.getMinMax3D cloud).1 (lib.getMinMax3D cloud).2 = false)
    (searchable : Bool) {p : Fin 3 → K} (hp : p ∈ cloud.used) {points : List (Fin 3 → K)}
    (hpoints : (cloud.used.filter fun q =>
      (g.filter lib (some cloud) searchable).key q =
        (g.filter lib (some cloud) searchable).key p) = points)
    (hmin : g.min_points_per_voxel_ ≤ points.length) :
    mean points ∈ (g.filter lib (some cloud) searchable).voxel_centroids_ := by
  obtain ⟨-, hcentroids, -, -⟩ := filter_rebuilt lib g cloud henough searchable
  rw [filter_key lib henough] at hpoints
  rw [hcentroids]
  generalize hbox : g.setBounds (lib.getMinMax3D cloud).1 (lib.getMinMax3D cloud).2 = box
    at hpoints
  have hstored : (box.firstPass cloud)[box.key p]? = some (summed points) := by
    rw [firstPass_eq, getElem?_groupFold, if_pos (List.mem_map.mpr ⟨p, hp, rfl⟩), hpoints]
  have hmem : (box.key p, summed points) ∈ box.outputLeaves (box.firstPass cloud) := by
    refine List.mem_filter.mpr ⟨Std.TreeMap.mem_toList_iff_getElem?_eq_some.mpr hstored, ?_⟩
    rw [decide_eq_true_eq, summed_nr_points, ← hbox]
    exact hmin
  exact List.mem_map.mpr ⟨_, hmem, normalize_centroid points⟩

/-- `filter` leaves the settings alone. -/
theorem filter_settings (lib : GridLib K) (g : VoxelGridCovariance K)
    (input : Option (PointCloud K)) (searchable : Bool) :
    (g.filter lib input searchable).min_points_per_voxel_ = g.min_points_per_voxel_ ∧
      (g.filter lib input searchable).min_covar_eigvalue_mult_ =
        g.min_covar_eigvalue_mult_ ∧
      (g.filter lib input searchable).searchable_ = searchable := by
  cases input with
  | none => exact ⟨rfl, rfl, rfl⟩
  | some cloud =>
    simp only [filter, applyFilter]
    split_ifs <;> exact ⟨rfl, rfl, rfl⟩

theorem filter_inverse_leaf_size (lib : GridLib K) (g : VoxelGridCovariance K)
    (input : Option (PointCloud K)) (searchable : Bool) :
    (g.filter lib input searchable).inverse_leaf_size_ = g.inverse_leaf_size_ := by
  cases input with
  | none => rfl
  | some cloud =>
    simp only [filter, applyFilter]
    split_ifs <;> rfl

/-- The points of the kd-tree within the radius, by their indices. -/
def SearchLaw (search : KdTree K) : Prop :=
  ∀ cloud point radius i, i ∈ search (some cloud) point radius ↔
    ∃ p, cloud[i]? = some p ∧ sqDist p point ≤ radius ^ 2

omit [FloorRing K] in
/-- **Radius search.**  On an indexed grid the search reads no table out of range, and it
returns the leaves of the points that the kd-tree finds: their means are within the radius,
and every point of the tree within the radius has its leaf among them. -/
theorem Indexed.radiusSearch {g : VoxelGridCovariance K} (h : g.Indexed)
    (hsearchable : g.searchable_ = true) {search : KdTree K} (hsearch : SearchLaw search)
    (point : Fin 3 → K) (radius : K) :
    ∃ leaves, g.radiusSearch search point radius = some leaves ∧
      (∀ leaf ∈ leaves, sqDist leaf.mean_ point ≤ radius ^ 2) ∧
      ∀ centroid ∈ g.voxel_centroids_, sqDist centroid point ≤ radius ^ 2 →
        ∃ leaf ∈ leaves, leaf.mean_ = centroid := by
  have hleaf : ∀ i ∈ search (some g.voxel_centroids_) point radius,
      ∃ centroid leaf, g.voxel_centroids_[i]? = some centroid ∧
        sqDist centroid point ≤ radius ^ 2 ∧ g.leafOfCentroid i = some leaf ∧
        leaf.mean_ = centroid := by
    intro i hi
    obtain ⟨centroid, hget, hnear⟩ := (hsearch _ _ _ _).mp hi
    obtain ⟨leaf, hfound, hmean⟩ := h.leaf i centroid hget
    exact ⟨centroid, leaf, hget, hnear, hfound, hmean⟩
  have hsome : ∀ i ∈ search (some g.voxel_centroids_) point radius,
      g.leafOfCentroid i = some ((g.leafOfCentroid i).getD Leaf.new) := by
    intro i hi
    obtain ⟨_, leaf, _, _, hfound, _⟩ := hleaf i hi
    rw [hfound, Option.getD_some]
  have hall := mapM_eq_some hsome
  refine ⟨(search (some g.voxel_centroids_) point radius).map
    fun i => (g.leafOfCentroid i).getD Leaf.new, ?_, ?_, ?_⟩
  · rw [VoxelGridCovariance.radiusSearch, hsearchable, h.tree]
    exact hall
  · intro leaf hmem
    obtain ⟨i, hi, rfl⟩ := List.mem_map.mp hmem
    obtain ⟨centroid, leaf, _, hnear, hfound, hmean⟩ := hleaf i hi
    rwa [hfound, Option.getD_some, hmean]
  · intro centroid hmem hnear
    obtain ⟨i, hget⟩ := List.mem_iff_getElem?.mp hmem
    obtain ⟨leaf, hfound, hmean⟩ := h.leaf i centroid hget
    have hi := (hsearch _ _ _ _).mpr ⟨centroid, hget, hnear⟩
    refine ⟨leaf, List.mem_map.mpr ⟨i, hi, ?_⟩, hmean⟩
    rw [hfound, Option.getD_some]

/-- **A refused rebuild.**  When `filter` has no input or too many cells, it clears the
indices and keeps the old kd-tree: every hit of a later search is out of range. -/
theorem radiusSearch_of_refused (lib : GridLib K) (g : VoxelGridCovariance K)
    (input : Option (PointCloud K))
    (hrefused : ∀ cloud, input = some cloud →
      g.tooManyCells (lib.getMinMax3D cloud).1 (lib.getMinMax3D cloud).2 = true)
    (search : KdTree K) (point : Fin 3 → K) (radius : K) :
    (g.filter lib input true).radiusSearch search point radius = none ↔
      search g.kdtree_ point radius ≠ [] := by
  have hkept : (g.filter lib input true).searchable_ = true ∧
      (g.filter lib input true).kdtree_ = g.kdtree_ ∧
      (g.filter lib input true).voxel_centroids_leaf_indices_ = [] := by
    cases input with
    | none => exact ⟨rfl, rfl, rfl⟩
    | some cloud =>
      have hguard : ({ g with searchable_ := true, voxel_centroids_leaf_indices_ := [] } :
          VoxelGridCovariance K).tooManyCells (lib.getMinMax3D cloud).1
            (lib.getMinMax3D cloud).2 = true := hrefused cloud rfl
      simp [filter, applyFilter, hguard]
  obtain ⟨hsearchable, htree, hindices⟩ := hkept
  have hnone : ∀ i, (g.filter lib input true).leafOfCentroid i = none := by
    intro i
    rw [leafOfCentroid, hindices, List.getElem?_nil, Option.bind_none]
  rw [radiusSearch, hsearchable, htree]
  exact mapM_eq_none hnone

end VoxelGridCovariance

end Radius

end RoboRacer.Pclomp
