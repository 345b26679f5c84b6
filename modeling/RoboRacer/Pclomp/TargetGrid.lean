/-
  Pclomp/TargetGrid.lean --- what a registration gets from the grid of its target.

  The results about `filter` and the searches: the leaves partition the cloud, a
  leaf is found from its points and from its mean, a neighbourhood is made of the
  cells around a point, and every leaf that a search returns has a covariance that
  can be inverted.

  `exactLib` computes what the libraries promise, with real numbers.
-/
import RoboRacer.Pclomp.GridRuns

set_option autoImplicit false

namespace RoboRacer.Pclomp

open Matrix RoboRacer.Foundation

/-! ## The libraries, exactly -/

section Bounds

variable {K : Type} [Zero K] [LinearOrder K]

/-- The coordinates of the points of a cloud along one axis. -/
def PointCloud.along (cloud : PointCloud K) (axis : Fin 3) : List K :=
  cloud.used.map fun p => p axis

/-- The least and the greatest coordinate along each axis. -/
def boundsOf (cloud : PointCloud K) : (Fin 3 → K) × (Fin 3 → K) :=
  (fun axis => (cloud.along axis).foldr min ((cloud.along axis).headD 0),
    fun axis => (cloud.along axis).foldr max ((cloud.along axis).headD 0))

omit [Zero K] in
theorem foldr_min_le {x : K} {xs : List K} (hx : x ∈ xs) (start : K) :
    xs.foldr min start ≤ x ∧ x ≤ xs.foldr max start := by
  induction xs with
  | nil => exact absurd hx (by simp)
  | cons y ys ih =>
    rw [List.foldr_cons, List.foldr_cons]
    rcases List.mem_cons.mp hx with rfl | hx
    · exact ⟨min_le_left _ _, le_max_left _ _⟩
    · exact ⟨(min_le_right _ _).trans (ih hx).1, (ih hx).2.trans (le_max_right _ _)⟩

theorem boundsOf_spec (cloud : PointCloud K) {p : Fin 3 → K} (hp : p ∈ cloud.used)
    (axis : Fin 3) : (boundsOf cloud).1 axis ≤ p axis ∧ p axis ≤ (boundsOf cloud).2 axis :=
  foldr_min_le (List.mem_map.mpr ⟨p, hp, rfl⟩) _

end Bounds

open Classical in
/-- Minima, eigenvectors and inverses of real numbers. -/
noncomputable def exactLib : GridLib ℝ where
  getMinMax3D := boundsOf
  eigenvalues M := if h : M.IsSymm then (exists_spectral_monotone h).choose_spec.choose else 0
  eigenvectors M := if h : M.IsSymm then (exists_spectral_monotone h).choose else 1
  inverse M := M⁻¹

theorem exactLib_minMax : VoxelGridCovariance.MinMaxLaw exactLib :=
  fun cloud _ hp axis => boundsOf_spec cloud hp axis

theorem exactLib_eigen : EigenLaws exactLib where
  ascending M h := by
    simp only [exactLib, dif_pos h]
    exact (exists_spectral_monotone h).choose_spec.choose_spec.2
  spectral M h := by
    simp only [exactLib, dif_pos h]
    exact (exists_spectral_monotone h).choose_spec.choose_spec.1
  inverse M h := mul_nonsing_inv M h

/-- A dense cloud. -/
def denseCloud (points : List (Fin 3 → ℝ)) : PointCloud ℝ where
  points := points.map fun p axis => some (p axis)
  is_dense := true
  dense _ p hp axis := by
    obtain ⟨q, -, rfl⟩ := List.mem_map.mp hp
    rfl

theorem denseCloud_used (points : List (Fin 3 → ℝ)) : (denseCloud points).used = points := by
  have hcoords : ∀ p : Fin 3 → ℝ, coords (fun axis => some (p axis)) = p := fun _ => rfl
  simp [PointCloud.used, denseCloud, hcoords, Function.comp_def]

/-- Three points at a corner of a cell and three in its middle. -/
noncomputable def sixPoints : List (Fin 3 → ℝ) :=
  List.replicate 3 0 ++ List.replicate 3 ![((2 : ℕ) : ℝ)⁻¹, 0, 0]

/-- The six points, and one in the next cell. -/
noncomputable def sevenPoints : PointCloud ℝ :=
  denseCloud (sixPoints ++ [![1, 0, 0]])

theorem mean_sixPoints : mean sixPoints = ![1 / 4, 0, 0] := by
  funext axis
  fin_cases axis <;> norm_num [mean, sixPoints]

namespace VoxelGridCovariance

/-- A grid of unit cells. -/
noncomputable def unitGrid : VoxelGridCovariance ℝ :=
  { new with leaf_size_ := 1, inverse_leaf_size_ := 1 }

theorem unitGrid_leafSize : unitGrid.LeafSize :=
  ⟨fun _ => one_pos, fun _ => mul_one 1⟩

theorem fits_sevenPoints : Fits exactLib unitGrid sevenPoints := by
  have hlow : (exactLib.getMinMax3D sevenPoints).1 = 0 := by
    funext axis
    fin_cases axis <;>
      norm_num [exactLib, boundsOf, PointCloud.along, sevenPoints, denseCloud_used, sixPoints,
        List.replicate]
  have hhigh : (exactLib.getMinMax3D sevenPoints).2 = ![1, 0, 0] := by
    funext axis
    fin_cases axis <;>
      norm_num [exactLib, boundsOf, PointCloud.along, sevenPoints, denseCloud_used, sixPoints,
        List.replicate]
  simp only [Fits, hlow, hhigh]
  constructor
  · simp [tooManyCells, unitGrid, truncate, toInt64]
  · simp [setBounds, cell, unitGrid]

/-- The grid of the seven points. -/
noncomputable def sevenGrid : VoxelGridCovariance ℝ :=
  unitGrid.filter exactLib (some sevenPoints) true

theorem cell_sevenGrid (p : Fin 3 → ℝ) : sevenGrid.cell p = fun axis => ⌊p axis⌋ := by
  have hsize : sevenGrid.inverse_leaf_size_ = 1 := by
    rw [sevenGrid, filter_inverse_leaf_size]
    rfl
  funext axis
  rw [cell, hsize, Pi.one_apply, mul_one]

theorem cell_sixPoints {p : Fin 3 → ℝ} (hp : p ∈ sixPoints) : sevenGrid.cell p = 0 := by
  have hcase : p = 0 ∨ p = ![1 / 2, 0, 0] := by
    simpa [sixPoints, List.mem_replicate] using hp
  rw [cell_sevenGrid]
  funext axis
  obtain rfl | rfl := hcase
  · simp
  · fin_cases axis <;> norm_num

theorem cell_nextPoint : sevenGrid.cell ![1, 0, 0] = ![1, 0, 0] := by
  rw [cell_sevenGrid]
  funext axis
  fin_cases axis <;> simp

/-- The six points in the cell at the origin, and one in the next one. -/
theorem pointsIn_sevenGrid (c : Fin 3 → ℤ) :
    sevenGrid.pointsIn sevenPoints c =
      (if c = 0 then sixPoints else []) ++ if c = ![1, 0, 0] then [![1, 0, 0]] else [] := by
  have hsix : (sixPoints.filter fun p => sevenGrid.cell p = c) =
      if c = 0 then sixPoints else [] := by
    by_cases hc : c = 0
    · rw [if_pos hc]
      exact List.filter_eq_self.mpr fun p hp => by simp [cell_sixPoints hp, hc]
    · rw [if_neg hc]
      exact List.filter_eq_nil_iff.mpr fun p hp => by simp [cell_sixPoints hp, Ne.symm hc]
  have hnext : ([![1, 0, 0]].filter fun p => sevenGrid.cell p = c) =
      if c = ![1, 0, 0] then [![1, 0, 0]] else [] := by
    rw [List.filter_singleton, cell_nextPoint]
    simp [eq_comm]
  rw [pointsIn, sevenPoints, denseCloud_used, List.filter_append, hsix, hnext]

theorem pointsIn_origin : sevenGrid.pointsIn sevenPoints 0 = sixPoints := by
  rw [pointsIn_sevenGrid, if_pos rfl, if_neg (by decide), List.append_nil]

theorem mem_sevenPoints {p : Fin 3 → ℝ} :
    p ∈ sevenPoints.used ↔ p ∈ sixPoints ∨ p = ![1, 0, 0] := by
  rw [sevenPoints, denseCloud_used, List.mem_append, List.mem_singleton]

/-- Only the cell at the origin has points enough. -/
theorem enough_sevenGrid (c : Fin 3 → ℤ) :
    sevenGrid.min_points_per_voxel_ ≤ (sevenGrid.pointsIn sevenPoints c).length ↔ c = 0 := by
  have hmin : sevenGrid.min_points_per_voxel_ = 6 :=
    (filter_settings exactLib unitGrid (some sevenPoints) true).1
  constructor
  · intro h
    by_contra hc
    rw [pointsIn_sevenGrid, if_neg hc, hmin] at h
    split_ifs at h <;> exact absurd h (by decide)
  · rintro rfl
    rw [pointsIn_origin, hmin]
    simp [sixPoints]

/-- The leaf of the six points. -/
noncomputable def sixLeaf : Leaf ℝ :=
  leafOf exactLib sevenGrid sixPoints

/-- Among any cells, only the one at the origin gives a leaf. -/
theorem filterMap_sevenGrid (cells : List (Fin 3 → ℤ)) :
    (cells.filterMap fun c =>
      if sevenGrid.min_points_per_voxel_ ≤ (sevenGrid.pointsIn sevenPoints c).length then
        some (leafOf exactLib sevenGrid (sevenGrid.pointsIn sevenPoints c))
      else none) = List.replicate (cells.count 0) sixLeaf := by
  have hcell : ∀ c, (if sevenGrid.min_points_per_voxel_ ≤
      (sevenGrid.pointsIn sevenPoints c).length then
        some (leafOf exactLib sevenGrid (sevenGrid.pointsIn sevenPoints c))
      else none) = if c = 0 then some sixLeaf else none := by
    intro c
    by_cases hc : c = 0
    · rw [if_pos ((enough_sevenGrid c).mpr hc), if_pos hc, hc, pointsIn_origin, sixLeaf]
    · rw [if_neg fun h => hc ((enough_sevenGrid c).mp h), if_neg hc]
  simp only [hcell]
  induction cells with
  | nil => rfl
  | cons c cells ih =>
    by_cases hc : c = 0
    · simp [hc, ih, List.replicate_succ]
    · simp [hc, ih]

theorem mem_sixPoints : (0 : Fin 3 → ℝ) ∈ sixPoints ∧ ![1 / 2, 0, 0] ∈ sixPoints := by
  constructor <;> simp [sixPoints]

theorem sevenGrid_built : Built exactLib sevenPoints sevenGrid :=
  filter_built exactLib_minMax unitGrid_leafSize fits_sevenPoints true

/-- The mean of the six points is in the output cloud. -/
theorem centroid_sevenGrid : ![1 / 4, 0, 0] ∈ sevenGrid.voxel_centroids_ := by
  have hzero := mem_sevenPoints.mpr (.inl mem_sixPoints.1)
  have hpoints := sevenGrid_built.filter_key (sevenGrid_built.inBox 0 hzero)
  rw [cell_sixPoints mem_sixPoints.1, pointsIn_origin, ← cell_sixPoints mem_sixPoints.1,
    ← key_eq_cellKey] at hpoints
  rw [← mean_sixPoints]
  exact mean_mem_voxel_centroids exactLib fits_sevenPoints.1 true hzero hpoints
    (by simp [unitGrid, new, sixPoints])

/-! ## The partition -/

/-- The number of points that a leaf has is the number of points under its key. -/
theorem Built.nr_points_eq {lib : GridLib ℝ} (heigen : EigenLaws lib) {cloud : PointCloud ℝ}
    {g : VoxelGridCovariance ℝ} (h : Built lib cloud g) (hmin : 2 ≤ g.min_points_per_voxel_)
    {k : ℕ} {leaf : Leaf ℝ} (hleaf : g.leaves_[k]? = some leaf) :
    leaf.nr_points = (cloud.used.filter fun p => g.key p = k).length := by
  rw [h.getElem?_leaves] at hleaf
  by_cases hk : k ∈ cloud.used.map g.key
  · rw [if_pos hk] at hleaf
    obtain rfl := Option.some.inj hleaf
    exact finish_nr_points heigen fun hpoints => by omega
  · rw [if_neg hk] at hleaf
    exact absurd hleaf (by simp)

/-- **The leaves partition the cloud.**  After `filter`, two points have one key exactly when
they are in one cell; `getLeaf` finds for every point the leaf of all points of its cell;
there is no leaf besides; and the numbers of points of the leaves add up to the number of
points of the cloud. -/
theorem filter_partition {lib : GridLib ℝ} (hlib : MinMaxLaw lib) (heigen : EigenLaws lib)
    {g : VoxelGridCovariance ℝ} (hsize : g.LeafSize) (hmin : 2 ≤ g.min_points_per_voxel_)
    {cloud : PointCloud ℝ} (hfits : Fits lib g cloud) (searchable : Bool) :
    let g' := g.filter lib (some cloud) searchable
    (∀ p ∈ cloud.used, ∀ q ∈ cloud.used, g'.key p = g'.key q ↔ g'.cell p = g'.cell q) ∧
    (∀ p ∈ cloud.used, g'.getLeaf p = some (leafOf lib g' (g'.pointsIn cloud (g'.cell p)))) ∧
    (∀ k leaf, g'.leaves_[k]? = some leaf →
      ∃ p ∈ cloud.used, k = g'.key p ∧ g'.getLeaf p = some leaf) ∧
    (g'.leaves_.toList.map fun entry => entry.2.nr_points).sum = cloud.used.length := by
  intro g'
  have h : Built lib cloud g' := filter_built hlib hsize hfits searchable
  have hmin' : 2 ≤ g'.min_points_per_voxel_ :=
    (filter_settings lib g (some cloud) searchable).1 ▸ hmin
  refine ⟨fun p hp q hq => ⟨fun hkey => ?_, fun hcell => ?_⟩, fun p hp => h.getLeaf_eq hp,
    fun k leaf hleaf => ?_, ?_⟩
  · exact h.box.cellKey_injective (h.inBox p hp) (h.inBox q hq) hkey
  · rw [key_eq_cellKey, key_eq_cellKey, hcell]
  · obtain ⟨p, hp, hk, rfl⟩ := h.exists_point hleaf
    exact ⟨p, hp, hk, h.getLeaf_eq hp⟩
  · have hcounts : g'.leaves_.toList.map (fun entry => entry.2.nr_points) =
        (g'.leaves_.toList.map fun entry =>
          (cloud.used.filter fun p => g'.key p = entry.1).length).map fun n : ℕ => (n : ℤ) := by
      rw [List.map_map]
      exact List.map_congr_left fun entry hentry =>
        h.nr_points_eq heigen hmin' (Std.TreeMap.mem_toList_iff_getElem?_eq_some.mp hentry)
    have hgroups := sum_group_lengths (c := compare) g'.key Leaf.new Leaf.addPoint cloud.used
    rw [hcounts, ← Nat.cast_list_sum, h.leaves, Std.TreeMap.toList_map, List.map_map]
    exact_mod_cast hgroups

/-- Six of the seven points are in one leaf. -/
theorem filter_partition_sevenPoints :
    (sevenGrid.leaves_.toList.map fun entry => entry.2.nr_points).sum = 7 ∧
      sevenGrid.key ![1 / 2, 0, 0] = sevenGrid.key 0 ∧
      sevenGrid.key ![1, 0, 0] ≠ sevenGrid.key 0 ∧
      sevenGrid.getLeaf ![1 / 2, 0, 0] = some sixLeaf := by
  obtain ⟨hkeys, hleaf, -, hsum⟩ := filter_partition exactLib_minMax exactLib_eigen
    unitGrid_leafSize (by decide : 2 ≤ unitGrid.min_points_per_voxel_) fits_sevenPoints true
  obtain ⟨hzero, hhalf⟩ := mem_sixPoints
  refine ⟨?_, (hkeys _ (mem_sevenPoints.mpr (.inl hhalf)) _ (mem_sevenPoints.mpr (.inl hzero))).mpr
    ((cell_sixPoints hhalf).trans (cell_sixPoints hzero).symm), fun h => ?_, ?_⟩
  · rw [sevenGrid, hsum, sevenPoints, denseCloud_used]
    simp [sixPoints]
  · have hcell := (hkeys _ (mem_sevenPoints.mpr (.inr rfl)) _
      (mem_sevenPoints.mpr (.inl hzero))).mp h
    exact absurd (cell_nextPoint.symm.trans (hcell.trans (cell_sixPoints hzero))) (by decide)
  · have hfound := hleaf _ (mem_sevenPoints.mpr (.inl hhalf))
    rwa [← sevenGrid, cell_sixPoints hhalf, pointsIn_origin] at hfound

/-! ## Lookup by mean -/

/-- **A leaf is found from its mean.**  The mean of a leaf, which is also its point in the
output cloud, lies in the cell of the leaf. -/
theorem filter_getLeaf_mean {K : Type} [Field K] [LinearOrder K] [IsStrictOrderedRing K]
    [FloorRing K] {lib : GridLib K} (hlib : MinMaxLaw lib) {g : VoxelGridCovariance K}
    (hsize : g.LeafSize) {cloud : PointCloud K} (hfits : Fits lib g cloud) (searchable : Bool) :
    let g' := g.filter lib (some cloud) searchable
    (∀ (k : ℕ) (leaf : Leaf K), g'.leaves_[k]? = some leaf → g'.getLeaf leaf.mean_ = some leaf) ∧
    ∀ centroid ∈ g'.voxel_centroids_, ∃ leaf, g'.getLeaf centroid = some leaf ∧
      leaf.mean_ = centroid := by
  intro g'
  have h : Built lib cloud g' := filter_built hlib hsize hfits searchable
  refine ⟨fun k leaf hleaf => h.getLeaf_mean hleaf, fun centroid hcentroid => ?_⟩
  obtain ⟨k, leaf, hleaf, hmean⟩ := exists_leaf_of_centroid lib hfits.1 searchable hcentroid
  exact ⟨leaf, hmean ▸ h.getLeaf_mean hleaf, hmean⟩

/-- The mean of the six points in one cell, and its leaf. -/
theorem filter_getLeaf_mean_sevenPoints :
    ![1 / 4, 0, 0] ∈ sevenGrid.voxel_centroids_ ∧
      ∃ leaf, sevenGrid.getLeaf ![1 / 4, 0, 0] = some leaf ∧ leaf.mean_ = ![1 / 4, 0, 0] :=
  ⟨centroid_sevenGrid, (filter_getLeaf_mean exactLib_minMax unitGrid_leafSize fits_sevenPoints
    true).2 _ centroid_sevenGrid⟩

/-! ## Neighbourhoods -/

/-- With two points or more for a leaf, the leaf of a cell is returned by the number of points
in the cell. -/
theorem leafIn_eq {lib : GridLib ℝ} (hlib : EigenLaws lib) {g : VoxelGridCovariance ℝ}
    (hmin : 2 ≤ g.min_points_per_voxel_) (cloud : PointCloud ℝ) (c : Fin 3 → ℤ) :
    leafIn lib g cloud c =
      if g.min_points_per_voxel_ ≤ (g.pointsIn cloud c).length then
        some (leafOf lib g (g.pointsIn cloud c))
      else none := by
  have hkept : (leafOf lib g (g.pointsIn cloud c)).nr_points = (g.pointsIn cloud c).length :=
    finish_nr_points hlib fun hpoints => by omega
  rw [leafIn, hkept]
  by_cases hnil : g.pointsIn cloud c = []
  · rw [if_pos hnil, if_neg (by rw [hnil, List.length_nil]; omega)]
  · rw [if_neg hnil]

/-- **A neighbourhood is made of the cells around the point.**  For any displacements the
search returns, in their order, the leaves of the displaced cells in which the cloud has at
least `min_points_per_voxel_` points, each with all points of its cell. -/
theorem filter_getNeighborhoodAtPoint {lib : GridLib ℝ} (hlib : MinMaxLaw lib)
    (heigen : EigenLaws lib) {g : VoxelGridCovariance ℝ} (hsize : g.LeafSize)
    (hmin : 2 ≤ g.min_points_per_voxel_) {cloud : PointCloud ℝ} (hfits : Fits lib g cloud)
    (searchable : Bool) (relative_coordinates : List (Fin 3 → ℤ)) (p : Fin 3 → ℝ) :
    let g' := g.filter lib (some cloud) searchable
    g'.getNeighborhoodAtPoint relative_coordinates p =
      (relative_coordinates.map fun d => g'.cell p + d).filterMap fun c =>
        if g'.min_points_per_voxel_ ≤ (g'.pointsIn cloud c).length then
          some (leafOf lib g' (g'.pointsIn cloud c))
        else none := by
  intro g'
  have h : Built lib cloud g' := filter_built hlib hsize hfits searchable
  have hmin' : 2 ≤ g'.min_points_per_voxel_ :=
    (filter_settings lib g (some cloud) searchable).1 ▸ hmin
  rw [h.getNeighborhoodAtPoint_eq]
  exact List.filterMap_congr fun c _ => leafIn_eq heigen hmin' cloud c

/-- From the cell of one point, the search finds the six points in the cell beside it. -/
theorem filter_getNeighborhoodAtPoint_sevenPoints :
    sevenGrid.getNeighborhoodAtPoint faceNeighbors ![1, 0, 0] = [sixLeaf] := by
  have hcount : (faceNeighbors.map fun d => sevenGrid.cell ![1, 0, 0] + d).count 0 = 1 := by
    rw [cell_nextPoint]
    decide
  calc sevenGrid.getNeighborhoodAtPoint faceNeighbors ![1, 0, 0]
      = _ := filter_getNeighborhoodAtPoint exactLib_minMax exactLib_eigen unitGrid_leafSize
          (by decide : 2 ≤ unitGrid.min_points_per_voxel_) fits_sevenPoints true _ _
    _ = List.replicate ((faceNeighbors.map fun d => sevenGrid.cell ![1, 0, 0] + d).count 0)
          sixLeaf := filterMap_sevenGrid _
    _ = [sixLeaf] := by rw [hcount, List.replicate_one]

/-! ## Radius search -/

/-- **Radius search after a rebuild.**  When `filter` was not refused and found a centroid,
the search reads no table out of range, returns only leaves whose mean is within the radius,
and returns one for every centroid within the radius.  When a later `filter` is refused, for
want of a cloud or because the cloud has too many cells, the indices are gone and the kd-tree
is not: a search then reads out of range exactly when the kd-tree finds anything. -/
theorem radiusSearch_filter {K : Type} [Field K] [LinearOrder K] [FloorRing K] (lib : GridLib K)
    (g : VoxelGridCovariance K) (cloud : PointCloud K)
    (henough : g.tooManyCells (lib.getMinMax3D cloud).1 (lib.getMinMax3D cloud).2 = false)
    (hne : (g.filter lib (some cloud) true).voxel_centroids_ ≠ [])
    {search : KdTree K} (hsearch : SearchLaw search) (point : Fin 3 → K) (radius : K) :
    let g' := g.filter lib (some cloud) true
    (∃ leaves, g'.radiusSearch search point radius = some leaves ∧
      (∀ leaf ∈ leaves, sqDist leaf.mean_ point ≤ radius ^ 2) ∧
      ∀ centroid ∈ g'.voxel_centroids_, sqDist centroid point ≤ radius ^ 2 →
        ∃ leaf ∈ leaves, leaf.mean_ = centroid) ∧
    ∀ input : Option (PointCloud K),
      (∀ cloud', input = some cloud' →
        g'.tooManyCells (lib.getMinMax3D cloud').1 (lib.getMinMax3D cloud').2 = true) →
      ((g'.filter lib input true).radiusSearch search point radius = none ↔
        ∃ centroid ∈ g'.voxel_centroids_, sqDist centroid point ≤ radius ^ 2) := by
  intro g'
  have hindexed : g'.Indexed := filter_indexed lib g cloud henough hne
  constructor
  · exact hindexed.radiusSearch (filter_settings lib g (some cloud) true).2.2 hsearch point radius
  · intro input hrefused
    rw [radiusSearch_of_refused lib g' input hrefused, hindexed.tree]
    constructor
    · intro hhits
      obtain ⟨i, hi⟩ := List.exists_mem_of_ne_nil _ hhits
      obtain ⟨centroid, hget, hnear⟩ := (hsearch _ _ _ _).mp hi
      exact ⟨centroid, List.mem_of_getElem? hget, hnear⟩
    · rintro ⟨centroid, hmem, hnear⟩
      obtain ⟨i, hget⟩ := List.mem_iff_getElem?.mp hmem
      exact List.ne_nil_of_mem ((hsearch _ _ _ _).mpr ⟨centroid, hget, hnear⟩)

open Classical in
/-- The indices of the points within the radius, one after the other. -/
noncomputable def scan : KdTree ℝ :=
  fun cloud point radius => (List.range (cloud.getD []).length).filter fun i =>
    sqDist ((cloud.getD [])[i]?.getD 0) point ≤ radius ^ 2

theorem scan_law : SearchLaw scan := by
  intro cloud point radius i
  rw [scan, Option.getD_some, List.mem_filter, List.mem_range, decide_eq_true_eq]
  constructor
  · rintro ⟨hi, hnear⟩
    rw [List.getElem?_eq_getElem hi, Option.getD_some] at hnear
    exact ⟨cloud[i], List.getElem?_eq_getElem hi, hnear⟩
  · rintro ⟨p, hget, hnear⟩
    obtain ⟨hi, rfl⟩ := List.getElem?_eq_some_iff.mp hget
    exact ⟨hi, by rwa [hget, Option.getD_some]⟩

/-- A point that is measured six times. -/
def samePoint : PointCloud ℝ where
  points := List.replicate 6 ![some 0, some 0, some 0]
  is_dense := false
  dense h := absurd h (by decide)

theorem samePoint_used : samePoint.used = List.replicate 6 0 := by
  have hcoords : coords ![some (0 : ℝ), some 0, some 0] = 0 := by
    funext axis
    fin_cases axis <;> rfl
  simp [PointCloud.used, samePoint, isFinite, hcoords, List.replicate]

theorem samePoint_enough : unitGrid.tooManyCells (exactLib.getMinMax3D samePoint).1
    (exactLib.getMinMax3D samePoint).2 = false := by
  have halong : ∀ axis, samePoint.along axis = List.replicate 6 0 := by
    intro axis
    rw [PointCloud.along, samePoint_used, List.map_replicate, Pi.zero_apply]
  simp [exactLib, boundsOf, halong, tooManyCells, unitGrid, truncate, toInt64, List.replicate]

theorem samePoint_centroids :
    (unitGrid.filter exactLib (some samePoint) true).voxel_centroids_ ≠ [] := by
  have hmem : (0 : Fin 3 → ℝ) ∈ samePoint.used := by simp [samePoint_used]
  have hpoints : (samePoint.used.filter fun q =>
      (unitGrid.filter exactLib (some samePoint) true).key q =
        (unitGrid.filter exactLib (some samePoint) true).key 0) = List.replicate 6 0 := by
    rw [samePoint_used]
    exact List.filter_eq_self.mpr fun q hq => by simp [List.eq_of_mem_replicate hq]
  exact List.ne_nil_of_mem (mean_mem_voxel_centroids exactLib samePoint_enough true hmem hpoints
    (by simp [unitGrid, new]))

theorem radiusSearch_filter_samePoint :
    ∃ leaves, (unitGrid.filter exactLib (some samePoint) true).radiusSearch scan 0 1 =
      some leaves := by
  obtain ⟨leaves, hfound, -⟩ := (radiusSearch_filter exactLib unitGrid samePoint
    samePoint_enough samePoint_centroids scan_law 0 1).1
  exact ⟨leaves, hfound⟩

end VoxelGridCovariance

end RoboRacer.Pclomp
