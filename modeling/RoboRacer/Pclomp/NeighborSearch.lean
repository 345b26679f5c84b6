/-
  Pclomp/NeighborSearch.lean --- the search methods of the registration, and what
  its derivatives are with each of them (`ndt_omp.h`: `NeighborSearchMethod`;
  `ndt_omp_impl.hpp`: the `switch` of `computeDerivatives`).

  The grid of the target may have any history in which `setMinPointPerVoxel` does
  not ask for fewer points than the leaves were made with.  As long as no search
  reads out of range, which the direct searches never do, every leaf near a point
  can be used then, so that the sums over the pairs are the score and its
  derivatives.  Sums are exact; in floating point they depend on their order, and so
  on the threads.

      | `computeDerivatives` | score, gradient | exact                       |
      | `computeDerivatives` | Hessian         | exact but for entry (4, 4)  |
      | `computeHessian`     | Hessian         | exact                       |
-/
import RoboRacer.Pclomp.ScoreDerivatives

set_option autoImplicit false

namespace RoboRacer.Pclomp

open Matrix RoboRacer.Foundation

/-- `pclomp::NeighborSearchMethod`. -/
inductive NeighborSearchMethod where
  | KDTREE
  | DIRECT26
  | DIRECT7
  | DIRECT1

namespace VoxelGridCovariance

section Search

variable {K : Type} [Field K] [LinearOrder K] [FloorRing K]

/-- The leaves near a point; `none` where radius search reads out of range.
`relative_coordinates` is the result of `pcl::getAllNeighborCellIndices`. -/
def neighborhood (search : KdTree K) (relative_coordinates : List (Fin 3 → ℤ))
    (target_cells_ : VoxelGridCovariance K) (resolution_ : K)
    (search_method : NeighborSearchMethod) (x_trans_pt : Fin 3 → K) : Option (List (Leaf K)) :=
  match search_method with
  | .KDTREE => target_cells_.radiusSearch search x_trans_pt resolution_
  | .DIRECT26 => some (target_cells_.getNeighborhoodAtPoint relative_coordinates x_trans_pt)
  | .DIRECT7 => some (target_cells_.getNeighborhoodAtPoint7 x_trans_pt)
  | .DIRECT1 => some (target_cells_.getNeighborhoodAtPoint1 x_trans_pt)

omit [Field K] [LinearOrder K] [FloorRing K] in
/-- An element of a list that was made element by element. -/
theorem mem_of_mapM_eq_some {α β : Type} {f : α → Option β} {xs : List α} {ys : List β}
    (h : xs.mapM f = some ys) {y : β} (hy : y ∈ ys) : ∃ x ∈ xs, f x = some y := by
  induction xs generalizing ys with
  | nil =>
    obtain rfl := Option.some.inj h
    exact absurd hy List.not_mem_nil
  | cons x xs ih =>
    simp only [List.mapM_cons, Option.bind_eq_bind, Option.pure_def, Option.bind_eq_some_iff] at h
    obtain ⟨first, hfirst, rest, hrest, hys⟩ := h
    obtain rfl := Option.some.inj hys
    rcases List.mem_cons.mp hy with rfl | hy
    · exact ⟨x, List.mem_cons_self, hfirst⟩
    · obtain ⟨x', hx', hy'⟩ := ih hrest hy
      exact ⟨x', List.mem_cons_of_mem x hx', hy'⟩

end Search

/-! ## Usable leaves -/

section Usable

variable {g : VoxelGridCovariance ℝ} {minPoints : ℤ} {ratio : ℝ} {search : KdTree ℝ}
  {relative_coordinates : List (Fin 3 → ℤ)} {resolution_ : ℝ}
  {search_method : NeighborSearchMethod} {x : Fin 3 → ℝ} {leaves : List (Leaf ℝ)}

/-- A leaf that was made without points enough, and that a search takes nevertheless. -/
structure Unfinished (g : VoxelGridCovariance ℝ) (minPoints : ℤ) (leaf : Leaf ℝ) : Prop where
  taken : g.min_points_per_voxel_ ≤ leaf.nr_points
  few : leaf.nr_points < minPoints
  icov : leaf.icov_ = 0

theorem Sound.direct (h : g.Sound minPoints ratio) {relative_coordinates : List (Fin 3 → ℤ)}
    {leaf : Leaf ℝ} (hleaf : leaf ∈ g.getNeighborhoodAtPoint relative_coordinates x) :
    leaf.Usable ratio ∨ g.Unfinished minPoints leaf := by
  obtain ⟨k, hstored, henough⟩ := exists_leaf_of_neighbor hleaf
  by_cases hmany : minPoints ≤ leaf.nr_points
  · exact .inl (h.usable k leaf hstored hmany)
  · exact .inr ⟨henough, not_le.mp hmany, h.unused k leaf hstored (not_le.mp hmany)⟩

/-- A leaf of a radius search is behind an index of the table. -/
theorem exists_index_of_radius (hfound : g.radiusSearch search x resolution_ = some leaves)
    {leaf : Leaf ℝ} (hleaf : leaf ∈ leaves) :
    ∃ index ∈ g.voxel_centroids_leaf_indices_, g.getLeafAt index = some leaf := by
  rw [radiusSearch] at hfound
  split_ifs at hfound with hsearchable
  · obtain rfl := Option.some.inj hfound
    exact absurd hleaf List.not_mem_nil
  · obtain ⟨i, -, hi⟩ := mem_of_mapM_eq_some hfound hleaf
    rw [leafOfCentroid, Option.bind_eq_some_iff] at hi
    obtain ⟨index, hindex, hget⟩ := hi
    exact ⟨index, List.mem_of_getElem? hindex, hget⟩

theorem Sound.radius (h : g.Sound minPoints ratio)
    (hfound : g.radiusSearch search x resolution_ = some leaves) {leaf : Leaf ℝ}
    (hleaf : leaf ∈ leaves) : leaf.Usable ratio := by
  obtain ⟨index, hindex, hget⟩ := exists_index_of_radius hfound hleaf
  exact h.indexed index hindex leaf hget

theorem Sound.neighborhood_cases (h : g.Sound minPoints ratio)
    (hfound : neighborhood search relative_coordinates g resolution_ search_method x =
      some leaves) {leaf : Leaf ℝ} (hleaf : leaf ∈ leaves) :
    leaf.Usable ratio ∨ search_method ≠ .KDTREE ∧ g.Unfinished minPoints leaf := by
  cases search_method with
  | KDTREE => exact .inl (h.radius hfound hleaf)
  | DIRECT26 =>
    obtain rfl := Option.some.inj hfound
    exact (h.direct hleaf).imp_right fun hfew => ⟨by simp, hfew⟩
  | DIRECT7 =>
    obtain rfl := Option.some.inj hfound
    exact (h.direct hleaf).imp_right fun hfew => ⟨by simp, hfew⟩
  | DIRECT1 =>
    obtain rfl := Option.some.inj hfound
    exact (h.direct hleaf).imp_right fun hfew => ⟨by simp, hfew⟩

/-- With points enough asked for, every leaf of a search is usable. -/
theorem Sound.neighborhood (h : g.Sound minPoints ratio)
    (hkept : minPoints ≤ g.min_points_per_voxel_)
    (hfound : neighborhood search relative_coordinates g resolution_ search_method x =
      some leaves) {leaf : Leaf ℝ} (hleaf : leaf ∈ leaves) : leaf.Usable ratio := by
  obtain husable | ⟨-, hfew⟩ := h.neighborhood_cases hfound hleaf
  · exact husable
  · exact absurd (hkept.trans hfew.taken) (not_le.mpr hfew.few)

end Usable

/-! ## The leaf of the six points -/

section SixLeaf

theorem unitGrid_ratio : unitGrid.min_covar_eigvalue_mult_ = (100 : ℝ)⁻¹ := by
  simp [unitGrid, new]

theorem sevenGrid_sound : sevenGrid.Sound 6 (100 : ℝ)⁻¹ := by
  rw [← unitGrid_ratio]
  exact filter_sound exactLib_eigen (by decide : 3 ≤ unitGrid.min_points_per_voxel_)
    (by rw [unitGrid_ratio]; norm_num) fits_sevenPoints.1 true

theorem sevenGrid_settings : sevenGrid.min_points_per_voxel_ = 6 ∧
    sevenGrid.min_covar_eigvalue_mult_ = (100 : ℝ)⁻¹ ∧ sevenGrid.searchable_ = true := by
  obtain ⟨hmin, hmult, hsearchable⟩ := filter_settings exactLib unitGrid (some sevenPoints) true
  exact ⟨hmin, hmult.trans unitGrid_ratio, hsearchable⟩

theorem sevenGrid_indexed : sevenGrid.Indexed :=
  filter_indexed exactLib unitGrid sevenPoints fits_sevenPoints.1
    (List.ne_nil_of_mem centroid_sevenGrid)

theorem sixLeaf_mean : sixLeaf.mean_ = ![1 / 4, 0, 0] :=
  (finish_mean _ _ _ _).trans mean_sixPoints

theorem sixLeaf_usable : sixLeaf.Usable (100 : ℝ)⁻¹ := by
  obtain ⟨hmin, hmult, -⟩ := sevenGrid_settings
  rw [sixLeaf, leafOf, hmin, hmult]
  exact finish_usable exactLib_eigen (by norm_num) (by simp [sixPoints]) (by simp [sixPoints])

/-- Around the cell at the origin the direct search finds the six points. -/
theorem near_sevenGrid {x : Fin 3 → ℝ} (hx : sevenGrid.cell x = 0) :
    sevenGrid.getNeighborhoodAtPoint7 x = [sixLeaf] := by
  have hmin : 2 ≤ sevenGrid.min_points_per_voxel_ := by
    rw [sevenGrid_settings.1]
    decide
  have hcount : (faceNeighbors.map fun d => sevenGrid.cell x + d).count 0 = 1 := by
    rw [hx]
    decide
  rw [getNeighborhoodAtPoint7, sevenGrid_built.getNeighborhoodAtPoint_eq,
    funext (leafIn_eq exactLib_eigen hmin sevenPoints), filterMap_sevenGrid, hcount,
    List.replicate_one]

/-- A radius search finds no other leaf. -/
theorem eq_sixLeaf_of_radius {x : Fin 3 → ℝ} {radius : ℝ} {leaves : List (Leaf ℝ)}
    (hfound : sevenGrid.radiusSearch scan x radius = some leaves) {leaf : Leaf ℝ}
    (hleaf : leaf ∈ leaves) : leaf = sixLeaf := by
  obtain ⟨index, -, hget⟩ := exists_index_of_radius hfound hleaf
  obtain ⟨p, hp, -, rfl⟩ := sevenGrid_built.exists_point hget
  obtain hsix | rfl := mem_sevenPoints.mp hp
  · rw [cell_sixPoints hsix, pointsIn_origin]
    rfl
  · -- the leaf of one point has no inverse covariance
    have hone : sevenGrid.pointsIn sevenPoints (sevenGrid.cell ![1, 0, 0]) = [![1, 0, 0]] := by
      rw [cell_nextPoint, pointsIn_sevenGrid, if_neg (by decide), if_pos rfl]
      rfl
    have hinverse := (sevenGrid_sound.radius hfound hleaf).inverse
    rw [leafOf, hone, sevenGrid_settings.1, finish_icov_of_lt (by simp), Matrix.mul_zero]
      at hinverse
    exact absurd hinverse zero_ne_one

/-- Around the mean of the six points a radius search finds their leaf. -/
theorem exists_radius_sevenGrid (x : Fin 3 → ℝ) :
    ∃ leaves, sevenGrid.radiusSearch scan x 1 = some leaves ∧
      (∀ leaf ∈ leaves, leaf = sixLeaf) ∧ (sqDist ![1 / 4, 0, 0] x ≤ 1 → leaves ≠ []) := by
  obtain ⟨leaves, hfound, -, hall⟩ :=
    sevenGrid_indexed.radiusSearch sevenGrid_settings.2.2 scan_law x 1
  refine ⟨leaves, hfound, fun leaf hleaf => eq_sixLeaf_of_radius hfound hleaf, fun hnear => ?_⟩
  obtain ⟨leaf, hleaf, -⟩ := hall _ centroid_sevenGrid (by rw [one_pow]; exact hnear)
  exact List.ne_nil_of_mem hleaf

/-- The calls that make the grid. -/
noncomputable def sevenCalls : List (Call ℝ) :=
  [.setLeafSize 1 1, .filter (some sevenPoints) true]

theorem afterCalls_sevenCalls : GridHistory.afterCalls exactLib sevenCalls =
    { grid := sevenGrid
      builtMinPoints := 6
      builtRatio := (100 : ℝ)⁻¹ } := by
  have hrebuilds : (Call.filter (some sevenPoints) true).rebuilds exactLib unitGrid = true := by
    simp [Call.rebuilds, fits_sevenPoints.1]
  rw [← unitGrid_ratio]
  exact if_pos hrebuilds

theorem sevenCalls_ratios (ratio : ℝ) :
    .setCovEigValueInflationRatio ratio ∈ sevenCalls → ratio ≤ 1 := by
  simp [sevenCalls]

theorem sevenCalls_kept : (GridHistory.afterCalls exactLib sevenCalls).builtMinPoints ≤
    (GridHistory.afterCalls exactLib sevenCalls).grid.min_points_per_voxel_ := by
  rw [afterCalls_sevenCalls]
  exact sevenGrid_settings.1.ge

/-- A quarter turn moves a point on the third axis into the cell of the six points. -/
theorem cell_quarterTurn {z : ℝ} (hz : 0 ≤ z ∧ z < 1) :
    sevenGrid.cell (transformPoint realMath quarterTurn ![0, 0, z]) = 0 := by
  rw [transformPoint_quarterTurn, cell_sevenGrid]
  funext axis
  fin_cases axis
  · exact Int.floor_eq_zero_iff.mpr hz
  · exact Int.floor_zero
  · exact Int.floor_zero

end SixLeaf

end VoxelGridCovariance

/-! ## The derivatives of a registration -/

section Registration

open VoxelGridCovariance GridHistory

variable {lib : GridLib ℝ} (hlib : EigenLaws lib) {calls : List (VoxelGridCovariance.Call ℝ)}
  (hinflation : ∀ ratio, .setCovEigValueInflationRatio ratio ∈ calls → ratio ≤ 1)
  (kdtree : KdTree ℝ) (relative_coordinates : List (Fin 3 → ℤ))
  {resolution_ outlier_ratio_ : ℝ}
  (hkept : (afterCalls lib calls).builtMinPoints ≤
    (afterCalls lib calls).grid.min_points_per_voxel_)
  (hresolution : 0 < resolution_) (hratio : 0 < outlier_ratio_ ∧ outlier_ratio_ < 1)
  {search : (Fin 3 → ℝ) → List (Leaf ℝ)} (input : List (Fin 3 → ℝ)) {p : Fin 6 → ℝ}
  (hp : Sharp p) {num_threads : ℕ} {schedule : List (Fin num_threads × ℕ)}
  (hschedule : (schedule.map Prod.snd).Perm (List.range input.length))
include hlib hinflation

/-- **Every leaf of a search is usable**, in every run of the grid and with every search
method: its covariance and its inverse covariance are positive definite and inverse to each
other, and no eigenvalue is below the given share of the largest.  A direct search after
`setMinPointPerVoxel` has asked for fewer points than the leaves were made with may find
other leaves, with an inverse covariance of zero. -/
theorem neighborhood_usable (search_method : NeighborSearchMethod) (x : Fin 3 → ℝ)
    {leaves : List (Leaf ℝ)}
    (hfound : neighborhood kdtree relative_coordinates (afterCalls lib calls).grid resolution_
      search_method x = some leaves) :
    ∀ leaf ∈ leaves, leaf.Usable (afterCalls lib calls).builtRatio ∨
      search_method ≠ .KDTREE ∧
        (afterCalls lib calls).grid.Unfinished (afterCalls lib calls).builtMinPoints leaf :=
  fun _ hleaf => (afterCalls_sound hlib hinflation).neighborhood_cases hfound hleaf

omit hlib hinflation in
/-- The radius search around a point at the origin. -/
theorem neighborhood_usable_sevenPoints :
    ∃ leaves, neighborhood scan [] (afterCalls exactLib sevenCalls).grid 1 .KDTREE 0 =
        some leaves ∧
      leaves ≠ [] ∧ ∀ leaf ∈ leaves, leaf.Usable (100 : ℝ)⁻¹ := by
  obtain ⟨leaves, hradius, -, hne⟩ := exists_radius_sevenGrid 0
  have hfound : neighborhood scan [] (afterCalls exactLib sevenCalls).grid 1 .KDTREE 0 =
      some leaves := by
    rw [afterCalls_sevenCalls]
    exact hradius
  refine ⟨leaves, hfound, hne ?_, fun leaf hleaf => ?_⟩
  · norm_num [sqDist]
  · obtain husable | ⟨hdirect, -⟩ :=
      neighborhood_usable exactLib_eigen sevenCalls_ratios scan [] .KDTREE 0 hfound leaf hleaf
    · rwa [afterCalls_sevenCalls] at husable
    · exact absurd rfl hdirect

include hkept hresolution hratio hp hschedule

/-- **Score and gradient are exact**, however the threads share the points: the score is the
sum of the Gaussians of all pairs of a point and a leaf that the search found near it, the
gradient is its derivative with these leaves held fixed, and every pair adds something, at
most `-gauss_d1_`. -/
theorem computeDerivatives_exact (search_method : NeighborSearchMethod)
    (hsearch : ∀ x, neighborhood kdtree relative_coordinates (afterCalls lib calls).grid
      resolution_ search_method x = some (search x))
    (compute_hessian : Bool) :
    let gauss := fitGauss realMath outlier_ratio_ resolution_
    let cells := cellsAt input search p
    let sums := computeDerivatives realMath gauss search input
      (transformPointCloud realMath input p) p compute_hessian schedule
    sums.1 = objective gauss input cells p ∧
      (∀ i, HasDerivAt (fun s => objective gauss input cells (Function.update p i s))
        (sums.2.1 i) (p i)) ∧
      0 ≤ sums.1 ∧ ((∃ idx < input.length, cells idx ≠ []) → 0 < sums.1) ∧
      sums.1 ≤ ((List.range input.length).map fun idx =>
        ((cells idx).length : ℝ) * -gauss.d1).sum := by
  intro gauss cells sums
  have hfit : gauss.Fit := fitGauss_fit hratio.1 hratio.2 hresolution
  have hsound := afterCalls_sound hlib hinflation
  have husable : SearchUsable search := fun x cell hcell =>
    (hsound.neighborhood hkept (hsearch x) hcell).inversePosDef
  obtain ⟨hscore, hgradient, -⟩ :=
    computeDerivatives_apply input hfit husable hp hschedule compute_hessian
  have hbounds : 0 ≤ objective gauss input cells p ∧ objective gauss input cells p ≤
      ((List.range input.length).map fun idx => ((cells idx).length : ℝ) * -gauss.d1).sum :=
    overPairs_mem fun idx cell hcell =>
      gaussian_mem (neg_nonneg.mpr hfit.d1_neg.le) hfit.d2_pos.le (husable _ cell hcell) _
  refine ⟨hscore, fun i => ?_, ?_, fun hsome => ?_, ?_⟩
  · rw [hgradient i]
    exact hasDerivAt_objective p (fun idx cell hcell => husable _ cell hcell) i
  · rw [hscore]
    exact hbounds.1
  · rw [hscore]
    exact overPairs_pos (fun idx _ cell _ => gaussian_pos (neg_pos.mpr hfit.d1_neg) _ _) hsome
  · rw [hscore]
    exact hbounds.2

omit hlib hinflation hkept hresolution hratio hp hschedule in
/-- Two threads and two points, turned by a quarter into the cell of the six points. -/
theorem computeDerivatives_exact_sevenPoints :
    let gauss := fitGauss realMath (11 / 20) 1
    let input : List (Fin 3 → ℝ) := [![0, 0, 1 / 8], 0]
    let cells := cellsAt input sevenGrid.getNeighborhoodAtPoint7 quarterTurn
    let sums := computeDerivatives realMath gauss sevenGrid.getNeighborhoodAtPoint7 input
      (transformPointCloud realMath input quarterTurn) quarterTurn true
      [((1 : Fin 2), 1), ((0 : Fin 2), 0)]
    0 < sums.1 ∧ sums.1 = objective gauss input cells quarterTurn ∧
      HasDerivAt (fun s => objective gauss input cells (Function.update quarterTurn 0 s))
        (sums.2.1 0) 0 := by
  intro gauss input cells sums
  have hsearch : ∀ x, neighborhood scan [] (afterCalls exactLib sevenCalls).grid 1 .DIRECT7 x =
      some (sevenGrid.getNeighborhoodAtPoint7 x) := by
    rw [afterCalls_sevenCalls]
    exact fun _ => rfl
  have hschedule : ([((1 : Fin 2), 1), ((0 : Fin 2), 0)].map Prod.snd).Perm (List.range 2) := by
    decide
  have hratio : (0 : ℝ) < 11 / 20 ∧ (11 / 20 : ℝ) < 1 := by norm_num
  obtain ⟨hscore, hgradient, -, hpos, -⟩ := computeDerivatives_exact exactLib_eigen
    sevenCalls_ratios scan [] sevenCalls_kept one_pos hratio input sharp_quarterTurn
    hschedule .DIRECT7 hsearch true
  have hinside : (0 : ℝ) ≤ 1 / 8 ∧ (1 / 8 : ℝ) < 1 := by norm_num
  refine ⟨hpos ⟨0, by decide, ?_⟩, hscore, hgradient 0⟩
  exact List.ne_nil_of_mem (near_sevenGrid (cell_quarterTurn hinside) ▸ List.mem_singleton_self _)

omit hkept in
/-- **The Hessian of `computeHessian` is exact**: it is the derivative of the gradient.  With
the same search, `computeDerivatives` differs from it in the entry of the second angle, by the
slopes of the Gaussians along `2 sin β z`, the error of a `float` table. -/
theorem computeHessian_exact
    (hsearch : ∀ x, (afterCalls lib calls).grid.radiusSearch kdtree x resolution_ =
      some (search x)) :
    let gauss := fitGauss realMath outlier_ratio_ resolution_
    let cells := cellsAt input search p
    let trans_cloud := transformPointCloud realMath input p
    let hessian := computeHessian realMath gauss search input trans_cloud
      (computeAngleDerivatives realMath p)
    let sums := computeDerivatives realMath gauss search input trans_cloud p true schedule
    (∃ slope : (Fin 6 → ℝ) → Fin 6 → ℝ,
      (∀ q i, HasDerivAt (fun s => objective gauss input cells (Function.update q i s))
        (slope q i) (q i)) ∧
      ∀ i j, HasDerivAt (fun s => slope (Function.update p j s) i) (hessian i j) (p j)) ∧
    ∀ i j, sums.2.2 i j = hessian i j +
      if i = 4 ∧ j = 4 then
        overPairs input.length cells fun idx cell =>
          gaussianSlope (-gauss.d1) gauss.d2 cell.icov_
            (transformPoint realMath p (pointAt input idx) - cell.mean_)
            ![2 * Real.sin (p 4) * pointAt input idx 2, 0, 0]
      else 0 := by
  intro gauss cells trans_cloud hessian sums
  have hfit : gauss.Fit := fitGauss_fit hratio.1 hratio.2 hresolution
  have husable : SearchUsable search := fun x cell hcell =>
    ((afterCalls_sound hlib hinflation).radius (hsearch x) hcell).inversePosDef
  have hcells : ∀ idx, ∀ cell ∈ cells idx, cell.icov_.PosDef := fun _ cell hcell =>
    husable _ cell hcell
  have hhessian := computeHessian_apply input hfit husable hp
  obtain ⟨-, -, hfloat⟩ := computeDerivatives_apply input hfit husable hp hschedule true
  refine ⟨⟨objectiveSlope gauss input cells, fun q i => hasDerivAt_objective q hcells i,
    fun i j => ?_⟩, fun i j => ?_⟩
  · exact (hasDerivAt_objectiveSlope p hcells i j).congr_deriv (hhessian i j).symm
  · exact (hfloat i j).trans (by rw [if_pos rfl, ← hhessian i j])

omit hlib hinflation hkept hresolution hratio hp hschedule in
/-- A point that a quarter turn moves beside the six points: the entry of the second angle is
too great. -/
theorem computeHessian_exact_sevenPoints :
    ∃ search : (Fin 3 → ℝ) → List (Leaf ℝ),
      (∀ x, sevenGrid.radiusSearch scan x 1 = some (search x)) ∧
      let gauss := fitGauss realMath (11 / 20) 1
      let input : List (Fin 3 → ℝ) := [![0, 0, 1 / 8]]
      let trans_cloud := transformPointCloud realMath input quarterTurn
      let hessian := computeHessian realMath gauss search input trans_cloud
        (computeAngleDerivatives realMath quarterTurn)
      let sums := computeDerivatives realMath gauss search input trans_cloud quarterTurn true
        [((0 : Fin 1), 0)]
      hessian 4 4 < sums.2.2 4 4 ∧ sums.2.2 3 3 = hessian 3 3 := by
  choose search hsearch hsix hne using exists_radius_sevenGrid
  refine ⟨search, hsearch, ?_⟩
  intro gauss input trans_cloud hessian sums
  have hradius : ∀ x, (afterCalls exactLib sevenCalls).grid.radiusSearch scan x 1 =
      some (search x) := by
    rw [afterCalls_sevenCalls]
    exact hsearch
  have hratio : (0 : ℝ) < 11 / 20 ∧ (11 / 20 : ℝ) < 1 := by norm_num
  have hschedule : ([((0 : Fin 1), 0)].map Prod.snd).Perm (List.range 1) := List.Perm.refl _
  obtain ⟨-, hentry⟩ := computeHessian_exact exactLib_eigen sevenCalls_ratios scan one_pos hratio
    input sharp_quarterTurn hschedule hradius
  have hfit : gauss.Fit := fitGauss_fit hratio.1 hratio.2 one_pos
  -- the point is on one side of the mean, and the error points to the other one
  have hmoved : transformPoint realMath quarterTurn ![0, 0, 1 / 8] - sixLeaf.mean_ =
      (-(1 / 8) : ℝ) • ![1, 0, 0] := by
    rw [transformPoint_quarterTurn, sixLeaf_mean]
    funext axis
    fin_cases axis <;> norm_num
  have herror : ![2 * Real.sin (quarterTurn 4) * (1 / 8), 0, 0] = (1 / 4 : ℝ) • ![1, 0, 0] := by
    rw [sin_quarterTurn]
    funext axis
    fin_cases axis <;> norm_num
  have hfirst : (![1, 0, 0] : Fin 3 → ℝ) ≠ 0 := by simp
  have hpos : 0 < overPairs 1 (cellsAt input search quarterTurn) fun idx cell =>
      gaussianSlope (-gauss.d1) gauss.d2 cell.icov_
        (transformPoint realMath quarterTurn (pointAt input idx) - cell.mean_)
        ![2 * Real.sin (quarterTurn 4) * pointAt input idx 2, 0, 0] := by
    refine overPairs_pos (fun idx hidx cell hcell => ?_) ⟨0, one_pos, ?_⟩
    · obtain rfl : idx = 0 := by omega
      obtain rfl := hsix _ cell hcell
      have hslope := gaussianSlope_pos (neg_pos.mpr hfit.d1_neg) hfit.d2_pos
        sixLeaf_usable.inversePosDef hfirst (by norm_num : (-(1 / 8) : ℝ) * (1 / 4) < 0)
      rwa [← hmoved, ← herror] at hslope
    · refine hne (transformPoint realMath quarterTurn ![0, 0, 1 / 8]) ?_
      rw [transformPoint_quarterTurn]
      norm_num [sqDist]
  refine ⟨(lt_add_of_pos_right _ hpos).trans_eq ?_, (hentry 3 3).trans ?_⟩
  · exact (hentry 4 4).symm
  · rw [if_neg (by decide), add_zero]

end Registration

end RoboRacer.Pclomp
