/-
  Pclomp/GridRuns.lean --- the voxel grid over the life of its object.

  A grid is given settings, leaf sizes and clouds, in any order and any number.
  A leaf keeps the statistics that it got from the settings of the rebuild that
  made it, also when the settings change after that, and when a rebuild is refused.
  So the history of a grid records these settings besides the grid.
-/
import Mathlib.Algebra.Order.Archimedean.Real.Basic
import RoboRacer.Pclomp.Neighborhood

set_option autoImplicit false

namespace RoboRacer.Pclomp

open Matrix RoboRacer.Foundation

/-! ## Calls -/

section Calls

variable {K : Type} [Field K] [LinearOrder K] [FloorRing K]

namespace VoxelGridCovariance

/-- `VoxelGridCovariance ()`. -/
def new : VoxelGridCovariance K where
  searchable_ := true
  min_points_per_voxel_ := 6
  min_covar_eigvalue_mult_ := ((100 : ℕ) : K)⁻¹
  leaf_size_ := 0
  inverse_leaf_size_ := 0
  min_b_ := 0
  max_b_ := 0
  div_b_ := 0
  divb_mul_ := 0
  leaves_ := ∅
  voxel_centroids_ := []
  voxel_centroids_leaf_indices_ := []
  kdtree_ := none

/-- `setMinPointPerVoxel`: the covariance needs three points. -/
def setMinPointPerVoxel (g : VoxelGridCovariance K) (min_points_per_voxel : ℤ) :
    VoxelGridCovariance K :=
  { g with
    min_points_per_voxel_ := if 2 < min_points_per_voxel then min_points_per_voxel else 3 }

/-- `setCovEigValueInflationRatio`. -/
def setCovEigValueInflationRatio (g : VoxelGridCovariance K) (min_covar_eigvalue_mult : K) :
    VoxelGridCovariance K :=
  { g with min_covar_eigvalue_mult_ := min_covar_eigvalue_mult }

/-- The calls after construction.  `setLeafSize` is a function of the base class, which stores
the sizes and their inverses. -/
inductive Call (K : Type) where
  | setMinPointPerVoxel (min_points_per_voxel : ℤ)
  | setCovEigValueInflationRatio (min_covar_eigvalue_mult : K)
  | setLeafSize (leaf_size inverse_leaf_size : Fin 3 → K)
  | filter (input : Option (PointCloud K)) (searchable : Bool)

/-- The effect of a call. -/
def Call.apply (lib : GridLib K) (g : VoxelGridCovariance K) : Call K → VoxelGridCovariance K
  | .setMinPointPerVoxel min_points_per_voxel => g.setMinPointPerVoxel min_points_per_voxel
  | .setCovEigValueInflationRatio min_covar_eigvalue_mult =>
    g.setCovEigValueInflationRatio min_covar_eigvalue_mult
  | .setLeafSize leaf_size inverse_leaf_size =>
    { g with leaf_size_ := leaf_size, inverse_leaf_size_ := inverse_leaf_size }
  | .filter input searchable => g.filter lib input searchable

/-- The call makes the leaves anew. -/
def Call.rebuilds (lib : GridLib K) (g : VoxelGridCovariance K) : Call K → Bool
  | .filter (some cloud) _ =>
    !g.tooManyCells (lib.getMinMax3D cloud).1 (lib.getMinMax3D cloud).2
  | _ => false

end VoxelGridCovariance

/-- A grid with the settings of the rebuild that made its leaves, those of the constructor
before the first one. -/
structure GridHistory (K : Type) where
  grid : VoxelGridCovariance K
  builtMinPoints : ℤ
  builtRatio : K

namespace GridHistory

/-- A grid after construction. -/
def new : GridHistory K where
  grid := .new
  builtMinPoints := (VoxelGridCovariance.new : VoxelGridCovariance K).min_points_per_voxel_
  builtRatio := (VoxelGridCovariance.new : VoxelGridCovariance K).min_covar_eigvalue_mult_

/-- One more call. -/
def call (lib : GridLib K) (history : GridHistory K) (call : VoxelGridCovariance.Call K) :
    GridHistory K :=
  if call.rebuilds lib history.grid then
    { grid := call.apply lib history.grid
      builtMinPoints := history.grid.min_points_per_voxel_
      builtRatio := history.grid.min_covar_eigvalue_mult_ }
  else { history with grid := call.apply lib history.grid }

/-- A grid after construction and some calls. -/
def afterCalls (lib : GridLib K) (calls : List (VoxelGridCovariance.Call K)) : GridHistory K :=
  calls.foldl (call lib) new

end GridHistory

end Calls

/-! ## The invariant of a run -/

namespace VoxelGridCovariance

/-- The leaves are those of a rebuild with the given settings: a leaf with the points that the
rebuild asked for is usable, and so is every leaf behind the kd-tree; a leaf with fewer points
has no inverse covariance. -/
structure Sound (g : VoxelGridCovariance ℝ) (minPoints : ℤ) (ratio : ℝ) : Prop where
  enough : 3 ≤ g.min_points_per_voxel_
  mult : g.min_covar_eigvalue_mult_ ≤ 1
  usable : ∀ (k : ℕ) (leaf : Leaf ℝ), g.leaves_[k]? = some leaf →
    minPoints ≤ leaf.nr_points → leaf.Usable ratio
  unused : ∀ (k : ℕ) (leaf : Leaf ℝ), g.leaves_[k]? = some leaf →
    leaf.nr_points < minPoints → leaf.icov_ = 0
  indexed : ∀ index ∈ g.voxel_centroids_leaf_indices_, ∀ leaf : Leaf ℝ,
    g.getLeafAt index = some leaf → leaf.Usable ratio

/-- A refused cloud takes the old indices and the old output away. -/
theorem filter_of_tooManyCells (lib : GridLib ℝ) {g : VoxelGridCovariance ℝ}
    {cloud : PointCloud ℝ}
    (hrefused : g.tooManyCells (lib.getMinMax3D cloud).1 (lib.getMinMax3D cloud).2 = true)
    (searchable : Bool) :
    g.filter lib (some cloud) searchable =
      { g with
        searchable_ := searchable
        voxel_centroids_ := []
        voxel_centroids_leaf_indices_ := [] } := by
  have hguard : ({ g with searchable_ := searchable, voxel_centroids_leaf_indices_ := [] } :
      VoxelGridCovariance ℝ).tooManyCells (lib.getMinMax3D cloud).1 (lib.getMinMax3D cloud).2 =
      true := hrefused
  simp [filter, applyFilter, hguard]

theorem filter_indices_of_not_searchable (lib : GridLib ℝ) (g : VoxelGridCovariance ℝ)
    (input : Option (PointCloud ℝ)) :
    (g.filter lib input false).voxel_centroids_leaf_indices_ = [] := by
  cases input with
  | none => rfl
  | some cloud =>
    cases hguard : ({ g with searchable_ := false, voxel_centroids_leaf_indices_ := [] } :
        VoxelGridCovariance ℝ).tooManyCells (lib.getMinMax3D cloud).1
          (lib.getMinMax3D cloud).2 <;>
      simp [filter, applyFilter, hguard, setBounds]

/-- A grid that has no leaves is sound. -/
theorem new_sound (minPoints : ℤ) (ratio : ℝ) :
    (new : VoxelGridCovariance ℝ).Sound minPoints ratio := by
  refine ⟨by decide, ?_, fun k leaf hleaf => ?_, fun k leaf hleaf => ?_, fun index hindex => ?_⟩
  · simp only [new]
    norm_num
  · exact absurd hleaf (by simp [new])
  · exact absurd hleaf (by simp [new])
  · exact absurd hindex List.not_mem_nil

variable {lib : GridLib ℝ} {g : VoxelGridCovariance ℝ} {minPoints : ℤ} {ratio : ℝ}

/-- **A rebuild makes the leaves with the settings of the grid.** -/
theorem filter_sound (hlib : EigenLaws lib) (henough : 3 ≤ g.min_points_per_voxel_)
    (hmult : g.min_covar_eigvalue_mult_ ≤ 1) {cloud : PointCloud ℝ}
    (hcells : g.tooManyCells (lib.getMinMax3D cloud).1 (lib.getMinMax3D cloud).2 = false)
    (searchable : Bool) :
    (g.filter lib (some cloud) searchable).Sound g.min_points_per_voxel_
      g.min_covar_eigvalue_mult_ := by
  obtain ⟨hmin', hmult', -⟩ := filter_settings lib g (some cloud) searchable
  obtain ⟨hleaves, -, hindices, -⟩ := filter_rebuilt lib g cloud hcells searchable
  have hbox : g.min_points_per_voxel_ =
      (g.setBounds (lib.getMinMax3D cloud).1 (lib.getMinMax3D cloud).2).min_points_per_voxel_ := rfl
  generalize g.setBounds (lib.getMinMax3D cloud).1 (lib.getMinMax3D cloud).2 = box
    at hleaves hindices hbox
  have hcount : ∀ points : List (Fin 3 → ℝ), ((summed points).finish lib
      g.min_covar_eigvalue_mult_ g.min_points_per_voxel_).nr_points = points.length :=
    fun points => finish_nr_points hlib fun hpoints => by omega
  have husable : ∀ points : List (Fin 3 → ℝ), g.min_points_per_voxel_ ≤ points.length →
      ((summed points).finish lib g.min_covar_eigvalue_mult_
        g.min_points_per_voxel_).Usable g.min_covar_eigvalue_mult_ :=
    fun points hpoints => finish_usable hlib hmult (by omega) hpoints
  have hstored : ∀ (k : ℕ) (leaf : Leaf ℝ),
      (g.filter lib (some cloud) searchable).leaves_[k]? = some leaf →
      ∃ points, leaf = (summed points).finish lib g.min_covar_eigvalue_mult_
        g.min_points_per_voxel_ := by
    intro k leaf hleaf
    rw [hleaves, Std.TreeMap.getElem?_map, Option.map_eq_some_iff] at hleaf
    obtain ⟨raw, hraw, rfl⟩ := hleaf
    obtain ⟨_, points, rfl⟩ := firstPass_key hraw
    exact ⟨points, rfl⟩
  refine ⟨hmin' ▸ henough, hmult' ▸ hmult, fun k leaf hleaf hpoints => ?_,
    fun k leaf hleaf hpoints => ?_, fun index hindex leaf hleaf => ?_⟩
  · obtain ⟨points, rfl⟩ := hstored k leaf hleaf
    rw [hcount] at hpoints
    exact husable points hpoints
  · obtain ⟨points, rfl⟩ := hstored k leaf hleaf
    rw [hcount] at hpoints
    exact finish_icov_of_lt hpoints
  · cases searchable with
    | false =>
      have hnone : (g.filter lib (some cloud) false).voxel_centroids_leaf_indices_ = [] :=
        filter_indices_of_not_searchable lib g (some cloud)
      exact absurd (hnone ▸ hindex) List.not_mem_nil
    | true =>
      -- the index was stored before the eigenvalues were checked
      rw [hindices rfl] at hindex
      obtain ⟨⟨k, raw⟩, hentry, rfl⟩ := List.mem_map.mp hindex
      obtain ⟨hmem, hpoints⟩ := List.mem_filter.mp hentry
      have hraw := Std.TreeMap.mem_toList_iff_getElem?_eq_some.mp hmem
      obtain ⟨⟨z, rfl⟩, points, rfl⟩ := firstPass_key hraw
      rw [getLeafAt, toSize_toInt32_toSize, hleaves, Std.TreeMap.getElem?_map, hraw] at hleaf
      obtain rfl := Option.some.inj hleaf
      rw [decide_eq_true_eq, ← hbox, summed_nr_points] at hpoints
      exact husable points hpoints

/-- A rebuild that is refused keeps the leaves, and takes the indices away. -/
theorem Sound.filter_refused (h : g.Sound minPoints ratio) {input : Option (PointCloud ℝ)}
    {searchable : Bool}
    (hrefused : (Call.filter input searchable).rebuilds lib g = false) :
    (g.filter lib input searchable).Sound minPoints ratio := by
  cases input with
  | none =>
    exact ⟨h.enough, h.mult, h.usable, h.unused,
      fun index hindex => absurd hindex List.not_mem_nil⟩
  | some cloud =>
    have hcells : g.tooManyCells (lib.getMinMax3D cloud).1 (lib.getMinMax3D cloud).2 = true := by
      simpa [Call.rebuilds] using hrefused
    rw [filter_of_tooManyCells lib hcells]
    exact ⟨h.enough, h.mult, h.usable, h.unused,
      fun index hindex => absurd hindex List.not_mem_nil⟩

/-- A rebuild with the settings of the leaves, refused or not. -/
theorem Sound.filter_same (hlib : EigenLaws lib)
    (h : g.Sound g.min_points_per_voxel_ g.min_covar_eigvalue_mult_)
    (input : Option (PointCloud ℝ)) (searchable : Bool) :
    (g.filter lib input searchable).Sound g.min_points_per_voxel_
      g.min_covar_eigvalue_mult_ := by
  cases hrebuilds : (Call.filter input searchable).rebuilds lib g with
  | false => exact h.filter_refused hrebuilds
  | true =>
    cases input with
    | none => exact absurd hrebuilds (by simp [Call.rebuilds])
    | some cloud =>
      exact filter_sound hlib h.enough h.mult (by simpa [Call.rebuilds] using hrebuilds) searchable

end VoxelGridCovariance

namespace GridHistory

open VoxelGridCovariance

variable {lib : GridLib ℝ} (hlib : EigenLaws lib)

/-- The grid is sound for the settings of its last rebuild. -/
def Sound (history : GridHistory ℝ) : Prop :=
  history.grid.Sound history.builtMinPoints history.builtRatio

include hlib

theorem Sound.call {history : GridHistory ℝ} (h : history.Sound) {call : Call ℝ}
    (hratio : ∀ ratio, call = .setCovEigValueInflationRatio ratio → ratio ≤ 1) :
    (history.call lib call).Sound := by
  cases hrebuilds : call.rebuilds lib history.grid with
  | true =>
    cases call with
    | filter input searchable =>
      cases input with
      | none => exact absurd hrebuilds (by simp [Call.rebuilds])
      | some cloud =>
        rw [GridHistory.call, if_pos hrebuilds]
        exact filter_sound hlib h.enough h.mult (by simpa [Call.rebuilds] using hrebuilds)
          searchable
    | _ => exact absurd hrebuilds (by simp [Call.rebuilds])
  | false =>
    rw [GridHistory.call, if_neg (by simp [hrebuilds])]
    cases call with
    | setMinPointPerVoxel min_points_per_voxel =>
      refine ⟨?_, h.mult, h.usable, h.unused, h.indexed⟩
      simp only [Call.apply, setMinPointPerVoxel]
      split_ifs <;> omega
    | setCovEigValueInflationRatio ratio =>
      exact ⟨h.enough, hratio ratio rfl, h.usable, h.unused, h.indexed⟩
    | setLeafSize leaf_size inverse_leaf_size =>
      exact ⟨h.enough, h.mult, h.usable, h.unused, h.indexed⟩
    | filter input searchable => exact h.filter_refused hrebuilds

theorem Sound.calls {history : GridHistory ℝ} (h : history.Sound) {calls : List (Call ℝ)}
    (hratio : ∀ ratio, .setCovEigValueInflationRatio ratio ∈ calls → ratio ≤ 1) :
    (calls.foldl (GridHistory.call lib) history).Sound := by
  induction calls generalizing history with
  | nil => exact h
  | cons call calls ih =>
    refine ih (h.call hlib fun ratio hcall => hratio ratio ?_) fun ratio hmem =>
      hratio ratio (List.mem_cons_of_mem call hmem)
    rw [hcall]
    exact List.mem_cons_self

theorem afterCalls_sound {calls : List (Call ℝ)}
    (hratio : ∀ ratio, .setCovEigValueInflationRatio ratio ∈ calls → ratio ≤ 1) :
    (afterCalls lib calls).Sound := by
  have hnew : (GridHistory.new : GridHistory ℝ).Sound := new_sound _ _
  exact hnew.calls hlib hratio

end GridHistory

end RoboRacer.Pclomp
