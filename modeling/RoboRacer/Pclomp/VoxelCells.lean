/-
  Pclomp/VoxelCells.lean --- what `filter` stores, cell by cell.

  The grid over a cloud is described without its table: the leaf of a cell is
  made from the points of the cloud in that cell, in the order of the cloud.  The
  table of offsets refines this description as long as the offsets of the
  bounding box are `int` values.
-/
import Mathlib.Algebra.Order.Field.Basic
import Mathlib.Data.Rat.Floor
import RoboRacer.Pclomp.VoxelGrid

set_option autoImplicit false

namespace RoboRacer.Pclomp

open Matrix RoboRacer.Foundation

/-! ## Keys -/

theorem toInt32_of_mem {z : ℤ} (h : 0 ≤ z ∧ z ≤ 2147483647) : toInt32 z = z := by
  rw [toInt32, Int.bmod_def]
  omega

theorem toSize_injective {z z' : ℤ} (h : 0 ≤ z ∧ z ≤ 2147483647)
    (h' : 0 ≤ z' ∧ z' ≤ 2147483647) (heq : toSize z = toSize z') : z = z' := by
  simp only [toSize] at heq
  omega

/-! ## The bounding box -/

namespace VoxelGridCovariance

section Box

variable {K : Type}

/-- A cell of the bounding box. -/
def InBox (g : VoxelGridCovariance K) (c : Fin 3 → ℤ) : Prop :=
  ∀ axis, g.min_b_ axis ≤ c axis ∧ c axis ≤ g.max_b_ axis

/-- The key of a cell counted from the origin. -/
def cellKey (g : VoxelGridCovariance K) (c : Fin 3 → ℤ) : ℕ :=
  toSize (g.offset fun axis => c axis - g.min_b_ axis)

/-- The sizes of the box, and that its offsets are `int` values. -/
structure Box (g : VoxelGridCovariance K) : Prop where
  div : ∀ axis, g.div_b_ axis = g.max_b_ axis - g.min_b_ axis + 1
  mul : g.divb_mul_ = ![1, g.div_b_ 0, toInt32 (g.div_b_ 0 * g.div_b_ 1)]
  fits : g.div_b_ 0 * g.div_b_ 1 * g.div_b_ 2 ≤ 2147483647

variable {g : VoxelGridCovariance K} (hbox : g.Box) {c c' : Fin 3 → ℤ} (hc : g.InBox c)
  (hc' : g.InBox c')
include hbox hc

theorem Box.coord (axis : Fin 3) :
    0 ≤ c axis - g.min_b_ axis ∧ c axis - g.min_b_ axis < g.div_b_ axis := by
  have := hc axis
  have := hbox.div axis
  omega

/-- Inside the box no multiplication overflows. -/
theorem Box.offset_eq :
    (g.offset fun axis => c axis - g.min_b_ axis) =
      boxIndex (g.div_b_ 0) (g.div_b_ 1) (c 0 - g.min_b_ 0) (c 1 - g.min_b_ 1)
        (c 2 - g.min_b_ 2) ∧
    0 ≤ (g.offset fun axis => c axis - g.min_b_ axis) ∧
    (g.offset fun axis => c axis - g.min_b_ axis) ≤ 2147483647 := by
  have h0 := hbox.coord hc 0
  have h1 := hbox.coord hc 1
  have h2 := hbox.coord hc 2
  have hnonneg := boxIndex_nonneg h0 h1 h2
  have hlt := boxIndex_lt h0 h1 h2
  have hfits := hbox.fits
  have hrow : 0 ≤ g.div_b_ 0 * g.div_b_ 1 :=
    Int.mul_nonneg (by omega) (by omega)
  have hrow' : g.div_b_ 0 * g.div_b_ 1 ≤ g.div_b_ 0 * g.div_b_ 1 * g.div_b_ 2 :=
    le_mul_of_one_le_right hrow (by omega)
  have heq : (g.offset fun axis => c axis - g.min_b_ axis) =
      boxIndex (g.div_b_ 0) (g.div_b_ 1) (c 0 - g.min_b_ 0) (c 1 - g.min_b_ 1)
        (c 2 - g.min_b_ 2) := by
    simp only [offset, hbox.mul, cons_val_zero, cons_val_one, cons_val, mul_one]
    rw [toInt32_of_mem (z := g.div_b_ 0 * g.div_b_ 1) ⟨hrow, by omega⟩]
    exact toInt32_of_mem ⟨hnonneg, by rw [boxIndex] at hlt; omega⟩
  rw [heq]
  exact ⟨rfl, hnonneg, by omega⟩

include hc' in
/-- Two cells of the box have different keys. -/
theorem Box.cellKey_injective (h : g.cellKey c = g.cellKey c') : c = c' := by
  obtain ⟨heq, hrange⟩ := hbox.offset_eq hc
  obtain ⟨heq', hrange'⟩ := hbox.offset_eq hc'
  have hoffset := toSize_injective hrange hrange' h
  rw [heq, heq'] at hoffset
  obtain ⟨hx, hy, hz⟩ := boxIndex_injective (hbox.coord hc 0) (hbox.coord hc' 0)
    (hbox.coord hc 1) (hbox.coord hc' 1) hoffset
  funext axis
  fin_cases axis
  · exact sub_left_injective hx
  · exact sub_left_injective hy
  · exact sub_left_injective hz

end Box

section Cells

variable {K : Type} [Field K] [LinearOrder K]

/-- `inverse_leaf_size_` holds the inverses of the positive leaf sizes. -/
structure LeafSize (g : VoxelGridCovariance K) : Prop where
  pos : ∀ axis, 0 < g.leaf_size_ axis
  inverse : ∀ axis, g.leaf_size_ axis * g.inverse_leaf_size_ axis = 1

theorem LeafSize.inverse_eq {g : VoxelGridCovariance K} (h : g.LeafSize) (axis : Fin 3) :
    g.inverse_leaf_size_ axis = (g.leaf_size_ axis)⁻¹ :=
  eq_inv_of_mul_eq_one_right (h.inverse axis)

theorem LeafSize.inverse_pos [IsStrictOrderedRing K] {g : VoxelGridCovariance K}
    (h : g.LeafSize) (axis : Fin 3) :
    0 < g.inverse_leaf_size_ axis := by
  rw [h.inverse_eq axis]
  exact inv_pos.mpr (h.pos axis)

variable [FloorRing K]

/-- A point between two others is in a cell between theirs. -/
theorem cell_mono [IsStrictOrderedRing K] {g : VoxelGridCovariance K} (h : g.LeafSize)
    {p q : Fin 3 → K} {axis : Fin 3} (hpq : p axis ≤ q axis) : g.cell p axis ≤ g.cell q axis :=
  Int.floor_le_floor (mul_le_mul_of_nonneg_right hpq (h.inverse_pos axis).le)

theorem key_eq_cellKey (g : VoxelGridCovariance K) (p : Fin 3 → K) :
    g.key p = g.cellKey (g.cell p) :=
  rfl

/-! ## What is stored -/

/-- The first pass groups the points by their keys. -/
theorem firstPass_eq (g : VoxelGridCovariance K) (cloud : PointCloud K) :
    g.firstPass cloud = groupFold g.key Leaf.new Leaf.addPoint cloud.used := by
  rw [firstPass, groupFold, PointCloud.used, List.foldl_map, List.foldl_filter]
  congr 1
  funext leaves p
  rw [groupStep]
  cases hdense : cloud.is_dense <;> cases hfinite : isFinite p <;> simp

/-- The points of a cloud in one cell, in the order of the cloud. -/
def pointsIn (g : VoxelGridCovariance K) (cloud : PointCloud K) (c : Fin 3 → ℤ) :
    List (Fin 3 → K) :=
  cloud.used.filter fun p => g.cell p = c

/-- The leaf made from the points of one cell. -/
def leafOf (lib : GridLib K) (g : VoxelGridCovariance K) (points : List (Fin 3 → K)) : Leaf K :=
  (points.foldl Leaf.addPoint Leaf.new).finish lib g.min_covar_eigvalue_mult_
    g.min_points_per_voxel_

/-- The grid holds the leaves of a cloud. -/
structure Built (lib : GridLib K) (cloud : PointCloud K) (g : VoxelGridCovariance K) : Prop where
  size : g.LeafSize
  box : g.Box
  inBox : ∀ p ∈ cloud.used, g.InBox (g.cell p)
  leaves : g.leaves_ = (groupFold g.key Leaf.new Leaf.addPoint cloud.used).map
    fun _ leaf => leaf.finish lib g.min_covar_eigvalue_mult_ g.min_points_per_voxel_

/-- `getMinMax3D` bounds the points of its cloud. -/
def MinMaxLaw (lib : GridLib K) : Prop :=
  ∀ cloud : PointCloud K, ∀ p ∈ cloud.used, ∀ axis,
    (lib.getMinMax3D cloud).1 axis ≤ p axis ∧ p axis ≤ (lib.getMinMax3D cloud).2 axis

/-- The offsets of the bounding box that `filter` computes for a cloud are `int` values. -/
def Fits (lib : GridLib K) (g : VoxelGridCovariance K) (cloud : PointCloud K) : Prop :=
  let bounds := lib.getMinMax3D cloud
  g.tooManyCells bounds.1 bounds.2 = false ∧
    let box := g.setBounds bounds.1 bounds.2
    box.div_b_ 0 * box.div_b_ 1 * box.div_b_ 2 ≤ 2147483647

/-- **`filter` builds the grid.** -/
theorem filter_built [IsStrictOrderedRing K] {lib : GridLib K} (hlib : MinMaxLaw lib)
    {g : VoxelGridCovariance K} (hsize : g.LeafSize) {cloud : PointCloud K}
    (hfits : Fits lib g cloud) (searchable : Bool) :
    Built lib cloud (g.filter lib (some cloud) searchable) := by
  obtain ⟨henough, hint⟩ := hfits
  have hguard : ({ g with searchable_ := searchable, voxel_centroids_leaf_indices_ := [] } :
      VoxelGridCovariance K).tooManyCells (lib.getMinMax3D cloud).1 (lib.getMinMax3D cloud).2 =
      false := henough
  simp only [filter, applyFilter, hguard, Bool.false_eq_true, if_false]
  refine ⟨⟨hsize.pos, hsize.inverse⟩, ⟨fun _ => rfl, rfl, hint⟩, ?_, ?_⟩
  · intro p hp axis
    exact ⟨cell_mono hsize (hlib cloud p hp axis).1, cell_mono hsize (hlib cloud p hp axis).2⟩
  · rw [firstPass_eq]
    rfl

section Built

variable {lib : GridLib K} {cloud : PointCloud K} {g : VoxelGridCovariance K}
  (h : Built lib cloud g)
include h

theorem Built.getElem?_leaves (k : ℕ) :
    g.leaves_[k]? =
      if k ∈ cloud.used.map g.key then
        some (leafOf lib g (cloud.used.filter fun p => g.key p = k))
      else none := by
  have hmap : g.leaves_[k]? = ((groupFold g.key Leaf.new Leaf.addPoint cloud.used :
      Std.TreeMap ℕ (Leaf K))[k]?).map fun leaf =>
        leaf.finish lib g.min_covar_eigvalue_mult_ g.min_points_per_voxel_ := by
    conv_lhs => rw [h.leaves]
    rw [Std.TreeMap.getElem?_map]
  rw [hmap, getElem?_groupFold]
  by_cases hk : k ∈ cloud.used.map g.key
  · rw [if_pos hk, if_pos hk]
    rfl
  · rw [if_neg hk, if_neg hk]
    rfl

/-- The points under the key of a cell are the points of that cell. -/
theorem Built.filter_key {c : Fin 3 → ℤ} (hc : g.InBox c) :
    (cloud.used.filter fun p => g.key p = g.cellKey c) = g.pointsIn cloud c := by
  refine List.filter_congr fun p hp => ?_
  have hiff : g.key p = g.cellKey c ↔ g.cell p = c := by
    constructor
    · intro hkey
      exact h.box.cellKey_injective (h.inBox p hp) hc hkey
    · rintro rfl
      rfl
  simp [hiff]

/-- **The leaf of a cell.**  In the box there is a leaf for exactly the cells with points, and
it is the leaf of all these points and of no others. -/
theorem Built.leaf_of_cell {c : Fin 3 → ℤ} (hc : g.InBox c) :
    g.leaves_[g.cellKey c]? =
      if g.pointsIn cloud c = [] then none else some (leafOf lib g (g.pointsIn cloud c)) := by
  rw [h.getElem?_leaves, h.filter_key hc]
  have hmem : g.cellKey c ∈ cloud.used.map g.key ↔ g.pointsIn cloud c ≠ [] := by
    rw [← h.filter_key hc, List.mem_map]
    constructor
    · rintro ⟨p, hp, hkey⟩
      exact List.ne_nil_of_mem (List.mem_filter.mpr ⟨hp, by simpa using hkey⟩)
    · intro hne
      obtain ⟨p, hp⟩ := List.exists_mem_of_ne_nil _ hne
      obtain ⟨hp, hkey⟩ := List.mem_filter.mp hp
      exact ⟨p, hp, by simpa using hkey⟩
  by_cases hnil : g.pointsIn cloud c = []
  · rw [if_pos hnil, if_neg (fun hk => hmem.mp hk hnil)]
  · rw [if_neg hnil, if_pos (hmem.mpr hnil)]

/-- A point of the cloud is found in the leaf of its cell. -/
theorem Built.getLeaf_eq {p : Fin 3 → K} (hp : p ∈ cloud.used) :
    g.getLeaf p = some (leafOf lib g (g.pointsIn cloud (g.cell p))) := by
  have hne : g.pointsIn cloud (g.cell p) ≠ [] :=
    List.ne_nil_of_mem (List.mem_filter.mpr ⟨hp, by simp⟩)
  have hleaf := h.leaf_of_cell (h.inBox p hp)
  rw [if_neg hne] at hleaf
  exact hleaf

/-- Every leaf is the leaf of the cell of some point. -/
theorem Built.exists_point {k : ℕ} {leaf : Leaf K} (hleaf : g.leaves_[k]? = some leaf) :
    ∃ p ∈ cloud.used, k = g.key p ∧ leaf = leafOf lib g (g.pointsIn cloud (g.cell p)) := by
  rw [h.getElem?_leaves] at hleaf
  by_cases hk : k ∈ cloud.used.map g.key
  · obtain ⟨p, hp, rfl⟩ := List.mem_map.mp hk
    rw [if_pos hk, key_eq_cellKey, h.filter_key (h.inBox p hp)] at hleaf
    exact ⟨p, hp, rfl, (Option.some.inj hleaf).symm⟩
  · rw [if_neg hk] at hleaf
    exact absurd hleaf (by simp)

end Built

end Cells

end VoxelGridCovariance

end RoboRacer.Pclomp
