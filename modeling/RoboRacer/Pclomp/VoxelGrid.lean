/-
  Pclomp/VoxelGrid.lean --- the voxel grid of the target cloud
  (`voxel_grid_covariance_omp.h`, `voxel_grid_covariance_omp_impl.hpp`).

  `filter` sorts the points of a cloud into the cells of a grid, a leaf for each
  cell that has a point, and computes the statistics of every leaf.  The leaves
  are stored under the offset of their cell in the bounding box of the cloud, so
  that a leaf is found again from a position.

      | `applyFilter`, first pass  | sums of the points of each cell          |
      | `applyFilter`, second pass | mean, covariance and its inverse         |
      | `getLeaf`                  | the leaf of the cell that holds a point  |

  Coordinates are exact numbers, where the code has `float` and `double`; an `int` is
  a number that wraps at 32 bits where the code computes an offset, and a cell
  number is assumed to be an `int`.  The minimum and maximum of a cloud, the
  eigenvectors of a symmetric matrix and the inverse of a matrix are taken from
  the libraries.  Only the coordinates of a point are kept
  (`downsample_all_data_` and `save_leaf_layout_` are off, `filter_field_name_`
  is empty).
-/
import Mathlib.Algebra.Order.Floor.Ring
import Mathlib.Data.Matrix.Mul
import Mathlib.LinearAlgebra.Matrix.Diagonal
import RoboRacer.Foundation.BoxIndex
import RoboRacer.Foundation.GroupFold

set_option autoImplicit false

namespace RoboRacer.Pclomp

open Matrix RoboRacer.Foundation

/-- Three coordinates. -/
scoped instance neZeroThree : NeZero 3 :=
  ⟨by decide⟩

/-! ## Clouds -/

/-- `pcl::PointCloud`; a coordinate that is not a finite number is `none`. -/
structure PointCloud (K : Type) where
  points : List (Fin 3 → Option K)
  is_dense : Bool
  /-- The points of a dense cloud are finite. -/
  dense : is_dense = true → ∀ p ∈ points, ∀ axis, (p axis).isSome

/-- `std::isfinite` of all three coordinates. -/
def isFinite {K : Type} (p : Fin 3 → Option K) : Bool :=
  (p 0).isSome && (p 1).isSome && (p 2).isSome

section Cloud

variable {K : Type} [Zero K]

/-- The coordinates of a finite point. -/
def coords (p : Fin 3 → Option K) : Fin 3 → K :=
  fun axis => (p axis).getD 0

/-- The points that the passes over a cloud do not skip. -/
def PointCloud.used (cloud : PointCloud K) : List (Fin 3 → K) :=
  (cloud.points.filter fun p => cloud.is_dense || isFinite p).map coords

end Cloud

/-! ## Leaves -/

/-- `VoxelGridCovariance::Leaf`. -/
structure Leaf (K : Type) where
  nr_points : ℤ
  mean_ : Fin 3 → K
  centroid : Fin 3 → K
  cov_ : Matrix (Fin 3) (Fin 3) K
  icov_ : Matrix (Fin 3) (Fin 3) K
  evecs_ : Matrix (Fin 3) (Fin 3) K
  evals_ : Fin 3 → K

/-- What the grid takes from pcl and Eigen. -/
structure GridLib (K : Type) where
  /-- `pcl::getMinMax3D`. -/
  getMinMax3D : PointCloud K → (Fin 3 → K) × (Fin 3 → K)
  /-- `eigenvalues` of `SelfAdjointEigenSolver`. -/
  eigenvalues : Matrix (Fin 3) (Fin 3) K → Fin 3 → K
  /-- `eigenvectors` of `SelfAdjointEigenSolver`, the columns of a matrix. -/
  eigenvectors : Matrix (Fin 3) (Fin 3) K → Matrix (Fin 3) (Fin 3) K
  /-- `inverse` of a matrix. -/
  inverse : Matrix (Fin 3) (Fin 3) K → Matrix (Fin 3) (Fin 3) K

section Leaf

variable {K : Type} [Field K]

/-- `Leaf ()`: the covariance starts as the identity. -/
def Leaf.new : Leaf K where
  nr_points := 0
  mean_ := 0
  centroid := 0
  cov_ := 1
  icov_ := 0
  evecs_ := 1
  evals_ := 0

/-- The first pass over one point. -/
def Leaf.addPoint (leaf : Leaf K) (pt3d : Fin 3 → K) : Leaf K :=
  { leaf with
    mean_ := leaf.mean_ + pt3d
    cov_ := leaf.cov_ + vecMulVec pt3d pt3d
    centroid := (if leaf.nr_points = 0 then 0 else leaf.centroid) + pt3d
    nr_points := leaf.nr_points + 1 }

/-- `leaf.mean_ /= leaf.nr_points`, for the mean and the centroid. -/
def Leaf.normalize (leaf : Leaf K) : Leaf K :=
  { leaf with
    centroid := (leaf.nr_points : K)⁻¹ • leaf.centroid
    mean_ := (leaf.nr_points : K)⁻¹ • leaf.mean_ }

/-- The covariance from the sums of a leaf in a single pass. -/
def Leaf.singlePassCov (leaf : Leaf K) : Matrix (Fin 3) (Fin 3) K :=
  let n : K := leaf.nr_points
  let mean := n⁻¹ • leaf.mean_
  let outer := vecMulVec leaf.mean_ mean
  let cov := n⁻¹ • (leaf.cov_ - (outer + outer)) + vecMulVec mean mean
  ((n - 1) / n) • cov

variable [LinearOrder K]

/-- The eigenvalues after inflation: none of the first two is below the given share of the
third once the first one is. -/
def inflate (mult : K) (eigen_val : Fin 3 → K) : Fin 3 → K :=
  let min_covar_eigvalue := mult * eigen_val 2
  if eigen_val 0 < min_covar_eigvalue then
    ![min_covar_eigvalue,
      if eigen_val 1 < min_covar_eigvalue then min_covar_eigvalue else eigen_val 1,
      eigen_val 2]
  else eigen_val

/-- The second pass over one leaf. -/
def Leaf.finish (lib : GridLib K) (mult : K) (min_points : ℤ) (leaf : Leaf K) : Leaf K :=
  if leaf.nr_points < min_points then leaf.normalize
  else
    let cov := leaf.singlePassCov
    let eigen_val := lib.eigenvalues cov
    let evecs := lib.eigenvectors cov
    let leaf := { leaf.normalize with cov_ := cov, evecs_ := evecs }
    if eigen_val 0 < 0 ∨ eigen_val 1 < 0 ∨ eigen_val 2 ≤ 0 then
      { leaf with nr_points := -1 }
    else
      let inflated := inflate mult eigen_val
      let cov :=
        if eigen_val 0 < mult * eigen_val 2 then
          evecs * diagonal inflated * lib.inverse evecs
        else cov
      { leaf with cov_ := cov, evals_ := inflated, icov_ := lib.inverse cov }

end Leaf

/-! ## The grid -/

/-- The members of `VoxelGridCovariance` that `filter` and the searches use. -/
structure VoxelGridCovariance (K : Type) where
  searchable_ : Bool
  min_points_per_voxel_ : ℤ
  min_covar_eigvalue_mult_ : K
  leaf_size_ : Fin 3 → K
  inverse_leaf_size_ : Fin 3 → K
  min_b_ : Fin 3 → ℤ
  max_b_ : Fin 3 → ℤ
  div_b_ : Fin 3 → ℤ
  divb_mul_ : Fin 3 → ℤ
  leaves_ : Std.TreeMap ℕ (Leaf K)
  voxel_centroids_ : List (Fin 3 → K)
  voxel_centroids_leaf_indices_ : List ℤ
  /-- The cloud that was given to `kdtree_` last. -/
  kdtree_ : Option (List (Fin 3 → K))

/-- An `int` result. -/
def toInt32 (z : ℤ) : ℤ :=
  z.bmod 4294967296

/-- An `int64_t` result. -/
def toInt64 (z : ℤ) : ℤ :=
  z.bmod 18446744073709551616

/-- The `size_t` key of an `int`. -/
def toSize (z : ℤ) : ℕ :=
  (z % 18446744073709551616).toNat

section Grid

variable {K : Type} [Field K] [LinearOrder K] [FloorRing K]

/-- A conversion to an integer drops the fraction. -/
def truncate (x : K) : ℤ :=
  if 0 ≤ x then ⌊x⌋ else ⌈x⌉

namespace VoxelGridCovariance

/-- The cell that holds a point, counted from the origin. -/
def cell (g : VoxelGridCovariance K) (p : Fin 3 → K) : Fin 3 → ℤ :=
  fun axis => ⌊p axis * g.inverse_leaf_size_ axis⌋

/-- The offset of the cell with the given distances from the lowest one. -/
def offset (g : VoxelGridCovariance K) (ijk : Fin 3 → ℤ) : ℤ :=
  toInt32 (ijk 0 * g.divb_mul_ 0 + ijk 1 * g.divb_mul_ 1 + ijk 2 * g.divb_mul_ 2)

/-- The key under which the leaf of a point is stored. -/
def key (g : VoxelGridCovariance K) (p : Fin 3 → K) : ℕ :=
  toSize (g.offset fun axis => g.cell p axis - g.min_b_ axis)

/-- The first pass: every point goes into the leaf of its cell. -/
def firstPass (g : VoxelGridCovariance K) (cloud : PointCloud K) : Std.TreeMap ℕ (Leaf K) :=
  cloud.points.foldl
    (fun leaves p =>
      if !cloud.is_dense && !isFinite p then leaves
      else
        leaves.alter (g.key (coords p)) fun leaf =>
          some ((leaf.getD Leaf.new).addPoint (coords p)))
    ∅

/-- The leaves that the second pass puts into the output. -/
def outputLeaves (g : VoxelGridCovariance K) (leaves : Std.TreeMap ℕ (Leaf K)) :
    List (ℕ × Leaf K) :=
  leaves.toList.filter fun entry => g.min_points_per_voxel_ ≤ entry.2.nr_points

/-- The bounding box of the cloud in cells. -/
def setBounds (g : VoxelGridCovariance K) (min_p max_p : Fin 3 → K) : VoxelGridCovariance K :=
  let div_b := fun axis => g.cell max_p axis - g.cell min_p axis + 1
  { g with
    min_b_ := g.cell min_p
    max_b_ := g.cell max_p
    div_b_ := div_b
    divb_mul_ := ![1, div_b 0, toInt32 (div_b 0 * div_b 1)] }

/-- The leaf size is too small for the extent of the cloud. -/
def tooManyCells (g : VoxelGridCovariance K) (min_p max_p : Fin 3 → K) : Bool :=
  let d := fun axis => truncate ((max_p axis - min_p axis) * g.inverse_leaf_size_ axis) + 1
  2147483647 < toInt64 (d 0 * d 1 * d 2)

/-- `VoxelGridCovariance::applyFilter`; the output cloud is the second component. -/
def applyFilter (lib : GridLib K) (g : VoxelGridCovariance K) (input : Option (PointCloud K)) :
    VoxelGridCovariance K × List (Fin 3 → K) :=
  let g := { g with voxel_centroids_leaf_indices_ := [] }
  match input with
  | none => (g, [])
  | some cloud =>
    let (min_p, max_p) := lib.getMinMax3D cloud
    if g.tooManyCells min_p max_p then (g, [])
    else
      let g := g.setBounds min_p max_p
      let leaves := g.firstPass cloud
      let output := g.outputLeaves leaves
      ({ g with
          leaves_ := leaves.map fun _ leaf =>
            leaf.finish lib g.min_covar_eigvalue_mult_ g.min_points_per_voxel_
          voxel_centroids_leaf_indices_ :=
            if g.searchable_ then output.map fun entry => toInt32 entry.1 else [] },
        output.map fun entry => entry.2.normalize.centroid)

/-- `VoxelGridCovariance::filter`. -/
def filter (lib : GridLib K) (g : VoxelGridCovariance K) (input : Option (PointCloud K))
    (searchable : Bool) : VoxelGridCovariance K :=
  let result := applyFilter lib { g with searchable_ := searchable } input
  { result.1 with
    voxel_centroids_ := result.2
    kdtree_ :=
      if result.1.searchable_ && 0 < result.2.length then some result.2 else result.1.kdtree_ }

/-- `getLeaf (int index)`. -/
def getLeafAt (g : VoxelGridCovariance K) (index : ℤ) : Option (Leaf K) :=
  g.leaves_[toSize index]?

/-- `getLeaf (PointT &p)`. -/
def getLeaf (g : VoxelGridCovariance K) (p : Fin 3 → K) : Option (Leaf K) :=
  g.getLeafAt (g.offset fun axis => g.cell p axis - g.min_b_ axis)

end VoxelGridCovariance

end Grid

end RoboRacer.Pclomp
