/-
  Pclomp/GicpCovariances.lean --- the covariances of generalized ICP
  (`gicp_omp_impl.hpp`: `computeCovariances`).

  Every point gets the covariance of its nearest neighbors, whose singular values are
  then replaced: the two largest by 1, the smallest by `gicp_epsilon_`.  What is left of
  the neighbors is the plane that they lie in: the eigenvectors stay, and the normal
  of the plane is the direction with the small eigenvalue.

  Numbers are exact where the code has doubles.
-/
import RoboRacer.Foundation.Records
import RoboRacer.Pclomp.Derivatives

set_option autoImplicit false

namespace RoboRacer.Pclomp

open Matrix RoboRacer.Foundation

/-! ## `computeCovariances` -/

section Covariances

variable {K : Type} [Field K]

/-- What the library computes: the indices of the nearest neighbors, and the left singular
vectors. -/
structure CovarianceLib (K : Type) where
  nearestKSearch : List (Fin 3 → K) → (Fin 3 → K) → ℤ → List ℕ
  matrixU : Matrix (Fin 3) (Fin 3) K → Matrix (Fin 3) (Fin 3) K

/-- The entries of `cov` that the loop over the neighbors adds to. -/
def lowerSquare (pt : Fin 3 → K) : Matrix (Fin 3) (Fin 3) K :=
  !![pt 0 * pt 0, 0, 0; pt 1 * pt 0, pt 1 * pt 1, 0; pt 2 * pt 0, pt 2 * pt 1, pt 2 * pt 2]

/-- The covariance of the neighbors; the entries above the diagonal are those below. -/
def neighborCovariance (k_correspondences_ : ℤ) (pts : List (Fin 3 → K)) :
    Matrix (Fin 3) (Fin 3) K :=
  let sums := pts.foldl (fun (s : (Fin 3 → K) × Matrix (Fin 3) (Fin 3) K) pt =>
    (s.1 + pt, s.2 + lowerSquare pt)) 0
  let mean := (k_correspondences_ : K)⁻¹ • sums.1
  Matrix.of fun k l =>
    sums.2 (max k l) (min k l) / (k_correspondences_ : K) - mean (max k l) * mean (min k l)

/-- The values that replace the singular values. -/
def replaced (gicp_epsilon_ : K) : Fin 3 → K :=
  ![1, 1, gicp_epsilon_]

/-- The matrix with the columns of `U` as eigenvectors. -/
def reconstitute (gicp_epsilon_ : K) (U : Matrix (Fin 3) (Fin 3) K) :
    Matrix (Fin 3) (Fin 3) K :=
  ∑ k, replaced gicp_epsilon_ k • vecMulVec (U.col k) (U.col k)

/-- The neighbors of a point: `none` when the search finds fewer than are read, or an index is out
of range. -/
def neighbors (lib : CovarianceLib K) (k_correspondences_ : ℤ) (cloud : List (Fin 3 → K))
    (query_point : Fin 3 → K) : Option (List (Fin 3 → K)) :=
  let nn_indecies := lib.nearestKSearch cloud query_point k_correspondences_
  (List.range k_correspondences_.toNat).mapM fun j => nn_indecies[j]?.bind fun i => cloud[i]?

/-- The covariance of a point. -/
def covarianceAt (lib : CovarianceLib K) (k_correspondences_ : ℤ) (gicp_epsilon_ : K)
    (cloud : List (Fin 3 → K)) (query_point : Fin 3 → K) : Option (Matrix (Fin 3) (Fin 3) K) :=
  (neighbors lib k_correspondences_ cloud query_point).map fun pts =>
    reconstitute gicp_epsilon_ (lib.matrixU (neighborCovariance k_correspondences_ pts))

/-- `computeCovariances`, for an empty vector: a cloud with too few points leaves it empty. -/
def computeCovariances (lib : CovarianceLib K) (k_correspondences_ : ℤ) (gicp_epsilon_ : K)
    (cloud : List (Fin 3 → K)) : Option (List (Matrix (Fin 3) (Fin 3) K)) :=
  if k_correspondences_ > (cloud.length : ℤ) then some []
  else cloud.mapM (covarianceAt lib k_correspondences_ gicp_epsilon_ cloud)

end Covariances

/-! ## The covariance of the neighbors -/

section Sums

variable {K : Type} [Field K]

theorem lowerSquare_max_min (pt : Fin 3 → K) (k l : Fin 3) :
    lowerSquare pt (max k l) (min k l) = pt (max k l) * pt (min k l) := by
  fin_cases k <;> fin_cases l <;> rfl

theorem foldl_lowerSquare (pts : List (Fin 3 → K)) (s : (Fin 3 → K) × Matrix (Fin 3) (Fin 3) K) :
    pts.foldl (fun s pt => (s.1 + pt, s.2 + lowerSquare pt)) s =
      (s.1 + pts.sum, s.2 + (pts.map lowerSquare).sum) := by
  induction pts generalizing s with
  | nil => simp
  | cons pt pts ih =>
    rw [List.foldl_cons, ih]
    simp [add_assoc]

theorem sum_lowerSquare (pts : List (Fin 3 → K)) (k l : Fin 3) :
    (pts.map lowerSquare).sum (max k l) (min k l) = secondMoment pts k l := by
  induction pts with
  | nil => simp [secondMoment]
  | cons pt pts ih =>
    have hsquare : pt (max k l) * pt (min k l) = pt k * pt l := by
      rcases le_total k l with h | h
      · rw [max_eq_right h, min_eq_left h, mul_comm]
      · rw [max_eq_left h, min_eq_right h]
    simp only [secondMoment] at ih ⊢
    rw [List.map_cons, List.sum_cons, List.map_cons, List.sum_cons, Matrix.add_apply,
      Matrix.add_apply, ih, lowerSquare_max_min, hsquare, vecMulVec_apply]

/-- **The covariance of the neighbors** is their scatter over their number. -/
theorem neighborCovariance_eq [CharZero K] {pts : List (Fin 3 → K)} (hne : pts ≠ []) :
    neighborCovariance (pts.length : ℤ) pts = (pts.length : K)⁻¹ • scatter pts := by
  have hlength : (pts.length : K) ≠ 0 := Nat.cast_ne_zero.mpr (by simpa using hne)
  have hscatter := secondMoment_eq hne
  ext k l
  have hmean : mean pts (max k l) * mean pts (min k l) = mean pts k * mean pts l := by
    rcases le_total k l with h | h
    · rw [max_eq_right h, min_eq_left h, mul_comm]
    · rw [max_eq_left h, min_eq_right h]
  have hentry := congrFun (congrFun hscatter k) l
  rw [Matrix.add_apply, Matrix.smul_apply, vecMulVec_apply] at hentry
  simp only [neighborCovariance, foldl_lowerSquare, Prod.fst_zero, Prod.snd_zero, zero_add,
    Matrix.of_apply, sum_lowerSquare, Int.cast_natCast]
  rw [← mean, hmean, hentry, Matrix.smul_apply, smul_eq_mul, smul_eq_mul]
  field_simp
  ring

end Sums

/-! ## The left singular vectors -/

section Singular

/-- What the library promises about the left singular vectors of a covariance: with right ones,
they make it diagonal, and the singular values descend. -/
structure SvdLaws (lib : CovarianceLib ℝ) : Prop where
  singular : ∀ A : Matrix (Fin 3) (Fin 3) ℝ, A.PosSemidef → ∃ V d, Antitone d ∧ (∀ k, 0 ≤ d k) ∧
    (lib.matrixU A)ᵀ * lib.matrixU A = 1 ∧ Vᵀ * V = 1 ∧ lib.matrixU A * diagonal d * Vᵀ = A

/-- A vector whose image under the square of a positive semidefinite matrix is its multiple by
`d ^ 2` is an eigenvector to `d`. -/
theorem mulVec_eq_of_square {A : Matrix (Fin 3) (Fin 3) ℝ} (hA : A.PosSemidef) {d : ℝ} (hd : 0 ≤ d)
    {u : Fin 3 → ℝ} (hsquare : A *ᵥ (A *ᵥ u) = (d * d) • u) : A *ᵥ u = d • u := by
  have hsymm : A.IsSymm := by simpa [IsSymm, IsHermitian] using hA.isHermitian
  -- the difference is in the kernel of `A + d`
  let w := A *ᵥ u - d • u
  have hw : A *ᵥ w = -(d • w) := by
    simp only [w, mulVec_sub, mulVec_smul, hsquare, smul_sub, smul_smul]
    abel
  have hnonneg : 0 ≤ w ⬝ᵥ (A *ᵥ w) := by simpa using hA.dotProduct_mulVec_nonneg w
  have hself : 0 ≤ w ⬝ᵥ w := Finset.sum_nonneg fun i _ => mul_self_nonneg (w i)
  have hprod : w ⬝ᵥ (A *ᵥ w) = -(d * (w ⬝ᵥ w)) := by
    rw [hw, dotProduct_neg, dotProduct_smul, smul_eq_mul]
  have hzero : d * (w ⬝ᵥ w) = 0 := by
    have hle : 0 ≤ d * (w ⬝ᵥ w) := mul_nonneg hd hself
    linarith
  have hww : w ⬝ᵥ w = 0 := by
    rcases mul_eq_zero.mp hzero with h | h
    · have hwA : w = A *ᵥ u := by simp only [w, h, zero_smul, sub_zero]
      have hAw : A *ᵥ w = 0 := by rw [hw, h, zero_smul, neg_zero]
      calc w ⬝ᵥ w = w ⬝ᵥ (A *ᵥ u) := by rw [← hwA]
        _ = (A *ᵥ w) ⬝ᵥ u := by rw [dotProduct_mulVec, ← mulVec_transpose, hsymm.eq]
        _ = 0 := by rw [hAw, zero_dotProduct]
    · exact h
  exact sub_eq_zero.mp (dotProduct_self_eq_zero.mp hww)

/-- A product with a diagonal matrix, column by column. -/
theorem mul_eq_mul_diagonal_iff {A U : Matrix (Fin 3) (Fin 3) ℝ} {d : Fin 3 → ℝ} :
    A * U = U * diagonal d ↔ ∀ k, A *ᵥ U.col k = d k • U.col k := by
  constructor
  · intro h k
    funext i
    have hentry := congrFun (congrFun h i) k
    rw [mul_diagonal, mul_comm] at hentry
    exact hentry
  · intro h
    ext i k
    rw [mul_diagonal, mul_comm]
    exact congrFun (h k) i

/-- The left singular vectors of a positive semidefinite matrix are eigenvectors. -/
theorem spectral_of_svd {A U V : Matrix (Fin 3) (Fin 3) ℝ} {d : Fin 3 → ℝ} (hA : A.PosSemidef)
    (hd : ∀ k, 0 ≤ d k) (hU : Uᵀ * U = 1) (hV : Vᵀ * V = 1) (hdecomp : U * diagonal d * Vᵀ = A) :
    Spectral U d A := by
  have hsymm : Aᵀ = A := by simpa [IsHermitian] using hA.isHermitian
  have hAV : A * V = U * diagonal d := by
    rw [← hdecomp, Matrix.mul_assoc, hV, Matrix.mul_one]
  have hAU : A * U = V * diagonal d := by
    have htranspose : A = V * diagonal d * Uᵀ := by
      rw [← hsymm, ← hdecomp, transpose_mul, transpose_mul, transpose_transpose,
        diagonal_transpose, Matrix.mul_assoc]
    rw [htranspose, Matrix.mul_assoc, hU, Matrix.mul_one]
  have hsquare : A * (A * U) = U * diagonal fun k => d k * d k := by
    rw [hAU, ← Matrix.mul_assoc, hAV, Matrix.mul_assoc, diagonal_mul_diagonal]
  have heigen : A * U = U * diagonal d := by
    rw [mul_eq_mul_diagonal_iff]
    intro k
    refine mulVec_eq_of_square hA (hd k) ?_
    calc A *ᵥ (A *ᵥ U.col k) = (A * A) *ᵥ U.col k := mulVec_mulVec ..
      _ = (d k * d k) • U.col k := by
        rw [← Matrix.mul_assoc] at hsquare
        exact (mul_eq_mul_diagonal_iff.mp hsquare) k
  refine ⟨hU, ?_⟩
  rw [← heigen, Matrix.mul_assoc, mul_eq_one_comm.mp hU, Matrix.mul_one]

/-- `reconstitute` keeps the eigenvectors and replaces the eigenvalues. -/
theorem reconstitute_spectral {U : Matrix (Fin 3) (Fin 3) ℝ} (hU : Uᵀ * U = 1)
    (gicp_epsilon_ : ℝ) :
    Spectral U (replaced gicp_epsilon_) (reconstitute gicp_epsilon_ U) := by
  refine ⟨hU, ?_⟩
  ext i j
  rw [Matrix.mul_apply, reconstitute, Matrix.sum_apply]
  refine Finset.sum_congr rfl fun k _ => ?_
  rw [mul_diagonal, transpose_apply, Matrix.smul_apply, vecMulVec_apply, smul_eq_mul]
  simp only [col_apply]
  ring

end Singular

/-! ## The covariances of a cloud -/

section Cloud

/-- What the library promises about the nearest neighbors: with at least as many points as are
asked for, it finds that many. -/
structure NeighborLaws {K : Type} (lib : CovarianceLib K) : Prop where
  length : ∀ cloud query_point k, 1 ≤ k → k ≤ (cloud.length : ℤ) →
    (lib.nearestKSearch cloud query_point k).length = k.toNat
  inRange : ∀ cloud query_point k, ∀ i ∈ lib.nearestKSearch cloud query_point k, i < cloud.length

/-- The plane that the neighbors of a point lie in, in the eyes of the code: the eigenvectors are
those of the covariance of the neighbors, and the one with the smallest eigenvalue gets
`gicp_epsilon_`. -/
structure PlaneOf (gicp_epsilon_ : ℝ) (pts : List (Fin 3 → ℝ))
    (C : Matrix (Fin 3) (Fin 3) ℝ) : Prop where
  plane : ∃ U d, Antitone d ∧ Spectral U d ((pts.length : ℝ)⁻¹ • scatter pts) ∧
    Spectral U (replaced gicp_epsilon_) C

theorem PlaneOf.posDef {gicp_epsilon_ : ℝ} (hepsilon : 0 < gicp_epsilon_)
    {pts : List (Fin 3 → ℝ)} {C : Matrix (Fin 3) (Fin 3) ℝ} (h : PlaneOf gicp_epsilon_ pts C) :
    C.PosDef := by
  obtain ⟨U, d, -, -, hC⟩ := h.plane
  refine hC.posDef fun k => ?_
  fin_cases k
  · exact one_pos
  · exact one_pos
  · exact hepsilon

variable {lib : CovarianceLib ℝ} {k_correspondences_ : ℤ} {gicp_epsilon_ : ℝ}
  {cloud : List (Fin 3 → ℝ)}

theorem planeOf_reconstitute (hlib : SvdLaws lib) {pts : List (Fin 3 → ℝ)} (hne : pts ≠ [])
    (hlength : (pts.length : ℤ) = k_correspondences_) :
    PlaneOf gicp_epsilon_ pts (reconstitute gicp_epsilon_
      (lib.matrixU (neighborCovariance k_correspondences_ pts))) := by
  subst hlength
  rw [neighborCovariance_eq hne]
  have hpos : ((pts.length : ℝ)⁻¹ • scatter pts).PosSemidef :=
    (scatterAbout_posSemidef _ pts).smul (by positivity)
  obtain ⟨V, d, hanti, hd, hU, hV, hdecomp⟩ := hlib.singular _ hpos
  exact ⟨_, d, hanti, spectral_of_svd hpos hd hU hV hdecomp, reconstitute_spectral hU _⟩

theorem neighbors_spec (hlaws : NeighborLaws lib) (hk : 1 ≤ k_correspondences_)
    (hcloud : k_correspondences_ ≤ (cloud.length : ℤ)) (query_point : Fin 3 → ℝ) :
    ∃ pts, neighbors lib k_correspondences_ cloud query_point = some pts ∧
      (pts.length : ℤ) = k_correspondences_ := by
  let nn_indecies := lib.nearestKSearch cloud query_point k_correspondences_
  have hlength : nn_indecies.length = k_correspondences_.toNat :=
    hlaws.length cloud query_point k_correspondences_ hk hcloud
  refine ⟨nn_indecies.map fun i => cloud[i]?.getD 0, ?_, ?_⟩
  · rw [neighbors, ← hlength, ← List.length_map (fun i => cloud[i]?.getD 0)]
    refine mapM_range_eq _ fun j pt hj => ?_
    rw [List.getElem?_map, Option.map_eq_some_iff] at hj
    obtain ⟨i, hi, rfl⟩ := hj
    have hin := hlaws.inRange cloud query_point _ i (List.mem_of_getElem? hi)
    rw [hi, Option.bind_some, List.getElem?_eq_getElem hin, Option.getD_some]
  · rw [List.length_map, hlength]
    omega

/-- The covariances, point by point. -/
theorem exists_computeCovariances (hsvd : SvdLaws lib) (hlaws : NeighborLaws lib)
    (hk : 1 ≤ k_correspondences_) (hcloud : k_correspondences_ ≤ (cloud.length : ℤ)) :
    ∃ C : (Fin 3 → ℝ) → Matrix (Fin 3) (Fin 3) ℝ,
      computeCovariances lib k_correspondences_ gicp_epsilon_ cloud = some (cloud.map C) ∧
      ∀ query_point, ∃ pts,
        neighbors lib k_correspondences_ cloud query_point = some pts ∧
        PlaneOf gicp_epsilon_ pts (C query_point) := by
  have hat : ∀ query_point, ∃ C pts,
      neighbors lib k_correspondences_ cloud query_point = some pts ∧
        covarianceAt lib k_correspondences_ gicp_epsilon_ cloud query_point = some C ∧
        PlaneOf gicp_epsilon_ pts C := by
    intro query_point
    obtain ⟨pts, hpts, hlength⟩ := neighbors_spec hlaws hk hcloud query_point
    have hne : pts ≠ [] := by
      rintro rfl
      simp at hlength
      omega
    refine ⟨_, pts, hpts, ?_, planeOf_reconstitute hsvd hne hlength⟩
    rw [covarianceAt, hpts, Option.map_some]
  choose C pts hpts hC hplane using hat
  refine ⟨C, ?_, fun query_point => ⟨pts query_point, hpts query_point, hplane query_point⟩⟩
  rw [computeCovariances, if_neg (by omega)]
  exact mapM_eq_some fun query_point _ => hC query_point

/-! ### A library -/

theorem exists_descending (A : Matrix (Fin 3) (Fin 3) ℝ) :
    ∃ U : Matrix (Fin 3) (Fin 3) ℝ, A.PosSemidef → ∃ d, Antitone d ∧ Spectral U d A := by
  by_cases hA : A.PosSemidef
  · have hsymm : A.IsSymm := by simpa [IsSymm, IsHermitian] using hA.isHermitian
    obtain ⟨V, d, hspectral, hmono⟩ := exists_spectral_monotone hsymm
    exact ⟨_, fun _ => ⟨_, hmono.comp_antitone fun i j hij => Fin.rev_le_rev.mpr hij,
      hspectral.permute Fin.revPerm⟩⟩
  · exact ⟨1, fun h => absurd h hA⟩

/-- The points of a cloud, nearest first. -/
noncomputable def byDistance (cloud : List (Fin 3 → ℝ)) (query_point : Fin 3 → ℝ) : List ℕ :=
  (List.range cloud.length).insertionSort fun i j =>
    sqDist (pointAt cloud i) query_point ≤ sqDist (pointAt cloud j) query_point

theorem mem_byDistance {query_point : Fin 3 → ℝ} {i : ℕ} :
    i ∈ byDistance cloud query_point ↔ i < cloud.length := by
  rw [byDistance, List.mem_insertionSort, List.mem_range]

theorem byDistance_sorted (cloud : List (Fin 3 → ℝ)) (query_point : Fin 3 → ℝ) :
    (byDistance cloud query_point).Pairwise fun i j =>
      sqDist (pointAt cloud i) query_point ≤ sqDist (pointAt cloud j) query_point := by
  let r := fun i j =>
    sqDist (pointAt cloud i) query_point ≤ sqDist (pointAt cloud j) query_point
  have htotal : Std.Total r := ⟨fun _ _ => le_total _ _⟩
  have htrans : IsTrans ℕ r := ⟨fun _ _ _ => le_trans⟩
  exact List.pairwise_insertionSort r _

/-- A point that is nearer than all others comes first. -/
theorem byDistance_head {query_point : Fin 3 → ℝ} {i : ℕ} (hi : i < cloud.length)
    (hnearest : ∀ j < cloud.length, j ≠ i →
      sqDist (pointAt cloud i) query_point < sqDist (pointAt cloud j) query_point) :
    (byDistance cloud query_point).head? = some i := by
  have hmem : i ∈ byDistance cloud query_point := mem_byDistance.mpr hi
  have hsorted := byDistance_sorted cloud query_point
  cases hlist : byDistance cloud query_point with
  | nil => simp [hlist] at hmem
  | cons j rest =>
    have hj : j < cloud.length := mem_byDistance.mp (hlist ▸ List.mem_cons_self)
    rw [hlist] at hmem hsorted
    rcases List.mem_cons.mp hmem with rfl | hrest
    · rfl
    · by_contra hne
      have hlt := hnearest j hj fun h => hne (h ▸ rfl)
      exact hlt.not_ge (List.rel_of_pairwise_cons hsorted hrest)

/-- Singular vectors from the spectral theorem, and a search through the whole cloud. -/
noncomputable def wholeSearch : CovarianceLib ℝ where
  nearestKSearch := fun cloud query_point k => (byDistance cloud query_point).take k.toNat
  matrixU := fun A => (exists_descending A).choose

theorem wholeSearch_svd : SvdLaws wholeSearch := by
  refine ⟨fun A hA => ?_⟩
  obtain ⟨d, hanti, hspectral⟩ := (exists_descending A).choose_spec hA
  exact ⟨_, d, hanti, hspectral.nonneg_of_posSemidef hA, hspectral.orthonormal,
    hspectral.orthonormal, hspectral.decomposition⟩

theorem wholeSearch_neighbors : NeighborLaws wholeSearch where
  length := fun cloud query_point k hk hcloud => by
    simp only [wholeSearch, List.length_take, byDistance, List.length_insertionSort,
      List.length_range]
    omega
  inRange := fun cloud query_point k i hi => mem_byDistance.mp (List.mem_of_mem_take hi)

/-- Four points that lie in no plane. -/
def corners : List (Fin 3 → ℝ) :=
  [0, ![4, 0, 0], ![0, 5, 0], ![0, 0, 6]]

/-! ### Planes -/

/-- **Every point gets the plane of its neighbors**, a positive definite matrix. -/
theorem computeCovariances_planes (hsvd : SvdLaws lib) (hlaws : NeighborLaws lib)
    (hk : 1 ≤ k_correspondences_) (hcloud : k_correspondences_ ≤ (cloud.length : ℤ)) :
    ∃ covariances,
      computeCovariances lib k_correspondences_ gicp_epsilon_ cloud = some covariances ∧
      covariances.length = cloud.length ∧
      ∀ (i : ℕ) C, covariances[i]? = some C → ∃ query_point pts,
        cloud[i]? = some query_point ∧
        neighbors lib k_correspondences_ cloud query_point = some pts ∧
        PlaneOf gicp_epsilon_ pts C ∧ (0 < gicp_epsilon_ → C.PosDef) := by
  obtain ⟨C, hcovariances, hplane⟩ := exists_computeCovariances hsvd hlaws hk hcloud
  refine ⟨cloud.map C, hcovariances, List.length_map _, fun i D hD => ?_⟩
  rw [List.getElem?_map, Option.map_eq_some_iff] at hD
  obtain ⟨query_point, hquery, rfl⟩ := hD
  obtain ⟨pts, hpts, hpoint⟩ := hplane query_point
  exact ⟨query_point, pts, hquery, hpts, hpoint, fun hepsilon => hpoint.posDef hepsilon⟩

theorem computeCovariances_planes_corners :
    ∃ covariances,
      computeCovariances wholeSearch 3 (1000 : ℝ)⁻¹ corners = some covariances ∧
      covariances.length = 4 ∧
      ∀ (i : ℕ) C, covariances[i]? = some C → ∃ query_point pts,
        corners[i]? = some query_point ∧
        neighbors wholeSearch 3 corners query_point = some pts ∧
        PlaneOf (1000 : ℝ)⁻¹ pts C ∧ (0 < (1000 : ℝ)⁻¹ → C.PosDef) :=
  computeCovariances_planes wholeSearch_svd wholeSearch_neighbors (by norm_num)
    (by norm_num [corners])

end Cloud

end RoboRacer.Pclomp
