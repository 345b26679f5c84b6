/-
  Pclomp/GicpMatches.lean --- the correspondences of generalized ICP
  (`gicp_omp_impl.hpp`: the parallel loop of `computeTransformation`, and the sort
  after it).

  The iterations of the loop share a counter and two arrays.  A point of the source
  that has a neighbor close enough takes the next entry of the arrays and writes its
  own matrix.  The sort by the index of the point makes the outcome the same for
  all interleavings: the one of a plain loop over the points.
-/
import RoboRacer.Foundation.SlotCounter
import RoboRacer.Pclomp.Registration

set_option autoImplicit false

namespace RoboRacer.Pclomp

open Matrix RoboRacer.Foundation

/-! ## One iteration -/

section Iteration

variable {K : Type} [Field K]

/-- `inverse ()` of a small matrix: the cofactors over the determinant. -/
def inverse (M : Matrix (Fin 3) (Fin 3) K) : Matrix (Fin 3) (Fin 3) K :=
  M.det⁻¹ • M.adjugate

theorem inverse_eq (M : Matrix (Fin 3) (Fin 3) K) : inverse M = M⁻¹ := by
  rw [inverse, Matrix.inv_def, Ring.inverse_eq_inv']

/-- The product of two transformations. -/
def Affine.comp (T S : Affine K) : Affine K where
  linear := T.linear * S.linear
  translation := T.linear *ᵥ S.translation + T.translation

theorem Affine.comp_apply (T S : Affine K) (p : Fin 3 → K) :
    (T.comp S).apply p = T.apply (S.apply p) := by
  simp only [Affine.apply, Affine.comp, mulVec_add, mulVec_mulVec, add_assoc]

/-- What `computeTransformation` reads in its loop.  The search finds the nearest point of the
target, and its squared distance. -/
structure GicpScan (K : Type) where
  output : List (Fin 3 → K)
  searchForNeighbors : (Fin 3 → K) → Option (ℕ × K)
  input_covariances_ : List (Matrix (Fin 3) (Fin 3) K)
  target_covariances_ : List (Matrix (Fin 3) (Fin 3) K)
  dist_threshold : K

namespace GicpScan

variable [LinearOrder K] (scan : GicpScan K) (transformation_ : Affine K)
  (R : Matrix (Fin 3) (Fin 3) K)

/-- An iteration: its record, if the point has a correspondence; `none` when a covariance is read
out of range. -/
def iteration (i : ℕ) : Option (Option (SlotRecord ℕ ℕ (Matrix (Fin 3) (Fin 3) K))) :=
  let query := transformation_.apply (pointAt scan.output i)
  match scan.searchForNeighbors query with
  | none => some none
  | some (nn_index, nn_dist) =>
    if nn_dist < scan.dist_threshold then
      match scan.input_covariances_[i]?, scan.target_covariances_[nn_index]? with
      | some C1, some C2 => some (some ⟨i, nn_index, inverse (R * C1 * Rᵀ + C2)⟩)
      | _, _ => none
    else some none

/-- The records of the iterations. -/
def record (i : ℕ) : Option (SlotRecord ℕ ℕ (Matrix (Fin 3) (Fin 3) K)) :=
  (scan.iteration transformation_ R i).join

/-! ## The loop -/

/-- What the optimizer gets. -/
structure Matches (K : Type) where
  source_indices : List ℕ
  target_indices : List ℕ
  mahalanobis_ : List (Matrix (Fin 3) (Fin 3) K)

/-- The parallel loop.  The vectors of indices are as long as the cloud. -/
def loop (mahalanobis_ : List (Matrix (Fin 3) (Fin 3) K)) :
    Machine (SlotState ℕ ℕ (Matrix (Fin 3) (Fin 3) K)) SlotLabel :=
  SlotCounter.machine scan.output.length (scan.record transformation_ R)
    (List.replicate scan.output.length 0) (List.replicate scan.output.length 0) mahalanobis_

/-- No iteration reads out of range. -/
def Readable : Prop :=
  ∀ i < scan.output.length, (scan.iteration transformation_ R i).isSome

instance : Decidable (scan.Readable transformation_ R) :=
  inferInstanceAs (Decidable (∀ i < _, _))

/-- The loop has run, the vectors are cut to the number of correspondences, put together, sorted
and taken apart. -/
def Gathers (mahalanobis_ : List (Matrix (Fin 3) (Fin 3) K)) (found : Matches K) : Prop :=
  scan.Readable transformation_ R ∧
    ∃ s indices, (scan.loop transformation_ R mahalanobis_).Reachable s ∧
      SlotCounter.Finished scan.output.length s ∧
      IsSort (fun lhs rhs => lhs.1 < rhs.1) ((s.first.take s.cnt).zip (s.second.take s.cnt))
        indices ∧
      found = ⟨indices.map Prod.fst, indices.map Prod.snd, s.own⟩

/-- The correspondences of a plain loop. -/
def correspondences : List (ℕ × ℕ) :=
  SlotCounter.pairs scan.output.length (scan.record transformation_ R)

/-- What a plain loop over the points gives. -/
def plainLoop (mahalanobis_ : List (Matrix (Fin 3) (Fin 3) K)) : Option (Matches K) :=
  if scan.Readable transformation_ R then
    some
      { source_indices := (scan.correspondences transformation_ R).map Prod.fst
        target_indices := (scan.correspondences transformation_ R).map Prod.snd
        mahalanobis_ := SlotCounter.written scan.output.length (scan.record transformation_ R)
          mahalanobis_ }
  else none

/-! ## Every interleaving is the plain loop -/

variable {scan transformation_ R}

/-- What an iteration with a record has read. -/
theorem record_eq_some_iff {i : ℕ} {r : SlotRecord ℕ ℕ (Matrix (Fin 3) (Fin 3) K)} :
    scan.record transformation_ R i = some r ↔
      ∃ nn_index nn_dist C1 C2,
        scan.searchForNeighbors (transformation_.apply (pointAt scan.output i)) =
          some (nn_index, nn_dist) ∧
        nn_dist < scan.dist_threshold ∧ scan.input_covariances_[i]? = some C1 ∧
        scan.target_covariances_[nn_index]? = some C2 ∧
        r = ⟨i, nn_index, inverse (R * C1 * Rᵀ + C2)⟩ := by
  rw [record, Option.join_eq_some_iff, iteration]
  constructor
  · intro h
    split at h
    case h_1 => simp at h
    case h_2 nn_index nn_dist hsearch =>
      split at h
      case isFalse => simp at h
      case isTrue hnear =>
        split at h
        case h_2 => cases h
        case h_1 C1 C2 hC1 hC2 =>
          exact ⟨nn_index, nn_dist, C1, C2, hsearch, hnear, hC1, hC2,
            (Option.some.inj (Option.some.inj h)).symm⟩
  · rintro ⟨nn_index, nn_dist, C1, C2, hsearch, hnear, hC1, hC2, rfl⟩
    simp [hsearch, hnear, hC1, hC2]

theorem record_first {i : ℕ} {r : SlotRecord ℕ ℕ (Matrix (Fin 3) (Fin 3) K)}
    (h : scan.record transformation_ R i = some r) : r.first = i := by
  obtain ⟨_, _, _, _, -, -, -, -, rfl⟩ := record_eq_some_iff.mp h
  rfl

/-- **The parallel loop and the sort are the plain loop**, for every interleaving of the
iterations and every way to sort. -/
theorem gathers_iff {mahalanobis_ : List (Matrix (Fin 3) (Fin 3) K)}
    (hsize : scan.output.length ≤ mahalanobis_.length) {found : Matches K} :
    scan.Gathers transformation_ R mahalanobis_ found ↔
      scan.plainLoop transformation_ R mahalanobis_ = some found := by
  have hlength : (List.replicate scan.output.length 0).length = scan.output.length :=
    List.length_replicate
  have hfirst : ∀ i r, scan.record transformation_ R i = some r → r.first = i :=
    fun i r => record_first
  rw [plainLoop]
  constructor
  · rintro ⟨hreadable, s, indices, hreach, hfinished, hsort, rfl⟩
    have hindices : indices = scan.correspondences transformation_ R :=
      SlotCounter.sorted_collected hlength hlength hfirst hreach hfinished hsort
    have hown := (SlotCounter.collected hlength hlength hreach hfinished).2
    rw [if_pos hreadable, hindices, hown]
  · intro h
    split at h
    case isFalse => cases h
    case isTrue hreadable =>
      obtain ⟨labels, s, hrun, hfinished⟩ := SlotCounter.exists_finished hlength hlength hsize
        (.init rfl : (scan.loop transformation_ R mahalanobis_).Reachable _)
      have hreach := hrun.reachable (.init rfl)
      obtain ⟨hperm, hown⟩ := SlotCounter.collected hlength hlength hreach hfinished
      refine ⟨hreadable, s, scan.correspondences transformation_ R, hreach, hfinished, ?_, ?_⟩
      · exact ⟨hperm.symm, (SlotCounter.pairs_sorted hfirst).imp fun hlt => hlt.le.not_gt⟩
      · rw [hown]
        exact (Option.some.inj h).symm

/-! ## What the optimizer gets -/

theorem mem_correspondences_iff {i j : ℕ} :
    (i, j) ∈ scan.correspondences transformation_ R ↔
      i < scan.output.length ∧ ∃ r, scan.record transformation_ R i = some r ∧ r.second = j := by
  rw [correspondences, SlotCounter.pairs, List.mem_filterMap]
  constructor
  · rintro ⟨i', hi', hpair⟩
    obtain ⟨r, hr, heq⟩ := Option.map_eq_some_iff.mp hpair
    have hfirst := record_first hr
    obtain ⟨rfl, rfl⟩ := Prod.mk.inj heq
    subst hfirst
    exact ⟨List.mem_range.mp hi', r, hr, rfl⟩
  · rintro ⟨hi, r, hr, rfl⟩
    exact ⟨i, List.mem_range.mpr hi, by rw [hr, Option.map_some, record_first hr]⟩

section PlainLoop

variable {mahalanobis_ : List (Matrix (Fin 3) (Fin 3) K)} {found : Matches K}
  (h : scan.plainLoop transformation_ R mahalanobis_ = some found)
include h

theorem plainLoop_eq : scan.Readable transformation_ R ∧
    found.source_indices = (scan.correspondences transformation_ R).map Prod.fst ∧
    found.target_indices = (scan.correspondences transformation_ R).map Prod.snd ∧
    found.mahalanobis_ =
      SlotCounter.written scan.output.length (scan.record transformation_ R) mahalanobis_ := by
  rw [plainLoop] at h
  split at h
  case isTrue hreadable =>
    obtain rfl := Option.some.inj h
    exact ⟨hreadable, rfl, rfl, rfl⟩
  case isFalse => cases h

theorem plainLoop_sorted : found.source_indices.Pairwise fun i i' => i < i' := by
  rw [(plainLoop_eq h).2.1, List.pairwise_map]
  exact SlotCounter.pairs_sorted fun i r => record_first

/-- The pairs are the nearest neighbors that are close enough. -/
theorem plainLoop_mem_iff {i j : ℕ} :
    (i, j) ∈ found.source_indices.zip found.target_indices ↔
      i < scan.output.length ∧ ∃ nn_dist,
        scan.searchForNeighbors (transformation_.apply (pointAt scan.output i)) =
          some (j, nn_dist) ∧ nn_dist < scan.dist_threshold := by
  obtain ⟨hreadable, hsource, htarget, -⟩ := plainLoop_eq h
  rw [← List.zip_of_prod hsource.symm htarget.symm, mem_correspondences_iff]
  refine and_congr_right fun hi => ?_
  constructor
  · rintro ⟨r, hr, rfl⟩
    obtain ⟨nn_index, nn_dist, _, _, hsearch, hnear, -, -, rfl⟩ := record_eq_some_iff.mp hr
    exact ⟨nn_dist, hsearch, hnear⟩
  · rintro ⟨nn_dist, hsearch, hnear⟩
    obtain ⟨result, hresult⟩ := Option.isSome_iff_exists.mp (hreadable i hi)
    have hsome : ∃ C1 C2, scan.input_covariances_[i]? = some C1 ∧
        scan.target_covariances_[j]? = some C2 := by
      simp only [iteration, hsearch, if_pos hnear] at hresult
      split at hresult
      case h_1 C1 C2 hC1 hC2 => exact ⟨C1, C2, hC1, hC2⟩
      case h_2 => cases hresult
    obtain ⟨C1, C2, hC1, hC2⟩ := hsome
    exact ⟨_, record_eq_some_iff.mpr ⟨j, nn_dist, C1, C2, hsearch, hnear, hC1, hC2, rfl⟩, rfl⟩

/-- What the `k`-th pair has. -/
theorem plainLoop_pair (hsize : scan.output.length ≤ mahalanobis_.length) {k : ℕ}
    (hk : k < found.source_indices.length) :
    ∃ i r, found.source_indices[k]? = some i ∧ found.target_indices[k]? = some r.second ∧
      scan.record transformation_ R i = some r ∧ found.mahalanobis_[i]? = some r.own := by
  obtain ⟨-, hsource, htarget, hown⟩ := plainLoop_eq h
  rw [hsource, List.length_map] at hk
  obtain ⟨⟨i, j⟩, hpair⟩ : ∃ pair, (scan.correspondences transformation_ R)[k]? = some pair :=
    ⟨_, List.getElem?_eq_getElem hk⟩
  obtain ⟨hi, r, hr, rfl⟩ := mem_correspondences_iff.mp (List.mem_of_getElem? hpair)
  refine ⟨i, r, ?_, ?_, hr, ?_⟩
  · rw [hsource, List.getElem?_map, hpair, Option.map_some]
  · rw [htarget, List.getElem?_map, hpair, Option.map_some]
  · rw [hown, SlotCounter.written, List.getElem?_mapIdx,
      List.getElem?_eq_getElem (hi.trans_le hsize), Option.map_some, if_pos hi, hr,
      Option.map_some, Option.getD_some]

end PlainLoop

end GicpScan

end Iteration

end RoboRacer.Pclomp
