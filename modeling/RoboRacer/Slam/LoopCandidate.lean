/-
  Slam/LoopCandidate.lean --- which submap a loop is closed with
  (`graph_based_slam_component.cpp`, `searchLoop`).

  The loop over the submaps keeps five variables.  Together they are the first
  smallest entry of Foundation/FirstMinimum.lean: the nearest submap that passes the
  gate.  From this follow

      submapAccesses_inBounds_iff   when every access to the map is in range
      candidate_exact               which submap is chosen, and which edges appear

  The window around the chosen submap is clipped at the beginning of the map only.
-/
import Mathlib.Algebra.Group.Defs
import RoboRacer.Foundation.FirstMinimum
import RoboRacer.Slam.LoopSearch

set_option autoImplicit false

namespace RoboRacer.Slam

open RoboRacer.Foundation

variable {H G P V Q D : Type}

section Search

variable [LT D] [DecidableLT D] [Sub D]

/-! ## The gate -/

/-- The distance of a submap from the latest one. -/
def distanceTo (config : GraphSlamConfig H G P V Q D) (latest submap : StampedSubMap H P V Q D) :
    D :=
  config.dist latest.pose.position submap.pose.position

/-- The test in the loop over the submaps. -/
def Gated (config : GraphSlamConfig H G P V Q D) (latest submap : StampedSubMap H P V Q D) :
    Prop :=
  config.distanceLoopClosure < latest.distance - submap.distance ∧
    distanceTo config latest submap < config.rangeOfSearchingLoopClosure

instance (config : GraphSlamConfig H G P V Q D) (latest : StampedSubMap H P V Q D) :
    DecidablePred (Gated config latest) :=
  fun _ => inferInstanceAs (Decidable (_ ∧ _))

/-- The variables of the loop, once the best submap so far is known. -/
def Candidate.ofBest (config : GraphSlamConfig H G P V Q D) (latest : StampedSubMap H P V Q D) :
    Option (StampedSubMap H P V Q D × Nat) → Candidate H P V Q D
  | none =>
    { isCandidate := false, idMin := 0, minDist := config.maxDouble,
      minSubmap := config.emptySubmap }
  | some (submap, i) =>
    { isCandidate := true, idMin := i, minDist := distanceTo config latest submap,
      minSubmap := submap }

/-- A distance in range is smaller than the initial value of `min_dist`. -/
def RangeBelowMax (config : GraphSlamConfig H G P V Q D) : Prop :=
  ∀ a b, config.dist a b < config.rangeOfSearchingLoopClosure → config.dist a b < config.maxDouble

section Candidate

variable {config : GraphSlamConfig H G P V Q D} {latest : StampedSubMap H P V Q D}

theorem considerSubmap_eq (candidate : Candidate H P V Q D)
    (entry : StampedSubMap H P V Q D × Nat) :
    considerSubmap config latest candidate entry =
      if Gated config latest entry.1 then
        if distanceTo config latest entry.1 < candidate.minDist then
          .ofBest config latest (some entry)
        else { candidate with isCandidate := true }
      else candidate := rfl

/-- The body of the loop compares one submap with the best one so far. -/
theorem considerSubmap_ofBest (hmax : RangeBelowMax config)
    (best : Option (StampedSubMap H P V Q D × Nat)) (entry : StampedSubMap H P V Q D × Nat) :
    considerSubmap config latest (.ofBest config latest best) entry =
      .ofBest config latest
        (scanEntry (Gated config latest) (distanceTo config latest) best entry) := by
  rw [considerSubmap_eq]
  unfold scanEntry
  by_cases hgate : Gated config latest entry.1
  · rw [if_pos hgate, if_pos hgate]
    cases best with
    | none =>
      have hlt : distanceTo config latest entry.1 < (Candidate.ofBest config latest none).minDist :=
        hmax _ _ hgate.2
      rw [if_pos hlt]
    | some held =>
      change (if distanceTo config latest entry.1 < distanceTo config latest held.1
        then _ else _) = _
      dsimp only
      split
      · rfl
      · rfl
  · rw [if_neg hgate, if_neg hgate]

/-- The loop finds the first of the nearest submaps that pass the gate. -/
theorem searchCandidate_eq (hmax : RangeBelowMax config)
    (submaps : List (StampedSubMap H P V Q D)) :
    searchCandidate config latest submaps = .ofBest config latest
      (firstMin (Gated config latest) (distanceTo config latest) submaps) := by
  change submaps.zipIdx.foldl (considerSubmap config latest) (.ofBest config latest none) = _
  exact List.foldl_hom (Candidate.ofBest config latest) (considerSubmap_ofBest hmax)

/-- **The candidate.**  There is one exactly when some submap passes the gate, and then
it is the first of the nearest ones that do. -/
theorem searchCandidate_spec (latest : StampedSubMap H P V Q D) (hmax : RangeBelowMax config)
    (horder : WeakBelow config.rangeOfSearchingLoopClosure)
    (submaps : List (StampedSubMap H P V Q D)) :
    ((searchCandidate config latest submaps).isCandidate = true ↔
        ∃ submap ∈ submaps, Gated config latest submap) ∧
      ((searchCandidate config latest submaps).isCandidate = true →
        FirstMin (Gated config latest) (distanceTo config latest) submaps
          (searchCandidate config latest submaps).idMin
          (searchCandidate config latest submaps).minSubmap) := by
  obtain ⟨hsome, hnone⟩ :=
    firstMin_spec horder (fun submap (h : Gated config latest submap) => h.2) submaps
  rw [searchCandidate_eq hmax]
  cases hbest : firstMin (Gated config latest) (distanceTo config latest) submaps with
  | none =>
    refine ⟨iff_of_false Bool.false_ne_true ?_, fun h => nomatch h⟩
    rintro ⟨submap, hmem, hgate⟩
    exact hnone hbest submap hmem hgate
  | some best =>
    have hmin := hsome best.1 best.2 hbest
    exact ⟨iff_of_true rfl ⟨best.1, List.mem_of_getElem? hmin.entry, hmin.holds⟩, fun _ => hmin⟩

end Candidate

/-! ## The accesses to the map -/

/-- The indices of the window around a submap that are not skipped. -/
def searchWindow (config : GraphSlamConfig H G P V Q D) (idMin : Nat) : List Int :=
  (List.range (2 * config.searchSubmapNum + 1).toNat).filterMap fun (j : Nat) =>
    if (idMin : Int) + j - config.searchSubmapNum < 0 then none
    else some (idMin + j - config.searchSubmapNum)

/-- Every `k` of an access `map_array_msg.submaps[k]` of `searchLoop`, in order: the
latest submap, the loop over the submaps, and the window around the candidate. -/
def submapAccesses (config : GraphSlamConfig H G P V Q D)
    (submaps : List (StampedSubMap H P V Q D)) : List Int :=
  ((submaps.length : Int) - 1) ::
    match submapAt submaps (submaps.length - 1) with
    | none => []
    | some latest =>
      (List.range submaps.length).map Int.ofNat ++
        if (searchCandidate config latest submaps).isCandidate then
          searchWindow config (searchCandidate config latest submaps).idMin
        else []

/-- An access is in range. -/
def InRange (submaps : List (StampedSubMap H P V Q D)) (k : Int) : Prop :=
  0 ≤ k ∧ k < submaps.length

/-- A fold that can fail goes through if no step of it fails. -/
theorem foldlM_isSome_iff {α β : Type} {f : β → α → Option β} {ok : α → Prop}
    (h : ∀ b a, (f b a).isSome ↔ ok a) (l : List α) (b : β) :
    (l.foldlM f b).isSome ↔ ∀ a ∈ l, ok a := by
  induction l generalizing b with
  | nil => simp
  | cons a l ih =>
    rw [List.foldlM_cons, List.forall_mem_cons, ← h b a]
    cases hstep : f b a with
    | none => simp
    | some b' => simpa using ih b'

section Accesses

variable {config : GraphSlamConfig H G P V Q D} {submaps : List (StampedSubMap H P V Q D)}

omit [LT D] [DecidableLT D] [Sub D] in
theorem submapAt_isSome_iff {k : Int} : (submapAt submaps k).isSome ↔ InRange submaps k := by
  unfold submapAt InRange
  split
  case isTrue hk =>
    rw [isSome_getElem?]
    omega
  case isFalse hk => simp [hk]

omit [LT D] [DecidableLT D] [Sub D] in
/-- The latest submap is the last one, if there is one. -/
theorem submapAt_last (submaps : List (StampedSubMap H P V Q D)) :
    submapAt submaps (submaps.length - 1) = submaps.getLast? := by
  cases hsubmaps : submaps with
  | nil => rfl
  | cons first rest =>
    unfold submapAt
    rw [if_pos (by simp), List.getLast?_eq_getElem?]
    congr 1
    simp

omit [LT D] [DecidableLT D] [Sub D] in
/-- The loop over the submaps stays in range. -/
theorem inRange_of_mem_range :
    ∀ k ∈ (List.range submaps.length).map Int.ofNat, InRange submaps k := by
  intro k hk
  obtain ⟨i, hi, rfl⟩ := List.mem_map.mp hk
  rw [List.mem_range] at hi
  exact ⟨Int.natCast_nonneg i, Int.ofNat_lt.mpr hi⟩

omit [LT D] [DecidableLT D] [Sub D] in
/-- The window ends `search_submap_num` entries behind the candidate. -/
theorem forall_searchWindow_iff {idMin : Nat} (hnum : 0 ≤ config.searchSubmapNum) :
    (∀ k ∈ searchWindow config idMin, InRange submaps k) ↔
      (idMin : Int) + config.searchSubmapNum < submaps.length := by
  unfold searchWindow InRange
  constructor
  · intro h
    refine (h (idMin + config.searchSubmapNum) (List.mem_filterMap.mpr ?_)).2
    refine ⟨(2 * config.searchSubmapNum).toNat, List.mem_range.mpr (by omega), ?_⟩
    rw [if_neg (by omega)]
    congr 1
    omega
  · intro hend k hk
    obtain ⟨j, hj, hk⟩ := List.mem_filterMap.mp hk
    rw [List.mem_range] at hj
    split at hk
    · cases hk
    · cases hk
      omega

/-- All accesses are in range if there is a latest submap and the window around the
candidate, if there is one, does not end behind the map. -/
theorem forall_submapAccesses_iff (hnum : 0 ≤ config.searchSubmapNum) :
    (∀ k ∈ submapAccesses config submaps, InRange submaps k) ↔
      ∃ latest, submaps.getLast? = some latest ∧
        ((searchCandidate config latest submaps).isCandidate = true →
          ((searchCandidate config latest submaps).idMin : Int) + config.searchSubmapNum <
            submaps.length) := by
  unfold submapAccesses
  rw [List.forall_mem_cons, ← submapAt_isSome_iff, submapAt_last]
  cases hlatest : submaps.getLast? with
  | none => simp
  | some latest =>
    rw [List.forall_mem_append, and_iff_right inRange_of_mem_range]
    cases hcandidate : (searchCandidate config latest submaps).isCandidate with
    | false => simp [hcandidate]
    | true =>
      rw [if_pos rfl, forall_searchWindow_iff hnum]
      simp [hcandidate]

omit [LT D] [DecidableLT D] [Sub D] in
theorem addNearSubmap_isSome_iff [Group G] [SMul G P] {idMin : Nat} (clouds : List P) (j : Nat) :
    (addNearSubmap config submaps idMin clouds j).isSome ↔
      ∀ k, (if (idMin : Int) + j - config.searchSubmapNum < 0 then none
        else some ((idMin : Int) + j - config.searchSubmapNum)) = some k → InRange submaps k := by
  unfold addNearSubmap
  split
  case isTrue hskip => simp
  case isFalse hkeep =>
    simp only [Option.some.injEq, forall_eq', ← submapAt_isSome_iff]
    cases submapAt submaps (idMin + j - config.searchSubmapNum) with
    | none => rfl
    | some near => rfl

/-- `searchLoop` goes through exactly when all of its accesses are in range. -/
theorem closeLoop_isSome_iff [Group G] [SMul G P] (align : List P → List P → Registration G D) :
    (closeLoop config align submaps).isSome ↔
      ∀ k ∈ submapAccesses config submaps, InRange submaps k := by
  unfold closeLoop submapAccesses
  rw [List.forall_mem_cons, ← submapAt_isSome_iff]
  cases hlatest : submapAt submaps (submaps.length - 1) with
  | none => simp
  | some latest =>
    rw [List.forall_mem_append, and_iff_right inRange_of_mem_range]
    have hgather : ∀ idMin : Nat,
        (((List.range (2 * config.searchSubmapNum + 1).toNat).foldlM
          (addNearSubmap config submaps idMin) [])).isSome ↔
          ∀ k ∈ searchWindow config idMin, InRange submaps k := by
      intro idMin
      rw [foldlM_isSome_iff addNearSubmap_isSome_iff]
      unfold searchWindow
      simp only [List.mem_filterMap, forall_exists_index, and_imp]
      exact ⟨fun h k j hj hk => h j hj k hk, fun h j hj k hk => h k j hj hk⟩
    cases hcandidate : (searchCandidate config latest submaps).isCandidate with
    | false => simp [hcandidate]
    | true =>
      rw [if_pos rfl, ← hgather]
      simp only [Option.bind_eq_bind, Option.bind_some, hcandidate, if_true]
      cases (List.range (2 * config.searchSubmapNum + 1).toNat).foldlM
          (addNearSubmap config submaps (searchCandidate config latest submaps).idMin) [] with
      | none => simp
      | some clouds =>
        simp only [Option.bind_some]
        split
        · exact iff_of_true rfl ⟨rfl, rfl⟩
        · exact iff_of_true rfl ⟨rfl, rfl⟩

end Accesses

/-- **Accesses to the map.**  Every access of `searchLoop` is in range, and so the call
goes through whatever registration makes of the clouds, exactly when the map has a
submap, and the nearest of the submaps that pass the gate, the first of them if there
are several, has at least `search_submap_num` submaps behind it. -/
theorem submapAccesses_inBounds_iff [Group G] [SMul G P] (config : GraphSlamConfig H G P V Q D)
    (horder : WeakBelow config.rangeOfSearchingLoopClosure) (hmax : RangeBelowMax config)
    (hnum : 0 ≤ config.searchSubmapNum) (submaps : List (StampedSubMap H P V Q D)) :
    ((∀ k ∈ submapAccesses config submaps, 0 ≤ k ∧ k < submaps.length) ↔
      ∃ latest, submaps.getLast? = some latest ∧
        ∀ i submap, FirstMin (Gated config latest) (distanceTo config latest) submaps i submap →
          (i : Int) + config.searchSubmapNum < submaps.length) ∧
    ∀ align : List P → List P → Registration G D,
      ((closeLoop config align submaps).isSome ↔
        ∀ k ∈ submapAccesses config submaps, 0 ≤ k ∧ k < submaps.length) := by
  refine ⟨(forall_submapAccesses_iff hnum).trans ?_, closeLoop_isSome_iff⟩
  refine exists_congr fun latest => and_congr_right fun _ => ?_
  obtain ⟨hexists, hmin⟩ := searchCandidate_spec latest hmax horder submaps
  constructor
  · intro hend i submap hfirst
    have hcandidate := hexists.mpr ⟨submap, List.mem_of_getElem? hfirst.entry, hfirst.holds⟩
    rw [(hfirst.unique (hmin hcandidate)).1]
    exact hend hcandidate
  · intro hend hcandidate
    exact hend _ _ (hmin hcandidate)

/-! ## The edges -/

/-- A loop is closed between the candidate and the latest submap. -/
theorem pairId_of_closeLoop [Group G] [SMul G P] {config : GraphSlamConfig H G P V Q D}
    {align : List P → List P → Registration G D} {submaps : List (StampedSubMap H P V Q D)}
    {loopEdge : LoopEdge G} (h : closeLoop config align submaps = some (some loopEdge)) :
    ∃ latest, submaps.getLast? = some latest ∧
      (searchCandidate config latest submaps).isCandidate = true ∧
      loopEdge.pairId =
        (((searchCandidate config latest submaps).idMin : Int), (submaps.length : Int) - 1) := by
  unfold closeLoop at h
  rw [submapAt_last] at h
  obtain ⟨latest, hlatest, h⟩ := Option.bind_eq_some_iff.mp h
  refine ⟨latest, hlatest, ?_⟩
  dsimp only at h
  split at h
  case isFalse => cases h
  case isTrue hcandidate =>
    obtain ⟨clouds, -, h⟩ := Option.bind_eq_some_iff.mp h
    split at h
    case isFalse => cases h
    case isTrue =>
      cases h
      exact ⟨hcandidate, rfl⟩

/-- Only a tick that closes a loop adds an edge. -/
theorem loopEdges_of_step [Group G] [SMul G P] {config : GraphSlamConfig H G P V Q D}
    {s t : GraphBasedSlam H G P V Q D} {e : GraphSlamEvent H G P V Q D}
    {call : Option (PoseAdjustment H G P V Q D)} (h : s.step config e = some (t, call)) :
    t.loopEdges = s.loopEdges ∨ ∃ align loopEdge,
      closeLoop config align s.mapArrayMsg.submaps = some (some loopEdge) ∧
      t.loopEdges = s.loopEdges ++ [loopEdge] := by
  cases e with
  | mapArray msg =>
    cases h
    exact .inl rfl
  | mapSave =>
    unfold GraphBasedSlam.step at h
    dsimp only at h
    split at h
    · cases h
      exact .inl rfl
    · cases h
      exact .inl rfl
  | searchLoop align =>
    unfold GraphBasedSlam.step at h
    dsimp only at h
    split at h
    · cases h
      exact .inl rfl
    · split at h
      · cases h
        exact .inl rfl
      · obtain ⟨found, hfound, h⟩ := Option.bind_eq_some_iff.mp h
        cases found with
        | none =>
          cases h
          exact .inl rfl
        | some loopEdge =>
          cases h
          exact .inr ⟨align, loopEdge, hfound, rfl⟩

end Search

/-! ## The choice in exact arithmetic -/

section Exact

variable [AddGroup D] [LinearOrder D] [Group G] [SMul G P]

/-- **The choice of the submap, and the edges.**

In exact arithmetic, with a gate that is not negative and a range that is a double:

* there is a candidate exactly when some submap was reached more than
  `distance_loop_closure` before the latest one and lies in range;
* the candidate is the first of the nearest submaps of that kind, and `min_submap` is
  its entry;
* an edge is only ever added between such a submap and the latest one, which come in
  this order in the map. -/
theorem candidate_exact (config : GraphSlamConfig H G P V Q D)
    (hgate : 0 ≤ config.distanceLoopClosure)
    (hrange : config.rangeOfSearchingLoopClosure ≤ config.maxDouble) :
    (∀ submaps latest, submaps.getLast? = some latest →
      ((searchCandidate config latest submaps).isCandidate = true ↔
        ∃ submap ∈ submaps, Gated config latest submap) ∧
      ((searchCandidate config latest submaps).isCandidate = true →
        submaps[(searchCandidate config latest submaps).idMin]? =
          some (searchCandidate config latest submaps).minSubmap ∧
        Gated config latest (searchCandidate config latest submaps).minSubmap ∧
        ∀ (j : Nat) submap, submaps[j]? = some submap → Gated config latest submap →
          distanceTo config latest (searchCandidate config latest submaps).minSubmap ≤
            distanceTo config latest submap ∧
          (distanceTo config latest submap =
              distanceTo config latest (searchCandidate config latest submaps).minSubmap →
            (searchCandidate config latest submaps).idMin ≤ j))) ∧
    ∀ (s t : GraphBasedSlam H G P V Q D) e call, s.step config e = some (t, call) →
      t.loopEdges = s.loopEdges ∨ ∃ (loopEdge : LoopEdge G) (i : Nat) (latest submap : _),
        t.loopEdges = s.loopEdges ++ [loopEdge] ∧
        loopEdge.pairId = ((i : Int), (s.mapArrayMsg.submaps.length : Int) - 1) ∧
        i + 1 < s.mapArrayMsg.submaps.length ∧
        s.mapArrayMsg.submaps.getLast? = some latest ∧
        s.mapArrayMsg.submaps[i]? = some submap ∧ Gated config latest submap := by
  have hmax : RangeBelowMax config := fun a b h => lt_of_lt_of_le h hrange
  have horder : WeakBelow config.rangeOfSearchingLoopClosure := .of_linearOrder _
  constructor
  · intro submaps latest _
    obtain ⟨hexists, hmin⟩ := searchCandidate_spec latest hmax horder submaps
    refine ⟨hexists, fun hcandidate => ?_⟩
    have hfirst := hmin hcandidate
    refine ⟨hfirst.entry, hfirst.holds, fun j submap hj hsubmap => ?_⟩
    refine ⟨not_lt.mp (hfirst.least j submap hj hsubmap), fun heq => ?_⟩
    by_contra hlt
    have hless := hfirst.earlier j submap hj hsubmap (Nat.not_le.mp hlt)
    exact absurd heq.symm hless.ne
  · intro s t e call hstep
    rcases loopEdges_of_step hstep with hsame | ⟨align, loopEdge, hclose, hedges⟩
    · exact .inl hsame
    · obtain ⟨latest, hlatest, hcandidate, hpair⟩ := pairId_of_closeLoop hclose
      obtain ⟨-, hmin⟩ :=
        searchCandidate_spec latest hmax horder s.mapArrayMsg.submaps
      have hfirst := hmin hcandidate
      refine .inr ⟨loopEdge, _, latest, _, hedges, hpair, ?_, hlatest, hfirst.entry, hfirst.holds⟩
      have hlt := (List.getElem?_eq_some_iff.mp hfirst.entry).1
      -- the latest submap does not pass the gate itself
      have hne : (searchCandidate config latest s.mapArrayMsg.submaps).idMin ≠
          s.mapArrayMsg.submaps.length - 1 := by
        intro heq
        have hentry := hfirst.entry
        rw [heq, ← List.getLast?_eq_getElem?, hlatest] at hentry
        have hself := hfirst.holds.1
        rw [← Option.some.inj hentry, sub_self] at hself
        exact absurd hself (not_lt.mpr hgate)
      omega

end Exact

/-! ### Submaps on a line -/

/-- Two submaps at one place, reached after the given distances. -/
def twoSubmaps (first second : Int) : List (StampedSubMap Unit Int Int Unit Int) :=
  [⟨⟨first, ⟨0, ()⟩, []⟩, ()⟩, ⟨⟨second, ⟨0, ()⟩, []⟩, ()⟩]

theorem rangeBelowMax_line : RangeBelowMax lineSlamConfig := by
  intro a b h
  change ((a - b).natAbs : Int) < 20 at h
  change ((a - b).natAbs : Int) < 1000000
  omega

/-- Four submaps ten metres apart: the first one passes the gate, and has three behind
it. -/
theorem submapAccesses_inBounds_line :
    ((∀ k ∈ submapAccesses lineSlamConfig (lineMapArray 4).submaps, 0 ≤ k ∧ k < 4) ↔
      ∃ latest, (lineMapArray 4).submaps.getLast? = some latest ∧
        ∀ i submap, FirstMin (Gated lineSlamConfig latest) (distanceTo lineSlamConfig latest)
          (lineMapArray 4).submaps i submap → (i : Int) + 3 < 4) ∧
    ∀ align : List Int → List Int → Registration (Multiplicative Int) Int,
      ((closeLoop lineSlamConfig align (lineMapArray 4).submaps).isSome ↔
        ∀ k ∈ submapAccesses lineSlamConfig (lineMapArray 4).submaps, 0 ≤ k ∧ k < 4) :=
  submapAccesses_inBounds_iff lineSlamConfig (.of_linearOrder _) rangeBelowMax_line (by decide)
    (lineMapArray 4).submaps

/-- With the default parameters and two submaps thirty metres apart, `searchLoop`
reads behind the map. -/
theorem window_leaves_map :
    ¬ ∀ (config : GraphSlamConfig Unit (Multiplicative Int) Int Int Unit Int)
      (submaps : List (StampedSubMap Unit Int Int Unit Int)), 0 ≤ config.searchSubmapNum →
      ∀ k ∈ submapAccesses config submaps, 0 ≤ k ∧ k < submaps.length := by
  intro h
  have hrange := h lineSlamConfig (twoSubmaps 0 30) (by decide) 3 (by decide)
  exact absurd hrange.2 (by decide)

theorem candidate_exact_line :
    ∃ submap ∈ twoSubmaps 0 30, Gated lineSlamConfig ⟨⟨30, ⟨0, ()⟩, []⟩, ()⟩ submap := by
  have hexact := candidate_exact lineSlamConfig (by decide) (by decide)
  exact (hexact.1 (twoSubmaps 0 30) _ rfl).1.mp (by decide)

/-- A submap that was reached thirty metres after the latest one lies in range, and is
not a candidate. -/
theorem later_submap_no_candidate :
    ¬ ∀ (config : GraphSlamConfig Unit (Multiplicative Int) Int Int Unit Int)
      (submaps : List (StampedSubMap Unit Int Int Unit Int))
      (latest : StampedSubMap Unit Int Int Unit Int), 0 ≤ config.distanceLoopClosure →
      config.rangeOfSearchingLoopClosure ≤ config.maxDouble →
      submaps.getLast? = some latest →
      ((searchCandidate config latest submaps).isCandidate = true ↔
        ∃ submap ∈ submaps,
          config.distanceLoopClosure < ((latest.distance - submap.distance).natAbs : Int) ∧
          distanceTo config latest submap < config.rangeOfSearchingLoopClosure) := by
  intro h
  have hiff := h lineSlamConfig (twoSubmaps 30 0) _ (by decide) (by decide) rfl
  exact absurd (hiff.mpr ⟨_, List.mem_cons_self, by decide, by decide⟩) (by decide)

end RoboRacer.Slam
