/-
  Slam/PoseGraph.lean --- the pose graph of the back end
  (`graph_based_slam_component.cpp`, `doPoseAdjustment`).

  One vertex per submap, the first one fixed, and edges that relate a submap to
  its predecessors.  Poses are elements of a group `G`; what is asked here is
  which vertices the edges connect.

  The guard of the adjacency loop is `i > num_adjacent_pose_cnstraints_`, so the
  first submap that gets edges reaches back to vertex 1 only: vertex 0, the
  fixed one, is isolated.
-/
import Mathlib.Algebra.Group.Basic
import Mathlib.Combinatorics.SimpleGraph.Connectivity.Connected

set_option autoImplicit false

namespace RoboRacer.Slam

variable {G : Type}

/-! ## The optimizer

Only what `doPoseAdjustment` hands to it: the vertices and the edges.  Every
edge gets the identity as its information matrix, which is left out. -/

/-- `VertexSE3`. -/
structure VertexSE3 (G : Type) where
  id : Int
  estimate : G
  fixed : Bool

/-- `EdgeSE3`, with the ids of its two vertices. -/
structure EdgeSE3 (G : Type) where
  vertex0 : Int
  vertex1 : Int
  measurement : G

/-- The graph inside `SparseOptimizer`. -/
structure Optimizer (G : Type) where
  vertices : List (VertexSE3 G)
  edges : List (EdgeSE3 G)

/-- `LoopEdge`. -/
structure LoopEdge (G : Type) where
  pairId : Int × Int
  relativePose : G

/-- `optimizer.vertex(id)` is not null. -/
def Optimizer.hasVertex (optimizer : Optimizer G) (id : Int) : Bool :=
  optimizer.vertices.any fun vertex => vertex.id == id

def Optimizer.addVertex (optimizer : Optimizer G) (vertex : VertexSE3 G) : Optimizer G :=
  { optimizer with vertices := optimizer.vertices ++ [vertex] }

/-- `addEdge`, between two vertices that were added before. -/
def Optimizer.addEdge (optimizer : Optimizer G) (edge : EdgeSE3 G) : Option (Optimizer G) :=
  if optimizer.hasVertex edge.vertex0 && optimizer.hasVertex edge.vertex1 then
    some { optimizer with edges := optimizer.edges ++ [edge] }
  else none

/-- `map_array_msg.submaps[i].pose`. -/
def submapPose (submaps : List G) (i : Int) : Option G :=
  if 0 ≤ i then submaps[i.toNat]? else none

/-! ## `doPoseAdjustment` -/

section Build

variable [Group G]

/-- The body of the inner loop: an edge from submap `i - num + j`. -/
def addAdjacentEdge (numAdjacentPoseCnstraints : Int) (submaps : List G) (i : Int) (pose : G)
    (optimizer : Optimizer G) (j : Nat) : Option (Optimizer G) := do
  let prePose ← submapPose submaps (i - numAdjacentPoseCnstraints + j)
  optimizer.addEdge
    { vertex0 := i - numAdjacentPoseCnstraints + j
      vertex1 := i
      measurement := prePose⁻¹ * pose }

/-- The body of the outer loop: a vertex, and its edges behind the guard. -/
def addSubmap (numAdjacentPoseCnstraints : Int) (submaps : List G) (optimizer : Optimizer G)
    (i : Nat) : Option (Optimizer G) := do
  let pose ← submapPose submaps i
  let optimizer := optimizer.addVertex { id := i, estimate := pose, fixed := i == 0 }
  if (i : Int) > numAdjacentPoseCnstraints then
    (List.range numAdjacentPoseCnstraints.toNat).foldlM
      (addAdjacentEdge numAdjacentPoseCnstraints submaps i pose) optimizer
  else return optimizer

/-- The body of the loop over the loop edges. -/
def addLoopEdge (optimizer : Optimizer G) (loopEdge : LoopEdge G) : Option (Optimizer G) :=
  optimizer.addEdge
    { vertex0 := loopEdge.pairId.1
      vertex1 := loopEdge.pairId.2
      measurement := loopEdge.relativePose }

/-- The graph that `doPoseAdjustment` optimises. -/
def poseGraph (numAdjacentPoseCnstraints : Int) (submaps : List G)
    (loopEdges : List (LoopEdge G)) : Option (Optimizer G) := do
  let optimizer ← (List.range submaps.length).foldlM
    (addSubmap numAdjacentPoseCnstraints submaps) { vertices := [], edges := [] }
  loopEdges.foldlM addLoopEdge optimizer

end Build

/-! ## The edges of the loops -/

/-- The ids of the two ends of an edge. -/
def EdgeSE3.ends (edge : EdgeSE3 G) : Int × Int := (edge.vertex0, edge.vertex1)

/-- What is known after submap `n`: its vertices, and between which of them the
adjacency loop has put edges. -/
structure Built (numAdjacentPoseCnstraints : Int) (n : Nat) (optimizer : Optimizer G) : Prop where
  ids : optimizer.vertices.map (·.id) = (List.range n).map Int.ofNat
  fixed : ∀ vertex ∈ optimizer.vertices, vertex.fixed = true ↔ vertex.id = 0
  ends : ∀ a b : Int, (a, b) ∈ optimizer.edges.map EdgeSE3.ends ↔
    a < b ∧ b ≤ a + numAdjacentPoseCnstraints ∧ numAdjacentPoseCnstraints < b ∧ b < n

theorem hasVertex_of_ids {optimizer : Optimizer G} {n : Nat} {id : Int}
    (hids : optimizer.vertices.map (·.id) = (List.range n).map Int.ofNat) (hlow : 0 ≤ id)
    (hhigh : id < n) : optimizer.hasVertex id = true := by
  have hmem : id ∈ optimizer.vertices.map (·.id) := by
    rw [hids, List.mem_map]
    exact ⟨id.toNat, List.mem_range.mpr (by omega), Int.toNat_of_nonneg hlow⟩
  obtain ⟨vertex, hvertex, hid⟩ := List.mem_map.mp hmem
  rw [Optimizer.hasVertex, List.any_eq_true]
  exact ⟨vertex, hvertex, by simpa using hid⟩

theorem submapPose_eq {submaps : List G} {i : Int} (hlow : 0 ≤ i) (hhigh : i < submaps.length) :
    ∃ pose, submapPose submaps i = some pose := by
  rw [submapPose, if_pos hlow]
  exact ⟨submaps[i.toNat], List.getElem?_eq_getElem (by omega)⟩

section Loops

variable [Group G] {num : Int} {submaps : List G}

/-- One pass of the inner loop. -/
theorem addAdjacentEdge_spec {i : Nat} (hi : num < i) (hlen : i < submaps.length) (pose : G)
    {optimizer : Optimizer G}
    (hids : optimizer.vertices.map (·.id) = (List.range (i + 1)).map Int.ofNat) {j : Nat}
    (hj : j < num.toNat) :
    ∃ result, addAdjacentEdge num submaps i pose optimizer j = some result ∧
      result.vertices = optimizer.vertices ∧
      result.edges.map EdgeSE3.ends =
        optimizer.edges.map EdgeSE3.ends ++ [(i - num + j, (i : Int))] := by
  have hlow : (0 : Int) ≤ i - num + j := by omega
  have hhigh : i - num + j < (i : Int) := by omega
  obtain ⟨prePose, hprePose⟩ : ∃ pose, submapPose submaps (i - num + j) = some pose :=
    submapPose_eq hlow (by omega)
  have hfrom : optimizer.hasVertex (i - num + j) = true := hasVertex_of_ids hids hlow (by omega)
  have hto : optimizer.hasVertex i = true := hasVertex_of_ids hids (by omega) (by omega)
  refine ⟨{ optimizer with edges := optimizer.edges ++ [
    { vertex0 := i - num + j, vertex1 := i, measurement := prePose⁻¹ * pose }] }, ?_, rfl, ?_⟩
  · simp [addAdjacentEdge, hprePose, Optimizer.addEdge, hfrom, hto]
  · simp [EdgeSE3.ends]

/-- The inner loop adds an edge from each of the `num` submaps before `i`. -/
theorem adjacentEdges_spec {i : Nat} (hi : num < i) (hlen : i < submaps.length) (pose : G)
    {optimizer : Optimizer G}
    (hids : optimizer.vertices.map (·.id) = (List.range (i + 1)).map Int.ofNat) (k : Nat)
    (hk : k ≤ num.toNat) :
    ∃ result, (List.range k).foldlM (addAdjacentEdge num submaps i pose) optimizer = some result ∧
      result.vertices = optimizer.vertices ∧
      result.edges.map EdgeSE3.ends = optimizer.edges.map EdgeSE3.ends ++
        (List.range k).map fun (j : Nat) => (i - num + j, (i : Int)) := by
  induction k with
  | zero => exact ⟨optimizer, rfl, rfl, by simp⟩
  | succ k ih =>
    obtain ⟨mid, hmid, hvertices, hedges⟩ := ih (by omega)
    rw [← hvertices] at hids
    obtain ⟨result, hresult, hvertices', hedges'⟩ :=
      addAdjacentEdge_spec hi hlen pose hids (by omega : k < num.toNat)
    refine ⟨result, ?_, hvertices'.trans hvertices, ?_⟩
    · rw [List.range_succ, List.foldlM_append, hmid]
      simpa using hresult
    · rw [hedges', hedges, List.range_succ]
      simp

/-- One pass of the outer loop. -/
theorem addSubmap_spec {n : Nat} (hlen : n < submaps.length) {optimizer : Optimizer G}
    (h : Built num n optimizer) :
    ∃ result, addSubmap num submaps optimizer n = some result ∧ Built num (n + 1) result := by
  obtain ⟨pose, hpose⟩ : ∃ pose, submapPose submaps n = some pose :=
    submapPose_eq (by omega) (by omega)
  have hids : (optimizer.addVertex { id := n, estimate := pose, fixed := n == 0 }).vertices.map
      (·.id) = (List.range (n + 1)).map Int.ofNat := by
    simp [Optimizer.addVertex, h.ids, List.range_succ]
  have hfixed : ∀ vertex ∈
      (optimizer.addVertex { id := n, estimate := pose, fixed := n == 0 }).vertices,
        vertex.fixed = true ↔ vertex.id = 0 := by
    intro vertex hvertex
    rcases List.mem_append.mp hvertex with hold | hnew
    · exact h.fixed vertex hold
    · rw [List.mem_singleton.mp hnew]
      simp
  simp only [addSubmap, hpose, Option.bind_eq_bind, Option.bind_some]
  split
  · rename_i hguard
    obtain ⟨result, hresult, hvertices, hedges⟩ :=
      adjacentEdges_spec hguard hlen pose hids num.toNat (Nat.le_refl _)
    refine ⟨result, hresult, ⟨by rw [hvertices, hids], by rw [hvertices]; exact hfixed, ?_⟩⟩
    intro a b
    rw [hedges, List.mem_append]
    change (a, b) ∈ optimizer.edges.map EdgeSE3.ends ∨ _ ↔ _
    rw [h.ends, List.mem_map]
    constructor
    · rintro (hold | ⟨j, hj, hnew⟩)
      · omega
      · rw [List.mem_range] at hj
        rw [Prod.mk.injEq] at hnew
        omega
    · intro hends
      by_cases hlast : b = n
      · refine .inr ⟨(a - (n - num)).toNat, List.mem_range.mpr (by omega), ?_⟩
        rw [Prod.mk.injEq]
        omega
      · exact .inl (by omega)
  · rename_i hguard
    refine ⟨_, rfl, ⟨hids, hfixed, ?_⟩⟩
    intro a b
    change (a, b) ∈ optimizer.edges.map EdgeSE3.ends ↔ _
    rw [h.ends]
    omega

/-- The outer loop: no access fails, and the edges are those the guard lets in. -/
theorem poseGraph_spec (n : Nat) (hlen : n ≤ submaps.length) :
    ∃ optimizer, (List.range n).foldlM (addSubmap num submaps) { vertices := [], edges := [] } =
      some optimizer ∧ Built num n optimizer := by
  induction n with
  | zero =>
    refine ⟨_, rfl, ⟨rfl, by simp, ?_⟩⟩
    intro a b
    simp
    omega
  | succ n ih =>
    obtain ⟨mid, hmid, hbuilt⟩ := ih (by omega)
    have hlt : n < submaps.length := by omega
    obtain ⟨result, hresult, hbuilt'⟩ := addSubmap_spec hlt hbuilt
    refine ⟨result, ?_, hbuilt'⟩
    rw [List.range_succ, List.foldlM_append, hmid]
    simpa using hresult

end Loops

/-! ## Connectivity -/

/-- The graph on the submaps whose edges are those of the optimizer. -/
def Optimizer.toSimpleGraph (optimizer : Optimizer G) (n : Nat) : SimpleGraph (Fin n) where
  Adj a b := a ≠ b ∧
    (((a : Int), (b : Int)) ∈ optimizer.edges.map EdgeSE3.ends ∨
      ((b : Int), (a : Int)) ∈ optimizer.edges.map EdgeSE3.ends)
  symm := ⟨fun _ _ h => ⟨h.1.symm, h.2.symm⟩⟩
  loopless := ⟨fun _ h => h.1 rfl⟩

/-- Two submaps are adjacent when they are at most `num` apart and the later one
passed the guard. -/
theorem Built.adj_iff {num : Int} {n : Nat} {optimizer : Optimizer G}
    (h : Built num n optimizer) (a b : Fin n) :
    (optimizer.toSimpleGraph n).Adj a b ↔
      ((a : Int) < b ∧ (b : Int) ≤ a + num ∧ num < b) ∨
        ((b : Int) < a ∧ (a : Int) ≤ b + num ∧ num < a) := by
  change (a ≠ b ∧ _) ↔ _
  rw [h.ends, h.ends, Fin.ne_iff_vne]
  have := a.isLt
  have := b.isLt
  omega

/-- Vertex 0 has no edge: an edge from it would have to end at a submap of index
at most `num`, and the guard keeps these out. -/
theorem Built.isIsolated_zero {num : Int} {n : Nat} {optimizer : Optimizer G}
    (h : Built num n optimizer) {v : Fin n} (hv : (v : Nat) = 0) :
    (optimizer.toSimpleGraph n).IsIsolated v := by
  intro w hadj
  rw [h.adj_iff, hv] at hadj
  omega

theorem Built.not_reachable_zero {num : Int} {n : Nat} {optimizer : Optimizer G}
    (h : Built num n optimizer) {v w : Fin n} (hv : (v : Nat) = 0) (hne : v ≠ w) :
    ¬ (optimizer.toSimpleGraph n).Reachable v w :=
  SimpleGraph.not_reachable_of_neighborSet_left_eq_empty hne
    (h.isIsolated_zero hv).neighborSet_eq_empty

/-- Every later submap is connected to the first one that passes the guard. -/
theorem Built.reachable_guard {num : Int} {n : Nat} {optimizer : Optimizer G}
    (h : Built num n optimizer) (hnum : 1 ≤ num) (first : Fin n) (hfirst : (first : Int) = num + 1)
    (k : Nat) (hk : k < n) (hpos : 0 < k) :
    (optimizer.toSimpleGraph n).Reachable ⟨k, hk⟩ first := by
  induction k with
  | zero => omega
  | succ k ih =>
    by_cases hlow : ((k + 1 : Nat) : Int) ≤ num
    · -- before the guard: the first submap behind it reaches back to this one
      refine SimpleGraph.Adj.reachable ((h.adj_iff _ _).mpr (.inl ?_))
      simp only
      omega
    · by_cases heq : (⟨k + 1, hk⟩ : Fin n) = first
      · rw [heq]
      · -- behind the guard: one step back
        have hne : (k + 1 : Nat) ≠ (first : Nat) := fun hval => heq (Fin.ext hval)
        have hadj : (optimizer.toSimpleGraph n).Adj ⟨k + 1, hk⟩ ⟨k, by omega⟩ := by
          refine (h.adj_iff _ _).mpr (.inr ?_)
          simp only
          omega
        exact hadj.reachable.trans (ih (by omega) (by omega))

/-- Once a submap passes the guard the graph has two components: vertex 0, and
all others. -/
theorem Built.reachable_iff {num : Int} {n : Nat} {optimizer : Optimizer G}
    (h : Built num n optimizer) (hnum : 1 ≤ num) (hn : num + 1 < n) (v w : Fin n) :
    (optimizer.toSimpleGraph n).Reachable v w ↔ ((v : Nat) = 0 ↔ (w : Nat) = 0) := by
  have hisolated : ∀ x y : Fin n, (x : Nat) = 0 → (y : Nat) ≠ 0 →
      ¬ (optimizer.toSimpleGraph n).Reachable x y := by
    intro x y hx hy
    apply h.not_reachable_zero hx
    rintro rfl
    exact hy hx
  constructor
  · intro hreach
    constructor
    · intro hv
      by_contra hw
      exact hisolated v w hv hw hreach
    · intro hw
      by_contra hv
      exact hisolated w v hw hv hreach.symm
  · intro hiff
    by_cases hv : (v : Nat) = 0
    · have heq : v = w := Fin.ext (hv.trans (hiff.mp hv).symm)
      rw [heq]
    · have hw : (w : Nat) ≠ 0 := fun hw => hv (hiff.mpr hw)
      have hfirst : ((⟨(num + 1).toNat, by omega⟩ : Fin n) : Int) = num + 1 := by
        simp only
        omega
      exact (h.reachable_guard hnum _ hfirst v v.isLt (Nat.pos_of_ne_zero hv)).trans
        (h.reachable_guard hnum _ hfirst w w.isLt (Nat.pos_of_ne_zero hw)).symm

theorem Built.not_connected {num : Int} {n : Nat} {optimizer : Optimizer G}
    (h : Built num n optimizer) (hn : 2 ≤ n) : ¬ (optimizer.toSimpleGraph n).Connected := by
  intro hconnected
  have hzero : 0 < n := by omega
  have hne : (⟨0, hzero⟩ : Fin n) ≠ ⟨1, hn⟩ := by
    intro heq
    cases heq
  exact h.not_reachable_zero rfl hne (hconnected.preconnected _ _)

theorem poseGraph_built [Group G] (num : Int) (submaps : List G) :
    ∃ optimizer, poseGraph num submaps [] = some optimizer ∧
      Built num submaps.length optimizer := by
  obtain ⟨optimizer, hloop, hbuilt⟩ :
      ∃ optimizer, (List.range submaps.length).foldlM (addSubmap num submaps)
        { vertices := [], edges := [] } = some optimizer ∧ Built num submaps.length optimizer :=
    poseGraph_spec submaps.length (Nat.le_refl _)
  refine ⟨optimizer, ?_, hbuilt⟩
  rw [poseGraph, hloop]
  rfl

/-- Loop edges between vertices that exist are all added. -/
theorem foldlM_addLoopEdge {n : Nat} {loopEdges : List (LoopEdge G)}
    (hbounds : ∀ loopEdge ∈ loopEdges, 0 ≤ loopEdge.pairId.1 ∧ loopEdge.pairId.1 < n ∧
      0 ≤ loopEdge.pairId.2 ∧ loopEdge.pairId.2 < n) {optimizer : Optimizer G}
    (hids : optimizer.vertices.map (·.id) = (List.range n).map Int.ofNat) :
    (loopEdges.foldlM addLoopEdge optimizer).isSome = true := by
  induction loopEdges generalizing optimizer with
  | nil => rfl
  | cons loopEdge loopEdges ih =>
    rw [List.forall_mem_cons] at hbounds
    obtain ⟨⟨hlow, hhigh, hlow', hhigh'⟩, hrest⟩ := hbounds
    have hfrom := hasVertex_of_ids hids hlow hhigh
    have hto := hasVertex_of_ids hids hlow' hhigh'
    simp only [List.foldlM_cons, addLoopEdge, Optimizer.addEdge, hfrom, hto, Bool.and_self,
      if_true, Option.bind_eq_bind, Option.bind_some]
    exact ih hrest hids

/-- The pose graph is built without a null vertex if every loop edge is in bounds. -/
theorem poseGraph_isSome [Group G] (num : Int) {submaps : List G} {loopEdges : List (LoopEdge G)}
    (hbounds : ∀ loopEdge ∈ loopEdges, 0 ≤ loopEdge.pairId.1 ∧
      loopEdge.pairId.1 < submaps.length ∧ 0 ≤ loopEdge.pairId.2 ∧
      loopEdge.pairId.2 < submaps.length) :
    (poseGraph num submaps loopEdges).isSome = true := by
  obtain ⟨optimizer, hloop, hbuilt⟩ :
      ∃ optimizer, (List.range submaps.length).foldlM (addSubmap num submaps)
        { vertices := [], edges := [] } = some optimizer ∧ Built num submaps.length optimizer :=
    poseGraph_spec submaps.length (Nat.le_refl _)
  rw [poseGraph, hloop]
  exact foldlM_addLoopEdge hbounds hbuilt.ids

/-- **The fixed vertex is isolated.**  For every number `n ≥ 2` of submaps and
every constraint count `num`, the pose graph without loop edges is built without
a failing access and vertex 0 is the only fixed one; but no other vertex can be
reached from it, and the graph is never connected. -/
theorem poseGraph_not_anchored [Group G] (submaps : List G) (hn : 2 ≤ submaps.length)
    (num : Int) :
    ∃ optimizer, poseGraph num submaps [] = some optimizer ∧
      optimizer.vertices.map (·.id) = (List.range submaps.length).map Int.ofNat ∧
      (∀ vertex ∈ optimizer.vertices, vertex.fixed = true ↔ vertex.id = 0) ∧
      (∀ v w : Fin submaps.length, (v : Nat) = 0 → v ≠ w →
        ¬ (optimizer.toSimpleGraph submaps.length).Reachable v w) ∧
      ¬ (optimizer.toSimpleGraph submaps.length).Connected := by
  obtain ⟨optimizer, hgraph, hbuilt⟩ := poseGraph_built num submaps
  exact ⟨optimizer, hgraph, hbuilt.ids, hbuilt.fixed, fun _ _ hv hne =>
    hbuilt.not_reachable_zero hv hne, hbuilt.not_connected hn⟩

/-! ### Three submaps on a line -/

/-- Poses one unit apart, as translations along one axis. -/
def linePoses : List (Multiplicative Int) :=
  [Multiplicative.ofAdd 0, Multiplicative.ofAdd 1, Multiplicative.ofAdd 2]

theorem poseGraph_not_anchored_line :
    ∃ optimizer, poseGraph 1 linePoses [] = some optimizer ∧
      optimizer.vertices.map (·.id) = (List.range 3).map Int.ofNat ∧
      (∀ vertex ∈ optimizer.vertices, vertex.fixed = true ↔ vertex.id = 0) ∧
      (∀ v w : Fin 3, (v : Nat) = 0 → v ≠ w → ¬ (optimizer.toSimpleGraph 3).Reachable v w) ∧
      ¬ (optimizer.toSimpleGraph 3).Connected :=
  poseGraph_not_anchored linePoses (by decide) 1

/-- With one constraint per submap the only edge joins submaps 1 and 2. -/
theorem poseGraph_line_not_connected :
    ∃ optimizer, poseGraph 1 linePoses [] = some optimizer ∧
      optimizer.edges.map EdgeSE3.ends = [(1, 2)] ∧
      ¬ (optimizer.toSimpleGraph 3).Connected := by
  obtain ⟨optimizer, hgraph, hbuilt⟩ := poseGraph_built 1 linePoses
  have hends : (poseGraph 1 linePoses []).map (fun optimizer =>
      optimizer.edges.map EdgeSE3.ends) = some [(1, 2)] := by decide
  rw [hgraph] at hends
  exact ⟨optimizer, hgraph, Option.some.inj hends, hbuilt.not_connected (by decide)⟩

end RoboRacer.Slam
