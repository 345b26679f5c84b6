/-
  Slam/MapHandshake.lean --- the handshake between the callbacks and `updateMap`.

  Three members carry it: `mapping_flag_`, `is_map_updated_` and the future.  At
  any time the node is in one of four phases:

      fresh       before the first scan
      resting     every thread has returned, and its cloud is the input target
      busy        one thread was started and its cloud is not collected yet
      collected   its cloud is the input target; the flags are being lowered

  Only in the busy phase is a thread running, and then it is the last one.
-/
import Mathlib.Algebra.Ring.Int.Defs
import Mathlib.Data.List.Basic
import RoboRacer.Slam.ScanMatcher

set_option autoImplicit false

namespace RoboRacer.Slam

open RoboRacer.Foundation

variable {P T V Q D : Type}

/-! ## The cloud a task builds -/

/-- The scan of a task in the map frame. -/
def ScanMatcherConfig.scanOf (config : ScanMatcherConfig P T V Q D)
    (task : MappingTask P T V Q) : List P :=
  config.transformPointCloud task.finalTransformation (config.voxelGridMap task.cloud)

/-- The newest `n` of the submaps in the map frame, newest first. -/
def ScanMatcherConfig.newest (config : ScanMatcherConfig P T V Q D)
    (submaps : List (SubMap P V Q D)) (n : Nat) : List P :=
  (submaps.reverse.take n).flatMap (fun submap =>
    config.transformSubmap submap.pose submap.cloud)

/-- The targeted cloud of a task that finds `submaps`: the scan, then the last
`num_targeted_cloud_ - 1` submaps, or all of them if there are fewer. -/
def ScanMatcherConfig.targetOf (config : ScanMatcherConfig P T V Q D)
    (task : MappingTask P T V Q) (submaps : List (SubMap P V Q D)) : List P :=
  config.scanOf task ++ config.newest submaps (config.numTargetedCloud.val - 1).toNat

namespace ScanMatcher

/-- The tasks of the background threads. -/
def tasks (s : ScanMatcher P T V Q D) : List (MappingTask P T V Q) :=
  s.updateMaps.map UpdateMap.task

/-- The background thread `k` was started and has not returned. -/
def Running (s : ScanMatcher P T V Q D) (k : Nat) : Prop :=
  ∃ u, s.updateMaps[k]? = some u ∧ u.pc ≠ .returned

end ScanMatcher

/-- One more submap. -/
theorem ScanMatcherConfig.newest_succ (config : ScanMatcherConfig P T V Q D)
    (submaps : List (SubMap P V Q D)) (n : Nat) :
    config.newest submaps (n + 1) = config.newest submaps n ++
      match submaps.reverse[n]? with
      | some submap => config.transformSubmap submap.pose submap.cloud
      | none => [] := by
  rw [newest, List.take_add_one, List.flatMap_append]
  cases submaps.reverse[n]? <;> simp [newest]

/-! ## Threads -/

/-- The threads in the busy phase: all but the last have returned, and the
members of the node refer to the last. -/
structure Worker (s : ScanMatcher P T V Q D) (earlier : List (UpdateMap P T V Q D))
    (current : UpdateMap P T V Q D) : Prop where
  updateMaps : s.updateMaps = earlier ++ [current]
  returned : ∀ u ∈ earlier, u.pc = .returned
  thread : s.mappingThread = some earlier.length
  future : s.mappingFuture = some earlier.length

/-- The threads do not depend on the callback and the members that it writes. -/
theorem Worker.setCallback {s : ScanMatcher P T V Q D} {earlier : List (UpdateMap P T V Q D)}
    {current : UpdateMap P T V Q D} (h : Worker s earlier current) {correntPose : Pose V Q}
    {trans : D} {inputTargets : List (List P)} {mappingFlag isMapUpdated : Bool}
    {callback : CallbackPc P T} :
    Worker
      { s with
        correntPose := correntPose
        trans := trans
        inputTargets := inputTargets
        mappingFlag := mappingFlag
        isMapUpdated := isMapUpdated
        callback := callback } earlier current :=
  ⟨h.updateMaps, h.returned, h.thread, h.future⟩

/-- A thread that has not returned is the last one. -/
theorem Worker.of_running {s : ScanMatcher P T V Q D} {earlier : List (UpdateMap P T V Q D)}
    {current u : UpdateMap P T V Q D} (h : Worker s earlier current) {k : Nat}
    (hk : s.updateMaps[k]? = some u) (hpc : u.pc ≠ .returned) :
    k = earlier.length ∧ u = current := by
  rw [h.updateMaps] at hk
  rcases Nat.lt_trichotomy k earlier.length with hlt | rfl | hgt
  · rw [List.getElem?_append_left hlt] at hk
    exact absurd (h.returned u (List.mem_of_getElem? hk)) hpc
  · rw [List.getElem?_concat_length] at hk
    exact ⟨rfl, (Option.some.inj hk).symm⟩
  · rw [List.getElem?_eq_none (by simp; omega)] at hk
    cases hk

/-- The current thread goes on. -/
theorem Worker.goto {s t : ScanMatcher P T V Q D} {earlier : List (UpdateMap P T V Q D)}
    {current : UpdateMap P T V Q D} (h : Worker s earlier current)
    {task : MappingTask P T V Q} {pc : UpdatePc D}
    (hupdate : t.updateMaps = s.updateMaps.set earlier.length { task := task, pc := pc })
    (hthread : t.mappingThread = s.mappingThread) (hfuture : t.mappingFuture = s.mappingFuture) :
    Worker t earlier { task := task, pc := pc } where
  updateMaps := by
    rw [hupdate, h.updateMaps, List.set_append_right _ _ (Nat.le_refl _), Nat.sub_self]
    rfl
  returned := h.returned
  thread := hthread.trans h.thread
  future := hfuture.trans h.future

theorem ScanMatcher.ready_eq_true {s : ScanMatcher P T V Q D} {k : Nat}
    {u : UpdateMap P T V Q D} (hk : s.updateMaps[k]? = some u) :
    s.ready k = true ↔ u.pc = .returned := by
  obtain ⟨task, pc⟩ := u
  rw [ScanMatcher.ready, hk]
  cases pc <;> simp

/-- What the current thread, the `k`-th, knows of the shared members. -/
def UpdateMap.Holds (config : ScanMatcherConfig P T V Q D) (k : Nat)
    (submaps : List (SubMap P V Q D)) (targetedCloud : List P) (isMapUpdated : Bool)
    (u : UpdateMap P T V Q D) : Prop :=
  match u.pc with
  | .clear => submaps.length = k + 1 ∧ isMapUpdated = false
  | .appendScan => submaps.length = k + 1 ∧ isMapUpdated = false ∧ targetedCloud = []
  | .readSize =>
    submaps.length = k + 1 ∧ isMapUpdated = false ∧ targetedCloud = config.scanOf u.task
  | .loop numSubmaps i =>
    submaps.length = k + 1 ∧ isMapUpdated = false ∧ numSubmaps = submaps.length ∧
      (i : Int) ≤ config.numTargetedCloud.val - 1 ∧
      targetedCloud = config.scanOf u.task ++ config.newest submaps i
  | .addDistance =>
    submaps.length = k + 1 ∧ isMapUpdated = false ∧
      targetedCloud = config.targetOf u.task submaps
  | .pushSubmap _ =>
    submaps.length = k + 1 ∧ isMapUpdated = false ∧
      targetedCloud = config.targetOf u.task submaps
  | .raiseUpdated =>
    submaps.length = k + 2 ∧ isMapUpdated = false ∧
      targetedCloud = config.targetOf u.task (submaps.take (k + 1))
  | .finish =>
    submaps.length = k + 2 ∧ isMapUpdated = true ∧
      targetedCloud = config.targetOf u.task (submaps.take (k + 1))
  | .returned =>
    submaps.length = k + 2 ∧ isMapUpdated = true ∧
      targetedCloud = config.targetOf u.task (submaps.take (k + 1))
  | .undefined => False

/-- The first map and the clouds of the first `n` tasks have been made the input
target, each once and in order. -/
def ScanMatcher.Installed (config : ScanMatcherConfig P T V Q D) (s : ScanMatcher P T V Q D)
    (n : Nat) : Prop :=
  s.inputTargets.length = n + 1 ∧
    ∀ k task, k < n → s.tasks[k]? = some task →
      s.inputTargets[k + 1]? =
        some (config.inputTarget (config.targetOf task (s.submaps.take (k + 1))))

/-- More tasks and more submaps leave what is installed as it is. -/
theorem ScanMatcher.Installed.mono {config : ScanMatcherConfig P T V Q D}
    {s t : ScanMatcher P T V Q D} {n : Nat} (h : s.Installed config n)
    (htargets : t.inputTargets = s.inputTargets)
    (htasks : s.tasks <+: t.tasks) (hsubmaps : s.submaps <+: t.submaps)
    (hn : n ≤ s.tasks.length) (hlength : n ≤ s.submaps.length) : t.Installed config n := by
  refine ⟨by rw [htargets]; exact h.1, fun k task hk htask => ?_⟩
  obtain ⟨moreTasks, hmoreTasks⟩ := htasks
  obtain ⟨moreSubmaps, hmoreSubmaps⟩ := hsubmaps
  rw [← hmoreTasks, List.getElem?_append_left (by omega)] at htask
  rw [htargets, ← hmoreSubmaps, List.take_append_of_le_length (by omega)]
  exact h.2 k task hk htask

/-- A step of a thread keeps its task. -/
theorem tasks_set {s : ScanMatcher P T V Q D} {k : Nat} {task : MappingTask P T V Q}
    {pc pc' : UpdatePc D} (hk : s.updateMaps[k]? = some { task := task, pc := pc }) :
    (s.updateMaps.set k { task := task, pc := pc' }).map UpdateMap.task = s.tasks := by
  rw [List.map_set, ScanMatcher.tasks]
  refine List.ext_getElem? (fun i => ?_)
  rw [List.getElem?_set]
  by_cases heq : k = i
  · subst heq
    rw [if_pos rfl, List.getElem?_map, hk, List.length_map,
      if_pos (List.getElem?_eq_some_iff.mp hk).1]
    rfl
  · rw [if_neg heq]

/-! ## Phases -/

/-- The busy phase: the last thread runs, or its cloud is not collected yet. -/
structure Busy (config : ScanMatcherConfig P T V Q D) (s : ScanMatcher P T V Q D)
    (earlier : List (UpdateMap P T V Q D)) (current : UpdateMap P T V Q D) : Prop
    extends Worker s earlier current where
  holds : current.Holds config earlier.length s.submaps s.targetedCloud s.isMapUpdated
  installed : s.Installed config earlier.length

theorem Busy.setCallback {config : ScanMatcherConfig P T V Q D} {s : ScanMatcher P T V Q D}
    {earlier : List (UpdateMap P T V Q D)} {current : UpdateMap P T V Q D}
    (h : Busy config s earlier current) {correntPose : Pose V Q} {trans : D} {mappingFlag : Bool}
    {callback : CallbackPc P T} :
    Busy config
      { s with
        correntPose := correntPose
        trans := trans
        mappingFlag := mappingFlag
        callback := callback } earlier current :=
  ⟨h.toWorker.setCallback, h.holds, h.installed⟩

/-- Where the callback can be while every thread is settled. -/
def CallbackPc.Rests : CallbackPc P T → Prop
  | .idle => True
  | .testMapping _ => True
  | .align _ => True
  | .testTrigger _ _ => True
  | .assignTask _ _ => True
  | .startThread => True
  | _ => False

/-- Where it can be in the busy phase, by `mapping_flag_` and whether the thread
has returned. -/
def CallbackPc.Waits (mappingFlag : Bool) (returned : Prop) : CallbackPc P T → Prop
  | .idle => mappingFlag = true
  | .testMapping _ => mappingFlag = true
  | .testFuture _ => mappingFlag = true
  | .testUpdated _ => mappingFlag = true ∧ returned
  | .setInputTarget _ => mappingFlag = true ∧ returned
  | .align _ => mappingFlag = true
  | .testTrigger _ _ => mappingFlag = true
  | .raiseFlag => mappingFlag = false
  | _ => False

/-- Where it can be once the cloud is installed, by the two flags. -/
def CallbackPc.Collects (mappingFlag isMapUpdated : Bool) : CallbackPc P T → Prop
  | .clearUpdated _ => mappingFlag = true ∧ isMapUpdated = true
  | .clearFlag _ => mappingFlag = true ∧ isMapUpdated = false
  | .detach _ => mappingFlag = false ∧ isMapUpdated = false
  | _ => False

/-- The phases of the node. -/
inductive Phase (config : ScanMatcherConfig P T V Q D) (s : ScanMatcher P T V Q D) : Prop
  | fresh (callback : s.callback = .idle) (received : s.initialCloudReceived = false)
      (flag : s.mappingFlag = false) (updated : s.isMapUpdated = false)
      (thread : s.mappingThread = none) (updateMaps : s.updateMaps = [])
      (submaps : s.submaps = []) (inputTargets : s.inputTargets = []) : Phase config s
  | resting (received : s.initialCloudReceived = true) (callback : s.callback.Rests)
      (flag : s.mappingFlag = false) (updated : s.isMapUpdated = false)
      (thread : s.mappingThread = none) (returned : ∀ u ∈ s.updateMaps, u.pc = .returned)
      (submaps : s.submaps.length = s.updateMaps.length + 1)
      (installed : s.Installed config s.updateMaps.length)
      (assigned : s.callback = .startThread → s.mappingFuture = some s.updateMaps.length) :
      Phase config s
  | busy {earlier : List (UpdateMap P T V Q D)} {current : UpdateMap P T V Q D}
      (received : s.initialCloudReceived = true) (busy : Busy config s earlier current)
      (callback : s.callback.Waits s.mappingFlag (current.pc = .returned)) : Phase config s
  | collected {earlier : List (UpdateMap P T V Q D)} {current : UpdateMap P T V Q D}
      (received : s.initialCloudReceived = true) (worker : Worker s earlier current)
      (returned : current.pc = .returned) (submaps : s.submaps.length = earlier.length + 2)
      (installed : s.Installed config (earlier.length + 1))
      (callback : s.callback.Collects s.mappingFlag s.isMapUpdated) : Phase config s

/-- While the thread has not returned, the callback does not wait for what it
does when it has. -/
theorem CallbackPc.Waits.of_running {callback : CallbackPc P T} {flag : Bool} {p q : Prop}
    (h : callback.Waits flag p) (hp : ¬ p) : callback.Waits flag q := by
  cases callback with
  | testUpdated cloud => exact absurd h.2 hp
  | setInputTarget cloud => exact absurd h.2 hp
  | _ => exact h

section Steps

variable {config : ScanMatcherConfig P T V Q D} {s t : ScanMatcher P T V Q D}

/-- Only the busy phase has a thread that has not returned. -/
theorem Phase.of_running (h : Phase config s) {k : Nat} {u : UpdateMap P T V Q D}
    (hk : s.updateMaps[k]? = some u) (hpc : u.pc ≠ .returned) :
    ∃ earlier, k = earlier.length ∧ s.initialCloudReceived = true ∧ Busy config s earlier u ∧
      ∀ p, s.callback.Waits s.mappingFlag p := by
  cases h with
  | fresh callback received flag updated thread updateMaps =>
    rw [updateMaps] at hk
    cases hk
  | resting received callback flag updated thread returned =>
    exact absurd (returned u (List.mem_of_getElem? hk)) hpc
  | @busy earlier current received busy callback =>
    obtain ⟨rfl, rfl⟩ := busy.toWorker.of_running hk hpc
    exact ⟨earlier, rfl, received, busy, fun p => callback.of_running hpc⟩
  | collected received worker returned =>
    obtain ⟨-, rfl⟩ := worker.of_running hk hpc
    exact absurd returned hpc

/-- The current thread works on one submap at least. -/
theorem UpdateMap.Holds.le_length {k : Nat} {submaps : List (SubMap P V Q D)}
    {targetedCloud : List P} {isMapUpdated : Bool} {u : UpdateMap P T V Q D}
    (h : u.Holds config k submaps targetedCloud isMapUpdated) : k + 1 ≤ submaps.length := by
  obtain ⟨task, pc⟩ := u
  cases pc with
  | undefined => exact h.elim
  | _ => exact le_trans (by omega) (le_of_eq h.1.symm)

/-- **One step of a background thread.**  The thread writes the shared members and
goes on; the phase stays busy when it then knows what its new place asks for. -/
theorem Phase.background (h : Phase config s) {k : Nat} {task : MappingTask P T V Q}
    {pc pc' : UpdatePc D} (hk : s.updateMaps[k]? = some { task := task, pc := pc })
    (hpc : pc ≠ .returned) {latestDistance : D} {submaps : List (SubMap P V Q D)}
    {targetedCloud : List P} {isMapUpdated : Bool} (hsubmaps : s.submaps <+: submaps)
    (hholds : UpdateMap.Holds config k s.submaps s.targetedCloud s.isMapUpdated
        { task := task, pc := pc } →
      UpdateMap.Holds config k submaps targetedCloud isMapUpdated { task := task, pc := pc' }) :
    Phase config ({ s with
      latestDistance := latestDistance
      submaps := submaps
      targetedCloud := targetedCloud
      isMapUpdated := isMapUpdated }.goto k task pc') := by
  obtain ⟨earlier, rfl, hs, hbusy, hwaits⟩ := h.of_running hk hpc
  refine .busy hs ⟨hbusy.toWorker.goto rfl rfl rfl, hholds hbusy.holds, ?_⟩ (hwaits _)
  refine hbusy.installed.mono rfl ?_ hsubmaps ?_ (Nat.le_of_succ_le hbusy.holds.le_length)
  · rw [← tasks_set hk]
    exact List.prefix_rfl
  · rw [ScanMatcher.tasks, List.length_map, hbusy.updateMaps]
    simp

/-- One pass of the loop: the next submap from the end is appended, if there is one
left, and no index is out of range. -/
theorem Phase.loopPass (h : Phase config s) {k : Nat} {task : MappingTask P T V Q}
    {numSubmaps : Int} {i : Nat}
    (hk : s.updateMaps[k]? = some { task := task, pc := .loop numSubmaps i }) :
    Phase config (s.loopPass config k task numSubmaps i) := by
  obtain ⟨earlier, rfl, -, hbusy, -⟩ := h.of_running hk (by simp)
  obtain ⟨hlength, hupdated, hnum, hi, htarget⟩ := hbusy.holds
  unfold ScanMatcher.loopPass
  split
  case isTrue hlt =>
    -- the submap that the pass is about, counted from the newest
    have hnewest := config.newest_succ s.submaps i
    split
    case isTrue hneg =>
      rw [List.getElem?_eq_none (by rw [List.length_reverse]; omega), List.append_nil] at hnewest
      refine h.background hk (by simp) List.prefix_rfl (fun _ => ?_)
      exact ⟨hlength, hupdated, hnum, by omega, by rw [hnewest]; exact htarget⟩
    case isFalse hpos =>
      have hindex : (numSubmaps - 1 - i).toNat < s.submaps.length := by omega
      have hreverse : s.submaps.reverse[i]? = s.submaps[(numSubmaps - 1 - i).toNat]? := by
        rw [List.getElem?_reverse (by omega)]
        congr 1
        omega
      rw [List.getElem?_eq_getElem hindex]
      rw [hreverse, List.getElem?_eq_getElem hindex] at hnewest
      refine h.background hk (by simp) List.prefix_rfl (fun _ => ?_)
      refine ⟨hlength, hupdated, hnum, by omega, ?_⟩
      rw [hnewest, htarget, List.append_assoc]
  case isFalse hge =>
    have heq : i = (config.numTargetedCloud.val - 1).toNat := by omega
    refine h.background hk (by simp) List.prefix_rfl (fun _ => ?_)
    exact ⟨hlength, hupdated, by rw [ScanMatcherConfig.targetOf, ← heq]; exact htarget⟩

/-- The callback goes on to a place that belongs to the same phase, and writes
members that no thread depends on. -/
theorem Phase.setCallback (h : Phase config s) {callback : CallbackPc P T}
    {correntPose : Pose V Q} {trans : D} (hreceived : s.initialCloudReceived = true)
    (hstart : callback ≠ .startThread) (hrests : s.callback.Rests → callback.Rests)
    (hwaits : ∀ returned, s.callback.Waits s.mappingFlag returned →
      callback.Waits s.mappingFlag returned)
    (hcollects : ¬ s.callback.Collects s.mappingFlag s.isMapUpdated) :
    Phase config
      { s with correntPose := correntPose, trans := trans, callback := callback } := by
  cases h with
  | fresh _ received =>
    rw [received] at hreceived
    cases hreceived
  | resting received callback flag updated thread returned submaps installed assigned =>
    exact .resting received (hrests callback) flag updated thread returned submaps installed
      (fun h => absurd h hstart)
  | busy received busy callback =>
    exact .busy received busy.setCallback (hwaits _ callback)
  | collected received worker returned submaps installed callback =>
    exact absurd callback hcollects

/-- A callback is only ever inside a scan once the first one has come in. -/
theorem Phase.received (h : Phase config s) (hcallback : s.callback ≠ .idle) :
    s.initialCloudReceived = true := by
  cases h with
  | fresh callback => exact absurd callback hcallback
  | resting received => exact received
  | busy received => exact received
  | collected received => exact received

/-- Inside a scan there is a submap. -/
theorem Phase.submaps_ne_nil (h : Phase config s) (hcallback : s.callback ≠ .idle) :
    s.submaps ≠ [] := by
  cases h with
  | fresh callback => exact absurd callback hcallback
  | resting _ _ _ _ _ _ submaps => exact List.ne_nil_of_length_pos (by omega)
  | busy _ busy =>
    have hlength := busy.holds.le_length
    exact List.ne_nil_of_length_pos (by omega)
  | collected _ _ _ submaps => exact List.ne_nil_of_length_pos (by omega)

theorem phase_createFirstMap [Zero D] (h : Phase config s) {cloud : List P}
    (hreceived : s.initialCloudReceived = false) :
    Phase config (s.createFirstMap config cloud) := by
  cases h with
  | fresh callback received flag updated thread updateMaps submaps inputTargets =>
    refine .resting rfl trivial flag updated thread ?_ ?_ ?_ (fun h => nomatch h)
    · show ∀ u ∈ s.updateMaps, _
      rw [updateMaps]
      exact fun _ hu => nomatch hu
    · show (s.submaps ++ [_]).length = s.updateMaps.length + 1
      rw [submaps, updateMaps]
      rfl
    · show ScanMatcher.Installed config _ s.updateMaps.length
      rw [updateMaps]
      refine ⟨?_, fun _ _ hk => absurd hk (Nat.not_lt_zero _)⟩
      show (s.inputTargets ++ [_]).length = 0 + 1
      rw [inputTargets]
      rfl
  | resting received => rw [received] at hreceived; cases hreceived
  | busy received => rw [received] at hreceived; cases hreceived
  | collected received => rw [received] at hreceived; cases hreceived

theorem phase_testMapping (h : Phase config s) {cloud : List P}
    (hcallback : s.callback = .testMapping cloud) :
    Phase config { s with
      callback :=
        if s.mappingFlag && s.mappingFuture.isSome then .testFuture cloud else .align cloud } := by
  have hreceived := h.received (by rw [hcallback]; simp)
  cases h with
  | fresh _ received => rw [received] at hreceived; cases hreceived
  | resting received callback flag updated thread returned submaps installed assigned =>
    rw [flag]
    exact .resting received trivial rfl updated thread returned submaps installed
      (by intro hstart; cases hstart)
  | @busy earlier current received busy callback =>
    rw [hcallback] at callback
    rw [if_pos (by rw [show s.mappingFlag = true from callback, busy.future]; rfl)]
    exact .busy received busy.setCallback callback
  | collected received worker returned submaps installed callback =>
    rw [hcallback] at callback
    exact callback.elim

/-- Places of the callback that only the busy phase has. -/
theorem Phase.busy_of (h : Phase config s) (hrests : ¬ s.callback.Rests)
    (hcollects : ∀ flag updated, ¬ s.callback.Collects flag updated) :
    s.initialCloudReceived = true ∧ ∃ earlier current, Busy config s earlier current ∧
      s.callback.Waits s.mappingFlag (current.pc = .returned) := by
  cases h with
  | fresh callback => exact absurd (by rw [callback]; trivial) hrests
  | resting received callback => exact absurd callback hrests
  | busy received busy callback => exact ⟨received, _, _, busy, callback⟩
  | collected received worker returned submaps installed callback =>
    exact absurd callback (hcollects _ _)

/-- Places of the callback that only the collected phase has. -/
theorem Phase.collected_of (h : Phase config s) (hrests : ¬ s.callback.Rests)
    (hwaits : ∀ flag returned, ¬ s.callback.Waits flag returned) :
    s.initialCloudReceived = true ∧ s.callback.Collects s.mappingFlag s.isMapUpdated ∧
      ∃ earlier current, Worker s earlier current ∧ current.pc = .returned ∧
        s.submaps.length = earlier.length + 2 ∧ s.Installed config (earlier.length + 1) := by
  cases h with
  | fresh callback => exact absurd (by rw [callback]; trivial) hrests
  | resting received callback => exact absurd callback hrests
  | busy received busy callback => exact absurd callback (hwaits _ _)
  | collected received worker returned submaps installed callback =>
    exact ⟨received, callback, _, _, worker, returned, submaps, installed⟩

/-- What is known while every thread is settled. -/
structure Resting (config : ScanMatcherConfig P T V Q D) (s : ScanMatcher P T V Q D) :
    Prop where
  received : s.initialCloudReceived = true
  flag : s.mappingFlag = false
  updated : s.isMapUpdated = false
  thread : s.mappingThread = none
  returned : ∀ u ∈ s.updateMaps, u.pc = .returned
  submaps : s.submaps.length = s.updateMaps.length + 1
  installed : s.Installed config s.updateMaps.length

/-- Places of the callback that only the resting phase has. -/
theorem Phase.resting_of (h : Phase config s) (hidle : s.callback ≠ .idle)
    (hwaits : ∀ flag returned, ¬ s.callback.Waits flag returned)
    (hcollects : ∀ flag updated, ¬ s.callback.Collects flag updated) :
    Resting config s ∧
      (s.callback = .startThread → s.mappingFuture = some s.updateMaps.length) := by
  cases h with
  | fresh callback => exact absurd callback hidle
  | resting received callback flag updated thread returned submaps installed assigned =>
    exact ⟨⟨received, flag, updated, thread, returned, submaps, installed⟩, assigned⟩
  | busy received busy callback => exact absurd callback (hwaits _ _)
  | collected received worker returned submaps installed callback =>
    exact absurd callback (hcollects _ _)

theorem Phase.resting_of_assignTask (h : Phase config s) {cloud : List P}
    {finalTransformation : T} (hcallback : s.callback = .assignTask cloud finalTransformation) :
    Resting config s :=
  (h.resting_of (by rw [hcallback]; simp) (fun _ _ => by rw [hcallback]; exact id)
    (fun _ _ => by rw [hcallback]; exact id)).1

theorem Phase.resting_of_startThread (h : Phase config s) (hcallback : s.callback = .startThread) :
    Resting config s ∧ s.mappingFuture = some s.updateMaps.length := by
  obtain ⟨hresting, hassigned⟩ := h.resting_of (by rw [hcallback]; simp)
    (fun _ _ => by rw [hcallback]; exact id) (fun _ _ => by rw [hcallback]; exact id)
  exact ⟨hresting, hassigned hcallback⟩

theorem phase_testFuture (h : Phase config s) {cloud : List P} {k : Nat}
    (hcallback : s.callback = .testFuture cloud) (hfuture : s.mappingFuture = some k) :
    Phase config
      { s with callback := if s.ready k then .testUpdated cloud else .align cloud } := by
  obtain ⟨received, earlier, current, busy, callback⟩ :=
    h.busy_of (by rw [hcallback]; exact id) (fun _ _ => by rw [hcallback]; exact id)
  rw [hcallback] at callback
  obtain rfl : k = earlier.length := Option.some.inj (hfuture.symm.trans busy.future)
  have hcurrent : s.updateMaps[earlier.length]? = some current := by
    rw [busy.updateMaps, List.getElem?_concat_length]
  have hready := ScanMatcher.ready_eq_true hcurrent
  refine .busy received busy.setCallback ?_
  split
  case isTrue htrue => exact ⟨callback, hready.mp htrue⟩
  case isFalse => exact callback

theorem phase_testUpdated (h : Phase config s) {cloud : List P}
    (hcallback : s.callback = .testUpdated cloud) :
    Phase config
      { s with
        callback := if s.isMapUpdated then .setInputTarget cloud else .clearFlag cloud } := by
  obtain ⟨received, earlier, ⟨task, pc⟩, busy, callback⟩ :=
    h.busy_of (by rw [hcallback]; exact id) (fun _ _ => by rw [hcallback]; exact id)
  rw [hcallback] at callback
  obtain ⟨hflag, rfl⟩ : s.mappingFlag = true ∧ pc = .returned := callback
  -- the thread set `is_map_updated_` before it returned
  have hupdated : s.isMapUpdated = true := busy.holds.2.1
  rw [if_pos hupdated]
  exact .busy received busy.setCallback ⟨hflag, rfl⟩

/-- The cloud of the thread that has returned becomes the input target. -/
theorem phase_setInputTarget (h : Phase config s) {cloud : List P}
    (hcallback : s.callback = .setInputTarget cloud) :
    Phase config
      { s with
        inputTargets := s.inputTargets ++ [config.inputTarget s.targetedCloud]
        callback := .clearUpdated cloud } := by
  obtain ⟨received, earlier, ⟨task, pc⟩, busy, callback⟩ :=
    h.busy_of (by rw [hcallback]; exact id) (fun _ _ => by rw [hcallback]; exact id)
  rw [hcallback] at callback
  obtain ⟨hflag, rfl⟩ : s.mappingFlag = true ∧ pc = .returned := callback
  obtain ⟨hsubmaps, hupdated, htarget⟩ := busy.holds
  obtain ⟨hlength, hinstalled⟩ := busy.installed
  refine .collected received busy.toWorker.setCallback rfl
    hsubmaps ⟨?_, fun k task' hk htask => ?_⟩ ⟨hflag, hupdated⟩
  · rw [List.length_append, hlength]
    rfl
  · rcases Nat.lt_or_eq_of_le (Nat.le_of_lt_succ hk) with hlt | rfl
    · show (s.inputTargets ++ [_])[k + 1]? = _
      rw [List.getElem?_append_left (by omega)]
      exact hinstalled k task' hlt htask
    · have hcurrent : task' = task := by
        have htask' : s.tasks[earlier.length]? = some task' := htask
        rw [ScanMatcher.tasks, List.getElem?_map, busy.updateMaps,
          List.getElem?_concat_length] at htask'
        exact (Option.some.inj htask').symm
      have hbuilt : config.targetOf task (s.submaps.take (earlier.length + 1)) =
          s.targetedCloud := htarget.symm
      show (s.inputTargets ++ [_])[earlier.length + 1]? =
        some (config.inputTarget (config.targetOf task' (s.submaps.take (earlier.length + 1))))
      rw [hcurrent, hbuilt, ← hlength]
      exact List.getElem?_concat_length

theorem phase_clearUpdated (h : Phase config s) {cloud : List P}
    (hcallback : s.callback = .clearUpdated cloud) :
    Phase config { s with isMapUpdated := false, callback := .clearFlag cloud } := by
  obtain ⟨received, callback, earlier, current, worker, returned, submaps, installed⟩ :=
    h.collected_of (by rw [hcallback]; exact id) (fun _ _ => by rw [hcallback]; exact id)
  rw [hcallback] at callback
  exact .collected received worker.setCallback
    returned submaps installed ⟨callback.1, rfl⟩

theorem phase_clearFlag (h : Phase config s) {cloud : List P}
    (hcallback : s.callback = .clearFlag cloud) :
    Phase config { s with mappingFlag := false, callback := .detach cloud } := by
  obtain ⟨received, callback, earlier, current, worker, returned, submaps, installed⟩ :=
    h.collected_of (by rw [hcallback]; exact id) (fun _ _ => by rw [hcallback]; exact id)
  rw [hcallback] at callback
  exact .collected received worker.setCallback
    returned submaps installed ⟨rfl, callback.2⟩

/-- The thread that is detached was joinable, and nothing runs any more. -/
theorem phase_detach (h : Phase config s) {cloud : List P}
    (hcallback : s.callback = .detach cloud) :
    Phase config
      { s with
        mappingThread := none
        callback := if s.mappingThread.isSome then .align cloud else .undefined } := by
  obtain ⟨received, callback, earlier, current, worker, returned, submaps, installed⟩ :=
    h.collected_of (by rw [hcallback]; exact id) (fun _ _ => by rw [hcallback]; exact id)
  rw [hcallback] at callback
  have hlength : s.updateMaps.length = earlier.length + 1 := by
    rw [worker.updateMaps, List.length_append, List.length_singleton]
  rw [worker.thread]
  refine .resting received trivial callback.1 callback.2 rfl ?_ ?_ ?_ (fun h => nomatch h)
  · show ∀ u ∈ s.updateMaps, u.pc = .returned
    rw [worker.updateMaps]
    intro u hu
    rcases List.mem_append.mp hu with hu | hu
    · exact worker.returned u hu
    · rw [List.mem_singleton.mp hu]
      exact returned
  · show s.submaps.length = s.updateMaps.length + 1
    rw [submaps, hlength]
  · show ScanMatcher.Installed config _ s.updateMaps.length
    rw [hlength]
    exact installed

theorem Resting.all_ready (h : Resting config s) :
    (List.range s.updateMaps.length).all s.ready = true := by
  refine List.all_eq_true.mpr (fun k hk => ?_)
  have hget := List.getElem?_eq_getElem (List.mem_range.mp hk)
  exact (ScanMatcher.ready_eq_true hget).mpr (h.returned _ (List.mem_of_getElem? hget))

/-- The task that is assigned over has returned. -/
theorem phase_assignTask (h : Phase config s) {cloud : List P} {finalTransformation : T}
    (hcallback : s.callback = .assignTask cloud finalTransformation) :
    Phase config (s.assignTask config cloud finalTransformation) := by
  have hresting := h.resting_of_assignTask hcallback
  rw [ScanMatcher.assignTask, if_pos hresting.all_ready]
  exact .resting hresting.received trivial hresting.flag hresting.updated hresting.thread
    hresting.returned hresting.submaps hresting.installed (fun _ => rfl)

/-- The thread that is assigned over was detached, and a new one starts. -/
theorem phase_startThread (h : Phase config s) {task : MappingTask P T V Q}
    (hcallback : s.callback = .startThread) : Phase config (s.startThread task) := by
  obtain ⟨hresting, hassigned⟩ := h.resting_of_startThread hcallback
  have hworker : Worker (s.startThread task) s.updateMaps { task := task, pc := .clear } :=
    ⟨rfl, hresting.returned, rfl, hassigned⟩
  have hinstalled : (s.startThread task).Installed config s.updateMaps.length := by
    refine hresting.installed.mono rfl ?_ List.prefix_rfl ?_ ?_
    · exact ⟨[task], by simp [ScanMatcher.startThread, ScanMatcher.tasks]⟩
    · rw [ScanMatcher.tasks, List.length_map]
    · rw [hresting.submaps]
      omega
  have hraise : (s.startThread task).callback = .raiseFlag := by
    rw [ScanMatcher.startThread, hresting.thread]
    rfl
  refine .busy hresting.received ⟨hworker, ⟨hresting.submaps, hresting.updated⟩, hinstalled⟩ ?_
  rw [hraise]
  exact hresting.flag

theorem phase_raiseFlag (h : Phase config s) (hcallback : s.callback = .raiseFlag) :
    Phase config { s with mappingFlag := true, callback := .idle } := by
  obtain ⟨received, earlier, current, busy, -⟩ :=
    h.busy_of (by rw [hcallback]; exact id) (fun _ _ => by rw [hcallback]; exact id)
  exact .busy received busy.setCallback rfl

/-- **Every step keeps the phase.** -/
theorem phase_step [Zero D] [Sub V] [Add D] [LE D] {action : MapAction P T} (h : Phase config s)
    (hstep : MapStep config s action t) : Phase config t := by
  cases hstep with
  | firstCloud _ hreceived => exact phase_createFirstMap h hreceived
  | nextCloud hcallback hreceived =>
    refine h.setCallback hreceived (by simp) (fun _ => trivial) (fun _ hwaits => ?_) ?_
    · rwa [hcallback] at hwaits
    · rw [hcallback]
      exact id
  | testMapping hcallback => exact phase_testMapping h hcallback
  | testFuture hcallback hfuture => exact phase_testFuture h hcallback hfuture
  | testUpdated hcallback => exact phase_testUpdated h hcallback
  | setInputTarget hcallback => exact phase_setInputTarget h hcallback
  | clearUpdated hcallback => exact phase_clearUpdated h hcallback
  | clearFlag hcallback => exact phase_clearFlag h hcallback
  | detach hcallback => exact phase_detach h hcallback
  | publish hcallback =>
    refine h.setCallback (h.received (by rw [hcallback]; simp)) (by simp) (fun _ => trivial)
      (fun _ hwaits => ?_) ?_
    · rwa [hcallback] at hwaits
    · rw [hcallback]
      exact id
  | trigger hcallback hguard =>
    refine h.setCallback (h.received (by rw [hcallback]; simp)) (by simp) (fun _ => trivial)
      (fun _ hwaits => ?_) ?_
    · -- `mapping_flag_` is set while a thread is being waited for
      rw [hcallback] at hwaits
      exact absurd (hguard.2.symm.trans hwaits) (by simp)
    · rw [hcallback]
      exact id
  | noTrigger hcallback =>
    refine h.setCallback (h.received (by rw [hcallback]; simp)) (by simp) (fun _ => trivial)
      (fun _ hwaits => ?_) ?_
    · rwa [hcallback] at hwaits
    · rw [hcallback]
      exact id
  | assignTask hcallback => exact phase_assignTask h hcallback
  | startThread hcallback => exact phase_startThread h hcallback
  | raiseFlag hcallback => exact phase_raiseFlag h hcallback
  | clear hk =>
    exact h.background hk (by simp) List.prefix_rfl (fun hholds => ⟨hholds.1, hholds.2, rfl⟩)
  | appendScan hk =>
    refine h.background hk (by simp) List.prefix_rfl (fun hholds => ?_)
    obtain ⟨hlength, hupdated, htarget⟩ := hholds
    exact ⟨hlength, hupdated, by rw [htarget]; rfl⟩
  | readSize hk =>
    refine h.background hk (by simp) List.prefix_rfl (fun hholds => ?_)
    obtain ⟨hlength, hupdated, htarget⟩ := hholds
    have hpositive := config.numTargetedCloud.property
    refine ⟨hlength, hupdated, rfl, by omega, ?_⟩
    rw [htarget]
    simp [ScanMatcherConfig.newest]
  | appendSubmap hk => exact h.loopPass hk
  | addDistance hk => exact h.background hk (by simp) List.prefix_rfl id
  | pushSubmap hk =>
    refine h.background hk (by simp) (List.prefix_append ..) (fun hholds => ?_)
    obtain ⟨hlength, hupdated, htarget⟩ := hholds
    refine ⟨by rw [List.length_append, hlength]; rfl, hupdated, ?_⟩
    rw [← hlength, List.take_left']
    · exact htarget
    · rfl
  | raiseUpdated hk =>
    refine h.background hk (by simp) List.prefix_rfl (fun hholds => ?_)
    exact ⟨hholds.1, rfl, hholds.2.2⟩
  | finish hk => exact h.background hk (by simp) List.prefix_rfl id

/-- Every state of the node is in one of the phases. -/
theorem phase_of_run [Zero D] [Sub V] [Add D] [LE D] {initialPose : Pose V Q} {trans : D}
    {actions : List (MapAction P T)}
    (hrun : (scanMatcherMachine config initialPose trans).Run (.initial initialPose trans)
      actions t) : Phase config t := by
  refine hrun.preserves (Phase config) (fun s l t hs hstep => phase_step hs hstep) ?_
  exact .fresh rfl rfl rfl rfl rfl rfl rfl rfl

/-- Nor does it matter how the node got its pose. -/
theorem phase_of_reachable [Zero D] [Sub V] [Add D] [LE D] {emptyPose initialPose : Pose V Q}
    {trans : D} {memory : Memory V D}
    (h : (scanMatcherMachine config initialPose trans).Reachable t ∨
      (parametersMachine config emptyPose initialPose memory).Reachable t) : Phase config t := by
  obtain h | h := h
  · refine h.invariant (Phase config) ?_ (fun s l t _ hs hstep => phase_step hs hstep)
    rintro _ rfl
    exact .fresh rfl rfl rfl rfl rfl rfl rfl rfl
  · refine h.invariant (Phase config) ?_ (fun s l t _ hs hstep => phase_step hs hstep)
    rintro _ rfl
    exact .fresh rfl rfl rfl rfl rfl rfl rfl rfl

end Steps

/-! ## The handshake -/

/-- The callback is about to assign `mapping_task_` or `mapping_thread_`. -/
def ScanMatcher.Reassigns (s : ScanMatcher P T V Q D) : Prop :=
  (∃ cloud finalTransformation, s.callback = .assignTask cloud finalTransformation) ∨
    s.callback = .startThread

/-- The callback is about to read `targeted_cloud_`. -/
def ScanMatcher.ReadsTargetedCloud (s : ScanMatcher P T V Q D) : Prop :=
  ∃ cloud, s.callback = .setInputTarget cloud

/-- The thread is still building its targeted cloud. -/
def UpdatePc.Builds : UpdatePc D → Prop
  | .clear => True
  | .appendScan => True
  | .readSize => True
  | .loop _ _ => True
  | _ => False

section Results

variable {config : ScanMatcherConfig P T V Q D} {s t : ScanMatcher P T V Q D}

theorem not_running {s : ScanMatcher P T V Q D} (h : ∀ u ∈ s.updateMaps, u.pc = .returned)
    (k : Nat) : ¬ s.Running k := by
  rintro ⟨u, hk, hpc⟩
  exact hpc (h u (List.mem_of_getElem? hk))

/-- The threads of the busy phase, if the last has returned. -/
theorem Worker.all_returned {earlier : List (UpdateMap P T V Q D)}
    {current : UpdateMap P T V Q D} (h : Worker s earlier current)
    (hcurrent : current.pc = .returned) : ∀ u ∈ s.updateMaps, u.pc = .returned := by
  intro u hu
  rw [h.updateMaps] at hu
  rcases List.mem_append.mp hu with hu | hu
  · exact h.returned u hu
  · rw [List.mem_singleton.mp hu]
    exact hcurrent

/-- At most one thread is running. -/
theorem Phase.running_unique (h : Phase config s) {j k : Nat} (hj : s.Running j)
    (hk : s.Running k) : j = k := by
  obtain ⟨u, hu, hpc⟩ := hj
  obtain ⟨u', hu', hpc'⟩ := hk
  obtain ⟨earlier, rfl, -, hbusy, -⟩ := h.of_running hu hpc
  exact (hbusy.toWorker.of_running hu' hpc').1.symm

/-- Where `mapping_task_` and `mapping_thread_` are assigned, the thread has been
detached and every task has returned. -/
theorem Phase.settled_of_reassigns (h : Phase config s) (hs : s.Reassigns) :
    s.mappingThread = none ∧ ∀ k, ¬ s.Running k := by
  have hresting : Resting config s := by
    rcases hs with ⟨cloud, finalTransformation, hcallback⟩ | hcallback
    · exact h.resting_of_assignTask hcallback
    · exact (h.resting_of_startThread hcallback).1
  exact ⟨hresting.thread, not_running hresting.returned⟩

/-- Where `targeted_cloud_` is read, every task has returned. -/
theorem Phase.settled_of_reads (h : Phase config s) (hs : s.ReadsTargetedCloud) (k : Nat) :
    ¬ s.Running k := by
  obtain ⟨cloud, hcallback⟩ := hs
  obtain ⟨-, earlier, current, busy, callback⟩ :=
    h.busy_of (by rw [hcallback]; exact id) (fun _ _ => by rw [hcallback]; exact id)
  rw [hcallback] at callback
  exact not_running (busy.toWorker.all_returned callback.2) k

/-- Nothing undefined happens on either side. -/
theorem Phase.defined (h : Phase config s) :
    s.callback ≠ .undefined ∧ ∀ u ∈ s.updateMaps, u.pc ≠ .undefined := by
  constructor
  · intro hcallback
    cases h with
    | fresh callback => rw [hcallback] at callback; cases callback
    | resting _ callback => rw [hcallback] at callback; exact callback
    | busy _ _ callback => rw [hcallback] at callback; exact callback
    | collected _ _ _ _ _ callback => rw [hcallback] at callback; exact callback
  · intro u hu hpc
    obtain ⟨k, hk⟩ := List.mem_iff_getElem?.mp hu
    obtain ⟨earlier, -, -, hbusy, -⟩ := h.of_running hk (by rw [hpc]; simp)
    have hholds := hbusy.holds
    obtain ⟨task, pc⟩ := u
    cases hpc
    exact hholds

/-- The clouds of all threads but the last are installed, each once and in order,
and only of threads that have returned. -/
theorem Phase.exists_installed (h : Phase config s) (hreceived : s.initialCloudReceived = true) :
    ∃ n, s.Installed config n ∧ n ≤ s.updateMaps.length ∧ s.updateMaps.length ≤ n + 1 ∧
      ∀ k < n, ¬ s.Running k := by
  cases h with
  | fresh _ received => rw [received] at hreceived; cases hreceived
  | resting _ _ _ _ _ returned _ installed =>
    exact ⟨_, installed, Nat.le_refl _, Nat.le_succ _, fun k _ => not_running returned k⟩
  | @busy earlier current _ busy =>
    have hlength : s.updateMaps.length = earlier.length + 1 := by rw [busy.updateMaps]; simp
    refine ⟨earlier.length, busy.installed, by omega, by omega, fun k hk => ?_⟩
    rintro ⟨u, hu, hpc⟩
    have heq := (busy.toWorker.of_running hu hpc).1
    omega
  | @collected earlier current _ worker returned _ installed =>
    have hlength : s.updateMaps.length = earlier.length + 1 := by rw [worker.updateMaps]; simp
    exact ⟨_, installed, by omega, by omega,
      fun k _ => not_running (worker.all_returned returned) k⟩

/-- While the `k`-th thread builds its targeted cloud there are `k + 1` submaps. -/
theorem Phase.length_submaps (h : Phase config s) {k : Nat} {u : UpdateMap P T V Q D}
    (hk : s.updateMaps[k]? = some u) (hbuilds : u.pc.Builds) : s.submaps.length = k + 1 := by
  obtain ⟨earlier, rfl, -, hbusy, -⟩ :=
    h.of_running hk (fun hpc => by rw [hpc] at hbuilds; exact hbuilds)
  have hholds := hbusy.holds
  obtain ⟨task, pc⟩ := u
  cases pc with
  | clear => exact hholds.1
  | appendScan => exact hholds.1
  | readSize => exact hholds.1
  | loop numSubmaps i => exact hholds.1
  | _ => exact hbuilds.elim

/-- What the handshake guarantees in a state of the node. -/
structure Coordinated (config : ScanMatcherConfig P T V Q D) (s : ScanMatcher P T V Q D) :
    Prop where
  /-- At most one thread is running. -/
  oneRunning : ∀ j k, s.Running j → s.Running k → j = k
  /-- `mapping_task_` and `mapping_thread_` are assigned over only when the thread
  has been detached and every task has returned. -/
  reassigned : s.Reassigns → s.mappingThread = none ∧ ∀ k, ¬ s.Running k
  /-- `targeted_cloud_` is read by the callback only when no thread is running. -/
  read : s.ReadsTargetedCloud → ∀ k, ¬ s.Running k
  /-- No thread operation is undefined, and no submap index is out of range. -/
  defined : s.callback ≠ .undefined ∧ ∀ u ∈ s.updateMaps, u.pc ≠ .undefined
  /-- The input targets are the first map and, each once and in order, the targeted
  clouds of the threads that have returned, except that the last one started may
  not be installed yet. -/
  installed : s.initialCloudReceived = true → ∃ n, s.Installed config n ∧
    n ≤ s.updateMaps.length ∧ s.updateMaps.length ≤ n + 1 ∧ ∀ k < n, ¬ s.Running k
  /-- The `k`-th thread builds its cloud from `k + 1` submaps. -/
  submaps : ∀ k u, s.updateMaps[k]? = some u → u.pc.Builds → s.submaps.length = k + 1

/-- **The map-update handshake**, in every state of every run, whether the node gets its
initial pose in a message or is started with `set_initial_pose`. -/
theorem mapUpdate_handshake [Zero D] [Sub V] [Add D] [LE D] {emptyPose initialPose : Pose V Q}
    {trans : D} {memory : Memory V D}
    (h : (scanMatcherMachine config initialPose trans).Reachable t ∨
      (parametersMachine config emptyPose initialPose memory).Reachable t) :
    Coordinated config t where
  oneRunning _ _ hj hk := (phase_of_reachable h).running_unique hj hk
  reassigned := (phase_of_reachable h).settled_of_reassigns
  read := (phase_of_reachable h).settled_of_reads
  defined := (phase_of_reachable h).defined
  installed := (phase_of_reachable h).exists_installed
  submaps _ _ hk hbuilds := (phase_of_reachable h).length_submaps hk hbuilds

end Results

/-! ## A robot on a line -/

/-- Scans, poses and distances on a line. -/
def lineConfig (numTargetedCloud : { n : Int // 1 ≤ n }) :
    ScanMatcherConfig Int Int Int Unit Int where
  registrationMethod := "NDT"
  transForMapupdate := 1
  numTargetedCloud := numTargetedCloud
  voxelGridInput := id
  voxelGridMap := id
  transformPointCloud shift cloud := cloud.map (· + shift)
  transformSubmap pose cloud := cloud.map (· + pose.position)
  getTransformation pose := pose.position
  position := id
  orientation _ := ()
  norm v := v.natAbs

/-- One map update, from its trigger to the installation of its cloud: the scan in
the map frame, then the first submap. -/
theorem mapUpdate_handshake_line :
    let config := lineConfig (enforcedNumTargetedCloud 2)
    let pose : Pose Int Unit := { position := 0, orientation := () }
    let actions := [.receive [7], .testMapping, .publish 2, .testTrigger, .assignTask,
      .startThread, .raiseFlag, .clear 0, .appendScan 0, .readSize 0, .appendSubmap 0,
      .appendSubmap 0, .addDistance 0, .pushSubmap 0, .raiseUpdated 0, .finish 0,
      .receive [9], .testMapping, .testFuture, .testUpdated, .setInputTarget]
    ∃ s t, (scanMatcherMachine config pose 0).Run (.initial pose 0) actions s ∧
      s.inputTargets = [[7], [9, 7]] ∧ Coordinated config s ∧
      (parametersMachine config pose pose ⟨5, 3⟩).Run
        ((ScanMatcher.constructed pose ⟨5, 3⟩).setInitialPose pose) actions t ∧
      t.inputTargets = [[7], [9, 7]] ∧ Coordinated config t := by
  intro config pose actions
  have hmessage : (scanMatcherMachine config pose 0).Run (.initial pose 0) actions _ :=
    .cons (.firstCloud rfl rfl) <| .cons (.testMapping rfl) <| .cons (.publish rfl) <|
    .cons (.trigger rfl ⟨by decide, rfl⟩) <| .cons (.assignTask rfl) <|
    .cons (.startThread rfl rfl) <| .cons (.raiseFlag rfl) <| .cons (.clear rfl) <|
    .cons (.appendScan rfl) <| .cons (.readSize rfl) <| .cons (.appendSubmap rfl) <|
    .cons (.appendSubmap rfl) <| .cons (.addDistance rfl) <| .cons (.pushSubmap rfl) <|
    .cons (.raiseUpdated rfl) <| .cons (.finish rfl) <| .cons (.nextCloud rfl rfl) <|
    .cons (.testMapping rfl) <| .cons (.testFuture rfl rfl) <| .cons (.testUpdated rfl) <|
    .cons (.setInputTarget rfl) <| .nil _
  have hparameters : (parametersMachine config pose pose ⟨5, 3⟩).Run
      ((ScanMatcher.constructed pose ⟨5, 3⟩).setInitialPose pose) actions _ :=
    .cons (.firstCloud rfl rfl) <| .cons (.testMapping rfl) <| .cons (.publish rfl) <|
    .cons (.trigger rfl ⟨by decide, rfl⟩) <| .cons (.assignTask rfl) <|
    .cons (.startThread rfl rfl) <| .cons (.raiseFlag rfl) <| .cons (.clear rfl) <|
    .cons (.appendScan rfl) <| .cons (.readSize rfl) <| .cons (.appendSubmap rfl) <|
    .cons (.appendSubmap rfl) <| .cons (.addDistance rfl) <| .cons (.pushSubmap rfl) <|
    .cons (.raiseUpdated rfl) <| .cons (.finish rfl) <| .cons (.nextCloud rfl rfl) <|
    .cons (.testMapping rfl) <| .cons (.testFuture rfl rfl) <| .cons (.testUpdated rfl) <|
    .cons (.setInputTarget rfl) <| .nil _
  have hs := mapUpdate_handshake (.inl (hmessage.reachable (.init rfl)) :
    (scanMatcherMachine config pose 0).Reachable _ ∨
      (parametersMachine config pose pose ⟨5, 3⟩).Reachable _)
  have ht := mapUpdate_handshake (.inr (hparameters.reachable (.init rfl)) :
    (scanMatcherMachine config pose 0).Reachable _ ∨
      (parametersMachine config pose pose ⟨5, 3⟩).Reachable _)
  exact ⟨_, _, hmessage, by decide, hs, hparameters, by decide, ht⟩

end RoboRacer.Slam
