/-
  Slam/InitialPose.lean --- the two ways to give the mapping node its initial pose
  (`lidarslam_ros2/scanmatcher/src/scanmatcher_component.cpp`: the constructor,
  `initial_pose_callback`, `publishMapAndPose`, `updateMap`).

  `set_initial_pose` lets the constructor set the current pose; a message lets the callback
  set the current pose and `previous_position_`.  Neither that member nor `trans_` has an
  initialiser, so that a node keeps in it what its memory holds until it is assigned.

      ReadsWritten                  every read is of a member that has been assigned
      initialPose_paths_agree_iff   when the two nodes do the same
      matched_of_displacements      what of the memory makes them do so

  The steps of the node are those of Slam/ScanMatcher.lean.
-/
import RoboRacer.Slam.MapHandshake

set_option autoImplicit false

namespace RoboRacer.Slam

open RoboRacer.Foundation

variable {P T V Q D : Type}

/-! ## The two ways -/

namespace ScanMatcher

/-- `initial_pose_callback`, for a message in the global frame. -/
def initialPoseCallback (s : ScanMatcher P T V Q D) (pose : Pose V Q) : ScanMatcher P T V Q D :=
  { s with correntPose := pose, previousPosition := pose.position }

/-- The node that gets a message before the first scan. -/
theorem initialPoseCallback_constructed [Zero D] (emptyPose pose : Pose V Q)
    (memory : Memory V D) :
    (constructed emptyPose memory : ScanMatcher P T V Q D).initialPoseCallback pose =
      initial pose memory.trans :=
  rfl

end ScanMatcher

/-! ## Members that have been assigned -/

/-- Which of the two members have been assigned. -/
structure Written where
  previousPosition : Bool
  trans : Bool

namespace Written

/-- The assignments of a step. -/
def after (w : Written) : MapAction P T → Written
  | .publish _ => { w with trans := true }
  | .assignTask => { w with previousPosition := true }
  | _ => w

/-- The members that a step reads have been assigned. -/
def Covers (w : Written) : MapAction P T → Prop
  | .publish _ => w.previousPosition = true
  | .testTrigger => w.trans = true
  | .addDistance _ => w.trans = true
  | _ => True

end Written

/-- Every step reads assigned members only, when `w` are assigned before. -/
def ReadsWritten (w : Written) (actions : List (MapAction P T)) : Prop :=
  ∀ earlier e, earlier ++ [e] <+: actions → (earlier.foldl Written.after w).Covers e

/-- The run of a node is one in which all reads are of assigned members, and the node that
got `pose` in a message has a run of the same steps, which starts `updateMap` for the same
scans and records the same submaps. -/
structure AgreesWithMessage [Zero D] [Sub V] [Add D] [LE D] (config : ScanMatcherConfig P T V Q D)
    (pose : Pose V Q) (trans : D) (actions : List (MapAction P T)) (s : ScanMatcher P T V Q D) :
    Prop where
  readsWritten : ReadsWritten ⟨false, false⟩ actions
  matched : ∃ t, (scanMatcherMachine config pose trans).Run (.initial pose trans) actions t ∧
    t.updateMaps = s.updateMaps ∧ t.submaps = s.submaps

/-! ## Before the first map update -/

/-- No scan is being handled, or it has not been registered yet. -/
def CallbackPc.Registering : CallbackPc P T → Prop
  | .idle => True
  | .testMapping _ => True
  | .align _ => True
  | _ => False

/-- A scan has been registered, and the map update is being decided. -/
def CallbackPc.Deciding : CallbackPc P T → Prop
  | .testTrigger _ _ => True
  | .assignTask _ _ => True
  | _ => False

/-- No map update has been started. -/
structure NoUpdate (s : ScanMatcher P T V Q D) : Prop where
  updateMaps : s.updateMaps = []
  mappingFlag : s.mappingFlag = false
  callback : s.callback.Registering ∨ s.callback.Deciding

/-- No scan has been registered. -/
structure NoScan (s : ScanMatcher P T V Q D) : Prop extends NoUpdate s where
  registering : s.callback.Registering

/-- The steps before the first map update. -/
inductive FirstStep [Zero D] [Sub V] [LE D] (config : ScanMatcherConfig P T V Q D)
    (s : ScanMatcher P T V Q D) : MapAction P T → ScanMatcher P T V Q D → Prop
  | firstCloud {cloud : List P} :
      s.callback = .idle → s.initialCloudReceived = false →
      FirstStep config s (.receive cloud) (s.createFirstMap config cloud)
  | nextCloud {cloud : List P} :
      s.callback = .idle → s.initialCloudReceived = true →
      FirstStep config s (.receive cloud) { s with callback := .testMapping cloud }
  | testMapping {cloud : List P} :
      s.callback = .testMapping cloud →
      FirstStep config s .testMapping { s with callback := .align cloud }
  | publish {cloud : List P} {finalTransformation : T} :
      s.callback = .align cloud →
      FirstStep config s (.publish finalTransformation)
        (s.publish config cloud finalTransformation)
  | trigger {cloud : List P} {finalTransformation : T} :
      s.callback = .testTrigger cloud finalTransformation →
      config.transForMapupdate ≤ s.trans →
      FirstStep config s .testTrigger { s with callback := .assignTask cloud finalTransformation }
  | noTrigger {cloud : List P} {finalTransformation : T} :
      s.callback = .testTrigger cloud finalTransformation →
      ¬ config.transForMapupdate ≤ s.trans →
      FirstStep config s .testTrigger { s with callback := .idle }
  | assignTask {cloud : List P} {finalTransformation : T} :
      s.callback = .assignTask cloud finalTransformation →
      FirstStep config s .assignTask (s.assignTask config cloud finalTransformation)

namespace ScanMatcher

/-- The members without an initialiser hold something else. -/
def withMemory (s : ScanMatcher P T V Q D) (memory : Memory V D) : ScanMatcher P T V Q D :=
  { s with previousPosition := memory.previousPosition, trans := memory.trans }

end ScanMatcher

section Steps

variable [Zero D] [Sub V] [Add D] [LE D] {config : ScanMatcherConfig P T V Q D}
  {s t : ScanMatcher P T V Q D} {l : MapAction P T}

omit [Zero D] [Sub V] [Add D] [LE D] in
/-- The callback of a node without an update is at one of five places. -/
theorem NoUpdate.not_callback (h : NoUpdate s) {pc : CallbackPc P T} (hpc : s.callback = pc)
    (hregistering : ¬ pc.Registering) (hdeciding : ¬ pc.Deciding) : False := by
  rcases h.callback with hat | hat
  · exact hregistering (hpc ▸ hat)
  · exact hdeciding (hpc ▸ hat)

omit [Zero D] [Sub V] [Add D] [LE D] in
theorem NoUpdate.not_thread (h : NoUpdate s) {k : Nat} {thread : UpdateMap P T V Q D}
    (hk : s.updateMaps[k]? = some thread) : False := by
  rw [h.updateMaps] at hk
  cases hk

/-- Before the first map update no step is one of a background thread, and none looks at
one. -/
theorem NoUpdate.firstStep (h : NoUpdate s) (hs : MapStep config s l t) :
    FirstStep config s l t := by
  cases hs with
  | firstCloud hidle hfirst => exact .firstCloud hidle hfirst
  | nextCloud hidle hnext => exact .nextCloud hidle hnext
  | testMapping hpc =>
    rw [if_neg (by simp [h.mappingFlag])]
    exact .testMapping hpc
  | publish hpc => exact .publish hpc
  | trigger hpc hmoved => exact .trigger hpc hmoved.1
  | noTrigger hpc hmoved => exact .noTrigger hpc fun hle => hmoved ⟨hle, h.mappingFlag⟩
  | assignTask hpc => exact .assignTask hpc
  | testFuture hpc => exact (h.not_callback hpc id id).elim
  | testUpdated hpc => exact (h.not_callback hpc id id).elim
  | setInputTarget hpc => exact (h.not_callback hpc id id).elim
  | clearUpdated hpc => exact (h.not_callback hpc id id).elim
  | clearFlag hpc => exact (h.not_callback hpc id id).elim
  | detach hpc => exact (h.not_callback hpc id id).elim
  | startThread hpc => exact (h.not_callback hpc id id).elim
  | raiseFlag hpc => exact (h.not_callback hpc id id).elim
  | clear hk => exact (h.not_thread hk).elim
  | appendScan hk => exact (h.not_thread hk).elim
  | readSize hk => exact (h.not_thread hk).elim
  | appendSubmap hk => exact (h.not_thread hk).elim
  | addDistance hk => exact (h.not_thread hk).elim
  | pushSubmap hk => exact (h.not_thread hk).elim
  | raiseUpdated hk => exact (h.not_thread hk).elim
  | finish hk => exact (h.not_thread hk).elim

omit [Add D] in
/-- Nothing but `assignTask` ends the time before the first map update. -/
theorem FirstStep.noUpdate (h : NoUpdate s) (hs : FirstStep config s l t)
    (hassign : l ≠ .assignTask) : NoUpdate t := by
  cases hs with
  | firstCloud => exact ⟨h.updateMaps, h.mappingFlag, .inl trivial⟩
  | nextCloud => exact ⟨h.updateMaps, h.mappingFlag, .inl trivial⟩
  | testMapping => exact ⟨h.updateMaps, h.mappingFlag, .inl trivial⟩
  | publish => exact ⟨h.updateMaps, h.mappingFlag, .inr trivial⟩
  | trigger => exact ⟨h.updateMaps, h.mappingFlag, .inr trivial⟩
  | noTrigger => exact ⟨h.updateMaps, h.mappingFlag, .inl trivial⟩
  | assignTask => exact absurd rfl hassign

/-- Until a scan is registered, scans are received and go to registration. -/
theorem NoScan.step (h : NoScan s) (hs : MapStep config s l t) :
    (∃ finalTransformation, l = .publish finalTransformation) ∨
      (NoScan t ∧ ((∃ cloud, l = .receive cloud) ∨ l = .testMapping)) := by
  have hregistering := h.registering
  have hfirst := h.toNoUpdate.firstStep hs
  have hnext := hfirst.noUpdate h.toNoUpdate
  cases hfirst with
  | publish => exact .inl ⟨_, rfl⟩
  | firstCloud => exact .inr ⟨⟨hnext (by simp), trivial⟩, .inl ⟨_, rfl⟩⟩
  | nextCloud => exact .inr ⟨⟨hnext (by simp), trivial⟩, .inl ⟨_, rfl⟩⟩
  | testMapping => exact .inr ⟨⟨hnext (by simp), trivial⟩, .inr rfl⟩
  | trigger hpc =>
    rw [hpc] at hregistering
    exact hregistering.elim
  | noTrigger hpc =>
    rw [hpc] at hregistering
    exact hregistering.elim
  | assignTask hpc =>
    rw [hpc] at hregistering
    exact hregistering.elim

/-- A node with other memory takes the same step, when a scan that is registered has moved
as far from either position, and when the displacement is the same where it is looked at. -/
theorem FirstStep.withMemory (h : NoUpdate s) (hs : FirstStep config s l t)
    (memory : Memory V D) (htrans : s.callback.Deciding → memory.trans = s.trans)
    (hnorm : ∀ finalTransformation, l = .publish finalTransformation →
      config.norm (config.position finalTransformation - s.previousPosition) =
        config.norm (config.position finalTransformation - memory.previousPosition)) :
    (l = .assignTask ∧ MapStep config (s.withMemory memory) l t) ∨
      (l ≠ .assignTask ∧ t.previousPosition = s.previousPosition ∧ ∃ trans,
        MapStep config (s.withMemory memory) l
          (t.withMemory ⟨memory.previousPosition, trans⟩) ∧
        (t.callback.Deciding → trans = t.trans)) := by
  cases hs with
  | firstCloud hidle hfirst =>
    exact .inr ⟨by simp, rfl, memory.trans, .firstCloud hidle hfirst, False.elim⟩
  | nextCloud hidle hnext =>
    exact .inr ⟨by simp, rfl, memory.trans, .nextCloud hidle hnext, False.elim⟩
  | testMapping hpc =>
    refine .inr ⟨by simp, rfl, memory.trans, ?_, False.elim⟩
    have hstep : MapStep config (s.withMemory memory) .testMapping _ := .testMapping hpc
    rwa [if_neg (by simp [ScanMatcher.withMemory, h.mappingFlag])] at hstep
  | @publish cloud finalTransformation hpc =>
    refine .inr ⟨by simp, rfl, (s.publish config cloud finalTransformation).trans, ?_,
      fun _ => rfl⟩
    have hstep : MapStep config (s.withMemory memory) (.publish finalTransformation) _ :=
      .publish hpc
    have hsame : (s.withMemory memory).publish config cloud finalTransformation =
        (s.publish config cloud finalTransformation).withMemory
          ⟨memory.previousPosition, (s.publish config cloud finalTransformation).trans⟩ := by
      simp only [ScanMatcher.publish, ScanMatcher.withMemory, hnorm finalTransformation rfl]
    exact hsame ▸ hstep
  | @trigger cloud finalTransformation hpc hmoved =>
    have htrans' : memory.trans = s.trans := htrans (hpc ▸ trivial)
    refine .inr ⟨by simp, rfl, memory.trans, .trigger hpc ⟨?_, h.mappingFlag⟩, fun _ => htrans'⟩
    exact le_of_le_of_eq hmoved htrans'.symm
  | noTrigger hpc hmoved =>
    have htrans' : memory.trans = s.trans := htrans (hpc ▸ trivial)
    refine .inr ⟨by simp, rfl, memory.trans, .noTrigger hpc fun hle => hmoved ?_, False.elim⟩
    exact le_of_le_of_eq hle.1 htrans'
  | @assignTask cloud finalTransformation hpc =>
    have htrans' : memory.trans = s.trans := htrans (hpc ▸ trivial)
    refine .inl ⟨rfl, ?_⟩
    have hstep : MapStep config (s.withMemory memory) .assignTask _ := .assignTask hpc
    have hsame : (s.withMemory memory).assignTask config cloud finalTransformation =
        s.assignTask config cloud finalTransformation := by
      simp only [ScanMatcher.assignTask, ScanMatcher.withMemory, htrans']
      rfl
    exact hsame ▸ hstep

end Steps

/-! ## Runs -/

/-- Before its first map update a node has measured from `start`, and another one that has
measured from `start'` is at the same place. -/
structure Follows (start start' : V) (s t : ScanMatcher P T V Q D) : Prop where
  noUpdate : NoUpdate s
  previousPosition : s.previousPosition = start
  withMemory : ∃ trans, (s.callback.Deciding → trans = s.trans) ∧
    t = s.withMemory ⟨start', trans⟩

section Runs

variable [Zero D] [Sub V] [Add D] [LE D] {config : ScanMatcherConfig P T V Q D}
  {emptyPose pose : Pose V Q} {memory : Memory V D} {actions : List (MapAction P T)}
  {s s₀ t₀ : ScanMatcher P T V Q D}

/-- The step lemma of the two nodes: what one does the other does, and behind the first map
update they are the same. -/
theorem Follows.step {start start' : V} {t u : ScanMatcher P T V Q D} {l : MapAction P T}
    (h : Follows start start' s t) (hs : MapStep config s l u)
    (hnorm : ∀ finalTransformation, l = .publish finalTransformation →
      config.norm (config.position finalTransformation - start) =
        config.norm (config.position finalTransformation - start')) :
    ∃ v, MapStep config t l v ∧ ((l ≠ .assignTask ∧ Follows start start' u v) ∨ v = u) := by
  obtain ⟨hno, rfl, trans, htrans, rfl⟩ := h
  have hfirst := hno.firstStep hs
  rcases hfirst.withMemory hno ⟨start', trans⟩ htrans hnorm with
    ⟨-, hstep⟩ | ⟨hassign, hprevious, trans', hstep, htrans'⟩
  · exact ⟨u, hstep, .inr rfl⟩
  · exact ⟨_, hstep, .inl ⟨hassign, hfirst.noUpdate hno hassign, hprevious, trans', htrans', rfl⟩⟩

/-- The run lemma of the two nodes. -/
theorem Follows.run {start start' : V} (trans : D) (h₀ : Follows start start' s₀ t₀)
    (h : (parametersMachine config emptyPose pose memory).Run s₀ actions s)
    (hnorm : ∀ earlier finalTransformation, earlier ++ [.publish finalTransformation] <+: actions →
      .assignTask ∉ earlier →
      config.norm (config.position finalTransformation - start) =
        config.norm (config.position finalTransformation - start')) :
    ∃ t, (scanMatcherMachine config pose trans).Run t₀ actions t ∧
      ((.assignTask ∉ actions ∧ Follows start start' s t) ∨ t = s) := by
  induction h with
  | nil => exact ⟨t₀, .nil t₀, .inl ⟨List.not_mem_nil, h₀⟩⟩
  | @snoc s' u actions l hrun hlast ih =>
    obtain ⟨t, ht, hrel⟩ := ih fun earlier finalTransformation hpre =>
      hnorm earlier finalTransformation (hpre.trans (List.prefix_append ..))
    rcases hrel with ⟨hassign, hfollows⟩ | rfl
    · have hstep : MapStep config s' l u := hlast
      obtain ⟨v, hv, hrel⟩ := hfollows.step hstep fun finalTransformation hl =>
        hnorm actions finalTransformation (hl ▸ List.prefix_rfl) hassign
      refine ⟨v, ht.snoc hv, hrel.imp_left fun ⟨hl, hnext⟩ => ⟨?_, hnext⟩⟩
      rw [List.mem_append, List.mem_singleton]
      exact not_or.mpr ⟨hassign, hl.symm⟩
    · exact ⟨u, ht.snoc hlast, .inr rfl⟩

omit [Sub V] [Add D] [LE D] in
/-- A node that has just got its pose. -/
theorem noScan_setInitialPose (emptyPose pose : Pose V Q) (memory : Memory V D) :
    NoScan ((ScanMatcher.constructed emptyPose memory : ScanMatcher P T V Q D).setInitialPose
      pose) :=
  ⟨⟨rfl, rfl, .inl trivial⟩, trivial⟩

/-- **The memory that makes the parameters do what the message does.**

If every scan that is registered before the first map update has moved as far from the
position that the memory holds as from the initial one, the two nodes have the same runs
and record the same submaps. -/
theorem matched_of_displacements (trans : D)
    (h : (parametersMachine config emptyPose pose memory).Run
      ((ScanMatcher.constructed emptyPose memory).setInitialPose pose) actions s)
    (hnorm : ∀ earlier finalTransformation, earlier ++ [.publish finalTransformation] <+: actions →
      .assignTask ∉ earlier →
      config.norm (config.position finalTransformation - memory.previousPosition) =
        config.norm (config.position finalTransformation - pose.position)) :
    ∃ t, (scanMatcherMachine config pose trans).Run (.initial pose trans) actions t ∧
      t.updateMaps = s.updateMaps ∧ t.submaps = s.submaps := by
  have hstart : Follows memory.previousPosition pose.position
      ((ScanMatcher.constructed emptyPose memory : ScanMatcher P T V Q D).setInitialPose pose)
      (.initial pose trans) :=
    ⟨(noScan_setInitialPose emptyPose pose memory).toNoUpdate, rfl, trans, False.elim, rfl⟩
  obtain ⟨t, ht, ⟨-, hfollows⟩ | rfl⟩ := hstart.run trans h hnorm
  · obtain ⟨trans', -, rfl⟩ := hfollows.withMemory
    exact ⟨_, ht, rfl, rfl⟩
  · exact ⟨_, ht, rfl, rfl⟩

end Runs

/-! ## What a run reads -/

theorem readsWritten_concat_iff {w : Written} {actions : List (MapAction P T)}
    {l : MapAction P T} :
    ReadsWritten w (actions ++ [l]) ↔
      ReadsWritten w actions ∧ (actions.foldl Written.after w).Covers l :=
  Machine.forall_prefix_concat

theorem readsWritten_nil {w : Written} : ReadsWritten w ([] : List (MapAction P T)) :=
  fun _ _ hpre => absurd hpre Machine.not_prefix_nil

section Reads

variable [Zero D] [Sub V] [Add D] [LE D] {config : ScanMatcherConfig P T V Q D}
  {emptyPose pose : Pose V Q} {memory : Memory V D} {actions : List (MapAction P T)}
  {s s₀ : ScanMatcher P T V Q D}

/-- A run that registers no scan assigns neither member, and reads neither. -/
theorem NoScan.run {w : Written} (h₀ : NoScan s₀)
    (h : (parametersMachine config emptyPose pose memory).Run s₀ actions s)
    (hpublish : ∀ finalTransformation, .publish finalTransformation ∉ actions) :
    NoScan s ∧ actions.foldl Written.after w = w := by
  induction h with
  | nil => exact ⟨h₀, rfl⟩
  | @snoc s' u actions l hrun hlast ih =>
    obtain ⟨hscan, hw⟩ := ih fun finalTransformation hmem =>
      hpublish finalTransformation (List.mem_append_left _ hmem)
    have hstep : MapStep config s' l u := hlast
    rw [List.foldl_append, hw]
    rcases hscan.step hstep with ⟨finalTransformation, rfl⟩ | ⟨hnext, ⟨cloud, rfl⟩ | rfl⟩
    · exact absurd (List.mem_append_right _ (List.mem_singleton_self _))
        (hpublish finalTransformation)
    · exact ⟨hnext, rfl⟩
    · exact ⟨hnext, rfl⟩

/-- With neither member assigned, the first scan that is registered reads one of them. -/
theorem readsWritten_iff (h₀ : NoScan s₀)
    (h : (parametersMachine config emptyPose pose memory).Run s₀ actions s) :
    ReadsWritten ⟨false, false⟩ actions ↔
      ∀ finalTransformation, .publish finalTransformation ∉ actions := by
  induction h with
  | nil => exact iff_of_true readsWritten_nil fun _ => List.not_mem_nil
  | @snoc s' u actions l hrun hlast ih =>
    rw [readsWritten_concat_iff, ih]
    simp only [List.mem_append, List.mem_singleton, not_or, forall_and]
    refine and_congr_right fun hpublish => ?_
    obtain ⟨hscan, hw⟩ := h₀.run hrun hpublish
    have hstep : MapStep config s' l u := hlast
    rw [hw]
    rcases hscan.step hstep with ⟨finalTransformation, rfl⟩ | ⟨-, ⟨cloud, rfl⟩ | rfl⟩
    · exact iff_of_false (by simp [Written.Covers]) fun h => h finalTransformation rfl
    · exact iff_of_true trivial (by simp)
    · exact iff_of_true trivial (by simp)

/-- When both members are assigned every read is of an assigned one, and they stay assigned. -/
theorem Written.covers_of_both {w : Written} (h : w.previousPosition = true ∧ w.trans = true)
    (l : MapAction P T) :
    w.Covers l ∧ (w.after l).previousPosition = true ∧ (w.after l).trans = true := by
  cases l with
  | publish => exact ⟨h.1, h.1, rfl⟩
  | assignTask => exact ⟨trivial, rfl, h.2⟩
  | testTrigger => exact ⟨h.2, h⟩
  | addDistance => exact ⟨h.2, h⟩
  | _ => exact ⟨trivial, h⟩

/-- **The message initialises what a run reads.**  The first registration, which the reads
of `trans_` come behind, has assigned it. -/
theorem readsWritten_of_message {trans : D}
    (h : (scanMatcherMachine config pose trans).Run (.initial pose trans) actions s) :
    ReadsWritten ⟨true, false⟩ actions := by
  suffices hinv : ReadsWritten ⟨true, false⟩ actions ∧
      (((actions.foldl Written.after ⟨true, false⟩).previousPosition = true ∧
        (actions.foldl Written.after ⟨true, false⟩).trans = true) ∨
      (NoScan s ∧ actions.foldl Written.after ⟨true, false⟩ = ⟨true, false⟩)) from hinv.1
  generalize hstart : ScanMatcher.initial pose trans = s₀ at h
  induction h with
  | nil =>
    subst hstart
    exact ⟨readsWritten_nil, .inr ⟨⟨⟨rfl, rfl, .inl trivial⟩, trivial⟩, rfl⟩⟩
  | @snoc s' u actions l hrun hlast ih =>
    obtain ⟨hreads, hwritten⟩ := ih
    have hstep : MapStep config s' l u := hlast
    rw [readsWritten_concat_iff, List.foldl_append]
    rcases hwritten with hboth | ⟨hscan, hw⟩
    · obtain ⟨hcovers, hafter⟩ := Written.covers_of_both hboth l
      exact ⟨⟨hreads, hcovers⟩, .inl hafter⟩
    · rw [hw]
      rcases hscan.step hstep with ⟨finalTransformation, rfl⟩ | ⟨hnext, ⟨cloud, rfl⟩ | rfl⟩
      · exact ⟨⟨hreads, rfl⟩, .inl ⟨rfl, rfl⟩⟩
      · exact ⟨⟨hreads, trivial⟩, .inr ⟨hnext, rfl⟩⟩
      · exact ⟨⟨hreads, trivial⟩, .inr ⟨hnext, rfl⟩⟩

/-- **When the two ways to set the initial pose agree.**

For every pose, all contents of the memory and every run of the mapping node that is
started with `set_initial_pose`, all reads are of members that have been assigned and the
node that gets the pose as a message does the same, if and only if the run registers no
scan.  The first registration measures from a position that only the message sets. -/
theorem initialPose_paths_agree_iff (trans : D)
    (h : (parametersMachine config emptyPose pose memory).Run
      ((ScanMatcher.constructed emptyPose memory).setInitialPose pose) actions s) :
    AgreesWithMessage config pose trans actions s ↔
      ∀ finalTransformation, .publish finalTransformation ∉ actions := by
  have hreads := readsWritten_iff (noScan_setInitialPose emptyPose pose memory) h
  constructor
  · intro hagrees
    exact hreads.mp hagrees.readsWritten
  · intro hpublish
    refine ⟨hreads.mpr hpublish, ?_⟩
    refine matched_of_displacements trans h fun earlier finalTransformation hpre _ => ?_
    exact absurd (hpre.subset (List.mem_append_right _ (List.mem_singleton_self _)))
      (hpublish finalTransformation)

end Reads

/-! ### A robot on a line -/

/-- The first scan is received and passes the test of the mapping flag, as with the message;
its registration measures from a position that nothing has set. -/
theorem initialPose_paths_agree_line :
    let config := lineConfig (enforcedNumTargetedCloud 1)
    let pose : Pose Int Unit := { position := 2, orientation := () }
    let machine := parametersMachine config pose pose ⟨0, 5⟩
    let start := (ScanMatcher.constructed pose ⟨0, 5⟩).setInitialPose pose
    ∃ tested registered,
      machine.Run start [.receive [], .testMapping] tested ∧
      AgreesWithMessage config pose 7 [.receive [], .testMapping] tested ∧
      machine.Run start [.receive [], .testMapping, .publish 2] registered ∧
      ¬ AgreesWithMessage config pose 7 [.receive [], .testMapping, .publish 2] registered := by
  intro config pose machine start
  have htested : machine.Run start [.receive [], .testMapping] _ :=
    .cons (.firstCloud rfl rfl) <| .cons (.testMapping rfl) <| .nil _
  have hregistered : machine.Run start [.receive [], .testMapping, .publish 2] _ :=
    .cons (.firstCloud rfl rfl) <| .cons (.testMapping rfl) <| .cons (.publish rfl) <| .nil _
  refine ⟨_, _, htested, ?_, hregistered, fun hagrees => ?_⟩
  · exact (initialPose_paths_agree_iff 7 htested).mpr (by simp)
  · exact (initialPose_paths_agree_iff 7 hregistered).mp hagrees 2 (by simp)

/-- The initial pose is at 2 and the memory holds 0: a scan that has not moved starts a map
update, which the node that got the pose in a message does not start. -/
theorem memory_starts_updateMap :
    ¬ ∀ (pose : Pose Int Unit) (memory : Memory Int Int) (actions : List (MapAction Int Int))
      (s : ScanMatcher Int Int Int Unit Int),
      (parametersMachine (lineConfig (enforcedNumTargetedCloud 1)) pose pose memory).Run
        ((ScanMatcher.constructed pose memory).setInitialPose pose) actions s →
      AgreesWithMessage (lineConfig (enforcedNumTargetedCloud 1)) pose 0 actions s := by
  intro h
  let config := lineConfig (enforcedNumTargetedCloud 1)
  let pose : Pose Int Unit := { position := 2, orientation := () }
  have hrun : (parametersMachine config pose pose ⟨0, 0⟩).Run
      ((ScanMatcher.constructed pose ⟨0, 0⟩).setInitialPose pose)
      [.receive [], .testMapping, .publish 2, .testTrigger, .assignTask] _ :=
    .cons (.firstCloud rfl rfl) <| .cons (.testMapping rfl) <| .cons (.publish rfl) <|
    .cons (.trigger rfl ⟨by decide, rfl⟩) <| .cons (.assignTask rfl) <| .nil _
  obtain ⟨t, hmatched, -⟩ := (h pose ⟨0, 0⟩ _ _ hrun).matched
  -- the node with the message takes the first four steps, and is idle again
  obtain ⟨s₁, h₁, hmatched⟩ := Machine.run_cons_iff.mp hmatched
  obtain ⟨s₂, h₂, hmatched⟩ := Machine.run_cons_iff.mp hmatched
  obtain ⟨s₃, h₃, hmatched⟩ := Machine.run_cons_iff.mp hmatched
  obtain ⟨s₄, h₄, hmatched⟩ := Machine.run_cons_iff.mp hmatched
  obtain ⟨s₅, h₅, -⟩ := Machine.run_cons_iff.mp hmatched
  cases h₁ with
  | nextCloud hidle hnext => cases hnext
  | firstCloud =>
    cases h₂ with
    | testMapping hpc =>
      cases hpc
      cases h₃ with
      | publish hpc =>
        cases hpc
        cases h₄ with
        | trigger hpc hmoved => exact absurd hmoved.1 (by decide)
        | noTrigger =>
          cases h₅ with
          | assignTask hpc => cases hpc

end RoboRacer.Slam
