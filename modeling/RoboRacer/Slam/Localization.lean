/-
  Slam/Localization.lean --- the localisation node
  (`scanmatcher_custom/src/scanmatcher_component.cpp`: the constructor,
  `initial_pose_callback`, `cloud_callback`, `receiveCloud`, `publishMapAndPose`).

  The node gets an initial pose, from its parameters or from a message.  The first
  scan after that makes it load the map, give it to registration as the target and
  publish it; and every scan is then aligned with the target.  The callbacks run one
  at a time:

      cloudCallback             one scan
      LoadsMap                  the scan that made the node load its map
      mapFrame_agrees_iff       when the target and the published map are the same

  Every outcome of a lookup, of the map file and of registration is part of the
  scan.  The path, the transform broadcast and `map_array_msg_` are left out:
  nothing here reads them.  So is the block behind `mapping_flag_`, which nothing
  sets since `updateMap` has been taken out.
-/
import RoboRacer.Foundation.Machine
import RoboRacer.Slam.ModifiedMap

set_option autoImplicit false

namespace RoboRacer.Slam

open RoboRacer.Foundation

variable {S G P V Q : Type}

/-! ## Messages -/

/-- `geometry_msgs::msg::PoseStamped`. -/
structure PoseStamped (S V Q : Type) where
  frameId : String
  stamp : S
  pose : Pose V Q

/-- A cloud on the map topic. -/
structure MapMsg (P : Type) where
  frameId : String
  cloud : List P

/-- A message of `input_cloud`, and what the libraries will answer for it. -/
structure InputCloud (S G P : Type) where
  stamp : S
  cloud : List P
  /-- `lookupTransform` to the frame of the robot; none when it throws. -/
  robotTransform : Option G
  /-- `lookupTransform` from the frame of the odometry; none when it throws. -/
  odomTransform : Option G
  adjustDistortion : List P → List P
  /-- The cloud in the file at `map_path_`; none when `loadPCDFile` fails. -/
  mapFile : Option (List P)
  /-- `getFinalTransformation` after `align`, from the source, the target and the
  guess. -/
  align : List P → List P → G → G

/-- The cloud that `loadPCDFile` leaves: its result is not looked at. -/
def InputCloud.map (scan : InputCloud S G P) : List P :=
  scan.mapFile.getD []

/-- The callbacks. -/
inductive LocalizationEvent (S G P V Q : Type) where
  | initialPose (msg : PoseStamped S V Q)
  | inputCloud (scan : InputCloud S G P)

/-! ## The node -/

/-- The parameters of the node, and the operations it takes from its libraries. -/
structure LocalizationConfig (S G P V Q : Type) where
  globalFrameId : String
  setInitialPose : Bool
  /-- The pose of the seven `initial_pose` parameters. -/
  initialPose : Pose V Q
  startStamp : S
  useImu : Bool
  useMinMaxFilter : Bool
  /-- The range test of the filter. -/
  inRange : P → Bool
  useOdom : Bool
  /-- `VoxelGrid` with the leaf size `vg_size_for_input_`. -/
  voxelGrid : List P → List P
  tf : PoseMsgs G V Q
  /-- A `PoseStamped` as it is constructed. -/
  emptyPose : PoseStamped S V Q

/-- The members that the callbacks share, and what the node has published. -/
structure Localization (S G P V Q : Type) where
  initialPoseReceived : Bool
  initialCloudReceived : Bool
  correntPoseStamped : PoseStamped S V Q
  /-- The target of registration. -/
  inputTarget : Option (List P)
  previousOdomMat : G
  /-- The messages on the map topic, oldest first. -/
  maps : List (MapMsg P)
  /-- The messages on `current_pose`, oldest first. -/
  poses : List (PoseStamped S V Q)

/-- `getTransformation`. -/
def getTransformation (tf : PoseMsgs G V Q) (pose : Pose V Q) : G :=
  tf.fromMsg pose

namespace Localization

/-- The node after its constructor. -/
def initial [One G] (config : LocalizationConfig S G P V Q) : Localization S G P V Q :=
  if config.setInitialPose then
    { initialPoseReceived := true
      initialCloudReceived := false
      correntPoseStamped := ⟨config.globalFrameId, config.startStamp, config.initialPose⟩
      inputTarget := none
      previousOdomMat := 1
      maps := []
      poses := [⟨config.globalFrameId, config.startStamp, config.initialPose⟩] }
  else
    { initialPoseReceived := false
      initialCloudReceived := false
      correntPoseStamped := config.emptyPose
      inputTarget := none
      previousOdomMat := 1
      maps := []
      poses := [] }

/-- `initial_pose_callback`. -/
def initialPoseCallback (config : LocalizationConfig S G P V Q) (s : Localization S G P V Q)
    (msg : PoseStamped S V Q) : Localization S G P V Q :=
  if msg.frameId ≠ config.globalFrameId then s
  else
    { s with
      correntPoseStamped := msg
      initialPoseReceived := true
      poses := s.poses ++ [msg] }

/-- The block of `cloud_callback` that loads the map. -/
def loadMap [SMul G P] (config : LocalizationConfig S G P V Q) (s : Localization S G P V Q)
    (scan : InputCloud S G P) : Localization S G P V Q :=
  let simTrans := getTransformation config.tf s.correntPoseStamped.pose
  let transformedCloud := transformPointCloud scan.map simTrans
  { s with
    initialCloudReceived := true
    inputTarget := some transformedCloud
    -- the submap's cloud is the one that was loaded
    maps := s.maps ++ [⟨config.globalFrameId, scan.map⟩] }

/-- `publishMapAndPose`. -/
def publishMapAndPose (config : LocalizationConfig S G P V Q) (s : Localization S G P V Q)
    (finalTransformation : G) (stamp : S) : Localization S G P V Q :=
  let pose :=
    { s.correntPoseStamped with
      stamp := stamp
      pose := config.tf.toMsg finalTransformation }
  { s with correntPoseStamped := pose, poses := s.poses ++ [pose] }

/-- `receiveCloud`. -/
def receiveCloud [Group G] [DecidableEq G] (config : LocalizationConfig S G P V Q)
    (s : Localization S G P V Q) (scan : InputCloud S G P) (cloud : List P) :
    Localization S G P V Q :=
  let simTrans := getTransformation config.tf s.correntPoseStamped.pose
  -- without a reading the transform keeps its default, the identity
  let odomMat := scan.odomTransform.getD 1
  let guess :=
    if config.useOdom && decide (s.previousOdomMat ≠ 1) then
      simTrans * s.previousOdomMat⁻¹ * odomMat
    else simTrans
  let s := if config.useOdom then { s with previousOdomMat := odomMat } else s
  let finalTransformation :=
    scan.align (config.voxelGrid cloud) (s.inputTarget.getD []) guess
  s.publishMapAndPose config finalTransformation scan.stamp

/-- `cloud_callback`. -/
def cloudCallback [Group G] [DecidableEq G] [SMul G P] (config : LocalizationConfig S G P V Q)
    (s : Localization S G P V Q) (scan : InputCloud S G P) : Localization S G P V Q :=
  if s.initialPoseReceived = false then s
  else match scan.robotTransform with
    | none => s
    | some transform =>
      let cloud := transformPointCloud scan.cloud transform
      let cloud := if config.useImu then scan.adjustDistortion cloud else cloud
      let cloud := if config.useMinMaxFilter then cloud.filter config.inRange else cloud
      let s := if s.initialCloudReceived = false then s.loadMap config scan else s
      if s.initialCloudReceived then s.receiveCloud config scan cloud else s

/-- One callback. -/
def step [Group G] [DecidableEq G] [SMul G P] (config : LocalizationConfig S G P V Q)
    (s : Localization S G P V Q) : LocalizationEvent S G P V Q → Localization S G P V Q
  | .initialPose msg => s.initialPoseCallback config msg
  | .inputCloud scan => s.cloudCallback config scan

/-- The node after some callbacks. -/
def after [Group G] [DecidableEq G] [SMul G P] (config : LocalizationConfig S G P V Q)
    (events : List (LocalizationEvent S G P V Q)) : Localization S G P V Q :=
  events.foldl (step config) (initial config)

/-! ## The property -/

/-- The cloud given to registration is the one map that has been published, in the
global frame. -/
def MapAgrees (config : LocalizationConfig S G P V Q) (s : Localization S G P V Q) : Prop :=
  ∀ target, s.inputTarget = some target → s.maps = [⟨config.globalFrameId, target⟩]

/-- A transformation that maps a scan into the target maps it into the published map. -/
def ScansAgree [SMul G P] (s : Localization S G P V Q) : Prop :=
  ∀ target, s.inputTarget = some target → ∀ msg ∈ s.maps, ∀ (transform : G) (scan : List P),
    (∀ p ∈ scan, transform • p ∈ target) → ∀ p ∈ scan, transform • p ∈ msg.cloud

end Localization

/-! ## The scan that loads the map -/

/-- The initial pose that was given last: by the parameters, or by a message in the
global frame. -/
def initialPose (config : LocalizationConfig S G P V Q)
    (events : List (LocalizationEvent S G P V Q)) : Option (Pose V Q) :=
  events.foldl (fun pose e => match e with
    | .initialPose msg => if msg.frameId ≠ config.globalFrameId then pose else some msg.pose
    | .inputCloud _ => pose) (if config.setInitialPose then some config.initialPose else none)

theorem initialPose_concat (config : LocalizationConfig S G P V Q)
    (events : List (LocalizationEvent S G P V Q)) (e : LocalizationEvent S G P V Q) :
    initialPose config (events ++ [e]) = match e with
      | .initialPose msg =>
        if msg.frameId ≠ config.globalFrameId then initialPose config events else some msg.pose
      | .inputCloud _ => initialPose config events := by
  rw [initialPose, List.foldl_concat]
  rfl

/-- A scan that comes behind `events` gets past the early returns of the callback. -/
def Reaches (config : LocalizationConfig S G P V Q) (events : List (LocalizationEvent S G P V Q))
    (scan : InputCloud S G P) : Prop :=
  (initialPose config events).isSome = true ∧ scan.robotTransform.isSome = true

/-- No scan of `events` has got past the early returns. -/
def NoneReached (config : LocalizationConfig S G P V Q)
    (events : List (LocalizationEvent S G P V Q)) : Prop :=
  ∀ earlier e, earlier ++ [e] <+: events → ∀ scan, e = .inputCloud scan →
    ¬ Reaches config earlier scan

/-- Among `events` there is a first scan that got past the early returns: `scan`, when
the initial pose was `pose`. -/
def LoadsMap (config : LocalizationConfig S G P V Q) (events : List (LocalizationEvent S G P V Q))
    (scan : InputCloud S G P) (pose : Pose V Q) : Prop :=
  ∃ earlier, earlier ++ [.inputCloud scan] <+: events ∧ NoneReached config earlier ∧
    initialPose config earlier = some pose ∧ scan.robotTransform.isSome = true

section Loading

variable {config : LocalizationConfig S G P V Q} {events : List (LocalizationEvent S G P V Q)}
  {scan : InputCloud S G P} {pose : Pose V Q}

theorem noneReached_concat_iff {e : LocalizationEvent S G P V Q} :
    NoneReached config (events ++ [e]) ↔ NoneReached config events ∧
      ∀ scan, e = .inputCloud scan → ¬ Reaches config events scan :=
  Machine.forall_prefix_concat

theorem loadsMap_concat_iff {e : LocalizationEvent S G P V Q} :
    LoadsMap config (events ++ [e]) scan pose ↔ LoadsMap config events scan pose ∨
      (e = .inputCloud scan ∧ NoneReached config events ∧
        initialPose config events = some pose ∧ scan.robotTransform.isSome = true) := by
  simp only [LoadsMap, Machine.prefix_concat_concat_iff]
  constructor
  · rintro ⟨earlier, hpre | ⟨rfl, rfl⟩, hload⟩
    · exact .inl ⟨earlier, hpre, hload⟩
    · exact .inr ⟨rfl, hload⟩
  · rintro (⟨earlier, hpre, hload⟩ | ⟨rfl, hload⟩)
    · exact ⟨earlier, .inl hpre, hload⟩
    · exact ⟨events, .inr ⟨rfl, rfl⟩, hload⟩

/-- A scan that loads the map got past the early returns. -/
theorem LoadsMap.not_noneReached (h : LoadsMap config events scan pose) :
    ¬ NoneReached config events := by
  obtain ⟨earlier, hpre, -, hpose, htransform⟩ := h
  intro hnone
  exact hnone earlier _ hpre scan rfl ⟨by rw [hpose]; rfl, htransform⟩

end Loading

/-! ## The node and its callbacks -/

namespace Localization

section Run

variable [SMul G P] {config : LocalizationConfig S G P V Q}
  {events : List (LocalizationEvent S G P V Q)} {s : Localization S G P V Q}

/-- What the members of the node tell of its callbacks. -/
structure Tells (config : LocalizationConfig S G P V Q)
    (events : List (LocalizationEvent S G P V Q)) (s : Localization S G P V Q) : Prop where
  received : s.initialPoseReceived = (initialPose config events).isSome
  /-- Until the map is loaded the current pose is the initial one. -/
  waiting : s.initialCloudReceived = false → NoneReached config events ∧
    s.inputTarget = none ∧ s.maps = [] ∧
    ∀ pose, initialPose config events = some pose → s.correntPoseStamped.pose = pose
  loaded : s.initialCloudReceived = true → ∃ scan pose, LoadsMap config events scan pose
  target : ∀ scan pose, LoadsMap config events scan pose →
    s.inputTarget = some (transformPointCloud scan.map (getTransformation config.tf pose)) ∧
    s.maps = [⟨config.globalFrameId, scan.map⟩]

/-- A callback that loads no map, and leaves the members of the map block alone. -/
theorem Tells.keeps (h : s.Tells config events) {e : LocalizationEvent S G P V Q}
    {t : Localization S G P V Q}
    (hnone : ∀ scan, e = .inputCloud scan →
      s.initialCloudReceived = true ∨ ¬ Reaches config events scan)
    (hreceived : t.initialPoseReceived = (initialPose config (events ++ [e])).isSome)
    (hcloud : t.initialCloudReceived = s.initialCloudReceived)
    (htarget : t.inputTarget = s.inputTarget) (hmaps : t.maps = s.maps)
    (hpose : s.initialCloudReceived = false → ∀ pose,
      initialPose config (events ++ [e]) = some pose → t.correntPoseStamped.pose = pose) :
    t.Tells config (events ++ [e]) := by
  have hsame : ∀ scan pose, LoadsMap config (events ++ [e]) scan pose →
      LoadsMap config events scan pose := by
    intro scan pose hload
    rcases loadsMap_concat_iff.mp hload with hload | ⟨he, hnever, hinitial, htransform⟩
    · exact hload
    · rcases hnone scan he with hloaded | hreach
      · obtain ⟨scan', pose', hload'⟩ := h.loaded hloaded
        exact absurd hnever hload'.not_noneReached
      · exact absurd ⟨by rw [hinitial]; rfl, htransform⟩ hreach
  refine ⟨hreceived, fun hwaiting => ?_, fun hloaded => ?_, fun scan pose hload => ?_⟩
  · rw [hcloud] at hwaiting
    obtain ⟨hnever, htarget', hmaps', -⟩ := h.waiting hwaiting
    refine ⟨noneReached_concat_iff.mpr ⟨hnever, fun scan he => ?_⟩, htarget.trans htarget',
      hmaps.trans hmaps', hpose hwaiting⟩
    exact (hnone scan he).resolve_left (by rw [hwaiting]; simp)
  · obtain ⟨scan, pose, hload⟩ := h.loaded (hcloud ▸ hloaded)
    exact ⟨scan, pose, loadsMap_concat_iff.mpr (.inl hload)⟩
  · rw [htarget, hmaps]
    exact h.target scan pose (hsame scan pose hload)

theorem Tells.initialPoseCallback (h : s.Tells config events) (msg : PoseStamped S V Q) :
    (s.initialPoseCallback config msg).Tells config (events ++ [.initialPose msg]) := by
  have hnone : ∀ scan : InputCloud S G P, LocalizationEvent.initialPose msg = .inputCloud scan →
      s.initialCloudReceived = true ∨ ¬ Reaches config events scan := by
    intro scan he
    cases he
  unfold Localization.initialPoseCallback
  split
  case isTrue hframe =>
    have hsame : initialPose config (events ++ [.initialPose msg]) = initialPose config events := by
      rw [initialPose_concat]
      exact if_pos hframe
    refine h.keeps hnone (by rw [hsame]; exact h.received) rfl rfl rfl (fun hwaiting => ?_)
    rw [hsame]
    exact (h.waiting hwaiting).2.2.2
  case isFalse hframe =>
    have hnew : initialPose config (events ++ [.initialPose msg]) = some msg.pose := by
      rw [initialPose_concat]
      exact if_neg hframe
    refine h.keeps hnone (by rw [hnew]; rfl) rfl rfl rfl (fun _ pose hpose => ?_)
    rw [hnew] at hpose
    cases hpose
    rfl

variable [Group G]

omit [SMul G P] in
/-- Nothing that comes behind the map block touches the target or the map topic. -/
theorem receiveCloud_keeps [DecidableEq G] (config : LocalizationConfig S G P V Q)
    (s : Localization S G P V Q) (scan : InputCloud S G P) (cloud : List P) :
    (s.receiveCloud config scan cloud).inputTarget = s.inputTarget ∧
      (s.receiveCloud config scan cloud).maps = s.maps ∧
      (s.receiveCloud config scan cloud).initialPoseReceived = s.initialPoseReceived ∧
      (s.receiveCloud config scan cloud).initialCloudReceived = s.initialCloudReceived := by
  unfold receiveCloud publishMapAndPose
  dsimp only
  split <;> exact ⟨rfl, rfl, rfl, rfl⟩

theorem tells_initial : Tells config [] (initial config) := by
  have hnone : NoneReached config [] := fun earlier e hpre => absurd hpre Machine.not_prefix_nil
  have hload : ∀ scan pose, ¬ LoadsMap config [] scan pose :=
    fun scan pose h => h.not_noneReached hnone
  cases hset : config.setInitialPose with
  | true =>
    simp only [initial, hset, if_true]
    refine ⟨by simp [initialPose, hset], fun _ => ⟨hnone, rfl, rfl, fun pose hpose => ?_⟩,
      fun h => (by cases h), fun scan pose h => absurd h (hload scan pose)⟩
    simpa [initialPose, hset] using hpose
  | false =>
    simp only [initial, hset]
    refine ⟨by simp [initialPose, hset], fun _ => ⟨hnone, rfl, rfl, fun pose hpose => ?_⟩,
      fun h => (by cases h), fun scan pose h => absurd h (hload scan pose)⟩
    simp [initialPose, hset] at hpose

/-- What one scan does. -/
theorem cloudCallback_cases [DecidableEq G] (h : s.Tells config events)
    (scan : InputCloud S G P) :
    (¬ Reaches config events scan ∧ s.cloudCallback config scan = s) ∨
      (Reaches config events scan ∧ ∃ cloud, s.cloudCallback config scan =
        (if s.initialCloudReceived = false then s.loadMap config scan else s).receiveCloud
          config scan cloud) := by
  unfold cloudCallback Reaches
  rw [← h.received]
  cases hpose : s.initialPoseReceived with
  | false => exact .inl ⟨by simp, rfl⟩
  | true =>
    cases htransform : scan.robotTransform with
    | none => exact .inl ⟨by simp, rfl⟩
    | some transform =>
      refine .inr ⟨by simp, ?_⟩
      have hloaded :
          (if s.initialCloudReceived = false then s.loadMap config scan
            else s).initialCloudReceived = true := by
        split
        · rfl
        · exact Bool.of_not_eq_false ‹_›
      simp only [Bool.true_eq_false, if_false]
      exact ⟨_, if_pos hloaded⟩

theorem Tells.cloudCallback [DecidableEq G] (h : s.Tells config events)
    (scan : InputCloud S G P) :
    (s.cloudCallback config scan).Tells config (events ++ [.inputCloud scan]) := by
  have hsame : initialPose config (events ++ [.inputCloud scan]) = initialPose config events :=
    initialPose_concat ..
  rcases cloudCallback_cases h scan with ⟨hreach, heq⟩ | ⟨hreach, cloud, heq⟩
  · rw [heq]
    refine h.keeps ?_ (by rw [hsame]; exact h.received) rfl rfl rfl (fun hwaiting => ?_)
    · intro scan' he
      cases he
      exact .inr hreach
    · rw [hsame]
      exact (h.waiting hwaiting).2.2.2
  · rw [heq]
    cases hloaded : s.initialCloudReceived with
    | true =>
      rw [if_neg (by simp)]
      obtain ⟨htarget, hmaps, hpose, hcloud⟩ := receiveCloud_keeps config s scan cloud
      refine h.keeps (fun _ _ => .inl hloaded) ?_ hcloud htarget hmaps (fun hwaiting => ?_)
      · rw [hpose, hsame]
        exact h.received
      · rw [hloaded] at hwaiting
        cases hwaiting
    | false =>
      rw [if_pos rfl]
      obtain ⟨htarget, hmaps, hpose, hcloud⟩ := receiveCloud_keeps config
        (s.loadMap config scan) scan cloud
      obtain ⟨hnever, -, hempty, hinitial⟩ := h.waiting hloaded
      obtain ⟨pose, hfirst⟩ := Option.isSome_iff_exists.mp hreach.1
      refine ⟨?_, fun hwaiting => ?_, fun _ => ⟨scan, pose, ?_⟩, fun scan' pose' hload => ?_⟩
      · rw [hpose, hsame]
        exact h.received
      · rw [hcloud] at hwaiting
        cases hwaiting
      · exact loadsMap_concat_iff.mpr (.inr ⟨rfl, hnever, hfirst, hreach.2⟩)
      · rcases loadsMap_concat_iff.mp hload with hload | ⟨he, -, hfirst', -⟩
        · exact absurd hnever hload.not_noneReached
        · cases he
          rw [htarget, hmaps]
          have hposed := hinitial pose' hfirst'
          refine ⟨?_, ?_⟩
          · simp only [loadMap, hposed]
          · simp only [loadMap, hempty, List.nil_append]

/-- The members of the node tell of all its callbacks. -/
theorem tells_after [DecidableEq G] (config : LocalizationConfig S G P V Q)
    (events : List (LocalizationEvent S G P V Q)) : (after config events).Tells config events := by
  induction events using List.reverseRecOn with
  | nil => exact tells_initial
  | append_singleton events e ih =>
    rw [after, List.foldl_concat]
    cases e with
    | initialPose msg => exact ih.initialPoseCallback msg
    | inputCloud scan => exact ih.cloudCallback scan

/-- The current pose, once there is one, and all poses that were published are in the
global frame. -/
structure InGlobalFrame (config : LocalizationConfig S G P V Q) (s : Localization S G P V Q) :
    Prop where
  current : s.initialPoseReceived = true → s.correntPoseStamped.frameId = config.globalFrameId
  published : ∀ pose ∈ s.poses, pose.frameId = config.globalFrameId

omit [SMul G P] in
theorem InGlobalFrame.receiveCloud [DecidableEq G] (h : s.InGlobalFrame config)
    (hreceived : s.initialPoseReceived = true) (scan : InputCloud S G P) (cloud : List P) :
    (s.receiveCloud config scan cloud).InGlobalFrame config := by
  unfold Localization.receiveCloud publishMapAndPose
  dsimp only
  split
  all_goals
    refine ⟨fun _ => h.current hreceived, ?_⟩
    rw [List.forall_mem_append, List.forall_mem_singleton]
    exact ⟨h.published, h.current hreceived⟩

theorem inGlobalFrame_after [DecidableEq G] (config : LocalizationConfig S G P V Q)
    (events : List (LocalizationEvent S G P V Q)) :
    (after config events).InGlobalFrame config := by
  induction events using List.reverseRecOn with
  | nil =>
    change (initial config).InGlobalFrame config
    unfold initial
    split
    · exact ⟨fun _ => rfl, by simp⟩
    · exact ⟨fun h => (by cases h), fun pose h => (by cases h)⟩
  | append_singleton events e ih =>
    rw [after, List.foldl_concat]
    cases e with
    | initialPose msg =>
      change ((after config events).initialPoseCallback config msg).InGlobalFrame config
      unfold Localization.initialPoseCallback
      split
      case isTrue => exact ih
      case isFalse hframe =>
        have hglobal : msg.frameId = config.globalFrameId := not_not.mp hframe
        refine ⟨fun _ => hglobal, ?_⟩
        rw [List.forall_mem_append, List.forall_mem_singleton]
        exact ⟨ih.published, hglobal⟩
    | inputCloud scan =>
      change ((after config events).cloudCallback config scan).InGlobalFrame config
      have htells := tells_after config events
      rcases cloudCallback_cases htells scan with ⟨-, heq⟩ | ⟨hreach, cloud, heq⟩
      · rw [heq]
        exact ih
      · have hreceived : (after config events).initialPoseReceived = true :=
          htells.received.trans hreach.1
        rw [heq]
        split
        · have hloaded : ((after config events).loadMap config scan).InGlobalFrame config :=
            ⟨ih.current, ih.published⟩
          exact hloaded.receiveCloud hreceived scan cloud
        · exact ih.receiveCloud hreceived scan cloud

end Run

end Localization

/-! ## When poses are poses in the published map -/

/-- A motion leaves every point of a cloud where it is when it leaves the cloud as it is. -/
theorem transformPointCloud_eq_self_iff [SMul G P] (cloud : List P) (transform : G) :
    transformPointCloud cloud transform = cloud ↔ ∀ p ∈ cloud, transform • p = p := by
  conv_lhs =>
    rhs
    rw [← List.map_id cloud]
  exact List.map_inj_left

/-- A target that is set was set by the scan that loaded the map. -/
theorem Localization.Tells.of_target [SMul G P] {config : LocalizationConfig S G P V Q}
    {events : List (LocalizationEvent S G P V Q)} {s : Localization S G P V Q}
    (h : s.Tells config events) {target : List P} (htarget : s.inputTarget = some target) :
    ∃ scan pose, LoadsMap config events scan pose ∧
      target = transformPointCloud scan.map (getTransformation config.tf pose) ∧
      s.maps = [⟨config.globalFrameId, scan.map⟩] := by
  cases hloaded : s.initialCloudReceived with
  | false =>
    rw [(h.waiting hloaded).2.1] at htarget
    cases htarget
  | true =>
    obtain ⟨scan, pose, hload⟩ := h.loaded hloaded
    obtain ⟨htarget', hmaps⟩ := h.target scan pose hload
    rw [htarget] at htarget'
    exact ⟨scan, pose, hload, Option.some.inj htarget', hmaps⟩

/-- The target is the published map if loading the map has not moved it. -/
theorem Localization.Tells.mapAgrees_iff [SMul G P] {config : LocalizationConfig S G P V Q}
    {events : List (LocalizationEvent S G P V Q)} {s : Localization S G P V Q}
    (h : s.Tells config events) :
    s.MapAgrees config ↔ ∀ scan pose, LoadsMap config events scan pose →
      ∀ p ∈ scan.map, getTransformation config.tf pose • p = p := by
  constructor
  · intro hagrees scan pose hload
    obtain ⟨htarget, hmaps⟩ := h.target scan pose hload
    have hsame := hagrees _ htarget
    rw [hmaps] at hsame
    rw [← transformPointCloud_eq_self_iff]
    exact (congrArg MapMsg.cloud (List.head_eq_of_cons_eq hsame)).symm
  · intro hfixed target htarget
    obtain ⟨scan, pose, hload, rfl, hmaps⟩ := h.of_target htarget
    rw [hmaps, (transformPointCloud_eq_self_iff _ _).mpr (hfixed scan pose hload)]

/-- What lands in the target lands in the published map if loading the map has moved
it into itself. -/
theorem Localization.Tells.scansAgree_iff [SMul G P] {config : LocalizationConfig S G P V Q}
    {events : List (LocalizationEvent S G P V Q)} {s : Localization S G P V Q}
    (h : s.Tells config events) :
    s.ScansAgree ↔ ∀ scan pose, LoadsMap config events scan pose →
      ∀ p ∈ scan.map, getTransformation config.tf pose • p ∈ scan.map := by
  constructor
  · intro hagrees scan pose hload p hp
    obtain ⟨htarget, hmaps⟩ := h.target scan pose hload
    have hmsg : ⟨config.globalFrameId, scan.map⟩ ∈ s.maps := by
      rw [hmaps]
      exact List.mem_singleton_self _
    -- the scan of one point that the pose of the map takes to a point of the target
    refine hagrees _ htarget _ hmsg (getTransformation config.tf pose) [p] ?_ p
      (List.mem_singleton_self p)
    intro q hq
    rw [List.mem_singleton.mp hq]
    exact List.mem_map_of_mem hp
  · intro hinto target htarget msg hmsg
    obtain ⟨scan, pose, hload, rfl, hmaps⟩ := h.of_target htarget
    rw [hmaps, List.mem_singleton] at hmsg
    subst hmsg
    intro transform cloud hcloud p hp
    obtain ⟨q, hq, heq⟩ := List.mem_map.mp (hcloud p hp)
    rw [← heq]
    exact hinto scan pose hload q hq

/-- **When the poses of the localisation node are poses in the published map.**

For all callbacks, whatever the lookups, the map file and registration answer, every
published pose is in the global frame.  The registration target is the one cloud that
is published, in the global frame, if and only if the initial pose that the map was
loaded with fixes every point of the map.  What maps a scan into the target maps it
into the published map if and only if that pose at least takes the map into itself. -/
theorem mapFrame_agrees_iff [Group G] [DecidableEq G] [MulAction G P]
    (config : LocalizationConfig S G P V Q) (events : List (LocalizationEvent S G P V Q)) :
    (∀ pose ∈ (Localization.after config events).poses, pose.frameId = config.globalFrameId) ∧
    ((Localization.after config events).MapAgrees config ↔
      ∀ scan pose, LoadsMap config events scan pose →
        ∀ p ∈ scan.map, getTransformation config.tf pose • p = p) ∧
    ((Localization.after config events).ScansAgree ↔
      ∀ scan pose, LoadsMap config events scan pose →
        ∀ p ∈ scan.map, getTransformation config.tf pose • p ∈ scan.map) := by
  have htells := Localization.tells_after config events
  refine ⟨?_, htells.mapAgrees_iff, htells.scansAgree_iff⟩
  exact (Localization.inGlobalFrame_after config events).published

/-! ### A map on a line -/

/-- A node on a line whose initial pose is at 2. -/
def lineLocalizationConfig : LocalizationConfig Unit (Multiplicative Int) Int Int Unit where
  globalFrameId := "map"
  setInitialPose := true
  initialPose := ⟨2, ()⟩
  startStamp := ()
  useImu := false
  useMinMaxFilter := false
  inRange := fun _ => true
  useOdom := false
  voxelGrid := id
  tf := linePoseMsgs
  emptyPose := ⟨"", (), ⟨0, ()⟩⟩

/-- The map is a point at 1, and the node starts at 2: it aligns its scans with a
point at 3, and publishes the point at 1. -/
theorem published_map_not_target :
    ¬ ∀ (config : LocalizationConfig Unit (Multiplicative Int) Int Int Unit)
      (events : List (LocalizationEvent Unit (Multiplicative Int) Int Int Unit)),
      (Localization.after config events).MapAgrees config ∧
        (Localization.after config events).ScansAgree := by
  intro h
  let scan : InputCloud Unit (Multiplicative Int) Int :=
    { stamp := ()
      cloud := [1]
      robotTransform := some 1
      odomTransform := none
      adjustDistortion := id
      mapFile := some [1]
      align := fun _ _ guess => guess }
  have hscans := (h lineLocalizationConfig [.inputCloud scan]).2 [3] rfl ⟨"map", [1]⟩
    (List.mem_singleton_self _) (Multiplicative.ofAdd 2) [1] (by decide) 1 (by decide)
  exact absurd hscans (by decide)

end RoboRacer.Slam
