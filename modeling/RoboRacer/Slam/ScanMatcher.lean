/-
  Slam/ScanMatcher.lean --- the mapping front end
  (`scanmatcher_component.cpp`: `cloud_callback`, `receiveCloud`,
  `publishMapAndPose`, `updateMap`).

  The callbacks of the node run one at a time on its executor.  A scan that has
  moved far enough starts `updateMap` on a thread of its own, which shares the
  members of the node with the callbacks without a lock.  Every read or write of
  a shared member is one step here, and the steps of the two sides interleave in
  any order.

  Points, matrices, positions, orientations and distances are arbitrary types;
  what pcl, Eigen and tf2 compute on them is a parameter, and so is the outcome
  of every registration.  Message headers, the path, the transform broadcast and
  the published messages are left out: nothing here reads them.  `publishMap` at
  the end of `updateMap` only reads.
-/
import Mathlib.Algebra.Order.Group.Defs
import RoboRacer.Foundation.Machine

set_option autoImplicit false

namespace RoboRacer.Slam

open RoboRacer.Foundation

/-! ## Data -/

/-- `geometry_msgs::msg::Pose`. -/
structure Pose (V Q : Type) where
  position : V
  orientation : Q

/-- `lidarslam_msgs::msg::SubMap`. -/
structure SubMap (P V Q D : Type) where
  distance : D
  pose : Pose V Q
  cloud : List P

/-- `num_targeted_cloud_`, which the constructor makes positive. -/
def enforcedNumTargetedCloud (numTargetedCloud : Int) : { n : Int // 1 ≤ n } :=
  if h : numTargetedCloud < 1 then ⟨1, by decide⟩ else ⟨numTargetedCloud, by omega⟩

/-- The parameters of the node, and the operations it takes from its libraries. -/
structure ScanMatcherConfig (P T V Q D : Type) where
  registrationMethod : String
  transForMapupdate : D
  numTargetedCloud : { n : Int // 1 ≤ n }
  /-- `VoxelGrid` with the leaf size `vg_size_for_input_`. -/
  voxelGridInput : List P → List P
  /-- `VoxelGrid` with the leaf size `vg_size_for_map_`. -/
  voxelGridMap : List P → List P
  transformPointCloud : T → List P → List P
  /-- `transformPointCloud` with the matrix of a submap's pose. -/
  transformSubmap : Pose V Q → List P → List P
  getTransformation : Pose V Q → T
  /-- The block that is cast to `position`. -/
  position : T → V
  /-- The rotation block as a quaternion. -/
  orientation : T → Q
  norm : V → D

/-- The arguments that are bound into `mapping_task_`. -/
structure MappingTask (P T V Q : Type) where
  cloud : List P
  finalTransformation : T
  correntPose : Pose V Q

/-- Where a background thread is inside `updateMap`. -/
inductive UpdatePc (D : Type) where
  /-- About to clear `targeted_cloud_`. -/
  | clear
  /-- About to append the transformed scan to it. -/
  | appendScan
  /-- About to read the number of submaps. -/
  | readSize
  /-- In the loop, with `num_submaps` and `i`. -/
  | loop (numSubmaps : Int) (i : Nat)
  /-- About to add `trans_` to `latest_distance_`. -/
  | addDistance
  /-- About to append the submap. -/
  | pushSubmap (distance : D)
  /-- About to set `is_map_updated_`. -/
  | raiseUpdated
  /-- About to return. -/
  | finish
  /-- The function has returned, and the future is ready. -/
  | returned
  /-- A submap was read out of range. -/
  | undefined

/-- A background thread: the task it runs and where it is. -/
structure UpdateMap (P T V Q D : Type) where
  task : MappingTask P T V Q
  pc : UpdatePc D

/-- Where the executor is inside `cloud_callback`. -/
inductive CallbackPc (P T : Type) where
  /-- Between two callbacks. -/
  | idle
  /-- At `mapping_flag_ && mapping_future_.valid()`. -/
  | testMapping (cloud : List P)
  /-- At `wait_for(0s)`. -/
  | testFuture (cloud : List P)
  /-- At the test of `is_map_updated_`. -/
  | testUpdated (cloud : List P)
  /-- About to copy `targeted_cloud_` for `setInputTarget`. -/
  | setInputTarget (cloud : List P)
  /-- About to clear `is_map_updated_`. -/
  | clearUpdated (cloud : List P)
  /-- About to clear `mapping_flag_`. -/
  | clearFlag (cloud : List P)
  /-- About to detach `mapping_thread_`. -/
  | detach (cloud : List P)
  /-- About to register the scan. -/
  | align (cloud : List P)
  /-- At the test of `trans_` and `mapping_flag_`. -/
  | testTrigger (cloud : List P) (finalTransformation : T)
  /-- About to assign `mapping_task_` and `mapping_future_`. -/
  | assignTask (cloud : List P) (finalTransformation : T)
  /-- About to assign `mapping_thread_`. -/
  | startThread
  /-- About to set `mapping_flag_`. -/
  | raiseFlag
  /-- A joinable thread was assigned to, a thread that is not joinable was
  detached, or a running task was assigned to. -/
  | undefined

/-- The members of the node that the two sides share or that decide what they do.
`inputTargets` are the arguments of the `setInputTarget` calls, oldest first, and
`updateMaps` the background threads, in the order in which they were started; a
thread and a future are referred to by their place in it. -/
structure ScanMatcher (P T V Q D : Type) where
  initialCloudReceived : Bool
  correntPose : Pose V Q
  previousPosition : V
  trans : D
  latestDistance : D
  submaps : List (SubMap P V Q D)
  targetedCloud : List P
  inputTargets : List (List P)
  mappingFlag : Bool
  isMapUpdated : Bool
  mappingTask : Option (MappingTask P T V Q)
  mappingFuture : Option Nat
  /-- The thread that `mapping_thread_` can join. -/
  mappingThread : Option Nat
  updateMaps : List (UpdateMap P T V Q D)
  callback : CallbackPc P T

/-- The steps of the callbacks, and those of the `k`-th background thread. -/
inductive MapAction (P T : Type) where
  | receive (cloud : List P)
  | testMapping
  | testFuture
  | testUpdated
  | setInputTarget
  | clearUpdated
  | clearFlag
  | detach
  | publish (finalTransformation : T)
  | testTrigger
  | assignTask
  | startThread
  | raiseFlag
  | clear (k : Nat)
  | appendScan (k : Nat)
  | readSize (k : Nat)
  | appendSubmap (k : Nat)
  | addDistance (k : Nat)
  | pushSubmap (k : Nat)
  | raiseUpdated (k : Nat)
  | finish (k : Nat)

variable {P T V Q D : Type}

/-! ## What the steps do -/

/-- The future of the thread `k` is ready once the thread's task has returned. -/
def ScanMatcher.ready (s : ScanMatcher P T V Q D) (k : Nat) : Bool :=
  match s.updateMaps[k]? with
  | some { pc := .returned, .. } => true
  | _ => false

/-- The cloud handed to `setInputTarget` for a targeted cloud. -/
def ScanMatcherConfig.inputTarget (config : ScanMatcherConfig P T V Q D)
    (targetedCloud : List P) : List P :=
  if config.registrationMethod = "NDT" then targetedCloud
  else config.voxelGridInput targetedCloud

/-- The submap that a task appends. -/
def ScanMatcherConfig.submap (config : ScanMatcherConfig P T V Q D)
    (task : MappingTask P T V Q) (distance : D) : SubMap P V Q D where
  distance := distance
  pose := task.correntPose
  cloud := config.voxelGridMap task.cloud

namespace ScanMatcher

/-- Each member of the node before the first message: the pose comes with
`initial_pose`, and `trans_` is not initialised. -/
def initial [Zero D] (initialPose : Pose V Q) (trans : D) : ScanMatcher P T V Q D where
  initialCloudReceived := false
  correntPose := initialPose
  previousPosition := initialPose.position
  trans := trans
  latestDistance := 0
  submaps := []
  targetedCloud := []
  inputTargets := []
  mappingFlag := false
  isMapUpdated := false
  mappingTask := none
  mappingFuture := none
  mappingThread := none
  updateMaps := []
  callback := .idle

/-- The first scan becomes the first map and the first submap. -/
def createFirstMap [Zero D] (config : ScanMatcherConfig P T V Q D)
    (s : ScanMatcher P T V Q D) (cloud : List P) : ScanMatcher P T V Q D :=
  let filtered := config.voxelGridMap cloud
  { s with
    initialCloudReceived := true
    inputTargets := s.inputTargets ++
      [config.transformPointCloud (config.getTransformation s.correntPose) filtered]
    submaps := s.submaps ++ [{ distance := 0, pose := s.correntPose, cloud := filtered }]
    callback := .testMapping cloud }

/-- `publishMapAndPose`, up to the write of `trans_`. -/
def publish [Sub V] (config : ScanMatcherConfig P T V Q D) (s : ScanMatcher P T V Q D)
    (cloud : List P) (finalTransformation : T) : ScanMatcher P T V Q D :=
  let position := config.position finalTransformation
  { s with
    correntPose := { position := position
                     orientation := config.orientation finalTransformation }
    trans := config.norm (position - s.previousPosition)
    callback := .testTrigger cloud finalTransformation }

/-- The assignments of `previous_position_`, `mapping_task_` and
`mapping_future_`. -/
def assignTask (config : ScanMatcherConfig P T V Q D) (s : ScanMatcher P T V Q D)
    (cloud : List P) (finalTransformation : T) : ScanMatcher P T V Q D :=
  { s with
    previousPosition := config.position finalTransformation
    mappingTask := some
      { cloud := cloud, finalTransformation := finalTransformation
        correntPose := s.correntPose }
    mappingFuture := some s.updateMaps.length
    callback :=
      if (List.range s.updateMaps.length).all s.ready then .startThread else .undefined }

/-- The assignment of `mapping_thread_`, which starts the thread. -/
def startThread (s : ScanMatcher P T V Q D) (task : MappingTask P T V Q) :
    ScanMatcher P T V Q D :=
  { s with
    updateMaps := s.updateMaps ++ [{ task := task, pc := .clear }]
    mappingThread := some s.updateMaps.length
    callback := if s.mappingThread.isSome then .undefined else .raiseFlag }

/-- The background thread `k` goes on at `pc`. -/
def goto (s : ScanMatcher P T V Q D) (k : Nat) (task : MappingTask P T V Q)
    (pc : UpdatePc D) : ScanMatcher P T V Q D :=
  { s with updateMaps := s.updateMaps.set k { task := task, pc := pc } }

/-- One pass of the loop of `updateMap`, or the end of it. -/
def loopPass (config : ScanMatcherConfig P T V Q D) (s : ScanMatcher P T V Q D) (k : Nat)
    (task : MappingTask P T V Q) (numSubmaps : Int) (i : Nat) : ScanMatcher P T V Q D :=
  if (i : Int) < config.numTargetedCloud.val - 1 then
    if numSubmaps - 1 - i < 0 then s.goto k task (.loop numSubmaps (i + 1))
    else
      match s.submaps[(numSubmaps - 1 - i).toNat]? with
      | none => s.goto k task .undefined
      | some submap =>
        { s with
          targetedCloud := s.targetedCloud ++ config.transformSubmap submap.pose submap.cloud
          }.goto k task (.loop numSubmaps (i + 1))
  else s.goto k task .addDistance

/-- `submaps.push_back`. -/
def pushSubmap (s : ScanMatcher P T V Q D) (submap : SubMap P V Q D) : ScanMatcher P T V Q D :=
  { s with submaps := s.submaps ++ [submap] }

end ScanMatcher

/-! ## The two sides -/

/-- One step of the executor or of a background thread. -/
inductive MapStep [Zero D] [Sub V] [Add D] [LE D] (config : ScanMatcherConfig P T V Q D) :
    ScanMatcher P T V Q D → MapAction P T → ScanMatcher P T V Q D → Prop
  | firstCloud {s : ScanMatcher P T V Q D} {cloud : List P} :
      s.callback = .idle → s.initialCloudReceived = false →
      MapStep config s (.receive cloud) (s.createFirstMap config cloud)
  | nextCloud {s : ScanMatcher P T V Q D} {cloud : List P} :
      s.callback = .idle → s.initialCloudReceived = true →
      MapStep config s (.receive cloud) { s with callback := .testMapping cloud }
  | testMapping {s : ScanMatcher P T V Q D} {cloud : List P} :
      s.callback = .testMapping cloud →
      MapStep config s .testMapping
        { s with
          callback :=
            if s.mappingFlag && s.mappingFuture.isSome then .testFuture cloud
            else .align cloud }
  | testFuture {s : ScanMatcher P T V Q D} {cloud : List P} {k : Nat} :
      s.callback = .testFuture cloud → s.mappingFuture = some k →
      MapStep config s .testFuture
        { s with callback := if s.ready k then .testUpdated cloud else .align cloud }
  | testUpdated {s : ScanMatcher P T V Q D} {cloud : List P} :
      s.callback = .testUpdated cloud →
      MapStep config s .testUpdated
        { s with
          callback := if s.isMapUpdated then .setInputTarget cloud else .clearFlag cloud }
  | setInputTarget {s : ScanMatcher P T V Q D} {cloud : List P} :
      s.callback = .setInputTarget cloud →
      MapStep config s .setInputTarget
        { s with
          inputTargets := s.inputTargets ++ [config.inputTarget s.targetedCloud]
          callback := .clearUpdated cloud }
  | clearUpdated {s : ScanMatcher P T V Q D} {cloud : List P} :
      s.callback = .clearUpdated cloud →
      MapStep config s .clearUpdated
        { s with isMapUpdated := false, callback := .clearFlag cloud }
  | clearFlag {s : ScanMatcher P T V Q D} {cloud : List P} :
      s.callback = .clearFlag cloud →
      MapStep config s .clearFlag { s with mappingFlag := false, callback := .detach cloud }
  | detach {s : ScanMatcher P T V Q D} {cloud : List P} :
      s.callback = .detach cloud →
      MapStep config s .detach
        { s with
          mappingThread := none
          callback := if s.mappingThread.isSome then .align cloud else .undefined }
  | publish {s : ScanMatcher P T V Q D} {cloud : List P} {finalTransformation : T} :
      s.callback = .align cloud →
      MapStep config s (.publish finalTransformation)
        (s.publish config cloud finalTransformation)
  | trigger {s : ScanMatcher P T V Q D} {cloud : List P} {finalTransformation : T} :
      s.callback = .testTrigger cloud finalTransformation →
      config.transForMapupdate ≤ s.trans ∧ s.mappingFlag = false →
      MapStep config s .testTrigger
        { s with callback := .assignTask cloud finalTransformation }
  | noTrigger {s : ScanMatcher P T V Q D} {cloud : List P} {finalTransformation : T} :
      s.callback = .testTrigger cloud finalTransformation →
      ¬ (config.transForMapupdate ≤ s.trans ∧ s.mappingFlag = false) →
      MapStep config s .testTrigger { s with callback := .idle }
  | assignTask {s : ScanMatcher P T V Q D} {cloud : List P} {finalTransformation : T} :
      s.callback = .assignTask cloud finalTransformation →
      MapStep config s .assignTask (s.assignTask config cloud finalTransformation)
  | startThread {s : ScanMatcher P T V Q D} {task : MappingTask P T V Q} :
      s.callback = .startThread → s.mappingTask = some task →
      MapStep config s .startThread (s.startThread task)
  | raiseFlag {s : ScanMatcher P T V Q D} :
      s.callback = .raiseFlag →
      MapStep config s .raiseFlag { s with mappingFlag := true, callback := .idle }
  | clear {s : ScanMatcher P T V Q D} {k : Nat} {task : MappingTask P T V Q} :
      s.updateMaps[k]? = some { task := task, pc := .clear } →
      MapStep config s (.clear k) ({ s with targetedCloud := [] }.goto k task .appendScan)
  | appendScan {s : ScanMatcher P T V Q D} {k : Nat} {task : MappingTask P T V Q} :
      s.updateMaps[k]? = some { task := task, pc := .appendScan } →
      MapStep config s (.appendScan k)
        ({ s with
          targetedCloud := s.targetedCloud ++
            config.transformPointCloud task.finalTransformation
              (config.voxelGridMap task.cloud) }.goto k task .readSize)
  | readSize {s : ScanMatcher P T V Q D} {k : Nat} {task : MappingTask P T V Q} :
      s.updateMaps[k]? = some { task := task, pc := .readSize } →
      MapStep config s (.readSize k) (s.goto k task (.loop s.submaps.length 0))
  | appendSubmap {s : ScanMatcher P T V Q D} {k : Nat} {task : MappingTask P T V Q}
      {numSubmaps : Int} {i : Nat} :
      s.updateMaps[k]? = some { task := task, pc := .loop numSubmaps i } →
      MapStep config s (.appendSubmap k) (s.loopPass config k task numSubmaps i)
  | addDistance {s : ScanMatcher P T V Q D} {k : Nat} {task : MappingTask P T V Q} :
      s.updateMaps[k]? = some { task := task, pc := .addDistance } →
      MapStep config s (.addDistance k)
        ({ s with latestDistance := s.latestDistance + s.trans }.goto k task
          (.pushSubmap (s.latestDistance + s.trans)))
  | pushSubmap {s : ScanMatcher P T V Q D} {k : Nat} {task : MappingTask P T V Q}
      {distance : D} :
      s.updateMaps[k]? = some { task := task, pc := .pushSubmap distance } →
      MapStep config s (.pushSubmap k)
        ((s.pushSubmap (config.submap task distance)).goto k task .raiseUpdated)
  | raiseUpdated {s : ScanMatcher P T V Q D} {k : Nat} {task : MappingTask P T V Q} :
      s.updateMaps[k]? = some { task := task, pc := .raiseUpdated } →
      MapStep config s (.raiseUpdated k) ({ s with isMapUpdated := true }.goto k task .finish)
  | finish {s : ScanMatcher P T V Q D} {k : Nat} {task : MappingTask P T V Q} :
      s.updateMaps[k]? = some { task := task, pc := .finish } →
      MapStep config s (.finish k) (s.goto k task .returned)

/-- The node after an `initial_pose` message, with `trans` in the member `trans_`. -/
def scanMatcherMachine [Zero D] [Sub V] [Add D] [LE D] (config : ScanMatcherConfig P T V Q D)
    (initialPose : Pose V Q) (trans : D) : Machine (ScanMatcher P T V Q D) (MapAction P T) where
  Init s := s = .initial initialPose trans
  Step := MapStep config

/-- What the memory holds where a member has no initialiser. -/
structure Memory (V D : Type) where
  previousPosition : V
  trans : D

namespace ScanMatcher

/-- The members before there is a pose. -/
def constructed [Zero D] (emptyPose : Pose V Q) (memory : Memory V D) :
    ScanMatcher P T V Q D :=
  { initial emptyPose memory.trans with previousPosition := memory.previousPosition }

/-- The block of the constructor behind `set_initial_pose_`. -/
def setInitialPose (s : ScanMatcher P T V Q D) (pose : Pose V Q) : ScanMatcher P T V Q D :=
  { s with correntPose := pose }

end ScanMatcher

/-- The node that is started with `set_initial_pose`. -/
def parametersMachine [Zero D] [Sub V] [Add D] [LE D] (config : ScanMatcherConfig P T V Q D)
    (emptyPose pose : Pose V Q) (memory : Memory V D) :
    Machine (ScanMatcher P T V Q D) (MapAction P T) where
  Init s := s = (ScanMatcher.constructed emptyPose memory).setInitialPose pose
  Step := MapStep config

end RoboRacer.Slam
