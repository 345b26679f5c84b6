/-
  Slam/MapLoading.lean --- loading the map of the localisation node
  (`scanmatcher_custom/src/scanmatcher_component.cpp`: the constructor,
  `initial_pose_callback`, `cloud_callback`).

  The node in `Slam/Localization` does not tell whether its map file could be read.  Here
  a run also has a trace of what the callbacks have done with the initial pose, the file,
  the target and the map topic:

      NodeAction             an entry of the trace
      NeverWithoutMap        no scan is aligned before a map has been loaded
      map_loaded_first_iff   when that holds of a run

  The block that loads the map sets `initial_cloud_received_` before it could know, and
  no later scan tries again.
-/
import RoboRacer.Slam.Localization

set_option autoImplicit false

namespace RoboRacer.Slam

open RoboRacer.Foundation

variable {S G P V Q : Type}

/-! ## Traces -/

/-- What the callbacks do. -/
inductive NodeAction (P : Type) where
  /-- `initial_pose_received_` is set. -/
  | receivePose
  /-- `loadPCDFile`, with the cloud in the file; none when it fails. -/
  | loadPCDFile (file : Option (List P))
  | setInputTarget (cloud : List P)
  /-- A message on the map topic. -/
  | publishMap (msg : MapMsg P)
  | receiveCloud

namespace Localization

/-- The actions of the constructor. -/
def initialActions (config : LocalizationConfig S G P V Q) : List (NodeAction P) :=
  if config.setInitialPose then [.receivePose] else []

/-- The actions of `initial_pose_callback`. -/
def initialPoseActions (config : LocalizationConfig S G P V Q) (msg : PoseStamped S V Q) :
    List (NodeAction P) :=
  if msg.frameId ≠ config.globalFrameId then [] else [.receivePose]

/-- The actions of the block of `cloud_callback` that loads the map. -/
def loadMapActions [SMul G P] (config : LocalizationConfig S G P V Q)
    (s : Localization S G P V Q) (scan : InputCloud S G P) : List (NodeAction P) :=
  let simTrans := getTransformation config.tf s.correntPoseStamped.pose
  [.loadPCDFile scan.mapFile, .setInputTarget (transformPointCloud scan.map simTrans),
    .publishMap ⟨config.globalFrameId, scan.map⟩]

/-- The actions of `cloud_callback`. -/
def cloudActions [SMul G P] (config : LocalizationConfig S G P V Q) (s : Localization S G P V Q)
    (scan : InputCloud S G P) : List (NodeAction P) :=
  if s.initialPoseReceived = false then []
  else match scan.robotTransform with
    | none => []
    | some _ =>
      let loading := if s.initialCloudReceived = false then s.loadMapActions config scan else []
      let s := if s.initialCloudReceived = false then s.loadMap config scan else s
      loading ++ if s.initialCloudReceived then [.receiveCloud] else []

/-- The actions of a callback. -/
def actions [SMul G P] (config : LocalizationConfig S G P V Q) (s : Localization S G P V Q) :
    LocalizationEvent S G P V Q → List (NodeAction P)
  | .initialPose msg => initialPoseActions config msg
  | .inputCloud scan => s.cloudActions config scan

variable [Group G] [DecidableEq G] [SMul G P]

/-- The actions of some callbacks. -/
def actionsFrom (config : LocalizationConfig S G P V Q) :
    Localization S G P V Q → List (LocalizationEvent S G P V Q) → List (NodeAction P)
  | _, [] => []
  | s, e :: events => s.actions config e ++ actionsFrom config (s.step config e) events

/-- The actions of a run, oldest first. -/
def trace (config : LocalizationConfig S G P V Q) (events : List (LocalizationEvent S G P V Q)) :
    List (NodeAction P) :=
  initialActions config ++ actionsFrom config (initial config) events

theorem actionsFrom_concat (config : LocalizationConfig S G P V Q) (s : Localization S G P V Q)
    (events : List (LocalizationEvent S G P V Q)) (e : LocalizationEvent S G P V Q) :
    actionsFrom config s (events ++ [e]) =
      actionsFrom config s events ++ (events.foldl (step config) s).actions config e := by
  induction events generalizing s with
  | nil => exact List.append_nil _
  | cons first events ih =>
    change s.actions config first ++ actionsFrom config (s.step config first) (events ++ [e]) = _
    rw [ih, ← List.append_assoc]
    rfl

theorem trace_concat (config : LocalizationConfig S G P V Q)
    (events : List (LocalizationEvent S G P V Q)) (e : LocalizationEvent S G P V Q) :
    trace config (events ++ [e]) =
      trace config events ++ (after config events).actions config e := by
  rw [trace, actionsFrom_concat, ← List.append_assoc]
  rfl

/-- A longer run has a longer trace. -/
theorem trace_mono (config : LocalizationConfig S G P V Q)
    {events events' : List (LocalizationEvent S G P V Q)} (h : events <+: events') :
    trace config events <+: trace config events' := by
  obtain ⟨more, rfl⟩ := h
  induction more using List.reverseRecOn with
  | nil => rw [List.append_nil]
  | append_singleton more e ih =>
    rw [← List.append_assoc, trace_concat]
    exact ih.trans (List.prefix_append ..)

/-- What a callback does is in the trace of every run that it comes in. -/
theorem mem_trace (config : LocalizationConfig S G P V Q)
    {earlier events : List (LocalizationEvent S G P V Q)} {e : LocalizationEvent S G P V Q}
    (h : earlier ++ [e] <+: events) {action : NodeAction P}
    (haction : action ∈ (after config earlier).actions config e) :
    action ∈ trace config events := by
  have hmem : action ∈ trace config (earlier ++ [e]) := by
    rw [trace_concat]
    exact List.mem_append_right _ haction
  exact (trace_mono config h).subset hmem

end Localization

/-- The message of an action on the map topic. -/
def NodeAction.published : NodeAction P → Option (MapMsg P)
  | .publishMap msg => some msg
  | _ => none

/-- The target that an action sets. -/
def NodeAction.target : NodeAction P → Option (List P)
  | .setInputTarget cloud => some cloud
  | _ => none

/-- What is given to registration or published has points. -/
def NodeAction.HasPoints : NodeAction P → Prop
  | .setInputTarget cloud => cloud ≠ []
  | .publishMap msg => msg.cloud ≠ []
  | _ => True

/-- A pose has been received, and a map has been loaded. -/
structure ReadyToAlign (trace : List (NodeAction P)) : Prop where
  pose : .receivePose ∈ trace
  map : ∃ cloud, .loadPCDFile (some cloud) ∈ trace

/-- Scans are aligned only behind a pose and a map. -/
def AlignsWithMap (trace : List (NodeAction P)) : Prop :=
  ∀ before action, before ++ [action] <+: trace → action = .receiveCloud → ReadyToAlign before

/-- The node does not run without a map. -/
structure NeverWithoutMap [Group G] [DecidableEq G] [SMul G P]
    (config : LocalizationConfig S G P V Q) (events : List (LocalizationEvent S G P V Q)) :
    Prop where
  aligns : AlignsWithMap (Localization.trace config events)
  /-- Behind a load that has failed a later scan tries again. -/
  retries : ∀ earlier scan, earlier ++ [.inputCloud scan] <+: events →
    .loadPCDFile none ∈ (Localization.after config earlier).cloudActions config scan →
    (Localization.after config (earlier ++ [.inputCloud scan])).initialCloudReceived = false
  points : ∀ action ∈ Localization.trace config events, action.HasPoints

/-! ## One scan -/

section Traces

variable {trace : List (NodeAction P)} {action : NodeAction P}

theorem ReadyToAlign.append (h : ReadyToAlign trace) (more : List (NodeAction P)) :
    ReadyToAlign (trace ++ more) := by
  obtain ⟨cloud, hcloud⟩ := h.map
  exact ⟨List.mem_append_left _ h.pose, cloud, List.mem_append_left _ hcloud⟩

theorem alignsWithMap_concat_iff :
    AlignsWithMap (trace ++ [action]) ↔
      AlignsWithMap trace ∧ (action = .receiveCloud → ReadyToAlign trace) :=
  Machine.forall_prefix_concat

/-- An action that aligns no scan. -/
theorem AlignsWithMap.concat (h : AlignsWithMap trace) (hne : action ≠ .receiveCloud) :
    AlignsWithMap (trace ++ [action]) :=
  alignsWithMap_concat_iff.mpr ⟨h, fun heq => absurd heq hne⟩

end Traces

section Loading

variable {config : LocalizationConfig S G P V Q}
  {events events' : List (LocalizationEvent S G P V Q)} {scan : InputCloud S G P} {pose : Pose V Q}

/-- The scan that loads the map loads it in every longer run. -/
theorem LoadsMap.mono (h : LoadsMap config events scan pose) (hpre : events <+: events') :
    LoadsMap config events' scan pose := by
  obtain ⟨earlier, hearlier, hload⟩ := h
  exact ⟨earlier, hearlier.trans hpre, hload⟩

/-- A map with points is a map that could be read. -/
theorem exists_mapFile (h : scan.map ≠ []) : ∃ cloud, scan.mapFile = some cloud := by
  cases hfile : scan.mapFile with
  | none =>
    rw [InputCloud.map, hfile] at h
    exact absurd rfl h
  | some cloud => exact ⟨cloud, rfl⟩

theorem transformPointCloud_ne_nil [SMul G P] {cloud : List P} (h : cloud ≠ [])
    (transform : G) : transformPointCloud cloud transform ≠ [] :=
  fun hnil => h (List.map_eq_nil_iff.mp hnil)

end Loading

namespace Localization

section Cases

variable [SMul G P] {config : LocalizationConfig S G P V Q}
  {events : List (LocalizationEvent S G P V Q)} {s : Localization S G P V Q}

/-- What one scan does: nothing, or it is aligned, and the first one loads the map before
that. -/
theorem cloudActions_cases (h : s.Tells config events) (scan : InputCloud S G P) :
    (¬ Reaches config events scan ∧ s.cloudActions config scan = []) ∨
    (Reaches config events scan ∧ s.initialCloudReceived = true ∧
      s.cloudActions config scan = [.receiveCloud]) ∨
    (Reaches config events scan ∧ s.initialCloudReceived = false ∧
      s.cloudActions config scan = s.loadMapActions config scan ++ [.receiveCloud]) := by
  unfold cloudActions Reaches
  rw [← h.received]
  cases hpose : s.initialPoseReceived with
  | false => exact .inl ⟨by simp, rfl⟩
  | true =>
    cases htransform : scan.robotTransform with
    | none => exact .inl ⟨by simp, rfl⟩
    | some transform =>
      right
      cases hloaded : s.initialCloudReceived with
      | true => exact .inl ⟨⟨rfl, rfl⟩, rfl, by simp [hloaded]⟩
      | false => exact .inr ⟨⟨rfl, rfl⟩, rfl, by simp [loadMap]⟩

/-- A scan that gets past the early returns while the node has no map loads it. -/
theorem Tells.loadsMap (h : s.Tells config events) {scan : InputCloud S G P}
    (hreach : Reaches config events scan) (hwaiting : s.initialCloudReceived = false) :
    ∃ pose, LoadsMap config (events ++ [.inputCloud scan]) scan pose := by
  obtain ⟨pose, hpose⟩ := Option.isSome_iff_exists.mp hreach.1
  exact ⟨pose, loadsMap_concat_iff.mpr
    (.inr ⟨rfl, (h.waiting hwaiting).1, hpose, hreach.2⟩)⟩

/-- The scan that loads the map finds the node without one. -/
theorem Tells.of_noneReached (h : s.Tells config events) (hnone : NoneReached config events) :
    s.initialCloudReceived = false := by
  by_contra hloaded
  obtain ⟨scan, pose, hload⟩ := h.loaded (Bool.of_not_eq_false hloaded)
  exact hload.not_noneReached hnone

end Cases

section Runs

variable [Group G] [DecidableEq G] [SMul G P] {config : LocalizationConfig S G P V Q}
  {events : List (LocalizationEvent S G P V Q)}

/-- A scan that does not get past the early returns changes nothing. -/
theorem cloudCallback_of_not_reaches {s : Localization S G P V Q} (h : s.Tells config events)
    {scan : InputCloud S G P} (hreach : ¬ Reaches config events scan) :
    s.cloudCallback config scan = s := by
  rcases cloudCallback_cases h scan with ⟨-, heq⟩ | ⟨hr, -⟩
  · exact heq
  · exact absurd hr hreach

/-- What one scan does to the map topic and the target is in its actions. -/
theorem cloudCallback_actions {s : Localization S G P V Q} (h : s.Tells config events)
    (scan : InputCloud S G P) :
    (s.cloudCallback config scan).maps =
      s.maps ++ (s.cloudActions config scan).filterMap NodeAction.published ∧
    (s.cloudCallback config scan).inputTarget =
      ((s.cloudActions config scan).filterMap NodeAction.target).getLast?.or s.inputTarget := by
  rcases cloudCallback_cases h scan with ⟨hreach, heq⟩ | ⟨hreach, cloud, heq⟩
  · rcases cloudActions_cases h scan with ⟨-, hnil⟩ | ⟨hr, -⟩ | ⟨hr, -⟩
    · rw [heq, hnil]
      exact ⟨(List.append_nil _).symm, rfl⟩
    · exact absurd hr hreach
    · exact absurd hr hreach
  · obtain ⟨htarget, hmaps, -, -⟩ := receiveCloud_keeps config
      (if s.initialCloudReceived = false then s.loadMap config scan else s) scan cloud
    rw [heq, htarget, hmaps]
    rcases cloudActions_cases h scan with ⟨hr, -⟩ | ⟨-, hloaded, hactions⟩ |
      ⟨-, hwaiting, hactions⟩
    · exact absurd hreach hr
    · rw [hactions, if_neg (by rw [hloaded]; simp)]
      exact ⟨(List.append_nil _).symm, rfl⟩
    · rw [hactions, if_pos hwaiting]
      exact ⟨rfl, rfl⟩

/-- **The trace tells what the node has.**  The maps that were published and the target of
registration are those in the trace. -/
theorem trace_tells (config : LocalizationConfig S G P V Q)
    (events : List (LocalizationEvent S G P V Q)) :
    (after config events).maps = (trace config events).filterMap NodeAction.published ∧
    (after config events).inputTarget =
      ((trace config events).filterMap NodeAction.target).getLast? := by
  induction events using List.reverseRecOn with
  | nil =>
    have htrace : trace config [] = initialActions config := List.append_nil _
    have hstate : after config [] = initial config := rfl
    rw [htrace, hstate, initial, initialActions]
    split
    · exact ⟨rfl, rfl⟩
    · exact ⟨rfl, rfl⟩
  | append_singleton events e ih =>
    obtain ⟨hmaps, htarget⟩ := ih
    have hstate : after config (events ++ [e]) = (after config events).step config e :=
      List.foldl_concat ..
    rw [hstate, trace_concat, List.filterMap_append, List.filterMap_append, List.getLast?_append,
      ← hmaps, ← htarget]
    cases e with
    | initialPose msg =>
      change ((after config events).initialPoseCallback config msg).maps =
          _ ++ (initialPoseActions config msg).filterMap _ ∧
        ((after config events).initialPoseCallback config msg).inputTarget =
          ((initialPoseActions config msg).filterMap _).getLast?.or _
      unfold initialPoseCallback initialPoseActions
      split
      · exact ⟨(List.append_nil _).symm, rfl⟩
      · exact ⟨(List.append_nil _).symm, rfl⟩
    | inputCloud scan => exact cloudCallback_actions (tells_after config events) scan

/-- What the trace of a run says, if the map that it loads has points. -/
structure Traced (config : LocalizationConfig S G P V Q)
    (events : List (LocalizationEvent S G P V Q)) : Prop where
  pose : (after config events).initialPoseReceived = true → .receivePose ∈ trace config events
  ready : (after config events).initialCloudReceived = true → ReadyToAlign (trace config events)
  aligns : AlignsWithMap (trace config events)
  points : ∀ action ∈ trace config events, action.HasPoints

/-- An event that does nothing. -/
theorem Traced.stays (h : Traced config events) {events' : List (LocalizationEvent S G P V Q)}
    (hstate : after config events' = after config events)
    (htrace : trace config events' = trace config events) : Traced config events' := by
  constructor
  case pose => rw [hstate, htrace]; exact h.pose
  case ready => rw [hstate, htrace]; exact h.ready
  case aligns => rw [htrace]; exact h.aligns
  case points => rw [htrace]; exact h.points

/-- A run that ends where a scan is aligned, behind a pose and a map. -/
theorem traced_of_receiveCloud {before : List (NodeAction P)}
    (htrace : trace config events = before ++ [.receiveCloud]) (hready : ReadyToAlign before)
    (haligns : AlignsWithMap before) (hpoints : ∀ action ∈ before, action.HasPoints) :
    Traced config events := by
  have hready' : ReadyToAlign (trace config events) := by
    rw [htrace]
    exact hready.append _
  constructor
  case pose => exact fun _ => hready'.pose
  case ready => exact fun _ => hready'
  case aligns =>
    rw [htrace, alignsWithMap_concat_iff]
    exact ⟨haligns, fun _ => hready⟩
  case points =>
    rw [htrace, List.forall_mem_append, List.forall_mem_singleton]
    exact ⟨hpoints, trivial⟩

theorem traced_nil : Traced config [] := by
  have htrace : trace config [] = initialActions config := List.append_nil _
  constructor
  case pose =>
    intro hpose
    rw [htrace, initialActions]
    cases hset : config.setInitialPose with
    | true => exact List.mem_singleton_self _
    | false => simp [after, initial, hset] at hpose
  case ready =>
    intro hloaded
    cases hset : config.setInitialPose with
    | true => simp [after, initial, hset] at hloaded
    | false => simp [after, initial, hset] at hloaded
  case aligns =>
    rw [htrace, initialActions]
    have hnil : AlignsWithMap ([] : List (NodeAction P)) :=
      fun before action hpre => absurd hpre Machine.not_prefix_nil
    split
    · exact hnil.concat (by simp)
    · exact hnil
  case points =>
    rw [htrace, initialActions]
    split
    · exact List.forall_mem_singleton.mpr trivial
    · exact fun action hmem => absurd hmem List.not_mem_nil

theorem Traced.initialPose (h : Traced config events) (msg : PoseStamped S V Q) :
    Traced config (events ++ [.initialPose msg]) := by
  have hstate : after config (events ++ [.initialPose msg]) =
      (after config events).initialPoseCallback config msg := List.foldl_concat ..
  have htrace : trace config (events ++ [.initialPose msg]) =
      trace config events ++ initialPoseActions config msg := trace_concat ..
  unfold initialPoseCallback at hstate
  unfold initialPoseActions at htrace
  by_cases hframe : msg.frameId ≠ config.globalFrameId
  · rw [if_pos hframe] at hstate htrace
    rw [List.append_nil] at htrace
    exact h.stays hstate htrace
  · rw [if_neg hframe] at hstate htrace
    constructor
    case pose =>
      intro _
      rw [htrace]
      exact List.mem_append_right _ (List.mem_singleton_self _)
    case ready =>
      intro hloaded
      rw [hstate] at hloaded
      rw [htrace]
      exact (h.ready hloaded).append _
    case aligns =>
      rw [htrace]
      exact h.aligns.concat (by simp)
    case points =>
      rw [htrace, List.forall_mem_append, List.forall_mem_singleton]
      exact ⟨h.points, trivial⟩

theorem Traced.inputCloud (h : Traced config events) {scan : InputCloud S G P}
    (hmap : ∀ pose, LoadsMap config (events ++ [.inputCloud scan]) scan pose → scan.map ≠ []) :
    Traced config (events ++ [.inputCloud scan]) := by
  have htells := tells_after config events
  have hstate : after config (events ++ [.inputCloud scan]) =
      (after config events).cloudCallback config scan := List.foldl_concat ..
  have htrace : trace config (events ++ [.inputCloud scan]) =
      trace config events ++ (after config events).cloudActions config scan := trace_concat ..
  rcases cloudActions_cases htells scan with ⟨hreach, hnil⟩ | ⟨-, hloaded, hactions⟩ |
    ⟨hreach, hwaiting, hactions⟩
  · rw [hnil, List.append_nil] at htrace
    rw [cloudCallback_of_not_reaches htells hreach] at hstate
    exact h.stays hstate htrace
  · rw [hactions] at htrace
    exact traced_of_receiveCloud htrace (h.ready hloaded) h.aligns h.points
  · obtain ⟨pose, hload⟩ := htells.loadsMap hreach hwaiting
    have hne := hmap pose hload
    obtain ⟨cloud, hfile⟩ := exists_mapFile hne
    have hreceived : (after config events).initialPoseReceived = true :=
      htells.received.trans hreach.1
    rw [hactions, ← List.append_assoc] at htrace
    refine traced_of_receiveCloud htrace ⟨?_, cloud, ?_⟩ ?_ ?_
    · exact List.mem_append_left _ (h.pose hreceived)
    · rw [loadMapActions, hfile]
      exact List.mem_append_right _ List.mem_cons_self
    · rw [loadMapActions, List.append_cons _ _ [_, _], List.append_cons _ _ [_]]
      exact ((h.aligns.concat (by simp)).concat (by simp)).concat (by simp)
    · rw [List.forall_mem_append]
      refine ⟨h.points, ?_⟩
      simp only [loadMapActions, List.forall_mem_cons]
      exact ⟨trivial, transformPointCloud_ne_nil hne _, hne, by simp⟩

/-- **Run rule.**  If the map that a run loads has points, its trace is what it should be. -/
theorem traced (config : LocalizationConfig S G P V Q)
    (events : List (LocalizationEvent S G P V Q))
    (hmap : ∀ scan pose, LoadsMap config events scan pose → scan.map ≠ []) :
    Traced config events := by
  induction events using List.reverseRecOn with
  | nil => exact traced_nil
  | append_singleton events e ih =>
    have hbefore := ih fun scan pose hload =>
      hmap scan pose (hload.mono (List.prefix_append ..))
    cases e with
    | initialPose msg => exact hbefore.initialPose msg
    | inputCloud scan => exact hbefore.inputCloud (hmap scan)

end Runs

end Localization

/-! ## The property -/

/-- **When the node does not run without a map.**

In every run of poses and scans, whatever the lookups and the map file answer: scans are
aligned only behind a pose and a loaded map, a scan behind a failed load tries again, and no
map without points is set as the target or published, if and only if the scan that loads the
map, if there is one, finds a map with points. -/
theorem map_loaded_first_iff [Group G] [DecidableEq G] [SMul G P]
    (config : LocalizationConfig S G P V Q) (events : List (LocalizationEvent S G P V Q)) :
    NeverWithoutMap config events ↔
      ∀ scan pose, LoadsMap config events scan pose → scan.map ≠ [] := by
  constructor
  · rintro ⟨-, -, hpoints⟩ scan pose ⟨earlier, hpre, hnone, hpose, htransform⟩
    have htells := Localization.tells_after config earlier
    have hreach : Reaches config earlier scan := ⟨by rw [hpose]; rfl, htransform⟩
    have hwaiting := htells.of_noneReached hnone
    have hpublish : .publishMap ⟨config.globalFrameId, scan.map⟩ ∈
        (Localization.after config earlier).cloudActions config scan := by
      rcases Localization.cloudActions_cases htells scan with ⟨hnot, -⟩ | ⟨-, hloaded, -⟩ |
        ⟨-, -, hactions⟩
      · exact absurd hreach hnot
      · rw [hwaiting] at hloaded
        cases hloaded
      · rw [hactions]
        exact List.mem_append_left _ (.tail _ (.tail _ (.head _)))
    exact hpoints _ (Localization.mem_trace config hpre hpublish)
  · intro hmap
    have htraced := Localization.traced config events hmap
    refine ⟨htraced.aligns, fun earlier scan hpre hfailed => ?_, htraced.points⟩
    have htells := Localization.tells_after config earlier
    -- no load fails: it would leave a map without points
    rcases Localization.cloudActions_cases htells scan with ⟨-, hnil⟩ | ⟨-, -, hactions⟩ |
      ⟨hreach, hwaiting, hactions⟩
    · rw [hnil] at hfailed
      cases hfailed
    · rw [hactions] at hfailed
      cases List.mem_singleton.mp hfailed
    · obtain ⟨pose, hload⟩ := htells.loadsMap hreach hwaiting
      obtain ⟨cloud, hfile⟩ := exists_mapFile (hmap scan pose (hload.mono hpre))
      rw [hactions, Localization.loadMapActions, hfile] at hfailed
      simp at hfailed

/-! ### A wrong path -/

/-- A scan of one point, with what the map file holds. -/
def lineScan (mapFile : Option (List Int)) : InputCloud Unit (Multiplicative Int) Int where
  stamp := ()
  cloud := [1]
  robotTransform := some 1
  odomTransform := none
  adjustDistortion := id
  mapFile := mapFile
  align := fun _ _ guess => guess

/-- The file cannot be read.  The node publishes a map without points and aligns the scan,
and will not try again. -/
theorem failed_load_aligns :
    ¬ ∀ (config : LocalizationConfig Unit (Multiplicative Int) Int Int Unit)
      (events : List (LocalizationEvent Unit (Multiplicative Int) Int Int Unit)),
      NeverWithoutMap config events := by
  intro h
  have hretries := (h lineLocalizationConfig [.inputCloud (lineScan none)]).retries []
    (lineScan none) List.prefix_rfl (.head _)
  cases hretries

end RoboRacer.Slam
