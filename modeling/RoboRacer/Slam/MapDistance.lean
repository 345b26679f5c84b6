/-
  Slam/MapDistance.lean --- the travelled distance of the submaps.

  `publishMapAndPose` stores in `trans_` how far the scan is from the last map
  update, and `updateMap` adds `trans_` to the distance of the map.  It reads the
  member only when it is about to append its submap, and by then a later scan may
  have stored its own distance there.

      overwrites          what had been stored over `trans_` when it was read
      submap_distance_iff the distance between two submaps is right if and only
                          if nothing was, or the scan that did was as far away
-/
import Mathlib.Analysis.InnerProductSpace.PiL2
import RoboRacer.Slam.MapHandshake

set_option autoImplicit false

namespace RoboRacer.Slam

open RoboRacer.Foundation

variable {P T V Q D : Type}

/-! ## Writes of `trans_` between a trigger and its read -/

/-- The last scan that wrote `trans_` since a thread was started, and the same for
each thread at the time at which it read `trans_`. -/
structure TransWrites (T : Type) where
  since : Option T
  atRead : List (Option T)

/-- One step of the node. -/
def TransWrites.step (w : TransWrites T) : MapAction P T → TransWrites T
  | .publish finalTransformation => { w with since := some finalTransformation }
  | .startThread => { w with since := none }
  | .addDistance _ => { w with atRead := w.atRead ++ [w.since] }
  | _ => w

/-- The writes of a run. -/
def overwrites (actions : List (MapAction P T)) : TransWrites T :=
  actions.foldl TransWrites.step { since := none, atRead := [] }

theorem overwrites_snoc (actions : List (MapAction P T)) (action : MapAction P T) :
    overwrites (actions ++ [action]) = (overwrites actions).step action := by
  rw [overwrites, List.foldl_append]
  rfl

/-- What is added to the distance for a submap at `current` behind one at `previous`:
how far it is, unless a later scan has stored how far that one is from it. -/
def ScanMatcherConfig.added [Sub V] (config : ScanMatcherConfig P T V Q D)
    (overwrite : Option T) (previous current : V) : D :=
  match overwrite with
  | none => config.norm (current - previous)
  | some finalTransformation => config.norm (config.position finalTransformation - current)

/-! ## The invariant -/

/-- How far a thread is with `trans_`. -/
inductive ReadStage (D : Type) where
  /-- It is still to be read. -/
  | before
  /-- It was added, and the submap is still to be appended. -/
  | between (distance : D)
  /-- The submap was appended. -/
  | after

/-- The stage of a place in `updateMap`. -/
def UpdatePc.stage : UpdatePc D → ReadStage D
  | .clear => .before
  | .appendScan => .before
  | .readSize => .before
  | .loop _ _ => .before
  | .addDistance => .before
  | .pushSubmap distance => .between distance
  | .raiseUpdated => .after
  | .finish => .after
  | .returned => .after
  -- reached, if at all, from the loop
  | .undefined => .before

section Invariant

variable [Sub V] [Add D]

/-- What the members say about the distance to the last submap. -/
inductive ToLast (config : ScanMatcherConfig P T V Q D) (s : ScanMatcher P T V Q D)
    (w : TransWrites T) (last : SubMap P V Q D) : Prop
  | settled (current : ∀ u, s.updateMaps.getLast? = some u → u.pc.stage = .after)
      (latest : s.latestDistance = last.distance)
      (reads : w.atRead.length + 1 = s.submaps.length)
      (previous : s.callback ≠ .startThread → s.previousPosition = last.pose.position)
      (starting : s.callback = .startThread → ∀ task, s.mappingTask = some task →
        s.previousPosition = task.correntPose.position ∧
          s.trans = config.norm (task.correntPose.position - last.pose.position)) :
      ToLast config s w last
  | before {u : UpdateMap P T V Q D} (current : s.updateMaps.getLast? = some u)
      (stage : u.pc.stage = .before) (latest : s.latestDistance = last.distance)
      (reads : w.atRead.length + 1 = s.submaps.length)
      (previous : s.previousPosition = u.task.correntPose.position)
      (trans : s.trans =
        config.added w.since last.pose.position u.task.correntPose.position) :
      ToLast config s w last
  | between {u : UpdateMap P T V Q D} {distance : D} {overwrite : Option T}
      (current : s.updateMaps.getLast? = some u) (stage : u.pc.stage = .between distance)
      (latest : s.latestDistance = distance) (reads : w.atRead.length = s.submaps.length)
      (previous : s.previousPosition = u.task.correntPose.position)
      (read : w.atRead.getLast? = some overwrite)
      (added : distance = last.distance +
        config.added overwrite last.pose.position u.task.correntPose.position) :
      ToLast config s w last

/-- The distances of the submaps, and what they will be extended by. -/
structure Measured [Zero D] (config : ScanMatcherConfig P T V Q D) (s : ScanMatcher P T V Q D)
    (w : TransWrites T) : Prop where
  /-- Each distance is the one before it and what was added. -/
  steps : ∀ k a b, s.submaps[k]? = some a → s.submaps[k + 1]? = some b →
    ∃ overwrite, w.atRead[k]? = some overwrite ∧
      b.distance = a.distance + config.added overwrite a.pose.position b.pose.position
  /-- Before the first scan nothing has been written. -/
  fresh : s.submaps = [] →
    s.correntPose.position = s.previousPosition ∧ s.latestDistance = 0 ∧ w.atRead = [] ∧
      s.updateMaps = []
  /-- The members, once there is a submap. -/
  toLast : ∀ last, s.submaps.getLast? = some last → ToLast config s w last
  /-- A scan that may trigger has just stored its own distance. -/
  triggered : ∀ cloud finalTransformation,
    s.callback = .testTrigger cloud finalTransformation ∨
      s.callback = .assignTask cloud finalTransformation →
    s.correntPose.position = config.position finalTransformation ∧
      s.trans = config.norm (config.position finalTransformation - s.previousPosition)

end Invariant

/-! ## The steps -/

section Steps

variable {config : ScanMatcherConfig P T V Q D} {s : ScanMatcher P T V Q D}
  {w : TransWrites T}

/-- The thread that goes on is the last one, before and after. -/
theorem Phase.getLast_of_running (h : Phase config s) {k : Nat} {u : UpdateMap P T V Q D}
    (hk : s.updateMaps[k]? = some u) (hpc : u.pc ≠ .returned) :
    s.updateMaps.getLast? = some u ∧ ∀ v, (s.updateMaps.set k v).getLast? = some v := by
  obtain ⟨earlier, rfl, -, hbusy, -⟩ := h.of_running hk hpc
  rw [hbusy.updateMaps]
  refine ⟨List.getLast?_concat, fun v => ?_⟩
  rw [List.set_append_right _ _ (Nat.le_refl _), Nat.sub_self]
  exact List.getLast?_concat

variable [Sub V]

section Add

variable [Add D]

/-- A callback that writes no member of the distance, and neither is nor was about
to start a thread. -/
theorem ToLast.setCallback {last : SubMap P V Q D} (h : ToLast config s w last)
    (hs : s.callback ≠ .startThread) {inputTargets : List (List P)}
    {mappingFlag isMapUpdated : Bool} {mappingThread : Option Nat} {callback : CallbackPc P T}
    (hcallback : callback ≠ .startThread) :
    ToLast config
      { s with
        inputTargets := inputTargets
        mappingFlag := mappingFlag
        isMapUpdated := isMapUpdated
        mappingThread := mappingThread
        callback := callback } w last := by
  cases h with
  | settled current latest reads previous =>
    exact .settled current latest reads (fun _ => previous hs) (fun h => absurd h hcallback)
  | before current stage latest reads previous trans =>
    exact .before current stage latest reads previous trans
  | between current stage latest reads previous read added =>
    exact .between current stage latest reads previous read added

theorem Measured.setCallback [Zero D] (h : Measured config s w) (hs : s.callback ≠ .startThread)
    {inputTargets : List (List P)} {mappingFlag isMapUpdated : Bool}
    {mappingThread : Option Nat} {callback : CallbackPc P T} (hcallback : callback ≠ .startThread)
    (htrigger : ∀ cloud finalTransformation, callback ≠ .testTrigger cloud finalTransformation ∧
      callback ≠ .assignTask cloud finalTransformation) :
    Measured config
      { s with
        inputTargets := inputTargets
        mappingFlag := mappingFlag
        isMapUpdated := isMapUpdated
        mappingThread := mappingThread
        callback := callback } w where
  steps := h.steps
  fresh := h.fresh
  toLast last hlast := (h.toLast last hlast).setCallback hs hcallback
  triggered cloud finalTransformation heq := by
    rcases heq with heq | heq
    · exact absurd heq (htrigger cloud finalTransformation).1
    · exact absurd heq (htrigger cloud finalTransformation).2

/-- There is a thread, so there is a submap. -/
theorem Measured.submaps_ne_nil [Zero D] (h : Measured config s w) {k : Nat}
    {u : UpdateMap P T V Q D} (hk : s.updateMaps[k]? = some u) : s.submaps ≠ [] := by
  intro hsubmaps
  rw [(h.fresh hsubmaps).2.2.2] at hk
  cases hk

/-- A thread goes on without touching a member of the distance. -/
theorem Measured.goto [Zero D] (h : Measured config s w) (hphase : Phase config s) {k : Nat}
    {task : MappingTask P T V Q} {pc pc' : UpdatePc D}
    (hk : s.updateMaps[k]? = some { task := task, pc := pc }) (hpc : pc ≠ .returned)
    (hstage : pc'.stage = pc.stage) {targetedCloud : List P} {isMapUpdated : Bool} :
    Measured config
      ({ s with targetedCloud := targetedCloud, isMapUpdated := isMapUpdated }.goto k task pc')
      w := by
  obtain ⟨hlast, hset⟩ := hphase.getLast_of_running hk hpc
  refine ⟨h.steps, fun hsubmaps => ?_, fun last hsubmap => ?_, h.triggered⟩
  · exact absurd hsubmaps (h.submaps_ne_nil hk)
  · cases h.toLast last hsubmap with
    | settled current latest reads previous starting =>
      refine .settled (fun u hu => ?_) latest reads previous starting
      obtain rfl := Option.some.inj ((hset _).symm.trans hu)
      exact hstage.trans (current _ hlast)
    | before current stage latest reads previous trans =>
      rw [hlast] at current
      cases current
      exact .before (hset _) (hstage.trans stage) latest reads previous trans
    | between current stage latest reads previous read added =>
      rw [hlast] at current
      cases current
      exact .between (hset _) (hstage.trans stage) latest reads previous read added

/-- `latest_distance_ += trans_`. -/
theorem Measured.addDistance [Zero D] (h : Measured config s w) (hphase : Phase config s)
    {k : Nat} {task : MappingTask P T V Q}
    (hk : s.updateMaps[k]? = some { task := task, pc := .addDistance }) :
    Measured config
      ({ s with latestDistance := s.latestDistance + s.trans }.goto k task
        (.pushSubmap (s.latestDistance + s.trans)))
      { w with atRead := w.atRead ++ [w.since] } := by
  obtain ⟨hlast, hset⟩ := hphase.getLast_of_running hk (by simp)
  refine ⟨fun j a b ha hb => ?_, fun hsubmaps => ?_, fun last hsubmap => ?_, h.triggered⟩
  · obtain ⟨overwrite, hread, hdistance⟩ := h.steps j a b ha hb
    refine ⟨overwrite, ?_, hdistance⟩
    rw [List.getElem?_append_left (List.getElem?_eq_some_iff.mp hread).1]
    exact hread
  · exact absurd hsubmaps (h.submaps_ne_nil hk)
  · cases h.toLast last hsubmap with
    | settled current =>
      have hstage := current _ hlast
      cases hstage
    | before current stage latest reads previous trans =>
      rw [hlast] at current
      cases current
      refine .between (hset _) rfl rfl ?_ previous List.getLast?_concat ?_
      · rw [List.length_append]
        exact reads
      · rw [latest, trans]
    | between current stage =>
      rw [hlast] at current
      cases current
      cases stage

/-- Two successive elements after one more is appended: either they were there
before, or the second is the new one. -/
theorem successive_concat {α : Type} {xs : List α} {x a b : α} {j : Nat}
    (ha : (xs ++ [x])[j]? = some a) (hb : (xs ++ [x])[j + 1]? = some b) :
    (xs[j]? = some a ∧ xs[j + 1]? = some b) ∨
      (j + 1 = xs.length ∧ xs.getLast? = some a ∧ b = x) := by
  rcases Nat.lt_trichotomy (j + 1) xs.length with hlt | heq | hgt
  · rw [List.getElem?_append_left hlt] at hb
    rw [List.getElem?_append_left (by omega)] at ha
    exact .inl ⟨ha, hb⟩
  · rw [heq, List.getElem?_concat_length] at hb
    rw [List.getElem?_append_left (by omega)] at ha
    refine .inr ⟨heq, ?_, (Option.some.inj hb).symm⟩
    rw [List.getLast?_eq_getElem?, ← heq, Nat.add_sub_cancel]
    exact ha
  · rw [List.getElem?_eq_none (by simp; omega)] at hb
    cases hb

/-- The thread appends its submap. -/
theorem Measured.pushSubmap [Zero D] (h : Measured config s w) (hphase : Phase config s)
    {k : Nat} {task : MappingTask P T V Q} {distance : D}
    (hk : s.updateMaps[k]? = some { task := task, pc := .pushSubmap distance }) :
    Measured config
      ((s.pushSubmap (config.submap task distance)).goto k task .raiseUpdated) w := by
  obtain ⟨hthread, hset⟩ := hphase.getLast_of_running hk (by simp)
  obtain ⟨last, hlast⟩ : ∃ last, s.submaps.getLast? = some last :=
    ⟨_, List.getLast?_eq_some_getLast (h.submaps_ne_nil hk)⟩
  -- the submap is appended by the thread that has just read `trans_`
  cases h.toLast last hlast with
  | settled current =>
    have hstage := current _ hthread
    cases hstage
  | before current stage =>
    rw [hthread] at current
    cases current
    cases stage
  | @between u distance' overwrite current stage latest reads previous read added =>
    rw [hthread] at current
    cases current
    cases stage
    refine ⟨fun j a b ha hb => ?_, fun hsubmaps => ?_, fun last' hlast' => ?_, h.triggered⟩
    · rcases successive_concat ha hb with ⟨ha, hb⟩ | ⟨hj, ha, rfl⟩
      · exact h.steps j a b ha hb
      · rw [hlast] at ha
        cases ha
        rw [List.getLast?_eq_getElem?, reads, ← hj, Nat.add_sub_cancel] at read
        exact ⟨overwrite, read, added⟩
    · exact absurd hsubmaps (by simp [ScanMatcher.goto, ScanMatcher.pushSubmap])
    · have hnew := Option.some.inj ((List.getLast?_concat).symm.trans hlast')
      subst hnew
      refine .settled (fun u hu => ?_) latest ?_ (fun _ => previous) (fun hstart => ?_)
      · obtain rfl := Option.some.inj ((hset _).symm.trans hu)
        rfl
      · show w.atRead.length + 1 = (s.submaps ++ [_]).length
        rw [reads, List.length_append]
        rfl
      · -- no thread is started while another one runs
        obtain ⟨-, -, -, -, hwaits⟩ := hphase.of_running hk (by simp)
        have hfalse := hwaits True
        rw [show s.callback = .startThread from hstart] at hfalse
        exact hfalse.elim

/-- `publishMapAndPose` stores the distance of the scan. -/
theorem Measured.publish [Zero D] (h : Measured config s w) (hphase : Phase config s)
    {cloud : List P} {finalTransformation : T} (hcallback : s.callback = .align cloud) :
    Measured config (s.publish config cloud finalTransformation)
      { w with since := some finalTransformation } := by
  have hne : s.submaps ≠ [] := hphase.submaps_ne_nil (by rw [hcallback]; simp)
  refine ⟨h.steps, fun hsubmaps => absurd hsubmaps hne, fun last hlast => ?_,
    fun cloud' finalTransformation' heq => ?_⟩
  · cases h.toLast last hlast with
    | settled current latest reads previous =>
      exact .settled current latest reads (fun _ => previous (by rw [hcallback]; simp))
        (by intro hstart; cases hstart)
    | before current stage latest reads previous =>
      refine .before current stage latest reads previous ?_
      show config.norm (config.position finalTransformation - s.previousPosition) = _
      rw [previous]
      rfl
    | between current stage latest reads previous read added =>
      exact .between current stage latest reads previous read added
  · rcases heq with heq | heq
    · cases heq
      exact ⟨rfl, rfl⟩
    · cases heq

theorem Measured.trigger [Zero D] (h : Measured config s w) {cloud : List P}
    {finalTransformation : T} (hcallback : s.callback = .testTrigger cloud finalTransformation) :
    Measured config { s with callback := .assignTask cloud finalTransformation } w where
  steps := h.steps
  fresh := h.fresh
  toLast last hlast :=
    (h.toLast last hlast).setCallback (by rw [hcallback]; simp) (by simp)
  triggered cloud' finalTransformation' heq := by
    rcases heq with heq | heq
    · cases heq
    · cases heq
      exact h.triggered cloud finalTransformation (.inl hcallback)

/-- In the resting phase the last thread has appended its submap. -/
theorem ToLast.settled_of_resting {last : SubMap P V Q D} (h : ToLast config s w last)
    (hresting : Resting config s) :
    s.latestDistance = last.distance ∧ w.atRead.length + 1 = s.submaps.length ∧
      (s.callback ≠ .startThread → s.previousPosition = last.pose.position) ∧
      (s.callback = .startThread → ∀ task, s.mappingTask = some task →
        s.previousPosition = task.correntPose.position ∧
          s.trans = config.norm (task.correntPose.position - last.pose.position)) := by
  have hreturned : ∀ u, s.updateMaps.getLast? = some u → u.pc.stage = .after := by
    intro u hu
    rw [hresting.returned u (List.mem_of_getLast? hu)]
    rfl
  cases h with
  | settled current latest reads previous starting => exact ⟨latest, reads, previous, starting⟩
  | before current stage =>
    rw [hreturned _ current] at stage
    cases stage
  | between current stage =>
    rw [hreturned _ current] at stage
    cases stage

theorem Measured.assignTask [Zero D] (h : Measured config s w) (hphase : Phase config s)
    {cloud : List P} {finalTransformation : T}
    (hcallback : s.callback = .assignTask cloud finalTransformation) :
    Measured config (s.assignTask config cloud finalTransformation) w := by
  have hne : s.submaps ≠ [] := hphase.submaps_ne_nil (by rw [hcallback]; simp)
  have hresting := hphase.resting_of_assignTask hcallback
  obtain ⟨hposition, htrans⟩ := h.triggered cloud finalTransformation (.inr hcallback)
  rw [ScanMatcher.assignTask, if_pos hresting.all_ready]
  refine ⟨h.steps, fun hsubmaps => absurd hsubmaps hne, fun last hlast => ?_,
    by rintro _ _ (heq | heq) <;> cases heq⟩
  obtain ⟨latest, reads, previous, -⟩ := (h.toLast last hlast).settled_of_resting hresting
  refine .settled (fun u hu => ?_) latest reads (fun h => absurd rfl h) (fun _ task htask => ?_)
  · rw [hresting.returned u (List.mem_of_getLast? hu)]
    rfl
  · cases htask
    refine ⟨hposition.symm, ?_⟩
    show s.trans = config.norm (s.correntPose.position - last.pose.position)
    rw [htrans, hposition, previous (by rw [hcallback]; simp)]

theorem Measured.startThread [Zero D] (h : Measured config s w) (hphase : Phase config s)
    {task : MappingTask P T V Q} (hcallback : s.callback = .startThread)
    (htask : s.mappingTask = some task) :
    Measured config (s.startThread task) { w with since := none } := by
  have hne : s.submaps ≠ [] := hphase.submaps_ne_nil (by rw [hcallback]; simp)
  obtain ⟨hresting, -⟩ := hphase.resting_of_startThread hcallback
  rw [ScanMatcher.startThread, hresting.thread]
  refine ⟨h.steps, fun hsubmaps => absurd hsubmaps hne, fun last hlast => ?_,
    by rintro _ _ (heq | heq) <;> cases heq⟩
  obtain ⟨latest, reads, -, starting⟩ := (h.toLast last hlast).settled_of_resting hresting
  obtain ⟨hprevious, htrans⟩ := starting hcallback task htask
  exact .before List.getLast?_concat rfl latest reads hprevious htrans

theorem Measured.createFirstMap [Zero D] (h : Measured config s w) (hphase : Phase config s)
    (hreceived : s.initialCloudReceived = false) {cloud : List P} :
    Measured config (s.createFirstMap config cloud) w := by
  have hsubmaps : s.submaps = [] := by
    cases hphase with
    | fresh _ _ _ _ _ _ submaps => exact submaps
    | resting received => rw [received] at hreceived; cases hreceived
    | busy received => rw [received] at hreceived; cases hreceived
    | collected received => rw [received] at hreceived; cases hreceived
  obtain ⟨hposition, hlatest, hreads, hthreads⟩ := h.fresh hsubmaps
  refine ⟨fun j a b _ hb => ?_, fun hnil => ?_, fun last hlast => ?_,
    by rintro _ _ (heq | heq) <;> cases heq⟩
  · have hb' : (s.submaps ++ [_])[j + 1]? = some b := hb
    rw [hsubmaps] at hb'
    cases hb'
  · exact absurd hnil (by simp [ScanMatcher.createFirstMap])
  · have hfirst := Option.some.inj ((List.getLast?_concat).symm.trans hlast)
    subst hfirst
    refine .settled (fun u hu => ?_) hlatest ?_ (fun _ => hposition.symm) (by intro h; cases h)
    · have hu' : s.updateMaps.getLast? = some u := hu
      rw [hthreads] at hu'
      cases hu'
    · show w.atRead.length + 1 = (s.submaps ++ [_]).length
      rw [hreads, hsubmaps]
      rfl

theorem Measured.loopPass [Zero D] (h : Measured config s w) (hphase : Phase config s)
    {k : Nat} {task : MappingTask P T V Q} {numSubmaps : Int} {i : Nat}
    (hk : s.updateMaps[k]? = some { task := task, pc := .loop numSubmaps i }) :
    Measured config (s.loopPass config k task numSubmaps i) w := by
  unfold ScanMatcher.loopPass
  split
  case isTrue =>
    split
    case isTrue => exact h.goto hphase hk (by simp) (by rfl)
    case isFalse =>
      split
      case h_1 => exact h.goto hphase hk (by simp) (by rfl)
      case h_2 => exact h.goto hphase hk (by simp) (by rfl)
  case isFalse => exact h.goto hphase hk (by simp) (by rfl)

/-- **Every step keeps the distances measured.** -/
theorem measured_step [Zero D] [LE D] {t : ScanMatcher P T V Q D} {action : MapAction P T}
    (h : Measured config s w) (hphase : Phase config s) (hstep : MapStep config s action t) :
    Measured config t (w.step action) := by
  cases hstep with
  | firstCloud _ hreceived => exact h.createFirstMap hphase hreceived
  | nextCloud hcallback => exact h.setCallback (by rw [hcallback]; simp) (by simp) (by simp)
  | testMapping hcallback =>
    refine h.setCallback (by rw [hcallback]; simp) ?_ (fun _ _ => ?_)
    · split <;> simp
    · split <;> simp
  | testFuture hcallback =>
    refine h.setCallback (by rw [hcallback]; simp) ?_ (fun _ _ => ?_)
    · split <;> simp
    · split <;> simp
  | testUpdated hcallback =>
    refine h.setCallback (by rw [hcallback]; simp) ?_ (fun _ _ => ?_)
    · split <;> simp
    · split <;> simp
  | setInputTarget hcallback => exact h.setCallback (by rw [hcallback]; simp) (by simp) (by simp)
  | clearUpdated hcallback => exact h.setCallback (by rw [hcallback]; simp) (by simp) (by simp)
  | clearFlag hcallback => exact h.setCallback (by rw [hcallback]; simp) (by simp) (by simp)
  | detach hcallback =>
    refine h.setCallback (by rw [hcallback]; simp) ?_ (fun _ _ => ?_)
    · split <;> simp
    · split <;> simp
  | publish hcallback => exact h.publish hphase hcallback
  | trigger hcallback => exact h.trigger hcallback
  | noTrigger hcallback => exact h.setCallback (by rw [hcallback]; simp) (by simp) (by simp)
  | assignTask hcallback => exact h.assignTask hphase hcallback
  | startThread hcallback htask => exact h.startThread hphase hcallback htask
  | raiseFlag hcallback => exact h.setCallback (by rw [hcallback]; simp) (by simp) (by simp)
  | clear hk => exact h.goto hphase hk (by simp) (by rfl)
  | appendScan hk => exact h.goto hphase hk (by simp) (by rfl)
  | readSize hk => exact h.goto hphase hk (by simp) (by rfl)
  | appendSubmap hk => exact h.loopPass hphase hk
  | addDistance hk => exact h.addDistance hphase hk
  | pushSubmap hk => exact h.pushSubmap hphase hk
  | raiseUpdated hk => exact h.goto hphase hk (by simp) (by rfl)
  | finish hk => exact h.goto hphase hk (by simp) (by rfl)

theorem measured_of_run [Zero D] [LE D] {t : ScanMatcher P T V Q D} {initialPose : Pose V Q}
    {trans : D} {actions : List (MapAction P T)}
    (hrun : (scanMatcherMachine config initialPose trans).Run (.initial initialPose trans)
      actions t) : Measured config t (overwrites actions) := by
  induction hrun with
  | nil =>
    refine ⟨?_, fun _ => ⟨rfl, rfl, rfl, rfl⟩, ?_, by rintro _ _ (heq | heq) <;> cases heq⟩
    · intro _ _ _ ha
      cases ha
    · intro _ hlast
      cases hlast
  | snoc hrun hstep ih =>
    rw [overwrites_snoc]
    exact measured_step ih (phase_of_run hrun) hstep

end Add

/-! ## The distances -/

/-- **When a submap's travelled distance is right.**  In every run, the distance
added for a submap is the distance between its pose and the one before, if and only
if no scan wrote `trans_` between the start of its thread and the read of `trans_`,
or the last scan that did was exactly as far from the submap as the submap before it. -/
theorem submap_distance_iff [AddCommGroup D] [LE D] {t : ScanMatcher P T V Q D}
    {initialPose : Pose V Q} {trans : D} {actions : List (MapAction P T)}
    (hrun : (scanMatcherMachine config initialPose trans).Run (.initial initialPose trans)
      actions t) {k : Nat} {a b : SubMap P V Q D} (ha : t.submaps[k]? = some a)
    (hb : t.submaps[k + 1]? = some b) :
    b.distance - a.distance = config.norm (b.pose.position - a.pose.position) ↔
      ∀ finalTransformation, (overwrites actions).atRead[k]? = some (some finalTransformation) →
        config.norm (config.position finalTransformation - b.pose.position) =
          config.norm (b.pose.position - a.pose.position) := by
  obtain ⟨overwrite, hread, hdistance⟩ := (measured_of_run hrun).steps k a b ha hb
  rw [hdistance, add_sub_cancel_left, hread]
  cases overwrite with
  | none =>
    constructor
    · intro _ finalTransformation h
      cases h
    · intro _
      rfl
  | some finalTransformation =>
    constructor
    · intro h finalTransformation' heq
      cases heq
      exact h
    · intro h
      exact h finalTransformation rfl

end Steps

/-- On a line, a scan that is nearer than the trigger comes in before the thread
reads `trans_`. -/
theorem submap_distance_iff_line :
    let config := lineConfig (enforcedNumTargetedCloud 1)
    let initialPose : Pose Int Unit := { position := 0, orientation := () }
    let actions := [.receive [], .testMapping, .publish 2, .testTrigger, .assignTask,
      .startThread, .raiseFlag, .receive [], .testMapping, .testFuture, .publish 3, .testTrigger,
      .clear 0, .appendScan 0, .readSize 0, .appendSubmap 0, .addDistance 0, .pushSubmap 0]
    ∃ t a b, (scanMatcherMachine config initialPose 0).Run (.initial initialPose 0) actions t ∧
      t.submaps[0]? = some a ∧ t.submaps[1]? = some b ∧
      (b.distance - a.distance = config.norm (b.pose.position - a.pose.position) ↔
        ∀ finalTransformation,
          (overwrites actions).atRead[0]? = some (some finalTransformation) →
          config.norm (config.position finalTransformation - b.pose.position) =
            config.norm (b.pose.position - a.pose.position)) := by
  intro config initialPose actions
  have hrun : (scanMatcherMachine config initialPose 0).Run (.initial initialPose 0) actions _ :=
    .cons (.firstCloud rfl rfl) <| .cons (.testMapping rfl) <| .cons (.publish rfl) <|
    .cons (.trigger rfl ⟨by decide, rfl⟩) <| .cons (.assignTask rfl) <|
    .cons (.startThread rfl rfl) <| .cons (.raiseFlag rfl) <| .cons (.nextCloud rfl rfl) <|
    .cons (.testMapping rfl) <| .cons (.testFuture rfl rfl) <| .cons (.publish rfl) <|
    .cons (.noTrigger rfl (fun h => Bool.noConfusion h.2)) <| .cons (.clear rfl) <|
    .cons (.appendScan rfl) <| .cons (.readSize rfl) <| .cons (.appendSubmap rfl) <|
    .cons (.addDistance rfl) <| .cons (.pushSubmap rfl) <| .nil _
  exact ⟨_, _, _, hrun, rfl, rfl, submap_distance_iff hrun rfl rfl⟩

/-! ## A robot in space -/

/-- Positions in space with their distance, and registrations that translate. -/
noncomputable def spaceConfig :
    ScanMatcherConfig Unit (EuclideanSpace ℝ (Fin 3)) (EuclideanSpace ℝ (Fin 3)) Unit ℝ where
  registrationMethod := "NDT"
  transForMapupdate := 1
  numTargetedCloud := enforcedNumTargetedCloud 1
  voxelGridInput := id
  voxelGridMap := id
  transformPointCloud _ cloud := cloud
  transformSubmap _ cloud := cloud
  getTransformation pose := pose.position
  position := id
  orientation _ := ()
  norm v := ‖v‖

/-- The second scan is one unit away from the first and comes in before the thread
reads `trans_`: the first submap after the map's is two units away from it, and its
distance is one. -/
theorem submap_distance_overwritten :
    ¬ ∀ (initialPose : Pose (EuclideanSpace ℝ (Fin 3)) Unit) (trans : ℝ)
      (actions : List (MapAction Unit (EuclideanSpace ℝ (Fin 3))))
      (t : ScanMatcher Unit (EuclideanSpace ℝ (Fin 3)) (EuclideanSpace ℝ (Fin 3)) Unit ℝ),
      (scanMatcherMachine spaceConfig initialPose trans).Run (.initial initialPose trans)
        actions t →
      ∀ k a b, t.submaps[k]? = some a → t.submaps[k + 1]? = some b →
        b.distance - a.distance = ‖b.pose.position - a.pose.position‖ := by
  intro h
  -- a unit vector
  let e : EuclideanSpace ℝ (Fin 3) := EuclideanSpace.single 0 1
  have he : ‖e‖ = 1 := by simp [e]
  have htrigger : spaceConfig.transForMapupdate ≤ ‖(2 : ℝ) • e - 0‖ := by
    rw [sub_zero, norm_smul, he]
    norm_num [spaceConfig]
  have hrun : (scanMatcherMachine spaceConfig { position := 0, orientation := () } 0).Run
      (.initial { position := 0, orientation := () } 0)
      [.receive [], .testMapping, .publish ((2 : ℝ) • e), .testTrigger, .assignTask,
        .startThread, .raiseFlag, .receive [], .testMapping, .testFuture,
        .publish ((3 : ℝ) • e), .testTrigger, .clear 0, .appendScan 0, .readSize 0,
        .appendSubmap 0, .addDistance 0, .pushSubmap 0] _ :=
    .cons (.firstCloud rfl rfl) <| .cons (.testMapping rfl) <| .cons (.publish rfl) <|
    .cons (.trigger rfl ⟨htrigger, rfl⟩) <| .cons (.assignTask rfl) <|
    .cons (.startThread rfl rfl) <| .cons (.raiseFlag rfl) <| .cons (.nextCloud rfl rfl) <|
    .cons (.testMapping rfl) <| .cons (.testFuture rfl rfl) <| .cons (.publish rfl) <|
    .cons (.noTrigger rfl (fun h => Bool.noConfusion h.2)) <| .cons (.clear rfl) <|
    .cons (.appendScan rfl) <| .cons (.readSize rfl) <| .cons (.appendSubmap rfl) <|
    .cons (.addDistance rfl) <| .cons (.pushSubmap rfl) <| .nil _
  have hdistance : (0 + ‖(3 : ℝ) • e - (2 : ℝ) • e‖) - 0 = ‖(2 : ℝ) • e - 0‖ :=
    h _ _ _ _ hrun 0 _ _ rfl rfl
  rw [← sub_smul, sub_zero, sub_zero, zero_add, norm_smul, norm_smul, he] at hdistance
  norm_num at hdistance

end RoboRacer.Slam
