/-
  Driver/Routing.lean --- from point frames to the queues of the LiDARs
  (`lds.cpp`, `Lds::StoragePointData`).

  A frame mixes the entries of several LiDARs.  The producer looks up the slot of
  each entry's LiDAR and pushes the entry to the queue of that slot, or goes on to
  the next entry; meanwhile the poll thread pops the queues and LiDARs may be
  registered.

      RoutingState       the two threads, the registry, and what became of each entry
      frames_routed      every queue holds the entries of its LiDAR, in order
-/
import RoboRacer.Driver.CacheIndex
import RoboRacer.Driver.FrameSettling
import RoboRacer.Driver.PubHandler

set_option autoImplicit false

namespace RoboRacer.Driver

open RoboRacer.Foundation

variable {R : Type}

/-! ## What a queue holds -/

/-- The packets between the two indices of a queue, oldest first. -/
def queueContents (queue : LidarDataQueue R) : List (StoragePacket R) :=
  (List.range (queueUsedSize queue).toNat).filterMap
    (fun n => readSlot queue ((queue.rdIdx + UInt32.ofNat n) &&& queue.mask))

theorem filterMap_range_getElem? {α : Type} (l : List α) :
    (List.range l.length).filterMap (fun n => l[n]?) = l := by
  induction l using List.reverseRecOn with
  | nil => rfl
  | append_singleton l a ih =>
    rw [List.length_append, List.length_singleton, List.range_succ, List.filterMap_append]
    have hold : (List.range l.length).filterMap (fun n => (l ++ [a])[n]?) =
        (List.range l.length).filterMap (fun n => l[n]?) := by
      refine List.filterMap_congr (fun n hn => ?_)
      exact List.getElem?_append_left (List.mem_range.mp hn)
    rw [hold, ih]
    simp

/-- What a queue holds is what was pushed and not yet popped. -/
theorem QueueInv.queueContents_eq {k : Nat} {q : QueueState R} {slots : List (StoragePacket R)}
    (h : QueueInv k q slots) : queueContents q.queue = q.held := by
  unfold queueContents
  rw [h.usedSize_eq]
  conv_rhs => rw [← filterMap_range_getElem? q.held]
  refine List.filterMap_congr (fun n hn => ?_)
  have hlt := List.mem_range.mp hn
  rw [h.rdIdx, ← UInt32.ofNat_add, h.ready.readSlot_eq, h.window n hlt,
    List.getElem?_eq_getElem hlt]

theorem QueueOk.queueContents_eq {config : PollConfig} {q : QueueState R}
    (h : QueueOk config q) : queueContents q.queue = q.held := by
  obtain rfl | hin := h
  · simp [queueContents, queueUsedSize, QueueState.initial, LidarDataQueue.zeroed,
      QueueState.held, QueueState.pushed]
  · obtain ⟨k, slots, hinv⟩ := hin.inv
    exact hinv.queueContents_eq

/-- Nothing is lost between what was pushed and what was popped. -/
theorem QueueOk.history {config : PollConfig} {q : QueueState R} (h : QueueOk config q) :
    q.popped ++ queueContents q.queue = q.accepted.map PushCall.stored := by
  rw [h.queueContents_eq]
  obtain rfl | hin := h
  · rfl
  · obtain ⟨k, slots, hinv⟩ := hin.inv
    exact hinv.history

/-- A push is turned away only by a queue that holds as many packets as it has slots. -/
theorem InUse.length_of_refuse {config : PollConfig} {q q' : QueueState R} {call : PushCall R}
    (h : InUse config q) (hstep : QueueStep q (.refuse call) q') :
    (queueContents q.queue).length = q.queue.size.toNat := by
  obtain ⟨k, slots, hinv⟩ := h.inv
  rw [hinv.queueContents_eq, hinv.ready.toNat_size]
  cases hstep with
  | refuse _ hfull => exact hinv.isFull_iff.mp hfull

/-- A queue that is not full has taken fewer packets than it can ever hold. -/
theorem InUse.accepted_lt_of_not_full {config : PollConfig} {q : QueueState R}
    (h : InUse config q) (hroom : queueIsFull q.queue = false) :
    q.accepted.length < q.popped.length + 2 ^ 31 := by
  obtain ⟨k, slots, hinv⟩ := h.inv
  have hne : q.held.length ≠ slots.length := by
    rw [Ne, ← hinv.isFull_iff, hroom]
    simp
  have hlen := hinv.length_pushed
  have hle := hinv.ready.length_le
  have hheld := hinv.room
  rw [QueueState.pushed, List.length_map] at hlen
  omega

/-! ## Storing frames -/

/-- What became of an entry. -/
inductive Outcome where
  /-- `GetIndex` did not know its LiDAR. -/
  | unregistered
  /-- The queue of its LiDAR was full. -/
  | full (i : Fin kMaxSourceLidar)
  /-- It was pushed. -/
  | stored (i : Fin kMaxSourceLidar)
  deriving DecidableEq

/-- The push call that `StoragePointData` makes for an entry. -/
def pushCall (entry : UInt64 × PointPacket R) : PushCall R :=
  { lidarData := entry.2, baseTime := entry.1 }

/-- The slot that the registry has for the LiDAR of a call. -/
def slotOf (cacheIndex : CacheIndex) (call : PushCall R) : Option (Fin kMaxSourceLidar) :=
  cacheIndex.getIndex call.lidarData.lidarType call.lidarData.handle

/-- The two threads, the registry, the entries of the current frame that the loop
has not come to, and the history: the entries of all frames and what became of
those that are done. -/
structure RoutingState (R : Type) where
  poll : PollState R
  cacheIndex : CacheIndex
  pending : List (UInt64 × PointPacket R)
  entries : List (UInt64 × PointPacket R)
  log : List (PushCall R × Outcome)

/-- What a step of the two threads adds to the history. -/
def logged (s : PcdSide R) : DriverLabel R → List (PushCall R × Outcome)
  | .pcd (.full i call) => [(call, .full i)]
  | .pcd (.advance i) =>
    match (s.lidars i).producer with
    | .advance call => [(call, .stored i)]
    | _ => []
  | _ => []

/-- The steps, by what they are about. -/
inductive RoutingLabel (R : Type) where
  | storagePointData (frame : PointFrame R)
  | unregistered (call : PushCall R)
  | routed (i : Fin kMaxSourceLidar) (call : PushCall R)
  | poll (l : DriverLabel R)
  | register (handle : UInt32)

/-- One step.  A frame comes when the one before it is stored. -/
inductive RoutingStep (config : PollConfig) :
    RoutingState R → RoutingLabel R → RoutingState R → Prop
  | storagePointData {s : RoutingState R} {frame : PointFrame R} :
      s.pending = [] → s.poll.pcd.producer = .idle → frame.lidarNum.toNat ≤ kMaxSourceLidar →
      RoutingStep config s (.storagePointData frame)
        { s with pending := frame.entries, entries := s.entries ++ frame.entries }
  | unregistered {s : RoutingState R} {entry : UInt64 × PointPacket R}
      {rest : List (UInt64 × PointPacket R)} :
      s.poll.pcd.producer = .idle → s.pending = entry :: rest →
      slotOf s.cacheIndex (pushCall entry) = none →
      RoutingStep config s (.unregistered (pushCall entry))
        { s with pending := rest, log := s.log ++ [(pushCall entry, .unregistered)] }
  | routed {s : RoutingState R} {entry : UInt64 × PointPacket R}
      {rest : List (UInt64 × PointPacket R)} {i : Fin kMaxSourceLidar} {poll : PollState R} :
      s.pending = entry :: rest → slotOf s.cacheIndex (pushCall entry) = some i →
      PollStep config s.poll (.pcd (.enter i (pushCall entry))) poll →
      RoutingStep config s (.routed i (pushCall entry)) { s with poll := poll, pending := rest }
  | poll {s : RoutingState R} {l : DriverLabel R} {poll : PollState R} :
      (∀ i call, l ≠ .pcd (.enter i call)) → PollStep config s.poll l poll →
      RoutingStep config s (.poll l)
        { s with poll := poll, log := s.log ++ logged s.poll.pcd l }
  | register {s : RoutingState R} {handle : UInt32} {cacheIndex : CacheIndex}
      {i : Fin kMaxSourceLidar} :
      s.cacheIndex.getFreeIndex LidarProtoType.kLivoxLidarType.code handle =
        some (cacheIndex, i) →
      RoutingStep config s (.register handle) { s with cacheIndex := cacheIndex }

/-- The threads start on untouched queues, with some LiDARs registered. -/
structure RoutingState.Init (s : RoutingState R) : Prop where
  poll : s.poll.Init
  registry : s.cacheIndex.Sound
  pending : s.pending = []
  entries : s.entries = []
  log : s.log = []

/-- The producer storing frames, and the poll thread. -/
def routingMachine (config : PollConfig) : Machine (RoutingState R) (RoutingLabel R) where
  Init := RoutingState.Init
  Step := RoutingStep config

/-! ## What one step does to the entries -/

/-- The calls pushed to queue `i`, in order. -/
def storedAt (i : Fin kMaxSourceLidar) (log : List (PushCall R × Outcome)) :
    List (PushCall R) :=
  log.filterMap (fun done => if done.2 = .stored i then some done.1 else none)

@[simp] theorem storedAt_append (i : Fin kMaxSourceLidar)
    (log later : List (PushCall R × Outcome)) :
    storedAt i (log ++ later) = storedAt i log ++ storedAt i later :=
  List.filterMap_append ..

@[simp] theorem storedAt_nil (i : Fin kMaxSourceLidar) :
    storedAt i ([] : List (PushCall R × Outcome)) = [] := rfl

theorem mem_storedAt {i : Fin kMaxSourceLidar} {log : List (PushCall R × Outcome)}
    {call : PushCall R} : call ∈ storedAt i log ↔ (call, .stored i) ∈ log := by
  unfold storedAt
  rw [List.mem_filterMap]
  constructor
  · rintro ⟨⟨c, o⟩, hmem, hsome⟩
    split at hsome
    case isTrue ho =>
      cases hsome
      rwa [← show o = .stored i from ho]
    case isFalse => cases hsome
  · intro hmem
    exact ⟨_, hmem, if_pos rfl⟩

/-- The pushed calls of a log, as a filter. -/
theorem storedAt_eq_map_filter (i : Fin kMaxSourceLidar) (log : List (PushCall R × Outcome)) :
    storedAt i log = (log.filter fun done => done.2 = .stored i).map Prod.fst := by
  induction log with
  | nil => rfl
  | cons done log ih =>
    by_cases hstored : done.2 = .stored i
    · rw [List.filter_cons_of_pos (by simpa using hstored), List.map_cons, ← ih]
      simp [storedAt, hstored]
    · rw [List.filter_cons_of_neg (by simpa using hstored), ← ih]
      simp [storedAt, hstored]

/-- The call that the producer is in, with the slot it is for. -/
def currentCall (s : PcdSide R) : List (Fin kMaxSourceLidar × PushCall R) :=
  match s.producer with
  | .test i call => [(i, call)]
  | .push i =>
    match (s.lidars i).producer with
    | .write call => [(i, call)]
    | .advance call => [(i, call)]
    | .idle => []
  | _ => []

/-- A queue whose producer counter stays where it is keeps the current call. -/
theorem currentCall_setQueue {s : PcdSide R} {i : Fin kMaxSourceLidar} {q : QueueState R}
    {consumer : PollPc} (h : q.producer = (s.lidars i).producer) :
    currentCall { s.setQueue i q with consumer := consumer } = currentCall s := by
  unfold currentCall
  cases hpc : s.producer with
  | push j =>
    have hj : ((s.setQueue i q).lidars j).producer = (s.lidars j).producer := by
      by_cases hij : j = i
      · rw [hij, PcdSide.lidars_setQueue, Function.update_self, h]
      · rw [PcdSide.lidars_setQueue, Function.update_of_ne hij]
    simp only [PcdSide.setQueue] at hj ⊢
    rw [hpc]
    simp only [hj]
  | _ => simp only [PcdSide.setQueue, hpc]

/-- What a step of the two threads, other than the beginning of a push call, does to
the entries: a call that ends is logged with its outcome, and a call that was
pushed is accepted by its queue. -/
structure Effect (s : PcdSide R) (l : PcdLabel R) (t : PcdSide R) : Prop where
  accepted : ∀ i, (t.lidars i).accepted = (s.lidars i).accepted ++ storedAt i (logged s (.pcd l))
  calls : (logged s (.pcd l)).map Prod.fst ++ (currentCall t).map Prod.snd =
    (currentCall s).map Prod.snd
  current : ∀ call ∈ currentCall t, call ∈ currentCall s
  outcome : ∀ done ∈ logged s (.pcd l), ∃ i, (i, done.1) ∈ currentCall s ∧
    (done.2 = .full i ∨ done.2 = .stored i)

/-- A step that logs nothing and accepts nothing. -/
theorem Effect.of_same {s t : PcdSide R} {l : PcdLabel R} (hlogged : logged s (.pcd l) = [])
    (haccepted : ∀ i, (t.lidars i).accepted = (s.lidars i).accepted)
    (hcurrent : currentCall t = currentCall s) : Effect s l t where
  accepted i := by rw [hlogged, storedAt_nil, List.append_nil, haccepted]
  calls := by rw [hlogged, hcurrent, List.map_nil, List.nil_append]
  current call h := hcurrent ▸ h
  outcome done h := by rw [hlogged] at h; cases h

theorem effect_of_step {config : PollConfig} {flags : DriverFlags} {s t : PcdSide R}
    {l : PcdLabel R} (h : PcdStep config flags s l t) (hnot : ∀ i call, l ≠ .enter i call) :
    Effect s l t := by
  cases h with
  | enter => exact absurd rfl (hnot _ _)
  | @full i call q hpc hq =>
    have hcurrent : currentCall s = [(i, call)] := by simp only [currentCall, hpc]
    cases hq with
    | refuse =>
      refine ⟨fun j => ?_, ?_, fun c hc => (by cases hc), fun done hdone => ?_⟩
      · have hnone : storedAt j (logged s (.pcd (.full i call))) = [] := by
          simp [logged, storedAt]
        rw [hnone, List.append_nil]
        exact PcdSide.accepted_setQueue rfl j
      · rw [hcurrent]
        rfl
      · obtain rfl := List.mem_singleton.mp hdone
        rw [hcurrent]
        exact ⟨i, List.mem_singleton_self _, .inl rfl⟩
  | @room i call q hpc hq =>
    cases hq with
    | enter =>
      refine .of_same rfl (PcdSide.accepted_setQueue rfl) ?_
      simp only [currentCall, hpc, PcdSide.setQueue, Function.update_self]
  | @write i q hpc hq =>
    cases hq with
    | write hwrite _ =>
      refine .of_same rfl (PcdSide.accepted_setQueue rfl) ?_
      simp only [currentCall, hpc, hwrite, PcdSide.setQueue, Function.update_self]
  | @advance i q hpc hq =>
    cases hq with
    | @advance call hadvance =>
      have hcurrent : currentCall s = [(i, call)] := by simp only [currentCall, hpc, hadvance]
      have hlogged : logged s (.pcd (.advance i)) = [(call, .stored i)] := by
        simp only [logged, hadvance]
      refine ⟨fun j => ?_, ?_, fun c hc => (by cases hc), fun done hdone => ?_⟩
      · rw [hlogged]
        by_cases hj : j = i
        · subst hj
          simp [PcdSide.setQueue, QueueState.advance, storedAt]
        · simp [PcdSide.setQueue, Function.update_of_ne hj, storedAt, Ne.symm hj]
      · rw [hlogged, hcurrent]
        rfl
      · rw [hlogged] at hdone
        obtain rfl := List.mem_singleton.mp hdone
        rw [hcurrent]
        exact ⟨i, List.mem_singleton_self _, .inr rfl⟩
  | held hpc _ => exact .of_same rfl (fun _ => rfl) (by simp only [currentCall, hpc])
  | drained hpc _ => exact .of_same rfl (fun _ => rfl) (by simp only [currentCall, hpc])
  | countZero hpc _ => exact .of_same rfl (fun _ => rfl) (by simp only [currentCall, hpc])
  | countPositive hpc _ => exact .of_same rfl (fun _ => rfl) (by simp only [currentCall, hpc])
  | signal hpc => exact .of_same rfl (fun _ => rfl) (by simp only [currentCall, hpc])
  | poll _ => exact .of_same rfl (fun _ => rfl) rfl
  | wake _ _ => exact .of_same rfl (fun _ => rfl) rfl
  | @publish i l q hpc hpops hq =>
    exact .of_same rfl (PcdSide.accepted_setQueue (accepted_of_pops hpops hq))
      (currentCall_setQueue (producer_of_pops hpops hq))
  | @published i q hpc hq =>
    cases hq with
    | pollEmpty => exact .of_same rfl (PcdSide.accepted_setQueue rfl) (currentCall_setQueue rfl)
  | @fault i q hq =>
    cases hq with
    | writeFault => exact .of_same rfl (PcdSide.accepted_setQueue rfl) (currentCall_setQueue rfl)
    | copyFault => exact .of_same rfl (PcdSide.accepted_setQueue rfl) (currentCall_setQueue rfl)

/-- What the beginning of a push call does to the entries. -/
theorem effect_of_enter {config : PollConfig} {flags : DriverFlags} {s t : PcdSide R}
    {i : Fin kMaxSourceLidar} {call : PushCall R} (hinv : s.Inv config)
    (h : PcdStep config flags s (.enter i call) t) :
    (∀ j, (t.lidars j).accepted = (s.lidars j).accepted) ∧
    currentCall s = [] ∧ currentCall t = [(i, call)] := by
  cases h with
  | enter hpc hinit =>
    obtain ⟨queue, hqueue, -, -⟩ := (hinv i).ok.lazyInit
    rw [hinit] at hqueue
    cases hqueue
    exact ⟨PcdSide.accepted_setQueue rfl, by simp only [currentCall, hpc], rfl⟩

/-! ## The registry -/

/-- Only LiDARs of the Livox type have slots. -/
theorem slotOf_eq_some_iff {cacheIndex : CacheIndex} {call : PushCall R}
    {i : Fin kMaxSourceLidar} : slotOf cacheIndex call = some i ↔
      call.lidarData.lidarType = LidarProtoType.kLivoxLidarType.code ∧
        cacheIndex.indexOf call.lidarData.handle = some i := by
  unfold slotOf
  by_cases htype : call.lidarData.lidarType = LidarProtoType.kLivoxLidarType.code
  · rw [htype]
    exact ⟨fun h => ⟨rfl, h⟩, And.right⟩
  · have hnone : cacheIndex.getIndex call.lidarData.lidarType call.lidarData.handle = none := by
      simp [CacheIndex.getIndex, CacheIndex.generateIndexKey, htype]
    rw [hnone]
    exact iff_of_false (by simp) (fun h => htype h.1)

/-- A LiDAR keeps its slot when another one is registered. -/
theorem slotOf_getFreeIndex {cacheIndex next : CacheIndex} {handle : UInt32}
    {i j : Fin kMaxSourceLidar} {call : PushCall R}
    (h : cacheIndex.getFreeIndex LidarProtoType.kLivoxLidarType.code handle = some (next, i))
    (hcall : slotOf cacheIndex call = some j) : slotOf next call = some j := by
  rw [slotOf_eq_some_iff] at hcall ⊢
  refine ⟨hcall.1, ?_⟩
  obtain ⟨-, rfl⟩ | ⟨hnew, -, -, hnext⟩ := CacheIndex.getFreeIndex_cases h
  · exact hcall.2
  · rw [hnext, if_neg]
    · exact hcall.2
    · rintro rfl
      rw [hnew] at hcall
      cases hcall.2

/-- A slot belongs to one LiDAR. -/
theorem handle_eq_of_slotOf {cacheIndex : CacheIndex} (hsound : cacheIndex.Sound)
    {call call' : PushCall R} {i : Fin kMaxSourceLidar} (h : slotOf cacheIndex call = some i)
    (h' : slotOf cacheIndex call' = some i) :
    call.lidarData.handle = call'.lidarData.handle :=
  hsound.injective _ _ i (slotOf_eq_some_iff.mp h).2 (slotOf_eq_some_iff.mp h').2

/-! ## The invariant -/

/-- Every entry of the frames is done, in the current call, or still to come, in
order; and it went to the queue of its LiDAR. -/
structure RoutingInv (config : PollConfig) (s : RoutingState R) : Prop where
  pcd : s.poll.pcd.Inv config
  registry : s.cacheIndex.Sound
  accepted : ∀ i, (s.poll.pcd.lidars i).accepted = storedAt i s.log
  order : s.log.map Prod.fst ++ (currentCall s.poll.pcd).map Prod.snd ++
    s.pending.map pushCall = s.entries.map pushCall
  current : ∀ i call, (i, call) ∈ currentCall s.poll.pcd → slotOf s.cacheIndex call = some i
  done : ∀ call i, (call, .stored i) ∈ s.log ∨ (call, .full i) ∈ s.log →
    slotOf s.cacheIndex call = some i

section Runs

variable {config : PollConfig} {s t : RoutingState R}

theorem routingInv_of_init (h : s.Init) : RoutingInv config s := by
  have hpcd := h.poll.pcd
  refine ⟨?_, h.registry, fun i => ?_, ?_, fun i call hcall => ?_, fun call i hmem => ?_⟩
  · rw [hpcd]
    exact PcdSide.inv_initial
  · rw [hpcd, h.log]
    rfl
  · rw [hpcd, h.log, h.pending, h.entries]
    rfl
  · rw [hpcd] at hcall
    cases hcall
  · rw [h.log] at hmem
    rcases hmem with hmem | hmem <;> cases hmem

/-- A step of the two threads that begins no call. -/
theorem RoutingInv.poll (h : RoutingInv config s) {l : DriverLabel R} {poll : PollState R}
    (hnot : ∀ i call, l ≠ .pcd (.enter i call)) (hstep : PollStep config s.poll l poll) :
    RoutingInv config { s with poll := poll, log := s.log ++ logged s.poll.pcd l } := by
  cases hstep with
  | @pcd l pcd hpcd =>
    have heffect := effect_of_step hpcd (fun i call hl => hnot i call (congrArg _ hl))
    refine ⟨h.pcd.step hpcd, h.registry, fun i => ?_, ?_, fun i call hcall => ?_, ?_⟩
    · rw [storedAt_append, ← h.accepted]
      exact heffect.accepted i
    · rw [List.map_append, List.append_assoc (s.log.map Prod.fst), heffect.calls]
      exact h.order
    · exact h.current i call (heffect.current _ hcall)
    · -- a call that ends now was current, for the slot of its LiDAR
      have hlogged : ∀ call i, (call, .stored i) ∈ logged s.poll.pcd (.pcd l) ∨
          (call, .full i) ∈ logged s.poll.pcd (.pcd l) → slotOf s.cacheIndex call = some i := by
        rintro call i (hmem | hmem)
        · obtain ⟨j, hcurrent, hfull | hstored⟩ := heffect.outcome _ hmem
          · cases hfull
          · cases hstored
            exact h.current i call hcurrent
        · obtain ⟨j, hcurrent, hfull | hstored⟩ := heffect.outcome _ hmem
          · cases hfull
            exact h.current i call hcurrent
          · cases hstored
      intro call i hmem
      simp only [List.mem_append] at hmem
      rcases hmem with (hold | hnew) | (hold | hnew)
      · exact h.done call i (.inl hold)
      · exact hlogged call i (.inl hnew)
      · exact h.done call i (.inr hold)
      · exact hlogged call i (.inr hnew)
  | @setConnectState i state =>
    have hnone : logged s.poll.pcd (.setConnectState i state) = [] := rfl
    rw [hnone, List.append_nil]
    exact ⟨h.pcd, h.registry, h.accepted, h.order, h.current, h.done⟩
  | requestExit =>
    have hnone : logged s.poll.pcd .requestExit = [] := rfl
    rw [hnone, List.append_nil]
    exact ⟨h.pcd, h.registry, h.accepted, h.order, h.current, h.done⟩
  | setExitSignal =>
    have hnone : logged s.poll.pcd .setExitSignal = [] := rfl
    rw [hnone, List.append_nil]
    exact ⟨h.pcd, h.registry, h.accepted, h.order, h.current, h.done⟩

theorem RoutingInv.step (h : RoutingInv config s) {l : RoutingLabel R}
    (hstep : RoutingStep config s l t) : RoutingInv config t := by
  cases hstep with
  | @storagePointData frame hpending hidle hnum =>
    have hcurrent : currentCall s.poll.pcd = [] := by simp only [currentCall, hidle]
    refine ⟨h.pcd, h.registry, h.accepted, ?_, h.current, h.done⟩
    have horder := h.order
    rw [hpending, List.map_nil, List.append_nil] at horder
    rw [List.map_append, ← horder]
  | @unregistered entry rest hidle hpending hslot =>
    have hcurrent : currentCall s.poll.pcd = [] := by simp only [currentCall, hidle]
    refine ⟨h.pcd, h.registry, fun i => ?_, ?_, h.current, ?_⟩
    · rw [storedAt_append, ← h.accepted]
      simp [storedAt]
    · have horder := h.order
      rw [hpending, hcurrent] at horder
      simp only [hcurrent]
      simpa using horder
    · intro call i hmem
      refine h.done call i ?_
      simpa using hmem
  | @routed entry rest i poll hpending hslot hpoll =>
    cases hpoll with
    | pcd hpcd =>
      obtain ⟨haccepted, hbefore, hafter⟩ := effect_of_enter h.pcd hpcd
      refine ⟨h.pcd.step hpcd, h.registry, fun j => ?_, ?_, fun j call hcall => ?_, h.done⟩
      · rw [← h.accepted]
        exact haccepted j
      · have horder := h.order
        rw [hpending, hbefore] at horder
        simp only [hafter]
        simpa using horder
      · rw [hafter] at hcall
        cases List.mem_singleton.mp hcall
        exact hslot
  | poll hnot hpoll => exact h.poll hnot hpoll
  | register hfree =>
    exact ⟨h.pcd, h.registry.getFreeIndex hfree, h.accepted, h.order,
      fun i call hcall => slotOf_getFreeIndex hfree (h.current i call hcall),
      fun call i hmem => slotOf_getFreeIndex hfree (h.done call i hmem)⟩

theorem routingInv_of_reachable (h : (routingMachine config).Reachable s) :
    RoutingInv config s :=
  h.invariant (RoutingInv config) (fun _ => routingInv_of_init) (fun _ _ _ _ hs => hs.step)

/-- The two threads of the routing are those of the poll machine. -/
theorem poll_reachable_of_routingStep {l : RoutingLabel R}
    (h : (pollMachine config).Reachable s.poll) (hstep : RoutingStep config s l t) :
    (pollMachine config).Reachable t.poll := by
  cases hstep with
  | routed _ _ hpoll => exact h.step hpoll
  | poll _ hpoll => exact h.step hpoll
  | _ => exact h

theorem poll_reachable (h : (routingMachine config).Reachable s) :
    (pollMachine config).Reachable s.poll := by
  refine h.invariant (fun s => (pollMachine config).Reachable s.poll) ?_ ?_
  · rintro start (hinit : start.Init)
    exact .init hinit.poll
  · rintro before l after - hpoll hstep
    exact poll_reachable_of_routingStep hpoll hstep

/-- The pushed calls of a log are among its calls, in order. -/
theorem storedAt_sublist {i : Fin kMaxSourceLidar} {log : List (PushCall R × Outcome)}
    {cacheIndex : CacheIndex}
    (h : ∀ call, (call, .stored i) ∈ log → slotOf cacheIndex call = some i) :
    (storedAt i log).Sublist
      ((log.map Prod.fst).filter (fun call => slotOf cacheIndex call = some i)) := by
  induction log with
  | nil => exact .slnil
  | cons done log ih =>
    have hlog := ih (fun call hmem => h call (List.mem_cons_of_mem _ hmem))
    obtain ⟨call, outcome⟩ := done
    by_cases hstored : outcome = .stored i
    · subst hstored
      have hslot := h call List.mem_cons_self
      have hcons : storedAt i ((call, .stored i) :: log) = call :: storedAt i log := by
        simp [storedAt]
      rw [hcons, List.map_cons, List.filter_cons_of_pos (by simpa using hslot)]
      exact hlog.cons_cons call
    · have hcons : storedAt i ((call, outcome) :: log) = storedAt i log := by
        simp [storedAt, hstored]
      rw [hcons, List.map_cons, List.filter_cons]
      split
      · exact hlog.cons call
      · exact hlog

/-- What a step adds to the history. -/
def RoutingLabel.logged (s : RoutingState R) : RoutingLabel R → List (PushCall R × Outcome)
  | .unregistered call => [(call, .unregistered)]
  | .poll l => Driver.logged s.poll.pcd l
  | _ => []

theorem log_step {l : RoutingLabel R} (hstep : RoutingStep config s l t) :
    t.log = s.log ++ l.logged s := by
  cases hstep with
  | unregistered => rfl
  | poll => rfl
  | _ => exact (List.append_nil _).symm

/-- An entry is logged as unregistered when the registry does not know its LiDAR. -/
theorem slotOf_of_unregistered {l : RoutingLabel R} {call : PushCall R}
    (hstep : RoutingStep config s l t) (hlogged : l.logged s = [(call, .unregistered)]) :
    slotOf s.cacheIndex call = none := by
  cases hstep with
  | unregistered _ _ hslot =>
    cases hlogged
    exact hslot
  | @poll l poll hnot hpoll =>
    -- a step of the two threads logs no such entry
    cases hpoll with
    | pcd hpcd =>
      have hmem : (call, Outcome.unregistered) ∈ Driver.logged s.poll.pcd (.pcd _) :=
        hlogged ▸ List.mem_singleton_self _
      obtain ⟨i, -, hfull | hstored⟩ :=
        (effect_of_step hpcd (fun i call hl => hnot i call (congrArg _ hl))).outcome _ hmem
      · cases hfull
      · cases hstored
    | _ => cases hlogged
  | _ => cases hlogged

/-- An entry is logged as turned away when the queue of its LiDAR is full. -/
theorem full_of_logged (h : RoutingInv config s) {l : RoutingLabel R} {call : PushCall R}
    {i : Fin kMaxSourceLidar} (hstep : RoutingStep config s l t)
    (hlogged : l.logged s = [(call, .full i)]) :
    slotOf s.cacheIndex call = some i ∧
    (queueContents (s.poll.pcd.lidars i).queue).length =
      (s.poll.pcd.lidars i).queue.size.toNat := by
  cases hstep with
  | unregistered => cases hlogged
  | @poll l poll hnot hpoll =>
    cases hpoll with
    | pcd hpcd =>
      cases hpcd with
      | full hpc hq =>
        cases hlogged
        refine ⟨h.current i call ?_, ((h.pcd i).tested call hpc).length_of_refuse hq⟩
        rw [currentCall, hpc]
        exact List.mem_singleton_self _
      | @advance j q hpc hq =>
        cases hq with
        | advance hadvance =>
          simp [RoutingLabel.logged, Driver.logged, hadvance] at hlogged
      | _ => cases hlogged
    | _ => cases hlogged
  | _ => cases hlogged

/-- The log of a run with one entry, which was pushed. -/
theorem RoutingInv.log_of_accepted (h : RoutingInv config s) (hidle : s.poll.pcd.producer = .idle)
    (hpending : s.pending = []) {entry : UInt64 × PointPacket R} (hentries : s.entries = [entry])
    {i : Fin kMaxSourceLidar} (haccepted : pushCall entry ∈ (s.poll.pcd.lidars i).accepted) :
    s.log = [(pushCall entry, .stored i)] := by
  have hcurrent : currentCall s.poll.pcd = [] := by simp only [currentCall, hidle]
  have hcalls := h.order
  rw [hcurrent, hpending, hentries, List.map_nil, List.map_nil, List.append_nil, List.append_nil]
    at hcalls
  rw [h.accepted, mem_storedAt] at haccepted
  obtain ⟨done, hlog, -⟩ := List.map_eq_singleton_iff.mp hcalls
  rw [hlog] at haccepted ⊢
  rw [List.mem_singleton.mp haccepted]

/-! ### Runs of the producer -/

/-- From `s` to `t` the registry, the flags and the poll thread's place are the same, and
nothing was popped from queue `i`. -/
structure RoutingState.Keeps (s t : RoutingState R) (i : Fin kMaxSourceLidar) : Prop where
  cacheIndex : t.cacheIndex = s.cacheIndex
  flags : t.poll.flags = s.poll.flags
  steady : t.poll.steady = s.poll.steady
  consumer : t.poll.pcd.consumer = s.poll.pcd.consumer
  popped : (t.poll.pcd.lidars i).popped = (s.poll.pcd.lidars i).popped

theorem RoutingState.Keeps.trans {u : RoutingState R} {i : Fin kMaxSourceLidar}
    (h : s.Keeps t i) (h' : t.Keeps u i) : s.Keeps u i :=
  ⟨h'.cacheIndex.trans h.cacheIndex, h'.flags.trans h.flags, h'.steady.trans h.steady,
    h'.consumer.trans h.consumer, h'.popped.trans h.popped⟩

/-- The two threads can do here whatever they can do by themselves. -/
theorem exists_routing_run {labels : List (DriverLabel R)} {u : PollState R}
    (hrun : (pollMachine config).Run s.poll labels u) (hquiet : ∀ l ∈ labels, l.Quiet) :
    ∃ t, (routingMachine config).Run s (labels.map .poll) t ∧ t.poll = u ∧
      t.cacheIndex = s.cacheIndex ∧ t.pending = s.pending ∧ s.log <+: t.log := by
  induction hrun with
  | nil => exact ⟨s, .nil s, rfl, rfl, rfl, List.prefix_rfl⟩
  | @snoc p q labels l _ hstep ih =>
    obtain ⟨t, ht, rfl, hcache, hpending, hlog⟩ :=
      ih fun l hl => hquiet l (List.mem_append_left _ hl)
    have hl : l.Quiet := hquiet l (List.mem_append_right _ (List.mem_singleton_self l))
    have hnot : ∀ i call, l ≠ .pcd (.enter i call) := by
      rintro i call rfl
      exact hl
    refine ⟨{ t with poll := q, log := t.log ++ logged t.poll.pcd l }, ?_, rfl, hcache, hpending,
      hlog.trans (List.prefix_append _ _)⟩
    rw [List.map_append]
    exact ht.snoc (.poll hnot hstep)

/-- The entry that is next goes through a queue that holds nothing, and the poll thread sleeps
again. -/
theorem exists_popped (hs : (pollMachine config).Reachable s.poll)
    (hpublishes : config.publishes = true) (hexit : s.poll.flags.requestExit = false)
    (hsignal : s.poll.flags.exitSignal = false) (hidle : s.poll.pcd.producer = .idle)
    {entry : UInt64 × PointPacket R} {rest : List (UInt64 × PointPacket R)}
    (hpending : s.pending = entry :: rest) {i : Fin kMaxSourceLidar}
    (hslot : slotOf s.cacheIndex (pushCall entry) = some i)
    (hheld : (s.poll.pcd.lidars i).held = []) :
    ∃ labels t, (routingMachine config).Run s labels t ∧
      (∀ l ∈ labels, ∀ frame, l ≠ .storagePointData frame) ∧ t.cacheIndex = s.cacheIndex ∧
      t.pending = rest ∧ t.poll.steady = s.poll.steady ∧ t.poll.pcd.consumer = .wait ∧
      t.poll.pcd.count = 0 ∧ t.poll.pcd.producer = .idle ∧
      (t.poll.pcd.lidars i).accepted = (s.poll.pcd.lidars i).accepted ++ [pushCall entry] := by
  obtain ⟨u, labels, poll, henter, hrun, hquiet, hsteady, hwait, hzero, hidle', haccepted, -⟩ :=
    exists_served hs hpublishes hexit hsignal hidle hheld (pushCall entry)
  have hrouted : RoutingStep config s (.routed i (pushCall entry)) _ :=
    .routed hpending hslot henter
  obtain ⟨t, ht, rfl, hcache, hsame, -⟩ :=
    exists_routing_run (s := { s with poll := u, pending := rest }) hrun hquiet
  refine ⟨_, t, .cons hrouted ht, ?_, hcache, hsame, hsteady, hwait, hzero, hidle', haccepted⟩
  intro l hl frame
  rcases List.mem_cons.mp hl with rfl | hmem
  · simp
  · obtain ⟨l, -, rfl⟩ := List.mem_map.mp hmem
    simp

/-- The only entry of a frame gets to the fullness test of the queue of its LiDAR. -/
theorem exists_test (hs : (routingMachine config).Reachable s) (hpending : s.pending = [])
    (hidle : s.poll.pcd.producer = .idle) {frame : PointFrame R}
    {entry : UInt64 × PointPacket R} (hnum : frame.lidarNum.toNat ≤ kMaxSourceLidar)
    (hentries : frame.entries = [entry]) {i : Fin kMaxSourceLidar}
    (hslot : slotOf s.cacheIndex (pushCall entry) = some i) :
    ∃ t, (routingMachine config).Reachable t ∧ t.pending = [] ∧
      t.poll.pcd.producer = .test i (pushCall entry) ∧ s.Keeps t i ∧
      (t.poll.pcd.lidars i).accepted = (s.poll.pcd.lidars i).accepted := by
  obtain ⟨queue, hinit, -, -⟩ := ((routingInv_of_reachable hs).pcd i).ok.lazyInit
  have hframe := hs.step (.storagePointData hpending hidle hnum)
  have hrouted := hframe.step (.routed hentries hslot (.pcd (.enter hidle hinit)))
  exact ⟨_, hrouted, rfl, rfl, ⟨rfl, rfl, rfl, rfl, by simp⟩, by simp⟩

/-- A producer that outruns the poll thread fills the queue.  The induction is on the number
of packets that it has not pushed yet. -/
theorem exists_full (hs : (routingMachine config).Reachable s) (hpending : s.pending = [])
    (hidle : s.poll.pcd.producer = .idle) {frame : PointFrame R}
    {entry : UInt64 × PointPacket R} (hnum : frame.lidarNum.toNat ≤ kMaxSourceLidar)
    (hentries : frame.entries = [entry]) {i : Fin kMaxSourceLidar}
    (hslot : slotOf s.cacheIndex (pushCall entry) = some i) :
    ∃ t, (routingMachine config).Reachable t ∧ t.pending = [] ∧
      t.poll.pcd.producer = .test i (pushCall entry) ∧
      queueIsFull (t.poll.pcd.lidars i).queue = true ∧ s.Keeps t i := by
  induction hn : (s.poll.pcd.lidars i).popped.length + 2 ^ 31 -
      (s.poll.pcd.lidars i).accepted.length using Nat.strongRecOn generalizing s with
  | ind n ih =>
    obtain ⟨t, ht, hpending', hpc, hkeeps, haccepted⟩ :=
      exists_test hs hpending hidle hnum hentries hslot
    have hinv := (routingInv_of_reachable ht).pcd
    cases hfull : queueIsFull (t.poll.pcd.lidars i).queue with
    | true => exact ⟨t, ht, hpending', hpc, hfull, hkeeps⟩
    | false =>
      obtain ⟨labels, poll, hrun, hquiet, hstores⟩ := exists_stores hinv hpc hfull
      obtain ⟨u, hu, rfl, hcache, hsame, -⟩ := exists_routing_run hrun hquiet
      have hafter : s.Keeps u i := hkeeps.trans
        ⟨hcache, hstores.flags, hstores.steady, hstores.consumer, hstores.popped⟩
      -- one packet more is in the queue, and there was room for it
      have hlt := InUse.accepted_lt_of_not_full ((hinv i).tested _ hpc) hfull
      have hlen : (u.poll.pcd.lidars i).accepted.length =
          (s.poll.pcd.lidars i).accepted.length + 1 := by
        rw [hstores.accepted, haccepted, List.length_append, List.length_singleton]
      rw [hkeeps.popped, haccepted] at hlt
      obtain ⟨v, hv, hpending'', hpc', hfull', hkeeps'⟩ := ih _
        (by rw [← hn, hlen, hafter.popped]; omega) (hu.reachable ht) (hsame.trans hpending')
        hstores.producer (hcache ▸ hkeeps.cacheIndex ▸ hslot) rfl
      exact ⟨v, hv, hpending'', hpc', hfull', hafter.trans hkeeps'⟩

/-- **Every queue holds the entries of its LiDAR.**

For any LiDARs registered before and during the run, any frames and any
interleaving of the producer with the poll thread:

  * what was popped from queue `i`, followed by what is in it, is in order a
    subsequence of the frames' entries whose LiDAR has the slot `i`, with their
    `base_time` and points;
  * it consists of exactly the entries that were pushed to queue `i`, and every
    entry of the frames is pushed, turned away, in the current call or still to
    come, in order;
  * an entry is turned away only if its LiDAR is not registered, or if the queue
    of its LiDAR holds as many packets as it has slots;
  * the entries in one queue are of one LiDAR. -/
theorem frames_routed (hs : (routingMachine config).Reachable s) :
    (∀ i, ((s.poll.pcd.lidars i).popped ++ queueContents (s.poll.pcd.lidars i).queue).Sublist
      (((s.entries.map pushCall).filter (fun call => slotOf s.cacheIndex call = some i)).map
        PushCall.stored)) ∧
    (∀ i, (s.poll.pcd.lidars i).popped ++ queueContents (s.poll.pcd.lidars i).queue =
      (storedAt i s.log).map PushCall.stored) ∧
    (s.log.map Prod.fst ++ (currentCall s.poll.pcd).map Prod.snd ++ s.pending.map pushCall =
      s.entries.map pushCall) ∧
    (∀ l t call, RoutingStep config s l t →
      t.log = s.log ++ [(call, .unregistered)] → slotOf s.cacheIndex call = none) ∧
    (∀ l t call i, RoutingStep config s l t → t.log = s.log ++ [(call, .full i)] →
      slotOf s.cacheIndex call = some i ∧
      (queueContents (s.poll.pcd.lidars i).queue).length =
        (s.poll.pcd.lidars i).queue.size.toNat) ∧
    (∀ i, ∀ call ∈ storedAt i s.log, ∀ call' ∈ storedAt i s.log,
      call.lidarData.handle = call'.lidarData.handle) := by
  have h := routingInv_of_reachable hs
  have hexact : ∀ i, (s.poll.pcd.lidars i).popped ++
      queueContents (s.poll.pcd.lidars i).queue = (storedAt i s.log).map PushCall.stored := by
    intro i
    rw [(h.pcd i).ok.history, h.accepted]
  refine ⟨fun i => ?_, hexact, h.order, ?_, ?_, ?_⟩
  · rw [hexact, ← h.order, List.append_assoc, List.filter_append]
    exact ((storedAt_sublist (fun call hmem => h.done call i (.inl hmem))).trans
      (List.sublist_append_left ..)).map _
  · intro l t call hstep hlog
    rw [log_step hstep] at hlog
    exact slotOf_of_unregistered hstep (List.append_cancel_left hlog)
  · intro l t call i hstep hlog
    rw [log_step hstep] at hlog
    exact full_of_logged h hstep (List.append_cancel_left hlog)
  · intro i call hcall call' hcall'
    exact handle_eq_of_slotOf h.registry (h.done call i (.inl (mem_storedAt.mp hcall)))
      (h.done call' i (.inl (mem_storedAt.mp hcall')))

end Runs

/-- The packets of LiDAR 7 come while the poll thread sleeps until one is turned away, and then
the thread pops those that were stored. -/
theorem frames_routed_refused :
    ∃ (config : PollConfig) (s : RoutingState Int) (i : Fin kMaxSourceLidar)
      (call : PushCall Int),
      (routingMachine config).Reachable s ∧ s.cacheIndex.indexOf 7 = some i ∧
      (call, .full i) ∈ s.log ∧ (s.poll.pcd.lidars i).popped ≠ [] ∧
      (s.poll.pcd.lidars i).popped ++ queueContents (s.poll.pcd.lidars i).queue =
        (storedAt i s.log).map PushCall.stored := by
  obtain ⟨cacheIndex, i, hsound, hslot⟩ := CacheIndex.exists_registered 7
  let config : PollConfig := ⟨.ofParameter 10, kPointCloud2Msg⟩
  let entry : UInt64 × PointPacket Int := (onePush.baseTime, onePush.lidarData)
  let frame : PointFrame Int := (PointFrame.fresh.withBaseTime entry.1).withLidarPoint entry.2
  let start : RoutingState Int :=
    { poll :=
        { flags := ⟨fun _ => .kConnectStateSampling, false, false⟩
          pcd := .initial
          steady := fun _ => true }
      cacheIndex := cacheIndex
      pending := []
      entries := []
      log := [] }
  have hstart : (routingMachine config).Reachable start :=
    .init ⟨⟨rfl, fun _ => rfl, rfl, rfl⟩, hsound, rfl, rfl, rfl⟩
  have hasleep := hstart.step (.poll (by simp) (.pcd (.poll (.sleep rfl))))
  have hentry : slotOf cacheIndex (pushCall entry) = some i := slotOf_eq_some_iff.mpr ⟨rfl, hslot⟩
  obtain ⟨s, hs, -, hpc, hfull, hkeeps⟩ :=
    exists_full hasleep rfl rfl (by decide : frame.lidarNum.toNat ≤ kMaxSourceLidar) rfl hentry
  have hinv := (routingInv_of_reachable hs).pcd
  have hidle := (hinv i).inner.mpr (by rw [hpc]; simp)
  -- the next packet is turned away
  have hrefuse : RoutingStep config s (.poll (.pcd (.full i (pushCall entry)))) _ :=
    .poll (by simp) (.pcd (.full hpc (.refuse hidle hfull)))
  obtain ⟨more, poll, hmore, hquiet, -, -, -, -, hdrained⟩ :=
    exists_drained (poll_reachable (hs.step hrefuse)) rfl (by rw [hkeeps.flags])
      (by rw [hkeeps.flags])
  have hpopped := (hdrained i (by rw [hkeeps.steady])).2
  obtain ⟨u, hu, rfl, hcache, -, hlog⟩ := exists_routing_run hmore hquiet
  have hdone := hu.reachable (hs.step hrefuse)
  obtain ⟨later, hlater⟩ := hlog
  have hne : (s.poll.pcd.lidars i).accepted ≠ [] := by
    intro hnil
    have hheld : (s.poll.pcd.lidars i).held = [] := by
      simp [QueueState.held, QueueState.pushed, hnil]
    rw [((hinv i).tested _ hpc).not_full_of_held hheld] at hfull
    cases hfull
  refine ⟨config, u, i, pushCall entry, hdone, ?_, ?_, ?_, (frames_routed hdone).2.1 i⟩
  · rw [hcache]
    exact hkeeps.cacheIndex ▸ hslot
  · rw [← hlater]
    simp [logged]
  · rw [(routingInv_of_reachable hs).accepted] at hne
    rw [hpopped, QueueState.pushed, (routingInv_of_reachable hdone).accepted, ← hlater]
    simp [hne]

end RoboRacer.Driver
