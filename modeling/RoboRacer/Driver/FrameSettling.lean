/-
  Driver/FrameSettling.lean --- the point cloud threads come to rest (`lds.cpp`,
  `lddc.cpp`).

  While the driver is not to exit and no push call begins, every step of
  `PushLidarData` and of the point cloud poll thread uses up work, in the formats whose
  publish function pops the queue.  When no step is left the poll thread sleeps:

      PcdSide.work        passes, calls, packets and the rest of a pass
      frames_settle       a bounded number of steps, and everything pushed is popped
      no_frame_stranded   while the poll thread sleeps no queue is waiting for it
-/
import Mathlib.Algebra.BigOperators.Fin
import RoboRacer.Driver.PollSettling
import RoboRacer.Foundation.Settling

set_option autoImplicit false

namespace RoboRacer.Driver

open RoboRacer.Foundation

variable {R : Type}

/-! ## The work of one queue -/

/-- How far the consumer of a queue is from leaving its loop, if the queue is or
becomes empty, or from the end of a pop. -/
def queueRank (q : QueueState R) : Nat :=
  match q.consumer with
  | .idle => if queueIsEmpty q.queue then 11 else 3
  | .prePop => if queueIsEmpty q.queue then 12 else 2
  | .copy => 1
  | .update _ => 0

section Queue

variable {config : PollConfig} {q q' : QueueState R}

theorem queueRank_of_idle (h : q.consumer = .idle) : queueRank q ≤ 11 := by
  unfold queueRank
  rw [h]
  cases queueIsEmpty q.queue <;> simp

/-- A step inside a publish function uses up work. -/
theorem InUse.work_of_pops (h : InUse config q) {l : QueueLabel R} (hpops : l.pops = true)
    (hstep : QueueStep q l q') :
    12 * q'.held.length + queueRank q' < 12 * q.held.length + queueRank q := by
  cases hstep with
  | poll hpc hheld =>
    have hsame : QueueState.held { q with consumer := .prePop } = q.held := rfl
    simp [queueRank, hpc, hheld, hsame]
  | prePopEmpty hpc hempty =>
    have hsame : QueueState.held { q with consumer := .idle } = q.held := rfl
    simp [queueRank, hpc, hempty, hsame]
  | prePop hpc hheld =>
    have hsame : QueueState.held { q with consumer := .copy } = q.held := rfl
    simp [queueRank, hpc, hheld, hsame]
  | @copy pkg hpc _ =>
    have hsame : QueueState.held { q with consumer := .update pkg } = q.held := rfl
    simp [queueRank, hpc, hsame]
  | @update pkg hpc =>
    obtain ⟨k, slots, hinv⟩ := h.inv
    have hhead := hinv.consumer
    rw [hpc] at hhead
    obtain ⟨rest, hheld⟩ := List.head?_eq_some_iff.mp hhead
    have hidle : queueRank (q.update pkg) ≤ 11 := queueRank_of_idle rfl
    rw [QueueState.held_update hheld, hheld, List.length_cons]
    omega
  | _ => cases hpops

/-- Nothing is popped from an untouched queue. -/
theorem QueueOk.inUse_of_pops (h : QueueOk config q) {l : QueueLabel R} (hpops : l.pops = true)
    (hstep : QueueStep q l q') : InUse config q := by
  obtain rfl | hin := h
  · cases hstep with
    | poll _ hheld => cases hheld
    | prePopEmpty hpc _ => cases hpc
    | prePop hpc _ => cases hpc
    | copy hpc _ => cases hpc
    | update hpc => cases hpc
    | _ => cases hpops
  · exact hin

/-- No slot is missing when it is read or written. -/
theorem QueueOk.not_fault (h : QueueOk config q) : ¬ QueueStep q .fault q' := by
  intro hstep
  obtain rfl | hin := h
  · cases hstep with
    | writeFault hpc _ => cases hpc
    | copyFault hpc _ => cases hpc
  · obtain ⟨k, slots, hinv⟩ := hin.inv
    cases hstep with
    | @writeFault call _ hnone =>
      rw [hinv.pushSlot_eq call] at hnone
      cases hnone
    | copyFault hpc hnone =>
      have hne : q.held ≠ [] := by
        have hconsumer := hinv.consumer
        rwa [hpc] at hconsumer
      obtain ⟨pkg, rest, hheld⟩ := List.exists_cons_of_ne_nil hne
      rw [hinv.copySlot_eq hheld] at hnone
      cases hnone

/-- A queue that holds nothing has room. -/
theorem InUse.not_full_of_held (h : InUse config q) (hheld : q.held = []) :
    queueIsFull q.queue = false := by
  obtain ⟨k, slots, hinv⟩ := h.inv
  rw [← Bool.not_eq_true, hinv.isFull_iff, hheld, hinv.ready.length]
  exact (Nat.two_pow_pos k).ne

/-- A push adds one packet, and can only shorten what the consumer has to do. -/
theorem InUse.work_of_advance (h : InUse config q) (hstep : QueueStep q .advance q') :
    q'.held.length = q.held.length + 1 ∧ queueRank q' ≤ queueRank q := by
  have hin' := h.step hstep
  obtain ⟨k, slots, hinv⟩ := h.inv
  obtain ⟨k', slots', hinv'⟩ := hin'.inv
  cases hstep with
  | @advance call hpc =>
    have hheld := QueueState.held_advance call hinv.popped_le
    have hnot : queueIsEmpty (q.advance call).queue = false := by
      rw [← Bool.not_eq_true, hinv'.isEmpty_iff, hheld]
      simp
    refine ⟨by rw [hheld, List.length_append, List.length_singleton], ?_⟩
    have hpc' : (q.advance call).consumer = q.consumer := rfl
    simp only [queueRank, hnot, hpc']
    cases q.consumer with
    | idle => cases queueIsEmpty q.queue <;> simp
    | prePop => cases queueIsEmpty q.queue <;> simp
    | copy => exact Nat.le_refl _
    | update pkg => exact Nat.le_refl _

/-- The other steps of the producer change neither. -/
theorem work_of_push {l : QueueLabel R} (hnot : l = .write ∨ (∃ call, l = .enter call) ∨
      ∃ call, l = .refuse call) (hstep : QueueStep q l q') :
    q'.held = q.held ∧ queueRank q' = queueRank q := by
  have hadvance : l ≠ .advance ∧ l ≠ .update := by
    rcases hnot with rfl | ⟨call, rfl⟩ | ⟨call, rfl⟩ <;> exact ⟨by simp, by simp⟩
  have hsame := queueIsEmpty_of_step hstep hadvance.1 hadvance.2
  cases hstep with
  | enter _ _ => exact ⟨rfl, rfl⟩
  | refuse _ _ => exact ⟨rfl, rfl⟩
  | write _ _ =>
    refine ⟨rfl, ?_⟩
    simp only [queueRank, hsame]
  | _ => simp at hnot

end Queue

/-! ## The work of the two threads -/

namespace PcdSide

/-- How far `PushLidarData` is from its end. -/
def pushRank (s : PcdSide R) : Nat :=
  match s.producer with
  | .idle => 0
  | .test _ _ => 30
  | .push i =>
    match (s.lidars i).producer with
    | .write _ => 21
    | _ => 20
  | .testEmpty _ => 3
  | .getCount => 2
  | .signal => 1

/-- Whether the call may still signal. -/
def calls (s : PcdSide R) : Nat :=
  match s.producer with
  | .idle => 0
  | _ => 1

/-- How many packets the queues hold. -/
def held (s : PcdSide R) : Nat :=
  ∑ i, (s.lidars i).held.length

/-- How far the poll thread is from its next `Wait`, packets not counted. -/
def pollRank (s : PcdSide R) : Nat :=
  5 * s.consumer.rank +
    match s.consumer with
    | .publish i => queueRank (s.lidars i)
    | _ => 0

/-- What the two threads have to do: passes over the LiDARs, the rest of a call, the
packets that are held, and the rest of a pass. -/
def work (s : PcdSide R) : Nat :=
  1000 * (s.count + s.calls) + s.pushRank + 12 * s.held + s.pollRank

section Update

variable {s t : PcdSide R} {i : Fin kMaxSourceLidar} {q : QueueState R}

theorem held_of_update (hlidars : t.lidars = Function.update s.lidars i q) :
    t.held + (s.lidars i).held.length = s.held + q.held.length := by
  have hrest : ∀ j ∈ Finset.univ.erase i,
      (Function.update s.lidars i q j).held.length = (s.lidars j).held.length := by
    intro j hj
    rw [Function.update_of_ne (Finset.ne_of_mem_erase hj)]
  simp only [held, hlidars]
  rw [← Finset.add_sum_erase _ _ (Finset.mem_univ i),
    ← Finset.add_sum_erase _ (fun j => (s.lidars j).held.length) (Finset.mem_univ i),
    Finset.sum_congr rfl hrest, Function.update_self]
  omega

/-- The rank of the poll thread when one queue changes its own. -/
theorem pollRank_of_update (hlidars : t.lidars = Function.update s.lidars i q)
    (hconsumer : t.consumer = s.consumer) (hle : queueRank q ≤ queueRank (s.lidars i)) :
    t.pollRank ≤ s.pollRank := by
  simp only [pollRank, hconsumer, hlidars]
  refine Nat.add_le_add_left ?_ _
  cases s.consumer with
  | publish j =>
    by_cases hj : j = i
    · subst hj
      simpa using hle
    · simp [Function.update_of_ne hj]
  | _ => exact Nat.le_refl _

theorem calls_le (s : PcdSide R) : s.calls ≤ 1 := by
  unfold calls
  split <;> omega

/-- A step of the producer that touches one queue. -/
theorem work_of_update (hlidars : t.lidars = Function.update s.lidars i q)
    (hcount : t.count = s.count) (hconsumer : t.consumer = s.consumer)
    (hheld : (s.lidars i).held.length ≤ q.held.length)
    (hrank : queueRank q ≤ queueRank (s.lidars i)) (hcalls : s.calls = 1)
    (hpush : t.pushRank + 12 * (q.held.length - (s.lidars i).held.length) < s.pushRank) :
    t.work < s.work := by
  have hsum := held_of_update hlidars
  have hpoll := pollRank_of_update hlidars hconsumer hrank
  have hcalls' := calls_le t
  simp only [work, hcount, hcalls]
  omega

end Update

variable {config : PollConfig} {flags : DriverFlags} {s t : PcdSide R}

/-- A test of the poll thread. -/
theorem pollRank_of_control (hinv : s.Inv config) (hpublishes : config.publishes = true)
    (hopen : flags.requestExit = false) {l : PollLabel} {pc : PollPc}
    (hcontrol : PollControl flags (s.view config) s.consumer l pc) :
    pollRank { s with consumer := pc } < s.pollRank := by
  have hlt := hcontrol.rank_lt hopen hpublishes
  have hle : 5 * s.consumer.rank ≤ s.pollRank := Nat.le_add_right _ _
  suffices hrank : pollRank { s with consumer := pc } ≤ 5 * pc.rank + 3 by omega
  cases hpc : pc with
  | publish i =>
    -- the queue is not empty, and its consumer is at the test of its loop
    have hheld : queueIsEmpty (s.lidars i).queue = false := hcontrol.held_of_publish hpc
    have hidle : (s.lidars i).consumer = .idle :=
      (hinv i).popping.resolve_right (hcontrol.not_publish i)
    simp [pollRank, queueRank, hidle, hheld]
  | _ => simp [pollRank]

/-- **Every step uses up work**, if the publish function of the format pops the queue and
no push call begins. -/
theorem work_lt (hinv : s.Inv config) (hpublishes : config.publishes = true)
    (hopen : flags.requestExit = false) {l : PcdLabel R} (hstep : PcdStep config flags s l t)
    (hnot : ∀ i call, l ≠ .enter i call) : t.work < s.work := by
  cases hstep with
  | enter => exact absurd rfl (hnot _ _)
  | @full i call q hpc hq =>
    obtain ⟨hheld, hrank⟩ := work_of_push (.inr (.inr ⟨call, rfl⟩)) hq
    refine work_of_update rfl rfl rfl (by rw [hheld]) hrank.le (by simp [calls, hpc]) ?_
    simp [pushRank, hpc, hheld]
  | @room i call q hpc hq =>
    obtain ⟨hheld, hrank⟩ := work_of_push (.inr (.inl ⟨call, rfl⟩)) hq
    refine work_of_update rfl rfl rfl (by rw [hheld]) hrank.le (by simp [calls, hpc]) ?_
    cases hq with
    | enter _ _ => simp [pushRank, hpc, hheld, setQueue]
  | @write i q hpc hq =>
    obtain ⟨hheld, hrank⟩ := work_of_push (.inl rfl) hq
    refine work_of_update rfl rfl rfl (by rw [hheld]) hrank.le (by simp [calls, hpc]) ?_
    cases hq with
    | write hwrite _ => simp [pushRank, hpc, hheld, setQueue, hwrite]
  | @advance i q hpc hq =>
    obtain ⟨hheld, hrank⟩ := ((hinv i).pushing hpc).work_of_advance hq
    refine work_of_update rfl rfl rfl (by omega) hrank (by simp [calls, hpc]) ?_
    cases hq with
    | advance hadvance =>
      rw [hheld]
      simp [pushRank, hpc, hadvance]
  | held hpc _ =>
    simp only [work, calls, pushRank, held, pollRank, hpc]
    omega
  | drained hpc _ =>
    simp only [work, calls, pushRank, held, pollRank, hpc]
    omega
  | countZero hpc _ =>
    simp only [work, calls, pushRank, held, pollRank, hpc]
    omega
  | countPositive hpc _ =>
    simp only [work, calls, pushRank, held, pollRank, hpc]
    omega
  | signal hpc =>
    simp only [work, calls, pushRank, held, pollRank, hpc]
    omega
  | @poll l pc hcontrol =>
    have hlt := pollRank_of_control hinv hpublishes hopen hcontrol
    have hrest : pushRank { s with consumer := pc } = s.pushRank ∧
      calls { s with consumer := pc } = s.calls ∧ held { s with consumer := pc } = s.held :=
      ⟨rfl, rfl, rfl⟩
    simp only [work, hrest]
    omega
  | wake hpc hpos =>
    -- a pass over all LiDARs is less than what the semaphore's count stands for
    simp only [work, calls, pushRank, held, pollRank, hpc, PollPc.rank, kMaxSourceLidar]
    omega
  | @publish i l q hpc hpops hq =>
    have hwork := ((hinv i).ok.inUse_of_pops hpops hq).work_of_pops hpops hq
    have hsum := held_of_update (s := s) (t := s.setQueue i q) rfl
    have hpush : (s.setQueue i q).pushRank = s.pushRank := by
      simp only [pushRank, setQueue]
      cases s.producer with
      | push j =>
        by_cases hj : j = i
        · subst hj
          simp only [Function.update_self, producer_of_pops hpops hq]
        · simp only [Function.update_of_ne hj]
      | _ => rfl
    have hcalls : (s.setQueue i q).calls = s.calls := rfl
    have hcount : (s.setQueue i q).count = s.count := rfl
    have hafter : (s.setQueue i q).pollRank = 5 * s.consumer.rank + queueRank q := by
      simp [pollRank, setQueue, hpc]
    have hbefore : s.pollRank = 5 * s.consumer.rank + queueRank (s.lidars i) := by
      simp [pollRank, hpc]
    simp only [work, hpush, hcalls, hcount, hafter, hbefore]
    omega
  | @published i q hpc hq =>
    cases hq with
    | pollEmpty hidle hempty =>
      have hsame : s.setQueue i (s.lidars i) = s := by
        simp only [setQueue, Function.update_eq_self]
      rw [hsame]
      have hlt := i.isLt
      simp only [work, calls, pushRank, held, pollRank, hpc, PollPc.rank, queueRank, hidle, hempty]
      simp only [if_true]
      omega
  | @fault i q hq => exact absurd hq (hinv i).ok.not_fault

end PcdSide

/-! ## The system -/

/-- A step of the two threads that begins no push call. -/
def DriverLabel.Quiet : DriverLabel R → Prop
  | .pcd (.enter _ _) => False
  | .pcd _ => True
  | _ => False

/-- The driver is not to exit, and the poll thread is where it can be then. -/
structure PollState.Open (s : PollState R) : Prop where
  requestExit : s.flags.requestExit = false
  exitSignal : s.flags.exitSignal = false
  bounded : s.pcd.consumer.Bounded
  running : s.pcd.consumer ≠ .finished

section System

variable {config : PollConfig} {s t : PollState R}

/-- The poll thread stays inside its loops, and ends on the exit signal only. -/
theorem control_of_poll_reachable (h : (pollMachine config).Reachable s) :
    s.pcd.consumer.Bounded ∧ (s.pcd.consumer = .finished → s.flags.exitSignal = true) := by
  refine h.invariant (fun s => s.pcd.consumer.Bounded ∧
    (s.pcd.consumer = .finished → s.flags.exitSignal = true)) ?_ ?_
  · intro s (hinit : s.Init)
    rw [hinit.pcd]
    exact ⟨fun i hi => (by cases hi), fun hpc => (by cases hpc)⟩
  · rintro s l t _ ⟨hbounded, hfinished⟩ hstep
    cases hstep with
    | pcd hpcd =>
      refine ⟨PcdSide.bounded_of_step hbounded hpcd, fun hpc => ?_⟩
      cases hpcd with
      | poll hcontrol => exact hcontrol.exitSignal_of_finished hpc
      | wake => cases hpc
      | published => cases hpc
      | _ => exact hfinished hpc
    | setExitSignal => exact ⟨hbounded, fun _ => rfl⟩
    | _ => exact ⟨hbounded, hfinished⟩

theorem open_of_poll_reachable (h : (pollMachine config).Reachable s)
    (hexit : s.flags.requestExit = false) (hsignal : s.flags.exitSignal = false) : s.Open where
  requestExit := hexit
  exitSignal := hsignal
  bounded := (control_of_poll_reachable h).1
  running hpc := by
    rw [(control_of_poll_reachable h).2 hpc] at hsignal
    cases hsignal

/-- The two threads settle while the driver is not to exit. -/
theorem pollMachine_settles (hpublishes : config.publishes = true)
    (steady : Fin kMaxSourceLidar → Bool) :
    (pollMachine (R := R) config).Settles DriverLabel.Quiet
      (fun s => (pollMachine config).Reachable s ∧ s.Open ∧ s.steady = steady)
      (fun s => s.pcd.work) where
  keeps := by
    rintro s t l ⟨hs, hopen, hsteady⟩ hquiet hstep
    have ht := hs.step hstep
    cases hstep with
    | pcd _ => exact ⟨ht, open_of_poll_reachable ht hopen.requestExit hopen.exitSignal, hsteady⟩
    | _ => cases hquiet
  works := by
    rintro s t l ⟨hs, hopen, _⟩ hquiet hstep
    cases hstep with
    | @pcd l pcd hpcd =>
      refine PcdSide.work_lt (inv_of_poll_reachable hs) hpublishes hopen.requestExit hpcd ?_
      rintro i call rfl
      exact hquiet
    | _ => cases hquiet

/-! ### A push call -/

/-- From `s` to `t` the producer has stored the packet of one call in queue `i` and made
sure that the poll thread is signalled, and the poll thread has done nothing. -/
structure PollState.Stores (s t : PollState R) (i : Fin kMaxSourceLidar) (call : PushCall R) :
    Prop where
  flags : t.flags = s.flags
  steady : t.steady = s.steady
  producer : t.pcd.producer = .idle
  consumer : t.pcd.consumer = s.pcd.consumer
  count : t.pcd.count = max 1 s.pcd.count
  accepted : (t.pcd.lidars i).accepted = (s.pcd.lidars i).accepted ++ [call]
  popped : (t.pcd.lidars i).popped = (s.pcd.lidars i).popped

/-- A producer that has written its slot ends its call with the semaphore's count above 0. -/
theorem exists_signalled {i : Fin kMaxSourceLidar} (hpc : s.pcd.producer = .testEmpty i)
    (hheld : queueIsEmpty (s.pcd.lidars i).queue = false) :
    ∃ labels, (pollMachine config).Run s labels
        { s with pcd := { s.pcd with count := max 1 s.pcd.count, producer := .idle } } ∧
      ∀ l ∈ labels, l.Quiet := by
  have hread : PcdStep config s.flags s.pcd (.held i) { s.pcd with producer := .getCount } :=
    .held hpc hheld
  by_cases hcount : s.pcd.count ≤ 0
  · have hzero : PcdStep config s.flags { s.pcd with producer := .getCount } .countZero
        { s.pcd with producer := .signal } := .countZero rfl hcount
    have hsignal : PcdStep config s.flags { s.pcd with producer := .signal } .signal
        { s.pcd with count := s.pcd.count + 1, producer := .idle } := .signal rfl
    have hmax : max 1 s.pcd.count = s.pcd.count + 1 := by omega
    rw [hmax]
    refine ⟨_, .cons (.pcd hread) (.cons (.pcd hzero) (.cons (.pcd hsignal) (.nil _))), ?_⟩
    simp [DriverLabel.Quiet]
  · have hpositive : PcdStep config s.flags { s.pcd with producer := .getCount } .countPositive
        { s.pcd with producer := .idle } := .countPositive rfl hcount
    have hmax : max 1 s.pcd.count = s.pcd.count := by omega
    rw [hmax]
    refine ⟨_, .cons (.pcd hread) (.cons (.pcd hpositive) (.nil _)), ?_⟩
    simp [DriverLabel.Quiet]

/-- A producer that has written its slot completes its call. -/
theorem exists_stores_of_advance (hinv : s.pcd.Inv config) {i : Fin kMaxSourceLidar}
    {call : PushCall R} (hpc : s.pcd.producer = .push i)
    (hinner : (s.pcd.lidars i).producer = .advance call) :
    ∃ labels t, (pollMachine config).Run s labels t ∧ (∀ l ∈ labels, l.Quiet) ∧
      s.Stores t i call := by
  have hq : QueueStep (s.pcd.lidars i) .advance ((s.pcd.lidars i).advance call) := .advance hinner
  have hheld := PcdSide.queueIsEmpty_of_advance ((hinv i).pushing hpc) hq
  let t : PollState R := { s with
    pcd := { s.pcd.setQueue i ((s.pcd.lidars i).advance call) with producer := .testEmpty i } }
  have hstep : PollStep config s (.pcd (.advance i)) t := .pcd (.advance hpc hq)
  have hheld' : queueIsEmpty (t.pcd.lidars i).queue = false := by simpa [t] using hheld
  obtain ⟨labels, hrun, hquiet⟩ :
      ∃ labels, (pollMachine config).Run t labels _ ∧ ∀ l ∈ labels, l.Quiet :=
    exists_signalled rfl hheld'
  refine ⟨_, _, .cons hstep hrun, ?_, rfl, rfl, rfl, rfl, rfl, ?_, ?_⟩
  · exact List.forall_mem_cons.mpr ⟨trivial, hquiet⟩
  · simp [t, QueueState.advance]
  · simp [t]

/-- A producer inside `QueuePushAny` completes its call. -/
theorem exists_stores_of_write (hinv : s.pcd.Inv config) {i : Fin kMaxSourceLidar}
    {call : PushCall R} (hpc : s.pcd.producer = .push i)
    (hinner : (s.pcd.lidars i).producer = .write call) :
    ∃ labels t, (pollMachine config).Run s labels t ∧ (∀ l ∈ labels, l.Quiet) ∧
      s.Stores t i call := by
  obtain ⟨k, slots, hqueue⟩ := ((hinv i).pushing hpc).inv
  obtain ⟨q, hwrite, hadvance, haccepted, hpopped⟩ :
      ∃ q, QueueStep (s.pcd.lidars i) .write q ∧ q.producer = .advance call ∧
        q.accepted = (s.pcd.lidars i).accepted ∧ q.popped = (s.pcd.lidars i).popped :=
    ⟨_, .write hinner (hqueue.pushSlot_eq call), rfl, rfl, rfl⟩
  have hpcd : PcdStep config s.flags s.pcd (.write i) (s.pcd.setQueue i q) := .write hpc hwrite
  have hinner' : ((s.pcd.setQueue i q).lidars i).producer = .advance call := by
    simpa using hadvance
  obtain ⟨labels, t, hrun, hquiet, h⟩ := exists_stores_of_advance
    (s := { s with pcd := s.pcd.setQueue i q }) (hinv.step hpcd) hpc hinner'
  refine ⟨_, t, .cons (.pcd hpcd) hrun, List.forall_mem_cons.mpr ⟨trivial, hquiet⟩,
    h.flags, h.steady, h.producer, h.consumer, h.count, ?_, ?_⟩
  · simpa [haccepted] using h.accepted
  · simpa [hpopped] using h.popped

/-- A push call whose queue has room can be completed while the poll thread does nothing. -/
theorem exists_stores (hinv : s.pcd.Inv config) {i : Fin kMaxSourceLidar} {call : PushCall R}
    (hpc : s.pcd.producer = .test i call)
    (hroom : queueIsFull (s.pcd.lidars i).queue = false) :
    ∃ labels t, (pollMachine config).Run s labels t ∧ (∀ l ∈ labels, l.Quiet) ∧
      s.Stores t i call := by
  have hidle := (hinv i).inner.mpr (by rw [hpc]; simp)
  have hpcd : PcdStep config s.flags s.pcd (.room i call) _ := .room hpc (.enter hidle hroom)
  have hinner : ((s.pcd.setQueue i { s.pcd.lidars i with producer := .write call }).lidars
      i).producer = .write call := by simp
  obtain ⟨labels, t, hrun, hquiet, h⟩ := exists_stores_of_write
    (s := { s with pcd := { s.pcd.setQueue i _ with producer := .push i } })
    (hinv.step hpcd) rfl hinner
  refine ⟨_, t, .cons (.pcd hpcd) hrun, List.forall_mem_cons.mpr ⟨trivial, hquiet⟩,
    h.flags, h.steady, h.producer, h.consumer, h.count, ?_, ?_⟩
  · simpa using h.accepted
  · simpa using h.popped

/-- A packet can be pushed to a queue that holds nothing while the poll thread does nothing. -/
theorem exists_pushed (hinv : s.pcd.Inv config) (hidle : s.pcd.producer = .idle)
    {i : Fin kMaxSourceLidar} (hheld : (s.pcd.lidars i).held = []) (call : PushCall R) :
    ∃ u labels t, PollStep config s (.pcd (.enter i call)) u ∧
      (pollMachine config).Run u labels t ∧ (∀ l ∈ labels, l.Quiet) ∧ s.Stores t i call := by
  obtain ⟨queue, hinit, -, -⟩ := (hinv i).ok.lazyInit
  have henter : PcdStep config s.flags s.pcd (.enter i call) _ := .enter hidle hinit
  have hinv' := hinv.step henter
  have hroom := ((hinv' i).tested call rfl).not_full_of_held
    (by simp only [PcdSide.lidars_setQueue, Function.update_self]; exact hheld)
  obtain ⟨labels, t, hrun, hquiet, h⟩ :=
    exists_stores (s := { s with pcd := { s.pcd.setQueue i _ with producer := .test i call } })
      hinv' rfl hroom
  refine ⟨_, labels, t, .pcd henter, hrun, hquiet, h.flags, h.steady, h.producer, h.consumer,
    h.count, ?_, ?_⟩
  · simpa using h.accepted
  · simpa using h.popped

/-! ### At rest -/

/-- A producer that is inside `QueuePushAny` can go on. -/
theorem exists_push_step {i : Fin kMaxSourceLidar} (hinv : s.pcd.Inv config)
    (hpc : s.pcd.producer = .push i) :
    ∃ l pcd, PcdStep config s.flags s.pcd l pcd ∧ ∀ j call, l ≠ .enter j call := by
  obtain ⟨k, slots, hqueue⟩ := ((hinv i).pushing hpc).inv
  cases hproducer : (s.pcd.lidars i).producer with
  | idle => exact absurd hpc ((hinv i).inner.mp hproducer)
  | write call =>
    exact ⟨_, _, .write hpc (.write hproducer (hqueue.pushSlot_eq call)), by simp⟩
  | advance call => exact ⟨_, _, .advance hpc (.advance hproducer), by simp⟩

/-- A producer in the middle of a call can go on. -/
theorem exists_producer_step (hinv : s.pcd.Inv config) (hpc : s.pcd.producer ≠ .idle) :
    ∃ l pcd, PcdStep config s.flags s.pcd l pcd ∧ ∀ j call, l ≠ .enter j call := by
  cases hproducer : s.pcd.producer with
  | idle => exact absurd hproducer hpc
  | test i call =>
    have hidle := (hinv i).inner.mpr (by rw [hproducer]; simp)
    cases hfull : queueIsFull (s.pcd.lidars i).queue with
    | true => exact ⟨_, _, .full hproducer (.refuse hidle hfull), by simp⟩
    | false => exact ⟨_, _, .room hproducer (.enter hidle hfull), by simp⟩
  | push i => exact exists_push_step hinv hproducer
  | testEmpty i =>
    cases hempty : queueIsEmpty (s.pcd.lidars i).queue with
    | true => exact ⟨_, _, .drained hproducer hempty, by simp⟩
    | false => exact ⟨_, _, .held hproducer hempty, by simp⟩
  | getCount =>
    by_cases hcount : s.pcd.count ≤ 0
    · exact ⟨_, _, .countZero hproducer hcount, by simp⟩
    · exact ⟨_, _, .countPositive hproducer hcount, by simp⟩
  | signal => exact ⟨_, _, .signal hproducer, by simp⟩

/-- A consumer that is about to copy a slot can do so. -/
theorem exists_copy_step {i : Fin kMaxSourceLidar} (hinv : s.pcd.Inv config)
    (hpc : s.pcd.consumer = .publish i) (hconsumer : (s.pcd.lidars i).consumer = .copy) :
    ∃ l pcd, PcdStep config s.flags s.pcd l pcd ∧ ∀ j call, l ≠ .enter j call := by
  rcases (hinv i).ok with huntouched | hin
  · rw [huntouched] at hconsumer
    cases hconsumer
  · obtain ⟨k, slots, hqueue⟩ := hin.inv
    have hholds := hqueue.consumer
    rw [hconsumer] at hholds
    obtain ⟨pkg, rest, hheld⟩ := List.exists_cons_of_ne_nil hholds
    exact ⟨_, _, .publish hpc rfl (.copy hconsumer (hqueue.copySlot_eq hheld)), by simp⟩

/-- A poll thread inside a publish function can go on. -/
theorem exists_publish_step {i : Fin kMaxSourceLidar} (hinv : s.pcd.Inv config)
    (hpc : s.pcd.consumer = .publish i) :
    ∃ l pcd, PcdStep config s.flags s.pcd l pcd ∧ ∀ j call, l ≠ .enter j call := by
  cases hempty : queueIsEmpty (s.pcd.lidars i).queue with
  | true =>
    cases hconsumer : (s.pcd.lidars i).consumer with
    | idle => exact ⟨_, _, .published hpc (.pollEmpty hconsumer hempty), by simp⟩
    | prePop => exact ⟨_, _, .publish hpc rfl (.prePopEmpty hconsumer hempty), by simp⟩
    | copy => exact exists_copy_step hinv hpc hconsumer
    | update pkg => exact ⟨_, _, .publish hpc rfl (.update hconsumer), by simp⟩
  | false =>
    cases hconsumer : (s.pcd.lidars i).consumer with
    | idle => exact ⟨_, _, .publish hpc rfl (.poll hconsumer hempty), by simp⟩
    | prePop => exact ⟨_, _, .publish hpc rfl (.prePop hconsumer hempty), by simp⟩
    | copy => exact exists_copy_step hinv hpc hconsumer
    | update pkg => exact ⟨_, _, .publish hpc rfl (.update hconsumer), by simp⟩

/-- When no quiet step is left, the producer is idle and the poll thread asleep. -/
theorem asleep_of_poll_rests (hinv : s.pcd.Inv config) (h : s.Open)
    (hrest : (pollMachine config).Rests DriverLabel.Quiet s) :
    s.pcd.consumer = .wait ∧ s.pcd.count = 0 ∧ s.pcd.producer = .idle := by
  have hno : ¬ ∃ l pcd, PcdStep config s.flags s.pcd l pcd ∧ ∀ j call, l ≠ .enter j call := by
    rintro ⟨l, pcd, hstep, hnot⟩
    refine hrest (.pcd l) _ ?_ (.pcd hstep)
    cases l with
    | enter j call => exact hnot j call rfl
    | _ => trivial
  have hidle : s.pcd.producer = .idle := by
    by_contra hne
    exact hno (exists_producer_step hinv hne)
  rcases PollPc.exists_test (s.pcd.view config) h.requestExit h.exitSignal h.bounded with
    hwait | hfinished | ⟨i, hpc⟩ | ⟨l, pc, hcontrol⟩
  · refine ⟨hwait, Nat.eq_zero_of_not_pos fun hpos => ?_, hidle⟩
    exact hno ⟨_, _, .wake hwait hpos, by simp⟩
  · exact absurd hfinished h.running
  · exact absurd (exists_publish_step hinv hpc) hno
  · exact absurd ⟨_, _, .poll hcontrol, by simp⟩ hno

/-- No more is pushed until the next push call. -/
theorem accepted_of_quiet {labels : List (DriverLabel R)}
    (hrun : (pollMachine config).Run s labels t) (hquiet : ∀ l ∈ labels, l.Quiet)
    (hidle : s.pcd.producer = .idle) :
    t.pcd.producer = .idle ∧ ∀ i, (t.pcd.lidars i).accepted = (s.pcd.lidars i).accepted := by
  induction hrun with
  | nil => exact ⟨hidle, fun _ => rfl⟩
  | @snoc t u labels l _ hstep ih =>
    obtain ⟨hpc, hsame⟩ := ih fun l hl => hquiet l (List.mem_append_left _ hl)
    have hl : l.Quiet := hquiet l (List.mem_append_right _ (List.mem_singleton_self l))
    cases hstep with
    | pcd hpcd =>
      cases hpcd with
      | poll => exact ⟨hpc, hsame⟩
      | wake => exact ⟨hpc, hsame⟩
      | publish _ hpops hq =>
        have haccepted := accepted_of_pops hpops hq
        exact ⟨hpc, fun i => (PcdSide.accepted_setQueue haccepted i).trans (hsame i)⟩
      | published _ hq =>
        cases hq with
        | pollEmpty => exact ⟨hpc, fun i => (PcdSide.accepted_setQueue rfl i).trans (hsame i)⟩
      | @fault j q hq =>
        have haccepted : q.accepted = (t.pcd.lidars j).accepted := by
          cases hq <;> rfl
        exact ⟨hpc, fun i => (PcdSide.accepted_setQueue haccepted i).trans (hsame i)⟩
      | enter => exact hl.elim
      | _ => simp_all
    | _ => exact hl.elim

/-- An empty queue has nothing left to be popped. -/
theorem QueueOk.popped_of_empty {q : QueueState R} (h : QueueOk config q)
    (hempty : queueIsEmpty q.queue = true) : q.popped = q.pushed := by
  obtain rfl | hin := h
  · rfl
  · obtain ⟨k, slots, hinv⟩ := hin.inv
    rw [← hinv.history, hinv.isEmpty_iff.mp hempty, List.append_nil]

/-- At rest the queues of the LiDARs that have been sampling throughout are empty. -/
theorem drained_of_poll_rests (hs : (pollMachine config).Reachable s) (h : s.Open)
    (hrest : (pollMachine config).Rests DriverLabel.Quiet s) :
    s.pcd.consumer = .wait ∧ s.pcd.count = 0 ∧ s.pcd.producer = .idle ∧
      ∀ i, s.steady i = true →
        queueIsEmpty (s.pcd.lidars i).queue = true ∧
        (s.pcd.lidars i).popped = (s.pcd.lidars i).pushed := by
  have hinv := inv_of_poll_reachable hs
  obtain ⟨hwait, hcount, hidle⟩ := asleep_of_poll_rests hinv h hrest
  refine ⟨hwait, hcount, hidle, fun i hsteady => ?_⟩
  have hempty := queueIsEmpty_of_asleep hs hwait hcount hidle hsteady
  exact ⟨hempty, (hinv i).ok.popped_of_empty hempty⟩

/-- From every reachable state of a driver that is not to exit the queues can be drained. -/
theorem exists_drained (hs : (pollMachine config).Reachable s)
    (hpublishes : config.publishes = true) (hexit : s.flags.requestExit = false)
    (hsignal : s.flags.exitSignal = false) :
    ∃ labels t, (pollMachine config).Run s labels t ∧ (∀ l ∈ labels, l.Quiet) ∧
      t.steady = s.steady ∧ t.pcd.consumer = .wait ∧ t.pcd.count = 0 ∧ t.pcd.producer = .idle ∧
      ∀ i, s.steady i = true →
        queueIsEmpty (t.pcd.lidars i).queue = true ∧
        (t.pcd.lidars i).popped = (t.pcd.lidars i).pushed := by
  have hsettles := pollMachine_settles (R := R) hpublishes s.steady
  have hopen := open_of_poll_reachable hs hexit hsignal
  obtain ⟨labels, t, hrun, hquiet, hrest⟩ := hsettles.exists_rest ⟨hs, hopen, rfl⟩
  obtain ⟨⟨ht, hopen', hsteady⟩, -⟩ := hsettles.run hrun hquiet ⟨hs, hopen, rfl⟩
  obtain ⟨hwait, hcount, hidle, hdone⟩ := drained_of_poll_rests ht hopen' hrest
  exact ⟨labels, t, hrun, hquiet, hsteady, hwait, hcount, hidle,
    fun i hi => hdone i (hsteady ▸ hi)⟩

/-- And the poll thread can be woken, pop it and sleep again. -/
theorem exists_served (hs : (pollMachine config).Reachable s)
    (hpublishes : config.publishes = true) (hexit : s.flags.requestExit = false)
    (hsignal : s.flags.exitSignal = false) (hidle : s.pcd.producer = .idle)
    {i : Fin kMaxSourceLidar} (hheld : (s.pcd.lidars i).held = []) (call : PushCall R) :
    ∃ u labels t, PollStep config s (.pcd (.enter i call)) u ∧
      (pollMachine config).Run u labels t ∧ (∀ l ∈ labels, l.Quiet) ∧ t.steady = s.steady ∧
      t.pcd.consumer = .wait ∧ t.pcd.count = 0 ∧ t.pcd.producer = .idle ∧
      (t.pcd.lidars i).accepted = (s.pcd.lidars i).accepted ++ [call] ∧
      (s.steady i = true → (t.pcd.lidars i).popped = (t.pcd.lidars i).pushed) := by
  obtain ⟨u, labels, v, henter, hpush, hquiet, hstores⟩ :=
    exists_pushed (inv_of_poll_reachable hs) hidle hheld call
  have hv := hpush.reachable (hs.step henter)
  obtain ⟨more, t, hdrain, hquiet', hsteady, hwait, hzero, hidle', hdone⟩ :=
    exists_drained hv hpublishes (by rw [hstores.flags, hexit]) (by rw [hstores.flags, hsignal])
  refine ⟨u, _, t, henter, hpush.append hdrain, List.forall_mem_append.mpr ⟨hquiet, hquiet'⟩,
    hsteady.trans hstores.steady, hwait, hzero, hidle', ?_, fun hi => (hdone i ?_).2⟩
  · rw [(accepted_of_quiet hdrain hquiet' hstores.producer).2, hstores.accepted]
  · rw [hstores.steady, hi]

/-- **The point cloud threads come to rest.**

In any reachable state of a driver that is not to exit and whose format is published, let no
push call begin.  However the two threads interleave, they take no more steps than there is
work; every run of theirs can be continued until no step is left; and then the poll thread
sleeps, no call is in progress, and the queues of the LiDARs that have been sampling
throughout are empty: all that was ever pushed to them has been popped. -/
theorem frames_settle (hs : (pollMachine config).Reachable s)
    (hpublishes : config.publishes = true) (hexit : s.flags.requestExit = false)
    (hsignal : s.flags.exitSignal = false) {labels : List (DriverLabel R)}
    (hrun : (pollMachine config).Run s labels t) (hquiet : ∀ l ∈ labels, l.Quiet) :
    labels.length ≤ s.pcd.work ∧
    (∃ more u, (pollMachine config).Run t more u ∧ (∀ l ∈ more, l.Quiet) ∧
      (pollMachine config).Rests DriverLabel.Quiet u) ∧
    ((pollMachine config).Rests DriverLabel.Quiet t →
      t.pcd.consumer = .wait ∧ t.pcd.count = 0 ∧ t.pcd.producer = .idle ∧
      ∀ i, s.steady i = true →
        queueIsEmpty (t.pcd.lidars i).queue = true ∧
        (t.pcd.lidars i).popped = (t.pcd.lidars i).pushed) := by
  have hsettles := pollMachine_settles (R := R) hpublishes s.steady
  have hstart : (pollMachine config).Reachable s ∧ s.Open ∧ s.steady = s.steady :=
    ⟨hs, open_of_poll_reachable hs hexit hsignal, rfl⟩
  obtain ⟨⟨ht, hopen, hsame⟩, -⟩ := hsettles.run hrun hquiet hstart
  refine ⟨hsettles.length_le hrun hquiet hstart,
    hsettles.exists_rest ⟨ht, hopen, hsame⟩, fun hrest => ?_⟩
  rw [← hsame]
  exact drained_of_poll_rests ht hopen hrest

end System

/-- A push of one point. -/
def onePush : PushCall Int where
  lidarData :=
    { handle := 7, lidarType := LidarProtoType.kLivoxLidarType.code, pointsNum := 1
      points := [⟨0, 0, 0, 0, 0, 0, 1000⟩], backed := by decide }
  baseTime := 1000

/-- A push to the first slot that has just begun. -/
theorem frames_settle_onePacket :
    ∃ (config : PollConfig) (s u : PollState Int) (i : Fin kMaxSourceLidar)
      (more : List (DriverLabel Int)),
      (pollMachine config).Reachable s ∧ s.pcd.producer = .test i onePush ∧
      (pollMachine config).Run s more u ∧ u.pcd.consumer = .wait ∧
      (u.pcd.lidars i).popped = (u.pcd.lidars i).pushed := by
  let config : PollConfig := ⟨.ofParameter 10, kLivoxCustomMsg⟩
  let i : Fin kMaxSourceLidar := ⟨0, by decide⟩
  let start : PollState Int :=
    { flags := ⟨fun _ => .kConnectStateSampling, false, false⟩
      pcd := .initial
      steady := fun _ => true }
  have hstart : (pollMachine config).Reachable start := .init ⟨rfl, fun _ => rfl, rfl, rfl⟩
  obtain ⟨queue, hinit, -, -⟩ := (inv_of_poll_reachable hstart i).ok.lazyInit
  have henter : PcdStep config start.flags start.pcd (.enter i onePush) _ := .enter rfl hinit
  have hs := hstart.step (.pcd henter)
  obtain ⟨-, ⟨more, u, hmore, hquiet, hrest⟩, -⟩ :=
    frames_settle hs rfl rfl rfl (.nil _) (fun l hl => absurd hl List.not_mem_nil)
  obtain ⟨-, -, hdone⟩ := frames_settle hs rfl rfl rfl hmore hquiet
  obtain ⟨hwait, -, -, hpopped⟩ := hdone hrest
  exact ⟨config, _, u, i, more, hs, rfl, hmore, hwait, (hpopped i rfl).2⟩

/-! ## Nothing is stranded -/

/-- **No frame is stranded.**

For every publish frequency and every transfer format, every sequence of pushes
and drops, every change of the connect states, and every interleaving of the
producer with the poll thread: the semaphore's count never exceeds 1, and while
the poll thread is blocked in `Wait` with count 0 and the producer is not inside
`PushLidarData`, the queue of every LiDAR that has been sampling throughout is
empty. -/
theorem no_frame_stranded {config : PollConfig} {s : PollState R}
    (h : (pollMachine config).Reachable s) :
    s.pcd.count ≤ 1 ∧
    (s.pcd.consumer = .wait → s.pcd.count = 0 → s.pcd.producer = .idle →
      ∀ i, s.steady i = true → queueIsEmpty (s.pcd.lidars i).queue = true) := by
  have hinv := WakeUp.inv_of_reachable ((pollRefinement config).reachable h)
  refine ⟨hinv.count_le, fun hwait hcount hidle i hsteady => ?_⟩
  exact queueIsEmpty_of_asleep h hwait hcount hidle hsteady

/-- A packet is pushed and the poll thread signalled while it sleeps; it is woken, pops the
packet and sleeps again. -/
theorem no_frame_stranded_asleep :
    ∃ (config : PollConfig) (s u : PollState Int) (i : Fin kMaxSourceLidar)
      (labels : List (DriverLabel Int)),
      (pollMachine config).Reachable s ∧ s.pcd.consumer = .wait ∧ s.pcd.producer = .idle ∧
      s.pcd.count = 1 ∧ (s.pcd.lidars i).pushed = [onePush.stored] ∧
      (s.pcd.lidars i).popped = [] ∧
      (pollMachine config).Run s labels u ∧ u.pcd.consumer = .wait ∧ u.pcd.producer = .idle ∧
      u.pcd.count = 0 ∧ (u.pcd.lidars i).popped = [onePush.stored] ∧
      queueIsEmpty (u.pcd.lidars i).queue = true := by
  let config : PollConfig := ⟨.ofParameter 10, kLivoxCustomMsg⟩
  let i : Fin kMaxSourceLidar := ⟨0, by decide⟩
  let start : PollState Int :=
    { flags := ⟨fun _ => .kConnectStateSampling, false, false⟩
      pcd := .initial
      steady := fun _ => true }
  have hstart : (pollMachine config).Reachable start := .init ⟨rfl, fun _ => rfl, rfl, rfl⟩
  have hasleep := Machine.Reachable.step hstart (.pcd (.poll (.sleep rfl)))
  obtain ⟨entered, labels, s, henter, hrun, -, h⟩ :=
    exists_pushed (i := i) (inv_of_poll_reachable hasleep) rfl rfl onePush
  have hs := hrun.reachable (hasleep.step henter)
  have hpushed : (s.pcd.lidars i).pushed = [onePush.stored] := by
    rw [QueueState.pushed, h.accepted]
    rfl
  obtain ⟨more, u, hmore, hquiet, hsteady, hwait, hzero, hidle, -⟩ :=
    exists_drained hs rfl (by rw [h.flags]) (by rw [h.flags])
  have hu := hmore.reachable hs
  obtain ⟨-, hempty⟩ := no_frame_stranded hu
  have hdone := hempty hwait hzero hidle i (by rw [hsteady, h.steady])
  have hpopped := (inv_of_poll_reachable hu i).ok.popped_of_empty hdone
  refine ⟨config, s, u, i, more, hs, h.consumer, h.producer, h.count, hpushed, h.popped, hmore,
    hwait, hidle, hzero, ?_, hdone⟩
  rw [hpopped, QueueState.pushed, (accepted_of_quiet hmore hquiet h.producer).2 i]
  exact hpushed

end RoboRacer.Driver
