/-
  Driver/PollProgress.lean --- what the point cloud threads can still do when no
  more data comes.

  The poll thread is stranded when it is in `Wait` with count 0 and its producer
  will not signal.  A stranded thread stays stranded; any other one can still
  reach its end once the exit is requested and signalled:

      Stranded.quiet             no step without new data helps a stranded thread
      signals_of_not_stranded    a producer in the middle of a push signals
      exists_finished            a thread that is not stranded can come to its end
-/
import Mathlib.Logic.Relation
import RoboRacer.Driver.PollThreads

set_option autoImplicit false

namespace RoboRacer.Driver

open RoboRacer.Foundation Relation

variable {R : Type}

/-! ## The tests of a poll thread that is to exit -/

/-- The exit is requested and signalled. -/
structure DriverFlags.Exiting (flags : DriverFlags) : Prop where
  requestExit : flags.requestExit = true
  exitSignal : flags.exitSignal = true

/-- The loop over the LiDARs does not run past them. -/
def PollPc.Bounded (pc : PollPc) : Prop :=
  ∀ i, pc = .scan i → i ≤ kMaxSourceLidar

theorem PollControl.bounded {flags : DriverFlags} {view : QueueView} {pc pc' : PollPc}
    {l : PollLabel} (h : PollControl flags view pc l pc') : pc'.Bounded := by
  intro i hi
  cases h with
  | @skip j _ => cases hi; exact j.isLt
  | @noStorage j _ => cases hi; exact j.isLt
  | @whileExit j _ => cases hi; exact j.isLt
  | @whileEmpty j _ => cases hi; exact j.isLt
  | whileHeld =>
    split at hi <;> cases hi
  | _ => cases hi

/-- Only a thread that has not seen the request goes into `Wait`. -/
theorem PollControl.ne_wait {flags : DriverFlags} {view : QueueView} {pc pc' : PollPc}
    {l : PollLabel} (h : PollControl flags view pc l pc') (hexit : flags.requestExit = true) :
    pc' ≠ .wait := by
  cases h with
  | sleep hopen =>
    rw [hexit] at hopen
    cases hopen
  | whileHeld => split <;> simp
  | _ => simp

/-- A poll thread moves by a test. -/
def Tests (flags : DriverFlags) (view : QueueView) (pc pc' : PollPc) : Prop :=
  ∃ l, PollControl flags view pc l pc'

section Tests

variable {flags : DriverFlags} {view : QueueView}

/-- An exiting thread leaves a LiDAR for the next one. -/
theorem tests_scan_succ (hexit : flags.Exiting) (i : Fin kMaxSourceLidar) :
    ReflTransGen (Tests flags view) (.scan i) (.scan (i + 1)) := by
  by_cases hoff : flags.connectState i = .kConnectStateSampling
  · have hvisit : Tests flags view (.scan i) (.polling i) := ⟨_, .visit hoff⟩
    cases hstorage : view.hasStorage i with
    | false => exact (ReflTransGen.single hvisit).tail ⟨_, .noStorage hstorage⟩
    | true =>
      have hpoll : Tests flags view (.polling i) (.whileExit i) := ⟨_, .storage hstorage⟩
      exact ((ReflTransGen.single hvisit).tail hpoll).tail ⟨_, .whileExit hexit.requestExit⟩
  · exact .single ⟨_, .skip hoff⟩

/-- An exiting thread comes from any LiDAR to its end. -/
theorem tests_scan_finished (hexit : flags.Exiting) {i : Nat} (hi : i ≤ kMaxSourceLidar) :
    ReflTransGen (Tests flags view) (.scan i) .finished := by
  induction hi using Nat.decreasingInduction with
  | self =>
    have hend : Tests flags view (.scan kMaxSourceLidar) .exitSignal := ⟨_, .scanEnd⟩
    exact (ReflTransGen.single hend).tail ⟨_, .exitSet hexit.exitSignal⟩
  | of_succ i hi ih => exact (tests_scan_succ hexit ⟨i, hi⟩).trans ih

/-- An exiting thread comes out of the loop over one queue to its end. -/
theorem tests_whileExit_finished (hexit : flags.Exiting) (i : Fin kMaxSourceLidar) :
    ReflTransGen (Tests flags view) (.whileExit i) .finished :=
  (tests_scan_finished hexit i.isLt).head ⟨_, .whileExit hexit.requestExit⟩

/-- An exiting thread comes from any place outside `Wait` and outside a publish
function to its end, or into a publish function. -/
theorem tests_finished (hexit : flags.Exiting) {pc : PollPc} (hbound : pc.Bounded)
    (hwait : pc ≠ .wait) (hpublish : ∀ i, pc ≠ .publish i) :
    ReflTransGen (Tests flags view) pc .finished ∨
      ∃ i, ReflTransGen (Tests flags view) pc (.publish i) := by
  have hsignal : Tests flags view .exitSignal .finished := ⟨_, .exitSet hexit.exitSignal⟩
  cases pc with
  | distribute => exact .inl ((ReflTransGen.single hsignal).head ⟨_, .exitSeen hexit.requestExit⟩)
  | wait => exact absurd rfl hwait
  | scan i => exact .inl (tests_scan_finished hexit (hbound i rfl))
  | polling i =>
    cases hstorage : view.hasStorage i with
    | false => exact .inl ((tests_scan_finished hexit i.isLt).head ⟨_, .noStorage hstorage⟩)
    | true => exact .inl ((tests_whileExit_finished hexit i).head ⟨_, .storage hstorage⟩)
  | whileExit i => exact .inl (tests_whileExit_finished hexit i)
  | whileEmpty i =>
    cases hempty : view.isEmpty i with
    | true => exact .inl ((tests_scan_finished hexit i.isLt).head ⟨_, .whileEmpty hempty⟩)
    | false =>
      have hheld : Tests flags view (.whileEmpty i)
        (if view.publishes then .publish i else .whileExit i) := ⟨_, .whileHeld hempty⟩
      cases hpub : view.publishes with
      | true => rw [hpub] at hheld; exact .inr ⟨i, .single hheld⟩
      | false => rw [hpub] at hheld; exact .inl ((tests_whileExit_finished hexit i).head hheld)
  | publish i => exact absurd rfl (hpublish i)
  | exitSignal => exact .inl (.single hsignal)
  | finished => exact .inl .refl

/-- **An exiting poll thread comes to its end.**  A side of the driver, with the steps
`Quiet` and the invariant `Inv`, whose tests are steps, whose publish functions
return, and whose thread can be woken if it is in `Wait`. -/
theorem exists_finished_of_wakes {S : Type} {Quiet : S → S → Prop} {Inv : S → Prop}
    {consumer : S → PollPc} {view : S → QueueView} (hexit : flags.Exiting)
    (hinv : ∀ s t, Inv s → ReflTransGen Quiet s t → Inv t)
    (htests : ∀ s pc, ReflTransGen (Tests flags (view s)) (consumer s) pc →
      ∃ t, ReflTransGen Quiet s t ∧ consumer t = pc)
    (hpublished : ∀ s i, Inv s → consumer s = .publish i →
      ∃ t, ReflTransGen Quiet s t ∧ consumer t = .whileExit i)
    {s : S} (hs : Inv s) (hbound : (consumer s).Bounded)
    (hwakes : consumer s = .wait → ∃ t, ReflTransGen Quiet s t ∧ consumer t = .scan 0) :
    ∃ t, ReflTransGen Quiet s t ∧ consumer t = .finished := by
  -- out of a publish function the thread comes to its end
  have hpublish : ∀ s i, Inv s → consumer s = .publish i →
      ∃ t, ReflTransGen Quiet s t ∧ consumer t = .finished := by
    intro s i hs hpc
    obtain ⟨u, hrun, hu⟩ := hpublished s i hs hpc
    obtain ⟨t, hrun', ht⟩ := htests u .finished (hu ▸ tests_whileExit_finished hexit i)
    exact ⟨t, hrun.trans hrun', ht⟩
  by_cases hwait : consumer s = .wait
  · obtain ⟨u, hrun, hu⟩ := hwakes hwait
    obtain ⟨t, hrun', ht⟩ := htests u .finished
      (hu ▸ tests_scan_finished hexit (Nat.zero_le _))
    exact ⟨t, hrun.trans hrun', ht⟩
  · by_cases hpc : ∃ i, consumer s = .publish i
    · obtain ⟨i, hpc⟩ := hpc
      exact hpublish s i hs hpc
    · rcases tests_finished hexit hbound hwait (fun i hi => hpc ⟨i, hi⟩) with hdone | ⟨i, hin⟩
      · exact htests s .finished hdone
      · obtain ⟨u, hrun, hu⟩ := htests s (.publish i) hin
        obtain ⟨t, hrun', ht⟩ := hpublish u i (hinv s u hs hrun) hu
        exact ⟨t, hrun.trans hrun', ht⟩

end Tests

/-! ## Emptying one queue -/

/-- The consumer moves by one step inside a publish function. -/
def Pops (q q' : QueueState R) : Prop :=
  ∃ l, l.pops = true ∧ QueueStep q l q'

section Pops

variable {config : PollConfig} {q : QueueState R}

/-- From the index update on, the consumer completes a pop. -/
theorem pops_of_update (h : InUse config q) {pkg : StoragePacket R}
    (hpc : q.consumer = .update pkg) :
    ∃ q', ReflTransGen Pops q q' ∧ InUse config q' ∧ q'.consumer = .idle ∧
      q'.held.length + 1 = q.held.length := by
  obtain ⟨k, slots, hinv⟩ := h.inv
  have hupdate : QueueStep q .update (q.update pkg) := .update hpc
  obtain ⟨rest, hheld⟩ : ∃ rest, q.held = pkg :: rest := by
    have hconsumer := hinv.consumer
    rw [hpc] at hconsumer
    exact List.head?_eq_some_iff.mp hconsumer
  refine ⟨_, .single ⟨.update, rfl, hupdate⟩, h.step hupdate, rfl, ?_⟩
  rw [QueueState.held_update hheld, hheld, List.length_cons]

/-- From the copy of the slot on, the consumer completes a pop. -/
theorem pops_of_copy (h : InUse config q) (hpc : q.consumer = .copy) :
    ∃ q', ReflTransGen Pops q q' ∧ InUse config q' ∧ q'.consumer = .idle ∧
      q'.held.length + 1 = q.held.length := by
  obtain ⟨k, slots, hinv⟩ := h.inv
  have hne : q.held ≠ [] := by
    have hconsumer := hinv.consumer
    rwa [hpc] at hconsumer
  obtain ⟨pkg, rest, hheld⟩ := List.exists_cons_of_ne_nil hne
  have hcopy := QueueStep.copy hpc (hinv.copySlot_eq hheld)
  obtain ⟨q', hrun, hrest⟩ := pops_of_update (h.step hcopy) rfl
  exact ⟨q', hrun.head ⟨.copy, rfl, hcopy⟩, hrest⟩

/-- From the test of `QueuePrePop` on, the consumer completes a pop if the queue
holds something. -/
theorem pops_of_prePop (h : InUse config q) (hpc : q.consumer = .prePop)
    (hheld : queueIsEmpty q.queue = false) :
    ∃ q', ReflTransGen Pops q q' ∧ InUse config q' ∧ q'.consumer = .idle ∧
      q'.held.length + 1 = q.held.length := by
  have hprePop := QueueStep.prePop hpc hheld
  obtain ⟨q', hrun, hrest⟩ := pops_of_copy (h.step hprePop) rfl
  exact ⟨q', hrun.head ⟨.prePop, rfl, hprePop⟩, hrest⟩

/-- A consumer that runs alone comes back to the test of its loop. -/
theorem pops_idle (h : InUse config q) :
    ∃ q', ReflTransGen Pops q q' ∧ InUse config q' ∧ q'.consumer = .idle := by
  cases hpc : q.consumer with
  | idle => exact ⟨q, .refl, h, hpc⟩
  | prePop =>
    cases hempty : queueIsEmpty q.queue with
    | true =>
      have hback := QueueStep.prePopEmpty hpc hempty
      exact ⟨_, .single ⟨.prePopEmpty, rfl, hback⟩, h.step hback, rfl⟩
    | false =>
      obtain ⟨q', hrun, hin, hidle, -⟩ := pops_of_prePop h hpc hempty
      exact ⟨q', hrun, hin, hidle⟩
  | copy =>
    obtain ⟨q', hrun, hin, hidle, -⟩ := pops_of_copy h hpc
    exact ⟨q', hrun, hin, hidle⟩
  | update pkg =>
    obtain ⟨q', hrun, hin, hidle, -⟩ := pops_of_update h hpc
    exact ⟨q', hrun, hin, hidle⟩

/-- A consumer that runs alone empties the queue: by induction on the number of
packets that it holds. -/
theorem pops_empty (h : InUse config q) (hidle : q.consumer = .idle) :
    ∃ q', ReflTransGen Pops q q' ∧ q'.consumer = .idle ∧ queueIsEmpty q'.queue = true := by
  induction hn : q.held.length generalizing q with
  | zero =>
    obtain ⟨k, slots, hinv⟩ := h.inv
    exact ⟨q, .refl, hidle, hinv.isEmpty_iff.mpr (List.length_eq_zero_iff.mp hn)⟩
  | succ n ih =>
    obtain ⟨k, slots, hinv⟩ := h.inv
    have hheld : queueIsEmpty q.queue = false := by
      rw [← Bool.not_eq_true, hinv.isEmpty_iff, ← List.length_eq_zero_iff, hn]
      exact Nat.succ_ne_zero n
    have hpoll := QueueStep.poll hidle hheld
    obtain ⟨q', hrun, hin, hidle', hlen⟩ := pops_of_prePop (h.step hpoll) rfl hheld
    have hlen' : q'.held.length + 1 = q.held.length := hlen
    obtain ⟨q'', hrun', hdone⟩ := ih hin hidle' (by omega)
    exact ⟨q'', (hrun.head ⟨.poll, rfl, hpoll⟩).trans hrun', hdone⟩

end Pops

/-! ## Stranded threads -/

/-- A step that begins no push call. -/
def PcdQuiet (config : PollConfig) (flags : DriverFlags) (s t : PcdSide R) : Prop :=
  ∃ l, PcdStep config flags s l t ∧ ∀ i call, l ≠ .enter i call

/-- The poll thread is in `Wait` with count 0, and the producer is not going to
signal: it is not in a push call, or about to find that the queue is empty. -/
structure PcdSide.Stranded (s : PcdSide R) : Prop where
  waiting : s.consumer = .wait
  count : s.count = 0
  producer : s.producer = .idle ∨
    ∃ i, s.producer = .testEmpty i ∧ queueIsEmpty (s.lidars i).queue = true

namespace PcdSide

variable {config : PollConfig} {flags : DriverFlags} {s t : PcdSide R}

/-- The scan of the point cloud thread stays in bounds. -/
theorem bounded_of_step {l : PcdLabel R} (h : s.consumer.Bounded)
    (hstep : PcdStep config flags s l t) : t.consumer.Bounded := by
  cases hstep with
  | poll hcontrol => exact hcontrol.bounded
  | wake =>
    intro i hi
    cases hi
    exact Nat.zero_le _
  | published =>
    intro i hi
    cases hi
  | _ => exact h

/-- A stranded thread has its producer in none of the other places. -/
theorem Stranded.producer_ne (h : s.Stranded) {pc : PushPc R} (hidle : pc ≠ .idle)
    (htest : ∀ i, pc ≠ .testEmpty i) : s.producer ≠ pc := by
  rintro rfl
  obtain heq | ⟨i, heq, -⟩ := h.producer
  · exact hidle heq
  · exact htest i heq

/-- A fault leaves the emptiness of the queues alone. -/
theorem queueIsEmpty_fault {i : Fin kMaxSourceLidar} {q : QueueState R}
    (hq : QueueStep (s.lidars i) .fault q) (j : Fin kMaxSourceLidar) :
    queueIsEmpty ((s.setQueue i q).lidars j).queue = queueIsEmpty (s.lidars j).queue := by
  rw [lidars_setQueue]
  by_cases hj : j = i
  · rw [hj, Function.update_self, queueIsEmpty_of_step hq (by simp) (by simp)]
  · rw [Function.update_of_ne hj]

/-- Without new data a stranded thread stays stranded. -/
theorem Stranded.quiet (h : s.Stranded) (hquiet : PcdQuiet config flags s t) : t.Stranded := by
  obtain ⟨l, hstep, hnot⟩ := hquiet
  cases hstep with
  | enter => exact absurd rfl (hnot _ _)
  | full hpc _ => exact absurd hpc (h.producer_ne (by simp) (by simp))
  | room hpc _ => exact absurd hpc (h.producer_ne (by simp) (by simp))
  | write hpc _ => exact absurd hpc (h.producer_ne (by simp) (by simp))
  | advance hpc _ => exact absurd hpc (h.producer_ne (by simp) (by simp))
  | held hpc hheld =>
    obtain heq | ⟨j, heq, hempty⟩ := h.producer
    · rw [hpc] at heq
      cases heq
    · rw [hpc] at heq
      cases heq
      rw [hheld] at hempty
      cases hempty
  | drained _ _ => exact ⟨h.waiting, h.count, .inl rfl⟩
  | countZero hpc _ => exact absurd hpc (h.producer_ne (by simp) (by simp))
  | countPositive hpc _ => exact absurd hpc (h.producer_ne (by simp) (by simp))
  | signal hpc => exact absurd hpc (h.producer_ne (by simp) (by simp))
  | poll hcontrol =>
    rw [h.waiting] at hcontrol
    cases hcontrol
  | wake _ hpos =>
    rw [h.count] at hpos
    exact absurd hpos (Nat.lt_irrefl 0)
  | publish hpc _ _ =>
    rw [h.waiting] at hpc
    cases hpc
  | published hpc _ =>
    rw [h.waiting] at hpc
    cases hpc
  | fault hq =>
    refine ⟨h.waiting, h.count, h.producer.imp_right ?_⟩
    rintro ⟨j, hpc, hempty⟩
    exact ⟨j, hpc, (queueIsEmpty_fault hq j).trans hempty⟩

/-- A queue that was just pushed to is not empty. -/
theorem queueIsEmpty_of_advance {q q' : QueueState R} (h : InUse config q)
    (hstep : QueueStep q .advance q') : queueIsEmpty q'.queue = false := by
  obtain ⟨k, slots, hinv⟩ := h.inv
  cases hstep with
  | @advance call hpc =>
    rw [← Bool.not_eq_true, (hinv.of_advance hpc).isEmpty_iff,
      QueueState.held_advance call hinv.popped_le]
    exact List.append_ne_nil_of_right_ne_nil _ (List.cons_ne_nil _ _)

/-- Once the exit is requested no step strands the thread. -/
theorem Stranded.of_step {l : PcdLabel R} (h : t.Stranded) (hinv : s.Inv config)
    (hexit : flags.requestExit = true) (hstep : PcdStep config flags s l t) : s.Stranded := by
  cases hstep with
  | enter => exact absurd rfl (h.producer_ne (by simp) (by simp))
  | full => exact absurd rfl (h.producer_ne (by simp) (by simp))
  | room => exact absurd rfl (h.producer_ne (by simp) (by simp))
  | write hpc _ => exact absurd hpc (h.producer_ne (by simp) (by simp))
  | @advance i q hpc hq =>
    obtain heq | ⟨j, heq, hempty⟩ := h.producer
    · cases heq
    · cases heq
      rw [lidars_setQueue, Function.update_self,
        queueIsEmpty_of_advance ((hinv i).pushing hpc) hq] at hempty
      cases hempty
  | held => exact absurd rfl (h.producer_ne (by simp) (by simp))
  | @drained i hpc hempty => exact ⟨h.waiting, h.count, .inr ⟨i, hpc, hempty⟩⟩
  | countZero => exact absurd rfl (h.producer_ne (by simp) (by simp))
  | countPositive _ hpos => exact absurd (Nat.le_of_eq h.count) hpos
  | signal => exact absurd h.count (Nat.succ_ne_zero _)
  | poll hcontrol => exact absurd h.waiting (hcontrol.ne_wait hexit)
  | wake => cases h.waiting
  | publish hpc _ _ =>
    have hwait : s.consumer = .wait := h.waiting
    rw [hpc] at hwait
    cases hwait
  | published => cases h.waiting
  | fault hq =>
    refine ⟨h.waiting, h.count, h.producer.imp_right ?_⟩
    rintro ⟨j, hpc, hempty⟩
    exact ⟨j, hpc, (queueIsEmpty_fault hq j).symm.trans hempty⟩

/-! ## Progress -/

/-- A step, as a step without new data. -/
theorem quiet_of_step {l : PcdLabel R} (hstep : PcdStep config flags s l t)
    (hnot : ∀ i call, l ≠ .enter i call) : PcdQuiet config flags s t :=
  ⟨l, hstep, hnot⟩

/-- The invariant holds along steps without new data. -/
theorem Inv.quiet (h : s.Inv config) (hrun : ReflTransGen (PcdQuiet config flags) s t) :
    t.Inv config := by
  induction hrun with
  | refl => exact h
  | tail _ hstep ih =>
    obtain ⟨l, hstep, -⟩ := hstep
    exact ih.step hstep

/-- Without new data the producer can raise the count while the poll thread stays
where it is. -/
def Signals (config : PollConfig) (flags : DriverFlags) (s : PcdSide R) : Prop :=
  ∃ t, ReflTransGen (PcdQuiet config flags) s t ∧ 0 < t.count ∧ t.consumer = s.consumer

/-- One more step before the count is raised. -/
theorem Signals.head (h : t.Signals config flags) (hstep : PcdQuiet config flags s t)
    (hconsumer : t.consumer = s.consumer) : s.Signals config flags := by
  obtain ⟨u, hrun, hcount, hu⟩ := h
  exact ⟨u, hrun.head hstep, hcount, hu.trans hconsumer⟩

/-- A producer that is about to read the count 0 signals. -/
theorem signals_of_getCount (hpc : s.producer = .getCount) (hcount : s.count = 0) :
    s.Signals config flags := by
  have hread : PcdQuiet config flags s { s with producer := .signal } :=
    quiet_of_step (.countZero hpc (Nat.le_of_eq hcount)) (by simp)
  have hsignal : PcdQuiet config flags { s with producer := .signal }
      { s with count := s.count + 1, producer := .idle } :=
    quiet_of_step (.signal rfl) (by simp)
  exact ⟨_, (ReflTransGen.single hread).tail hsignal, Nat.succ_pos _, rfl⟩

/-- A producer that checks a queue which is not empty signals. -/
theorem signals_of_testEmpty {i : Fin kMaxSourceLidar} (hpc : s.producer = .testEmpty i)
    (hheld : queueIsEmpty (s.lidars i).queue = false) (hcount : s.count = 0) :
    s.Signals config flags := by
  have hnext : Signals config flags { s with producer := .getCount } :=
    signals_of_getCount rfl hcount
  exact hnext.head (quiet_of_step (.held hpc hheld) (by simp)) rfl

/-- A producer that has written its slot signals. -/
theorem signals_of_advance (hinv : s.Inv config) {i : Fin kMaxSourceLidar} (call : PushCall R)
    (hpc : s.producer = .push i) (hinner : (s.lidars i).producer = .advance call)
    (hcount : s.count = 0) : s.Signals config flags := by
  have hq : QueueStep (s.lidars i) .advance ((s.lidars i).advance call) := .advance hinner
  have hstep : PcdQuiet config flags s
      { s.setQueue i ((s.lidars i).advance call) with producer := .testEmpty i } :=
    quiet_of_step (.advance hpc hq) (by simp)
  have hheld := queueIsEmpty_of_advance ((hinv i).pushing hpc) hq
  refine Signals.head ?_ hstep rfl
  refine signals_of_testEmpty rfl ?_ hcount
  simpa using hheld

/-- A producer inside `QueuePushAny` signals. -/
theorem signals_of_push (hinv : s.Inv config) {i : Fin kMaxSourceLidar}
    (hpc : s.producer = .push i) (hcount : s.count = 0) : s.Signals config flags := by
  cases hinner : (s.lidars i).producer with
  | idle => exact absurd hpc ((hinv i).inner.mp hinner)
  | advance call => exact signals_of_advance hinv call hpc hinner hcount
  | write call =>
    obtain ⟨k, slots, hq⟩ := ((hinv i).pushing hpc).inv
    have hwrite := QueueStep.write hinner (hq.pushSlot_eq call)
    have hstep : PcdStep config flags s (.write i) _ := .write hpc hwrite
    have hnext : PcdQuiet config flags s _ := quiet_of_step hstep (by simp)
    refine Signals.head ?_ hnext rfl
    refine signals_of_advance (hinv.step hstep) call hpc ?_ hcount
    simp

/-- A producer at the fullness test signals. -/
theorem signals_of_test (hinv : s.Inv config) {i : Fin kMaxSourceLidar} {call : PushCall R}
    (hpc : s.producer = .test i call) (hcount : s.count = 0) : s.Signals config flags := by
  have hinner : (s.lidars i).producer = .idle := (hinv i).inner.mpr (by rw [hpc]; simp)
  cases hfull : queueIsFull (s.lidars i).queue with
  | true =>
    have hstep : PcdStep config flags s (.full i call) _ := .full hpc (.refuse hinner hfull)
    have hnext : PcdQuiet config flags s _ := quiet_of_step hstep (by simp)
    refine Signals.head ?_ hnext rfl
    exact signals_of_getCount rfl hcount
  | false =>
    have hstep : PcdStep config flags s (.room i call) _ := .room hpc (.enter hinner hfull)
    have hnext : PcdQuiet config flags s _ := quiet_of_step hstep (by simp)
    refine Signals.head ?_ hnext rfl
    exact signals_of_push (hinv.step hstep) rfl hcount

/-- If the thread waits with count 0 and is not stranded, it can be woken. -/
theorem signals_of_not_stranded (hinv : s.Inv config) (hwait : s.consumer = .wait)
    (hcount : s.count = 0) (hnot : ¬ s.Stranded) : s.Signals config flags := by
  cases hpc : s.producer with
  | idle => exact absurd ⟨hwait, hcount, .inl hpc⟩ hnot
  | test i call => exact signals_of_test hinv hpc hcount
  | push i => exact signals_of_push hinv hpc hcount
  | testEmpty i =>
    refine signals_of_testEmpty hpc ?_ hcount
    rw [← Bool.not_eq_true]
    exact fun hempty => hnot ⟨hwait, hcount, .inr ⟨i, hpc, hempty⟩⟩
  | getCount => exact signals_of_getCount hpc hcount
  | signal =>
    have hsignal : PcdQuiet config flags s
        { s with count := s.count + 1, producer := .idle } :=
      quiet_of_step (.signal hpc) (by simp)
    exact ⟨_, .single hsignal, Nat.succ_pos _, rfl⟩

/-- The consumer inside a publish function can come out of it. -/
theorem exists_published (hinv : s.Inv config) {i : Fin kMaxSourceLidar}
    (hpc : s.consumer = .publish i) :
    ∃ t, ReflTransGen (PcdQuiet config flags) s t ∧ t.consumer = .whileExit i := by
  obtain ⟨q, hrun, hidle, hempty⟩ : ∃ q, ReflTransGen Pops (s.lidars i) q ∧
      q.consumer = .idle ∧ queueIsEmpty q.queue = true := by
    obtain huntouched | hin := (hinv i).ok
    · exact ⟨_, .refl, by rw [huntouched]; rfl, by rw [huntouched]; rfl⟩
    · obtain ⟨q, hrun, hin', hidle⟩ := pops_idle hin
      obtain ⟨q', hrun', hdone⟩ := pops_empty hin' hidle
      exact ⟨q', hrun.trans hrun', hdone⟩
  -- the steps on the queue are steps of the thread
  have hsteps : ReflTransGen (PcdQuiet config flags) (s.setQueue i (s.lidars i))
      (s.setQueue i q) := by
    refine ReflTransGen.lift (fun q => s.setQueue i q) ?_ _ _ hrun
    rintro q₁ q₂ ⟨l, hpops, hq⟩
    have hstep : PcdStep config flags (s.setQueue i q₁) (.publish i l)
        ((s.setQueue i q₁).setQueue i q₂) := .publish hpc hpops (by simpa using hq)
    have hidem : (s.setQueue i q₁).setQueue i q₂ = s.setQueue i q₂ := by
      simp [setQueue, Function.update_idem]
    rw [hidem] at hstep
    exact quiet_of_step hstep (by simp)
  have hself : s.setQueue i (s.lidars i) = s := by
    rw [setQueue, Function.update_eq_self]
  rw [hself] at hsteps
  have hdone : QueueStep ((s.setQueue i q).lidars i) .pollEmpty q := by
    rw [lidars_setQueue, Function.update_self]
    exact .pollEmpty hidle hempty
  have hout : PcdQuiet config flags (s.setQueue i q) _ :=
    quiet_of_step (.published hpc hdone) (by simp)
  exact ⟨_, hsteps.tail hout, rfl⟩

/-- The tests of the poll thread are steps of the point cloud side. -/
theorem quiet_of_tests {pc : PollPc}
    (h : ReflTransGen (Tests flags (s.view config)) s.consumer pc) :
    ReflTransGen (PcdQuiet config flags) s { s with consumer := pc } := by
  refine ReflTransGen.lift (fun pc => { s with consumer := pc }) ?_ _ _ h
  rintro pc₁ pc₂ ⟨l, hcontrol⟩
  have hstep : PcdStep config flags { s with consumer := pc₁ } (.poll l)
      { s with consumer := pc₂ } := .poll hcontrol
  exact quiet_of_step hstep (by simp)

/-- An exiting poll thread that is not stranded can come to its end. -/
theorem exists_finished (hexit : flags.Exiting) (hinv : s.Inv config)
    (hbound : s.consumer.Bounded) (hnot : ¬ s.Stranded) :
    ∃ t, ReflTransGen (PcdQuiet config flags) s t ∧ t.consumer = .finished := by
  refine exists_finished_of_wakes hexit (fun s t hs hrun => hs.quiet hrun)
    (fun s pc h => ⟨_, quiet_of_tests h, rfl⟩) (fun s i hs hpc => exists_published hs hpc)
    hinv hbound (fun hwait => ?_)
  obtain ⟨u, hrun, hcount, hu⟩ : s.Signals config flags := by
    rcases Nat.eq_zero_or_pos s.count with hzero | hpos
    · exact signals_of_not_stranded hinv hwait hzero hnot
    · exact ⟨s, .refl, hpos, rfl⟩
  have hstep : PcdStep config flags u .wake _ := .wake (hu.trans hwait) hcount
  exact ⟨_, hrun.tail (quiet_of_step hstep (by simp)), rfl⟩

end PcdSide

end RoboRacer.Driver
