/-
  Foundation/Handshake.lean --- raising requests and waiting for their answers.

  One side asks for a set of items and keeps the ones it still waits for; the
  other answers each request with success or failure.  A request that is sent
  again after a timeout is still the same request, so retries are no steps here.
  The asking side is `ready` once a success has left nothing pending, and it may
  ask again at any time, which begins a new round:

      outstanding + acknowledged + failed = rounds     for every item asked for

  The results say what `ready` and `pending` are worth in the first round, and
  what they are worth once every answer has come in, after any number of rounds.
-/
import Mathlib.Data.Finset.Basic
import RoboRacer.Foundation.Machine

set_option autoImplicit false

namespace RoboRacer.Foundation

/-- The state of a handshake over the items of `ι`. -/
structure Handshake (ι : Type) where
  /-- The items raised and not acknowledged since. -/
  pending : Finset ι
  /-- Whether a success has ever left nothing pending. -/
  ready : Bool
  /-- The requests not answered yet, for each item. -/
  outstanding : ι → Nat
  /-- The requests answered with success. -/
  acknowledged : ι → Nat
  /-- The requests answered with failure. -/
  failed : ι → Nat
  /-- How often the items were raised. -/
  rounds : Nat

namespace Handshake

variable {ι : Type} [DecidableEq ι]

/-- The events of a handshake. -/
inductive Event (ι : Type) where
  /-- All items are raised, and one request is sent for each. -/
  | raise
  /-- A request is answered with success. -/
  | acknowledge (i : ι)
  /-- A request is answered with failure. -/
  | fail (i : ι)

/-- Nothing raised, nothing sent. -/
def initial : Handshake ι where
  pending := ∅
  ready := false
  outstanding := fun _ => 0
  acknowledged := fun _ => 0
  failed := fun _ => 0
  rounds := 0

/-- All of `requested` is raised. -/
def raised (requested : Finset ι) (s : Handshake ι) : Handshake ι :=
  { s with
    pending := s.pending ∪ requested
    outstanding := fun i => s.outstanding i + if i ∈ requested then 1 else 0
    rounds := s.rounds + 1 }

/-- A success for `i` comes in. -/
def acknowledge (s : Handshake ι) (i : ι) : Handshake ι :=
  { s with
    pending := s.pending.erase i
    ready := s.ready || decide (s.pending.erase i = ∅)
    outstanding := Function.update s.outstanding i (s.outstanding i - 1)
    acknowledged := Function.update s.acknowledged i (s.acknowledged i + 1) }

/-- A failure for `i` comes in. -/
def fail (s : Handshake ι) (i : ι) : Handshake ι :=
  { s with
    outstanding := Function.update s.outstanding i (s.outstanding i - 1)
    failed := Function.update s.failed i (s.failed i + 1) }

/-- One event; only an outstanding request is answered. -/
def step (requested : Finset ι) (s : Handshake ι) : Event ι → Option (Handshake ι)
  | .raise => some (s.raised requested)
  | .acknowledge i => if s.outstanding i = 0 then none else some (s.acknowledge i)
  | .fail i => if s.outstanding i = 0 then none else some (s.fail i)

theorem acknowledged_acknowledge_of_ne {s : Handshake ι} {i j : ι} (h : j ≠ i) :
    (s.acknowledge i).acknowledged j = s.acknowledged j :=
  Function.update_of_ne h ..

/-- The handshake that asks for `requested`. -/
def machine (requested : Finset ι) : Machine (Handshake ι) (Event ι) :=
  .ofStep initial (step requested)

/-! ## The invariant -/

/-- What holds in every state of a handshake. -/
structure Sound (requested : Finset ι) (s : Handshake ι) : Prop where
  /-- Each round sends one request for each item, and each request is answered
  at most once. -/
  conserved : ∀ i,
    s.outstanding i + s.acknowledged i + s.failed i = if i ∈ requested then s.rounds else 0
  /-- Only what is asked for is pending. -/
  asked : ∀ i ∈ s.pending, i ∈ requested
  /-- Something pending is still being asked for, unless a request failed. -/
  waiting : ∀ i ∈ s.pending, 0 < s.outstanding i + s.failed i
  /-- An item stays pending until it is acknowledged. -/
  kept : ∀ i ∈ requested, 0 < s.rounds → s.acknowledged i = 0 → i ∈ s.pending
  /-- In the first round an acknowledged item is no longer pending. -/
  lowered : s.rounds ≤ 1 → ∀ i ∈ s.pending, s.acknowledged i = 0
  /-- In the first round `ready` means that nothing is pending. -/
  settled : s.rounds ≤ 1 → s.ready = true → s.pending = ∅
  /-- What was raised is either pending or has been settled once. -/
  progress : 0 < s.rounds → requested.Nonempty → s.pending.Nonempty ∨ s.ready = true
  /-- Only an answer makes a handshake ready. -/
  started : s.ready = true → requested.Nonempty ∧ 0 < s.rounds

variable {requested : Finset ι} {s t : Handshake ι}

theorem sound_initial : Sound requested (initial : Handshake ι) where
  conserved i := by simp [initial]
  asked i hi := by simp [initial] at hi
  waiting i hi := by simp [initial] at hi
  kept i _ hrounds := by simp [initial] at hrounds
  lowered _ i hi := by simp [initial] at hi
  settled _ _ := rfl
  progress hrounds := by simp [initial] at hrounds
  started hready := by simp [initial] at hready

theorem Sound.raised (h : Sound requested s) : Sound requested (s.raised requested) where
  conserved i := by
    have hi := h.conserved i
    by_cases hmem : i ∈ requested
    · simp only [Handshake.raised, if_pos hmem] at hi ⊢
      omega
    · simpa only [Handshake.raised, if_neg hmem, Nat.add_zero] using hi
  asked i hi := (Finset.mem_union.mp hi).elim (h.asked i) id
  waiting i hi := by
    show 0 < s.outstanding i + (if i ∈ requested then 1 else 0) + s.failed i
    rcases Finset.mem_union.mp hi with hi | hi
    · have hwait := h.waiting i hi
      omega
    · rw [if_pos hi]
      omega
  kept i hi _ _ := Finset.mem_union_right _ hi
  lowered hrounds i _ := by
    -- nothing has been sent before the first round
    have hzero : s.rounds = 0 := Nat.le_zero.mp (Nat.le_of_succ_le_succ hrounds)
    have hi := h.conserved i
    rw [hzero, ite_self] at hi
    show s.acknowledged i = 0
    omega
  settled hrounds hready := by
    have hzero : s.rounds = 0 := Nat.le_zero.mp (Nat.le_of_succ_le_succ hrounds)
    have hpos := (h.started hready).2
    omega
  progress _ hne := .inl (hne.mono Finset.subset_union_right)
  started hready := ⟨(h.started hready).1, Nat.succ_pos _⟩

/-- An item with a request outstanding is asked for, in some round. -/
theorem Sound.asked_of_outstanding (h : Sound requested s) {i : ι}
    (hi : s.outstanding i ≠ 0) : i ∈ requested ∧ 0 < s.rounds := by
  have hconserved := h.conserved i
  split at hconserved
  case isTrue hmem => exact ⟨hmem, by omega⟩
  case isFalse => omega

theorem Sound.acknowledge (h : Sound requested s) {i : ι} (hi : s.outstanding i ≠ 0) :
    Sound requested (s.acknowledge i) where
  conserved j := by
    have hj := h.conserved j
    by_cases heq : j = i
    · subst heq
      simp only [Handshake.acknowledge, Function.update_self]
      omega
    · simpa only [Handshake.acknowledge, Function.update_of_ne heq] using hj
  asked j hj := h.asked j (Finset.mem_of_mem_erase hj)
  waiting j hj := by
    have hwait := h.waiting j (Finset.mem_of_mem_erase hj)
    simpa only [Handshake.acknowledge, Function.update_of_ne (Finset.ne_of_mem_erase hj)]
      using hwait
  kept j hj hrounds hzero := by
    by_cases heq : j = i
    · subst heq
      simp [Handshake.acknowledge] at hzero
    · rw [acknowledged_acknowledge_of_ne heq] at hzero
      exact Finset.mem_erase.mpr ⟨heq, h.kept j hj hrounds hzero⟩
  lowered hrounds j hj := by
    rw [acknowledged_acknowledge_of_ne (Finset.ne_of_mem_erase hj)]
    exact h.lowered hrounds j (Finset.mem_of_mem_erase hj)
  settled hrounds hready := by
    rcases Bool.or_eq_true_iff.mp hready with hready | hempty
    · show s.pending.erase i = ∅
      rw [h.settled hrounds hready, Finset.erase_empty]
    · exact of_decide_eq_true hempty
  progress _ _ := by
    rcases Finset.eq_empty_or_nonempty (s.pending.erase i) with hempty | hne
    · exact .inr (by simp [Handshake.acknowledge, hempty])
    · exact .inl hne
  started _ := ⟨⟨i, (h.asked_of_outstanding hi).1⟩, (h.asked_of_outstanding hi).2⟩

theorem Sound.fail (h : Sound requested s) {i : ι} (hi : s.outstanding i ≠ 0) :
    Sound requested (s.fail i) where
  conserved j := by
    have hj := h.conserved j
    by_cases heq : j = i
    · subst heq
      simp only [Handshake.fail, Function.update_self]
      omega
    · simpa only [Handshake.fail, Function.update_of_ne heq] using hj
  asked := h.asked
  waiting j hj := by
    have hwait := h.waiting j hj
    by_cases heq : j = i
    · subst heq
      simp only [Handshake.fail, Function.update_self]
      omega
    · simpa only [Handshake.fail, Function.update_of_ne heq] using hwait
  kept := h.kept
  lowered := h.lowered
  settled := h.settled
  progress := h.progress
  started := h.started

/-- **The handshake invariant**, in every reachable state. -/
theorem sound_of_reachable (h : (machine requested).Reachable s) : Sound requested s := by
  refine h.invariant (Sound requested) ?_ ?_
  · rintro s rfl
    exact sound_initial
  · intro s e t _ hsound hstep
    cases e with
    | raise =>
      cases hstep
      exact hsound.raised
    | acknowledge i =>
      obtain ⟨hi, hnext⟩ := Option.ite_none_left_eq_some.mp hstep
      cases hnext
      exact hsound.acknowledge hi
    | fail i =>
      obtain ⟨hi, hnext⟩ := Option.ite_none_left_eq_some.mp hstep
      cases hnext
      exact hsound.fail hi

/-! ## What the bookkeeping is worth -/

/-- In the first round the pending items are those not acknowledged. -/
theorem Sound.mem_pending_iff (h : Sound requested s) (honce : s.rounds = 1) (i : ι) :
    i ∈ s.pending ↔ i ∈ requested ∧ s.acknowledged i = 0 := by
  constructor
  · intro hi
    exact ⟨h.asked i hi, h.lowered (by omega) i hi⟩
  · rintro ⟨hi, hzero⟩
    exact h.kept i hi (by omega) hzero

/-- In the first round an item without an answer has one request outstanding. -/
theorem Sound.outstanding_eq_one (h : Sound requested s) (honce : s.rounds = 1) {i : ι}
    (hi : i ∈ requested) (hacknowledged : s.acknowledged i = 0) (hfailed : s.failed i = 0) :
    s.outstanding i = 1 := by
  have hconserved := h.conserved i
  rw [if_pos hi] at hconserved
  omega

/-- In the first round a ready side has had every item acknowledged. -/
theorem Sound.acknowledged_of_ready (h : Sound requested s) (honce : s.rounds = 1)
    (hready : s.ready = true) {i : ι} (hi : i ∈ requested) : s.acknowledged i ≠ 0 := by
  intro hzero
  have hmem := h.kept i hi (by omega) hzero
  rw [h.settled (by omega) hready] at hmem
  simp at hmem

/-- Once all answers are in and none is a failure, the side is ready if and only
if there was something to ask for. -/
theorem Sound.ready_iff_of_answered (h : Sound requested s)
    (hanswered : ∀ i, s.outstanding i = 0) (hfailed : ∀ i, s.failed i = 0) :
    s.ready = true ↔ requested.Nonempty ∧ 0 < s.rounds := by
  constructor
  · exact h.started
  · rintro ⟨hne, hrounds⟩
    apply (h.progress hrounds hne).resolve_left
    rintro ⟨i, hi⟩
    have hwait := h.waiting i hi
    rw [hanswered i, hfailed i] at hwait
    omega

end Handshake

end RoboRacer.Foundation
