/-
  Foundation/WakeUp.lean --- waking up a consumer that polls boxes.

  A producer puts something into one of `n` boxes and then wakes the consumer,
  but only if it finds the box still occupied and reads the semaphore's count as
  zero.  The consumer takes the semaphore down and visits the boxes in order; it
  leaves a box that it attends to only when the box is empty.  Neither looks at
  what the other is doing.

  No occupied box is forgotten: while the consumer sleeps with count zero and the
  producer is away, every attended box is empty.
-/
import Mathlib.Data.Fin.Basic
import Mathlib.Logic.Function.Basic
import RoboRacer.Foundation.Machine

set_option autoImplicit false

namespace RoboRacer.Foundation

namespace WakeUp

/-- Where the producer is. -/
inductive Producer (n : Nat) where
  /-- Doing nothing that the consumer has to know of. -/
  | away
  /-- It has used box `i` and is about to look whether the box is occupied. -/
  | check (i : Fin n)
  /-- About to read the count. -/
  | read
  /-- It has read zero. -/
  | signal

/-- Where the consumer is. -/
inductive Consumer where
  | away
  | asleep
  /-- At the box `i`, or past all boxes. -/
  | visit (i : Nat)

end WakeUp

/-- The boxes, the semaphore and the two parties. -/
structure WakeUp (n : Nat) where
  occupied : Fin n → Bool
  /-- The boxes that the consumer has never skipped. -/
  attended : Fin n → Bool
  count : Nat
  /-- The consumer may leave occupied boxes, and will not sleep again. -/
  closing : Bool
  producer : WakeUp.Producer n
  consumer : WakeUp.Consumer

namespace WakeUp

variable {n : Nat}

/-- The steps, by the party that takes them. -/
inductive Event (n : Nat) where
  | deposit (i : Fin n)
  | refuse
  | checkOccupied
  | checkEmpty
  | readZero
  | readPositive
  | signal
  | sleep
  | wake
  | take (i : Fin n)
  | pass (i : Fin n)
  | leave
  | close
  | neglect

/-- One step. -/
inductive Step : WakeUp n → Event n → WakeUp n → Prop
  | deposit {s : WakeUp n} {i : Fin n} {b : Bool} : s.producer = .away →
      Step s (.deposit i)
        { s with occupied := Function.update s.occupied i b, producer := .check i }
  | refuse {s : WakeUp n} : s.producer = .away → Step s .refuse { s with producer := .read }
  | checkOccupied {s : WakeUp n} {i : Fin n} : s.producer = .check i → s.occupied i = true →
      Step s .checkOccupied { s with producer := .read }
  | checkEmpty {s : WakeUp n} {i : Fin n} : s.producer = .check i → s.occupied i = false →
      Step s .checkEmpty { s with producer := .away }
  | readZero {s : WakeUp n} : s.producer = .read → s.count = 0 →
      Step s .readZero { s with producer := .signal }
  | readPositive {s : WakeUp n} : s.producer = .read → 0 < s.count →
      Step s .readPositive { s with producer := .away }
  | signal {s : WakeUp n} : s.producer = .signal →
      Step s .signal { s with count := s.count + 1, producer := .away }
  | sleep {s : WakeUp n} : s.consumer = .away → s.closing = false →
      Step s .sleep { s with consumer := .asleep }
  | wake {s : WakeUp n} : s.consumer = .asleep → 0 < s.count →
      Step s .wake { s with count := s.count - 1, consumer := .visit 0 }
  | take {s : WakeUp n} {i : Fin n} {b : Bool} : s.consumer = .visit i →
      Step s (.take i) { s with occupied := Function.update s.occupied i b }
  | pass {s : WakeUp n} {i : Fin n} : s.consumer = .visit i →
      (s.attended i = true → s.occupied i = true → s.closing = true) →
      Step s (.pass i) { s with consumer := .visit (i + 1) }
  | leave {s : WakeUp n} : s.consumer = .visit n → Step s .leave { s with consumer := .away }
  | close {s : WakeUp n} : Step s .close { s with closing := true }
  | neglect {s : WakeUp n} {attended : Fin n → Bool} :
      (∀ i, attended i = true → s.attended i = true) →
      Step s .neglect { s with attended := attended }

/-- Both parties away, every box empty. -/
def machine (n : Nat) : Machine (WakeUp n) (Event n) where
  Init s := s.occupied = (fun _ => false) ∧ s.count = 0 ∧ s.producer = .away ∧ s.consumer = .away
  Step := Step

/-- The consumer has been called, or will be, because of the box. -/
def Called (s : WakeUp n) (i : Fin n) : Prop :=
  0 < s.count ∨ s.producer = .read ∨ s.producer = .signal ∨ s.producer = .check i

/-- The consumer comes to the box without being called, or will not sleep again. -/
def Coming (s : WakeUp n) (i : Fin n) : Prop :=
  (∃ j, j ≤ i.val ∧ s.consumer = .visit j) ∨ (s.closing = true ∧ s.consumer ≠ .asleep)

/-- The invariant of the protocol: no attended box is occupied and forgotten. -/
structure Inv (s : WakeUp n) : Prop where
  count_le : s.count ≤ 1
  signalling : s.producer = .signal → s.count = 0
  remembered : ∀ i, s.attended i = true → s.occupied i = true → s.Called i ∨ s.Coming i

theorem Called.of_away {s : WakeUp n} {i : Fin n} (h : s.Called i) (haway : s.producer = .away) :
    0 < s.count := by
  rcases h with hcount | hpc | hpc | hpc
  · exact hcount
  · rw [haway] at hpc; cases hpc
  · rw [haway] at hpc; cases hpc
  · rw [haway] at hpc; cases hpc

theorem Called.of_check {s : WakeUp n} {i j : Fin n} (h : s.Called j)
    (hcheck : s.producer = .check i) : 0 < s.count ∨ j = i := by
  rcases h with hcount | hpc | hpc | hpc
  · exact .inl hcount
  · rw [hcheck] at hpc; cases hpc
  · rw [hcheck] at hpc; cases hpc
  · rw [hcheck] at hpc; cases hpc; exact .inr rfl

/-- Another box is as it was. -/
theorem occupied_update {s : WakeUp n} {i j : Fin n} {b : Bool} (hne : j ≠ i)
    (h : Function.update s.occupied i b j = true) : s.occupied j = true := by
  rwa [Function.update_of_ne hne] at h

/-- What the producer does keeps every occupied box remembered. -/
theorem Inv.deposit {s : WakeUp n} (h : s.Inv) {i : Fin n} {b : Bool}
    (haway : s.producer = .away) :
    Inv { s with occupied := Function.update s.occupied i b, producer := .check i } := by
  refine ⟨h.count_le, fun hpc => (by cases hpc), fun j hj hocc => ?_⟩
  by_cases hji : j = i
  · rw [hji]
    exact .inl (.inr (.inr (.inr rfl)))
  · exact (h.remembered j hj (occupied_update hji hocc)).imp_left
      (fun hcalled => .inl (hcalled.of_away haway))

theorem Inv.checkEmpty {s : WakeUp n} (h : s.Inv) {i : Fin n} (hcheck : s.producer = .check i)
    (hempty : s.occupied i = false) : Inv { s with producer := .away } := by
  refine ⟨h.count_le, fun hpc => (by cases hpc), fun j hj hocc => ?_⟩
  have hocc' : s.occupied j = true := hocc
  refine (h.remembered j hj hocc').imp_left (fun hcalled => .inl ?_)
  -- the box it was about to check is empty, so it is not this one
  rcases hcalled.of_check hcheck with hcount | rfl
  · exact hcount
  · rw [hocc'] at hempty
    cases hempty

theorem Inv.signal {s : WakeUp n} (h : s.Inv) (hsignal : s.producer = .signal) :
    Inv { s with count := s.count + 1, producer := .away } := by
  have hzero := h.signalling hsignal
  refine ⟨?_, fun hpc => (by cases hpc), fun _ _ _ => .inl (.inl (Nat.succ_pos _))⟩
  change s.count + 1 ≤ 1
  omega

/-- What the consumer does keeps every occupied box remembered. -/
theorem Inv.sleep {s : WakeUp n} (h : s.Inv) (haway : s.consumer = .away)
    (hopen : s.closing = false) : Inv { s with consumer := .asleep } := by
  refine ⟨h.count_le, h.signalling, fun j hj hocc => ?_⟩
  rcases h.remembered j hj hocc with hcalled | ⟨k, -, hvisit⟩ | ⟨hclosing, -⟩
  · exact .inl hcalled
  · rw [haway] at hvisit
    cases hvisit
  · rw [hopen] at hclosing
    cases hclosing

theorem Inv.wake {s : WakeUp n} (h : s.Inv) (hpos : 0 < s.count) :
    Inv { s with count := s.count - 1, consumer := .visit 0 } := by
  have hle := h.count_le
  refine ⟨?_, fun hpc => ?_, fun j _ _ => .inr (.inl ⟨0, Nat.zero_le _, rfl⟩)⟩
  · change s.count - 1 ≤ 1
    omega
  · have hzero := h.signalling hpc
    change s.count - 1 = 0
    omega

theorem Inv.take {s : WakeUp n} (h : s.Inv) {i : Fin n} {b : Bool}
    (hvisit : s.consumer = .visit i) :
    Inv { s with occupied := Function.update s.occupied i b } := by
  refine ⟨h.count_le, h.signalling, fun j hj hocc => ?_⟩
  by_cases hji : j = i
  · rw [hji]
    exact .inr (.inl ⟨i.val, Nat.le_refl _, hvisit⟩)
  · exact h.remembered j hj (occupied_update hji hocc)

theorem Inv.pass {s : WakeUp n} (h : s.Inv) {i : Fin n} (hvisit : s.consumer = .visit i)
    (hpass : s.attended i = true → s.occupied i = true → s.closing = true) :
    Inv { s with consumer := .visit (i + 1) } := by
  refine ⟨h.count_le, h.signalling, fun j hj hocc => ?_⟩
  refine (h.remembered j hj hocc).imp_right ?_
  rintro (⟨k, hk, hat⟩ | ⟨hclosing, -⟩)
  · rw [hvisit] at hat
    cases hat
    by_cases hji : j = i
    · -- an attended box is passed only when it is empty, or at the end
      rw [hji] at hj hocc
      exact .inr ⟨hpass hj hocc, fun hpc => (by cases hpc)⟩
    · have hlt : i.val < j.val := lt_of_le_of_ne hk (fun heq => hji (Fin.ext heq.symm))
      exact .inl ⟨i.val + 1, hlt, rfl⟩
  · exact .inr ⟨hclosing, fun hpc => (by cases hpc)⟩

theorem Inv.leave {s : WakeUp n} (h : s.Inv) (hvisit : s.consumer = .visit n) :
    Inv { s with consumer := .away } := by
  refine ⟨h.count_le, h.signalling, fun j hj hocc => ?_⟩
  refine (h.remembered j hj hocc).imp_right ?_
  rintro (⟨k, hk, hat⟩ | ⟨hclosing, -⟩)
  · rw [hvisit] at hat
    cases hat
    exact absurd j.isLt (Nat.not_lt.mpr hk)
  · exact .inr ⟨hclosing, fun hpc => (by cases hpc)⟩

/-- Every step preserves the invariant. -/
theorem Inv.step {s t : WakeUp n} {e : Event n} (h : s.Inv) (hstep : Step s e t) : t.Inv := by
  cases hstep with
  | deposit haway => exact h.deposit haway
  | refuse _ => exact ⟨h.count_le, fun hpc => (by cases hpc), fun _ _ _ => .inl (.inr (.inl rfl))⟩
  | checkOccupied _ _ =>
    exact ⟨h.count_le, fun hpc => (by cases hpc), fun _ _ _ => .inl (.inr (.inl rfl))⟩
  | checkEmpty hcheck hempty => exact h.checkEmpty hcheck hempty
  | readZero _ hzero =>
    exact ⟨h.count_le, fun _ => hzero, fun _ _ _ => .inl (.inr (.inr (.inl rfl)))⟩
  | readPositive _ hpos =>
    exact ⟨h.count_le, fun hpc => (by cases hpc), fun _ _ _ => .inl (.inl hpos)⟩
  | signal hsignal => exact h.signal hsignal
  | sleep haway hopen => exact h.sleep haway hopen
  | wake _ hpos => exact h.wake hpos
  | take hvisit => exact h.take hvisit
  | pass hvisit hpass => exact h.pass hvisit hpass
  | leave hvisit => exact h.leave hvisit
  | close =>
    refine ⟨h.count_le, h.signalling, fun j hj hocc => ?_⟩
    exact (h.remembered j hj hocc).imp_right (Or.imp_right (fun hx => ⟨rfl, hx.2⟩))
  | neglect hless => exact ⟨h.count_le, h.signalling, fun j hj => h.remembered j (hless j hj)⟩

theorem inv_of_reachable {s : WakeUp n} (h : (machine n).Reachable s) : s.Inv := by
  refine h.invariant Inv ?_ ?_
  · rintro s ⟨hempty, hcount, haway, -⟩
    refine ⟨hcount.le.trans (Nat.zero_le 1), fun _ => hcount, fun j _ hocc => ?_⟩
    rw [hempty] at hocc
    cases hocc
  · intro s e t _ hs hstep
    exact hs.step hstep

/-- **No lost wake-up.**  While the consumer sleeps with count zero and the
producer is away, every attended box is empty. -/
theorem Inv.empty_of_asleep {s : WakeUp n} (h : s.Inv) (hasleep : s.consumer = .asleep)
    (hcount : s.count = 0) (haway : s.producer = .away) {i : Fin n}
    (hattended : s.attended i = true) : s.occupied i = false := by
  rw [← Bool.not_eq_true]
  intro hocc
  rcases h.remembered i hattended hocc with hcalled | ⟨j, -, hvisit⟩ | ⟨-, hnot⟩
  · have hpos := hcalled.of_away haway
    omega
  · rw [hasleep] at hvisit
    cases hvisit
  · exact hnot hasleep

end WakeUp

end RoboRacer.Foundation
