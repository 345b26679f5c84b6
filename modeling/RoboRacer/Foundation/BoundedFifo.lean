/-
  Foundation/BoundedFifo.lean --- the bounded FIFO and its cyclic representation.

  Three layers, none of which mentions a program:

    * the abstract machine: a list of held items, a capacity, and the history
      of what went in and what came out;
    * cyclic windows: when a fixed block of slots, read cyclically from a
      position, holds a given list;
    * free-running counters: two counters kept modulo `m` still tell how far
      apart they are, as long as the distance is below `m`.

  A ring buffer with free-running indices is a bounded FIFO because of the last
  two; the concrete machines only have to exhibit the window.
-/
import Mathlib.Data.Nat.ModEq
import RoboRacer.Foundation.Machine

set_option autoImplicit false

namespace RoboRacer.Foundation

/-! ## The abstract bounded FIFO -/

/-- A FIFO with its history. -/
structure Fifo (α : Type) where
  /-- What the queue holds, oldest first. -/
  contents : List α
  /-- Everything that was ever accepted, oldest first. -/
  accepted : List α
  /-- Everything that was ever taken out, oldest first. -/
  removed : List α

/-- The operations of a bounded FIFO, with the item they move. -/
inductive FifoOp (α : Type) where
  /-- An item goes in. -/
  | push (x : α)
  /-- An item is turned away. -/
  | refuse (x : α)
  /-- The oldest item comes out. -/
  | pop (x : α)

namespace Fifo

variable {α : Type}

/-- One operation of a FIFO of capacity `cap`. -/
inductive Step (cap : Nat) : Fifo α → FifoOp α → Fifo α → Prop
  | push {q : Fifo α} {x : α} : q.contents.length < cap →
      Step cap q (.push x)
        { q with contents := q.contents ++ [x], accepted := q.accepted ++ [x] }
  | refuse {q : Fifo α} {x : α} : q.contents.length = cap → Step cap q (.refuse x) q
  | pop {q : Fifo α} {x : α} {rest : List α} : q.contents = x :: rest →
      Step cap q (.pop x) { q with contents := rest, removed := q.removed ++ [x] }

/-- The FIFO machine, started empty. -/
def machine (cap : Nat) : Machine (Fifo α) (FifoOp α) where
  Init q := q = { contents := [], accepted := [], removed := [] }
  Step := Step cap

/-- What was accepted is what came out followed by what is still held, and the
capacity is never exceeded. -/
structure Sound (cap : Nat) (q : Fifo α) : Prop where
  conserved : q.removed ++ q.contents = q.accepted
  bounded : q.contents.length ≤ cap

theorem Step.sound {cap : Nat} {q r : Fifo α} {op : FifoOp α}
    (h : Step cap q op r) (hq : q.Sound cap) : r.Sound cap := by
  cases h with
  | push hlt =>
    refine ⟨?_, ?_⟩
    · rw [← hq.conserved]; simp
    · simp only [List.length_append, List.length_singleton]; omega
  | refuse _ => exact hq
  | pop hcons =>
    have hc := hq.conserved
    have hb := hq.bounded
    rw [hcons] at hc hb
    refine ⟨by simpa using hc, ?_⟩
    simp only [List.length_cons] at hb
    exact Nat.le_of_succ_le hb

theorem sound_of_reachable {cap : Nat} {q : Fifo α} (h : (machine cap).Reachable q) :
    q.Sound cap := by
  refine h.invariant (Sound cap) ?_ ?_
  · rintro s rfl
    exact ⟨rfl, Nat.zero_le _⟩
  · intro s l t _ hs hstep
    exact hstep.sound hs

/-- The removed items are a prefix of the accepted ones. -/
theorem Sound.removed_isPrefix {cap : Nat} {q : Fifo α} (h : q.Sound cap) :
    q.removed <+: q.accepted :=
  ⟨q.contents, h.conserved⟩

end Fifo

/-! ## Cyclic windows -/

namespace Ring

variable {α : Type}

/-- The slots, read cyclically from position `lo` on, hold `items` in order. -/
def Holds (slots : List α) (lo : Nat) (items : List α) : Prop :=
  ∀ (i : Nat) (h : i < items.length), slots[(lo + i) % slots.length]? = some items[i]

theorem Holds.nil (slots : List α) (lo : Nat) : Holds slots lo [] := by
  intro i h
  exact absurd h (Nat.not_lt_zero i)

/-- The oldest item of the window sits at its start. -/
theorem Holds.head {slots items : List α} {lo : Nat} {x : α}
    (h : Holds slots lo (x :: items)) : slots[lo % slots.length]? = some x := by
  simpa using h 0 (Nat.zero_lt_succ _)

/-- Advancing the start of the window by one drops its oldest item. -/
theorem Holds.tail {slots items : List α} {lo : Nat} {x : α}
    (h : Holds slots lo (x :: items)) : Holds slots (lo + 1) items := by
  intro i hi
  have hnext := h (i + 1) (Nat.succ_lt_succ hi)
  have hpos : lo + 1 + i = lo + (i + 1) := by omega
  rw [hpos]
  simpa using hnext

/-- The position behind the window, written into its slot, extends the window. -/
theorem Holds.snoc {slots items : List α} {lo : Nat} {x : α}
    (h : Holds slots lo items)
    (hx : slots[(lo + items.length) % slots.length]? = some x) :
    Holds slots lo (items ++ [x]) := by
  intro i hi
  simp only [List.length_append, List.length_singleton] at hi
  rcases Nat.lt_succ_iff_lt_or_eq.mp hi with hlt | heq
  · rw [List.getElem_append_left hlt]
    exact h i hlt
  · subst heq
    simpa using hx

/-- Two positions less than one revolution apart are different slots. -/
theorem position_ne {n lo i j : Nat} (hij : i < j) (hj : j < n) :
    (lo + i) % n ≠ (lo + j) % n := by
  intro h
  have hmod : i ≡ j [MOD n] := Nat.ModEq.add_left_cancel' lo h
  have heq : i = j := Nat.ModEq.eq_of_lt_of_lt hmod (hij.trans hj) hj
  omega

/-- Writing the free slot behind a window that is not full keeps the window. -/
theorem Holds.set {slots items : List α} {lo : Nat} (x : α)
    (h : Holds slots lo items) (hfree : items.length < slots.length) :
    Holds (slots.set ((lo + items.length) % slots.length) x) lo items := by
  intro i hi
  have hne : (lo + items.length) % slots.length ≠ (lo + i) % slots.length :=
    (position_ne hi hfree).symm
  rw [List.length_set, List.getElem?_set_ne hne]
  exact h i hi

end Ring

/-! ## Free-running counters

A counter that only ever grows is stored modulo `m`.  Differences and equality
of two such counters are still right while they are less than `m` apart. -/

namespace Counter

/-- Modular subtraction recovers the distance of two counters. -/
theorem sub_mod {m r w : Nat} (hle : r ≤ w) (hlt : w < r + m) :
    (m - r % m + w % m) % m = w - r := by
  have hm : 0 < m := by omega
  have hr : r % m < m := Nat.mod_lt r hm
  have hsplit : (w - r + r) % m = w % m := by rw [Nat.sub_add_cancel hle]
  have hcong : (m - r % m + w % m) ≡ (w - r) [MOD m] := by
    have hw : w % m ≡ (w - r) + r % m [MOD m] := by
      unfold Nat.ModEq
      rw [Nat.mod_mod, ← hsplit, Nat.add_mod, Nat.add_mod (w - r) (r % m), Nat.mod_mod]
    calc m - r % m + w % m ≡ m - r % m + ((w - r) + r % m) [MOD m] := hw.add_left _
      _ = (w - r) + m := by omega
      _ ≡ w - r [MOD m] := by simp [Nat.ModEq]
  have hsmall : w - r < m := by omega
  rw [hcong, Nat.mod_eq_of_lt hsmall]

/-- Two counters less than `m` apart agree modulo `m` only when they are equal. -/
theorem mod_eq_iff {m r w : Nat} (hle : r ≤ w) (hlt : w < r + m) :
    r % m = w % m ↔ r = w := by
  constructor
  · intro h
    have hcong : r ≡ w [MOD m] := h
    have hdvd : m ∣ w - r := (Nat.modEq_iff_dvd' hle).mp hcong
    have hzero : w - r = 0 := Nat.eq_zero_of_dvd_of_lt hdvd (by omega)
    omega
  · rintro rfl
    rfl

end Counter

end RoboRacer.Foundation
