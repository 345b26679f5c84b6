/-
  Foundation/RingSearch.lean --- looking for a place in a ring of `n` slots.

  The search starts at a slot and moves on, around the end of the ring, until the slot
  it is at makes it stop or is the last one:

      while (i != last) { if (stop(i)) break; i = (i + 1) % n; }

  The distance to the last slot is what the recursion is on.  `search_eq` is the loop,
  and `search_invariant` its rule.
-/
import Mathlib.Algebra.Group.Fin.Basic
import Mathlib.Algebra.GroupWithZero.Nat

set_option autoImplicit false

namespace RoboRacer.Foundation

variable {n : Nat} [NeZero n]

/-- The number of steps from one slot to another. -/
def ahead (start last : Fin n) : Nat :=
  (last - start).val

/-- At most `d` steps of the search. -/
def searchFrom (stop : Fin n → Bool) : Nat → Fin n → Fin n
  | 0, i => i
  | d + 1, i => if stop i then i else searchFrom stop d (i + 1)

/-- The slot where the search ends. -/
def search (stop : Fin n → Bool) (last start : Fin n) : Fin n :=
  searchFrom stop (ahead start last) start

/-- The slots that at most `d` steps look at. -/
def searchedFrom (stop : Fin n → Bool) : Nat → Fin n → List (Fin n)
  | 0, _ => []
  | d + 1, i => i :: if stop i then [] else searchedFrom stop d (i + 1)

/-- The slots that the search looks at. -/
def searched (stop : Fin n → Bool) (last start : Fin n) : List (Fin n) :=
  searchedFrom stop (ahead start last) start

theorem ahead_self (i : Fin n) : ahead i i = 0 := by
  rw [ahead, sub_self, Fin.val_zero]

/-- A step towards another slot. -/
theorem ahead_of_ne {start last : Fin n} (h : start ≠ last) :
    ahead start last = ahead (start + 1) last + 1 := by
  have hne : last - start ≠ 0 := fun hzero => h (sub_eq_zero.mp hzero).symm
  have hpos : 0 < (last - start).val := Nat.pos_of_ne_zero fun hval => hne (Fin.ext hval)
  rw [ahead, ahead, ← sub_sub, Fin.val_sub_one_of_ne_zero hne]
  omega

/-- Induction along the ring, towards a slot. -/
theorem ring_induction {last : Fin n} {motive : Fin n → Prop} (here : motive last)
    (next : ∀ i, i ≠ last → motive (i + 1) → motive i) (start : Fin n) : motive start := by
  induction hd : ahead start last generalizing start with
  | zero =>
    have heq : start = last := by
      by_contra hne
      rw [ahead_of_ne hne] at hd
      cases hd
    rw [heq]
    exact here
  | succ d ih =>
    have hne : start ≠ last := by
      rintro rfl
      rw [ahead_self] at hd
      cases hd
    rw [ahead_of_ne hne] at hd
    exact next start hne (ih (start + 1) (Nat.succ.inj hd))

/-! ## The loop -/

theorem search_self (stop : Fin n → Bool) (i : Fin n) : search stop i i = i := by
  rw [search, ahead_self]
  rfl

/-- The loop. -/
theorem search_eq (stop : Fin n → Bool) (last start : Fin n) :
    search stop last start =
      if start = last then start
      else if stop start then start
      else search stop last (start + 1) := by
  split
  case isTrue h => rw [h, search_self]
  case isFalse h =>
    rw [search, ahead_of_ne h]
    rfl

/-- The loop, with the slots that it looks at. -/
theorem searched_eq (stop : Fin n → Bool) (last start : Fin n) :
    searched stop last start =
      if start = last then []
      else start :: if stop start then [] else searched stop last (start + 1) := by
  split
  case isTrue h =>
    rw [h, searched, ahead_self]
    rfl
  case isFalse h =>
    rw [searched, ahead_of_ne h]
    rfl

section Rules

variable {stop : Fin n → Bool} {last : Fin n} (P : Fin n → Prop)

/-- **Loop rule.**  What holds of the first slot, and of the slot behind every one that
is passed, holds of the slot where the search ends. -/
theorem search_invariant (hstep : ∀ i, P i → i ≠ last → stop i = false → P (i + 1))
    {start : Fin n} (hstart : P start) : P (search stop last start) := by
  induction start using ring_induction with
  | here =>
    rw [search_self]
    exact hstart
  | next i hne ih =>
    rw [search_eq, if_neg hne]
    split
    case isTrue => exact hstart
    case isFalse hpass => exact ih (hstep i hstart hne (Bool.of_not_eq_true hpass))

/-- The loop rule, of the slots that the search looks at. -/
theorem searched_invariant (hstep : ∀ i, P i → i ≠ last → stop i = false → P (i + 1))
    {start : Fin n} (hstart : P start) : ∀ i ∈ searched stop last start, P i := by
  induction start using ring_induction with
  | here =>
    rw [searched_eq, if_pos rfl]
    exact fun i hi => absurd hi List.not_mem_nil
  | next i hne ih =>
    rw [searched_eq, if_neg hne, List.forall_mem_cons]
    refine ⟨hstart, ?_⟩
    split
    case isTrue => exact fun j hj => absurd hj List.not_mem_nil
    case isFalse hpass => exact ih (hstep i hstart hne (Bool.of_not_eq_true hpass))

end Rules

/-- The search ends where it stops, or at the last slot. -/
theorem search_end (stop : Fin n → Bool) (last start : Fin n) :
    search stop last start = last ∨ stop (search stop last start) = true := by
  induction start using ring_induction with
  | here => exact .inl (search_self stop last)
  | next i hne ih =>
    rw [search_eq, if_neg hne]
    split
    case isTrue hstop => exact .inr hstop
    case isFalse => exact ih

/-- The search has passed the slot before the one where it ends, unless it has not
moved. -/
theorem search_passed (stop : Fin n → Bool) (last start : Fin n) :
    search stop last start = start ∨ stop (search stop last start - 1) = false := by
  refine search_invariant (fun i => i = start ∨ stop (i - 1) = false) ?_ (.inl rfl)
  intro i _ _ hpass
  rw [add_sub_cancel_right]
  exact .inr hpass

/-- The search does not move when it starts at the last slot, or where it stops. -/
theorem search_eq_start {stop : Fin n → Bool} {last start : Fin n}
    (h : start = last ∨ stop start = true) : search stop last start = start := by
  rw [search_eq]
  split
  case isTrue => rfl
  case isFalse hne => exact if_pos (h.resolve_left hne)

end RoboRacer.Foundation
