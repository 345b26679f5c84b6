/-
  Foundation/Seats.lean --- a fixed number of seats, first come, first served.

  Whoever arrives keeps the seat given before, or takes the next one; once the
  seats are gone, newcomers are turned away for good.  Who is seated after any
  arrivals is a function of the arrivals alone.
-/
import Mathlib.Data.List.Induction
import Mathlib.Data.List.Nodup

set_option autoImplicit false

namespace RoboRacer.Foundation

variable {α : Type} [DecidableEq α]

/-- One arrival at `n` seats. -/
def seat (n : Nat) (seated : List α) (a : α) : List α :=
  if a ∈ seated ∨ n ≤ seated.length then seated else seated ++ [a]

/-- Who is seated after the arrivals, in the order of the seats. -/
def seats (n : Nat) (arrivals : List α) : List α :=
  arrivals.foldl (seat n) []

theorem seats_concat (n : Nat) (arrivals : List α) (a : α) :
    seats n (arrivals ++ [a]) = seat n (seats n arrivals) a :=
  List.foldl_append

theorem mem_seat {n : Nat} {seated : List α} {a b : α} :
    b ∈ seat n seated a ↔ b ∈ seated ∨ (b = a ∧ seated.length < n) := by
  unfold seat
  split
  case isTrue h =>
    constructor
    · exact Or.inl
    · rintro (hb | ⟨rfl, hlt⟩)
      · exact hb
      · exact h.resolve_right (Nat.not_le.mpr hlt)
  case isFalse h =>
    have hlt : seated.length < n := Nat.not_le.mp (fun hle => h (.inr hle))
    rw [List.mem_append, List.mem_singleton]
    constructor
    · exact Or.imp_right (fun heq => ⟨heq, hlt⟩)
    · exact Or.imp_right And.left

theorem nodup_seat {n : Nat} {seated : List α} {a : α} (h : seated.Nodup) :
    (seat n seated a).Nodup := by
  unfold seat
  split
  case isTrue => exact h
  case isFalse hnew =>
    have hfresh : a ∉ seated := fun hmem => hnew (.inl hmem)
    exact List.nodup_append.mpr ⟨h, List.nodup_singleton a, by
      intro b hb c hc
      rw [List.mem_singleton] at hc
      rintro rfl
      exact hfresh (hc ▸ hb)⟩

theorem length_seat_le {n : Nat} {seated : List α} {a : α} (h : seated.length ≤ n) :
    (seat n seated a).length ≤ n := by
  unfold seat
  split
  case isTrue => exact h
  case isFalse hnew =>
    have hlt : seated.length < n := Nat.not_le.mp (fun hle => hnew (.inr hle))
    rw [List.length_append, List.length_singleton]
    exact hlt

/-- Whoever arrived and is not seated found every seat taken. -/
theorem full_of_not_mem_seats {n : Nat} {arrivals : List α} {a : α} (ha : a ∈ arrivals)
    (h : a ∉ seats n arrivals) : n ≤ (seats n arrivals).length := by
  induction arrivals using List.reverseRecOn with
  | nil => cases ha
  | append_singleton arrivals b ih =>
    rw [seats_concat] at h ⊢
    rw [mem_seat, not_or, not_and, Nat.not_lt] at h
    have hfull : n ≤ (seats n arrivals).length := by
      rw [List.mem_append, List.mem_singleton] at ha
      exact ha.elim (fun hmem => ih hmem h.1) h.2
    rwa [seat, if_pos (.inr hfull)]

theorem length_seats_le (n : Nat) (arrivals : List α) :
    (seats n arrivals).length ≤ arrivals.length := by
  induction arrivals using List.reverseRecOn with
  | nil => exact Nat.le_refl _
  | append_singleton arrivals b ih =>
    rw [seats_concat, List.length_append, List.length_singleton, seat]
    split
    case isTrue => exact Nat.le_succ_of_le ih
    case isFalse =>
      rw [List.length_append, List.length_singleton]
      exact Nat.succ_le_succ ih

/-- As long as there are seats for all, all are seated. -/
theorem mem_seats_of_room {n : Nat} {arrivals : List α} (hroom : arrivals.length ≤ n) {a : α}
    (ha : a ∈ arrivals) : a ∈ seats n arrivals := by
  induction arrivals using List.reverseRecOn with
  | nil => cases ha
  | append_singleton arrivals b ih =>
    rw [List.length_append, List.length_singleton] at hroom
    rw [seats_concat, mem_seat]
    rcases List.mem_append.mp ha with hmem | hmem
    · exact .inl (ih (Nat.le_of_succ_le hroom) hmem)
    · exact .inr ⟨List.mem_singleton.mp hmem, Nat.lt_of_le_of_lt (length_seats_le n arrivals) hroom⟩

/-- A seat is kept, whoever comes later. -/
theorem mem_seats_append {n : Nat} {arrivals : List α} {a : α} (ha : a ∈ seats n arrivals)
    (later : List α) : a ∈ seats n (arrivals ++ later) := by
  induction later using List.reverseRecOn with
  | nil => rwa [List.append_nil]
  | append_singleton later b ih =>
    rw [← List.append_assoc, seats_concat]
    exact mem_seat.mpr (.inl ih)

end RoboRacer.Foundation
