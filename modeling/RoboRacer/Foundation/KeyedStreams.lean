/-
  Foundation/KeyedStreams.lean --- buffers that are filled and emptied by key.

  A keyed store holds one buffer per key.  Items are received under a key and
  appended to its buffer; a buffer is handed over as a whole, and is empty
  afterwards.  Whatever the order of the two operations, nothing is lost,
  duplicated, reordered or moved to another key:

      handed over for k  ++  pending for k  =  received for k

  `stream k` is the reading of a list of keyed batches that the law is about.
-/
import Mathlib.Logic.Function.Basic
import RoboRacer.Foundation.Machine

set_option autoImplicit false

namespace RoboRacer.Foundation

variable {K α : Type} [DecidableEq K]

/-! ## Keyed batches -/

/-- The items a list of keyed batches carries for `k`, in order. -/
def stream (k : K) : List (K × List α) → List α
  | [] => []
  | (key, items) :: rest => if key = k then items ++ stream k rest else stream k rest

@[simp] theorem stream_append (k : K) (xs ys : List (K × List α)) :
    stream k (xs ++ ys) = stream k xs ++ stream k ys := by
  induction xs with
  | nil => rfl
  | cons x xs ih =>
    simp only [List.cons_append, stream, ih]
    split
    · exact (List.append_assoc ..).symm
    · rfl

@[simp] theorem stream_singleton_self (k : K) (items : List α) :
    stream k [(k, items)] = items := by
  simp [stream]

theorem stream_singleton_of_ne {key k : K} (h : key ≠ k) (items : List α) :
    stream k [(key, items)] = [] := by
  simp [stream, h]

/-- The stream of a key is made of the batches under it. -/
theorem stream_eq_flatMap (k : K) (batches : List (K × List α)) :
    stream k batches = (batches.filter fun batch => batch.1 = k).flatMap Prod.snd := by
  induction batches with
  | nil => rfl
  | cons batch batches ih =>
    rw [stream, ih]
    by_cases hk : batch.1 = k
    · simp [hk]
    · simp [hk]

/-! ## The keyed store -/

/-- A keyed store with its history. -/
structure Keyed (K α : Type) where
  /-- The buffer of each key. -/
  pending : K → List α
  /-- The batches received, oldest first. -/
  received : List (K × List α)
  /-- The batches handed over, oldest first. -/
  handed : List (K × List α)

/-- The operations of a keyed store. -/
inductive KeyedOp (K α : Type) where
  | receive (k : K) (items : List α)
  | handOver (k : K)

namespace Keyed

/-- One operation.  Only a buffer that holds something is handed over. -/
inductive Step : Keyed K α → KeyedOp K α → Keyed K α → Prop
  | receive {s : Keyed K α} {k : K} {items : List α} :
      Step s (.receive k items)
        { s with
          pending := Function.update s.pending k (s.pending k ++ items)
          received := s.received ++ [(k, items)] }
  | handOver {s : Keyed K α} {k : K} : s.pending k ≠ [] →
      Step s (.handOver k)
        { s with
          pending := Function.update s.pending k []
          handed := s.handed ++ [(k, s.pending k)] }

/-- The keyed store, started empty. -/
def machine : Machine (Keyed K α) (KeyedOp K α) where
  Init s := s = { pending := fun _ => [], received := [], handed := [] }
  Step := Step

/-- The conservation law, together with the batches being non-empty. -/
structure Conserved (s : Keyed K α) : Prop where
  stream_eq : ∀ k, stream k s.handed ++ s.pending k = stream k s.received
  nonempty : ∀ batch ∈ s.handed, batch.2 ≠ []

theorem Step.conserved {s t : Keyed K α} {op : KeyedOp K α} (h : Step s op t)
    (hs : s.Conserved) : t.Conserved := by
  cases h with
  | @receive k items =>
    refine ⟨?_, hs.nonempty⟩
    intro key
    rw [stream_append, ← hs.stream_eq key]
    rcases eq_or_ne key k with rfl | hne
    · simp
    · simp [Function.update_of_ne hne, stream_singleton_of_ne hne.symm]
  | @handOver k hpending =>
    refine ⟨?_, ?_⟩
    · intro key
      rw [stream_append, ← hs.stream_eq key]
      rcases eq_or_ne key k with rfl | hne
      · simp
      · simp [Function.update_of_ne hne, stream_singleton_of_ne hne.symm]
    · intro batch hbatch
      rcases List.mem_append.mp hbatch with hold | hnew
      · exact hs.nonempty batch hold
      · rw [List.mem_singleton.mp hnew]
        exact hpending

/-- **Conservation.**  It holds in every reachable state of a keyed store. -/
theorem conserved_of_reachable {s : Keyed K α} (h : (machine (K := K) (α := α)).Reachable s) :
    s.Conserved := by
  refine h.invariant Conserved ?_ ?_
  · rintro s rfl
    exact ⟨fun _ => rfl, fun _ h => absurd h List.not_mem_nil⟩
  · intro s op t _ hs hstep
    exact Step.conserved hstep hs

end Keyed

end RoboRacer.Foundation
