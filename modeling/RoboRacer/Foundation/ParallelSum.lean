/-
  Foundation/ParallelSum.lean --- a loop whose threads add into accumulators of their own.

  The iterations of a parallel loop are given to the threads in some way and run in
  some order; each one adds its contribution to the accumulator of its thread.  The
  accumulators are added up at the end.  However the iterations were given out, the
  result is the sum over the iterations.  This takes an addition that is associative:
  the sums of floating-point numbers agree up to rounding only.
-/
import Mathlib.Algebra.BigOperators.Fin
import Mathlib.Algebra.BigOperators.Group.Finset.Basic

set_option autoImplicit false

namespace RoboRacer.Foundation

/-- A loop that adds up. -/
theorem foldl_add_eq {α M : Type} [AddCommMonoid M] {step : M → α → M} {f : α → M}
    (xs : List α) (h : ∀ m, ∀ x ∈ xs, step m x = m + f x) (m : M) :
    xs.foldl step m = m + (xs.map f).sum := by
  induction xs generalizing m with
  | nil => simp
  | cons x xs ih =>
    rw [List.foldl_cons, h m x List.mem_cons_self,
      ih fun m y hy => h m y (List.mem_cons_of_mem x hy), List.map_cons, List.sum_cons, add_assoc]

section ParallelSum

variable {ι M : Type} [AddCommMonoid M] {threads : ℕ} (f : ι → M)

/-- An iteration on a thread. -/
def accumulate (accumulators : Fin threads → M) (event : Fin threads × ι) : Fin threads → M :=
  Function.update accumulators event.1 (accumulators event.1 + f event.2)

/-- The accumulators after the loop, added up one after the other. -/
def parallelSum (events : List (Fin threads × ι)) : M :=
  (List.ofFn (events.foldl (accumulate f) 0)).sum

/-- One iteration adds its contribution to the total, whichever thread runs it. -/
theorem sum_accumulate (accumulators : Fin threads → M) (event : Fin threads × ι) :
    ∑ thread, accumulate f accumulators event thread =
      ∑ thread, accumulators thread + f event.2 := by
  have hothers : ∀ thread ∈ Finset.univ.erase event.1,
      accumulate f accumulators event thread = accumulators thread := fun thread hthread =>
    Function.update_of_ne (Finset.ne_of_mem_erase hthread) _ _
  rw [← Finset.add_sum_erase _ _ (Finset.mem_univ event.1), Finset.sum_congr rfl hothers,
    accumulate, Function.update_self,
    ← Finset.add_sum_erase _ accumulators (Finset.mem_univ event.1), add_right_comm]

theorem sum_foldl_accumulate (events : List (Fin threads × ι)) (accumulators : Fin threads → M) :
    ∑ thread, events.foldl (accumulate f) accumulators thread =
      ∑ thread, accumulators thread + (events.map fun event => f event.2).sum := by
  induction events generalizing accumulators with
  | nil => simp
  | cons event events ih =>
    rw [List.foldl_cons, ih, sum_accumulate, List.map_cons, List.sum_cons, add_assoc]

/-- **Any schedule gives the sum.**  The events run every iteration of `work` once, in any
order and on any threads. -/
theorem parallelSum_eq {events : List (Fin threads × ι)} {work : List ι}
    (h : (events.map Prod.snd).Perm work) : parallelSum f events = (work.map f).sum := by
  calc parallelSum f events = ∑ thread, events.foldl (accumulate f) 0 thread :=
        List.sum_ofFn
    _ = (events.map fun event => f event.2).sum := by
        rw [sum_foldl_accumulate]
        simp
    _ = ((events.map Prod.snd).map f).sum := by rw [List.map_map]; rfl
    _ = (work.map f).sum := (h.map f).sum_eq

/-- An entry of the sum does not see the rest of the contributions. -/
theorem map_parallelSum_congr {N : Type} [AddCommMonoid N] (entry : M →+ N) {g : ι → M}
    {events events' : List (Fin threads × ι)}
    (hevents : (events.map Prod.snd).Perm (events'.map Prod.snd))
    (h : ∀ i, entry (f i) = entry (g i)) :
    entry (parallelSum f events) = entry (parallelSum g events') := by
  rw [parallelSum_eq f hevents, parallelSum_eq g (List.Perm.refl _), map_list_sum, map_list_sum]
  generalize events'.map Prod.snd = work
  simp only [List.map_map, Function.comp_def, h]

end ParallelSum

end RoboRacer.Foundation
