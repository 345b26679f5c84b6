/-
  Foundation/Machine.lean --- labelled machines, their runs and refinement.

  The components of the repository are all described as machines whose labels
  are the individual steps of their threads, callbacks and environments.  This
  file is the vocabulary they share, and it names none of them:

      Machine.Run        a finite run together with the labels it took
      Machine.Reachable  the states of all runs from an initial state
      Machine.Refinement a concrete machine whose steps are steps, or stutters,
                         of an abstract one

  A safety result is an invariant rule applied to one step lemma; a refinement
  result is `Refinement.reachable`.
-/
import Mathlib.Data.List.Induction

set_option autoImplicit false

namespace RoboRacer.Foundation

/-- A labelled transition system with a set of initial states. -/
structure Machine (State Label : Type) where
  /-- The states a run may start from. -/
  Init : State → Prop
  /-- One step, with the label it is taken under. -/
  Step : State → Label → State → Prop

namespace Machine

variable {State Label : Type} (M : Machine State Label)

/-- A finite run of `M` and the labels it took, oldest first. -/
inductive Run : State → List Label → State → Prop
  /-- The run that takes no step. -/
  | nil (s : State) : Run s [] s
  /-- One more step at the end of a run. -/
  | snoc {s t u : State} {labels : List Label} {l : Label} :
      Run s labels t → M.Step t l u → Run s (labels ++ [l]) u

/-- The states of all runs from an initial state. -/
inductive Reachable : State → Prop
  /-- Initial states are reachable. -/
  | init {s : State} : M.Init s → Reachable s
  /-- The target of a step from a reachable state is reachable. -/
  | step {s t : State} {l : Label} : Reachable s → M.Step s l t → Reachable t

variable {M}

/-- **Invariant rule.**  What holds initially and is preserved by every step
taken from a reachable state holds in every reachable state. -/
theorem Reachable.invariant (Inv : State → Prop)
    (hinit : ∀ s, M.Init s → Inv s)
    (hstep : ∀ s l t, M.Reachable s → Inv s → M.Step s l t → Inv t)
    {s : State} (h : M.Reachable s) : Inv s := by
  induction h with
  | init hi => exact hinit _ hi
  | step hr hs ih => exact hstep _ _ _ hr ih hs

/-- A run from a reachable state ends in a reachable state. -/
theorem Run.reachable {s t : State} {labels : List Label} (h : M.Run s labels t)
    (hs : M.Reachable s) : M.Reachable t := by
  induction h with
  | nil => exact hs
  | snoc _ hstep ih => exact .step ih hstep

/-- The run rule: an invariant of single steps is an invariant of runs. -/
theorem Run.preserves (Inv : State → Prop)
    (hstep : ∀ s l t, Inv s → M.Step s l t → Inv t)
    {s t : State} {labels : List Label} (h : M.Run s labels t) (hs : Inv s) : Inv t := by
  induction h with
  | nil => exact hs
  | snoc _ hlast ih => exact hstep _ _ _ ih hlast

/-- Runs compose. -/
theorem Run.append {s t u : State} {labels labels' : List Label} (h : M.Run s labels t)
    (h' : M.Run t labels' u) : M.Run s (labels ++ labels') u := by
  induction h' with
  | nil => rw [List.append_nil]; exact h
  | snoc _ hstep ih => rw [← List.append_assoc]; exact .snoc ih hstep

/-- One more step at the beginning of a run. -/
theorem Run.cons {s t u : State} {l : Label} {labels : List Label} (h : M.Step s l t)
    (h' : M.Run t labels u) : M.Run s (l :: labels) u :=
  (Run.snoc (.nil s) h).append h'

/-- The first step of a run. -/
theorem run_cons_iff {s u : State} {l : Label} {labels : List Label} :
    M.Run s (l :: labels) u ↔ ∃ t, M.Step s l t ∧ M.Run t labels u := by
  constructor
  · intro h
    generalize hcons : l :: labels = all at h
    induction h generalizing labels with
    | nil => cases hcons
    | @snoc t u earlier last hrun hstep ih =>
      cases earlier with
      | nil =>
        obtain ⟨rfl, rfl⟩ := List.cons_eq_cons.mp hcons
        generalize hnil : ([] : List Label) = none at hrun
        cases hrun with
        | nil => exact ⟨u, hstep, .nil u⟩
        | snoc => exact absurd hnil.symm (by simp)
      | cons first rest =>
        obtain ⟨rfl, rfl⟩ := List.cons_eq_cons.mp hcons
        obtain ⟨t', hfirst, hrest⟩ := ih rfl
        exact ⟨t', hfirst, .snoc hrest hstep⟩
  · rintro ⟨t, hstep, hrun⟩
    exact .cons hstep hrun

/-! ### Histories

A condition on the labels of a run often speaks of each label and the ones before
it. -/

/-- The labels of a longer history: those of the shorter one, and the last. -/
theorem prefix_concat_concat_iff {earlier labels : List Label} {e l : Label} :
    earlier ++ [e] <+: labels ++ [l] ↔
      earlier ++ [e] <+: labels ∨ (earlier = labels ∧ e = l) := by
  rw [List.prefix_concat_iff, or_comm]
  refine or_congr_right ⟨fun h => ?_, fun ⟨hearlier, he⟩ => by rw [hearlier, he]⟩
  obtain ⟨hearlier, he⟩ := List.append_inj' h rfl
  exact ⟨hearlier, List.head_eq_of_cons_eq he⟩

/-- What holds at every label of a longer history. -/
theorem forall_prefix_concat {P : List Label → Label → Prop} {labels : List Label} {l : Label} :
    (∀ earlier e, earlier ++ [e] <+: labels ++ [l] → P earlier e) ↔
      (∀ earlier e, earlier ++ [e] <+: labels → P earlier e) ∧ P labels l := by
  constructor
  · intro h
    exact ⟨fun earlier e hpre => h earlier e (hpre.trans (List.prefix_append ..)),
      h labels l List.prefix_rfl⟩
  · rintro ⟨hbefore, hlast⟩ earlier e hpre
    rcases prefix_concat_concat_iff.mp hpre with hpre | ⟨rfl, rfl⟩
    · exact hbefore earlier e hpre
    · exact hlast

/-- No label comes in the empty history. -/
theorem not_prefix_nil {earlier : List Label} {e : Label} : ¬ earlier ++ [e] <+: [] :=
  fun h => List.append_ne_nil_of_right_ne_nil _ (by simp) (List.prefix_nil.mp h)

/-! ### Executable machines -/

/-- The machine of a step function: `none` is a step that cannot be taken. -/
def ofStep (init : State) (step : State → Label → Option State) : Machine State Label where
  Init s := s = init
  Step s l t := step s l = some t

/-- A machine given by a step function runs by folding it. -/
theorem run_ofStep {init : State} {step : State → Label → Option State} {s t : State}
    {labels : List Label} (h : labels.foldlM step s = some t) :
    (ofStep init step).Run s labels t := by
  induction labels using List.reverseRecOn generalizing t with
  | nil =>
    cases h
    exact .nil s
  | append_singleton labels l ih =>
    rw [List.foldlM_append] at h
    obtain ⟨u, hu, hlast⟩ := Option.bind_eq_some_iff.mp h
    have hstep : step u l = some t := by simpa using hlast
    exact .snoc (ih hu) hstep

/-- The run of a machine given by a step function is the fold. -/
theorem foldlM_of_run {init : State} {step : State → Label → Option State} {s t : State}
    {labels : List Label} (h : (ofStep init step).Run s labels t) :
    labels.foldlM step s = some t := by
  induction h with
  | nil => rfl
  | @snoc t u labels l _ hlast ih =>
    have hstep : step t l = some u := hlast
    rw [List.foldlM_append, ih]
    simpa using hstep

/-- A machine given by a step function has one run for given labels. -/
theorem Run.unique {init : State} {step : State → Label → Option State} {s t u : State}
    {labels : List Label} (ht : (ofStep init step).Run s labels t)
    (hu : (ofStep init step).Run s labels u) : t = u :=
  Option.some.inj ((foldlM_of_run ht).symm.trans (foldlM_of_run hu))

end Machine

/-! ## Refinement

A concrete step is explained by at most one abstract step.  `event` says which:
`none` for a step the abstract machine does not see. -/

section Refinement

variable {CState CLabel AState ALabel : Type}

/-- `C` refines `A` through the abstraction `abs`. -/
structure Machine.Refinement (C : Machine CState CLabel) (A : Machine AState ALabel) where
  /-- The abstraction function. -/
  abs : CState → AState
  /-- The abstract event of a concrete step. -/
  event : CState → CLabel → Option ALabel
  /-- Initial states are abstracted to initial states. -/
  init : ∀ s, C.Init s → A.Init (abs s)
  /-- A step with an event is that abstract step. -/
  step : ∀ s l t b, C.Reachable s → C.Step s l t → event s l = some b →
    A.Step (abs s) b (abs t)
  /-- A step without an event leaves the abstract state alone. -/
  stutter : ∀ s l t, C.Reachable s → C.Step s l t → event s l = none → abs t = abs s

/-- **Refinement rule.**  The abstraction of a reachable state is reachable. -/
theorem Machine.Refinement.reachable {C : Machine CState CLabel} {A : Machine AState ALabel}
    (r : C.Refinement A) {s : CState} (h : C.Reachable s) : A.Reachable (r.abs s) := by
  induction h with
  | init hi => exact .init (r.init _ hi)
  | @step s t l hr hs ih =>
    cases he : r.event s l with
    | none => rw [r.stutter s l t hr hs he]; exact ih
    | some b => exact .step ih (r.step s l t b hr hs he)

end Refinement

end RoboRacer.Foundation
