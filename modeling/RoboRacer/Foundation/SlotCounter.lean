/-
  Foundation/SlotCounter.lean --- a parallel loop that collects records through a counter.

  An iteration that has a record takes the next slot of two arrays from a counter and
  writes the record there, one array after the other; it also writes a cell of its
  own.  The iterations interleave in any way.  Which record is in which slot depends
  on the interleaving; which records there are does not, and a sort by a key that
  tells them apart forgets the rest.
-/
import Mathlib.Algebra.BigOperators.Group.Finset.Basic
import Mathlib.Algebra.Order.BigOperators.Group.Finset
import Mathlib.Data.List.Nodup
import Mathlib.Data.List.Sort
import RoboRacer.Foundation.Machine

set_option autoImplicit false

namespace RoboRacer.Foundation

/-! ## The loop -/

/-- What an iteration writes: a slot of two arrays and a cell of its own. -/
structure SlotRecord (A B C : Type) where
  first : A
  second : B
  own : C

/-- How far an iteration is. -/
inductive Claim where
  | waiting
  | claimed (slot : ℕ)
  | half (slot : ℕ)
  | done
deriving DecidableEq, Repr

structure SlotState (A B C : Type) where
  cnt : ℕ
  first : List A
  second : List B
  own : List C
  claim : ℕ → Claim

/-- A step of an iteration. -/
inductive SlotLabel where
  | take (i : ℕ)
  | storeFirst (i : ℕ)
  | storeSecond (i : ℕ)
deriving DecidableEq, Repr

namespace SlotCounter

variable {A B C : Type} (n : ℕ) (f : ℕ → Option (SlotRecord A B C))

/-- The iteration looks whether it has a record; if so, it writes its own cell and takes a slot. -/
def take (s : SlotState A B C) (i : ℕ) : SlotState A B C :=
  match f i with
  | none => { s with claim := Function.update s.claim i .done }
  | some r =>
    { s with
      cnt := s.cnt + 1
      own := s.own.set i r.own
      claim := Function.update s.claim i (.claimed s.cnt) }

/-- One step; `none` when the iteration is not there, or writes out of range. -/
def step (s : SlotState A B C) : SlotLabel → Option (SlotState A B C)
  | .take i =>
    if i < n ∧ s.claim i = .waiting ∧ (f i = none ∨ i < s.own.length) then some (take f s i)
    else none
  | .storeFirst i =>
    match s.claim i, f i with
    | .claimed slot, some r =>
      if slot < s.first.length then
        some { s with
          first := s.first.set slot r.first
          claim := Function.update s.claim i (.half slot) }
      else none
    | _, _ => none
  | .storeSecond i =>
    match s.claim i, f i with
    | .half slot, some r =>
      if slot < s.second.length then
        some { s with
          second := s.second.set slot r.second
          claim := Function.update s.claim i .done }
      else none
    | _, _ => none

/-- Before the loop. -/
def start (first : List A) (second : List B) (own : List C) : SlotState A B C where
  cnt := 0
  first := first
  second := second
  own := own
  claim := fun _ => .waiting

/-- The loop over two arrays as long as the range, and at least as many cells. -/
def machine (first : List A) (second : List B) (own : List C) :
    Machine (SlotState A B C) SlotLabel :=
  .ofStep (start first second own) (step n f)

/-- Every iteration is over. -/
def Finished (s : SlotState A B C) : Prop :=
  ∀ i < n, s.claim i = .done

/-- The iterations with a record, and what they write into the two arrays. -/
def pairs : List (A × B) :=
  (List.range n).filterMap fun i => (f i).map fun r => (r.first, r.second)

/-- The cells after the loop. -/
def written (own : List C) : List C :=
  own.mapIdx fun i c => if i < n then ((f i).map SlotRecord.own).getD c else c

/-! ## What one step does -/

variable {n f}

theorem step_cases {s t : SlotState A B C} {l : SlotLabel} (h : step n f s l = some t) :
    (∃ i, l = .take i ∧ i < n ∧ s.claim i = .waiting ∧ f i = none ∧
      t = { s with claim := Function.update s.claim i .done }) ∨
    (∃ i r, l = .take i ∧ i < n ∧ s.claim i = .waiting ∧ f i = some r ∧ i < s.own.length ∧
      t = { s with cnt := s.cnt + 1, own := s.own.set i r.own,
                   claim := Function.update s.claim i (.claimed s.cnt) }) ∨
    (∃ i slot r, l = .storeFirst i ∧ s.claim i = .claimed slot ∧ f i = some r ∧
      slot < s.first.length ∧
      t = { s with first := s.first.set slot r.first,
                   claim := Function.update s.claim i (.half slot) }) ∨
    (∃ i slot r, l = .storeSecond i ∧ s.claim i = .half slot ∧ f i = some r ∧
      slot < s.second.length ∧
      t = { s with second := s.second.set slot r.second,
                   claim := Function.update s.claim i .done }) := by
  cases l with
  | take i =>
    simp only [step] at h
    split at h
    case isFalse => cases h
    case isTrue hguard =>
      obtain ⟨hin, hwaiting, hcell⟩ := hguard
      cases hf : f i with
      | none =>
        refine .inl ⟨i, rfl, hin, hwaiting, hf, ?_⟩
        simpa [take, hf] using h.symm
      | some r =>
        refine .inr (.inl ⟨i, r, rfl, hin, hwaiting, hf, ?_, ?_⟩)
        · simpa [hf] using hcell
        · simpa [take, hf] using h.symm
  | storeFirst i =>
    simp only [step] at h
    split at h
    case h_2 => cases h
    case h_1 slot r hclaim hf =>
      split at h
      case isFalse => cases h
      case isTrue hslot =>
        exact .inr (.inr (.inl ⟨i, slot, r, rfl, hclaim, hf, hslot, (Option.some.inj h).symm⟩))
  | storeSecond i =>
    simp only [step] at h
    split at h
    case h_2 => cases h
    case h_1 slot r hclaim hf =>
      split at h
      case isFalse => cases h
      case isTrue hslot =>
        exact .inr (.inr (.inr ⟨i, slot, r, rfl, hclaim, hf, hslot, (Option.some.inj h).symm⟩))

/-! ## The invariant -/

/-- `owners` are the iterations that took a slot, in the order in which they did. -/
structure Inv (n : ℕ) (f : ℕ → Option (SlotRecord A B C)) (own₀ : List C) (owners : List ℕ)
    (s : SlotState A B C) : Prop where
  cnt : s.cnt = owners.length
  nodup : owners.Nodup
  first_length : s.first.length = n
  second_length : s.second.length = n
  own_length : s.own.length = own₀.length
  started : ∀ i, s.claim i ≠ .waiting → i < n
  owner : ∀ i ∈ owners, s.claim i ≠ .waiting
  claimed : ∀ i slot, s.claim i = .claimed slot → owners[slot]? = some i
  half : ∀ i slot, s.claim i = .half slot → owners[slot]? = some i ∧
    ∀ r, f i = some r → s.first[slot]? = some r.first
  done : ∀ i r, s.claim i = .done → f i = some r → ∃ slot : ℕ, owners[slot]? = some i ∧
    s.first[slot]? = some r.first ∧ s.second[slot]? = some r.second
  record : ∀ i ∈ owners, ∃ r, f i = some r
  own : ∀ i : ℕ, s.own[i]? = if s.claim i = .waiting then own₀[i]?
    else ((f i).map SlotRecord.own).or own₀[i]?

theorem inv_start {first : List A} {second : List B} {own : List C} (hfirst : first.length = n)
    (hsecond : second.length = n) : Inv n f own [] (start first second own) where
  cnt := rfl
  nodup := List.nodup_nil
  first_length := hfirst
  second_length := hsecond
  own_length := rfl
  started := fun _ hi => absurd rfl hi
  owner := nofun
  claimed := nofun
  half := nofun
  done := nofun
  record := nofun
  own := fun _ => rfl

/-- Slots keep their owners when a slot is taken. -/
theorem owner_concat {owners : List ℕ} {slot j : ℕ} (h : owners[slot]? = some j) (i : ℕ) :
    (owners ++ [i])[slot]? = some j :=
  (List.getElem?_append_left (List.getElem?_eq_some_iff.mp h).1).trans h

/-- An iteration whose claim is not the new one is another iteration, and keeps its claim. -/
theorem claim_of_update {claims : ℕ → Claim} {i j : ℕ} {claim other : Claim}
    (h : Function.update claims i claim j = other) (hne : claim ≠ other) :
    j ≠ i ∧ claims j = other := by
  rcases eq_or_ne j i with rfl | hj
  · exact absurd ((Function.update_self j claim claims).symm.trans h) hne
  · exact ⟨hj, (Function.update_of_ne hj claim claims).symm.trans h⟩

namespace Inv

variable {own₀ : List C} {owners : List ℕ} {s t : SlotState A B C}

/-- Two slots of one owner are the same. -/
theorem slot_unique (h : Inv n f own₀ owners s) {i slot slot' : ℕ} (hslot : owners[slot]? = some i)
    (hslot' : owners[slot']? = some i) : slot = slot' := by
  obtain ⟨hlt, hi⟩ := List.getElem?_eq_some_iff.mp hslot
  obtain ⟨hlt', hi'⟩ := List.getElem?_eq_some_iff.mp hslot'
  exact (List.Nodup.getElem_inj_iff h.nodup).mp (hi.trans hi'.symm)

theorem slot_ne {i j slot slot' : ℕ} (hslot : owners[slot]? = some i)
    (hslot' : owners[slot']? = some j) (hne : j ≠ i) : slot ≠ slot' := by
  rintro rfl
  exact hne (Option.some.inj (hslot'.symm.trans hslot))

/-- A slot that has an owner is in range. -/
theorem slot_lt (h : Inv n f own₀ owners s) {i slot : ℕ} (hslot : owners[slot]? = some i) :
    slot < n := by
  have hsub : owners ⊆ List.range n := fun j hj =>
    List.mem_range.mpr (h.started j (h.owner j hj))
  have hle := (List.subperm_of_subset h.nodup hsub).length_le
  rw [List.length_range] at hle
  exact (List.getElem?_eq_some_iff.mp hslot).1.trans_le hle

/-- An iteration that moves on is one of the range. -/
theorem started_update (h : Inv n f own₀ owners s) {i : ℕ} (hin : i < n) {claim : Claim} (j : ℕ)
    (hj : Function.update s.claim i claim j ≠ .waiting) : j < n := by
  rcases eq_or_ne j i with rfl | hne
  · exact hin
  · exact h.started j (by simpa only [Function.update_of_ne hne] using hj)

theorem takeNothing (h : Inv n f own₀ owners s) {i : ℕ} (hin : i < n)
    (hwaiting : s.claim i = .waiting) (hf : f i = none) :
    Inv n f own₀ owners { s with claim := Function.update s.claim i .done } where
  cnt := h.cnt
  nodup := h.nodup
  first_length := h.first_length
  second_length := h.second_length
  own_length := h.own_length
  started := started_update h hin
  owner := fun j hj => by
    have hne : j ≠ i := by
      rintro rfl
      exact h.owner j hj hwaiting
    simpa only [Function.update_of_ne hne] using h.owner j hj
  claimed := fun j slot hj => h.claimed j slot (claim_of_update hj (by simp)).2
  half := fun j slot hj => h.half j slot (claim_of_update hj (by simp)).2
  done := fun j r hj hr => by
    have hne : j ≠ i := by
      rintro rfl
      simp [hf] at hr
    exact h.done j r (by simpa only [Function.update_of_ne hne] using hj) hr
  record := h.record
  own := fun j => by
    rcases eq_or_ne j i with rfl | hne
    · simpa [hwaiting, hf] using h.own j
    · simpa only [Function.update_of_ne hne] using h.own j

theorem takeSlot (h : Inv n f own₀ owners s) {i : ℕ} {r : SlotRecord A B C} (hin : i < n)
    (hwaiting : s.claim i = .waiting) (hf : f i = some r) (hcell : i < s.own.length) :
    Inv n f own₀ (owners ++ [i])
      { s with cnt := s.cnt + 1, own := s.own.set i r.own,
               claim := Function.update s.claim i (.claimed s.cnt) } where
  cnt := by simp [h.cnt]
  nodup := by
    have hnew : i ∉ owners := fun hi => h.owner i hi hwaiting
    exact h.nodup.append (List.nodup_singleton i) (List.disjoint_singleton.mpr hnew)
  first_length := h.first_length
  second_length := h.second_length
  own_length := by simpa using h.own_length
  started := started_update h hin
  owner := fun j hj => by
    rcases eq_or_ne j i with rfl | hne
    · simp
    · have hold : j ∈ owners := by simpa [hne] using hj
      simpa only [Function.update_of_ne hne] using h.owner j hold
  claimed := fun j slot hj => by
    rcases eq_or_ne j i with rfl | hne
    · have hslot : s.cnt = slot := by simpa using hj
      rw [← hslot, h.cnt, List.getElem?_concat_length]
    · exact owner_concat (h.claimed j slot (by simpa only [Function.update_of_ne hne] using hj)) i
  half := fun j slot hj => by
    obtain ⟨hold, hfirst⟩ := h.half j slot (claim_of_update hj (by simp)).2
    exact ⟨owner_concat hold i, hfirst⟩
  done := fun j r' hj hr' => by
    obtain ⟨slot, hold, hboth⟩ := h.done j r' (claim_of_update hj (by simp)).2 hr'
    exact ⟨slot, owner_concat hold i, hboth⟩
  record := fun j hj => by
    rcases eq_or_ne j i with rfl | hne
    · exact ⟨r, hf⟩
    · exact h.record j (by simpa [hne] using hj)
  own := fun j => by
    rcases eq_or_ne j i with rfl | hne
    · simp [hf, List.getElem?_set_self hcell]
    · simpa only [Function.update_of_ne hne, List.getElem?_set_ne hne.symm] using h.own j

theorem storeFirst (h : Inv n f own₀ owners s) {i slot : ℕ} {r : SlotRecord A B C}
    (hclaim : s.claim i = .claimed slot) (hf : f i = some r) (hslot : slot < s.first.length) :
    Inv n f own₀ owners
      { s with first := s.first.set slot r.first,
               claim := Function.update s.claim i (.half slot) } where
  cnt := h.cnt
  nodup := h.nodup
  first_length := by simpa using h.first_length
  second_length := h.second_length
  own_length := h.own_length
  started := started_update h (h.started i (by simp [hclaim]))
  owner := fun j hj => by
    rcases eq_or_ne j i with rfl | hne
    · simp
    · simpa only [Function.update_of_ne hne] using h.owner j hj
  claimed := fun j slot' hj => h.claimed j slot' (claim_of_update hj (by simp)).2
  half := fun j slot' hj => by
    have howner := h.claimed i slot hclaim
    rcases eq_or_ne j i with rfl | hne
    · have hsame : slot = slot' := by simpa using hj
      subst hsame
      refine ⟨howner, fun r' hr' => ?_⟩
      rw [List.getElem?_set_self hslot, Option.some.inj (hf.symm.trans hr')]
    · obtain ⟨hold, hfirst⟩ :=
        h.half j slot' (by simpa only [Function.update_of_ne hne] using hj)
      have hslots := slot_ne howner hold hne
      exact ⟨hold, fun r' hr' => by rw [List.getElem?_set_ne hslots, hfirst r' hr']⟩
  done := fun j r' hj hr' => by
    have howner := h.claimed i slot hclaim
    obtain ⟨hne, hdone⟩ := claim_of_update hj (by simp)
    obtain ⟨slot', hold, hfirst, hsecond⟩ := h.done j r' hdone hr'
    have hslots := slot_ne howner hold hne
    exact ⟨slot', hold, by rw [List.getElem?_set_ne hslots, hfirst], hsecond⟩
  record := h.record
  own := fun j => by
    rcases eq_or_ne j i with rfl | hne
    · simpa [hclaim] using h.own j
    · simpa only [Function.update_of_ne hne] using h.own j

theorem storeSecond (h : Inv n f own₀ owners s) {i slot : ℕ} {r : SlotRecord A B C}
    (hclaim : s.claim i = .half slot) (hf : f i = some r) (hslot : slot < s.second.length) :
    Inv n f own₀ owners
      { s with second := s.second.set slot r.second,
               claim := Function.update s.claim i .done } where
  cnt := h.cnt
  nodup := h.nodup
  first_length := h.first_length
  second_length := by simpa using h.second_length
  own_length := h.own_length
  started := started_update h (h.started i (by simp [hclaim]))
  owner := fun j hj => by
    rcases eq_or_ne j i with rfl | hne
    · simp
    · simpa only [Function.update_of_ne hne] using h.owner j hj
  claimed := fun j slot' hj => h.claimed j slot' (claim_of_update hj (by simp)).2
  half := fun j slot' hj => h.half j slot' (claim_of_update hj (by simp)).2
  done := fun j r' hj hr' => by
    obtain ⟨howner, hfirst⟩ := h.half i slot hclaim
    rcases eq_or_ne j i with rfl | hne
    · have hsame : r = r' := Option.some.inj (hf.symm.trans hr')
      subst hsame
      exact ⟨slot, howner, hfirst r hf, List.getElem?_set_self hslot⟩
    · obtain ⟨slot', hold, hfirst', hsecond⟩ :=
        h.done j r' (by simpa only [Function.update_of_ne hne] using hj) hr'
      have hslots := slot_ne howner hold hne
      exact ⟨slot', hold, hfirst', by rw [List.getElem?_set_ne hslots, hsecond]⟩
  record := h.record
  own := fun j => by
    rcases eq_or_ne j i with rfl | hne
    · simpa [hclaim] using h.own j
    · simpa only [Function.update_of_ne hne] using h.own j

end Inv

/-- Every step keeps the invariant; a slot that is taken gets its owner. -/
theorem inv_step {own₀ : List C} {s t : SlotState A B C} {l : SlotLabel}
    (h : ∃ owners, Inv n f own₀ owners s) (hstep : step n f s l = some t) :
    ∃ owners, Inv n f own₀ owners t := by
  obtain ⟨owners, h⟩ := h
  obtain ⟨i, -, hin, hwaiting, hf, rfl⟩ | ⟨i, r, -, hin, hwaiting, hf, hcell, rfl⟩ |
    ⟨i, slot, r, -, hclaim, hf, hslot, rfl⟩ | ⟨i, slot, r, -, hclaim, hf, hslot, rfl⟩ :=
    step_cases hstep
  · exact ⟨owners, h.takeNothing hin hwaiting hf⟩
  · exact ⟨owners ++ [i], h.takeSlot hin hwaiting hf hcell⟩
  · exact ⟨owners, h.storeFirst hclaim hf hslot⟩
  · exact ⟨owners, h.storeSecond hclaim hf hslot⟩

section Runs

variable {first : List A} {second : List B} {own : List C}

theorem inv_reachable (hfirst : first.length = n) (hsecond : second.length = n)
    {s : SlotState A B C} (h : (machine n f first second own).Reachable s) :
    ∃ owners, Inv n f own owners s := by
  refine h.invariant (fun s => ∃ owners, Inv n f own owners s) ?_ ?_
  · rintro s rfl
    exact ⟨[], inv_start hfirst hsecond⟩
  · intro s l t _ hs hstep
    exact inv_step hs hstep

/-- **Nothing is written out of range**: an iteration that is not over has a step. -/
theorem step_of_unfinished (hfirst : first.length = n) (hsecond : second.length = n)
    (hown : n ≤ own.length) {s : SlotState A B C}
    (h : (machine n f first second own).Reachable s) {i : ℕ} (hin : i < n)
    (hopen : s.claim i ≠ .done) : ∃ l t, step n f s l = some t := by
  obtain ⟨owners, hinv⟩ := inv_reachable hfirst hsecond h
  cases hclaim : s.claim i with
  | waiting =>
    have hcell : i < s.own.length := hinv.own_length ▸ hin.trans_le hown
    exact ⟨.take i, take f s i, if_pos ⟨hin, hclaim, .inr hcell⟩⟩
  | claimed slot =>
    have howner := hinv.claimed i slot hclaim
    obtain ⟨r, hr⟩ := hinv.record i (List.mem_of_getElem? howner)
    have hslot : slot < s.first.length := hinv.first_length ▸ hinv.slot_lt howner
    exact ⟨.storeFirst i, by simp [step, hclaim, hr, hslot]⟩
  | half slot =>
    obtain ⟨howner, -⟩ := hinv.half i slot hclaim
    obtain ⟨r, hr⟩ := hinv.record i (List.mem_of_getElem? howner)
    have hslot : slot < s.second.length := hinv.second_length ▸ hinv.slot_lt howner
    exact ⟨.storeSecond i, by simp [step, hclaim, hr, hslot]⟩
  | done => exact absurd hclaim hopen

end Runs

/-! ## The loop ends -/

/-- The steps that an iteration still takes, at most. -/
def remainingOf : Claim → ℕ
  | .waiting => 3
  | .claimed _ => 2
  | .half _ => 1
  | .done => 0

/-- The steps that are left, at most. -/
def remaining (n : ℕ) (s : SlotState A B C) : ℕ :=
  ∑ i ∈ Finset.range n, remainingOf (s.claim i)

section Ends

variable {first : List A} {second : List B} {own : List C}

/-- An iteration that moves on leaves fewer steps. -/
theorem remaining_update {s t : SlotState A B C} {i : ℕ} {claim : Claim} (hin : i < n)
    (ht : t.claim = Function.update s.claim i claim)
    (hless : remainingOf claim < remainingOf (s.claim i)) : remaining n t < remaining n s := by
  refine Finset.sum_lt_sum (fun j _ => ?_) ⟨i, Finset.mem_range.mpr hin, ?_⟩
  · rcases eq_or_ne j i with rfl | hne
    · rw [ht, Function.update_self]
      exact hless.le
    · rw [ht, Function.update_of_ne hne]
  · rw [ht, Function.update_self]
    exact hless

theorem remaining_step (hfirst : first.length = n) (hsecond : second.length = n)
    {s t : SlotState A B C} {l : SlotLabel} (h : (machine n f first second own).Reachable s)
    (hstep : step n f s l = some t) : remaining n t < remaining n s := by
  obtain ⟨owners, hinv⟩ := inv_reachable hfirst hsecond h
  obtain ⟨i, -, hin, hwaiting, -, rfl⟩ | ⟨i, r, -, hin, hwaiting, -, -, rfl⟩ |
    ⟨i, slot, r, -, hclaim, -, -, rfl⟩ | ⟨i, slot, r, -, hclaim, -, -, rfl⟩ := step_cases hstep
  · exact remaining_update hin rfl (by simp [hwaiting, remainingOf])
  · exact remaining_update hin rfl (by simp [hwaiting, remainingOf])
  · exact remaining_update (hinv.started i (by simp [hclaim])) rfl (by simp [hclaim, remainingOf])
  · exact remaining_update (hinv.started i (by simp [hclaim])) rfl (by simp [hclaim, remainingOf])

/-- **The loop ends**: from every state that is reached, the steps that are left lead to the end
of every iteration. -/
theorem exists_finished (hfirst : first.length = n) (hsecond : second.length = n)
    (hown : n ≤ own.length) {s : SlotState A B C}
    (h : (machine n f first second own).Reachable s) :
    ∃ labels t, (machine n f first second own).Run s labels t ∧ Finished n t := by
  induction hleft : remaining n s using Nat.strong_induction_on generalizing s with
  | _ left ih =>
    by_cases hfinished : Finished n s
    · exact ⟨[], s, .nil s, hfinished⟩
    · obtain ⟨i, hi⟩ := not_forall.mp hfinished
      obtain ⟨hin, hopen⟩ := Classical.not_imp.mp hi
      obtain ⟨l, u, hstep⟩ := step_of_unfinished hfirst hsecond hown h hin hopen
      have hless := remaining_step hfirst hsecond h hstep
      obtain ⟨labels, t, hrun, ht⟩ := ih _ (hleft ▸ hless) (h.step hstep) rfl
      exact ⟨l :: labels, t, .cons hstep hrun, ht⟩

end Ends

/-! ## What the loop has collected -/

section Collected

variable {first : List A} {second : List B} {own : List C}

/-- After the loop, a slot that has an owner holds its record. -/
theorem Inv.record_at {owners : List ℕ} {s : SlotState A B C} (h : Inv n f own owners s)
    (hfinished : Finished n s) {slot i : ℕ} (hslot : owners[slot]? = some i) :
    ∃ r, f i = some r ∧ s.first[slot]? = some r.first ∧ s.second[slot]? = some r.second := by
  have hi := List.mem_of_getElem? hslot
  obtain ⟨r, hr⟩ := h.record i hi
  obtain ⟨slot', hslot', hboth⟩ := h.done i r (hfinished i (h.started i (h.owner i hi))) hr
  rw [h.slot_unique hslot' hslot] at hboth
  exact ⟨r, hr, hboth⟩

/-- After the loop, the slots that are taken hold, in order, the records of their owners. -/
theorem Inv.zip_eq {owners : List ℕ} {s : SlotState A B C} (h : Inv n f own owners s)
    (hfinished : Finished n s) :
    (s.first.take s.cnt).zip (s.second.take s.cnt) =
      owners.filterMap fun i => (f i).map fun r => (r.first, r.second) := by
  have hsome : ((s.first.take s.cnt).zip (s.second.take s.cnt)).map some =
      owners.map fun i => (f i).map fun r => (r.first, r.second) := by
    refine List.ext_getElem? fun slot => ?_
    rw [List.getElem?_map, List.getElem?_map, h.cnt]
    cases howner : owners[slot]? with
    | none =>
      have hle := List.getElem?_eq_none_iff.mp howner
      rw [List.getElem?_eq_none (by simp; omega)]
      rfl
    | some i =>
      have hlt := (List.getElem?_eq_some_iff.mp howner).1
      obtain ⟨r, hr, hfirst, hsecond⟩ := h.record_at hfinished howner
      have hzip : ((s.first.take owners.length).zip (s.second.take owners.length))[slot]? =
          some (r.first, r.second) :=
        List.getElem?_zip_eq_some.mpr
          ⟨by rw [List.getElem?_take_of_lt hlt, hfirst],
            by rw [List.getElem?_take_of_lt hlt, hsecond]⟩
      rw [hzip, Option.map_some, Option.map_some, hr, Option.map_some]
  have hfilter := congrArg (List.filterMap id) hsome
  simpa [List.filterMap_map] using hfilter

/-- After the loop, the owners are the iterations that have a record. -/
theorem Inv.owners_perm {owners : List ℕ} {s : SlotState A B C} (h : Inv n f own owners s)
    (hfinished : Finished n s) : owners.Perm ((List.range n).filter fun i => (f i).isSome) := by
  refine (List.perm_ext_iff_of_nodup h.nodup (List.nodup_range.filter _)).mpr fun i => ?_
  rw [List.mem_filter, List.mem_range, Option.isSome_iff_exists]
  constructor
  · intro hi
    exact ⟨h.started i (h.owner i hi), h.record i hi⟩
  · rintro ⟨hin, r, hr⟩
    obtain ⟨slot, hslot, -⟩ := h.done i r (hfinished i hin) hr
    exact List.mem_of_getElem? hslot

/-- **What is collected does not depend on the interleaving**: the slots that are taken hold the
records of all iterations, each one once, and the own cells are written. -/
theorem collected (hfirst : first.length = n) (hsecond : second.length = n)
    {s : SlotState A B C} (h : (machine n f first second own).Reachable s)
    (hfinished : Finished n s) :
    ((s.first.take s.cnt).zip (s.second.take s.cnt)).Perm (pairs n f) ∧
      s.own = written n f own := by
  obtain ⟨owners, hinv⟩ := inv_reachable hfirst hsecond h
  refine ⟨?_, List.ext_getElem? fun i => ?_⟩
  · rw [hinv.zip_eq hfinished]
    refine ((hinv.owners_perm hfinished).filterMap _).trans (List.Perm.of_eq ?_)
    rw [List.filterMap_filter]
    refine List.filterMap_congr fun i _ => ?_
    cases f i <;> rfl
  · rw [written, List.getElem?_mapIdx]
    cases hcell : own[i]? with
    | none =>
      have hle := List.getElem?_eq_none_iff.mp hcell
      exact List.getElem?_eq_none (hinv.own_length.trans_le hle)
    | some c =>
      rw [hinv.own, hcell, Option.map_some]
      split
      case isTrue hwaiting =>
        have hout : ¬ i < n := fun hin => by simp [hfinished i hin] at hwaiting
        rw [if_neg hout]
      case isFalse hstarted =>
        rw [if_pos (hinv.started i hstarted)]
        cases f i <;> rfl

end Collected

end SlotCounter

/-! ## Sorting what was collected -/

section Sorted

variable {α : Type}

/-- An outcome of a sort that need not be stable. -/
def IsSort (lt : α → α → Prop) (xs ys : List α) : Prop :=
  ys.Perm xs ∧ ys.Pairwise fun a b => ¬ lt b a

/-- A sort by a key that tells the elements apart has one outcome: it finds the order of the keys
again, whatever order the elements were in. -/
theorem IsSort.eq_of_perm (key : α → ℕ) {xs ys sorted : List α}
    (h : IsSort (fun a b => key a < key b) xs ys) (hperm : xs.Perm sorted)
    (hsorted : sorted.Pairwise fun a b => key a < key b) : ys = sorted := by
  have hle : sorted.Pairwise fun a b => ¬ key b < key a :=
    hsorted.imp fun hlt => hlt.le.not_gt
  have hkeys : (sorted.map key).Nodup :=
    List.pairwise_map.mpr (hsorted.imp fun hlt => hlt.ne)
  refine List.Perm.eq_of_pairwise (fun a b ha hb hab hba => ?_) h.2 hle (h.1.trans hperm)
  have hkey : key a = key b := by omega
  exact List.inj_on_of_nodup_map hkeys ((h.1.trans hperm).mem_iff.mp ha) hb hkey

/-- Records that begin with the number of their iteration are in the order of the numbers. -/
theorem SlotCounter.pairs_sorted {B C : Type} {n : ℕ} {f : ℕ → Option (SlotRecord ℕ B C)}
    (hfirst : ∀ i r, f i = some r → r.first = i) :
    (SlotCounter.pairs n f).Pairwise fun a b => a.1 < b.1 := by
  refine List.Pairwise.filterMap _ ?_ List.pairwise_lt_range
  intro i i' hlt a ha b hb
  obtain ⟨r, hr, rfl⟩ := Option.map_eq_some_iff.mp ha
  obtain ⟨r', hr', rfl⟩ := Option.map_eq_some_iff.mp hb
  exact (hfirst i r hr).trans_lt (hlt.trans_eq (hfirst i' r' hr').symm)

/-- **A collecting loop and a sort** give the records in the order of the iterations. -/
theorem SlotCounter.sorted_collected {B C : Type} {n : ℕ} {f : ℕ → Option (SlotRecord ℕ B C)}
    {first : List ℕ} {second : List B} {own : List C} (hlength : first.length = n)
    (hlength' : second.length = n) (hfirst : ∀ i r, f i = some r → r.first = i)
    {s : SlotState ℕ B C} (h : (machine n f first second own).Reachable s)
    (hfinished : Finished n s) {sorted : List (ℕ × B)}
    (hsort : IsSort (fun a b => a.1 < b.1) ((s.first.take s.cnt).zip (s.second.take s.cnt))
      sorted) :
    sorted = pairs n f :=
  hsort.eq_of_perm Prod.fst (collected hlength hlength' h hfinished).1
    (pairs_sorted hfirst)

end Sorted

end RoboRacer.Foundation
