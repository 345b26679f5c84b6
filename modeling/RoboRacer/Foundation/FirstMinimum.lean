/-
  Foundation/FirstMinimum.lean --- the first smallest entry of a list.

  One pass over a list keeps the best entry so far and replaces it by a later one
  only when that is strictly smaller.  At the end it has the first smallest one of
  the entries that it looked for, or none if there was none.

  The keys need not be a linear order.  Floating point numbers are comparable with
  one another as long as they are below some bound, and this is all that is used.
-/
import Mathlib.Data.List.Induction
import Mathlib.Order.Lattice

set_option autoImplicit false

namespace RoboRacer.Foundation

/-- A comparison that orders the values below `bound`: any other value is on neither
side of it, or compares as in a linear order. -/
structure WeakBelow {D : Type} [LT D] (bound : D) : Prop where
  irrefl : ∀ a : D, ¬ a < a
  trans : ∀ {a b c : D}, a < b → b < c → a < c
  lt_of_lt_of_not_lt : ∀ {a b c : D}, c < bound → a < b → ¬ c < b → a < c

/-- A linear order does so for any bound. -/
theorem WeakBelow.of_linearOrder {D : Type} [LinearOrder D] (bound : D) : WeakBelow bound where
  irrefl := lt_irrefl
  trans := lt_trans
  lt_of_lt_of_not_lt _ hab hcb := lt_of_lt_of_le hab (not_lt.mp hcb)

variable {α D : Type} [LT D]

/-- `x`, at position `i`, is the first smallest one of the entries with property `p`. -/
structure FirstMin (p : α → Prop) (key : α → D) (entries : List α) (i : Nat) (x : α) : Prop where
  entry : entries[i]? = some x
  holds : p x
  earlier : ∀ (j : Nat) (y : α), entries[j]? = some y → p y → j < i → key x < key y
  least : ∀ (j : Nat) (y : α), entries[j]? = some y → p y → ¬ key y < key x

/-- There is only one. -/
theorem FirstMin.unique {p : α → Prop} {key : α → D} {entries : List α} {i j : Nat} {x y : α}
    (hx : FirstMin p key entries i x) (hy : FirstMin p key entries j y) : i = j ∧ x = y := by
  have hij : i = j := by
    rcases Nat.lt_trichotomy i j with hlt | heq | hgt
    · exact absurd (hy.earlier i x hx.entry hx.holds hlt) (hx.least j y hy.entry hy.holds)
    · exact heq
    · exact absurd (hx.earlier j y hy.entry hy.holds hgt) (hy.least i x hx.entry hx.holds)
  subst hij
  exact ⟨rfl, Option.some.inj (hx.entry.symm.trans hy.entry)⟩

/-! ## One more entry -/

theorem getElem?_concat_eq_some {entries : List α} {x y : α} {j : Nat} :
    (entries ++ [x])[j]? = some y ↔ entries[j]? = some y ∨ (j = entries.length ∧ y = x) := by
  rcases Nat.lt_trichotomy j entries.length with hlt | heq | hgt
  · simp [List.getElem?_append_left hlt, Nat.ne_of_lt hlt]
  · subst heq
    simp [eq_comm]
  · have hnone : entries[j]? = none := List.getElem?_eq_none (Nat.le_of_lt hgt)
    have hnone' : (entries ++ [x])[j]? = none := List.getElem?_eq_none (by simp; omega)
    simp [hnone, hnone', Nat.ne_of_gt hgt]

section Concat

variable {p : α → Prop} {key : α → D} {entries : List α} {i : Nat} {x y : α} {bound : D}

/-- An entry without the property changes nothing. -/
theorem FirstMin.concat_of_not (h : FirstMin p key entries i x) (hy : ¬ p y) :
    FirstMin p key (entries ++ [y]) i x where
  entry := getElem?_concat_eq_some.mpr (.inl h.entry)
  holds := h.holds
  earlier j z hz hpz hj := by
    rcases getElem?_concat_eq_some.mp hz with hold | ⟨-, rfl⟩
    · exact h.earlier j z hold hpz hj
    · exact absurd hpz hy
  least j z hz hpz := by
    rcases getElem?_concat_eq_some.mp hz with hold | ⟨-, rfl⟩
    · exact h.least j z hold hpz
    · exact absurd hpz hy

/-- Nor does one that is not smaller. -/
theorem FirstMin.concat_of_not_lt (h : FirstMin p key entries i x) (hy : ¬ key y < key x) :
    FirstMin p key (entries ++ [y]) i x where
  entry := getElem?_concat_eq_some.mpr (.inl h.entry)
  holds := h.holds
  earlier j z hz hpz hj := by
    rcases getElem?_concat_eq_some.mp hz with hold | ⟨rfl, -⟩
    · exact h.earlier j z hold hpz hj
    · have hi := (List.getElem?_eq_some_iff.mp h.entry).1
      omega
  least j z hz hpz := by
    rcases getElem?_concat_eq_some.mp hz with hold | ⟨-, rfl⟩
    · exact h.least j z hold hpz
    · exact hy

/-- A smaller one is the new minimum. -/
theorem FirstMin.concat_of_lt (horder : WeakBelow bound) (hbound : ∀ x, p x → key x < bound)
    (h : FirstMin p key entries i x) (hpy : p y) (hy : key y < key x) :
    FirstMin p key (entries ++ [y]) entries.length y where
  entry := getElem?_concat_eq_some.mpr (.inr ⟨rfl, rfl⟩)
  holds := hpy
  earlier j z hz hpz hj := by
    rcases getElem?_concat_eq_some.mp hz with hold | ⟨rfl, -⟩
    · exact horder.lt_of_lt_of_not_lt (hbound z hpz) hy (h.least j z hold hpz)
    · exact absurd hj (Nat.lt_irrefl _)
  least j z hz hpz := by
    rcases getElem?_concat_eq_some.mp hz with hold | ⟨-, rfl⟩
    · exact fun hlt => h.least j z hold hpz (horder.trans hlt hy)
    · exact horder.irrefl _

/-- The first entry with the property is the minimum. -/
theorem FirstMin.concat_of_first (horder : WeakBelow bound) (h : ∀ x ∈ entries, ¬ p x)
    (hpy : p y) : FirstMin p key (entries ++ [y]) entries.length y where
  entry := getElem?_concat_eq_some.mpr (.inr ⟨rfl, rfl⟩)
  holds := hpy
  earlier j z hz hpz hj := by
    rcases getElem?_concat_eq_some.mp hz with hold | ⟨rfl, -⟩
    · exact absurd hpz (h z (List.mem_of_getElem? hold))
    · exact absurd hj (Nat.lt_irrefl _)
  least j z hz hpz := by
    rcases getElem?_concat_eq_some.mp hz with hold | ⟨-, rfl⟩
    · exact absurd hpz (h z (List.mem_of_getElem? hold))
    · exact horder.irrefl _

end Concat

/-! ## The pass -/

section Scan

variable [DecidableLT D] (p : α → Prop) [DecidablePred p] (key : α → D)

/-- One entry is compared with the best one so far. -/
def scanEntry (best : Option (α × Nat)) (entry : α × Nat) : Option (α × Nat) :=
  if p entry.1 then
    match best with
    | none => some entry
    | some held => if key entry.1 < key held.1 then some entry else some held
  else best

/-- The pass over the list. -/
def firstMin (entries : List α) : Option (α × Nat) :=
  entries.zipIdx.foldl (scanEntry p key) none

theorem firstMin_concat (entries : List α) (x : α) :
    firstMin p key (entries ++ [x]) =
      scanEntry p key (firstMin p key entries) (x, entries.length) := by
  rw [firstMin, List.zipIdx_append, List.foldl_append]
  simp [firstMin]

variable {p key}

/-- **The pass is right.**  It finds the first smallest entry with the property, and
finds nothing only when no entry has it. -/
theorem firstMin_spec {bound : D} (horder : WeakBelow bound)
    (hbound : ∀ x, p x → key x < bound) (entries : List α) :
    (∀ x i, firstMin p key entries = some (x, i) → FirstMin p key entries i x) ∧
      (firstMin p key entries = none → ∀ x ∈ entries, ¬ p x) := by
  induction entries using List.reverseRecOn with
  | nil => exact ⟨fun x i h => (nomatch h), fun _ x hx => (nomatch hx)⟩
  | append_singleton entries y ih =>
    obtain ⟨hsome, hnone⟩ := ih
    rw [firstMin_concat]
    unfold scanEntry
    by_cases hpy : p y
    · rw [if_pos hpy]
      cases hbest : firstMin p key entries with
      | none =>
        have hfirst : FirstMin p key (entries ++ [y]) entries.length y :=
          .concat_of_first horder (hnone hbest) hpy
        refine ⟨fun x i h => ?_, fun h => (nomatch h)⟩
        cases h
        exact hfirst
      | some held =>
        have hheld := hsome held.1 held.2 hbest
        dsimp only
        refine ⟨fun x i h => ?_, fun h => ?_⟩
        · split at h
          case isTrue hlt =>
            cases h
            exact hheld.concat_of_lt horder hbound hpy hlt
          case isFalse hge =>
            cases h
            exact hheld.concat_of_not_lt hge
        · split at h
          · cases h
          · cases h
    · rw [if_neg hpy]
      refine ⟨fun x i h => (hsome x i h).concat_of_not hpy, fun h x hx => ?_⟩
      rcases List.mem_append.mp hx with hold | hnew
      · exact hnone h x hold
      · rw [List.mem_singleton.mp hnew]
        exact hpy

end Scan

end RoboRacer.Foundation
