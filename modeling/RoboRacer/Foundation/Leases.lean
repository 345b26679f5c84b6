/-
  Foundation/Leases.lean --- leases of finitely many slots.

  Every key holds at most one slot, and no slot is held by two keys.  A key takes
  a slot that is free and gives it back later.  Once as many keys hold a slot as
  there are slots, no slot is free.
-/
import Mathlib.Data.Finset.Option
import Mathlib.Data.Fintype.Card

set_option autoImplicit false

namespace RoboRacer.Foundation

/-- Which key holds which slot. -/
structure Leases (Key Slot : Type) where
  slotOf : Key → Option Slot
  injective : ∀ {key other : Key} {slot : Slot},
    slotOf key = some slot → slotOf other = some slot → key = other

namespace Leases

variable {Key Slot : Type}

/-- No key holds `slot`. -/
def Free (leases : Leases Key Slot) (slot : Slot) : Prop :=
  ∀ key, leases.slotOf key ≠ some slot

section Changes

variable [DecidableEq Key] (leases : Leases Key Slot) (key : Key)

/-- `key` takes a free slot. -/
def lease (slot : Slot) (hfree : leases.Free slot) : Leases Key Slot where
  slotOf := Function.update leases.slotOf key (some slot)
  injective := by
    intro first second held hfirst hsecond
    rw [Function.update_apply] at hfirst hsecond
    split at hfirst <;> split at hsecond
    case isTrue.isTrue heq heq' => rw [heq, heq']
    case isTrue.isFalse =>
      cases hfirst
      exact absurd hsecond (hfree second)
    case isFalse.isTrue =>
      cases hsecond
      exact absurd hfirst (hfree first)
    case isFalse.isFalse => exact leases.injective hfirst hsecond

/-- `key` gives its slot back. -/
def release : Leases Key Slot where
  slotOf := Function.update leases.slotOf key none
  injective := by
    intro first second held hfirst hsecond
    rw [Function.update_apply] at hfirst hsecond
    split at hfirst
    case isTrue => cases hfirst
    case isFalse =>
      split at hsecond
      case isTrue => cases hsecond
      case isFalse => exact leases.injective hfirst hsecond

/-- After a lease, the slots held are those before and the new one. -/
theorem exists_lease_iff {slot held : Slot} (hfree : leases.Free slot)
    (hnew : leases.slotOf key = none) :
    (∃ other, (leases.lease key slot hfree).slotOf other = some held) ↔
      held = slot ∨ ∃ other, leases.slotOf other = some held := by
  constructor
  · rintro ⟨other, hother⟩
    change Function.update leases.slotOf key (some slot) other = some held at hother
    rw [Function.update_apply] at hother
    split at hother
    · exact .inl (Option.some.inj hother).symm
    · exact .inr ⟨other, hother⟩
  · rintro (rfl | ⟨other, hother⟩)
    · exact ⟨key, Function.update_self ..⟩
    · have hne : other ≠ key := by
        rintro rfl
        rw [hnew] at hother
        cases hother
      exact ⟨other, (Function.update_of_ne hne ..).trans hother⟩

/-- After a release, the slots held are those before except the one given back. -/
theorem exists_release_iff {slot held : Slot} (hslot : leases.slotOf key = some slot) :
    (∃ other, (leases.release key).slotOf other = some held) ↔
      held ≠ slot ∧ ∃ other, leases.slotOf other = some held := by
  constructor
  · rintro ⟨other, hother⟩
    change Function.update leases.slotOf key none other = some held at hother
    rw [Function.update_apply] at hother
    split at hother
    · cases hother
    · rename_i hne
      refine ⟨?_, other, hother⟩
      rintro rfl
      exact hne (leases.injective hother hslot)
  · rintro ⟨hheld, other, hother⟩
    have hne : other ≠ key := by
      rintro rfl
      exact hheld (Option.some.inj (hother.symm.trans hslot))
    exact ⟨other, (Function.update_of_ne hne ..).trans hother⟩

end Changes

/-! ## Counting -/

section Counting

variable [DecidableEq Slot] (leases : Leases Key Slot) {holders : Finset Key}

/-- The slots of `holders`. -/
def slotsOf (holders : Finset Key) : Finset Slot :=
  (holders.image leases.slotOf).eraseNone

theorem mem_slotsOf {slot : Slot} :
    slot ∈ leases.slotsOf holders ↔ ∃ key ∈ holders, leases.slotOf key = some slot := by
  rw [slotsOf, Finset.mem_eraseNone, Finset.mem_image]

/-- Keys that all hold a slot hold as many slots as they are. -/
theorem card_slotsOf (h : ∀ key ∈ holders, (leases.slotOf key).isSome) :
    (leases.slotsOf holders).card = holders.card := by
  have hnone : none ∉ holders.image leases.slotOf := by
    intro hmem
    obtain ⟨key, hkey, hslot⟩ := Finset.mem_image.mp hmem
    have hsome := h key hkey
    rw [hslot] at hsome
    cases hsome
  have hinj : Set.InjOn leases.slotOf holders := by
    intro key hkey other _ heq
    obtain ⟨slot, hslot⟩ := Option.isSome_iff_exists.mp (h key hkey)
    exact leases.injective hslot (heq ▸ hslot)
  rw [slotsOf, Finset.card_eraseNone_of_not_mem hnone, Finset.card_image_of_injOn hinj]

variable [Fintype Slot]

/-- Never more keys hold a slot than there are slots. -/
theorem card_le (h : ∀ key ∈ holders, (leases.slotOf key).isSome) :
    holders.card ≤ Fintype.card Slot := by
  rw [← leases.card_slotsOf h]
  exact Finset.card_le_univ _

/-- **Exhaustion.**  No slot is free exactly when as many keys hold one as there
are slots. -/
theorem forall_not_free_iff (h : ∀ key, key ∈ holders ↔ (leases.slotOf key).isSome) :
    (∀ slot, ¬ leases.Free slot) ↔ holders.card = Fintype.card Slot := by
  rw [← leases.card_slotsOf (fun key hkey => (h key).mp hkey), Finset.card_eq_iff_eq_univ,
    Finset.eq_univ_iff_forall]
  refine forall_congr' fun slot => ?_
  rw [mem_slotsOf, Free]
  constructor
  · intro hheld
    obtain ⟨key, hkey⟩ := not_forall.mp hheld
    have hslot : leases.slotOf key = some slot := not_not.mp hkey
    exact ⟨key, (h key).mpr (Option.isSome_iff_exists.mpr ⟨slot, hslot⟩), hslot⟩
  · rintro ⟨key, -, hslot⟩ hfree
    exact hfree key hslot

end Counting

end Leases

end RoboRacer.Foundation
