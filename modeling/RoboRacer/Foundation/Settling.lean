/-
  Foundation/Settling.lean --- machines that come to rest.

  Some of a machine's steps are quiet: they bring no new work.  If every quiet
  step uses up some of a number, the machine cannot take quiet steps for ever:

      Settles.length_le     no quiet run is longer than the work there is
      Settles.exists_rest   every quiet run can be continued until no quiet step is left
-/
import RoboRacer.Foundation.Machine

set_option autoImplicit false

namespace RoboRacer.Foundation

namespace Machine

variable {State Label : Type}

/-- Quiet steps keep `Inv` and use up `work`. -/
structure Settles (M : Machine State Label) (Quiet : Label → Prop) (Inv : State → Prop)
    (work : State → Nat) : Prop where
  keeps : ∀ {s t l}, Inv s → Quiet l → M.Step s l t → Inv t
  works : ∀ {s t l}, Inv s → Quiet l → M.Step s l t → work t < work s

/-- No quiet step is left. -/
def Rests (M : Machine State Label) (Quiet : Label → Prop) (s : State) : Prop :=
  ∀ l t, Quiet l → ¬ M.Step s l t

namespace Settles

variable {M : Machine State Label} {Quiet : Label → Prop} {Inv : State → Prop}
  {work : State → Nat} {s t : State} {labels : List Label}

/-- What a quiet run keeps, and what it uses up: at least one for each step. -/
theorem run (h : M.Settles Quiet Inv work) (hrun : M.Run s labels t)
    (hquiet : ∀ l ∈ labels, Quiet l) (hs : Inv s) :
    Inv t ∧ labels.length + work t ≤ work s := by
  induction hrun with
  | nil => exact ⟨hs, by simp⟩
  | @snoc t u labels l _ hstep ih =>
    obtain ⟨ht, hle⟩ := ih fun l hl => hquiet l (List.mem_append_left _ hl)
    have hl : Quiet l := hquiet l (List.mem_append_right _ (List.mem_singleton_self l))
    have hlt := h.works ht hl hstep
    refine ⟨h.keeps ht hl hstep, ?_⟩
    rw [List.length_append, List.length_singleton]
    omega

theorem length_le (h : M.Settles Quiet Inv work) (hrun : M.Run s labels t)
    (hquiet : ∀ l ∈ labels, Quiet l) (hs : Inv s) : labels.length ≤ work s :=
  Nat.le_trans (Nat.le_add_right _ _) (h.run hrun hquiet hs).2

/-- By induction on the work that is left. -/
theorem exists_rest (h : M.Settles Quiet Inv work) (hs : Inv s) :
    ∃ labels t, M.Run s labels t ∧ (∀ l ∈ labels, Quiet l) ∧ M.Rests Quiet t := by
  induction hn : work s using Nat.strongRecOn generalizing s with
  | ind n ih =>
    by_cases hrest : M.Rests Quiet s
    · exact ⟨[], s, .nil s, fun l hl => absurd hl List.not_mem_nil, hrest⟩
    · obtain ⟨l, t, hl, hstep⟩ : ∃ l t, Quiet l ∧ M.Step s l t := by
        simpa [Rests] using hrest
      obtain ⟨labels, u, hrun, hquiet, hu⟩ :=
        ih (work t) (hn ▸ h.works hs hl hstep) (h.keeps hs hl hstep) rfl
      refine ⟨l :: labels, u, .cons hstep hrun, fun l' hl' => ?_, hu⟩
      rcases List.mem_cons.mp hl' with rfl | hmem
      · exact hl
      · exact hquiet l' hmem

end Settles

end Machine

end RoboRacer.Foundation
