/-
  Foundation/Slots.lean --- cutting a stream of timestamps at slots.

  Time is divided into units of `width`, and every `count`-th unit is a slot.  A
  cutter collects bursts of timestamps.  It hands over what it has collected
  when a burst ends in a slot and an interval has passed since the collection
  began, up to a tolerance of one unit.  The interval need not be a whole number
  of units: it is longer than the period of the slots by `rest`.

  In a stream without gaps the cutter meets every slot exactly when twice the
  gap and the `rest` fit into one unit.  Otherwise a collection that began late
  in one slot is still too short for the last burst of the next, and lasts for
  two periods.
-/
import Mathlib.Data.List.Chain

set_option autoImplicit false

namespace RoboRacer.Foundation

/-! ## Slots -/

/-- Slots of one unit each, and an interval that is `rest` longer than their period. -/
structure Slots where
  width : Nat
  count : Nat
  rest : Nat
  rest_lt : rest < width
  four_le_count : 4 ≤ count

namespace Slots

variable (z : Slots)

/-- The distance of two slots. -/
def period : Nat := z.count * z.width

def interval : Nat := z.period + z.rest

/-- An interval, less one unit. -/
def tolerance : Nat := z.interval - z.width

/-- The time lies in a slot, the one at the origin excepted. -/
def InSlot (t : Nat) : Prop := t / z.width % z.count = 0 ∧ t / z.width ≠ 0

instance (t : Nat) : Decidable (z.InSlot t) := inferInstanceAs (Decidable (_ ∧ _))

/-- A collection that began at `base` is handed over with a burst that ends at `t`. -/
def Due (base t : Nat) : Prop := z.InSlot t ∧ z.tolerance ≤ t - base

instance (base t : Nat) : Decidable (z.Due base t) := inferInstanceAs (Decidable (_ ∧ _))

variable {z}

theorem width_pos : 0 < z.width := Nat.zero_lt_of_lt z.rest_lt

theorem four_mul_width_le : 4 * z.width ≤ z.period := Nat.mul_le_mul_right _ z.four_le_count

theorem tolerance_add_width : z.tolerance + z.width = z.period + z.rest := by
  have hperiod := z.four_mul_width_le
  unfold tolerance interval
  omega

theorem inSlot_iff {t : Nat} :
    z.InSlot t ↔ ∃ k, 0 < k ∧ k * z.period ≤ t ∧ t < k * z.period + z.width := by
  have hpos := z.width_pos
  have hunits : ∀ k, k * z.period = k * z.count * z.width := fun k => (Nat.mul_assoc _ _ _).symm
  constructor
  · intro h
    obtain ⟨k, hk⟩ := Nat.dvd_of_mod_eq_zero h.1
    rw [Nat.mul_comm] at hk
    refine ⟨k, ?_, ?_, ?_⟩
    · rcases Nat.eq_zero_or_pos k with rfl | hkpos
      · rw [Nat.zero_mul] at hk
        exact absurd hk h.2
      · exact hkpos
    · rw [hunits, ← hk]
      exact Nat.div_mul_le_self _ _
    · rw [hunits, ← hk]
      exact Nat.lt_div_mul_add hpos
  · rintro ⟨k, hkpos, hlow, hhigh⟩
    have hunit : t / z.width = k * z.count := by
      rw [hunits] at hlow hhigh
      apply Nat.div_eq_of_lt_le hlow
      rw [Nat.succ_mul]
      exact hhigh
    have hcount := z.four_le_count
    rw [InSlot, hunit]
    exact ⟨Nat.mul_mod_left _ _, (Nat.mul_pos hkpos (by omega)).ne'⟩

/-- After the slot of `k` comes that of `k + 1`. -/
theorem InSlot.next {t k : Nat} (h : z.InSlot t) (hlow : k * z.period + z.width ≤ t)
    (hhigh : t < k * z.period + 2 * z.period) :
    k * z.period + z.period ≤ t ∧ t < k * z.period + z.period + z.width := by
  obtain ⟨j, _, hjlow, hjhigh⟩ := inSlot_iff.mp h
  have hj : j = k + 1 := by
    rcases Nat.lt_trichotomy j (k + 1) with hlt | heq | hgt
    · have hle : j * z.period ≤ k * z.period := Nat.mul_le_mul_right _ (by omega)
      omega
    · exact heq
    · have hle : (k + 2) * z.period ≤ j * z.period := Nat.mul_le_mul_right _ (by omega)
      rw [Nat.add_mul] at hle
      omega
  rw [hj, Nat.succ_mul] at hjlow hjhigh
  exact ⟨hjlow, hjhigh⟩

end Slots

/-! ## The cutter -/

/-- A stretch of timestamps. -/
structure Span where
  first : Nat
  last : Nat

/-- Where the collection began, if it is not empty, and what was handed over. -/
structure Cutter where
  base : Option Nat
  frames : List Span

namespace Slots

variable (z : Slots)

def start : Cutter := { base := none, frames := [] }

/-- One burst. -/
def step (s : Cutter) (burst : Span) : Cutter :=
  let base := s.base.getD burst.first
  if z.Due base burst.last then
    { base := none, frames := s.frames ++ [{ first := base, last := burst.last }] }
  else { s with base := some base }

def run (s : Cutter) (bursts : List Span) : Cutter := bursts.foldl z.step s

/-- The frame lasts for an interval, up to one unit. -/
def Fits (frame : Span) : Prop :=
  frame.first + z.tolerance ≤ frame.last ∧
    frame.last < frame.first + z.interval + z.width

variable {z}

theorem run_append (s : Cutter) (xs ys : List Span) :
    z.run s (xs ++ ys) = z.run (z.run s xs) ys := List.foldl_append

theorem step_due {s : Cutter} {burst : Span} (h : z.Due (s.base.getD burst.first) burst.last) :
    z.step s burst =
      { base := none
        frames := s.frames ++ [{ first := s.base.getD burst.first, last := burst.last }] } :=
  if_pos h

theorem step_keep {s : Cutter} {burst : Span}
    (h : ¬ z.Due (s.base.getD burst.first) burst.last) :
    z.step s burst = { s with base := some (s.base.getD burst.first) } :=
  if_neg h

end Slots

/-- `burst` begins after `last`, and ends within `gap` of it. -/
def FollowsWithin (gap last : Nat) (burst : Span) : Prop :=
  last < burst.first ∧ burst.last ≤ last + gap

/-- A stream of bursts without gaps. -/
structure GapFree (gap : Nat) (bursts : List Span) : Prop where
  ordered : ∀ burst ∈ bursts, burst.first ≤ burst.last
  chain : bursts.IsChain fun previous burst => FollowsWithin gap previous.last burst

theorem GapFree.left_of_append {gap : Nat} {xs ys : List Span} (h : GapFree gap (xs ++ ys)) :
    GapFree gap xs :=
  ⟨fun burst hburst => h.ordered burst (List.mem_append_left _ hburst), h.chain.left_of_append⟩

namespace Slots

variable {z : Slots} {gap : Nat}

/-- A collection began no later than the burst that joins it ends. -/
theorem base_le (bursts : List Span) {burst : Span} (h : GapFree gap (bursts ++ [burst])) :
    (z.run start bursts).base.getD burst.first ≤ burst.last := by
  have hordered : burst.first ≤ burst.last := h.ordered burst (by simp)
  induction bursts using List.reverseRecOn generalizing burst with
  | nil => exact hordered
  | append_singleton bursts previous ih =>
    have hprevious := ih h.left_of_append (h.ordered previous (by simp))
    have hfollows : FollowsWithin gap previous.last burst := by
      have hchain := h.chain
      rw [List.append_assoc] at hchain
      exact (List.isChain_cons_cons.mp hchain.right_of_append).1
    rw [run_append]
    change ((z.step (z.run start bursts) previous).base).getD burst.first ≤ burst.last
    by_cases hdue : z.Due ((z.run start bursts).base.getD previous.first) previous.last
    · rw [step_due hdue]
      exact hordered
    · have hafter := hfollows.1
      rw [step_keep hdue, Option.getD_some]
      omega

/-! ## No slot is missed -/

/-- Where the cutter stands at time `last`, after a cut at `cut` in the slot of
`k`.  The collection began at most a gap after the cut; while it is not handed
over, the next slot or the tolerance has not been reached. -/
def Waiting (z : Slots) (gap k cut last : Nat) : Option Nat → Prop
  | none => cut = last
  | some base =>
    cut < base ∧ base ≤ cut + gap ∧
      (last < k * z.period + z.period ∨ last < base + z.tolerance)

/-- A burst that follows is not beyond the next slot. -/
theorem Waiting.reach (hgap : 2 * gap + z.rest ≤ z.width + 1) {k cut last : Nat}
    {base : Option Nat} (hhigh : cut < k * z.period + z.width)
    (h : z.Waiting gap k cut last base) {burst : Span} (hfollows : FollowsWithin gap last burst)
    (hordered : burst.first ≤ burst.last) :
    cut < base.getD burst.first ∧ base.getD burst.first ≤ cut + gap ∧
      burst.last < k * z.period + z.period + z.width := by
  obtain ⟨hafter, hwithin⟩ := hfollows
  have hperiod := z.four_mul_width_le
  have htolerance := z.tolerance_add_width
  cases base with
  | none =>
    have hcut : cut = last := h
    rw [Option.getD_none]
    omega
  | some base =>
    obtain ⟨hbase, hbase', hlast⟩ := h
    rw [Option.getD_some]
    refine ⟨hbase, hbase', ?_⟩
    rcases hlast with hslot | hshort
    · omega
    · -- the collection began a gap after the last instant of its slot, at the latest
      omega

/-- What the cutter keeps, when the last burst ended at `last`. -/
structure Kept (z : Slots) (gap last : Nat) (s : Cutter) : Prop where
  waiting : s.frames ≠ [] → ∃ k cut, k * z.period ≤ cut ∧ cut < k * z.period + z.width ∧
    z.Waiting gap k cut last s.base
  fits : ∀ frame ∈ s.frames.tail, z.Fits frame

/-- The first cut only has to lie in a slot. -/
theorem Kept.first_cut {t : Nat} (hslot : z.InSlot t) (frame : Span) :
    z.Kept gap t { base := none, frames := [] ++ [frame] } := by
  obtain ⟨k, _, hlow, hhigh⟩ := inSlot_iff.mp hslot
  refine ⟨fun _ => ⟨k, t, hlow, hhigh, rfl⟩, ?_⟩
  intro frame hframe
  cases hframe

theorem Kept.step_due (hgap : 2 * gap + z.rest ≤ z.width + 1) {last : Nat} {s : Cutter}
    (h : z.Kept gap last s) {burst : Span} (hfollows : FollowsWithin gap last burst)
    (hordered : burst.first ≤ burst.last)
    (hdue : z.Due (s.base.getD burst.first) burst.last) :
    z.Kept gap burst.last (z.step s burst) := by
  obtain ⟨hslot, hlong⟩ := hdue
  have hperiod := z.four_mul_width_le
  have htolerance := z.tolerance_add_width
  have hwidth := z.width_pos
  rw [Slots.step_due ⟨hslot, hlong⟩]
  by_cases hfirst : s.frames = []
  · rw [hfirst]
    exact .first_cut hslot _
  · obtain ⟨k, cut, hlow, hhigh, hwaiting⟩ := h.waiting hfirst
    obtain ⟨hafter, _, hreach⟩ := hwaiting.reach hgap hhigh hfollows hordered
    obtain ⟨hnext, hnext'⟩ := hslot.next (k := k) (by omega) (by omega)
    have hcut : (k + 1) * z.period ≤ burst.last ∧
        burst.last < (k + 1) * z.period + z.width := by
      rw [Nat.succ_mul]
      exact ⟨hnext, hnext'⟩
    refine ⟨fun _ => ⟨k + 1, burst.last, hcut.1, hcut.2, rfl⟩, ?_⟩
    rw [List.tail_append_of_ne_nil hfirst]
    intro frame hframe
    rcases List.mem_append.mp hframe with hold | hnew
    · exact h.fits frame hold
    · rw [List.mem_singleton.mp hnew]
      unfold Fits interval
      constructor
      · change s.base.getD burst.first + z.tolerance ≤ burst.last
        omega
      · change burst.last < s.base.getD burst.first + (z.period + z.rest) + z.width
        omega

theorem Kept.step_keep (hgap : 2 * gap + z.rest ≤ z.width + 1) {last : Nat} {s : Cutter}
    (h : z.Kept gap last s) {burst : Span} (hfollows : FollowsWithin gap last burst)
    (hordered : burst.first ≤ burst.last)
    (hdue : ¬ z.Due (s.base.getD burst.first) burst.last) :
    z.Kept gap burst.last (z.step s burst) := by
  rw [Slots.step_keep hdue]
  refine ⟨?_, h.fits⟩
  intro hframes
  obtain ⟨k, cut, hlow, hhigh, hwaiting⟩ := h.waiting hframes
  obtain ⟨hafter, hbase, hreach⟩ := hwaiting.reach hgap hhigh hfollows hordered
  refine ⟨k, cut, hlow, hhigh, hafter, hbase, ?_⟩
  by_contra hpast
  obtain ⟨hslot, hlong⟩ := not_or.mp hpast
  apply hdue
  constructor
  · apply inSlot_iff.mpr
    refine ⟨k + 1, Nat.succ_pos k, ?_, ?_⟩
    · rw [Nat.succ_mul]
      omega
    · rw [Nat.succ_mul]
      exact hreach
  · omega

/-- One burst keeps the phase of the cuts. -/
theorem Kept.step (hgap : 2 * gap + z.rest ≤ z.width + 1) {last : Nat} {s : Cutter}
    (h : z.Kept gap last s) {burst : Span} (hfollows : FollowsWithin gap last burst)
    (hordered : burst.first ≤ burst.last) : z.Kept gap burst.last (z.step s burst) := by
  by_cases hdue : z.Due (s.base.getD burst.first) burst.last
  · exact h.step_due hgap hfollows hordered hdue
  · exact h.step_keep hgap hfollows hordered hdue

/-- The first burst, whatever it is. -/
theorem kept_first (burst : Span) : z.Kept gap burst.last (z.step start burst) := by
  by_cases hdue : z.Due (start.base.getD burst.first) burst.last
  · rw [Slots.step_due hdue]
    exact .first_cut hdue.1 _
  · rw [Slots.step_keep hdue]
    refine ⟨fun hframes => absurd rfl hframes, ?_⟩
    intro frame hframe
    cases hframe

/-- A whole stream without gaps keeps it. -/
theorem Kept.run (hgap : 2 * gap + z.rest ≤ z.width + 1) (bursts : List Span) {last : Span}
    {s : Cutter} (h : z.Kept gap last.last s) (hfree : GapFree gap (last :: bursts)) :
    ∃ last', z.Kept gap last' (z.run s bursts) := by
  induction bursts generalizing last s with
  | nil => exact ⟨last.last, h⟩
  | cons burst rest ih =>
    obtain ⟨hfollows, hchain⟩ := List.isChain_cons_cons.mp hfree.chain
    have hordered : ∀ b ∈ burst :: rest, b.first ≤ b.last :=
      fun b hb => hfree.ordered b (List.mem_cons_of_mem _ hb)
    exact ih (h.step hgap hfollows (hordered burst List.mem_cons_self)) ⟨hordered, hchain⟩

/-- **No slot is missed** when twice the gap and the rest fit into one unit:
every frame after the first lasts for an interval, up to one unit. -/
theorem fits_of_gapFree (hgap : 2 * gap + z.rest ≤ z.width + 1) {bursts : List Span}
    (hfree : GapFree gap bursts) : ∀ frame ∈ (z.run start bursts).frames.tail, z.Fits frame := by
  cases bursts with
  | nil =>
    intro frame hframe
    cases hframe
  | cons burst rest =>
    obtain ⟨last, hkept⟩ := (kept_first burst).run hgap rest hfree
    exact hkept.fits

/-! ## A slot that is missed -/

/-- The times from `a` on, a gap apart, before `b`. -/
def ticks (gap a b : Nat) : List Nat := List.range' a ((b - a - 1) / gap + 1) gap

theorem mem_ticks {a b t : Nat} (hab : a < b) (ht : t ∈ ticks gap a b) :
    a ≤ t ∧ t < b ∧ (t ≠ a → a + gap ≤ t) := by
  obtain ⟨i, hi, rfl⟩ := List.mem_range'.mp ht
  have hmul : gap * i ≤ gap * ((b - a - 1) / gap) := Nat.mul_le_mul_left _ (by omega)
  have hdiv : gap * ((b - a - 1) / gap) ≤ b - a - 1 := Nat.mul_div_le _ _
  refine ⟨by omega, by omega, ?_⟩
  intro hne
  have hi' : 1 ≤ i := by
    rcases Nat.eq_zero_or_pos i with rfl | hi'
    · exact absurd (by rw [Nat.mul_zero, Nat.add_zero]) hne
    · exact hi'
  have hgap : gap * 1 ≤ gap * i := Nat.mul_le_mul_left _ hi'
  omega

/-- Instants a gap apart at most. -/
def Steps (gap : Nat) (times : List Nat) : Prop :=
  times.IsChain fun previous t => previous < t ∧ t ≤ previous + gap

theorem steps_range'_append {b : Nat} {rest : List Nat} (hpos : 0 < gap)
    (hrest : Steps gap (b :: rest)) (n : Nat) {a : Nat} (hlow : a + gap * n < b)
    (hhigh : b ≤ a + gap * (n + 1)) : Steps gap (List.range' a (n + 1) gap ++ b :: rest) := by
  induction n generalizing a with
  | zero =>
    rw [Nat.mul_zero, Nat.add_zero] at hlow
    rw [Nat.mul_one] at hhigh
    exact List.isChain_cons_cons.mpr ⟨⟨hlow, hhigh⟩, hrest⟩
  | succ n ih =>
    have hnext : Steps gap (List.range' (a + gap) (n + 1) gap ++ b :: rest) := by
      apply ih
      · rw [Nat.mul_succ] at hlow
        omega
      · rw [Nat.mul_succ] at hhigh
        omega
    rw [List.range'_succ, List.cons_append] at hnext
    rw [List.range'_succ, List.range'_succ, List.cons_append, List.cons_append]
    exact List.isChain_cons_cons.mpr ⟨⟨by omega, by omega⟩, hnext⟩

/-- The ticks lead on to what comes next. -/
theorem Steps.ticks_append {a b : Nat} {rest : List Nat} (hpos : 0 < gap) (hab : a < b)
    (hrest : Steps gap rest) (hhead : rest.head? = some b) : Steps gap (ticks gap a b ++ rest) := by
  obtain ⟨after, rfl⟩ := List.head?_eq_some_iff.mp hhead
  apply steps_range'_append hpos hrest
  · have hdiv : gap * ((b - a - 1) / gap) ≤ b - a - 1 := Nat.mul_div_le _ _
    omega
  · have hdiv : b - a - 1 < gap * ((b - a - 1) / gap + 1) := Nat.lt_mul_div_succ _ hpos
    omega

theorem head?_ticks_append (a b : Nat) (rest : List Nat) :
    (ticks gap a b ++ rest).head? = some a := by
  rw [ticks, List.range'_succ]
  rfl

/-- A burst of one timestamp at each of the times. -/
def instants (times : List Nat) : List Span := times.map fun t => { first := t, last := t }

theorem instants_append (xs ys : List Nat) :
    instants (xs ++ ys) = instants xs ++ instants ys := List.map_append

theorem gapFree_instants {times : List Nat} (h : Steps gap times) :
    GapFree gap (instants times) := by
  constructor
  · intro burst hburst
    obtain ⟨t, _, rfl⟩ := List.mem_map.mp hburst
    exact Nat.le_refl t
  · unfold instants
    rw [List.isChain_map]
    exact h

theorem run_instants_cons (s : Cutter) (t : Nat) (times : List Nat) :
    z.run s (instants (t :: times)) =
      z.run (z.step s { first := t, last := t }) (instants times) := rfl

/-- Nothing is handed over while no time is due. -/
theorem run_quiet {base : Nat} {frames : List Span} {times : List Nat}
    (h : ∀ t ∈ times, ¬ z.Due base t) :
    z.run { base := some base, frames := frames } (instants times) =
      { base := some base, frames := frames } := by
  induction times with
  | nil => rfl
  | cons t rest ih =>
    have hkeep : z.step { base := some base, frames := frames } { first := t, last := t } =
        { base := some base, frames := frames } := Slots.step_keep (h t List.mem_cons_self)
    rw [run_instants_cons, hkeep]
    exact ih fun t' ht' => h t' (List.mem_cons_of_mem _ ht')

/-- A collection that begins with the ticks, while none is due. -/
theorem run_ticks {a b : Nat} {frames : List Span} (hab : a < b)
    (h : ∀ t, a ≤ t → t < b → ¬ z.Due a t) :
    z.run { base := none, frames := frames } (instants (ticks gap a b)) =
      { base := some a, frames := frames } := by
  have hquiet : ∀ t ∈ ticks gap a b, ¬ z.Due a t := by
    intro t ht
    obtain ⟨hlow, hhigh, _⟩ := mem_ticks hab ht
    exact h t hlow hhigh
  rw [ticks, List.range'_succ] at hquiet ⊢
  have hkeep : z.step { base := none, frames := frames } { first := a, last := a } =
      { base := some a, frames := frames } := Slots.step_keep (hquiet a List.mem_cons_self)
  rw [run_instants_cons, hkeep]
  exact run_quiet fun t ht => hquiet t (List.mem_cons_of_mem _ ht)

variable (z gap)

/-- The last instant of the first slot. -/
def lateCut : Nat := z.period + z.width - 1

/-- The last instant of the second slot at which a collection that begins a gap
after `lateCut` is too short, or the end of the slot. -/
def lastTry : Nat := 2 * z.period + min (gap + z.rest - 2) (z.width - 1)

/-- A stream that is cut at the last instant of the first slot, and then not in
the second. -/
def missedTimes : List Nat :=
  ticks gap (z.lateCut - z.tolerance) z.lateCut ++
    z.lateCut ::
      (ticks gap (z.lateCut + gap) (z.lastTry gap) ++
        (ticks gap (z.lastTry gap) (3 * z.period) ++ [3 * z.period]))

variable {z gap}

/-- How the times of the stream lie. -/
structure MissedTimes (z : Slots) (gap : Nat) : Prop where
  pos : 0 < gap
  lateCut : z.lateCut + 1 = z.period + z.width
  tolerance_pos : 0 < z.tolerance
  tolerance_le : z.tolerance ≤ z.lateCut
  lt_lastTry : z.lateCut + gap < z.lastTry gap
  lastTry_short : z.lastTry gap < z.lateCut + gap + z.tolerance
  lastTry_late : 2 * z.period + z.width ≤ z.lastTry gap + gap
  lastTry_lt : z.lastTry gap < 3 * z.period
  third_late : z.lateCut + gap + z.interval + z.width ≤ 3 * z.period

theorem missedTimes_spec (hgap : gap ≤ z.width) (h : z.width + 2 ≤ 2 * gap + z.rest) :
    MissedTimes z gap := by
  have hperiod := z.four_mul_width_le
  have htolerance := z.tolerance_add_width
  have hrest := z.rest_lt
  have hinterval : z.interval = z.period + z.rest := rfl
  have hcut : z.lateCut = z.period + z.width - 1 := rfl
  have htry : z.lastTry gap = 2 * z.period + min (gap + z.rest - 2) (z.width - 1) := rfl
  constructor <;> omega

theorem MissedTimes.steps (h : MissedTimes z gap) : Steps gap (z.missedTimes gap) := by
  have hlast : Steps gap (ticks gap (z.lastTry gap) (3 * z.period) ++ [3 * z.period]) :=
    .ticks_append h.pos h.lastTry_lt (List.isChain_singleton _) rfl
  have htry : Steps gap (ticks gap (z.lateCut + gap) (z.lastTry gap) ++
      (ticks gap (z.lastTry gap) (3 * z.period) ++ [3 * z.period])) :=
    hlast.ticks_append h.pos h.lt_lastTry (head?_ticks_append _ _ _)
  have hcut : Steps gap (z.lateCut :: (ticks gap (z.lateCut + gap) (z.lastTry gap) ++
      (ticks gap (z.lastTry gap) (3 * z.period) ++ [3 * z.period]))) := by
    apply htry.cons
    intro next hnext
    rw [head?_ticks_append] at hnext
    cases hnext
    have hpos := h.pos
    omega
  apply hcut.ticks_append h.pos _ rfl
  have htolerance := h.tolerance_pos
  have hle := h.tolerance_le
  omega

/-- No time between the second slot and the third is in a slot. -/
theorem not_inSlot_between {t : Nat} (hlow : 2 * z.period + z.width ≤ t)
    (hhigh : t < 3 * z.period) : ¬ z.InSlot t := by
  intro hslot
  have hperiod := z.four_mul_width_le
  obtain ⟨hnext, _⟩ := hslot.next hlow (by omega)
  omega

theorem MissedTimes.run (h : MissedTimes z gap) :
    (z.run start (instants (z.missedTimes gap))).frames =
      [{ first := z.lateCut - z.tolerance, last := z.lateCut },
        { first := z.lateCut + gap, last := 3 * z.period }] := by
  have hperiod := z.four_mul_width_le
  have hwidth := z.width_pos
  have htolerance : z.tolerance = z.interval - z.width := rfl
  obtain ⟨hpos, hcut, hlong, hle, hlt, hshort, hlate, hthird, hthirdLate⟩ := h
  -- the first frame
  have hfirst : z.run start (instants (ticks gap (z.lateCut - z.tolerance) z.lateCut)) =
      { base := some (z.lateCut - z.tolerance), frames := [] } := by
    apply run_ticks (by omega)
    intro t hlow hhigh hdue
    have hreached := hdue.2
    omega
  have hcutDue : z.Due (z.lateCut - z.tolerance) z.lateCut := by
    refine ⟨inSlot_iff.mpr ⟨1, Nat.one_pos, ?_, ?_⟩, ?_⟩ <;> omega
  -- the next collection is too short in the second slot, and the gap skips what is left of it
  have htry (frames : List Span) :
      z.run { base := none, frames := frames }
          (instants (ticks gap (z.lateCut + gap) (z.lastTry gap))) =
        { base := some (z.lateCut + gap), frames := frames } := by
    apply run_ticks hlt
    intro t hlow hhigh hdue
    have hreached := hdue.2
    omega
  have hmissed (frames : List Span) :
      z.run { base := some (z.lateCut + gap), frames := frames }
          (instants (ticks gap (z.lastTry gap) (3 * z.period))) =
        { base := some (z.lateCut + gap), frames := frames } := by
    apply run_quiet
    intro t ht hdue
    obtain ⟨hlow, hhigh, hnext⟩ := mem_ticks hthird ht
    obtain ⟨hslot, hreached⟩ := hdue
    by_cases hfirst : t = z.lastTry gap
    · omega
    · have hafter := hnext hfirst
      exact not_inSlot_between (by omega) hhigh hslot
  have hthirdDue : z.Due (z.lateCut + gap) (3 * z.period) := by
    refine ⟨inSlot_iff.mpr ⟨3, by omega, ?_, ?_⟩, ?_⟩ <;> omega
  rw [missedTimes, instants_append, run_append, hfirst, run_instants_cons,
    Slots.step_due hcutDue, instants_append, run_append, htry, instants_append, run_append,
    hmissed, run_instants_cons, Slots.step_due hthirdDue]
  rfl

theorem MissedTimes.le (h : MissedTimes z gap) : ∀ t ∈ z.missedTimes gap, t ≤ 3 * z.period := by
  intro t ht
  have hlt := h.lt_lastTry
  have hthird := h.lastTry_lt
  have htolerance := h.tolerance_pos
  have hle := h.tolerance_le
  rw [missedTimes, List.mem_append, List.mem_cons, List.mem_append, List.mem_append,
    List.mem_singleton] at ht
  rcases ht with hfirst | hcut | htry | hmissed | hlast
  · have hbefore := (mem_ticks (by omega) hfirst).2.1
    omega
  · omega
  · have hbefore := (mem_ticks hlt htry).2.1
    omega
  · have hbefore := (mem_ticks hthird hmissed).2.1
    omega
  · omega

/-- **A slot is missed** when twice the gap and the rest do not fit into one
unit: the second frame of the stream is too long. -/
theorem MissedTimes.not_fits (h : MissedTimes z gap) :
    ∃ frame ∈ (z.run start (instants (z.missedTimes gap))).frames.tail, ¬ z.Fits frame := by
  refine ⟨{ first := z.lateCut + gap, last := 3 * z.period }, ?_, ?_⟩
  · rw [h.run]
    exact List.mem_singleton_self _
  · intro hfits
    have hshort : 3 * z.period < z.lateCut + gap + z.interval + z.width := hfits.2
    have hlate := h.third_late
    omega

end Slots

end RoboRacer.Foundation
