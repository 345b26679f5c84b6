/-
  Foundation/Decimals.lean --- numbers in decimal with a separator between them.

  A text such as `192.168.1.100` or `10_3` is read back number by number as long as the
  separator is not a digit, so that it stands for one list of numbers only.
-/
import Mathlib.Algebra.Group.Nat.Defs

set_option autoImplicit false

namespace RoboRacer.Foundation

/-- The numbers in decimal, with `sep` between them. -/
def joined (sep : Char) (ns : List Nat) : List Char :=
  [sep].intercalate (ns.map (Nat.toDigits 10))

/-- The numbers that a text is read as. -/
def readJoined (sep : Char) (text : List Char) : List Nat :=
  (text.splitOn sep).map fun digits => Nat.ofDigitChars 10 digits 0

theorem joined_singleton (sep : Char) (n : Nat) : joined sep [n] = Nat.toDigits 10 n := by
  simp [joined]

theorem joined_cons_cons (sep : Char) (n m : Nat) (ns : List Nat) :
    joined sep (n :: m :: ns) = Nat.toDigits 10 n ++ sep :: joined sep (m :: ns) := by
  simp [joined]

section Reading

variable {sep : Char}

theorem not_mem_toDigits (hsep : sep.isDigit = false) (n : Nat) : sep ∉ Nat.toDigits 10 n := by
  intro hmem
  have hdigit := Nat.isDigit_of_mem_toDigits (by decide) (by decide) hmem
  rw [hsep] at hdigit
  cases hdigit

/-- **Round trip.** -/
theorem readJoined_joined (hsep : sep.isDigit = false) {ns : List Nat} (hns : ns ≠ []) :
    readJoined sep (joined sep ns) = ns := by
  have hwords : ∀ word ∈ ns.map (Nat.toDigits 10), sep ∉ word := by
    intro word hword
    obtain ⟨n, -, rfl⟩ := List.mem_map.mp hword
    exact not_mem_toDigits hsep n
  have hne : ns.map (Nat.toDigits 10) ≠ [] := mt List.map_eq_nil_iff.mp hns
  rw [readJoined, joined, List.splitOn_intercalate sep hwords hne, List.map_map]
  calc ns.map _ = ns.map id := List.map_congr_left fun n _ => Nat.ofDigitChars_ten_toDigits
    _ = ns := List.map_id ns

/-- A text stands for one list of numbers. -/
theorem joined_inj (hsep : sep.isDigit = false) {ns ms : List Nat} (hns : ns ≠ [])
    (hms : ms ≠ []) : joined sep ns = joined sep ms ↔ ns = ms := by
  constructor
  · intro h
    rw [← readJoined_joined hsep hns, h, readJoined_joined hsep hms]
  · exact congrArg (joined sep)

end Reading

/-- What the text is made of. -/
theorem mem_joined {sep c : Char} {ns : List Nat} (h : c ∈ joined sep ns) :
    c = sep ∨ c.isDigit = true := by
  induction ns with
  | nil => simp [joined] at h
  | cons n ns ih =>
    have hdigit : c ∈ Nat.toDigits 10 n → c.isDigit = true :=
      Nat.isDigit_of_mem_toDigits (by decide) (by decide)
    cases ns with
    | nil =>
      rw [joined_singleton] at h
      exact .inr (hdigit h)
    | cons m ns =>
      rw [joined_cons_cons] at h
      rcases List.mem_append.mp h with hn | hrest
      · exact .inr (hdigit hn)
      · rcases List.mem_cons.mp hrest with heq | hrest
        · exact .inl heq
        · exact ih hrest

/-- Another separator. -/
theorem map_joined {sep sep' : Char} {f : Char → Char} (hsep : f sep = sep')
    (hdigit : ∀ c, c.isDigit = true → f c = c) (ns : List Nat) :
    (joined sep ns).map f = joined sep' ns := by
  have hdigits : ∀ n, (Nat.toDigits 10 n).map f = Nat.toDigits 10 n := by
    intro n
    calc (Nat.toDigits 10 n).map f = (Nat.toDigits 10 n).map id :=
          List.map_congr_left fun c hc =>
            hdigit c (Nat.isDigit_of_mem_toDigits (by decide) (by decide) hc)
      _ = Nat.toDigits 10 n := List.map_id _
  induction ns with
  | nil => rfl
  | cons n ns ih =>
    cases ns with
    | nil => rw [joined_singleton, joined_singleton, hdigits]
    | cons m ns =>
      rw [joined_cons_cons, joined_cons_cons, List.map_append, List.map_cons, hdigits, hsep, ih]

/-- Numbers of at most `k` digits take at most `k + 1` characters each. -/
theorem length_joined_lt (sep : Char) {k : Nat} (hk : 0 < k) {ns : List Nat} (hns : ns ≠ [])
    (hdigits : ∀ n ∈ ns, n < 10 ^ k) : (joined sep ns).length < ns.length * (k + 1) := by
  induction ns with
  | nil => exact absurd rfl hns
  | cons n ns ih =>
    obtain ⟨hn, hrest⟩ := List.forall_mem_cons.mp hdigits
    have hlength := (Nat.length_toDigits_le_iff (by decide) hk).mpr hn
    cases ns with
    | nil =>
      rw [joined_singleton, List.length_singleton]
      omega
    | cons m ns =>
      have hshorter := ih (List.cons_ne_nil _ _) hrest
      rw [joined_cons_cons, List.length_append, List.length_cons]
      rw [List.length_cons (a := n), Nat.succ_mul]
      omega

end RoboRacer.Foundation
