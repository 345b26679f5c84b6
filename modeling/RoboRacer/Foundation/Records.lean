/-
  Foundation/Records.lean --- arrays of packed records of bytes.

  A record is a list of byte strings written one after the other, an array a list of
  records of one size.  A slice of the array that lies in one record is a slice of that
  record, and the slice of a member gives the member back.  Members are numbers, lowest
  byte first.
-/
import Mathlib.Data.UInt
import Mathlib.Tactic.Ring

set_option autoImplicit false

namespace RoboRacer.Foundation

/-! ## Numbers as bytes -/

/-- The `width` low bytes of a number, lowest byte first. -/
def leBytes : Nat → Nat → List UInt8
  | 0, _ => []
  | width + 1, n => UInt8.ofNat n :: leBytes width (n / 256)

/-- The number that bytes stand for, lowest byte first. -/
def leValue : List UInt8 → Nat
  | [] => 0
  | byte :: bytes => byte.toNat + 256 * leValue bytes

/-- The number that bytes stand for, highest byte first. -/
def beValue (bytes : List UInt8) : Nat := leValue bytes.reverse

theorem length_leBytes (width n : Nat) : (leBytes width n).length = width := by
  induction width generalizing n with
  | zero => rfl
  | succ width ih => rw [leBytes, List.length_cons, ih]

/-- **The round trip.**  A number that fits its bytes comes back from them. -/
theorem leValue_leBytes {width n : Nat} (h : n < 256 ^ width) :
    leValue (leBytes width n) = n := by
  induction width generalizing n with
  | zero =>
    rw [pow_zero] at h
    rw [leBytes, leValue]
    omega
  | succ width ih =>
    have hrest : n / 256 < 256 ^ width := by
      rw [pow_succ] at h
      exact Nat.div_lt_of_lt_mul (by omega)
    rw [leBytes, leValue, ih hrest, UInt8.toNat_ofNat']
    omega

/-! ## Slices -/

/-- `width` bytes at `offset`. -/
def slice (bytes : List UInt8) (offset width : Nat) : List UInt8 :=
  (bytes.drop offset).take width

/-- A slice that ends with the first part does not see the second. -/
theorem slice_append_left {bytes rest : List UInt8} {offset width : Nat}
    (h : offset + width ≤ bytes.length) :
    slice (bytes ++ rest) offset width = slice bytes offset width := by
  rw [slice, List.drop_append_of_le_length (by omega),
    List.take_append_of_le_length (by rw [List.length_drop]; omega), slice]

theorem slice_append_right (bytes rest : List UInt8) (offset width : Nat) :
    slice (bytes ++ rest) (bytes.length + offset) width = slice rest offset width := by
  rw [slice, List.drop_append, List.drop_eq_nil_of_le (by omega), List.nil_append,
    Nat.add_sub_cancel_left, slice]

/-- A member of a record, at the length of what precedes it. -/
theorem slice_flatten (parts : List (List UInt8)) {k : Nat} {part : List UInt8}
    (h : parts[k]? = some part) :
    slice parts.flatten (parts.take k).flatten.length part.length = part := by
  obtain ⟨hk, hpart⟩ := List.getElem?_eq_some_iff.mp h
  have hsplit : parts.flatten =
      (parts.take k).flatten ++ (part ++ (parts.drop (k + 1)).flatten) := by
    rw [← hpart, ← List.flatten_cons, ← List.drop_eq_getElem_cons hk, ← List.flatten_append,
      List.take_append_drop]
  calc slice parts.flatten (parts.take k).flatten.length part.length
      = slice (part ++ (parts.drop (k + 1)).flatten) 0 part.length := by
        rw [hsplit]
        exact slice_append_right _ _ 0 _
    _ = slice part 0 part.length := slice_append_left (by omega)
    _ = part := by rw [slice, List.drop_zero, List.take_length]

/-- A member lies inside its record. -/
theorem length_take_flatten_add_le (parts : List (List UInt8)) {k : Nat} {part : List UInt8}
    (h : parts[k]? = some part) :
    (parts.take k).flatten.length + part.length ≤ parts.flatten.length := by
  obtain ⟨hk, hpart⟩ := List.getElem?_eq_some_iff.mp h
  have hnext : (parts.take (k + 1)).flatten = (parts.take k).flatten ++ part := by
    rw [List.take_succ_eq_append_getElem hk, List.flatten_append, hpart, List.flatten_singleton]
  calc (parts.take k).flatten.length + part.length
      = (parts.take (k + 1)).flatten.length := by rw [hnext, List.length_append]
    _ ≤ ((parts.take (k + 1)).flatten ++ (parts.drop (k + 1)).flatten).length := by
        rw [List.length_append]
        exact Nat.le_add_right _ _
    _ = parts.flatten.length := by rw [← List.flatten_append, List.take_append_drop]

/-! ## Arrays of records -/

section Arrays

variable {α : Type} {record : α → List UInt8} {step : Nat}

theorem length_flatMap_records (hstep : ∀ a, (record a).length = step) (l : List α) :
    (l.flatMap record).length = l.length * step := by
  induction l with
  | nil => simp
  | cons a l ih =>
    rw [List.flatMap_cons, List.length_append, hstep, ih, List.length_cons]
    ring

/-- **Indexing.**  A slice inside record `i` of an array is a slice of that record. -/
theorem slice_flatMap (hstep : ∀ a, (record a).length = step) {l : List α} {i : Nat} {a : α}
    (ha : l[i]? = some a) {offset width : Nat} (hin : offset + width ≤ step) :
    slice (l.flatMap record) (i * step + offset) width = slice (record a) offset width := by
  induction l generalizing i with
  | nil => cases ha
  | cons b l ih =>
    rw [List.flatMap_cons]
    cases i with
    | zero =>
      obtain rfl : b = a := by simpa using ha
      rw [Nat.zero_mul, Nat.zero_add]
      exact slice_append_left (by rw [hstep]; exact hin)
    | succ i =>
      rw [← ih (by simpa using ha)]
      have hat : (i + 1) * step + offset = (record b).length + (i * step + offset) := by
        rw [hstep]
        ring
      rw [hat, slice_append_right]

/-- Reading every index of an array reads the array. -/
theorem mapM_range_eq (l : List α) {read : Nat → Option α}
    (h : ∀ i a, l[i]? = some a → read i = some a) :
    (List.range l.length).mapM read = some l := by
  induction l generalizing read with
  | nil => rfl
  | cons a l ih =>
    rw [List.length_cons, List.range_succ_eq_map, List.mapM_cons, List.mapM_map,
      h 0 a rfl, @ih (read ∘ Nat.succ) fun i b hb => h (i + 1) b hb]
    rfl

end Arrays

/-! ## Layouts -/

/-- The byte lies in the span `(offset, size)`. -/
def InSpan (byte : Nat) (span : Nat × Nat) : Prop :=
  span.1 ≤ byte ∧ byte < span.1 + span.2

/-- Spans that share no byte and fill exactly the first `step` bytes. -/
def Tiles (step : Nat) (spans : List (Nat × Nat)) : Prop :=
  spans.Pairwise (fun span span' => ∀ byte, ¬ (InSpan byte span ∧ InSpan byte span')) ∧
    ∀ byte, byte < step ↔ ∃ span ∈ spans, InSpan byte span

/-- Each span starts where the one before it ends. -/
def Consecutive : Nat → List (Nat × Nat) → Nat → Prop
  | start, [], stop => start = stop
  | start, span :: spans, stop => span.1 = start ∧ Consecutive (start + span.2) spans stop

theorem Consecutive.le {start stop : Nat} {spans : List (Nat × Nat)}
    (h : Consecutive start spans stop) : start ≤ stop := by
  induction spans generalizing start with
  | nil => exact Nat.le_of_eq h
  | cons span spans ih => exact Nat.le_trans (Nat.le_add_right _ _) (ih h.2)

theorem Consecutive.mem_iff {start stop : Nat} {spans : List (Nat × Nat)}
    (h : Consecutive start spans stop) (byte : Nat) :
    (∃ span ∈ spans, InSpan byte span) ↔ start ≤ byte ∧ byte < stop := by
  induction spans generalizing start with
  | nil =>
    obtain rfl : start = stop := h
    simp
  | cons span spans ih =>
    obtain ⟨hstart, hrest⟩ := h
    have hle := hrest.le
    rw [List.exists_mem_cons_iff, ih hrest, InSpan]
    omega

theorem Consecutive.pairwise {start stop : Nat} {spans : List (Nat × Nat)}
    (h : Consecutive start spans stop) :
    spans.Pairwise fun span span' => ∀ byte, ¬ (InSpan byte span ∧ InSpan byte span') := by
  induction spans generalizing start with
  | nil => exact List.Pairwise.nil
  | cons span spans ih =>
    obtain ⟨hstart, hrest⟩ := h
    refine List.Pairwise.cons (fun span' hspan' byte hboth => ?_) (ih hrest)
    have hbyte := (hrest.mem_iff byte).mp ⟨span', hspan', hboth.2⟩
    have hend := hboth.1.2
    omega

/-- **Consecutive members tile their record.** -/
theorem Consecutive.tiles {stop : Nat} {spans : List (Nat × Nat)}
    (h : Consecutive 0 spans stop) : Tiles stop spans := by
  refine ⟨h.pairwise, fun byte => ?_⟩
  rw [h.mem_iff byte]
  omega

end RoboRacer.Foundation
