/-
  Foundation/GroupFold.lean --- a list folded into an ordered map, group by group.

  Every element has a key.  The fold takes the elements in order; each one
  updates the value under its own key, which starts as `init` the first time the
  key is met.  The value that a key ends with is the fold over the elements of
  that key alone, in the order of the list.

      | key of some element | value: the fold over the elements with that key |
      | any other key       | no value                                        |
-/
import Mathlib.Algebra.BigOperators.Group.List.Lemmas
import Mathlib.Data.List.Dedup
import Mathlib.Tactic.Linarith

set_option autoImplicit false

namespace RoboRacer.Foundation

open Std

section GroupFold

variable {α β κ : Type} {c : κ → κ → Ordering} (key : α → κ) (init : β) (f : β → α → β)

/-- The entry under `key x` takes up `x`; a new entry starts as `init`. -/
def groupStep (m : TreeMap κ β c) (x : α) : TreeMap κ β c :=
  m.alter (key x) fun entry => some (f (entry.getD init) x)

/-- The map after all elements of `xs`, in order. -/
def groupFold (xs : List α) : TreeMap κ β c :=
  xs.foldl (groupStep key init f) ∅

variable [TransCmp c] [LawfulEqCmp c] [DecidableEq κ]

/-- One element changes the entry under its own key and no other. -/
theorem getElem?_groupStep (m : TreeMap κ β c) (x : α) (k : κ) :
    (groupStep key init f m x)[k]? =
      if key x = k then some (f (m[k]?.getD init) x) else m[k]? := by
  rw [groupStep, TreeMap.getElem?_alter]
  by_cases hk : key x = k
  · rw [if_pos (LawfulEqCmp.compare_eq_iff_eq.mpr hk), if_pos hk, hk]
  · rw [if_neg (fun h => hk (LawfulEqCmp.compare_eq_iff_eq.mp h)), if_neg hk]

/-- The fold from a map `m`: the entry of `m`, if any, is taken on by the elements of its key. -/
theorem getElem?_foldl_groupStep (xs : List α) (m : TreeMap κ β c) (k : κ) :
    (xs.foldl (groupStep key init f) m)[k]? =
      if k ∈ xs.map key then
        some ((xs.filter fun x => key x = k).foldl f (m[k]?.getD init))
      else m[k]? := by
  induction xs generalizing m with
  | nil => simp
  | cons x xs ih =>
    rw [List.foldl_cons, ih, getElem?_groupStep]
    by_cases hx : key x = k
    · -- the entry of `k` is there from here on
      have hfilter : (x :: xs).filter (fun y => key y = k) =
          x :: xs.filter (fun y => key y = k) := by
        rw [List.filter_cons_of_pos (by simpa using hx)]
      have hmem : k ∈ (x :: xs).map key := by simp [hx]
      rw [if_pos hx, if_pos hmem, hfilter, List.foldl_cons, Option.getD_some]
      by_cases hk : k ∈ xs.map key
      · rw [if_pos hk]
      · have hnone : xs.filter (fun y => key y = k) = [] := by
          refine List.filter_eq_nil_iff.mpr fun y hy => ?_
          have : key y ≠ k := fun h => hk (List.mem_map.mpr ⟨y, hy, h⟩)
          simpa using this
        rw [if_neg hk, hnone, List.foldl_nil]
    · have hfilter : (x :: xs).filter (fun y => key y = k) =
          xs.filter (fun y => key y = k) := by
        rw [List.filter_cons_of_neg (by simpa using hx)]
      have hmem : (k ∈ (x :: xs).map key) ↔ k ∈ xs.map key := by
        rw [List.map_cons, List.mem_cons]
        exact or_iff_right (Ne.symm hx)
      rw [if_neg hx, hfilter]
      simp only [hmem]

/-- **Groups.**  The entry under a key is the fold over the elements of that key. -/
theorem getElem?_groupFold (xs : List α) (k : κ) :
    (groupFold key init f xs : TreeMap κ β c)[k]? =
      if k ∈ xs.map key then some ((xs.filter fun x => key x = k).foldl f init) else none := by
  rw [groupFold, getElem?_foldl_groupStep, TreeMap.getElem?_emptyc, Option.getD_none]

theorem mem_groupFold (xs : List α) (k : κ) :
    ((groupFold key init f xs : TreeMap κ β c)[k]?).isSome ↔ k ∈ xs.map key := by
  rw [getElem?_groupFold]
  by_cases hk : k ∈ xs.map key
  · simp [hk]
  · rw [if_neg hk]
    simpa using hk

/-- The keys of the map are the keys of the elements, each once. -/
theorem keys_groupFold_perm (xs : List α) :
    ((groupFold key init f xs : TreeMap κ β c).toList.map Prod.fst).Perm
      (xs.map key).dedup := by
  refine (List.perm_ext_iff_of_nodup ?_ (List.nodup_dedup _)).mpr fun k => ?_
  · rw [List.nodup_iff_pairwise_ne, List.pairwise_map]
    refine TreeMap.distinct_keys_toList.imp fun {a b} hlt heq => ?_
    exact hlt (LawfulEqCmp.compare_eq_iff_eq.mpr heq)
  · rw [List.mem_dedup, ← mem_groupFold (c := c) key init f xs k, List.mem_map,
      Option.isSome_iff_exists]
    constructor
    · rintro ⟨⟨k', v⟩, hmem, rfl⟩
      exact ⟨v, TreeMap.mem_toList_iff_getElem?_eq_some.mp hmem⟩
    · rintro ⟨v, hv⟩
      exact ⟨(k, v), TreeMap.mem_toList_iff_getElem?_eq_some.mpr hv, rfl⟩

/-- **Nothing is lost or counted twice.**  The sizes of the groups add up to the length. -/
theorem sum_group_lengths (xs : List α) :
    ((groupFold key init f xs : TreeMap κ β c).toList.map fun entry =>
      (xs.filter fun x => key x = entry.1).length).sum = xs.length := by
  have hcount : ∀ k, (xs.filter fun x => key x = k).length = (xs.map key).count k := by
    intro k
    rw [List.count, List.countP_map, List.countP_eq_length_filter]
    congr 1
  calc ((groupFold key init f xs : TreeMap κ β c).toList.map fun entry =>
        (xs.filter fun x => key x = entry.1).length).sum
      = (((groupFold key init f xs : TreeMap κ β c).toList.map Prod.fst).map
          fun k => (xs.map key).count k).sum := by
        rw [List.map_map]
        congr 1
        exact List.map_congr_left fun entry _ => hcount entry.1
    _ = ((xs.map key).dedup.map fun k => (xs.map key).count k).sum :=
        ((keys_groupFold_perm key init f xs).map _).sum_eq
    _ = (xs.map key).length := List.sum_map_count_dedup_eq_length _
    _ = xs.length := List.length_map _

end GroupFold

end RoboRacer.Foundation
