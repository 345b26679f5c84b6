/-
  Foundation/Unwrap.lean --- one turn back or forth.

  An angle is known up to whole turns, and code that wants it in a window from `lo` to
  `hi` often adds or takes one turn:

      if (x < lo) x += turn; else if (x > hi) x -= turn;

  With a window of one turn this gets into the window from one turn around it, and from
  nowhere else.
-/
import Mathlib.Algebra.Order.Field.Basic
import Mathlib.Tactic.Linarith

set_option autoImplicit false

namespace RoboRacer.Foundation

variable {K : Type} [Field K] [LinearOrder K]

/-- One turn towards the window. -/
def unwrap (turn lo hi x : K) : K :=
  if x < lo then x + turn else if hi < x then x - turn else x

variable [IsStrictOrderedRing K] {turn lo hi x : K}

/-- The result is not below the window. -/
theorem le_unwrap_iff (hturn : 0 ≤ turn) (hwidth : lo + turn = hi) :
    lo ≤ unwrap turn lo hi x ↔ lo - turn ≤ x := by
  unfold unwrap
  split
  case isTrue hbelow => exact sub_le_iff_le_add.symm
  case isFalse hlo =>
    have hx : lo ≤ x := not_lt.mp hlo
    refine iff_of_true ?_ (by linarith)
    split
    case isTrue habove => linarith
    case isFalse => exact hx

/-- The result is not above the window. -/
theorem unwrap_le_iff (hturn : 0 ≤ turn) (hwidth : lo + turn = hi) :
    unwrap turn lo hi x ≤ hi ↔ x ≤ hi + turn := by
  unfold unwrap
  split
  case isTrue hbelow => exact iff_of_true (by linarith) (by linarith)
  case isFalse hlo =>
    split
    case isTrue habove => exact sub_le_iff_le_add
    case isFalse hhi =>
      have hx : x ≤ hi := not_lt.mp hhi
      exact iff_of_true hx (by linarith)

/-- From further above the result is one turn lower. -/
theorem unwrap_le (hturn : 0 ≤ turn) (hwidth : lo + turn = hi) :
    unwrap turn lo hi x ≤ max hi (x - turn) := by
  rcases le_total x (hi + turn) with hx | hx
  · exact le_max_of_le_left ((unwrap_le_iff hturn hwidth).mpr hx)
  · have hlo : ¬ x < lo := by linarith
    refine le_max_of_le_right ?_
    rw [unwrap, if_neg hlo]
    split
    case isTrue => exact le_refl _
    case isFalse hhi => linarith

end RoboRacer.Foundation
