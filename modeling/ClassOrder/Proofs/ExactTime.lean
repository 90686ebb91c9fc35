import ClassOrder.Timeline
import Mathlib.Algebra.Order.Ring.Rat
import Mathlib.Tactic.Linarith

/-!
# Exact times

Rational numbers as times.  Sums and differences of them are what arithmetic says, so what is
proved of a deadline holds of the very moment.
-/

namespace ClassOrder

instance Timeline.instRat : Timeline ℚ where
  general := toString

@[simp] theorem Timeline.fits_rat (t : ℚ) : Timeline.fits t = true := rfl

@[simp] theorem Timeline.refusal?_rat (t : ℚ) : Timeline.refusal? t = none := rfl

end ClassOrder
