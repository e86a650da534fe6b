import PoolPricing.Number.Binary64
import Mathlib.Algebra.Order.Field.Basic
import Mathlib.Algebra.Order.Field.Power
import Mathlib.Algebra.Order.Field.Rat
import Mathlib.Tactic.Linarith
import Mathlib.Tactic.NormNum
import Mathlib.Tactic.Positivity
import Mathlib.Tactic.Ring
set_option autoImplicit false

/-!
The range of binary numbers. A fraction has no nearest one just where it is half a unit past the
greatest of them or more (`Binary64.ofRat?_eq_none_iff`): the greatest has an odd significand, so
what is half way is rounded away from it.
-/

namespace PoolPricing.Number

namespace Binary64

/-- Half a unit past the greatest number, `(2 ^ 53 - 1) * 2 ^ 971`. -/
def limit : Rat := (2 ^ 54 - 1) * 2 ^ (970 : Int)

theorem two_pow_le_limit : (2 : Rat) ^ (1023 : Int) ≤ limit := by
  rw [limit, show (1023 : Int) = 53 + 970 by norm_num, zpow_add₀ two_ne_zero]
  gcongr
  norm_num

end Binary64
end PoolPricing.Number
