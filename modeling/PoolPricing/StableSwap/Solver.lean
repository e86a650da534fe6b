import PoolPricing.Run
set_option autoImplicit false

/-!
The two Newton solvers of the two-token stable curve. With `Ann = 2 * amp`, the invariant `D` of the
balances `x` and `y` solves `4 * x * y * (Ann * (x + y) - (Ann - 1) * D) = D ^ 3`. Both solvers work
in whole numbers, rounding every quotient down, and stop once two iterates differ by at most one or
after `maxSteps` steps; in the latter case the last iterate stands and an event is noted.
-/

namespace PoolPricing.StableSwap

open Checked

def maxSteps : Nat := 20

/-- Where an iteration stopped, and whether its last two iterates were close. -/
structure Solution where
  value : Int
  converged : Bool
  deriving DecidableEq, Repr

def close (previous current : Int) : Bool := (current - previous).natAbs ≤ 1

/-- At most so many steps from `current`, the iterate after `previous`. -/
def iterate (step : Int → Checked Int) : Nat → Int → Int → Checked Solution
  | 0, previous, current => pure ⟨current, close previous current⟩
  | steps + 1, previous, current =>
    if close previous current then pure ⟨current, true⟩
    else do
      let next ← step current
      iterate step steps current next

/-- `D ^ 3 / (4 * a * b)`, rounded down twice. -/
def invariantProduct (a b d : Int) : Checked Int := do
  let once ← floorDivide (d * d) (2 * a)
  floorDivide (once * d) (2 * b)

def invariantStep (amp a b d : Int) : Checked Int := do
  let product ← invariantProduct a b d
  let ann := 2 * amp
  floorDivide (d * (ann * (a + b) + 2 * product)) (d * (ann - 1) + 3 * product)

def solveInvariant (amp a b : Int) : Checked Solution := do
  requireNonnegative "amp" amp
  requireNonnegative "amount_a" a
  requireNonnegative "amount_b" b
  if amp = 0 then refuse (.invalid (.notPositive "amp"))
  if a + b = 0 then pure ⟨0, true⟩
  else
    if a = 0 ∨ b = 0 then refuse (.outOfDomain .invariantNeedsBothBalances)
    iterate (invariantStep amp a b) maxSteps 0 (a + b)

def balanceStep (linear constant y : Int) : Checked Int :=
  if 2 * y + linear ≤ 0 then refuse (.outOfDomain .balanceDenominator)
  else floorDivide (y * y + constant) (2 * y + linear)

def solveBalance (amp x d : Int) : Checked Solution := do
  requireNonnegative "amp" amp
  requireNonnegative "x" x
  requireNonnegative "d" d
  if amp = 0 then refuse (.invalid (.notPositive "amp"))
  if x = 0 then refuse (.outOfDomain .balanceNeedsPositiveOther)
  let ann := 2 * amp
  let share ← floorDivide d ann
  let constant ← floorDivide (d * d * d) (2 * (2 * (x * ann)))
  iterate (balanceStep (x + share - d) constant) maxSteps 0 d

/-- A solution's value, an event being noted if it did not converge. -/
def report (solver : Solver) (solution : Solution) : Run Int := do
  unless solution.converged do Run.note (.unconverged solver)
  pure solution.value

def invariant (amp a b : Int) : Run Int := do
  report .invariant (← solveInvariant amp a b)

def balance (amp x d : Int) : Run Int := do
  report .balance (← solveBalance amp x d)

end PoolPricing.StableSwap
