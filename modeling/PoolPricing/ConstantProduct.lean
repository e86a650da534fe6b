import PoolPricing.Checked
import PoolPricing.Number.Root
set_option autoImplicit false

namespace PoolPricing.ConstantProduct

open Checked

/-- A quotient rounded up, and the least divisor that has this quotient. -/
structure Ceiling where
  quotient : Int
  divisor : Int
  deriving DecidableEq, Repr

structure Trade where
  paid : Int
  received : Int
  newSource : Int
  newDestination : Int
  deriving DecidableEq, Repr

def divideUp (n d : Int) : Checked Ceiling := do
  if n < 0 then refuse (.invalid (.negative "numerator"))
  if d ≤ 0 then refuse (.invalid (.notPositive "divisor"))
  let quotient := n / d
  if quotient = 0 then refuse (.tooSmall .ceilingIsZero)
  if n % d = 0 then pure ⟨quotient, d⟩
  else
    let quotient := quotient + 1
    let tightened ← floorDivide n quotient
    pure ⟨quotient, if n % quotient = 0 then tightened else tightened + 1⟩

/-- Swaps an exact input; the balance left on the other side is `k / (x + dx)` rounded up. -/
def swap (amount source destination : Int) : Checked Trade := do
  requireNonnegative "source_amount" amount
  requireNonnegative "swap_source_amount" source
  requireNonnegative "swap_destination_amount" destination
  if source + amount = 0 then refuse (.tooSmall .emptySource)
  let left ← divideUp (source * destination) (source + amount)
  let received := destination - left.quotient
  if received ≤ 0 then refuse (.tooSmall .swapIsZero)
  pure ⟨amount, received, source + amount, left.quotient⟩

def amountFor (out source destination : Int) : Checked Int := do
  requireNonnegative "destination_amount" out
  requireNonnegative "swap_source_amount" source
  requireNonnegative "swap_destination_amount" destination
  if destination ≤ out then refuse (.tooSmall .drainsDestination)
  let needed ← divideUp (source * destination) (destination - out)
  let amount := needed.quotient - source
  if amount ≤ 0 then refuse (.tooSmall .swapIsZero)
  pure amount

/-- The output at the price of an infinitely small swap. -/
def spotAmount (amount source destination : Int) : Checked Int :=
  if source = 0 then pure 0 else floorDivide (amount * destination) source

def invariant (a b : Int) : Checked Int := do
  if a < 0 ∨ b < 0 then refuse (.invalid (.negative "amounts"))
  pure (Number.root (a * b).toNat)

end PoolPricing.ConstantProduct
