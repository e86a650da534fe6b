import PoolPricing.ConstantProduct
import PoolPricing.Curve.Stable
set_option autoImplicit false

namespace PoolPricing

inductive Curve where
  | constantProduct
  | stable (curve : StableCurve)
  deriving DecidableEq, Repr

namespace Curve

def isStable : Curve → Bool
  | .constantProduct => false
  | .stable _ => true

def label : Curve → String
  | .constantProduct => "ConstantProductCurve"
  | .stable _ => "StableSwapCurve"

def depeg? : Curve → Option Depeg.State
  | .constantProduct => none
  | .stable curve => some curve.depeg

def amountOut (curve : Curve) (direction : Direction) (amount source destination : Int) :
    Run Int :=
  match curve with
  | .constantProduct => do
    let trade ← ConstantProduct.swap amount source destination
    pure trade.received
  | .stable curve => curve.amountOut direction amount source destination

def amountIn (curve : Curve) (direction : Direction) (out source destination : Int) : Run Int :=
  match curve with
  | .constantProduct => Run.lift (ConstantProduct.amountFor out source destination)
  | .stable curve => curve.amountIn direction out source destination

def spotAmountOut (curve : Curve) (direction : Direction) (amount source destination : Int) :
    Run Int :=
  match curve with
  | .constantProduct => Run.lift (ConstantProduct.spotAmount amount source destination)
  | .stable curve => curve.spotAmountOut direction amount source destination

def invariant (curve : Curve) (a b : Int) : Run Int :=
  match curve with
  | .constantProduct => Run.lift (ConstantProduct.invariant a b)
  | .stable curve => curve.invariant a b

def mintForDeposit (curve : Curve) (fees : Fees)
    (depositA depositB reserveA reserveB supply : Int) : Run Int :=
  match curve with
  | .constantProduct => throw (.unsupported .imbalanceDeposit)
  | .stable curve => curve.mintForDeposit fees depositA depositB reserveA reserveB supply

def withdrawOne (curve : Curve) (fees : Fees) (direction : Direction)
    (burned supply reserveA reserveB : Int) : Run Int :=
  match curve with
  | .constantProduct => throw (.unsupported .singleSideWithdrawal)
  | .stable curve => curve.withdrawOne fees direction burned supply reserveA reserveB

def refresh (curve : Curve) (now : Int) (account : Option Depeg.Bytes) : Run Curve :=
  match curve with
  | .constantProduct => pure .constantProduct
  | .stable curve => do
    let refreshed ← curve.refresh now account
    pure (.stable refreshed)

/-- The part of the spot output that a swap misses, zero where it misses nothing. -/
def shortfall (spot actual : Int) : Rat :=
  if spot ≤ 0 ∨ spot ≤ actual then 0 else ((spot - actual : Int) : Rat) / (spot : Rat)

/-- By how much a swap of this size moves the price against the trader. -/
def priceImpact (curve : Curve) (direction : Direction)
    (amount source destination actual : Int) : Run Rat := do
  let spot ← curve.spotAmountOut direction amount source destination
  pure (shortfall spot actual)

end Curve
end PoolPricing
