import PoolPricing.Curve.Scale
import PoolPricing.Fees
import PoolPricing.StableSwap.Liquidity
set_option autoImplicit false

namespace PoolPricing.StableCurve

open Checked

def upscalePair (curve : StableCurve) (direction : Direction) (source destination : Int) :
    Checked (Int × Int) := do
  let x ← curve.upscaleSource direction source
  let y ← curve.upscaleDestination direction destination
  pure (x, y)

/-- The output for an exact input, one unit being kept back. -/
def amountOut (curve : StableCurve) (direction : Direction) (amount source destination : Int) :
    Run Int := do
  let (x, y) ← curve.upscalePair direction source destination
  let paid ← curve.upscaleSource direction amount
  let d ← StableSwap.invariant curve.amp x y
  let left ← StableSwap.balance curve.amp (x + paid) d
  let out ← curve.downscaleDestination direction (y - left - 1)
  if out ≤ 0 then throw (.tooSmall .swapIsZero)
  pure out

def amountIn (curve : StableCurve) (direction : Direction) (out source destination : Int) :
    Run Int := do
  let (x, y) ← curve.upscalePair direction source destination
  let taken ← curve.upscaleDestination direction out
  if y ≤ taken then throw (.tooSmall .drainsDestination)
  let d ← StableSwap.invariant curve.amp x y
  let needed ← StableSwap.balance curve.amp (y - taken) d
  let amount ← curve.downscaleSource direction (needed - x)
  if amount ≤ 0 then throw (.tooSmall .swapIsZero)
  pure amount

def spotAmountOut (curve : StableCurve) (direction : Direction)
    (amount source destination : Int) : Run Int := do
  let (x, y) ← curve.upscalePair direction source destination
  if x = 0 ∨ y = 0 then pure 0
  else
    let paid ← curve.upscaleSource direction amount
    let d ← StableSwap.invariant curve.amp x y
    let spot ← StableSwap.spotAmount curve.amp paid x y d
    curve.downscaleDestination direction spot

/-- The invariant, in units of A and B where the pool is depegged. -/
def invariant (curve : StableCurve) (a b : Int) : Run Int := do
  let y ← curve.upscaleB b
  let d ← StableSwap.invariant curve.amp (curve.upscaleA a) y
  pure (d / curve.priceFactorA)

def mintForDeposit (curve : StableCurve) (fees : Fees)
    (depositA depositB reserveA reserveB supply : Int) : Run Int := do
  let y ← curve.upscaleB reserveB
  let paidB ← curve.upscaleB depositB
  let minted ← StableSwap.mint curve.amp fees.tradeNumerator fees.tradeDenominator supply
    (curve.upscaleA reserveA) y (curve.upscaleA depositA) paidB
  pure minted.amount

/-- What burning pool tokens releases in the token that `direction` pays out. -/
def withdrawOne (curve : StableCurve) (fees : Fees) (direction : Direction)
    (burned supply reserveA reserveB : Int) : Run Int := do
  let y ← curve.upscaleB reserveB
  let x := curve.upscaleA reserveA
  let released ← StableSwap.withdrawOne curve.amp fees.tradeNumerator fees.tradeDenominator supply
    (direction.destination x y) (direction.source x y) burned
  curve.downscaleDestination direction released.amount

def refresh (curve : StableCurve) (now : Int) (account : Option Depeg.Bytes) :
    Run StableCurve := do
  let depeg ← curve.depeg.refresh now account
  pure { curve with depeg }

end PoolPricing.StableCurve
