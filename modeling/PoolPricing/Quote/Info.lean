import PoolPricing.Quote.Position
set_option autoImplicit false

namespace PoolPricing

open Checked

/-- The virtual price is the invariant per pool token: as a fraction in hundred-millionths, and with
64 binary places. -/
structure PoolInfo where
  amountA : Int
  amountB : Int
  virtualPrice : Rat
  virtualPriceBinary : Int
  deriving DecidableEq

namespace PoolInfo

def priceScale : Int := 100000000

end PoolInfo

def Snapshot.info (snapshot : Snapshot) : Run PoolInfo := do
  let fresh ← snapshot.refreshed
  let a ← fresh.a.amount fresh.time
  let b ← fresh.b.amount fresh.time
  let d ← fresh.curve.invariant a b
  let supply : Int := fresh.lpSupply
  if supply = 0 then pure ⟨a, b, 0, 0⟩
  else
    let scaled ← floorDivide (d * PoolInfo.priceScale) supply
    let binary ← floorDivide (d * Int.pow 2 64) supply
    pure ⟨a, b, (scaled : Rat) / (PoolInfo.priceScale : Rat), binary⟩

end PoolPricing
