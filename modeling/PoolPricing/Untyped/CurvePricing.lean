import PoolPricing.Curve.Pricing
import PoolPricing.Untyped.Pricing
import PoolPricing.Untyped.Scaled
set_option autoImplicit false

namespace PoolPricing.Untyped

open Checked
open Document (Value)

def requireCurve : Option Curve → Checked Curve
  | some curve => pure curve
  | none => refuse (.unsupported (.curve "object"))

def refuseAmountOut (curve : StableCurve) (direction : Direction)
    (amount source destination : Value) : Run Int := do
  let x ← upscaleSource curve direction source
  let y ← upscaleDestination curve direction destination
  let paid ← upscaleSource curve direction amount
  let a ← x.count "amount_a"
  let b ← y.count "amount_b"
  discard (PoolPricing.StableSwap.invariant curve.amp a b)
  let paid ← paid.quantity
  discard ((Quantity.whole a).plus paid)
  throw (.mistyped "x" .integer)

def amountOut (curve : Curve) (direction : Direction) (amount source destination : Value) :
    Run Int :=
  match curve with
  | .constantProduct => do
    let trade ← ConstantProduct.swap amount source destination
    pure trade.received
  | .stable curve =>
    match integral? amount, integrals? source destination with
    | some amount, some (source, destination) =>
      curve.amountOut direction amount source destination
    | _, _ => refuseAmountOut curve direction amount source destination

def refuseAmountIn (curve : StableCurve) (direction : Direction)
    (out source destination : Value) : Run Int := do
  let x ← upscaleSource curve direction source
  let y ← upscaleDestination curve direction destination
  let taken ← upscaleDestination curve direction out
  if ← taken.isAtLeast y then throw (.tooSmall .drainsDestination)
  let a ← x.count "amount_a"
  let b ← y.count "amount_b"
  discard (PoolPricing.StableSwap.invariant curve.amp a b)
  let taken ← taken.quantity
  discard ((Quantity.whole b).minus taken)
  throw (.mistyped "x" .integer)

def amountIn (curve : Curve) (direction : Direction) (out source destination : Value) : Run Int :=
  match curve with
  | .constantProduct => Run.lift (ConstantProduct.amountFor out source destination)
  | .stable curve =>
    match integral? out, integrals? source destination with
    | some out, some (source, destination) => curve.amountIn direction out source destination
    | _, _ => refuseAmountIn curve direction out source destination

/-- A spot output for amounts that are not all whole. An empty balance is noticed first, and the
amount is looked at only where the curve has a slope. -/
def spotAmountAny (curve : StableCurve) (direction : Direction)
    (amount source destination : Value) : Run Quantity := do
  let x ← upscaleSource curve direction source
  let y ← upscaleDestination curve direction destination
  if x.isZero || y.isZero then pure (.whole 0)
  else
    let paid ← upscaleSource curve direction amount
    let a ← x.count "amount_a"
    let b ← y.count "amount_b"
    let d ← PoolPricing.StableSwap.invariant curve.amp a b
    match PoolPricing.StableSwap.slope? curve.amp a b d with
    | none => downscaleDestination curve direction (.whole 0)
    | some (numerator, denominator) => do
      let paid ← paid.quantity
      let product ← paid.times (.whole numerator)
      let spot ← product.floorDivide (.whole denominator)
      downscaleDestination curve direction spot

def spotAmountOut (curve : Curve) (direction : Direction) (amount source destination : Value) :
    Run Quantity :=
  match curve with
  | .constantProduct => Run.lift (ConstantProduct.spotAmount amount source destination)
  | .stable curve =>
    match integral? amount, integrals? source destination with
    | some amount, some (source, destination) =>
      Quantity.whole <$> curve.spotAmountOut direction amount source destination
    | _, _ => spotAmountAny curve direction amount source destination

def shortfall (spot : Quantity) (actual : Value) : Checked Rat :=
  if spot.isAtMost (.whole 0) then pure 0
  else do
    let actual ← quantity actual
    if spot.isAtMost actual then pure 0
    else
      match spot, actual with
      | .whole spot, .whole actual => pure (Curve.shortfall spot actual)
      | spot, actual => do
        discard (spot.minus actual)
        refuse (.unusable .kind)

def shortfallOf (spot actual : Value) : Checked Rat := do
  let spot ← quantity spot
  shortfall spot actual

def priceImpact (curve : Curve) (direction : Direction)
    (amount source destination actual : Value) : Run Rat := do
  let spot ← spotAmountOut curve direction amount source destination
  shortfall spot actual

def refuseInvariant (curve : StableCurve) (a b : Value) : Run Int := do
  let a ← upscaleA curve a
  let b ← upscaleB curve b
  discard (a.count "amount_a")
  discard (b.count "amount_b")
  throw (.unusable .kind)

def curveInvariant (curve : Curve) (a b : Value) : Run Int :=
  match curve with
  | .constantProduct => Run.lift (ConstantProduct.invariant a b)
  | .stable curve =>
    match integrals? a b with
    | some (a, b) => curve.invariant a b
    | none => refuseInvariant curve a b

def refuseMint (curve : StableCurve) (depositA depositB reserveA reserveB supply : Value) :
    Run Int := do
  let reserveA ← upscaleA curve reserveA
  let reserveB ← upscaleB curve reserveB
  let depositA ← upscaleA curve depositA
  let depositB ← upscaleB curve depositB
  discard (supply.count "lp_total_supply")
  discard (reserveA.count "reserve_a")
  discard (reserveB.count "reserve_b")
  discard (depositA.count "deposit_a")
  discard (depositB.count "deposit_b")
  throw (.unusable .kind)

def mintForDeposit (curve : Curve) (fees : Fees)
    (depositA depositB reserveA reserveB supply : Value) : Run Int :=
  match curve with
  | .constantProduct => throw (.unsupported .imbalanceDeposit)
  | .stable curve =>
    match integrals? depositA depositB, integrals? reserveA reserveB, supply with
    | some (depositA, depositB), some (reserveA, reserveB), .integer supply =>
      curve.mintForDeposit fees depositA depositB reserveA reserveB supply
    | _, _, _ => refuseMint curve depositA depositB reserveA reserveB supply

def refuseWithdrawal (curve : StableCurve) (direction : Direction)
    (burned supply reserveA reserveB : Value) : Run Int := do
  let reserveA ← upscaleA curve reserveA
  let reserveB ← upscaleB curve reserveB
  discard (supply.count "lp_total_supply")
  discard ((direction.destination reserveA reserveB).count "base_reserve")
  discard ((direction.source reserveA reserveB).count "quote_reserve")
  discard (burned.count "pool_token_amount")
  throw (.unusable .kind)

def withdrawOne (curve : Curve) (fees : Fees) (direction : Direction)
    (burned supply reserveA reserveB : Value) : Run Int :=
  match curve with
  | .constantProduct => throw (.unsupported .singleSideWithdrawal)
  | .stable curve =>
    match burned, supply, integrals? reserveA reserveB with
    | .integer burned, .integer supply, some (reserveA, reserveB) =>
      curve.withdrawOne fees direction burned supply reserveA reserveB
    | burned, supply, _ => refuseWithdrawal curve direction burned supply reserveA reserveB

end PoolPricing.Untyped
