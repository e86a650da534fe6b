import PoolPricing.ConstantProduct
import PoolPricing.StableSwap.Liquidity
import PoolPricing.Untyped.Numbers
set_option autoImplicit false

namespace PoolPricing.Untyped

open Checked
open Document (Value)

namespace ConstantProduct

def divideUp (n d : Value) : Checked ConstantProduct.Ceiling := do
  let n ← n.whole "numerator"
  let d ← d.whole "divisor"
  PoolPricing.ConstantProduct.divideUp n d

def swap (amount source destination : Value) : Checked ConstantProduct.Trade := do
  let amount ← amount.count "source_amount"
  let source ← source.count "swap_source_amount"
  let destination ← destination.count "swap_destination_amount"
  PoolPricing.ConstantProduct.swap amount source destination

def amountFor (out source destination : Value) : Checked Int := do
  let out ← out.count "destination_amount"
  let source ← source.count "swap_source_amount"
  let destination ← destination.count "swap_destination_amount"
  PoolPricing.ConstantProduct.amountFor out source destination

def spotAmount (amount source destination : Value) : Checked Quantity :=
  if isZero source then pure (.whole 0)
  else
    match integral? amount, integrals? source destination with
    | some amount, some (source, destination) =>
      Quantity.whole <$> PoolPricing.ConstantProduct.spotAmount amount source destination
    | _, _ => do
      let amount ← quantity amount
      let destination ← quantity destination
      let product ← amount.times destination
      let source ← quantity source
      product.floorDivide source

def invariant (a b : Value) : Checked Int := do
  let a ← a.whole "token_a_amount"
  let b ← b.whole "token_b_amount"
  PoolPricing.ConstantProduct.invariant a b

end ConstantProduct

namespace StableSwap

def invariant (amp a b : Value) : Run Int := do
  let amp ← amp.count "amp"
  let a ← a.count "amount_a"
  let b ← b.count "amount_b"
  PoolPricing.StableSwap.invariant amp a b

def balance (amp x d : Value) : Run Int := do
  let amp ← amp.count "amp"
  let x ← x.count "x"
  let d ← d.count "d"
  PoolPricing.StableSwap.balance amp x d

def feeAtRate (amount : Int) (numerator denominator : Value) : Checked Quantity := do
  requireNonnegative "amount" amount
  let denominator ← quantity denominator
  if denominator.isAtMost (.whole 0) then
    refuse (.invalid (.notPositive "trade_fee_denominator"))
  let numerator ← quantity numerator
  let doubled ← numerator.times (.whole 2)
  let halved ← doubled.floorDivide (.whole 4)
  let product ← (Quantity.whole amount).times halved
  product.floorDivide denominator

def imbalanceFee (amount numerator denominator : Value) : Checked Quantity := do
  let amount ← amount.count "amount"
  match integrals? numerator denominator with
  | some (numerator, denominator) =>
    Quantity.whole <$> PoolPricing.StableSwap.imbalanceFee amount numerator denominator
  | none => feeAtRate amount numerator denominator

def chargeAtRate (balance off : Int) (numerator denominator : Value) : Checked Quantity := do
  let fee ← feeAtRate off numerator denominator
  (Quantity.whole balance).minus fee

def mintAtRate (amp : Int) (numerator denominator : Value)
    (reserveA reserveB depositA depositB : Int) : Run StableSwap.Mint := do
  let (d0, d1) ← PoolPricing.StableSwap.growth amp reserveA reserveB depositA depositB
  let idealA ← floorDivide (d1 * reserveA) d0
  discard (chargeAtRate (reserveA + depositA) (idealA - (reserveA + depositA)).natAbs numerator
    denominator)
  let idealB ← floorDivide (d1 * reserveB) d0
  discard (chargeAtRate (reserveB + depositB) (idealB - (reserveB + depositB)).natAbs numerator
    denominator)
  throw (.mistyped "amount_a" .integer)

/-- The amplification and the fee are looked at only where an invariant has to be computed. -/
def mint (amp numerator denominator supply reserveA reserveB depositA depositB : Value) :
    Run StableSwap.Mint := do
  let supply ← supply.count "lp_total_supply"
  let reserveA ← reserveA.count "reserve_a"
  let reserveB ← reserveB.count "reserve_b"
  let depositA ← depositA.count "deposit_a"
  let depositB ← depositB.count "deposit_b"
  if depositA = 0 ∧ depositB = 0 then pure ⟨0, 0, 0⟩
  else
    let amp ← amp.count "amp"
    match integrals? numerator denominator with
    | some (numerator, denominator) =>
      PoolPricing.StableSwap.mint amp numerator denominator supply reserveA reserveB depositA
        depositB
    | none => mintAtRate amp numerator denominator reserveA reserveB depositA depositB

def withdrawAtRate (amp : Int) (numerator denominator : Value)
    (supply baseReserve quoteReserve burned : Int) : Run StableSwap.Withdrawal := do
  let expected ← PoolPricing.StableSwap.release amp supply baseReserve quoteReserve burned
  discard (chargeAtRate baseReserve expected.base numerator denominator)
  discard (chargeAtRate quoteReserve expected.quote numerator denominator)
  throw (.mistyped "x" .integer)

def withdrawOne (amp numerator denominator supply baseReserve quoteReserve burned : Value) :
    Run StableSwap.Withdrawal := do
  let supply ← supply.count "lp_total_supply"
  let baseReserve ← baseReserve.count "base_reserve"
  let quoteReserve ← quoteReserve.count "quote_reserve"
  let burned ← burned.count "pool_token_amount"
  if burned = 0 then pure ⟨0, 0⟩
  else
    if supply = 0 ∨ supply < burned then throw (.invalid .burnOutsideSupply)
    let amp ← amp.count "amp"
    match integrals? numerator denominator with
    | some (numerator, denominator) =>
      PoolPricing.StableSwap.withdrawOne amp numerator denominator supply baseReserve quoteReserve
        burned
    | none => withdrawAtRate amp numerator denominator supply baseReserve quoteReserve burned

def weighted (p x q y r z : Quantity) : Checked Quantity := do
  let first ← p.times x
  let second ← q.times y
  let sum ← first.plus second
  let sum ← sum.plus r
  sum.times z

def slope? (amp source destination d : Quantity) : Checked (Option (Quantity × Quantity)) := do
  let a ← amp.times (.whole 16)
  let few ← d.times (.whole 4)
  let product ← d.times amp
  let many ← product.times (.whole 16)
  let c ← few.minus many
  let twice ← (Quantity.whole 2).times a
  let numerator ← weighted twice source a destination c destination
  let denominator ← weighted a source twice destination c source
  if denominator.isAtMost (.whole 0) || numerator.isAtMost (.whole 0) then pure none
  else pure (some (numerator, denominator))

def spotAmount (amp amount source destination d : Value) : Checked Quantity := do
  match integral? amount, integrals? amp d, integrals? source destination with
  | some amount, some (amp, d), some (source, destination) =>
    Quantity.whole <$> PoolPricing.StableSwap.spotAmount amp amount source destination d
  | _, _, _ => do
    let amp ← quantity amp
    let source ← quantity source
    let destination ← quantity destination
    let d ← quantity d
    match ← slope? amp source destination d with
    | none => pure (.whole 0)
    | some (numerator, denominator) => do
      let amount ← quantity amount
      let product ← amount.times numerator
      product.floorDivide denominator

end StableSwap
end PoolPricing.Untyped
