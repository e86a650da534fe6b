import PoolPricing.StableSwap.Solver
set_option autoImplicit false

/-!
Liquidity of a stable pool: what a deposit mints and what a withdrawal in one token releases. The
part of either that moves the balances apart pays the trade fee.
-/

namespace PoolPricing.StableSwap

open Checked

structure Mint where
  amount : Int
  amountBeforeFees : Int
  fees : Int
  deriving DecidableEq, Repr

structure Withdrawal where
  amount : Int
  fee : Int
  deriving DecidableEq, Repr

/-- The fee on an amount by which a balance is off: half the trade fee, for two tokens. -/
def imbalanceFee (amount numerator denominator : Int) : Checked Int := do
  requireNonnegative "amount" amount
  if denominator ≤ 0 then refuse (.invalid (.notPositive "trade_fee_denominator"))
  floorDivide (amount * (numerator * 2 / 4)) denominator

/-- A new balance less the fee on its distance from the old balance scaled by `d1 / d0`. -/
def chargedBalance (numerator denominator d0 d1 old new : Int) : Checked Int := do
  let ideal ← floorDivide (d1 * old) d0
  let fee ← imbalanceFee (ideal - new).natAbs numerator denominator
  pure (new - fee)

def growth (amp reserveA reserveB depositA depositB : Int) : Run (Int × Int) := do
  let d0 ← invariant amp reserveA reserveB
  if d0 = 0 then throw (.outOfDomain .mintAgainstEmptyPool)
  let d1 ← invariant amp (reserveA + depositA) (reserveB + depositB)
  if d1 < d0 then throw .invariantDecreased
  pure (d0, d1)

/-- Pool tokens minted for a deposit: the supply grows as the invariant of the charged balances. -/
def mint (amp numerator denominator supply reserveA reserveB depositA depositB : Int) :
    Run Mint := do
  requireNonnegative "lp_total_supply" supply
  requireNonnegative "reserve_a" reserveA
  requireNonnegative "reserve_b" reserveB
  requireNonnegative "deposit_a" depositA
  requireNonnegative "deposit_b" depositB
  if depositA = 0 ∧ depositB = 0 then pure ⟨0, 0, 0⟩
  else
    let (d0, d1) ← growth amp reserveA reserveB depositA depositB
    let a ← chargedBalance numerator denominator d0 d1 reserveA (reserveA + depositA)
    let b ← chargedBalance numerator denominator d0 d1 reserveB (reserveB + depositB)
    let d2 ← invariant amp a b
    let amount ← floorDivide (supply * (d2 - d0)) d0
    let before ← floorDivide (supply * (d1 - d0)) d0
    pure ⟨amount, before, before - amount⟩

/-- What burning pool tokens would release without a fee: the reduced invariant, the base balance
that goes with the quote balance at it, and by how much either balance is off its share. -/
structure Release where
  invariant : Int
  left : Int
  base : Int
  quote : Int
  deriving DecidableEq, Repr

def release (amp supply baseReserve quoteReserve burned : Int) : Run Release := do
  let d0 ← invariant amp baseReserve quoteReserve
  let share ← floorDivide (burned * d0) supply
  let d1 := d0 - share
  let left ← balance amp quoteReserve d1
  let baseShare ← floorDivide (baseReserve * d1) d0
  let quoteShare ← floorDivide (quoteReserve * d1) d0
  let base := baseShare - left
  let quote := quoteReserve - quoteShare
  if base < 0 ∨ quote < 0 then throw (.outOfDomain .negativeExpectedWithdrawal)
  pure ⟨d1, left, base, quote⟩

def withdrawOne (amp numerator denominator supply baseReserve quoteReserve burned : Int) :
    Run Withdrawal := do
  requireNonnegative "lp_total_supply" supply
  requireNonnegative "base_reserve" baseReserve
  requireNonnegative "quote_reserve" quoteReserve
  requireNonnegative "pool_token_amount" burned
  if burned = 0 then pure ⟨0, 0⟩
  else
    if supply = 0 ∨ supply < burned then throw (.invalid .burnOutsideSupply)
    let expected ← release amp supply baseReserve quoteReserve burned
    let baseFee ← imbalanceFee expected.base numerator denominator
    let quoteFee ← imbalanceFee expected.quote numerator denominator
    let left ← balance amp (quoteReserve - quoteFee) expected.invariant
    let amount := baseReserve - baseFee - left
    if amount < 0 then throw (.outOfDomain .negativeWithdrawal)
    pure ⟨amount, baseReserve - expected.left - amount⟩

/-- The slope of the curve of invariant `d` in the present balances, a numerator over a denominator;
none where either is not positive. -/
def slope? (amp source destination d : Int) : Option (Int × Int) :=
  let a := amp * 16
  let c := d * 4 - d * amp * 16
  let numerator := (2 * a * source + a * destination + c) * destination
  let denominator := (a * source + 2 * a * destination + c) * source
  if denominator ≤ 0 ∨ numerator ≤ 0 then none else some (numerator, denominator)

def spotAmount (amp amount source destination d : Int) : Checked Int :=
  match slope? amp source destination d with
  | none => pure 0
  | some (numerator, denominator) => floorDivide (amount * numerator) denominator

end PoolPricing.StableSwap
