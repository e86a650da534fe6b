import PoolPricing.Snapshot
set_option autoImplicit false

namespace PoolPricing

open Checked

structure Position where
  amount : Int
  shares : Int
  supply : Int
  withdrawable : Int
  reserve : Int
  deriving DecidableEq, Repr

def Holding.position (holding : Holding) (now : Int) : Checked Position := do
  let amount ← holding.amount now
  let withdrawable ← holding.withdrawable now
  pure ⟨amount, holding.shares, holding.supply, withdrawable, holding.reserve⟩

namespace Position

/-- What can be paid out: the pool's own tokens as far as they are at hand. -/
def payable (position : Position) : Int := min position.amount position.reserve

/-- What the pool gains by depositing into this vault. -/
def gain (position : Position) (deposit : Int) : Checked Int :=
  Vault.gainOfDeposit deposit position.amount position.shares position.supply
    position.withdrawable

def payout (position : Position) (amount : Int) : Checked Int := do
  let burned ← Vault.sharesToBurn amount position.withdrawable position.supply
  Vault.amountOfShare .down burned position.withdrawable position.supply

end Position

namespace Snapshot

def positionA (snapshot : Snapshot) : Checked Position := snapshot.a.position snapshot.time

def positionB (snapshot : Snapshot) : Checked Position := snapshot.b.position snapshot.time

def positions (snapshot : Snapshot) : Checked (Position × Position) := do
  let a ← snapshot.positionA
  let b ← snapshot.positionB
  pure (a, b)

def greatestOut (snapshot : Snapshot) (mint : String) : Checked Int := do
  let direction ← snapshot.directionOf mint
  let position ← direction.source snapshot.positionA snapshot.positionB
  pure position.payable

/-- About the most that the pool can take in in a mint: the price of the most it can pay out in the
other, less fees. -/
def greatestIn (snapshot : Snapshot) (mint : String) : Run Int := do
  let fresh ← snapshot.refreshed
  let direction ← fresh.directionOf mint
  let (a, b) ← fresh.positions
  let source := direction.source a b
  let destination := direction.destination a b
  let payable := destination.payable
  let out := if payable = destination.amount then payable - 1 else payable
  if out ≤ 0 then pure 0
  else
    let amount ← fresh.curve.amountIn direction out source.amount destination.amount
    let split ← fresh.fees.split amount
    pure split.net

end Snapshot
end PoolPricing
