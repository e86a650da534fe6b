import PoolPricing.Quote.Position
set_option autoImplicit false

namespace PoolPricing

open Checked

structure WithdrawalQuote where
  burned : Int
  amountA : Int
  amountB : Int
  leastA : Int
  leastB : Int
  deriving DecidableEq, Repr

namespace Position

/-- What a side releases for its part of the pool tokens burned. -/
def release (position : Position) (burned lpSupply : Int) : Checked Int := do
  let shares ← Vault.shareOfAmount .down burned lpSupply position.shares
  Vault.amountOfShare .down shares position.withdrawable position.supply

end Position

namespace Snapshot

def admitBurn (snapshot : Snapshot) (burned : Int) : Checked Unit := do
  if burned ≤ 0 then refuse (.invalid (.notPositiveShown "lp_amount" (.whole burned)))
  if snapshot.lpSupply < burned then
    refuse (.invalid (.burnExceedsSupply (.whole burned) snapshot.lpSupply))

def balancedWithdrawal (lpSupply : Int) (a b : Position) (burned slippage : Int) :
    Checked WithdrawalQuote := do
  let amountA ← a.release burned lpSupply
  let amountB ← b.release burned lpSupply
  let leastA ← Slippage.least amountA slippage
  let leastB ← Slippage.least amountB slippage
  pure ⟨burned, amountA, amountB, leastA, leastB⟩

/-- A withdrawal of everything in one mint: the direction is that of a swap paying the mint out. -/
def singleWithdrawal (fresh : Snapshot) (a b : Position) (burned slippage : Int) (mint : String) :
    Run WithdrawalQuote := do
  let paidIn ← fresh.directionOf mint
  let direction := paidIn.reverse
  let out ← fresh.curve.withdrawOne fresh.fees direction burned fresh.lpSupply a.amount b.amount
  let paid ← (direction.destination a b).payout out
  let least ← Slippage.least paid slippage
  pure (match paidIn with
    | .aToB => ⟨burned, paid, 0, least, 0⟩
    | .bToA => ⟨burned, 0, paid, 0, least⟩)

def withdrawalQuote (snapshot : Snapshot) (burned slippage : Int) (mint : Option String) :
    Run WithdrawalQuote := do
  snapshot.admitBurn burned
  let fresh ← snapshot.refreshed
  let (a, b) ← fresh.positions
  match mint with
  | none => balancedWithdrawal fresh.lpSupply a b burned slippage
  | some mint => fresh.singleWithdrawal a b burned slippage mint

end Snapshot
end PoolPricing
