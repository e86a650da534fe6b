import PoolPricing.Quote.Position
set_option autoImplicit false

namespace PoolPricing

open Checked

structure DepositQuote where
  minted : Int
  leastMinted : Int
  amountA : Int
  amountB : Int
  deriving DecidableEq, Repr

namespace DepositQuote

/-- A balanced deposit is quoted 99.8 per cent of its share. -/
def buffered (minted : Int) : Int := minted * 998 / 1000

end DepositQuote

namespace Position

/-- What a side has to supply so that its shares grow as the pool tokens do. -/
def amountForMint (position : Position) (minted lpSupply : Int) : Checked Int := do
  let shares ← Vault.shareOfAmount .up minted lpSupply position.shares
  Vault.amountOfShare .up shares position.withdrawable position.supply

end Position

namespace Snapshot

def admitDeposit (amountA amountB : Int) (balanced : Bool) : Checked Unit := do
  if amountA < 0 ∨ amountB < 0 then refuse (.invalid (.negative "deposit amounts"))
  if amountA = 0 ∧ amountB = 0 then refuse (.invalid .noDeposit)
  if balanced ∧ 0 < amountA ∧ 0 < amountB then refuse (.invalid .balancedNeedsOneSide)

def firstDeposit (curve : Curve) (amountA amountB slippage : Int) : Run DepositQuote := do
  let d ← curve.invariant amountA amountB
  let minted ← Word.ofResult "pool token amount" d
  let least ← Slippage.least minted slippage
  pure ⟨minted, least, amountA, amountB⟩

def balancedShare (a b : Position) (amountA amountB lpSupply : Int) : Checked Int := do
  let minted ←
    if 0 < amountA then Vault.shareOfAmount .down amountA a.amount lpSupply
    else Vault.shareOfAmount .down amountB b.amount lpSupply
  if minted = 0 then refuse (.tooSmall .depositMintsNothing)
  pure minted

def balancedStable (a b : Position) (amountA amountB share slippage : Int) :
    Checked DepositQuote := do
  let (amountA, amountB) ←
    if 0 < amountA then do
      let other ← floorDivide (amountA * b.amount) a.amount
      pure (amountA, other)
    else do
      let other ← floorDivide (amountB * a.amount) b.amount
      pure (other, amountB)
  let minted := DepositQuote.buffered share
  let least ← Slippage.least minted slippage
  pure ⟨minted, least, amountA, amountB⟩

/-- A balanced deposit into a constant product pool: both amounts are what the pool tokens need,
with slippage on top. -/
def balancedConstantProduct (a b : Position) (lpSupply share slippage : Int) :
    Checked DepositQuote := do
  let needA ← a.amountForMint share lpSupply
  let needB ← b.amountForMint share lpSupply
  let minted := DepositQuote.buffered share
  let amountA ← Slippage.greatest needA slippage
  let amountB ← Slippage.greatest needB slippage
  pure ⟨minted, minted, amountA, amountB⟩

/-- A deposit in any proportion, priced on what the pool gains of it. -/
def unbalancedDeposit (fresh : Snapshot) (a b : Position) (amountA amountB slippage : Int) :
    Run DepositQuote := do
  let gainA ← a.gain amountA
  let gainB ← b.gain amountB
  let minted ← fresh.curve.mintForDeposit fresh.fees gainA gainB a.amount b.amount fresh.lpSupply
  let least ← Slippage.least minted slippage
  pure ⟨minted, least, amountA, amountB⟩

def depositQuote (snapshot : Snapshot) (amountA amountB : Int) (balanced : Bool) (slippage : Int) :
    Run DepositQuote := do
  admitDeposit amountA amountB balanced
  let fresh ← snapshot.refreshed
  let lpSupply : Int := fresh.lpSupply
  if lpSupply = 0 then firstDeposit fresh.curve amountA amountB slippage
  else
    let (a, b) ← fresh.positions
    if balanced then
      let share ← balancedShare a b amountA amountB lpSupply
      if fresh.curve.isStable then balancedStable a b amountA amountB share slippage
      else balancedConstantProduct a b lpSupply share slippage
    else fresh.unbalancedDeposit a b amountA amountB slippage

end Snapshot
end PoolPricing
