import PoolPricing.Quote.Position
set_option autoImplicit false

namespace PoolPricing

open Checked

structure SwapQuote where
  amountIn : Int
  amountOut : Int
  leastOut : Int
  fee : Int
  priceImpact : Rat
  deriving DecidableEq

namespace Snapshot

def admitSwap (snapshot : Snapshot) (mint : String) : Checked Direction := do
  unless snapshot.enabled do refuse (.closed .disabled)
  unless snapshot.isActivated do
    refuse (.closed (.notActivated snapshot.clock snapshot.opens snapshot.point))
  snapshot.directionOf mint

/-- What of an input reaches the curve, after fees and the vault's rounding. -/
def vaultedInput (source : Position) (net : Int) : Checked Int := do
  let gain ← source.gain net
  if gain ≤ 0 then refuse (.tooSmall .inputLost)
  pure gain

/-- What of the curve's output reaches the trader. -/
def vaultedOutput (destination : Position) (out : Int) : Checked Int := do
  let paid ← destination.payout out
  if paid ≤ 0 then refuse (.tooSmall .outputLost)
  if destination.payable ≤ paid then refuse (.insufficientLiquidity paid destination.payable)
  pure paid

def swapQuote (snapshot : Snapshot) (mint : String) (amount slippage : Int) : Run SwapQuote := do
  let direction ← snapshot.admitSwap mint
  if amount ≤ 0 then throw (.tooSmall (.inputNotPositive (.whole amount)))
  let fresh ← snapshot.refreshed
  let (a, b) ← fresh.positions
  let source := direction.source a b
  let destination := direction.destination a b
  let split ← fresh.fees.split amount
  let gain ← vaultedInput source split.net
  let out ← fresh.curve.amountOut direction gain source.amount destination.amount
  let impact ← fresh.curve.priceImpact direction gain source.amount destination.amount out
  let paid ← vaultedOutput destination out
  let least ← Slippage.least paid slippage
  pure ⟨amount, paid, least, split.total, impact⟩

end Snapshot
end PoolPricing
