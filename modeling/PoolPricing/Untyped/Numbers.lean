import PoolPricing.Document.Field
import PoolPricing.Fees
import PoolPricing.Untyped.Quantity
import PoolPricing.Vault
import PoolPricing.Word
set_option autoImplicit false

namespace PoolPricing.Untyped

open Checked
open Document (Figure Value)

def figure (value : Value) : Checked Figure :=
  match value.figure? with
  | some figure => pure figure
  | none => refuse (.unusable .kind)

def countShown (subject : String) (value : Value) : Checked Int := do
  let n ← value.whole subject
  requireNonnegativeShown subject n
  pure n

/-- A number as it was supplied, provided it fits into 64 bits as an unsigned one. -/
def resultWord (subject : String) (value : Value) : Checked Value := do
  let figure ← figure value
  if figure.toRat < 0 ∨ (Word.greatest : Rat) < figure.toRat then
    refuse (.outOfDomain (.exceedsWord subject value.plain))
  pure value

def word (subject : String) (value : Value) : Checked Word := do
  let n ← value.whole subject
  Word.ofInt subject n

def feesOfTier (stable : Bool) (tier : Value) : Checked Fees :=
  let refusal : Checked Fees :=
    refuse (.invalid (.notAmong "trade_fee_bps" (Fees.tiers stable) tier.plain))
  match tier with
  | .integer n => Fees.ofTier stable n
  | .flag b => if b ∧ 1 ∈ Fees.tiers stable then Fees.ofTier stable 1 else refusal
  | .fraction x =>
    if x.toRat ∈ (Fees.tiers stable).map (fun n : Nat => (n : Rat)) then
      refuse (.mistyped "trade_fee_numerator" .integer)
    else refusal
  | _ => refusal

def splitFees (fees : Fees) (amount : Value) : Checked Fees.Split := do
  let amount ← amount.whole "amount"
  fees.split amount

def tenThousandths (amount : Value) (parts : Int) : Checked Quantity := do
  let amount ← quantity amount
  let product ← amount.times (.whole parts)
  product.floorDivide (.whole Slippage.scale)

def leastWithSlippage (amount slippage : Value) : Checked Quantity := do
  let slippage ← slippage.whole "slippage_bps"
  Slippage.require slippage
  match amount with
  | .integer n => Quantity.whole <$> Slippage.least n slippage
  | amount => tenThousandths amount (Slippage.scale - slippage)

def greatestWithSlippage (amount slippage : Value) : Checked Quantity := do
  let slippage ← slippage.whole "slippage_bps"
  Slippage.require slippage
  match amount with
  | .integer n => Quantity.whole <$> Slippage.greatest n slippage
  | amount => tenThousandths amount (Slippage.scale + slippage)

def amountOfShare (rounding : Rounding) (share total supply : Value) : Checked Int := do
  let share ← countShown "share" share
  let total ← countShown "total_amount" total
  let supply ← countShown "total_supply" supply
  Vault.amountOfShare rounding share total supply

def shareOfAmount (rounding : Rounding) (amount total supply : Value) : Checked Int := do
  let amount ← countShown "amount" amount
  let total ← countShown "total_amount" total
  let supply ← countShown "total_supply" supply
  Vault.shareOfAmount rounding amount total supply

def divideQuantity (n d : Quantity) : Checked Quantity :=
  if d.isZero then refuse (.outOfDomain .noSharesOrTokens) else n.floorDivide d

def sharesToBurn (amount unlocked supply : Value) : Checked Quantity := do
  let amount ← countShown "out_token" amount
  match integrals? unlocked supply with
  | some (unlocked, supply) => Quantity.whole <$> Vault.sharesToBurn amount unlocked supply
  | none =>
    match supply with
    | .text _ | .list _ =>
      if isZero unlocked then refuse (.outOfDomain .noSharesOrTokens)
      else refuse (.unusable .kind)
    | supply => do
      let supply ← quantity supply
      let product ← (Quantity.whole amount).times supply
      let unlocked ← quantity unlocked
      divideQuantity product unlocked

def balanceAfterDeposit (deposit : Int) (balance supply total : Value) : Checked Quantity := do
  let supply ← quantity supply
  let total ← quantity total
  let shares ← (Quantity.whole deposit).times supply
  let minted ← shares.floorDivide total
  let supply ← supply.plus minted
  let total ← total.plus (.whole deposit)
  let balance ← quantity balance
  let balance ← balance.plus minted
  let product ← balance.times total
  divideQuantity product supply

def gainOfDeposit (deposit before balance supply total : Value) : Checked Quantity := do
  let deposit ← countShown "deposit_amount" deposit
  if deposit = 0 then pure (.whole 0)
  else if isZero total then refuse (.outOfDomain .emptyVault)
  else
    match integrals? before balance, integrals? supply total with
    | some (before, balance), some (supply, total) =>
      Quantity.whole <$> Vault.gainOfDeposit deposit before balance supply total
    | _, _ => do
      let after ← balanceAfterDeposit deposit balance supply total
      let before ← quantity before
      after.minus before

def lockedAt (vault : Vault) (now : Value) : Checked Quantity := do
  match now with
  | .integer n => Quantity.whole <$> vault.lockedAt n
  | now => do
    let now ← figure now
    let tracker := vault.tracker
    let duration ← (Quantity.ofFigure now).minus (.whole tracker.lastReport)
    if duration.isLess (.whole 0) then
      refuse (.outOfDomain (.beforeLastReport now tracker.lastReport))
    let released ← duration.times (.whole tracker.degradation)
    if (Quantity.whole Tracker.releaseScale).isLess released then pure (.whole 0)
    else do
      let kept ← (Quantity.whole Tracker.releaseScale).minus released
      let locked ← (Quantity.whole tracker.lockedProfit).times kept
      locked.floorDivide (.whole Tracker.releaseScale)

def unlockedAt (vault : Vault) (now : Value) : Checked Quantity := do
  let locked ← lockedAt vault now
  let unlocked ← (Quantity.whole vault.total).minus locked
  if unlocked.isLess (.whole 0) then refuse (.outOfDomain .lockedExceedsTotal)
  pure unlocked

def amountOfShareAt (vault : Vault) (now share supply : Value) : Checked Int := do
  match now, share, supply with
  | .integer now, .integer share, .integer supply => vault.amountOfShareAt now share supply
  | now, share, supply => do
    let unlocked ← unlockedAt vault now
    amountOfShare .down share unlocked.value supply

def sharesToBurnAt (vault : Vault) (now amount supply : Value) : Checked Quantity := do
  match now, amount, supply with
  | .integer now, .integer amount, .integer supply =>
    Quantity.whole <$> vault.sharesToBurnAt now amount supply
  | now, amount, supply => do
    let unlocked ← unlockedAt vault now
    sharesToBurn amount unlocked.value supply

end PoolPricing.Untyped
