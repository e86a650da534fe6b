import PoolPricing.Checked
set_option autoImplicit false

/-!
Vaults. A pool holds its tokens through shares of a vault. Profit that a vault reports is locked at
first and released evenly over time, so that the amount behind a share grows without a jump.
Quotients are rounded down unless rounding up is asked for.
-/

namespace PoolPricing

open Checked

/-- Profit reported at `lastReport`, released at a rate of `degradation` parts of
`releaseScale` a second. -/
@[ext] structure Tracker where
  lockedProfit : Int
  lastReport : Int
  degradation : Int
  locked_nonneg : 0 ≤ lockedProfit
  report_nonneg : 0 ≤ lastReport
  degradation_nonneg : 0 ≤ degradation
  deriving Repr

instance : DecidableEq Tracker := fun _ _ => decidable_of_decidable_of_iff Tracker.ext_iff.symm

namespace Tracker

def releaseScale : Int := 1000000000000

def empty : Tracker := ⟨0, 0, 0, zero_nonneg, zero_nonneg, zero_nonneg⟩

def ofNumbers (lockedProfit lastReport degradation : Int) : Checked Tracker :=
  if hl : lockedProfit < 0 then
    refuse (.invalid (.negativeShown "last_updated_locked_profit" lockedProfit))
  else if hr : lastReport < 0 then refuse (.invalid (.negativeShown "last_report" lastReport))
  else if hd : degradation < 0 then
    refuse (.invalid (.negativeShown "locked_profit_degradation" degradation))
  else
    .ok ⟨lockedProfit, lastReport, degradation, nonneg_of_not_neg hl, nonneg_of_not_neg hr,
      nonneg_of_not_neg hd⟩

def lockedAt (tracker : Tracker) (now : Int) : Checked Int :=
  if now < tracker.lastReport then
    refuse (.outOfDomain (.beforeLastReport (.whole now) tracker.lastReport))
  else
    let released := (now - tracker.lastReport) * tracker.degradation
    if releaseScale < released then pure 0
    else pure (tracker.lockedProfit * (releaseScale - released) / releaseScale)

end Tracker

@[ext] structure Vault where
  total : Int
  tracker : Tracker
  total_nonneg : 0 ≤ total
  deriving Repr

instance : DecidableEq Vault := fun _ _ => decidable_of_decidable_of_iff Vault.ext_iff.symm

inductive Rounding where
  | down
  | up
  deriving DecidableEq, Repr

namespace Vault

def ofNumbers (total : Int) (tracker : Tracker) : Checked Vault :=
  if h : total < 0 then refuse (.invalid (.negativeShown "total_amount" total))
  else .ok ⟨total, tracker, nonneg_of_not_neg h⟩

def divide (rounding : Rounding) (n d : Int) : Checked Int :=
  if d = 0 then refuse (.outOfDomain .noSharesOrTokens)
  else
    match rounding with
    | .down => pure (Int.fdiv n d)
    | .up => pure (-Int.fdiv (-n) d)

theorem divide_down_of_pos (n : Int) {d : Int} (h : 0 < d) : divide .down n d = .ok (n / d) := by
  simp only [divide, if_neg (Int.ne_of_gt h), Int.fdiv_eq_ediv_of_nonneg n (Int.le_of_lt h)]
  rfl

theorem divide_up_of_pos (n : Int) {d : Int} (h : 0 < d) :
    divide .up n d = .ok (-(-n / d)) := by
  simp only [divide, if_neg (Int.ne_of_gt h), Int.fdiv_eq_ediv_of_nonneg (-n) (Int.le_of_lt h)]
  rfl

def amountOfShare (rounding : Rounding) (share total supply : Int) : Checked Int := do
  requireNonnegativeShown "share" share
  requireNonnegativeShown "total_amount" total
  requireNonnegativeShown "total_supply" supply
  divide rounding (share * total) supply

/-- The shares worth an amount, none in a vault that holds nothing. -/
def shareOfAmount (rounding : Rounding) (amount total supply : Int) : Checked Int := do
  requireNonnegativeShown "amount" amount
  requireNonnegativeShown "total_amount" total
  requireNonnegativeShown "total_supply" supply
  if total = 0 then pure 0 else divide rounding (amount * supply) total

def sharesToBurn (amount unlocked supply : Int) : Checked Int := do
  requireNonnegativeShown "out_token" amount
  divide .down (amount * supply) unlocked

/-- What a pool gains by putting an amount into the vault: its balance is read back through its
shares after the vault has issued new ones, which may lose a little. -/
def gainOfDeposit (deposit before balance supply total : Int) : Checked Int := do
  requireNonnegativeShown "deposit_amount" deposit
  if deposit = 0 then pure 0
  else
    if total = 0 then refuse (.outOfDomain .emptyVault)
    let minted ← floorDivide (deposit * supply) total
    let after ← divide .down ((balance + minted) * (total + deposit)) (supply + minted)
    pure (after - before)

def lockedAt (vault : Vault) (now : Int) : Checked Int := vault.tracker.lockedAt now

def unlockedAt (vault : Vault) (now : Int) : Checked Int := do
  let locked ← vault.lockedAt now
  if vault.total - locked < 0 then refuse (.outOfDomain .lockedExceedsTotal)
  pure (vault.total - locked)

def amountOfShareAt (vault : Vault) (now share supply : Int) : Checked Int := do
  let unlocked ← vault.unlockedAt now
  amountOfShare .down share unlocked supply

def sharesToBurnAt (vault : Vault) (now amount supply : Int) : Checked Int := do
  let unlocked ← vault.unlockedAt now
  sharesToBurn amount unlocked supply

end Vault
end PoolPricing
