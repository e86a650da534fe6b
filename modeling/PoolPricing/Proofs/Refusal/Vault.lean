import PoolPricing.Proofs.Refusal.Basic
import PoolPricing.Quote.Deposit
import PoolPricing.Quote.Withdrawal
set_option autoImplicit false

namespace PoolPricing

open Checked

namespace Vault

theorem divide_yields (rounding : Rounding) (n d : Int) :
    (divide rounding n d).Yields fun _ => d ≠ 0 := by
  unfold divide
  refine .ite (fun _ => rfl) fun h => ?_
  cases rounding <;> exact h

theorem amountOfShare_yields (rounding : Rounding) (share total supply : Int) :
    (amountOfShare rounding share total supply).Yields fun _ => True := by
  unfold amountOfShare
  refine .bind (requireNonnegativeShown_yields _ _) fun _ _ => ?_
  refine .bind (requireNonnegativeShown_yields _ _) fun _ _ => ?_
  refine .bind (requireNonnegativeShown_yields _ _) fun _ _ => ?_
  exact (divide_yields _ _ _).any

theorem shareOfAmount_yields (rounding : Rounding) (amount total supply : Int) :
    (shareOfAmount rounding amount total supply).Yields fun share => share ≠ 0 → total ≠ 0 := by
  unfold shareOfAmount
  refine .bind (requireNonnegativeShown_yields _ _) fun _ _ => ?_
  refine .bind (requireNonnegativeShown_yields _ _) fun _ _ => ?_
  refine .bind (requireNonnegativeShown_yields _ _) fun _ _ => ?_
  refine .ite (fun _ => yields_pure fun hne => absurd rfl hne) fun _ => ?_
  exact (divide_yields _ _ _).mono fun _ hne _ => hne

theorem sharesToBurn_yields (amount unlocked supply : Int) :
    (sharesToBurn amount unlocked supply).Yields fun _ => True := by
  unfold sharesToBurn
  refine .bind (requireNonnegativeShown_yields _ _) fun _ _ => ?_
  exact (divide_yields _ _ _).any

theorem gainOfDeposit_yields (deposit before balance supply total : Int) :
    (gainOfDeposit deposit before balance supply total).Yields fun _ => True := by
  unfold gainOfDeposit
  refine .bind (requireNonnegativeShown_yields _ _) fun _ _ => ?_
  refine .ite (fun _ => trivial) fun _ => ?_
  refine .guard rfl fun hworth => ?_
  refine .bind (floorDivide_yields _ hworth) fun minted _ => ?_
  exact .bind (divide_yields _ _ _) fun _ _ => trivial

theorem unlockedAt_yields (vault : Vault) (now : Int) :
    (vault.unlockedAt now).Yields fun _ => True := by
  unfold unlockedAt lockedAt Tracker.lockedAt
  refine .bind (P := fun _ => True) ?_ fun locked _ => .guard rfl fun _ => trivial
  exact .ite (fun _ => rfl) fun _ => .ite (fun _ => trivial) fun _ => trivial

end Vault

theorem Fees.split_yields (fees : Fees) (amount : Int) :
    (fees.split amount).Yields fun _ => True :=
  .bind (requireNonnegativeShown_yields _ _) fun _ _ => trivial

namespace Slippage

theorem require_yields (slippage : Int) : (require slippage).Yields fun _ => True :=
  .ite (fun _ => trivial) fun _ => rfl

theorem least_yields (amount slippage : Int) : (least amount slippage).Yields fun _ => True :=
  .bind (require_yields slippage) fun _ _ => trivial

theorem greatest_yields (amount slippage : Int) :
    (greatest amount slippage).Yields fun _ => True :=
  .bind (require_yields slippage) fun _ _ => trivial

end Slippage

theorem Word.ofResult_yields (subject : String) (n : Int) :
    (Word.ofResult subject n).Yields fun _ => True := by
  unfold Word.ofResult
  split
  · rfl
  · trivial

namespace Holding

variable (holding : Holding) (now : Int)

theorem amount_yields : (holding.amount now).Yields fun _ => True :=
  .bind (holding.vault.unlockedAt_yields now) fun _ _ => Vault.amountOfShare_yields _ _ _ _

theorem position_yields : (holding.position now).Yields fun _ => True := by
  unfold position
  refine .bind (holding.amount_yields now) fun _ _ => ?_
  exact .bind (holding.vault.unlockedAt_yields now) fun _ _ => trivial

end Holding

namespace Position

variable (position : Position)

theorem gain_yields (deposit : Int) : (position.gain deposit).Yields fun _ => True :=
  Vault.gainOfDeposit_yields _ _ _ _ _

theorem payout_yields (amount : Int) : (position.payout amount).Yields fun _ => True :=
  .bind (Vault.sharesToBurn_yields _ _ _) fun _ _ => Vault.amountOfShare_yields _ _ _ _

theorem amountForMint_yields (minted lpSupply : Int) :
    (position.amountForMint minted lpSupply).Yields fun _ => True :=
  .bind (Vault.shareOfAmount_yields _ _ _ _) fun _ _ => Vault.amountOfShare_yields _ _ _ _

theorem release_yields (burned lpSupply : Int) :
    (position.release burned lpSupply).Yields fun _ => True :=
  .bind (Vault.shareOfAmount_yields _ _ _ _) fun _ _ => Vault.amountOfShare_yields _ _ _ _

end Position
end PoolPricing
