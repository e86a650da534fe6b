import PoolPricing.Proofs.Refusal.Curve
import PoolPricing.Proofs.Refusal.Vault
import PoolPricing.Proofs.SwapQuote
import PoolPricing.Proofs.CurveScale
import PoolPricing.Quote.Info
import PoolPricing.Quote.Swap
set_option autoImplicit false

/-!
Quotes answer or refuse; no argument makes one divide by zero (`no_quote_divides_by_zero`). Where
the divisor is a balance, a supply or an invariant that may be zero, an earlier step has refused by
then, and what that step says of the divisor is carried to the division as a postcondition.
-/

namespace PoolPricing

open Checked

namespace Snapshot

variable (snapshot : Snapshot)

theorem refreshed_yields : snapshot.refreshed.Yields fun _ => True :=
  .bind (snapshot.curve.refresh_yields _ _) fun _ _ => trivial

theorem positions_yields : snapshot.positions.Yields fun _ => True := by
  unfold positions
  refine .bind (snapshot.a.position_yields _) fun a _ => ?_
  exact .bind (snapshot.b.position_yields _) fun b _ => trivial

theorem directionOf_yields (mint : String) : (snapshot.directionOf mint).Yields fun _ => True :=
  .ite (fun _ => trivial) fun _ => .ite (fun _ => trivial) fun _ => rfl

theorem info_yields : snapshot.info.Yields fun _ => True := by
  unfold info
  refine .bind snapshot.refreshed_yields fun fresh _ => ?_
  refine .bind (.lift (fresh.a.amount_yields _)) fun a _ => ?_
  refine .bind (.lift (fresh.b.amount_yields _)) fun b _ => ?_
  refine .bind (fresh.curve.invariant_yields _ _) fun d _ => ?_
  refine .ite (fun _ => trivial) fun hsupply => ?_
  refine .bind (.lift (floorDivide_yields _ hsupply)) fun scaled _ => ?_
  exact .bind (.lift (floorDivide_yields _ hsupply)) fun binary _ => trivial

theorem admitSwap_yields (mint : String) : (snapshot.admitSwap mint).Yields fun _ => True :=
  .unless rfl fun _ => .unless rfl fun _ => snapshot.directionOf_yields mint

theorem vaultedInput_yields (source : Position) (net : Int) :
    (vaultedInput source net).Yields fun _ => True :=
  .bind (source.gain_yields net) fun _ _ => .guard rfl fun _ => trivial

theorem vaultedOutput_yields (destination : Position) (out : Int) :
    (vaultedOutput destination out).Yields fun _ => True :=
  .bind (destination.payout_yields out) fun _ _ =>
    .guard rfl fun _ => .guard rfl fun _ => trivial

theorem swapQuote_yields (mint : String) (amount slippage : Int) :
    (snapshot.swapQuote mint amount slippage).Yields fun _ => True := by
  unfold swapQuote
  refine .bind (.lift (snapshot.admitSwap_yields mint)) fun direction _ => ?_
  refine .guard rfl fun _ => ?_
  refine .bind snapshot.refreshed_yields fun fresh _ => ?_
  refine .bind (.lift fresh.positions_yields) fun (a, b) _ => ?_
  refine .bind (.lift (fresh.fees.split_yields _)) fun split _ => ?_
  refine .bind (.lift (vaultedInput_yields _ _)) fun gain _ => ?_
  refine .bind (fresh.curve.amountOut_yields _ _ _ _) fun out _ => ?_
  refine .bind (fresh.curve.priceImpact_yields _ _ _ _ _) fun impact _ => ?_
  refine .bind (.lift (vaultedOutput_yields _ _)) fun paid _ => ?_
  exact .bind (.lift (Slippage.least_yields _ _)) fun least _ => trivial

theorem greatestIn_yields (mint : String) : (snapshot.greatestIn mint).Yields fun _ => True := by
  unfold greatestIn
  refine .bind snapshot.refreshed_yields fun fresh _ => ?_
  refine .bind (.lift (fresh.directionOf_yields mint)) fun direction _ => ?_
  refine .bind (.lift fresh.positions_yields) fun (a, b) _ => ?_
  refine .ite (fun _ => trivial) fun _ => ?_
  refine .bind (fresh.curve.amountIn_yields _ _ _ _) fun amount _ => ?_
  exact .bind (.lift (fresh.fees.split_yields _)) fun split _ => trivial

theorem greatestOut_yields (mint : String) :
    (snapshot.greatestOut mint).Yields fun _ => True := by
  unfold greatestOut
  refine .bind (snapshot.directionOf_yields mint) fun direction _ => ?_
  refine .bind (P := fun _ => True) ?_ fun position _ => trivial
  cases direction with
  | aToB => exact snapshot.a.position_yields _
  | bToA => exact snapshot.b.position_yields _

theorem admitDeposit_yields (amountA amountB : Int) (balanced : Bool) :
    (admitDeposit amountA amountB balanced).Yields fun _ => True :=
  .guard rfl fun _ => .guard rfl fun _ => .ite (fun _ => rfl) fun _ => trivial

theorem firstDeposit_yields (curve : Curve) (amountA amountB slippage : Int) :
    (firstDeposit curve amountA amountB slippage).Yields fun _ => True := by
  unfold firstDeposit
  refine .bind (curve.invariant_yields _ _) fun d _ => ?_
  refine .bind (.lift (Word.ofResult_yields _ _)) fun minted _ => ?_
  exact .bind (.lift (Slippage.least_yields _ _)) fun least _ => trivial

theorem balancedShare_yields (a b : Position) (amountA amountB lpSupply : Int) :
    (balancedShare a b amountA amountB lpSupply).Yields fun _ =>
      if 0 < amountA then a.amount ≠ 0 else b.amount ≠ 0 := by
  unfold balancedShare
  refine .ite (fun hgiven => ?_) fun hgiven => ?_
  · refine .bind (Vault.shareOfAmount_yields _ _ _ _) fun share hworth => ?_
    refine .guard rfl fun hshare => yields_pure ?_
    rw [if_pos hgiven]
    exact hworth hshare
  · refine .bind (Vault.shareOfAmount_yields _ _ _ _) fun share hworth => ?_
    refine .guard rfl fun hshare => yields_pure ?_
    rw [if_neg hgiven]
    exact hworth hshare

theorem balancedStable_yields {a b : Position} {amountA amountB : Int} (share slippage : Int)
    (hworth : if 0 < amountA then a.amount ≠ 0 else b.amount ≠ 0) :
    (balancedStable a b amountA amountB share slippage).Yields fun _ => True := by
  unfold balancedStable
  have hquote : ∀ amounts : Int × Int, Yields (do
      let least ← Slippage.least (DepositQuote.buffered share) slippage
      pure (⟨DepositQuote.buffered share, least, amounts.1, amounts.2⟩ : DepositQuote))
      fun _ => True :=
    fun _ => .bind (Slippage.least_yields _ _) fun _ _ => trivial
  refine .ite (fun hgiven => ?_) fun hgiven => ?_
  · rw [if_pos hgiven] at hworth
    exact .bind (floorDivide_yields _ hworth) fun other _ => hquote (amountA, other)
  · rw [if_neg hgiven] at hworth
    exact .bind (floorDivide_yields _ hworth) fun other _ => hquote (other, amountB)

theorem balancedConstantProduct_yields (a b : Position) (lpSupply share slippage : Int) :
    (balancedConstantProduct a b lpSupply share slippage).Yields fun _ => True := by
  unfold balancedConstantProduct
  refine .bind (a.amountForMint_yields _ _) fun needA _ => ?_
  refine .bind (b.amountForMint_yields _ _) fun needB _ => ?_
  refine .bind (Slippage.greatest_yields _ _) fun amountA _ => ?_
  exact .bind (Slippage.greatest_yields _ _) fun amountB _ => trivial

theorem unbalancedDeposit_yields (a b : Position) (amountA amountB slippage : Int) :
    (snapshot.unbalancedDeposit a b amountA amountB slippage).Yields fun _ => True := by
  unfold unbalancedDeposit
  refine .bind (.lift (a.gain_yields _)) fun gainA _ => ?_
  refine .bind (.lift (b.gain_yields _)) fun gainB _ => ?_
  refine .bind (snapshot.curve.mintForDeposit_yields _ _ _ _ _ _) fun minted _ => ?_
  exact .bind (.lift (Slippage.least_yields _ _)) fun least _ => trivial

theorem depositQuote_yields (amountA amountB : Int) (balanced : Bool) (slippage : Int) :
    (snapshot.depositQuote amountA amountB balanced slippage).Yields fun _ => True := by
  unfold depositQuote
  refine .bind (.lift (admitDeposit_yields _ _ _)) fun _ _ => ?_
  refine .bind snapshot.refreshed_yields fun fresh _ => ?_
  refine .ite (fun _ => firstDeposit_yields _ _ _ _) fun _ => ?_
  refine .bind (.lift fresh.positions_yields) fun (a, b) _ => ?_
  refine .ite (fun _ => ?_) fun _ => fresh.unbalancedDeposit_yields _ _ _ _ _
  refine .bind (.lift (balancedShare_yields _ _ _ _ _)) fun share hworth => ?_
  exact .ite (fun _ => .lift (balancedStable_yields _ _ hworth))
    fun _ => .lift (balancedConstantProduct_yields _ _ _ _ _)

theorem admitBurn_yields (burned : Int) : (snapshot.admitBurn burned).Yields fun _ => True :=
  .guard rfl fun _ => .ite (fun _ => rfl) fun _ => trivial

theorem balancedWithdrawal_yields (lpSupply : Int) (a b : Position) (burned slippage : Int) :
    (balancedWithdrawal lpSupply a b burned slippage).Yields fun _ => True := by
  unfold balancedWithdrawal
  refine .bind (a.release_yields _ _) fun amountA _ => ?_
  refine .bind (b.release_yields _ _) fun amountB _ => ?_
  refine .bind (Slippage.least_yields _ _) fun leastA _ => ?_
  exact .bind (Slippage.least_yields _ _) fun leastB _ => trivial

theorem singleWithdrawal_yields (a b : Position) (burned slippage : Int) (mint : String) :
    (snapshot.singleWithdrawal a b burned slippage mint).Yields fun _ => True := by
  unfold singleWithdrawal
  refine .bind (.lift (snapshot.directionOf_yields mint)) fun paidIn _ => ?_
  refine .bind (snapshot.curve.withdrawOne_yields _ _ _ _ _ _) fun out _ => ?_
  refine .bind (.lift (Position.payout_yields _ _)) fun paid _ => ?_
  exact .bind (.lift (Slippage.least_yields _ _)) fun least _ => trivial

theorem withdrawalQuote_yields (burned slippage : Int) (mint : Option String) :
    (snapshot.withdrawalQuote burned slippage mint).Yields fun _ => True := by
  unfold withdrawalQuote
  refine .bind (.lift (snapshot.admitBurn_yields burned)) fun _ _ => ?_
  refine .bind snapshot.refreshed_yields fun fresh _ => ?_
  refine .bind (.lift fresh.positions_yields) fun (a, b) _ => ?_
  cases mint with
  | none => exact .lift (balancedWithdrawal_yields _ _ _ _ _)
  | some mint => exact fresh.singleWithdrawal_yields _ _ _ _ _

end Snapshot

def Checked.fraction (n d : Int) : Checked Rat :=
  if d = 0 then refuse .zeroDivisor else pure ((n : Rat) / (d : Rat))

/-- The quotients that pricing takes by plain division, but for those by a constant, are those that
a division refusing zero would give. -/
structure PlainQuotients : Prop where
  divide (n d : Int) : d ≠ 0 → floorDivide n d = Vault.divide .down n d ∧
    (do pure (-(← floorDivide (-n) d))) = Vault.divide .up n d
  tradingFee (fees : Fees) (amount : Int) :
    floorDivide (amount * fees.tradeNumerator) fees.tradeDenominator =
      .ok (fees.tradingFee amount)
  ownerFee (fees : Fees) (amount : Int) :
    floorDivide (amount * fees.ownerNumerator) fees.ownerDenominator = .ok (fees.ownerFee amount)
  downscaleA (curve : StableCurve) (amount : Int) :
    (do floorDivide (← floorDivide amount curve.multiplier.a) curve.priceFactorA) =
      .ok (curve.downscaleA amount)
  downscaleB (curve : StableCurve) (amount : Int) :
    floorDivide amount curve.multiplier.b = .ok (amount / curve.multiplier.b)
  invariant (curve : StableCurve) (d : Int) :
    floorDivide d curve.priceFactorA = .ok (d / curve.priceFactorA)
  ceiling (n d : Int) : 0 ≤ n → 0 < d → floorDivide n d = .ok (n / d) ∧
    floorDivide n (n / d + 1) = .ok (n / (n / d + 1))
  shortfall (spot actual : Int) :
    (if spot ≤ 0 ∨ spot ≤ actual then pure 0 else fraction (spot - actual) spot) =
      .ok (Curve.shortfall spot actual)

theorem plainQuotients : PlainQuotients where
  divide n d hd := by simp [floorDivide, Vault.divide, hd, pure, Except.pure]
  tradingFee fees _ := floorDivide_of_pos _ fees.trade_pos
  ownerFee fees _ := floorDivide_of_pos _ fees.owner_pos
  downscaleA curve amount := by
    rw [floorDivide_of_pos _ curve.multiplier.a_pos, ok_bind,
      floorDivide_of_pos _ curve.priceFactorA_pos]
    rfl
  downscaleB curve _ := floorDivide_of_pos _ curve.multiplier.b_pos
  invariant curve _ := floorDivide_of_pos _ curve.priceFactorA_pos
  ceiling n d hn hd := by
    have hquotient : 0 ≤ n / d := Int.ediv_nonneg hn (Int.le_of_lt hd)
    exact ⟨floorDivide_of_pos n hd, floorDivide_of_pos n (by omega)⟩
  shortfall spot actual := by
    unfold Curve.shortfall
    by_cases hnone : spot ≤ 0 ∨ spot ≤ actual
    · simp [hnone, pure, Except.pure]
    · simp [hnone, fraction, show spot ≠ 0 by omega, pure, Except.pure]

/-- No quote divides by zero: every one of them, asked of any snapshot with any arguments, answers
or refuses. -/
theorem no_quote_divides_by_zero (snapshot : Snapshot) :
    snapshot.info.Yields (fun _ => True) ∧
    (∀ mint amount slippage, (snapshot.swapQuote mint amount slippage).Yields fun _ => True) ∧
    (∀ amountA amountB balanced slippage,
      (snapshot.depositQuote amountA amountB balanced slippage).Yields fun _ => True) ∧
    (∀ burned slippage mint,
      (snapshot.withdrawalQuote burned slippage mint).Yields fun _ => True) ∧
    (∀ mint, (snapshot.greatestIn mint).Yields fun _ => True) ∧
    (∀ mint, (snapshot.greatestOut mint).Yields fun _ => True) ∧
    PlainQuotients :=
  ⟨snapshot.info_yields, snapshot.swapQuote_yields, snapshot.depositQuote_yields,
    snapshot.withdrawalQuote_yields, snapshot.greatestIn_yields, snapshot.greatestOut_yields,
    plainQuotients⟩

def Snapshot.drained : Snapshot :=
  { Snapshot.million with
    a := { Snapshot.million.a with shares := .zero, shares_le := by decide }
    b := { Snapshot.million.b with shares := .zero, shares_le := by decide }
    curve := .stable (.hundredfold ⟨1, 1, 6, Int.one_pos, Int.one_pos, by decide⟩ .plain)
    mints_differ := Snapshot.million.mints_differ }

theorem no_quote_divides_by_zero_drained :
    (Snapshot.drained.withdrawalQuote 10 100 (some "A")).outcome =
      .error (.outOfDomain .balanceNeedsPositiveOther) ∧
    (Snapshot.drained.depositQuote 1000 0 true 100).outcome =
      .error (.tooSmall .depositMintsNothing) ∧
    (Fault.outOfDomain .balanceNeedsPositiveOther).isRefusal = true ∧
    (Fault.tooSmall .depositMintsNothing).isRefusal = true := by
  obtain ⟨_, _, hdeposit, hwithdrawal, _⟩ := no_quote_divides_by_zero Snapshot.drained
  have hdrained : (Snapshot.drained.withdrawalQuote 10 100 (some "A")).outcome =
      .error (.outOfDomain .balanceNeedsPositiveOther) := rfl
  have hnothing : (Snapshot.drained.depositQuote 1000 0 true 100).outcome =
      .error (.tooSmall .depositMintsNothing) := rfl
  have hwithdrawal := hwithdrawal 10 100 (some "A")
  have hdeposit := hdeposit 1000 0 true 100
  rw [Run.Yields, hdrained] at hwithdrawal
  rw [Run.Yields, hnothing] at hdeposit
  exact ⟨hdrained, hnothing, hwithdrawal, hdeposit⟩

end PoolPricing
