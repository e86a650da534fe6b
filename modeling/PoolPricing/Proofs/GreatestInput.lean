import PoolPricing.Proofs.ExactOut
import PoolPricing.Proofs.SwapQuote
set_option autoImplicit false

/-!
The greatest input against the swaps within it. The limit is the price of the most that the pool can
pay out, less fees, and a swap takes its own fees first, so what reaches the curve is at most the
price. Below the price the swap pays less than that output; at the price it may pay all of it, which
is too much where the idle reserve is the bound, since one unit is held back of the pool's amount
alone (`greatestIn_within`).
-/

namespace PoolPricing

open Checked

def Fault.isShortage : Fault → Bool
  | .insufficientLiquidity _ _ => true
  | _ => false

namespace Checked

variable {α β : Type} {P : α → Prop} {Q : β → Prop} {fault : Fault}

/-- A value with the property, or a fault other than a shortage. -/
def Ample (x : Checked α) (P : α → Prop) : Prop :=
  match x with
  | .ok a => P a
  | .error fault => fault.isShortage = false

theorem Ample.bind {x : Checked α} {f : α → Checked β} (hx : x.Ample P)
    (hf : ∀ a, P a → (f a).Ample Q) : (x >>= f).Ample Q := by
  cases x with
  | ok a => exact hf a hx
  | error fault => exact hx

theorem Ample.guard {c : Prop} [Decidable c] {x : Checked α} (hfault : fault.isShortage = false)
    (hx : ¬c → x.Ample P) : Ample (if c then .error fault else x) P := by
  split
  · exact hfault
  · exact hx ‹_›

theorem Ample.ne {x : Checked α} (h : x.Ample P) (amount available : Int) :
    x ≠ .error (.insufficientLiquidity amount available) := by
  rintro rfl
  contradiction

end Checked

theorem Fees.split_eq (fees : Fees) {amount : Int} (h : 0 ≤ amount) :
    fees.split amount = .ok ⟨fees.tradingFee amount, fees.ownerFee amount,
      amount - fees.tradingFee amount - fees.ownerFee amount⟩ := by
  rw [split, requireNonnegativeShown_of_nonneg _ h]
  rfl

theorem Fees.fees_nonneg (fees : Fees) {amount : Int} (h : 0 ≤ amount) :
    0 ≤ fees.tradingFee amount + fees.ownerFee amount :=
  (split_ok (fees.split_eq h)).1

theorem Fees.fees_le (fees : Fees) {amount : Int} (h : 0 ≤ amount)
    (hfees : fees.tradeNumerator * fees.ownerDenominator +
        fees.ownerNumerator * fees.tradeDenominator ≤
      fees.tradeDenominator * fees.ownerDenominator) :
    fees.tradingFee amount + fees.ownerFee amount ≤ amount := by
  have htrade := Int.ediv_mul_le (amount * fees.tradeNumerator) (Int.ne_of_gt fees.trade_pos)
  have howner := Int.ediv_mul_le (amount * fees.ownerNumerator) (Int.ne_of_gt fees.owner_pos)
  change fees.tradingFee amount * _ ≤ _ at htrade
  change fees.ownerFee amount * _ ≤ _ at howner
  have htrade := Int.mul_le_mul_of_nonneg_right htrade (Int.le_of_lt fees.owner_pos)
  have howner := Int.mul_le_mul_of_nonneg_right howner (Int.le_of_lt fees.trade_pos)
  have hall := Int.mul_le_mul_of_nonneg_left hfees h
  refine Int.le_of_mul_le_mul_right ?_ (Int.mul_pos fees.trade_pos fees.owner_pos)
  linarith

theorem Slippage.least_ample (amount slippage : Int) :
    (Slippage.least amount slippage).Ample fun _ => True := by
  refine .bind (P := fun _ => True) ?_ fun _ _ => trivial
  unfold Slippage.require
  split
  · trivial
  · rfl

/-- What the limit is the price of: the pool's payable amount, less one where that is all of it. -/
def Position.priced (position : Position) : Int :=
  if position.payable = position.amount then position.payable - 1 else position.payable

namespace Snapshot

theorem directionOf_cases (snapshot : Snapshot) (mint : String) :
    snapshot.directionOf mint = .error (.foreignMint mint) ∨
      ∃ direction, snapshot.directionOf mint = .ok direction := by
  unfold directionOf
  split
  · exact .inr ⟨.aToB, rfl⟩
  · split
    · exact .inr ⟨.bToA, rfl⟩
    · exact .inl rfl

theorem admitSwap_ample (snapshot : Snapshot) (mint : String) :
    (snapshot.admitSwap mint).Ample fun direction =>
      snapshot.directionOf mint = .ok direction := by
  unfold admitSwap
  by_cases henabled : snapshot.enabled = true
  · by_cases hopen : snapshot.isActivated = true
    · simp only [henabled, hopen, if_true]
      obtain hforeign | ⟨direction, hfound⟩ := snapshot.directionOf_cases mint
      · rw [hforeign]
        rfl
      · rw [hfound]
        rfl
    · simp only [henabled, hopen, if_true, refuse_bind]
      rfl
  · simp only [henabled, refuse_bind]
    rfl

theorem vaultedInput_ample {source : Position} (hbacked : source.Backed)
    (hworth : 0 < source.withdrawable) (net : Int) :
    (vaultedInput source net).Ample fun gain => 1 ≤ gain ∧ gain ≤ net := by
  refine .bind (P := fun gain => gain ≤ net) ?_ fun gain hgain => .guard rfl fun hsome => ?_
  · by_cases hnet : 0 ≤ net
    · rw [hbacked.gain_eq hworth hnet]
      exact hbacked.gain_le (hbacked.gain_eq hworth hnet)
    · have hrefused :
          source.gain net = .error (.invalid (.negativeShown "deposit_amount" net)) := by
        simp [Position.gain, Vault.gainOfDeposit, requireNonnegativeShown, Int.not_le.mp hnet]
      rw [hrefused]
      rfl
  · exact ⟨by omega, hgain⟩

theorem vaultedOutput_ample {destination : Position} (hbacked : destination.Backed)
    (hworth : 0 < destination.withdrawable) {out : Int} (hout : 0 ≤ out)
    (hpayable : out < destination.payable) :
    (vaultedOutput destination out).Ample fun _ => True := by
  refine .bind (P := fun paid => paid ≤ out) ?_ fun paid hpaid => .guard rfl fun _ => ?_
  · rw [hbacked.payout_eq hworth hout]
    exact hbacked.payout_le (hbacked.payout_eq hworth hout)
  · have hcovered : ¬destination.payable ≤ paid := by omega
    simp only [hcovered, if_false]
    trivial

theorem swapQuote_ample {snapshot fresh : Snapshot} {mint : String} {direction : Direction}
    {a b : Position} {amount out price : Int} (slippage : Int)
    (hdirection : snapshot.directionOf mint = .ok direction)
    (hfresh : snapshot.refreshed.outcome = .ok fresh) (hpositions : fresh.positions = .ok (a, b))
    (hamount : 1 ≤ amount) (hout : 0 < out)
    (hprice : (fresh.curve.amountIn direction out (direction.source a b).amount
      (direction.destination a b).amount).outcome = .ok price)
    (hpayable : ∀ gain paid, 1 ≤ gain →
      gain ≤ amount - fresh.fees.tradingFee amount - fresh.fees.ownerFee amount →
      (fresh.curve.amountOut direction gain (direction.source a b).amount
        (direction.destination a b).amount).outcome = .ok paid →
      paid < (direction.destination a b).payable) :
    (snapshot.swapQuote mint amount slippage).outcome.Ample fun _ => True := by
  obtain ⟨ha, hb⟩ := positions_backed hpositions
  have hsource : (direction.source a b).Backed := by cases direction <;> assumption
  have hdestination : (direction.destination a b).Backed := by cases direction <;> assumption
  obtain ⟨hx, hkept, _⟩ := Curve.balances_of_amountIn hout hprice
  have hsome : ¬amount ≤ 0 := by omega
  simp only [swapQuote, Run.outcome_bind, Run.outcome_liftM, Run.outcome_pure, hfresh,
    hpositions, ok_bind, hsome, if_false, fresh.fees.split_eq (show 0 ≤ amount by omega)]
  refine .bind (snapshot.admitSwap_ample mint) fun found hfound => ?_
  obtain rfl : direction = found := Except.ok.inj (hdirection.symm.trans hfound)
  refine .bind (vaultedInput_ample hsource (hsource.withdrawable_pos hx) _)
    fun gain hgained => ?_
  obtain ⟨hgain, hgain_le⟩ := hgained
  obtain ⟨cause, hrefused⟩ | ⟨paid, hpaid, hpaid_pos, _⟩ :=
    Curve.amountOut_lt hout hprice (show 0 ≤ gain by omega)
  · rw [hrefused]
    rfl
  obtain ⟨impact, himpact⟩ := Curve.priceImpact_ok hout hprice gain paid
  rw [hpaid, ok_bind, himpact, ok_bind]
  refine .bind (vaultedOutput_ample hdestination (hdestination.withdrawable_pos (by omega))
    (Int.le_of_lt hpaid_pos) (hpayable gain paid hgain hgain_le hpaid)) fun _ _ => ?_
  exact .bind (Slippage.least_ample _ _) fun _ _ => trivial

theorem greatestIn_ok {snapshot : Snapshot} {mint : String} {greatest : Int}
    (h : (snapshot.greatestIn mint).outcome = .ok greatest) :
    ∃ direction fresh a b, snapshot.directionOf mint = .ok direction ∧
      snapshot.refreshed.outcome = .ok fresh ∧ fresh.positions = .ok (a, b) ∧
      (((direction.destination a b).priced ≤ 0 ∧ greatest = 0) ∨
        (0 < (direction.destination a b).priced ∧ ∃ price,
          (fresh.curve.amountIn direction (direction.destination a b).priced
            (direction.source a b).amount (direction.destination a b).amount).outcome = .ok price ∧
          greatest = price - fresh.fees.tradingFee price - fresh.fees.ownerFee price ∧
          (.unconverged .balance ∉ (snapshot.greatestIn mint).events →
            .unconverged .balance ∉ (fresh.curve.amountIn direction
              (direction.destination a b).priced (direction.source a b).amount
              (direction.destination a b).amount).events))) := by
  have hfound := h
  simp only [greatestIn, Run.outcome_bind, Run.outcome_liftM, Run.outcome_ite, Run.outcome_pure,
    bind_eq_ok] at hfound
  obtain ⟨fresh, hfresh, direction, hdirection, ⟨a, b⟩, hpositions, hfound⟩ := hfound
  refine ⟨direction, fresh, a, b, ?_, hfresh, hpositions, ?_⟩
  · rwa [refreshed_directionOf hfresh] at hdirection
  change (if (direction.destination a b).priced ≤ 0 then _ else _) = _ at hfound
  by_cases hnone : (direction.destination a b).priced ≤ 0
  · rw [if_pos hnone] at hfound
    exact .inl ⟨hnone, (Except.ok.inj hfound).symm⟩
  rw [if_neg hnone] at hfound
  obtain ⟨price, hprice, hfound⟩ := bind_eq_ok.mp hfound
  have hprice_pos := (Curve.balances_of_amountIn (Int.not_le.mp hnone) hprice).2.2
  rw [fresh.fees.split_eq (Int.le_of_lt hprice_pos)] at hfound
  refine .inr ⟨by omega, price, hprice, (Except.ok.inj hfound).symm, fun hquiet => ?_⟩
  have hrest := (Run.not_mem_events_bind hquiet).2 fresh hfresh
  have hrest := (Run.not_mem_events_bind hrest).2 direction hdirection
  have hrest := (Run.not_mem_events_bind hrest).2 (a, b) hpositions
  change _ ∉ (if (direction.destination a b).priced ≤ 0 then pure 0 else _ >>= _ : Run Int).events
    at hrest
  rw [if_neg hnone] at hrest
  exact (Run.not_mem_events_bind hrest).1

end Snapshot

/-- A limit is not negative where the two fees together take no more than all of an input. A swap
within it is not refused for a shortage where the pool's own amount is the bound, nor, if the solver
was not cut off, where it stays below the limit or the limit pays a fee. -/
theorem greatestIn_within {snapshot : Snapshot} {mint : String} {greatest : Int}
    (h : (snapshot.greatestIn mint).outcome = .ok greatest) :
    (snapshot.fees.tradeNumerator * snapshot.fees.ownerDenominator +
          snapshot.fees.ownerNumerator * snapshot.fees.tradeDenominator ≤
        snapshot.fees.tradeDenominator * snapshot.fees.ownerDenominator → 0 ≤ greatest) ∧
    ∃ direction a b, snapshot.directionOf mint = .ok direction ∧ snapshot.positions = .ok (a, b) ∧
      ∀ amount slippage, 1 ≤ amount → amount ≤ greatest →
        ((direction.destination a b).amount ≤ (direction.destination a b).reserve ∨
          .unconverged .balance ∉ (snapshot.greatestIn mint).events ∧
            (amount < greatest ∨
              0 < snapshot.fees.tradingFee greatest + snapshot.fees.ownerFee greatest)) →
        ∀ paid payable, (snapshot.swapQuote mint amount slippage).outcome ≠
          .error (.insufficientLiquidity paid payable) := by
  obtain ⟨direction, fresh, a, b, hdirection, hfresh, hpositions, hpriced⟩ :=
    Snapshot.greatestIn_ok h
  obtain ⟨hsame, hfees⟩ := Snapshot.refreshed_positions hfresh
  rw [hfees] at hpriced
  obtain ⟨_, rfl⟩ | ⟨hout, price, hprice, rfl, hnoted⟩ := hpriced
  · exact ⟨fun _ => Int.le_refl 0, direction, a, b, hdirection, hsame ▸ hpositions,
      fun amount _ hone hwithin => by omega⟩
  obtain ⟨hx, hkept, hprice_pos⟩ := Curve.balances_of_amountIn hout hprice
  refine ⟨fun hfractions => ?_, direction, a, b, hdirection, hsame ▸ hpositions,
    fun amount slippage hone hwithin hcase => (Snapshot.swapQuote_ample slippage hdirection hfresh
      hpositions hone hout hprice fun gain paid hgain hgain_le hpaid => ?_).ne⟩
  · have := snapshot.fees.fees_le (Int.le_of_lt hprice_pos) hfractions
    omega
  obtain ⟨_, hrefused⟩ | ⟨found, hfound, _, hwhole, hless⟩ :=
    Curve.amountOut_lt hout hprice (show 0 ≤ gain by omega)
  · cases hpaid.symm.trans hrefused
  obtain rfl : paid = found := Except.ok.inj (hpaid.symm.trans hfound)
  have hpayable : (direction.destination a b).priced ≤ (direction.destination a b).payable := by
    unfold Position.priced
    split <;> omega
  rcases hcase with hbound | ⟨hquiet, hroom⟩
  · have hall : (direction.destination a b).payable = (direction.destination a b).amount :=
      Int.min_eq_left hbound
    omega
  · rw [hfees] at hgain_le
    have hfee := snapshot.fees.fees_nonneg (show 0 ≤ amount by omega)
    have hlimit := snapshot.fees.fees_nonneg (Int.le_of_lt hprice_pos)
    have hbelow : gain < price := by
      rcases hroom with hsmaller | hpays
      · omega
      · by_cases hat :
            amount = price - snapshot.fees.tradingFee price - snapshot.fees.ownerFee price
        · rw [← hat] at hpays
          omega
        · omega
    have := hless (hnoted hquiet) hbelow
    omega

def Fees.free : Fees :=
  ⟨0, 1, 0, 1, zero_nonneg, Int.one_nonneg, Int.one_pos, zero_nonneg, Int.one_nonneg, Int.one_pos⟩

def Fees.twofold : Fees :=
  ⟨1, 1, 1, 1, Int.one_nonneg, by decide, Int.one_pos, Int.one_nonneg, by decide, Int.one_pos⟩

def Snapshot.thin (fees : Fees) : Snapshot :=
  { Snapshot.million with
    b := { Snapshot.million.b with reserve := ⟨500, by decide, by decide⟩ }
    fees := fees
    mints_differ := by decide }

theorem greatestIn_within_thin :
    ((Snapshot.thin .ofConstantProduct).greatestIn "A").outcome = .ok 500 ∧
    ((Snapshot.thin .ofConstantProduct).greatestIn "A").events = [] ∧
    ∀ paid payable, ((Snapshot.thin .ofConstantProduct).swapQuote "A" 500 100).outcome ≠
      .error (.insufficientLiquidity paid payable) := by
  have h : ((Snapshot.thin .ofConstantProduct).greatestIn "A").outcome = .ok 500 := rfl
  have hquiet : ((Snapshot.thin .ofConstantProduct).greatestIn "A").events = [] := rfl
  obtain ⟨_, _, _, _, _, _, hwithin⟩ := greatestIn_within h
  refine ⟨h, hquiet, hwithin 500 100 (by decide) (by decide) (.inr ⟨?_, .inr (by decide)⟩)⟩
  rw [hquiet]
  exact List.not_mem_nil

def Snapshot.deep : Snapshot :=
  { Snapshot.million with
    a := .sole "A" ⟨1000000000000, by decide, by decide⟩ .zero Holding.mintA_nonempty
    b := .sole "B" ⟨1000000000000, by decide, by decide⟩ ⟨999999999999, by decide, by decide⟩
      Holding.mintB_nonempty
    curve := .stable ⟨1, .ofDecimals 6 6, .plain, 0, by decide, by decide⟩
    fees := .free
    mints_differ := by decide }

/-- Without fees, a swap of the limit is short by one; two fees of all of the input make a negative
limit; and where the solver was cut off, a swap well below the limit is short. -/
theorem shortage_within_limit :
    ((Snapshot.thin .free).greatestIn "A").outcome = .ok 501 ∧
    ((Snapshot.thin .free).swapQuote "A" 501 100).outcome =
      .error (.insufficientLiquidity 500 500) ∧
    ((Snapshot.thin .twofold).greatestIn "A").outcome = .ok (-501) ∧
    (Snapshot.deep.greatestIn "A").outcome = .ok 1089941366090914728 ∧
    (Snapshot.deep.greatestIn "A").events = [.unconverged .balance] ∧
    (Snapshot.deep.swapQuote "A" 999999500000125000 100).outcome =
      .error (.insufficientLiquidity 999999999999 999999999999) ∧
    ¬∀ (snapshot : Snapshot) (mint : String) (greatest : Int), snapshot.enabled = true →
      snapshot.isActivated = true → (snapshot.greatestIn mint).outcome = .ok greatest →
      0 ≤ greatest ∧ ∀ amount slippage paid payable, 1 ≤ amount → amount ≤ greatest →
        (snapshot.swapQuote mint amount slippage).outcome ≠
          .error (.insufficientLiquidity paid payable) := by
  refine ⟨rfl, rfl, rfl, rfl, rfl, rfl, fun hall => ?_⟩
  obtain ⟨_, hwithin⟩ := hall (Snapshot.thin .free) "A" 501 rfl rfl rfl
  exact hwithin 501 100 500 500 (by decide) (by decide) rfl

end PoolPricing
