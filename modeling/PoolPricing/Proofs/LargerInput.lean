import PoolPricing.Proofs.SwapQuote
set_option autoImplicit false

/-!
A larger input against a smaller one, on a constant product pool. From the net input on, every stage
of a swap is monotone: what the vault credits, what the curve pays, and what the other vault pays
out. The two fees are rounded down each on its own, though; at an input where both step up, two
units are charged for one that is paid in addition (`dearer_unit`). A larger input never buys less
where the fees rise by no more than the input does (`swapQuote_larger_input`).
-/

namespace PoolPricing

open Checked

namespace Number

theorem part_growth_lt (less more n : Int) {d : Int} (hd : 0 < d) :
    (more * n / d - less * n / d) * d < (more - less) * n + d := by
  have hmore := Int.ediv_mul_le (more * n) (Int.ne_of_gt hd)
  have hless := Int.lt_ediv_add_one_mul_self (less * n) hd
  linarith

theorem part_growth_le {less more n d : Int} (hle : less ≤ more) (hn : n ≤ d) (hd : 0 < d) :
    more * n / d - less * n / d ≤ more - less := by
  have hgrowth := part_growth_lt less more n hd
  have hall := Int.mul_le_mul_of_nonneg_left hn (Int.sub_nonneg_of_le hle)
  have : (more * n / d - less * n / d) * d < (more - less + 1) * d := by linarith
  have := Int.lt_of_mul_lt_mul_right this (Int.le_of_lt hd)
  omega

end Number

namespace Fees

def keptShare (fees : Fees) : Int :=
  fees.tradeDenominator * fees.ownerDenominator - fees.tradeNumerator * fees.ownerDenominator -
    fees.ownerNumerator * fees.tradeDenominator

/-- Both fees together, as a quote reports them. -/
def fee (fees : Fees) (amount : Int) : Int := fees.tradingFee amount + fees.ownerFee amount

variable (fees : Fees) (less more : Int)

theorem fee_growth_lt :
    (fees.fee more - fees.fee less - (more - less) - 2) *
        (fees.tradeDenominator * fees.ownerDenominator) < -((more - less) * fees.keptShare) := by
  have htrade := Number.part_growth_lt less more fees.tradeNumerator fees.trade_pos
  have howner := Number.part_growth_lt less more fees.ownerNumerator fees.owner_pos
  have htrade := Int.mul_lt_mul_of_pos_right htrade fees.owner_pos
  have howner := Int.mul_lt_mul_of_pos_right howner fees.trade_pos
  simp only [fee, tradingFee, ownerFee, keptShare]
  linarith

variable {fees less more} (hle : less ≤ more)
include hle

theorem fee_growth_le_succ (hkept : 0 ≤ fees.keptShare) :
    fees.fee more - fees.fee less ≤ more - less + 1 := by
  have hgrowth := fees.fee_growth_lt less more
  have hrest := Int.mul_nonneg (Int.sub_nonneg_of_le hle) hkept
  by_contra hover
  have := Int.mul_nonneg (show 0 ≤ fees.fee more - fees.fee less - (more - less) - 2 by omega)
    (Int.le_of_lt (Int.mul_pos fees.trade_pos fees.owner_pos))
  omega

/-- Fees do not outgrow the input where there is only one of them, nor where what they leave of the
increase comes to a whole unit. -/
theorem fee_growth_le
    (h : fees.tradeNumerator = 0 ∨ fees.ownerNumerator = 0 ∨
      fees.tradeDenominator * fees.ownerDenominator ≤ (more - less) * fees.keptShare) :
    fees.fee more - fees.fee less ≤ more - less := by
  rcases h with hfree | hfree | hunit
  · have := Number.part_growth_le hle fees.owner_le fees.owner_pos
    simp only [fee, tradingFee, hfree, Int.mul_zero, Int.zero_ediv, ownerFee]
    omega
  · have := Number.part_growth_le hle fees.trade_le fees.trade_pos
    simp only [fee, ownerFee, hfree, Int.mul_zero, Int.zero_ediv, tradingFee]
    omega
  · have hgrowth := fees.fee_growth_lt less more
    by_contra hover
    have := Int.mul_le_mul_of_nonneg_right
      (show -1 ≤ fees.fee more - fees.fee less - (more - less) - 2 by omega)
      (Int.le_of_lt (Int.mul_pos fees.trade_pos fees.owner_pos))
    omega

end Fees

namespace Position.Backed

variable {position : Position} (hbacked : position.Backed) (hworth : 0 < position.withdrawable)
include hbacked hworth

theorem gain_mono {less more gain gain' : Int} (hle : less ≤ more)
    (hless : position.gain less = .ok gain) (hmore : position.gain more = .ok gain') :
    gain ≤ gain' := by
  rw [Position.gain, hbacked.amount_eq] at hless hmore
  exact Vault.gainOfDeposit_mono hbacked.shares_nonneg hbacked.shares_le hbacked.supply_pos hworth
    hle hless hmore

theorem payout_mono {less more paid paid' : Int} (hnonneg : 0 ≤ less) (hle : less ≤ more)
    (hless : position.payout less = .ok paid) (hmore : position.payout more = .ok paid') :
    paid ≤ paid' := by
  rw [hbacked.payout_eq hworth hnonneg] at hless
  rw [hbacked.payout_eq hworth (Int.le_trans hnonneg hle)] at hmore
  cases hless
  cases hmore
  have hburned := Int.ediv_le_ediv hworth
    (Int.mul_le_mul_of_nonneg_right hle (Int.le_of_lt hbacked.supply_pos))
  exact Int.ediv_le_ediv hbacked.supply_pos
    (Int.mul_le_mul_of_nonneg_right hburned (Int.le_of_lt hworth))

end Position.Backed

namespace ConstantProduct

theorem received_mono {less more x y : Int} {trade trade' : Trade} (hle : less ≤ more)
    (hless : swap less x y = .ok trade) (hmore : swap more x y = .ok trade') :
    trade.received ≤ trade'.received := by
  obtain ⟨_, hx, hy, hsum, _, _, rfl⟩ := swap_eq_ok.mp hless
  obtain ⟨_, _, _, hsum', _, _, rfl⟩ := swap_eq_ok.mp hmore
  refine Number.ediv_le_ediv_of_cross hsum hsum' ?_
  have := Int.mul_le_mul_of_nonneg_left hle (Int.mul_nonneg hy hx)
  linarith

end ConstantProduct

structure SwapQuote.Priced (quote : SwapQuote) (fees : Fees) (source destination : Position)
    (amount gain : Int) (trade : ConstantProduct.Trade) : Prop where
  source_backed : source.Backed
  destination_backed : destination.Backed
  fee_eq : quote.fee = fees.fee amount
  gain_eq : source.gain (amount - quote.fee) = .ok gain
  trade_eq : ConstantProduct.swap gain source.amount destination.amount = .ok trade
  payout_eq : destination.payout trade.received = .ok quote.amountOut

theorem Snapshot.swapQuote_priced {snapshot : Snapshot} {mint : String} {amount slippage : Int}
    {quote : SwapQuote} (hcurve : snapshot.curve = .constantProduct)
    (h : (snapshot.swapQuote mint amount slippage).outcome = .ok quote) :
    ∃ direction a b gain trade, snapshot.directionOf mint = .ok direction ∧
      snapshot.positions = .ok (a, b) ∧
      quote.Priced snapshot.fees (direction.source a b) (direction.destination a b) amount gain
        trade := by
  simp only [swapQuote, Run.outcome_bind, Run.outcome_liftM, Run.outcome_ite, Run.outcome_throw,
    Run.outcome_pure, error_bind, bind_eq_ok, guard_eq_ok, Except.ok.injEq] at h
  obtain ⟨direction, hadmit, hamount, fresh, hfresh, ⟨a, b⟩, hpositions, split, hsplit, gain,
    hinput, out, hout, impact, _, paid, houtput, least, _, rfl⟩ := h
  obtain ⟨hsame, hfees⟩ := refreshed_positions hfresh
  rw [hsame] at hpositions
  rw [hfees] at hsplit
  rw [refreshed_constantProduct hfresh hcurve] at hout
  simp only [Curve.amountOut, Run.outcome_bind, Run.outcome_liftM, Run.outcome_pure, bind_eq_ok]
    at hout
  obtain ⟨trade, htrade, hreceived⟩ := hout
  cases hreceived
  obtain ⟨ha, hb⟩ := positions_backed hpositions
  obtain ⟨_, hnet⟩ := Fees.split_ok hsplit
  have hgain := (vaultedInput_ok hinput).1
  rw [hnet] at hgain
  have hfee : split.total = snapshot.fees.fee amount := by
    obtain ⟨_, _, hsplit⟩ := bind_eq_ok.mp hsplit
    cases hsplit
    rfl
  exact ⟨direction, a, b, gain, trade, directionOf_of_admitSwap hadmit, hpositions,
    by cases direction <;> assumption, by cases direction <;> assumption, hfee, hgain, htrade,
    (vaultedOutput_ok houtput).1⟩

theorem SwapQuote.Priced.amountOut_le {first second : SwapQuote} {fees : Fees}
    {source destination : Position} {less more gain gain' : Int}
    {trade trade' : ConstantProduct.Trade}
    (hfirst : first.Priced fees source destination less gain trade)
    (hsecond : second.Priced fees source destination more gain' trade')
    (hnet : less - first.fee ≤ more - second.fee) : first.amountOut ≤ second.amountOut := by
  obtain ⟨hx, hy, hreceived⟩ := ConstantProduct.balances_of_swap hfirst.trade_eq
  have hgain := hfirst.source_backed.gain_mono (hfirst.source_backed.withdrawable_pos hx) hnet
    hfirst.gain_eq hsecond.gain_eq
  have hout := ConstantProduct.received_mono hgain hfirst.trade_eq hsecond.trade_eq
  exact hfirst.destination_backed.payout_mono (hfirst.destination_backed.withdrawable_pos hy)
    (Int.le_of_lt hreceived) hout hfirst.payout_eq hsecond.payout_eq

/-- On a constant product pool, a larger input buys no less where the fees rise by no more than it
does: so where there is only one fee, and where what the two leave of the increase comes to a whole
unit. Fees that leave anything at all never rise by more than one above the increase. -/
theorem swapQuote_larger_input {snapshot : Snapshot} {mint : String}
    {less more slippage slippage' : Int} {first second : SwapQuote}
    (hcurve : snapshot.curve = .constantProduct) (hle : less ≤ more)
    (hfirst : (snapshot.swapQuote mint less slippage).outcome = .ok first)
    (hsecond : (snapshot.swapQuote mint more slippage').outcome = .ok second) :
    (second.fee - first.fee ≤ more - less → first.amountOut ≤ second.amountOut) ∧
    (snapshot.fees.tradeNumerator = 0 ∨ snapshot.fees.ownerNumerator = 0 ∨
        snapshot.fees.tradeDenominator * snapshot.fees.ownerDenominator ≤
          (more - less) * snapshot.fees.keptShare →
      first.amountOut ≤ second.amountOut) ∧
    (0 ≤ snapshot.fees.keptShare → second.fee - first.fee ≤ more - less + 1) := by
  obtain ⟨direction, a, b, gain, trade, hdirection, hpositions, hfirst⟩ :=
    Snapshot.swapQuote_priced hcurve hfirst
  obtain ⟨direction', a', b', gain', trade', hdirection', hpositions', hsecond⟩ :=
    Snapshot.swapQuote_priced hcurve hsecond
  obtain rfl : direction = direction' := Except.ok.inj (hdirection.symm.trans hdirection')
  obtain ⟨rfl, rfl⟩ : a = a' ∧ b = b' :=
    Prod.mk.injEq .. ▸ Except.ok.inj (hpositions.symm.trans hpositions')
  have hout : second.fee - first.fee ≤ more - less → first.amountOut ≤ second.amountOut :=
    fun hfees => hfirst.amountOut_le hsecond (by omega)
  refine ⟨hout, fun hfees => hout ?_, fun hkept => ?_⟩
  · rw [hfirst.fee_eq, hsecond.fee_eq]
    exact Fees.fee_growth_le hle hfees
  · rw [hfirst.fee_eq, hsecond.fee_eq]
    exact Fees.fee_growth_le_succ hle hkept

theorem swapQuote_larger_input_million :
    (Snapshot.million.swapQuote "A" 1999 100).outcome = .ok ⟨1999, 1991, 1971, 4, 4 / 1995⟩ ∧
    (Snapshot.million.swapQuote "A" 2002 50).outcome = .ok ⟨2002, 1992, 1982, 6, 4 / 1996⟩ ∧
    (1991 : Int) ≤ 1992 ∧ (6 : Int) - 4 ≤ 2002 - 1999 + 1 := by
  have hfirst : (Snapshot.million.swapQuote "A" 1999 100).outcome =
      .ok ⟨1999, 1991, 1971, 4, 4 / 1995⟩ := rfl
  have hsecond : (Snapshot.million.swapQuote "A" 2002 50).outcome =
      .ok ⟨2002, 1992, 1982, 6, 4 / 1996⟩ := rfl
  obtain ⟨_, hunit, hfees⟩ := swapQuote_larger_input rfl (by decide) hfirst hsecond
  exact ⟨hfirst, hsecond, hunit (.inr (.inr (by decide))), hfees (by decide)⟩

/-- Both fees step up at two thousand, so the last unit of it costs one unit of output. -/
theorem dearer_unit :
    (Snapshot.million.swapQuote "A" 1999 100).outcome = .ok ⟨1999, 1991, 1971, 4, 4 / 1995⟩ ∧
    (Snapshot.million.swapQuote "A" 2000 100).outcome = .ok ⟨2000, 1990, 1970, 6, 4 / 1994⟩ ∧
    ¬∀ (snapshot : Snapshot) (mint : String) (less more slippage : Int)
      (first second : SwapQuote), snapshot.curve = .constantProduct → 0 < less → less ≤ more →
      (snapshot.swapQuote mint less slippage).outcome = .ok first →
      (snapshot.swapQuote mint more slippage).outcome = .ok second →
      first.amountOut ≤ second.amountOut := by
  refine ⟨rfl, rfl, fun hall => ?_⟩
  have := hall Snapshot.million "A" 1999 2000 100 ⟨1999, 1991, 1971, 4, 4 / 1995⟩
    ⟨2000, 1990, 1970, 6, 4 / 1994⟩ rfl (by decide) (by decide) rfl rfl
  contradiction

end PoolPricing
