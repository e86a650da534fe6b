import PoolPricing.Quote.Swap
import PoolPricing.Proofs.ConstantProduct
import PoolPricing.Proofs.Refresh
import PoolPricing.Proofs.Vault
import Mathlib.Algebra.Order.Field.Rat
import Mathlib.Algebra.Order.Field.Basic
set_option autoImplicit false

namespace PoolPricing

open Checked

theorem Fees.split_ok {fees : Fees} {amount : Int} {split : Fees.Split}
    (h : fees.split amount = .ok split) :
    0 ≤ split.total ∧ split.net = amount - split.total := by
  obtain ⟨_, hguard, h⟩ := bind_eq_ok.mp h
  have hamount := requireNonnegativeShown_eq_ok.mp hguard
  have htrade : 0 ≤ fees.tradingFee amount :=
    Int.ediv_nonneg (Int.mul_nonneg hamount fees.trade_nonneg) (Int.le_of_lt fees.trade_pos)
  have howner : 0 ≤ fees.ownerFee amount :=
    Int.ediv_nonneg (Int.mul_nonneg hamount fees.owner_nonneg) (Int.le_of_lt fees.owner_pos)
  cases h
  simp only [Fees.Split.total]
  omega

theorem Slippage.least_ok {amount slippage least : Int} (hamount : 0 ≤ amount)
    (h : Slippage.least amount slippage = .ok least) : 0 ≤ least ∧ least ≤ amount := by
  obtain ⟨_, hguard, h⟩ := bind_eq_ok.mp h
  have hrange : 0 ≤ slippage ∧ slippage ≤ 10000 := by
    by_contra hout
    simp [Slippage.require, Slippage.scale, hout] at hguard
  cases h
  constructor
  · exact Int.ediv_nonneg (Int.mul_nonneg hamount (Int.sub_nonneg_of_le hrange.2)) (by decide)
  · refine Int.ediv_le_of_le_mul (by decide) ?_
    exact Int.mul_le_mul_of_nonneg_left (by simp only [Slippage.scale]; omega) hamount

theorem Curve.shortfall_bounds {spot actual : Int} (hactual : 0 < actual) :
    0 ≤ Curve.shortfall spot actual ∧ Curve.shortfall spot actual < 1 := by
  unfold Curve.shortfall
  by_cases hnone : spot ≤ 0 ∨ spot ≤ actual
  · simp [hnone]
  · have hspot : (0 : Rat) < spot := by
      exact_mod_cast (show 0 < spot by omega)
    rw [if_neg hnone, div_lt_one hspot]
    refine ⟨div_nonneg ?_ (le_of_lt hspot), ?_⟩
    · exact_mod_cast (show 0 ≤ spot - actual by omega)
    · exact_mod_cast (show spot - actual < spot by omega)

namespace Snapshot

theorem directionOf_of_admitSwap {snapshot : Snapshot} {mint : String} {direction : Direction}
    (h : snapshot.admitSwap mint = .ok direction) : snapshot.directionOf mint = .ok direction := by
  unfold admitSwap at h
  by_cases henabled : snapshot.enabled = true
  · by_cases hopen : snapshot.isActivated = true
    · simpa [henabled, hopen] using h
    · simp [henabled, hopen] at h
  · simp [henabled] at h

theorem positions_backed {snapshot : Snapshot} {a b : Position}
    (h : snapshot.positions = .ok (a, b)) : a.Backed ∧ b.Backed := by
  obtain ⟨a', ha, h⟩ := bind_eq_ok.mp h
  obtain ⟨b', hb, h⟩ := bind_eq_ok.mp h
  cases h
  exact ⟨Holding.position_backed ha, Holding.position_backed hb⟩

theorem vaultedInput_ok {source : Position} {net gain : Int}
    (h : vaultedInput source net = .ok gain) : source.gain net = .ok gain ∧ 1 ≤ gain := by
  obtain ⟨found, hgain, h⟩ := bind_eq_ok.mp h
  by_cases hlost : found ≤ 0
  · simp [hlost] at h
  · simp only [hlost, if_false, pure_eq_ok] at h
    subst h
    exact ⟨hgain, by omega⟩

theorem vaultedOutput_ok {destination : Position} {out paid : Int}
    (h : vaultedOutput destination out = .ok paid) :
    destination.payout out = .ok paid ∧ 0 < paid ∧ paid < destination.payable := by
  obtain ⟨found, hpaid, h⟩ := bind_eq_ok.mp h
  by_cases hlost : found ≤ 0
  · simp [hlost] at h
  · by_cases hshort : destination.payable ≤ found
    · simp [hlost, hshort] at h
    · simp only [hlost, hshort, if_false, pure_eq_ok] at h
      subst h
      exact ⟨hpaid, by omega, by omega⟩

end Snapshot

theorem Position.Backed.amount_nonneg {position : Position} (h : position.Backed) :
    0 ≤ position.amount := by
  rw [h.amount_eq]
  exact Int.ediv_nonneg (Int.mul_nonneg h.shares_nonneg h.withdrawable_nonneg)
    (Int.le_of_lt h.supply_pos)

theorem Curve.impact_bounds {curve : Curve} {direction : Direction} {amount x y out : Int}
    {impact : Rat} (hout : 0 < out)
    (h : (curve.priceImpact direction amount x y out).outcome = .ok impact) :
    0 ≤ impact ∧ impact < 1 := by
  simp only [Curve.priceImpact, Run.outcome_bind, Run.outcome_pure, bind_eq_ok] at h
  obtain ⟨spot, _, h⟩ := h
  cases h
  exact Curve.shortfall_bounds hout

theorem Curve.constantProduct_le {direction : Direction} {gain x y out paid received : Int}
    (hgain : 0 ≤ gain) (hx : 0 ≤ x) (hy : 0 ≤ y) (hpaid : gain ≤ paid) (hreceived : received ≤ out)
    (h : (Curve.constantProduct.amountOut direction gain x y).outcome = .ok out) :
    x * y ≤ (x + paid) * (y - received) := by
  simp only [Curve.amountOut, Run.outcome_bind, Run.outcome_liftM, Run.outcome_pure, bind_eq_ok]
    at h
  obtain ⟨trade, htrade, h⟩ := h
  cases h
  have hsound := ConstantProduct.swap_ok hgain hx hy htrade
  have hleft := hsound.newDestination_pos
  have hproduct := hsound.product_le
  rw [hsound.newSource_eq, hsound.newDestination_eq, hsound.paid_eq] at hproduct
  rw [hsound.newDestination_eq] at hleft
  calc x * y ≤ (x + gain) * (y - trade.received) := hproduct
    _ ≤ (x + paid) * (y - trade.received) :=
      Int.mul_le_mul_of_nonneg_right (by omega) (Int.le_of_lt hleft)
    _ ≤ (x + paid) * (y - received) := Int.mul_le_mul_of_nonneg_left (by omega) (by omega)

/-- A quote that the pool can honour, where `gain` of the input reaches the curve and the curve
prices it at `out`. -/
structure SwapQuote.Sound (quote : SwapQuote) (amount gain out : Int) (destination : Position) :
    Prop where
  amountIn_eq : quote.amountIn = amount
  fee_nonneg : 0 ≤ quote.fee
  fee_lt : quote.fee < amount
  gain_pos : 1 ≤ gain
  gain_le : gain ≤ amount - quote.fee
  amountOut_pos : 0 < quote.amountOut
  amountOut_le : quote.amountOut ≤ out
  amountOut_lt : quote.amountOut < min destination.amount destination.reserve
  leastOut_nonneg : 0 ≤ quote.leastOut
  leastOut_le : quote.leastOut ≤ quote.amountOut
  priceImpact_nonneg : 0 ≤ quote.priceImpact
  priceImpact_lt_one : quote.priceImpact < 1

/-- A quote for a swap is sound on every snapshot, and on a constant product pool the product of the
balances survives it. -/
theorem swapQuote_sound {snapshot : Snapshot} {mint : String} {amount slippage : Int}
    {quote : SwapQuote} (h : (snapshot.swapQuote mint amount slippage).outcome = .ok quote) :
    ∃ (direction : Direction) (fresh : Snapshot) (a b : Position) (gain out : Int),
      snapshot.directionOf mint = .ok direction ∧
      snapshot.refreshed.outcome = .ok fresh ∧
      snapshot.positions = .ok (a, b) ∧
      (direction.source a b).gain (amount - quote.fee) = .ok gain ∧
      (fresh.curve.amountOut direction gain (direction.source a b).amount
        (direction.destination a b).amount).outcome = .ok out ∧
      quote.Sound amount gain out (direction.destination a b) ∧
      (snapshot.curve = .constantProduct →
        (direction.source a b).amount * (direction.destination a b).amount ≤
          ((direction.source a b).amount + amount - quote.fee) *
            ((direction.destination a b).amount - quote.amountOut)) := by
  simp only [Snapshot.swapQuote, Run.outcome_bind, Run.outcome_liftM, Run.outcome_ite,
    Run.outcome_throw, Run.outcome_pure, error_bind, bind_eq_ok, guard_eq_ok, Except.ok.injEq] at h
  obtain ⟨direction, hadmit, hamount, fresh, hfresh, ⟨a, b⟩, hpositions, split, hsplit, gain,
    hinput, out, hout, impact, himpact, paid, houtput, least, hleast, rfl⟩ := h
  obtain ⟨hsame, hfees⟩ := Snapshot.refreshed_positions hfresh
  rw [hsame] at hpositions
  obtain ⟨ha, hb⟩ := Snapshot.positions_backed hpositions
  have hsource : (direction.source a b).Backed := by cases direction <;> assumption
  have hdestination : (direction.destination a b).Backed := by cases direction <;> assumption
  obtain ⟨hfee, hnet⟩ := Fees.split_ok hsplit
  obtain ⟨hgain, hgain_pos⟩ := Snapshot.vaultedInput_ok hinput
  rw [hnet] at hgain
  have hgain_le := hsource.gain_le hgain
  obtain ⟨hpayout, hpaid_pos, hpaid_lt⟩ := Snapshot.vaultedOutput_ok houtput
  have hpaid_le := hdestination.payout_le hpayout
  obtain ⟨hleast_nonneg, hleast_le⟩ := Slippage.least_ok (Int.le_of_lt hpaid_pos) hleast
  obtain ⟨himpact_nonneg, himpact_lt⟩ := Curve.impact_bounds (by omega) himpact
  refine ⟨direction, fresh, a, b, gain, out, Snapshot.directionOf_of_admitSwap hadmit, hfresh,
    hpositions, hgain, hout, ⟨rfl, hfee, ?_, hgain_pos, hgain_le, hpaid_pos, hpaid_le, hpaid_lt,
    hleast_nonneg, hleast_le, himpact_nonneg, himpact_lt⟩, fun hcurve => ?_⟩
  · dsimp only
    omega
  · rw [Snapshot.refreshed_constantProduct hfresh hcurve] at hout
    rw [Int.add_sub_assoc]
    exact Curve.constantProduct_le (by omega) hsource.amount_nonneg hdestination.amount_nonneg
      hgain_le hpaid_le hout

def Word.million : Word := ⟨1000000, by decide, by decide⟩

theorem Holding.mintA_nonempty : "A" ≠ "" := by decide

theorem Holding.mintB_nonempty : "B" ≠ "" := by decide

def Snapshot.million : Snapshot where
  a := ⟨"A", ⟨1000000, .empty, by decide⟩, ⟨1000000, by decide, by decide⟩,
    ⟨1000000, by decide, by decide⟩, ⟨1000000, by decide, by decide⟩, by decide, by decide⟩
  b := ⟨"B", ⟨1000000, .empty, by decide⟩, ⟨1000000, by decide, by decide⟩,
    ⟨1000000, by decide, by decide⟩, ⟨1000000, by decide, by decide⟩, by decide, by decide⟩
  curve := .constantProduct
  fees := .ofConstantProduct
  enabled := true
  lpSupply := ⟨1000000, by decide, by decide⟩
  time := .zero
  sources := []
  clock := .timestamp
  opens := .zero
  slot := .zero
  mints_differ := by decide

def Holding.sole (mint : String) (amount reserve : Word) (h : mint ≠ "") : Holding :=
  ⟨mint, ⟨amount, .empty, amount.nonneg⟩, amount, amount, reserve, h, Int.le_refl _⟩

theorem swapQuote_sound_million :
    (Snapshot.million.swapQuote "A" 10000 100).outcome =
      .ok ⟨10000, 9871, 9772, 30, 99 / 9970⟩ ∧
    ∃ (gain out : Int) (destination : Position),
      SwapQuote.Sound ⟨10000, 9871, 9772, 30, 99 / 9970⟩ 10000 gain out destination := by
  have h : (Snapshot.million.swapQuote "A" 10000 100).outcome =
      .ok ⟨10000, 9871, 9772, 30, 99 / 9970⟩ := rfl
  obtain ⟨_, _, _, _, gain, out, _, _, _, _, _, hsound, _⟩ := swapQuote_sound h
  exact ⟨h, gain, out, _, hsound⟩

end PoolPricing
