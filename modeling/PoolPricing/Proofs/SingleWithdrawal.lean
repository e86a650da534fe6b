import PoolPricing.Proofs.BalancedWithdrawal
import PoolPricing.Proofs.CurveScale
import PoolPricing.Proofs.StableSwap.Withdrawal
set_option autoImplicit false

namespace PoolPricing

open Checked

theorem StableCurve.withdrawOne_bounds {curve : StableCurve} {fees : Fees} {direction : Direction}
    {burned supply x y out : Int} (hburned : 0 < burned)
    (h : (curve.withdrawOne fees direction burned supply x y).outcome = .ok out) :
    0 ≤ out ∧ out ≤ direction.destination x y := by
  simp only [withdrawOne, Run.outcome_bind, Run.outcome_liftM, bind_eq_ok] at h
  obtain ⟨Y, hY, released, hreleased, hout⟩ := h
  obtain ⟨_, hfactor, _⟩ := bind_eq_ok.mp hY
  have hcan := canPrice_of_priceFactorB hfactor
  have hf := factor_pos hcan direction.reverse
  obtain ⟨_, _, hnonneg, hle, _⟩ :=
    StableSwap.withdrawOne_keeps curve.amp_pos fees.trade_nonneg hburned hreleased
  have hscaled : direction.destination (curve.upscaleA x) Y =
      direction.destination x y * curve.factor direction.reverse := by
    cases (upscaleSource_eq hcan .bToA y).symm.trans hY
    cases direction <;> rfl
  rw [hscaled] at hle
  rw [downscaleDestination, downscaleSource_eq hcan] at hout
  cases hout
  exact ⟨Int.ediv_nonneg hnonneg (Int.le_of_lt hf), Int.ediv_le_of_le_mul hf hle⟩

theorem Curve.withdrawOne_bounds {curve : Curve} {fees : Fees} {direction : Direction}
    {burned supply x y out : Int} (hburned : 0 < burned)
    (h : (curve.withdrawOne fees direction burned supply x y).outcome = .ok out) :
    0 ≤ out ∧ out ≤ direction.destination x y := by
  cases curve with
  | constantProduct => contradiction
  | stable curve => exact StableCurve.withdrawOne_bounds hburned h

namespace Snapshot

theorem singleWithdrawal_ok {fresh : Snapshot} {a b : Position} {burned slippage : Int}
    {mint : String} {quote : WithdrawalQuote}
    (h : (fresh.singleWithdrawal a b burned slippage mint).outcome = .ok quote) :
    ∃ direction out, fresh.directionOf mint = .ok direction ∧
      (fresh.curve.withdrawOne fresh.fees direction.reverse burned fresh.lpSupply a.amount
        b.amount).outcome = .ok out ∧
      (direction.source a b).payout out = .ok (direction.source quote.amountA quote.amountB) ∧
      direction.destination quote.amountA quote.amountB = 0 := by
  simp only [singleWithdrawal, Run.outcome_bind, Run.outcome_liftM, Run.outcome_pure, bind_eq_ok]
    at h
  obtain ⟨direction, hdirection, out, hout, paid, hpaid, least, _, h⟩ := h
  refine ⟨direction, out, hdirection, hout, ?_⟩
  cases direction <;> cases h <;> exact ⟨hpaid, rfl⟩

/-- A withdrawal in one token pays in that token only, and no more than the pool has of it. -/
theorem withdrawalQuote_single {snapshot : Snapshot} {burned slippage : Int} {mint : String}
    {quote : WithdrawalQuote}
    (h : (snapshot.withdrawalQuote burned slippage (some mint)).outcome = .ok quote) :
    ∃ direction a b, snapshot.directionOf mint = .ok direction ∧ snapshot.positions = .ok (a, b) ∧
      direction.source quote.amountA quote.amountB ≤ (direction.source a b).amount ∧
      direction.destination quote.amountA quote.amountB = 0 := by
  simp only [withdrawalQuote, Run.outcome_bind, Run.outcome_liftM, bind_eq_ok, admitBurn_eq_ok] at h
  obtain ⟨_, ⟨hburned, _⟩, fresh, hfresh, ⟨a, b⟩, hpositions, h⟩ := h
  obtain ⟨direction, out, hdirection, hout, hpaid, hnone⟩ := singleWithdrawal_ok h
  rw [(refreshed_positions hfresh).1] at hpositions
  rw [refreshed_directionOf hfresh] at hdirection
  obtain ⟨ha, hb⟩ := positions_backed hpositions
  have hbacked : (direction.source a b).Backed := by cases direction <;> assumption
  have hside : direction.reverse.destination a.amount b.amount = (direction.source a b).amount := by
    cases direction <;> rfl
  refine ⟨direction, a, b, hdirection, hpositions, ?_, hnone⟩
  rw [← hside]
  exact Int.le_trans (hbacked.payout_le hpaid) (Curve.withdrawOne_bounds hburned hout).2

end Snapshot

/-- A withdrawal of something in the base token pays between nothing and the base balance, reduces
the invariant by no more than in proportion, and takes the pool at most one unit of the base token
below what the reduced invariant asks for, whether or not the solver converged. A quote for one pays
no more than the pool has on that side, and nothing on the other. -/
theorem singleWithdrawal_keeps :
    (∀ (amp numerator denominator supply base quote burned : Int) (result : StableSwap.Withdrawal),
      1 ≤ amp → 0 ≤ numerator → 1 ≤ burned →
      (StableSwap.withdrawOne amp numerator denominator supply base quote burned).outcome =
        .ok result →
      ∃ d0 d1, (StableSwap.invariant amp base quote).outcome = .ok d0 ∧
        d1 = d0 - burned * d0 / supply ∧
        0 ≤ result.amount ∧ result.amount ≤ base ∧ d0 * (supply - burned) ≤ d1 * supply ∧
        0 < StableSwap.surplus amp quote (base - result.amount + 1) d1) ∧
    ∀ (snapshot : Snapshot) (burned slippage : Int) (mint : String) (quote : WithdrawalQuote),
      (snapshot.withdrawalQuote burned slippage (some mint)).outcome = .ok quote →
      ∃ direction a b, snapshot.directionOf mint = .ok direction ∧
        snapshot.positions = .ok (a, b) ∧
        direction.source quote.amountA quote.amountB ≤ (direction.source a b).amount ∧
        direction.destination quote.amountA quote.amountB = 0 := by
  refine ⟨fun amp numerator denominator supply base quote burned result hamp hnumerator hburned h =>
      ?_,
    fun snapshot burned slippage mint quote h => Snapshot.withdrawalQuote_single h⟩
  obtain ⟨d0, hd0, hnonneg, hle, hkept, habove⟩ :=
    StableSwap.withdrawOne_keeps hamp hnumerator hburned h
  exact ⟨d0, _, hd0, rfl, hnonneg, hle, hkept, habove⟩

def Snapshot.stableMillion : Snapshot :=
  { Snapshot.million with
    curve := .stable (.hundredfold (.ofDecimals 6 6) .plain)
    mints_differ := by decide }

theorem singleWithdrawal_keeps_lopsided :
    (StableSwap.invariant 1 1020 1).outcome = .ok 196 ∧
    (StableSwap.withdrawOne 1 100 1000 100 1020 1 3).outcome = .ok ⟨39, 0⟩ ∧
    StableSwap.surplus 1 1 (1020 - 39) 191 < 0 ∧
    0 < StableSwap.surplus 1 1 (1020 - 39 + 1) 191 ∧
    (Snapshot.stableMillion.withdrawalQuote 500000 100 (some "B")).outcome =
      .ok ⟨500000, 0, 966171, 0, 956509⟩ ∧
    ∃ a b, Snapshot.stableMillion.positions = .ok (a, b) ∧ 966171 ≤ b.amount := by
  have hold : (StableSwap.invariant 1 1020 1).outcome = .ok 196 := rfl
  have hone : (StableSwap.withdrawOne 1 100 1000 100 1020 1 3).outcome = .ok ⟨39, 0⟩ := rfl
  have hquote : (Snapshot.stableMillion.withdrawalQuote 500000 100 (some "B")).outcome =
      .ok ⟨500000, 0, 966171, 0, 956509⟩ := rfl
  obtain ⟨hkernel, hquotes⟩ := singleWithdrawal_keeps
  obtain ⟨d0, d1, hd0, rfl, _, _, _, habove⟩ :=
    hkernel 1 100 1000 100 1020 1 3 ⟨39, 0⟩ (by decide) (by decide) (by decide) hone
  obtain rfl : 196 = d0 := Except.ok.inj (hold.symm.trans hd0)
  obtain ⟨direction, a, b, hdirection, hpositions, hle, _⟩ := hquotes _ _ _ _ _ hquote
  obtain rfl : Direction.bToA = direction :=
    Except.ok.inj ((show Snapshot.stableMillion.directionOf "B" = .ok .bToA from rfl).symm.trans
      hdirection)
  exact ⟨hold, hone, by decide, habove, hquote, a, b, hpositions, hle⟩

end PoolPricing
