import PoolPricing.Proofs.LeastInput
import PoolPricing.Proofs.Refusal.Curve
import PoolPricing.Proofs.StableRuns
set_option autoImplicit false

/-!
An exact output against an exact input. What the curve asks for an output is the least input that
buys as much: on either curve less of it buys less than that output (`Curve.amountOut_lt`), provided
that on a stable curve the solver was not cut off.
-/

namespace PoolPricing

open Checked

theorem ConstantProduct.received_lt {out x y price amount : Int} {trade : Trade}
    (hprice : amountFor out x y = .ok price) (hless : amount < price)
    (htrade : swap amount x y = .ok trade) : trade.received < out := by
  obtain ⟨_, _, hkept, rfl⟩ := amountFor_eq_ok.mp hprice
  obtain ⟨_, _, _, hsum, _, _, rfl⟩ := swap_eq_ok.mp htrade
  by_contra henough
  have := (le_bought_iff hsum hkept).mp (Int.not_lt.mp henough)
  omega

namespace StableCurve

open StableSwap

theorem canPrice_of_upscalePair {curve : StableCurve} {direction : Direction} {x y : Int}
    {pair : Int × Int} (h : curve.upscalePair direction x y = .ok pair) : curve.CanPrice := by
  obtain ⟨_, hx, h⟩ := bind_eq_ok.mp h
  obtain ⟨_, hy, _⟩ := bind_eq_ok.mp h
  cases direction with
  | aToB =>
    obtain ⟨_, hfactor, _⟩ := bind_eq_ok.mp hy
    exact canPrice_of_priceFactorB hfactor
  | bToA =>
    obtain ⟨_, hfactor, _⟩ := bind_eq_ok.mp hx
    exact canPrice_of_priceFactorB hfactor

section

variable {curve : StableCurve} (h : curve.CanPrice) {direction : Direction} {out x y : Int}
include h

theorem amountIn_eq (hkept : out < y) :
    curve.amountIn direction out x y =
      StableSwap.invariant curve.amp (x * curve.factor direction)
          (y * curve.factor direction.reverse) >>= fun d =>
        StableSwap.balance curve.amp
            ((y - out) * curve.factor direction.reverse) d >>= fun needed =>
          if (needed - x * curve.factor direction) / curve.factor direction ≤ 0 then
            throw (.tooSmall .swapIsZero)
          else pure ((needed - x * curve.factor direction) / curve.factor direction) := by
  have htaken : ¬y * curve.factor direction.reverse ≤ out * curve.factor direction.reverse :=
    Int.not_le.mpr (Int.mul_lt_mul_of_pos_right hkept (factor_pos h direction.reverse))
  simp only [amountIn, upscalePair_eq h, upscaleDestination, upscaleSource_eq h,
    downscaleSource_eq h, Run.liftM_ok_bind, htaken, if_false, Int.sub_mul]
  rfl

end

/-- A price that a stable curve asks for an output, and where it comes from. -/
structure PricedOut (curve : StableCurve) (direction : Direction) (out x y price d needed : Int) :
    Prop where
  canPrice : curve.CanPrice
  source_pos : 0 < x
  kept : out < y
  price_pos : 0 < price
  invariant_eq : (StableSwap.invariant curve.amp (x * curve.factor direction)
    (y * curve.factor direction.reverse)).outcome = .ok d
  needed_eq :
    (StableSwap.balance curve.amp ((y - out) * curve.factor direction.reverse) d).outcome =
      .ok needed
  price_le : price * curve.factor direction ≤ needed - x * curve.factor direction
  noted : .unconverged .balance ∉ (curve.amountIn direction out x y).events →
    .unconverged .balance ∉
      (StableSwap.balance curve.amp ((y - out) * curve.factor direction.reverse) d).events

theorem amountIn_ok {curve : StableCurve} {direction : Direction} {out x y price : Int}
    (hout : 0 < out) (hprice : (curve.amountIn direction out x y).outcome = .ok price) :
    ∃ d needed, curve.PricedOut direction out x y price d needed := by
  obtain ⟨h, hkept⟩ : curve.CanPrice ∧ out < y := by
    have hfound := hprice
    simp only [amountIn, Run.outcome_bind, Run.outcome_liftM, Run.outcome_ite, Run.outcome_throw,
      error_bind, bind_eq_ok, guard_eq_ok] at hfound
    obtain ⟨pair, hpair, taken, htaken, hkept, _⟩ := hfound
    have h := canPrice_of_upscalePair hpair
    rw [upscalePair_eq h] at hpair
    rw [upscaleDestination, upscaleSource_eq h] at htaken
    cases hpair
    cases htaken
    exact ⟨h, Int.lt_of_mul_lt_mul_right (Int.not_le.mp hkept)
      (Int.le_of_lt (factor_pos h direction.reverse))⟩
  have hf := factor_pos h direction
  have hg := factor_pos h direction.reverse
  have heq : curve.amountIn direction out x y = _ := amountIn_eq h hkept
  rw [heq] at hprice
  simp only [Run.outcome_bind, Run.outcome_ite, Run.outcome_throw, Run.outcome_pure, bind_eq_ok,
    guard_eq_ok, Except.ok.injEq] at hprice
  obtain ⟨d, hd, needed, hneeded, hpos, rfl⟩ := hprice
  have hsource : 0 < x * curve.factor direction := by
    have hY : 0 < y * curve.factor direction.reverse := Int.mul_pos (by omega) hg
    obtain ⟨hX, _⟩ | ⟨_, hzero, _⟩ | ⟨_, _, hrefused⟩ := invariant_cases curve.amp_pos
      (x * curve.factor direction) (y * curve.factor direction.reverse)
    · exact hX
    · omega
    · rw [hd] at hrefused
      contradiction
  refine ⟨d, needed, h, (mul_pos_iff_of_pos_right hf).mp hsource, hkept, by omega, hd, hneeded,
    Int.ediv_mul_le _ (Int.ne_of_gt hf), fun hquiet => ?_⟩
  rw [heq] at hquiet
  exact (Run.not_mem_events_bind ((Run.not_mem_events_bind hquiet).2 d hd)).1

theorem PricedOut.amountOut_cases {curve : StableCurve} {direction : Direction}
    {out x y price d needed amount : Int} (h : curve.PricedOut direction out x y price d needed)
    (hout : 0 < out) (hamount : 0 ≤ amount) :
    (curve.amountOut direction amount x y).outcome = .error (.tooSmall .swapIsZero) ∨
      ∃ paid, (curve.amountOut direction amount x y).outcome = .ok paid ∧ 0 < paid ∧ paid < y ∧
        (.unconverged .balance ∉ (curve.amountIn direction out x y).events → amount < price →
          paid < out) := by
  have hf := factor_pos h.canPrice direction
  have hg := factor_pos h.canPrice direction.reverse
  have hX := Int.mul_pos h.source_pos hf
  have hkept := h.kept
  have hY : 0 < y * curve.factor direction.reverse := Int.mul_pos (by omega) hg
  obtain ⟨hpos, _⟩ := invariant_above curve.amp_pos hX hY h.invariant_eq
  obtain ⟨left, hleft, hnonneg, _, hrefused | ⟨paid, hpaid, hsome, hcovered⟩⟩ :=
    StableCurve.amountOut_cases h.canPrice h.source_pos hamount (Int.le_of_lt hpos) h.invariant_eq
  · exact .inl hrefused
  refine .inr ⟨paid, hpaid, hsome, ?_, fun hquiet hless => ?_⟩
  · have := (mul_pos_iff_of_pos_right hg).mp (show 0 < (y - paid) * curve.factor direction.reverse
      by omega)
    omega
  · have hwithin := Int.mul_nonneg hamount (Int.le_of_lt hf)
    have hunder := Int.mul_le_mul_of_nonneg_right (Int.add_one_le_of_lt hless) (Int.le_of_lt hf)
    have hprice := h.price_le
    rw [Int.add_mul] at hunder
    have hmore := le_balance_of_lt curve.amp_pos (by omega)
      (Int.mul_pos (Int.sub_pos_of_lt hkept) hg) (Int.le_of_lt hpos) h.needed_eq (h.noted hquiet)
      (by omega) hleft
    have := Int.lt_of_mul_lt_mul_right (show (y - out) * curve.factor direction.reverse <
      (y - paid) * curve.factor direction.reverse by omega) (Int.le_of_lt hg)
    omega

theorem PricedOut.spotAmountOut_ok {curve : StableCurve} {direction : Direction}
    {out x y price d needed : Int} (h : curve.PricedOut direction out x y price d needed)
    (hout : 0 < out) (amount : Int) :
    ∃ spot, (curve.spotAmountOut direction amount x y).outcome = .ok spot := by
  have hX := Int.mul_pos h.source_pos (factor_pos h.canPrice direction)
  have hkept := h.kept
  have hY : 0 < y * curve.factor direction.reverse :=
    Int.mul_pos (by omega) (factor_pos h.canPrice direction.reverse)
  have hnone : ¬(x * curve.factor direction = 0 ∨ y * curve.factor direction.reverse = 0) := by
    omega
  obtain ⟨spot, hspot⟩ : ∃ spot, spotAmount curve.amp (amount * curve.factor direction)
      (x * curve.factor direction) (y * curve.factor direction.reverse) d = .ok spot := by
    unfold spotAmount
    cases hslope : slope? curve.amp (x * curve.factor direction)
        (y * curve.factor direction.reverse) d with
    | none => exact ⟨0, rfl⟩
    | some slope => exact ⟨_, floorDivide_of_pos _ (slope?_denominator_pos hslope)⟩
  simp only [spotAmountOut, Run.outcome_bind, Run.outcome_liftM, Run.outcome_ite,
    upscalePair_eq h.canPrice, upscaleSource_eq h.canPrice, downscaleDestination,
    downscaleSource_eq h.canPrice, ok_bind, hnone, if_false, h.invariant_eq, hspot]
  exact ⟨_, rfl⟩

end StableCurve

namespace Curve

section

variable {curve : Curve} {direction : Direction} {out x y price : Int} (hout : 0 < out)
  (hprice : (curve.amountIn direction out x y).outcome = .ok price)
include hout hprice

theorem balances_of_amountIn : 0 < x ∧ out < y ∧ 0 < price := by
  cases curve with
  | constantProduct =>
    obtain ⟨hx, hsome, hkept, rfl⟩ := ConstantProduct.amountFor_eq_ok.mp hprice
    exact ⟨hx, hkept, ConstantProduct.cost_pos hx hsome hkept⟩
  | stable curve =>
    obtain ⟨_, _, h⟩ := StableCurve.amountIn_ok hout hprice
    exact ⟨h.source_pos, h.kept, h.price_pos⟩

/-- Where an output has a price, an exact input is refused for being too small or buys less than the
whole balance, and less than that output if it is less than the price. -/
theorem amountOut_lt {amount : Int} (hamount : 0 ≤ amount) :
    (∃ cause, (curve.amountOut direction amount x y).outcome = .error (.tooSmall cause)) ∨
      ∃ paid, (curve.amountOut direction amount x y).outcome = .ok paid ∧ 0 < paid ∧ paid < y ∧
        (.unconverged .balance ∉ (curve.amountIn direction out x y).events → amount < price →
          paid < out) := by
  cases curve with
  | constantProduct =>
    obtain ⟨hx, _, hkept, _⟩ := ConstantProduct.amountFor_eq_ok.mp hprice
    obtain ⟨cause, hrefused⟩ | ⟨trade, htrade, hsound⟩ :=
      ConstantProduct.swap_cases hamount (Int.le_of_lt hx) (show 0 ≤ y by omega)
    · refine .inl ⟨cause, ?_⟩
      simp only [amountOut, Run.outcome_bind, Run.outcome_liftM, hrefused, error_bind]
    · have hleft := hsound.newDestination_pos
      rw [hsound.newDestination_eq] at hleft
      refine .inr ⟨trade.received, ?_, hsound.received_pos, by omega, fun _ hless => ?_⟩
      · simp only [amountOut, Run.outcome_bind, Run.outcome_liftM, Run.outcome_pure, htrade,
          ok_bind]
      · exact ConstantProduct.received_lt hprice hless htrade
  | stable curve =>
    obtain ⟨_, _, h⟩ := StableCurve.amountIn_ok hout hprice
    obtain hrefused | hpaid := h.amountOut_cases hout hamount
    · exact .inl ⟨_, hrefused⟩
    · exact .inr hpaid

theorem priceImpact_ok (amount actual : Int) :
    ∃ impact, (curve.priceImpact direction amount x y actual).outcome = .ok impact := by
  obtain ⟨spot, hspot⟩ : ∃ spot, (curve.spotAmountOut direction amount x y).outcome = .ok spot := by
    cases curve with
    | constantProduct =>
      obtain ⟨hx, _⟩ := ConstantProduct.amountFor_eq_ok.mp hprice
      refine ⟨_, (if_neg (Int.ne_of_gt hx)).trans (floorDivide_of_pos _ hx)⟩
    | stable curve =>
      obtain ⟨_, _, h⟩ := StableCurve.amountIn_ok hout hprice
      exact h.spotAmountOut_ok hout amount
  simp only [priceImpact, Run.outcome_bind, Run.outcome_pure, hspot, ok_bind]
  exact ⟨_, rfl⟩

end
end Curve
end PoolPricing
