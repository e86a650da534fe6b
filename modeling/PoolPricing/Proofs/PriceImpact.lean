import PoolPricing.Proofs.SwapQuote
import Mathlib.Tactic.Linarith
import Mathlib.Tactic.Ring
set_option autoImplicit false

/-!
How accurate the price impact of a swap is on a constant product curve. But for rounding, an amount
paid into a balance `x` moves the price by `amount / (x + amount)`. What is reported compares two
whole numbers, the output at the spot price and the output itself. Both are rounded down, so their
roundings go against each other, and what is reported is off by at most the part that one unit is of
the spot output (`priceImpact_within_unit`).
-/

namespace PoolPricing

open Checked

namespace ConstantProduct

theorem spotAmount_of_pos (amount y : Int) {x : Int} (hx : 0 < x) :
    spotAmount amount x y = .ok (amount * y / x) := by
  rw [spotAmount, if_neg (Int.ne_of_gt hx), floorDivide_of_pos _ hx]

section

variable {amount x y : Int} (hamount : 0 ≤ amount) (hx : 0 < x)
include hamount hx

theorem bought_le_spot (hy : 0 ≤ y) : bought amount x y ≤ amount * y / x := by
  rw [bought, Int.mul_comm y]
  exact Number.ediv_le_ediv_of_cross (by omega) hx
    (Int.mul_le_mul_of_nonneg_left (by omega) (Int.mul_nonneg hamount hy))

/-- The spot output on the source as it was and the output on the source as it is afterwards both
come to nearly `amount * y`. -/
theorem abs_spot_sub_bought_le :
    |amount * y / x * x - bought amount x y * (x + amount)| ≤ x + amount := by
  have hsum : 0 < x + amount := by omega
  have hspot_le := Int.ediv_mul_le (amount * y) (Int.ne_of_gt hx)
  have hspot_lt := Int.lt_ediv_add_one_mul_self (amount * y) hx
  have hbought_le := Int.ediv_mul_le (y * amount) (Int.ne_of_gt hsum)
  have hbought_lt := Int.lt_ediv_add_one_mul_self (y * amount) hsum
  change bought amount x y * _ ≤ _ at hbought_le
  change _ < (bought amount x y + 1) * _ at hbought_lt
  rw [abs_le]
  constructor <;> linarith

end
end ConstantProduct

namespace Curve

theorem shortfall_eq {spot actual : Int} (hactual : 0 < actual) (hle : actual ≤ spot) :
    shortfall spot actual = ((spot : Rat) - actual) / spot := by
  unfold shortfall
  by_cases hequal : spot = actual
  · rw [if_pos (.inr (by omega)), hequal, sub_self, zero_div]
  · rw [if_neg (by omega), Int.cast_sub]

theorem abs_shortfall_sub_le {spot actual amount x : Int} (hactual : 0 < actual)
    (hle : actual ≤ spot) (hsum : 0 < x + amount)
    (herror : |spot * x - actual * (x + amount)| ≤ x + amount) :
    |shortfall spot actual - (amount : Rat) / ((x : Rat) + amount)| ≤ 1 / (spot : Rat) := by
  have hspot : (0 : Rat) < spot := by exact_mod_cast Int.lt_of_lt_of_le hactual hle
  have hsource : (0 : Rat) < (x : Rat) + amount := by exact_mod_cast hsum
  have hbound : |(spot : Rat) * x - actual * ((x : Rat) + amount)| ≤ (x : Rat) + amount := by
    exact_mod_cast herror
  have hdifference : shortfall spot actual - (amount : Rat) / ((x : Rat) + amount) =
      ((spot : Rat) * x - actual * ((x : Rat) + amount)) / (spot * ((x : Rat) + amount)) := by
    rw [shortfall_eq hactual hle, div_sub_div _ _ hspot.ne' hsource.ne']
    congr 1
    ring
  calc |shortfall spot actual - (amount : Rat) / ((x : Rat) + amount)|
      = |(spot : Rat) * x - actual * ((x : Rat) + amount)| / (spot * ((x : Rat) + amount)) := by
        rw [hdifference, abs_div, abs_of_pos (mul_pos hspot hsource)]
    _ ≤ ((x : Rat) + amount) / (spot * ((x : Rat) + amount)) :=
        div_le_div_of_nonneg_right hbound (mul_pos hspot hsource).le
    _ = 1 / (spot : Rat) := by rw [div_mul_cancel_right₀ hsource.ne', one_div]

theorem constantProduct_amountOut_ok {direction : Direction} {amount x y out : Int}
    (h : (Curve.constantProduct.amountOut direction amount x y).outcome = .ok out) :
    0 ≤ amount ∧ 0 < x ∧ 0 < y ∧ 0 < out ∧ out = ConstantProduct.bought amount x y := by
  simp only [amountOut, Run.outcome_bind, Run.outcome_liftM, Run.outcome_pure, bind_eq_ok] at h
  obtain ⟨trade, htrade, h⟩ := h
  obtain ⟨hx, hy, hreceived⟩ := ConstantProduct.balances_of_swap htrade
  obtain ⟨hamount, _, _, _, _, _, rfl⟩ := ConstantProduct.swap_eq_ok.mp htrade
  cases h
  exact ⟨hamount, hx, hy, hreceived, rfl⟩

end Curve

/-- Where a constant product curve sells anything for an input, the output is at least one and at
most what the spot price promises, and the price impact is a fraction below one that is within one
unit of that promise of the exact impact. -/
theorem priceImpact_within_unit {direction : Direction} {amount x y out : Int}
    (h : (Curve.constantProduct.amountOut direction amount x y).outcome = .ok out) :
    ∃ impact : Rat,
      (Curve.constantProduct.spotAmountOut direction amount x y).outcome = .ok (amount * y / x) ∧
      1 ≤ out ∧ out ≤ amount * y / x ∧
      (Curve.constantProduct.priceImpact direction amount x y out).outcome = .ok impact ∧
      0 ≤ impact ∧ impact < 1 ∧
      |impact - (amount : Rat) / ((x : Rat) + amount)| ≤ 1 / ((amount * y / x : Int) : Rat) := by
  obtain ⟨hamount, hx, hy, hout, rfl⟩ := Curve.constantProduct_amountOut_ok h
  have hle := ConstantProduct.bought_le_spot hamount hx (Int.le_of_lt hy)
  have hspot : (Curve.constantProduct.spotAmountOut direction amount x y).outcome =
      .ok (amount * y / x) := ConstantProduct.spotAmount_of_pos amount y hx
  have himpact : (Curve.constantProduct.priceImpact direction amount x y
      (ConstantProduct.bought amount x y)).outcome =
      .ok (Curve.shortfall (amount * y / x) (ConstantProduct.bought amount x y)) := by
    rw [Curve.priceImpact, Run.outcome_bind, hspot, ok_bind, Run.outcome_pure]
  obtain ⟨hnonneg, hlt⟩ := Curve.impact_bounds hout himpact
  exact ⟨_, hspot, hout, hle, himpact, hnonneg, hlt, Curve.abs_shortfall_sub_le hout hle (by omega)
    (ConstantProduct.abs_spot_sub_bought_le hamount hx)⟩

theorem priceImpact_within_unit_thousand :
    (Curve.constantProduct.amountOut .aToB 1 1000 2000).outcome = .ok 1 ∧
    (Curve.constantProduct.priceImpact .aToB 1 1000 2000 1).outcome = .ok (1 / 2) ∧
    |(1 / 2 : Rat) - ((1 : Int) : Rat) / (((1000 : Int) : Rat) + ((1 : Int) : Rat))| ≤
      1 / ((1 * 2000 / 1000 : Int) : Rat) := by
  have h : (Curve.constantProduct.amountOut .aToB 1 1000 2000).outcome = .ok 1 := rfl
  have himpact : (Curve.constantProduct.priceImpact .aToB 1 1000 2000 1).outcome = .ok (1 / 2) :=
    rfl
  obtain ⟨impact, _, _, _, hfound, _, _, hwithin⟩ := priceImpact_within_unit h
  obtain rfl : 1 / 2 = impact := Except.ok.inj (himpact.symm.trans hfound)
  exact ⟨h, himpact, hwithin⟩

end PoolPricing
