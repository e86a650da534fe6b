import PoolPricing.Proofs.ExactOut
set_option autoImplicit false

/-!
How far a stable curve can undercharge for an exact output. Its price is rounded down, in scaling
and in the solvers, but one more than the solver's balance lies above the curve, and what scaling
down loses is less than a unit of the source. So one such unit on top of the price leaves the pool
strictly above the invariant it was priced at, a solver having been cut off or not
(`amountIn_short_by_one`).
-/

namespace PoolPricing.StableCurve

open Checked StableSwap

/-- Paying an amount for an output leaves balances `x` and `y` strictly above the invariant `d`. -/
def LeavesAbove (curve : StableCurve) (direction : Direction) (paid out x y d : Int) : Prop :=
  ∃ X Y, curve.upscalePair direction (x + paid) (y - out) = .ok (X, Y) ∧
    d ^ 3 < 4 * X * Y * (2 * curve.amp * (X + Y) - (2 * curve.amp - 1) * d)

theorem succ_le_of_ediv_le {needed x f n : Int} (hf : 0 < f) (h : (needed - x * f) / f ≤ n) :
    needed + 1 ≤ (x + (n + 1)) * f := by
  have hless := (Int.ediv_lt_iff_lt_mul hf).mp (Int.lt_add_one_of_le h)
  rw [Int.add_mul]
  omega

section

variable {curve : StableCurve} (h : curve.CanPrice) {direction : Direction} {out x y d : Int}
include h

theorem amountIn_of_drained (hdrained : y ≤ out) :
    (curve.amountIn direction out x y).outcome = .error (.tooSmall .drainsDestination) := by
  have htaken : y * curve.factor direction.reverse ≤ out * curve.factor direction.reverse :=
    Int.mul_le_mul_of_nonneg_right hdrained (Int.le_of_lt (factor_pos h direction.reverse))
  simp only [amountIn, upscalePair_eq h, upscaleDestination, upscaleSource_eq h, Run.liftM_ok_bind,
    htaken, if_true, Run.outcome_bind, Run.outcome_throw, error_bind]

variable (hkept : out < y)
include hkept

theorem leavesAbove_of_needed {needed paid : Int} (hd : 0 ≤ d) (hneeded : 0 ≤ needed)
    (hbeyond : 0 < surplus curve.amp ((y - out) * curve.factor direction.reverse) (needed + 1) d)
    (hpaid : needed + 1 ≤ (x + paid) * curve.factor direction) :
    curve.LeavesAbove direction paid out x y d := by
  have hY := Int.mul_pos (Int.sub_pos_of_lt hkept) (factor_pos h direction.reverse)
  refine ⟨_, _, upscalePair_eq h _ _ _, ?_⟩
  rw [surplus_comm] at hbeyond
  have habove := surplus_pos_of_le curve.amp_pos (by omega) hY hd hpaid hbeyond
  unfold surplus at habove
  omega

/-- An output that the pool holds more of is priced at what its balance lacks, rounded down; and a
unit more than that, or a unit alone where that is nothing, is enough. -/
theorem amountIn_cases (hd : 0 ≤ d)
    (hinvariant : (StableSwap.invariant curve.amp (x * curve.factor direction)
      (y * curve.factor direction.reverse)).outcome = .ok d) :
    ((curve.amountIn direction out x y).outcome = .error (.tooSmall .swapIsZero) ∧
        curve.LeavesAbove direction 1 out x y d) ∨
      ∃ price, (curve.amountIn direction out x y).outcome = .ok price ∧ 0 < price ∧
        curve.LeavesAbove direction (price + 1) out x y d := by
  have hY := Int.mul_pos (Int.sub_pos_of_lt hkept) (factor_pos h direction.reverse)
  obtain ⟨needed, hneeded, hnonneg, hbeyond⟩ := balance_ok curve.amp_pos hY hd
  have henough {n : Int} (hn : (needed - x * curve.factor direction) / curve.factor direction ≤ n) :
      curve.LeavesAbove direction (n + 1) out x y d :=
    leavesAbove_of_needed h hkept hd hnonneg hbeyond
      (succ_le_of_ediv_le (factor_pos h direction) hn)
  simp only [amountIn_eq h hkept, Run.outcome_bind, Run.outcome_ite, Run.outcome_throw,
    Run.outcome_pure, hinvariant, hneeded, ok_bind]
  by_cases hnone : (needed - x * curve.factor direction) / curve.factor direction ≤ 0
  · exact .inl ⟨if_pos hnone, henough hnone⟩
  · exact .inr ⟨_, if_neg hnone, by omega, henough (Int.le_refl _)⟩

end

/-- An exact output is refused if it drains the pool or costs less than a unit, and priced
otherwise; and one unit of the source more than its price leaves the pool strictly above the
invariant that the price was solved for. -/
theorem amountIn_short_by_one (curve : StableCurve) (h : curve.CanPrice) (direction : Direction)
    (out : Int) {x y : Int} (hx : 0 < x) (hy : 0 < y) :
    ∃ X Y d, curve.upscalePair direction x y = .ok (X, Y) ∧
      (StableSwap.invariant curve.amp X Y).outcome = .ok d ∧
      ((y ≤ out ∧ (curve.amountIn direction out x y).outcome =
          .error (.tooSmall .drainsDestination)) ∨
        (out < y ∧ (curve.amountIn direction out x y).outcome = .error (.tooSmall .swapIsZero) ∧
          curve.LeavesAbove direction 1 out x y d) ∨
        (out < y ∧ ∃ price, (curve.amountIn direction out x y).outcome = .ok price ∧ 0 < price ∧
          curve.LeavesAbove direction (price + 1) out x y d)) := by
  have hX := Int.mul_pos hx (factor_pos h direction)
  have hY := Int.mul_pos hy (factor_pos h direction.reverse)
  obtain ⟨_, d, hd, _⟩ := invariant_ok curve.amp_pos hX hY
  obtain ⟨hpos, _⟩ := invariant_above curve.amp_pos hX hY hd
  refine ⟨_, _, d, upscalePair_eq h direction x y, hd, ?_⟩
  by_cases hdrained : y ≤ out
  · exact .inl ⟨hdrained, amountIn_of_drained h hdrained⟩
  have hkept := Int.not_le.mp hdrained
  obtain ⟨hrefused, hone⟩ | hpriced := amountIn_cases h hkept (Int.le_of_lt hpos) hd
  · exact .inr (.inl ⟨hkept, hrefused, hone⟩)
  · exact .inr (.inr ⟨hkept, hpriced⟩)

theorem amountIn_short_by_one_staked :
    staked.CanPrice ∧ (0 : Int) < 105000 ∧ (0 : Int) < 90000 ∧
    (staked.amountIn .aToB 951 105000 90000).outcome = .ok 999 ∧
    ¬staked.LeavesAbove .aToB 999 951 105000 90000 199497256713 ∧
    staked.LeavesAbove .aToB 1000 951 105000 90000 199497256713 := by
  have hprice : staked.CanPrice := .inr (by decide)
  have hasked : (staked.amountIn .aToB 951 105000 90000).outcome = .ok 999 := rfl
  obtain ⟨X, Y, d, hpair, hd, hcases⟩ := amountIn_short_by_one staked hprice .aToB 951
    (show (0 : Int) < 105000 by decide) (show (0 : Int) < 90000 by decide)
  cases hpair
  obtain rfl : 199497256713 = d := Except.ok.inj hd
  refine ⟨hprice, by decide, by decide, hasked, ?_, ?_⟩
  · rintro ⟨X, Y, hpair, hless⟩
    rw [upscalePair_eq hprice] at hpair
    cases hpair
    have hunits : staked.factor .aToB = 1000000 ∧ staked.factor .bToA = 1050000 := by decide
    rw [Direction.reverse, hunits.1, hunits.2, show staked.amp = 100 from rfl] at hless
    omega
  · obtain ⟨hdrained, _⟩ | ⟨_, hrefused, _⟩ | ⟨_, price, hpriced, _, habove⟩ := hcases
    · omega
    · cases hasked.symm.trans hrefused
    · obtain rfl : 999 = price := Except.ok.inj (hasked.symm.trans hpriced)
      exact habove

end PoolPricing.StableCurve
