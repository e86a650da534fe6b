import PoolPricing.Proofs.Ceiling
import PoolPricing.Proofs.StableSwap.Equation
import PoolPricing.StableSwap.Liquidity
set_option autoImplicit false

/-!
The rate at which a stable pool is said to trade before any slippage. It is the slope of a stable
curve, but of the one with twice the amplification that the solvers work with (`spotAmount_slope`).
On an even pool the two slopes agree; elsewhere the rate is nearer to one for one than the curve is,
too high for the token of which there is more and too low for the other.
-/

namespace PoolPricing.StableSwap

open Checked

/-- The partial derivative of `surplus` by its first balance; the one by the second is the same with
the balances exchanged. -/
def surplusSlope (amp x y d : Int) : Int :=
  y * (4 * (2 * amp) * (2 * x + y) + 4 * (1 - 2 * amp) * d)

theorem surplus_add (amp x y d h : Int) :
    surplus amp (x + h) y d =
      surplus amp x y d + h * surplusSlope amp x y d + 4 * (2 * amp) * y * h ^ 2 := by
  unfold surplus surplusSlope
  ring

/-- What is traded for an amount at the slope of the curve, nothing where there is no slope. -/
def atSlope (amp amount x y d : Int) : Int :=
  if 0 < surplusSlope amp x y d ∧ 0 < surplusSlope amp y x d then
    amount * surplusSlope amp x y d / surplusSlope amp y x d
  else 0

theorem slope?_eq (amp x y d : Int) : slope? amp x y d =
    if surplusSlope (2 * amp) y x d ≤ 0 ∨ surplusSlope (2 * amp) x y d ≤ 0 then none
    else some (surplusSlope (2 * amp) x y d, surplusSlope (2 * amp) y x d) := by
  have hnumerator : (2 * (amp * 16) * x + amp * 16 * y + (d * 4 - d * amp * 16)) * y =
      surplusSlope (2 * amp) x y d := by
    unfold surplusSlope
    ring
  have hdenominator : (amp * 16 * x + 2 * (amp * 16) * y + (d * 4 - d * amp * 16)) * x =
      surplusSlope (2 * amp) y x d := by
    unfold surplusSlope
    ring
  rw [slope?, hnumerator, hdenominator]

theorem spotAmount_eq_atSlope (amp amount x y d : Int) :
    spotAmount amp amount x y d = .ok (atSlope (2 * amp) amount x y d) := by
  rw [spotAmount, slope?_eq, atSlope]
  by_cases hpos : 0 < surplusSlope (2 * amp) x y d ∧ 0 < surplusSlope (2 * amp) y x d
  · have hsome : ¬(surplusSlope (2 * amp) y x d ≤ 0 ∨ surplusSlope (2 * amp) x y d ≤ 0) := by omega
    rw [if_pos hpos, if_neg hsome]
    exact floorDivide_of_pos _ hpos.2
  · have hnone : surplusSlope (2 * amp) y x d ≤ 0 ∨ surplusSlope (2 * amp) x y d ≤ 0 := by omega
    rw [if_neg hpos, if_pos hnone]
    rfl

theorem surplusSlope_pos {amp x y d : Int} (hamp : 1 ≤ amp) (hx : 1 ≤ x) (hy : 1 ≤ y) (hd : 0 ≤ d)
    (hsum : d ≤ x + y) : 0 < surplusSlope amp x y d := by
  have hrate : 0 < 2 * amp * (2 * x + y - d) := Int.mul_pos (by omega) (by omega)
  have hform : surplusSlope amp x y d = 4 * y * (2 * amp * (2 * x + y - d) + d) := by
    unfold surplusSlope
    ring
  rw [hform]
  exact Int.mul_pos (by omega) (by omega)

theorem surplusSlope_cross (amp amp' x y d : Int) :
    surplusSlope amp' x y d * surplusSlope amp y x d =
      surplusSlope amp x y d * surplusSlope amp' y x d +
        32 * (amp' - amp) * d * (x * y) * (x - y) := by
  unfold surplusSlope
  ring

section

variable {amp amp' x y d amount : Int} (hamp : 1 ≤ amp) (hx : 1 ≤ x) (hy : 1 ≤ y) (hd : 0 ≤ d)
  (hsum : d ≤ x + y)
include hamp hx hy hd hsum

theorem atSlope_of_le_sum (amount : Int) : atSlope amp amount x y d =
    amount * surplusSlope amp x y d / surplusSlope amp y x d :=
  if_pos ⟨surplusSlope_pos hamp hx hy hd hsum, surplusSlope_pos hamp hy hx hd (by omega)⟩

theorem atSlope_le_of_cross (hamp' : 1 ≤ amp') (hamount : 0 ≤ amount)
    (hcross : surplusSlope amp x y d * surplusSlope amp' y x d ≤
      surplusSlope amp' x y d * surplusSlope amp y x d) :
    atSlope amp amount x y d ≤ atSlope amp' amount x y d := by
  rw [atSlope_of_le_sum hamp hx hy hd hsum, atSlope_of_le_sum hamp' hx hy hd hsum]
  refine Number.ediv_le_ediv_of_cross (surplusSlope_pos hamp hy hx hd (by omega))
    (surplusSlope_pos hamp' hy hx hd (by omega)) ?_
  rw [Int.mul_assoc, Int.mul_assoc]
  exact Int.mul_le_mul_of_nonneg_left hcross hamount

variable (hle : amp ≤ amp') (hamount : 0 ≤ amount)
include hle hamount

theorem atSlope_le_of_more (hmore : y ≤ x) :
    atSlope amp amount x y d ≤ atSlope amp' amount x y d := by
  refine atSlope_le_of_cross hamp hx hy hd hsum (Int.le_trans hamp hle) hamount ?_
  have hgain : 0 ≤ 32 * (amp' - amp) * d * (x * y) * (x - y) :=
    Int.mul_nonneg (Int.mul_nonneg (Int.mul_nonneg (by omega) hd)
      (Int.mul_nonneg (by omega) (by omega))) (by omega)
  rw [surplusSlope_cross amp amp' x y d]
  omega

theorem atSlope_le_of_less (hless : x ≤ y) :
    atSlope amp' amount x y d ≤ atSlope amp amount x y d := by
  refine atSlope_le_of_cross (Int.le_trans hamp hle) hx hy hd hsum hamp hamount ?_
  have hloss : 0 ≤ 32 * (amp' - amp) * d * (x * y) * (y - x) :=
    Int.mul_nonneg (Int.mul_nonneg (Int.mul_nonneg (by omega) hd)
      (Int.mul_nonneg (by omega) (by omega))) (by omega)
  rw [surplusSlope_cross amp amp' x y d]
  linarith

end

/-- What is quoted for an amount before any slippage is what it is worth at the slope of the curve
with twice the amplification. Where the invariant is no more than the sum of the balances, as the
solver finds it, that is too much for the token of which there is more, too little for the other,
and just the slope of the pool's own curve where the balances are even or the invariant is none. -/
theorem spotAmount_slope {amp amount x y d : Int} (hamp : 1 ≤ amp) (hx : 1 ≤ x) (hy : 1 ≤ y)
    (hd : 0 ≤ d) (hamount : 0 ≤ amount) :
    (∀ h, surplus (2 * amp) (x + h) y d = surplus (2 * amp) x y d +
      h * surplusSlope (2 * amp) x y d + 4 * (2 * (2 * amp)) * y * h ^ 2) ∧
    spotAmount amp amount x y d = .ok (atSlope (2 * amp) amount x y d) ∧
    (d ≤ x + y →
      0 < surplusSlope amp x y d ∧ 0 < surplusSlope amp y x d ∧
      (y ≤ x → atSlope amp amount x y d ≤ atSlope (2 * amp) amount x y d) ∧
      (x ≤ y → atSlope (2 * amp) amount x y d ≤ atSlope amp amount x y d) ∧
      (surplusSlope (2 * amp) x y d * surplusSlope amp y x d =
        surplusSlope amp x y d * surplusSlope (2 * amp) y x d ↔ x = y ∨ d = 0)) := by
  refine ⟨surplus_add (2 * amp) x y d, spotAmount_eq_atSlope amp amount x y d, fun hsum => ?_⟩
  have hle : amp ≤ 2 * amp := by omega
  refine ⟨surplusSlope_pos hamp hx hy hd hsum, surplusSlope_pos hamp hy hx hd (by omega),
    atSlope_le_of_more hamp hx hy hd hsum hle hamount,
    atSlope_le_of_less hamp hx hy hd hsum hle hamount, ?_⟩
  rw [surplusSlope_cross amp (2 * amp) x y d, add_eq_left]
  have hamp0 : 2 * amp - amp ≠ 0 := by omega
  have hx0 : x ≠ 0 := by omega
  have hy0 : y ≠ 0 := by omega
  simp [hamp0, hx0, hy0, Int.sub_eq_zero, or_comm]

theorem spotAmount_slope_lopsided :
    (1 : Int) ≤ 1 ∧ (1 : Int) ≤ 1000 ∧ (invariant 1 3000 1000).outcome = .ok 3718 ∧
    (3718 : Int) ≤ 3000 + 1000 ∧ spotAmount 1 1000000 3000 1000 3718 = .ok 634787 ∧
    atSlope (2 * 1) 1000000 3000 1000 3718 = 634787 ∧
    atSlope 1 1000000 3000 1000 3718 = 545579 ∧
    atSlope 1 1000000 3000 1000 3718 ≤ atSlope (2 * 1) 1000000 3000 1000 3718 := by
  obtain ⟨_, hspot, hslopes⟩ := spotAmount_slope (show (1 : Int) ≤ 1 by decide)
    (show (1 : Int) ≤ 3000 by decide) (show (1 : Int) ≤ 1000 by decide)
    (show (0 : Int) ≤ 3718 by decide) (show (0 : Int) ≤ 1000000 by decide)
  have htwice : atSlope (2 * 1) 1000000 3000 1000 3718 = 634787 := rfl
  rw [htwice] at hspot
  obtain ⟨_, _, hmore, _⟩ := hslopes (by decide)
  exact ⟨by decide, by decide, rfl, by decide, hspot, htwice, rfl, hmore (by decide)⟩

/-- Ten for six, where the slope of the pool's own curve is ten for five. -/
theorem spotAmount_not_own_slope :
    (invariant 1 3 1).outcome = .ok 4 ∧ spotAmount 1 10 3 1 4 = .ok 6 ∧ atSlope 1 10 3 1 4 = 5 ∧
    ¬∀ amp amount x y d : Int, 1 ≤ amp → 1 ≤ x → 1 ≤ y → 0 ≤ d → 0 ≤ amount →
      spotAmount amp amount x y d = .ok (atSlope amp amount x y d) := by
  have hspot : spotAmount 1 10 3 1 4 = .ok 6 := rfl
  refine ⟨rfl, hspot, rfl, fun hown => ?_⟩
  have := hown 1 10 3 1 4 (by decide) (by decide) (by decide) (by decide) (by decide)
  cases hspot.symm.trans this

end PoolPricing.StableSwap
