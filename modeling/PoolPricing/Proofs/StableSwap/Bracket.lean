import PoolPricing.Proofs.StableSwap.Course
import PoolPricing.Proofs.StableSwap.Overshoot
import Mathlib.Order.Interval.Finset.Basic
import Mathlib.Data.Int.Interval
set_option autoImplicit false

/-!
The invariant of two balances is never found above their sum, nor below the whole part of the exact
invariant. The product that the solver rounds down is short only within one of twice the geometric
mean of the balances (`sum_eq_of_short`), where the sum is one more, so the balances are nearly even
and the product is short by four at most. A single step in a single pool leaves the range
nevertheless, and no course comes to it.
-/

namespace PoolPricing.StableSwap

open Checked

section

variable {amp a b d : Int} (hamp : 1 ≤ amp) (ha : 0 < a) (hb : 0 < b)
include ha hb

theorem next_le_of_product (hamp : 1 ≤ amp) (hd : 0 < d)
    (h : d * (a + b - 2 * amp + 1) < floorProduct a b d * (3 * (a + b + 1) - 2 * d)) :
    nextInvariant amp a b d ≤ a + b := by
  refine Int.lt_add_one_iff.mp (Int.ediv_lt_of_lt_mul (denominator_pos hamp ha hb hd) ?_)
  linarith

include hamp

/-- An iterate below twice the geometric mean of the balances is one less than their sum. Where it
were less than that, `4 * a * b` would be one or two above its square, and no multiple of four is.
-/
theorem Iterate.sum_eq_of_short (h : Iterate amp a b d) (hsum : d ≤ a + b)
    (hshort : d ^ 2 < 4 * a * b) : d + 1 = a + b := by
  have hd := h.pos
  have hless : d < a + b := by
    by_contra hmore
    obtain rfl : d = a + b := by omega
    linarith [sq_nonneg (a - b)]
  by_contra hgap
  have hroom : d + 3 ≤ 2 * amp * (a + b) - (2 * amp - 1) * (d + 1) := by
    have hrate : 1 ≤ 2 * amp - 1 := by omega
    have hrest : 1 ≤ a + b - (d + 1) := by omega
    have := Int.mul_le_mul hrate hrest (by decide) (by omega)
    nlinarith
  have hproduct : 0 < 4 * a * b := by positivity
  have habove := h.above
  unfold surplus at habove
  have hcube : 4 * a * b * (d + 3) < (d + 1) ^ 3 := by
    have := Int.mul_le_mul_of_nonneg_left hroom (Int.le_of_lt hproduct)
    omega
  have hnear : 4 * a * b < d ^ 2 + 3 := by
    refine Int.lt_of_mul_lt_mul_right (a := d + 3) ?_ (by omega)
    nlinarith
  -- So `4 * a * b` is above the square of `d` by one or two, and a square is zero or one
  -- modulo four.
  have hfour : 4 * a * b = 4 * (a * b) := by ring
  obtain ⟨half, rfl | rfl⟩ := Int.even_or_odd' d
  · have hsq : (2 * half) ^ 2 = 4 * (half * half) := by ring
    omega
  · have hsq : (2 * half + 1) ^ 2 = 4 * (half * half + half) + 1 := by ring
    omega

end

theorem sub_four_le_floorProduct {a b d : Int} (ha : 0 < a) (hb : 0 < b) (hsum : d + 1 = a + b)
    (hshort : d ^ 2 < 4 * a * b) : d - 4 ≤ floorProduct a b d := by
  obtain rfl : d = a + b - 1 := by omega
  have honce : 2 * b - 2 ≤ (a + b - 1) * (a + b - 1) / (2 * a) := by
    refine (Int.le_ediv_iff_mul_le (by omega)).mpr ?_
    linarith [sq_nonneg (a - b + 1)]
  have hwide : a - 1 ≤ 3 * b := by
    by_contra hwider
    have hfar : 2 * b ≤ a - b - 1 := by omega
    have hb0 : 0 ≤ 2 * b := by omega
    have := Int.mul_le_mul hfar hfar hb0 (by omega)
    nlinarith
  refine (Int.le_ediv_iff_mul_le (by omega)).mpr ?_
  have := Int.mul_le_mul_of_nonneg_right honce (show 0 ≤ a + b - 1 by omega)
  linarith

theorem sq_lt_of_small {a b : Int} (ha : 0 < a) (hb : 0 < b) (hsmall : a + b ≤ 13)
    (huneven : a ≠ b) (hshort : (a + b - 1) ^ 2 < 4 * a * b) (hother : ¬(a = 3 ∧ b = 1)) :
    (a + b - 1) ^ 2 < floorProduct a b (a + b - 1) * (a + b + 5) := by
  have htable : ∀ a ∈ Finset.Icc (1 : Int) 12, ∀ b ∈ Finset.Icc (1 : Int) 12, a ≠ b →
      (a + b - 1) ^ 2 < 4 * a * b → ¬(a = 3 ∧ b = 1) →
      (a + b - 1) ^ 2 < floorProduct a b (a + b - 1) * (a + b + 5) := by decide +kernel
  exact htable a (Finset.mem_Icc.mpr ⟨by omega, by omega⟩) b
    (Finset.mem_Icc.mpr ⟨by omega, by omega⟩) huneven hshort hother

section

variable {amp a b d : Int} (hamp : 1 ≤ amp) (ha : 0 < a) (hb : 0 < b)
include hamp ha hb

/-- The step from three in the pool of three and one with the least amplification goes to five. -/
theorem Iterate.next_le_sum (h : Iterate amp a b d) (hsum : d ≤ a + b)
    (hother : ¬(amp = 1 ∧ a = 3 ∧ b = 1 ∧ d = 3)) : nextInvariant amp a b d ≤ a + b := by
  have hd := h.pos
  refine next_le_of_product ha hb hamp hd ?_
  by_cases hshort : d ^ 2 < 4 * a * b
  · obtain hone := h.sum_eq_of_short hamp ha hb hsum hshort
    obtain rfl : d = a + b - 1 := by omega
    have hleast : (a + b - 1) * (a + b - 2 * amp + 1) ≤ (a + b - 1) ^ 2 := by
      have : a + b - 2 * amp + 1 ≤ a + b - 1 := by omega
      have := Int.mul_le_mul_of_nonneg_left this (Int.le_of_lt hd)
      linarith
    have hwidth : 3 * (a + b + 1) - 2 * (a + b - 1) = a + b + 5 := by ring
    rw [hwidth]
    -- A product short by four is enough from a sum of fourteen on; below that the pools are tried.
    by_cases hsmall : a + b ≤ 13
    · by_cases hpool : a = 3 ∧ b = 1
      · obtain ⟨rfl, rfl⟩ := hpool
        have hproduct : floorProduct 3 1 (3 + 1 - 1) = 1 := rfl
        rw [hproduct]
        omega
      · have huneven : a ≠ b := by
          rintro rfl
          have hsquare := four_mul_lt_sq hamp ha ha (by omega) h.above
          linarith
        exact Int.lt_of_le_of_lt hleast (sq_lt_of_small ha hb hsmall huneven hshort hpool)
    · have hproduct := sub_four_le_floorProduct ha hb hone hshort
      have := Int.mul_le_mul_of_nonneg_right hproduct (show 0 ≤ a + b + 5 by omega)
      nlinarith
  · have hproduct := self_le_floorProduct_of_sq ha hb (Int.le_of_lt hd) (Int.not_lt.mp hshort)
    have hwidth : a + b + 3 ≤ 3 * (a + b + 1) - 2 * d := by omega
    have := Int.mul_le_mul hproduct hwidth (by omega) (by omega)
    have hslope := Int.mul_pos hd (show 0 < 2 * amp + 2 by omega)
    linarith

/-- An iterate in the range of which the solver's answers are, and not the one from which a step
leaves it. -/
structure Within (amp a b d : Int) : Prop where
  iterate : Iterate amp a b d
  le_sum : d ≤ a + b
  other : ¬(amp = 1 ∧ a = 3 ∧ b = 1 ∧ d = 3)

theorem within_start : Within amp a b (a + b) where
  iterate := iterate_start hamp ha hb
  le_sum := Int.le_refl _
  other := by omega

theorem Within.next (h : Within amp a b d) : Within amp a b (nextInvariant amp a b d) where
  iterate := iterate_next hamp ha hb h.iterate
  le_sum := h.iterate.next_le_sum hamp ha hb h.le_sum h.other
  other := by
    rintro ⟨rfl, rfl, rfl, hthree⟩
    have htwo := h.iterate.two_le ha hb hamp
    have hfour := h.le_sum
    -- Two is no iterate of this pool, three stays excluded, and the step from four goes to another.
    obtain rfl | rfl | rfl : d = 2 ∨ d = 3 ∨ d = 4 := by omega
    · exact absurd h.iterate.above (by decide)
    · exact h.other ⟨rfl, rfl, rfl, rfl⟩
    · exact absurd hthree (by decide)

theorem within_of_reached {steps : Nat} {previous : Int}
    (h : Reached (invariantStep amp a b) (a + b) steps previous d) : Within amp a b d := by
  refine h.keeps (P := fun _ d => Within amp a b d) (within_start hamp ha hb) ?_
  intro _ current next hcurrent _ hnext
  rw [invariantStep_eq hamp ha hb hcurrent.iterate.pos] at hnext
  cases hnext
  exact hcurrent.next hamp ha hb

end

/-- The solver of the invariant divides by a positive number in every step, from iterates that are
positive and no more than the sum of the balances, and comes to an answer; whether or not it was cut
off there, the answer is no more than the sum and no less than the whole part of the exact
invariant. -/
theorem invariant_brackets {amp a b : Int} (hamp : 1 ≤ amp) (ha : 1 ≤ a) (hb : 1 ≤ b) :
    (∀ steps previous d, Reached (invariantStep amp a b) (a + b) steps previous d →
      0 < d ∧ d ≤ a + b ∧ ∃ product, invariantProduct a b d = .ok product ∧
        0 < d * (2 * amp - 1) + 3 * product) ∧
    ∃ d, (invariant amp a b).outcome = .ok d ∧
      (∃ steps previous, Reached (invariantStep amp a b) (a + b) steps previous d ∧
        steps ≤ maxSteps ∧ (close previous d = true ∨ steps = maxSteps)) ∧
      d ≤ a + b ∧
      4 * a * b * (2 * amp) * (a + b) < (d + 1) ^ 3 + 4 * a * b * (2 * amp - 1) * (d + 1) ∧
      4 * a * b < (d + 1) ^ 2 ∧
      ∀ t, 0 ≤ surplus amp a b t → t ≤ d := by
  refine ⟨fun steps previous d h => ?_, ?_⟩
  · have hwithin := within_of_reached hamp ha hb h
    exact ⟨hwithin.iterate.pos, hwithin.le_sum, _, invariantProduct_eq d ha hb,
      denominator_pos hamp ha hb hwithin.iterate.pos⟩
  · obtain ⟨_, d, hd, _⟩ := invariant_ok hamp ha hb
    obtain ⟨solution, hsolution, rfl⟩ := solution_of_invariant hd
    rw [solveInvariant_eq_iterate hamp ha hb] at hsolution
    obtain ⟨steps, previous, hreached, hcourse⟩ := iterate_course hsolution
    have hwithin := within_of_reached hamp ha hb hreached
    have hpos := hwithin.iterate.pos
    have habove := hwithin.iterate.above
    refine ⟨_, hd, ⟨steps, previous, hreached, hcourse⟩, hwithin.le_sum, ?_,
      four_mul_lt_sq hamp ha hb (by omega) habove, fun t ht => ?_⟩
    · unfold surplus at habove
      linarith
    · exact Int.lt_add_one_iff.mp (lt_of_surplus hamp ha hb ht habove)

theorem invariant_brackets_wavering :
    (1 : Int) ≤ 1 ∧ (1 : Int) ≤ 33 ∧
    (invariant 1 33 1).outcome = .ok 20 ∧
    (invariant 1 33 1).events = [.unconverged .invariant] ∧
    (20 : Int) ≤ 33 + 1 ∧
    (4 * 33 * 1 * (2 * 1) * (33 + 1) : Int) <
      (20 + 1) ^ 3 + 4 * 33 * 1 * (2 * 1 - 1) * (20 + 1) ∧
    (4 * 33 * 1 : Int) < (20 + 1) ^ 2 := by
  have hfound : (invariant 1 33 1).outcome = .ok 20 := rfl
  obtain ⟨_, d, hd, _, hsum, hcube, hsquare, _⟩ :=
    invariant_brackets (show (1 : Int) ≤ 1 by decide) (show (1 : Int) ≤ 33 by decide)
      (show (1 : Int) ≤ 1 by decide)
  obtain rfl : 20 = d := Except.ok.inj (hfound.symm.trans hd)
  exact ⟨by decide, by decide, hfound, rfl, hsum, hcube, hsquare⟩

end PoolPricing.StableSwap
