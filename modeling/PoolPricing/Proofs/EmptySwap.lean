import PoolPricing.Proofs.StableRuns
set_option autoImplicit false

/-!
Swaps of nothing on a stable curve. The invariant is rounded down before the balance that goes with
it is solved for, so what is solved for is too little by a part of what one unit of the invariant is
worth in the token paid out. The unit held back makes up for that wherever the pool holds no more of
that token than of the other; in a pool that holds far more of it, it does not
(`amountOut_of_nothing`).
-/

namespace PoolPricing

namespace StableSwap

section

variable {amp x kept freed d : Int} (hamp : 1 ≤ amp) (hx : 0 < x) (hkept : 0 < kept)
  (hfreed : 0 < freed) (hd : 0 ≤ d) (hfloor : 0 < surplus amp x kept d)
  (habove : surplus amp x (kept + freed) (d + 1) < 0)
include hamp hx hkept hfreed hd hfloor habove

/-- What is freed at `d` is worth less than the step of the curve from `d` to the next number. -/
theorem freed_le_unit :
    (kept + freed) * (d ^ 3 + 1) + 4 * x * (kept + freed) * kept < kept * (d + 1) ^ 3 := by
  have hcube : 0 ≤ d ^ 3 := by positivity
  have hproduct : 0 < 4 * x * kept := by positivity
  unfold surplus at hfloor habove
  generalize hslack : 2 * amp * (x + kept) - (2 * amp - 1) * d = slack at hfloor
  -- one unit of `freed` outweighs one of the invariant in the linear part
  have hless : slack + 1 ≤
      2 * amp * (x + (kept + freed)) - (2 * amp - 1) * (d + 1) := by
    have := Int.mul_le_mul_of_nonneg_left hfreed (by omega : 0 ≤ 2 * amp)
    linarith
  have hwhole : 0 < kept + freed := by omega
  have hgrown := Int.mul_le_mul_of_nonneg_left hless
    (by positivity : 0 ≤ 4 * x * (kept + freed))
  have hlow := Int.mul_le_mul_of_nonneg_left (show d ^ 3 + 1 ≤ 4 * x * kept * slack by omega)
    (Int.le_of_lt hwhole)
  have hhigh := Int.mul_lt_mul_of_pos_left
    (show 4 * x * (kept + freed) * (slack + 1) < (d + 1) ^ 3 by omega) hkept
  linarith

theorem freed_lt : freed * (d + 1) < 3 * (kept + freed) := by
  have hunit := freed_le_unit hamp hx hkept hfreed hd hfloor habove
  have hproduct : 0 < 4 * x * (kept + freed) * kept := by positivity
  by_contra hmuch
  have hshare : 3 * kept ≤ freed * (d - 2) := by linarith
  have hscaled := Int.mul_le_mul_of_nonneg_right hshare (by positivity : 0 ≤ 3 * d ^ 2 + 3 * d + 1)
  have hrest : 0 < freed * (3 * d ^ 2 + 5 * d + 2) := by positivity
  linarith

theorem lt_of_freed : x < kept + freed := by
  have hunit := freed_le_unit hamp hx hkept hfreed hd hfloor habove
  by_contra hmuch
  have hone : kept + 1 ≤ kept + freed := by omega
  have hother : kept + 1 ≤ x := by omega
  have hcubed := Int.mul_le_mul_of_nonneg_right hone (by positivity : 0 ≤ d ^ 3 + 1)
  have hsquare := Int.mul_le_mul hother hone (by omega) (by omega)
  have hvolume := Int.mul_le_mul_of_nonneg_right hsquare (Int.le_of_lt hkept)
  -- `d` being about twice what is kept, the difference is a square to first order
  have hdouble : 0 ≤ (d - 2 * kept) ^ 2 * d +
      kept * ((d - 2 * kept) ^ 2 - 3 * (d - 2 * kept) + 3) := by
    have hform : 0 ≤ (d - 2 * kept) ^ 2 - 3 * (d - 2 * kept) + 3 := by
      nlinarith [sq_nonneg (2 * (d - 2 * kept) - 3)]
    positivity
  linarith [sq_nonneg kept]

end
end StableSwap

namespace StableCurve

open Checked StableSwap

section

variable {curve : StableCurve} (h : curve.CanPrice) {direction : Direction} {x y d : Int}
  (hx : 0 < x) (hy : 0 < y)
  (hd : (StableSwap.invariant curve.amp (x * curve.factor direction)
    (y * curve.factor direction.reverse)).outcome = .ok d)
include h hx hy hd

theorem amountOut_nothing_cases :
    (curve.amountOut direction 0 x y).outcome = .error (.tooSmall .swapIsZero) ∨
      ∃ out, (curve.amountOut direction 0 x y).outcome = .ok out ∧ 0 < out ∧
        0 < surplus curve.amp (x * curve.factor direction)
          ((y - out) * curve.factor direction.reverse) d ∧
        0 < (y - out) * curve.factor direction.reverse := by
  have hX := Int.mul_pos hx (factor_pos h direction)
  obtain ⟨hpos, _⟩ :=
    invariant_above curve.amp_pos hX (Int.mul_pos hy (factor_pos h direction.reverse)) hd
  obtain ⟨left, _, hleft, hbeyond, hrefused | ⟨out, hpriced, hout, hkept⟩⟩ :=
    amountOut_cases h hx (Int.le_refl 0) (Int.le_of_lt hpos) hd
  · exact .inl hrefused
  · refine .inr ⟨out, hpriced, hout, ?_, by omega⟩
    rw [Int.zero_mul, Int.add_zero, surplus_comm] at hbeyond
    rw [surplus_comm]
    exact surplus_pos_of_le curve.amp_pos (by omega) hX (Int.le_of_lt hpos) hkept hbeyond

theorem amountOut_nothing_ok {out : Int} (hout : 0 < out)
    (hkept : 0 < (y - out) * curve.factor direction.reverse)
    (hfloor : 0 < surplus curve.amp (x * curve.factor direction)
      ((y - out) * curve.factor direction.reverse) d) :
    out * (d + 1) < 3 * y ∧
      x * curve.factor direction < y * curve.factor direction.reverse ∧
      0 < surplus curve.amp (x * curve.factor direction)
        (y * curve.factor direction.reverse) d := by
  have hg := factor_pos h direction.reverse
  have hX := Int.mul_pos hx (factor_pos h direction)
  have hfreed := Int.mul_pos hout hg
  obtain ⟨hpos, habove⟩ := invariant_above curve.amp_pos hX (Int.mul_pos hy hg) hd
  have hsum : (y - out) * curve.factor direction.reverse + out * curve.factor direction.reverse =
      y * curve.factor direction.reverse := by ring
  rw [← hsum] at habove
  have hbound := freed_lt curve.amp_pos hX hkept hfreed (Int.le_of_lt hpos) hfloor habove
  have hmore := lt_of_freed curve.amp_pos hX hkept hfreed (Int.le_of_lt hpos) hfloor habove
  rw [hsum] at hbound hmore
  refine ⟨?_, hmore, ?_⟩
  · refine Int.lt_of_mul_lt_mul_right ?_ (Int.le_of_lt hg)
    linarith
  · rw [surplus_comm] at hfloor ⊢
    exact surplus_pos_of_le curve.amp_pos hkept hX (Int.le_of_lt hpos) (by omega) hfloor

end

/-- A swap of nothing is refused where the pool holds no more of the token paid out than of the
other, where the invariant has lost nothing to rounding, and where three times the balance paid out
is within the invariant; elsewhere what it pays is bounded by the quotient of the two, and the pool
stays above the invariant it was priced at. -/
theorem amountOut_of_nothing (curve : StableCurve) (h : curve.CanPrice) (direction : Direction)
    {x y : Int} (hx : 0 < x) (hy : 0 < y) :
    ∃ d, (StableSwap.invariant curve.amp (x * curve.factor direction)
        (y * curve.factor direction.reverse)).outcome = .ok d ∧
      (y * curve.factor direction.reverse ≤ x * curve.factor direction ∨
          surplus curve.amp (x * curve.factor direction)
            (y * curve.factor direction.reverse) d ≤ 0 ∨
          3 * y ≤ d + 1 →
        (curve.amountOut direction 0 x y).outcome = .error (.tooSmall .swapIsZero)) ∧
      ((curve.amountOut direction 0 x y).outcome = .error (.tooSmall .swapIsZero) ∨
        ∃ out, (curve.amountOut direction 0 x y).outcome = .ok out ∧ 0 < out ∧
          out * (d + 1) < 3 * y ∧
          0 < surplus curve.amp (x * curve.factor direction)
            ((y - out) * curve.factor direction.reverse) d) := by
  obtain ⟨_, d, hd, _⟩ := invariant_ok curve.amp_pos (Int.mul_pos hx (factor_pos h direction))
    (Int.mul_pos hy (factor_pos h direction.reverse))
  refine ⟨d, hd, ?_⟩
  obtain hrefused | ⟨out, hpriced, hout, hfloor, hkept⟩ := amountOut_nothing_cases h hx hy hd
  · exact ⟨fun _ => hrefused, .inl hrefused⟩
  · obtain ⟨hbound, hmore, hgap⟩ := amountOut_nothing_ok h hx hy hd hout hkept hfloor
    refine ⟨?_, .inr ⟨out, hpriced, hout, hbound, hfloor⟩⟩
    rintro (hless | hexact | hsmall)
    · omega
    · omega
    · have hone := Int.mul_le_mul_of_nonneg_right hout (show 0 ≤ 3 * y by omega)
      have hmany := Int.mul_le_mul_of_nonneg_left hsmall (Int.le_of_lt hout)
      linarith

def faint : StableCurve :=
  ⟨2, .ofDecimals 6 6, ⟨0, 0, .none, zero_nonneg, zero_nonneg⟩, 0, by decide, by decide⟩

theorem amountOut_of_nothing_faint :
    faint.CanPrice ∧ (0 : Int) < 10 ∧ (0 : Int) < 10000000000 ∧
    (StableSwap.invariant 2 10 10000000000).outcome = .ok 25182546 ∧
    (593 * (25182546 + 1) : Int) < 3 * 10000000000 := by
  have hprice : faint.CanPrice := .inl rfl
  have hpaid : (faint.amountOut .aToB 0 10 10000000000).outcome = .ok 593 := rfl
  have hd : (StableSwap.invariant 2 10 10000000000).outcome = .ok 25182546 := rfl
  obtain ⟨d, hfound, _, hrefused | ⟨out, hout, _, hbound, _⟩⟩ :=
    amountOut_of_nothing faint hprice .aToB (x := 10) (y := 10000000000) (by decide) (by decide)
  · cases hpaid.symm.trans hrefused
  · obtain rfl : 25182546 = d := Except.ok.inj (hd.symm.trans hfound)
    obtain rfl : 593 = out := Except.ok.inj (hpaid.symm.trans hout)
    exact ⟨hprice, by decide, by decide, hd, hbound⟩

/-- Nothing in, 593 out, no solver having been cut off. -/
theorem nothing_not_always_refused :
    faint.CanPrice ∧ (faint.amountOut .aToB 0 10 10000000000).outcome = .ok 593 ∧
    (faint.amountOut .aToB 0 10 10000000000).events = [] ∧
    ¬∀ (curve : StableCurve) (direction : Direction) (x y : Int), curve.CanPrice → 0 < x → 0 < y →
      (curve.amountOut direction 0 x y).outcome = .error (.tooSmall .swapIsZero) := by
  have hpaid : (faint.amountOut .aToB 0 10 10000000000).outcome = .ok 593 := rfl
  refine ⟨.inl rfl, hpaid, rfl, fun hrefused => ?_⟩
  cases hpaid.symm.trans (hrefused faint .aToB 10 10000000000 (.inl rfl) (by decide) (by decide))

end StableCurve
end PoolPricing
