import PoolPricing.Proofs.StableSwap.Bracket
import Mathlib.Data.Int.LeastGreatest
set_option autoImplicit false

/-!
How fast the solver of the invariant converges on pools that are not too lopsided. There the two
floors of the product are worth a small part of a step (`Moderate.floors_le`), so the distance of an
iterate from the exact invariant is squared over four times the sum of the balances, give or take a
quarter (`Moderate.excess_next`), and where two iterates are close, the exact invariant is no more
than one below the later one (`Moderate.surplus_pred_of_close`).
-/

namespace PoolPricing.StableSwap

open Checked

/-- Balances neither of which is more than four times the other, and not small ones, at an
amplification of ten or more. -/
structure Moderate (amp a b : Int) : Prop where
  amp_ge : 10 ≤ amp
  left_le : a ≤ 4 * b
  right_le : b ≤ 4 * a
  sum_ge : 1000 ≤ a + b

/-- The whole part of the exact invariant. -/
structure WholeInvariant (amp a b root : Int) : Prop where
  nonneg : 0 ≤ root
  within : 0 ≤ surplus amp a b root
  beyond : surplus amp a b (root + 1) < 0

section

variable {amp a b : Int} (hamp : 1 ≤ amp) (ha : 0 < a) (hb : 0 < b)
include hamp ha hb

theorem exists_wholeInvariant : ∃ root, WholeInvariant amp a b root := by
  have hzero : 0 ≤ surplus amp a b 0 := by
    have : 0 ≤ 4 * a * b * (2 * amp * (a + b)) := by positivity
    unfold surplus
    linarith
  have hbounded : ∀ t, 0 ≤ surplus amp a b t → t ≤ a + b := fun t ht =>
    Int.lt_add_one_iff.mp (lt_of_surplus hamp ha hb ht (iterate_start hamp ha hb).above)
  obtain ⟨root, hroot, hgreatest⟩ := Int.exists_greatest_of_bdd ⟨a + b, hbounded⟩ ⟨0, hzero⟩
  refine ⟨root, hgreatest 0 hzero, hroot, ?_⟩
  by_contra hmore
  have := hgreatest (root + 1) (Int.not_lt.mp hmore)
  omega

/-- How far past a number above the exact invariant a step ends: by the square that Newton's step
gains, and by what the floors lose. -/
theorem excess_mul_denominator_lt {d t : Int} (hd : 0 < d) (habove : surplus amp a b t < 0)
    (ht : 2 * d ≤ 3 * t) :
    4 * a * b * ((nextInvariant amp a b d - t) * (d * (2 * amp - 1) + 3 * floorProduct a b d)) <
      d * ((d - t) ^ 2 * (t + 2 * d)) + (3 * t - 2 * d) * (2 * a * d + 4 * a * b) := by
  have hproduct : 0 < 4 * a * b := by positivity
  have hstep := Int.ediv_mul_le (d * (2 * amp * (a + b) + 2 * floorProduct a b d))
    (Int.ne_of_gt (denominator_pos hamp ha hb hd))
  change nextInvariant amp a b d * _ ≤ _ at hstep
  have hlost := le_floorProduct ha hb (Int.le_of_lt hd)
  generalize nextInvariant amp a b d = next at *
  generalize floorProduct a b d = p at *
  have hscaled := Int.mul_le_mul_of_nonneg_left hstep (Int.le_of_lt hproduct)
  have hline := Int.mul_lt_mul_of_pos_left habove hd
  have hfloors := Int.mul_le_mul_of_nonneg_left
    (show d ^ 3 ≤ 4 * a * b * p + 2 * a * d + 4 * a * b by linarith)
    (show 0 ≤ 3 * t - 2 * d by omega)
  unfold surplus at hline
  linarith

theorem WholeInvariant.le_of_iterate {root d : Int} (h : WholeInvariant amp a b root)
    (hd : Iterate amp a b d) : root ≤ d :=
  Int.lt_add_one_iff.mp (lt_of_surplus hamp ha hb h.within hd.above)

end

namespace Moderate

variable {amp a b d : Int} (h : Moderate amp a b)
include h

theorem left_pos : 0 < a := by
  have := h.right_le
  have := h.sum_ge
  omega

theorem right_pos : 0 < b := by
  have := h.left_le
  have := h.sum_ge
  omega

theorem amp_pos : 1 ≤ amp := by
  have := h.amp_ge
  omega

theorem sum_sq_le : 16 * (a + b) ^ 2 ≤ 25 * (4 * a * b) := by
  have := Int.mul_nonneg (show 0 ≤ 4 * b - a by have := h.left_le; omega)
    (show 0 ≤ 4 * a - b by have := h.right_le; omega)
  linarith

theorem floors_le (hd : d ≤ a + b) : 2 * (2 * a * d + 4 * a * b) ≤ 7 * (4 * a * b) := by
  have hleft := h.left_pos
  have := Int.mul_le_mul_of_nonneg_left (show d ≤ 5 * b by have := h.left_le; omega)
    (show 0 ≤ 4 * a by omega)
  linarith

theorem product_pos : 0 < 4 * a * b := by
  have := h.left_pos
  have := h.right_pos
  positivity

theorem surplus_pred_of_close (hiterate : Iterate amp a b d) (hsum : d ≤ a + b)
    (hlarge : 4 ≤ d) (hclose : close d (nextInvariant amp a b d) = true) :
    0 ≤ surplus amp a b (nextInvariant amp a b d - 1) := by
  have hproduct := h.product_pos
  have hbounds := (step_bounds h.left_pos h.right_pos h.amp_pos hiterate.pos).1
  have hlost := le_floorProduct h.left_pos h.right_pos (Int.le_of_lt hiterate.pos)
  have hfloors := h.floors_le hsum
  have hleft := h.left_pos
  have hrate : 19 ≤ 2 * amp - 1 := by
    have := h.amp_ge
    omega
  rw [close_iff] at hclose
  unfold level at hbounds
  generalize nextInvariant amp a b d = next at *
  generalize floorProduct a b d = p at *
  obtain ⟨j, rfl⟩ : ∃ j, next = d + j := ⟨next - d, by ring⟩
  rw [add_sub_cancel_left] at hbounds
  -- the slope of the line alone outweighs the floors
  have hstep := Int.mul_le_mul_of_nonneg_left hbounds (Int.le_of_lt hproduct)
  have hweight : 0 ≤ d + 3 * j := by omega
  have hcube := Int.mul_le_mul_of_nonneg_left
    (show d ^ 3 ≤ 4 * a * b * p + 2 * a * d + 4 * a * b by linarith [hiterate.pos]) hweight
  have hfloored := Int.mul_le_mul_of_nonneg_left hfloors hweight
  have hslope := Int.mul_le_mul_of_nonneg_left hrate (Int.mul_nonneg (Int.le_of_lt hproduct)
    (Int.le_of_lt hiterate.pos))
  have hroom := Int.mul_nonneg (Int.le_of_lt hproduct) (show 0 ≤ d - 4 by omega)
  have hsquare := sq_nonneg d
  have hcurve := Int.mul_nonneg hsquare (show 0 ≤ d - 4 by omega)
  refine Int.nonneg_of_mul_nonneg_right (a := d) ?_ hiterate.pos
  unfold surplus
  obtain rfl | rfl | rfl : j = -1 ∨ j = 0 ∨ j = 1 := by omega
  · linarith
  · linarith
  · linarith

section

variable {t : Int} (hsum : d ≤ a + b) (hlarge : 100 ≤ d) (hnear : t ≤ d + 1) (ht : 2 * d ≤ 3 * t)
  (habove : surplus amp a b t < 0)
include hsum hlarge hnear ht habove

theorem excess_mul_product_lt (hpast : 1 ≤ nextInvariant amp a b d - t) :
    4 * a * b * (38 * (nextInvariant amp a b d - t) - 8) < (d - t) ^ 2 * (6 * d + 2) := by
  have hd : 0 < d := by omega
  have hproduct := h.product_pos
  have hexcess := excess_mul_denominator_lt h.amp_pos h.left_pos h.right_pos hd habove ht
  have hfloors := h.floors_le hsum
  have hden : 19 * d ≤ d * (2 * amp - 1) + 3 * floorProduct a b d := by
    have hrate : 19 ≤ 2 * amp - 1 := by
      have := h.amp_ge
      omega
    have hslope := Int.mul_le_mul_of_nonneg_left hrate (Int.le_of_lt hd)
    have hp := floorProduct_nonneg h.left_pos h.right_pos (Int.le_of_lt hd)
    omega
  generalize nextInvariant amp a b d - t = excess at *
  have hsteep := Int.mul_le_mul_of_nonneg_left hden
    (Int.mul_nonneg (Int.le_of_lt hproduct) (show 0 ≤ excess by omega))
  have hgain := Int.mul_le_mul_of_nonneg_left (show t + 2 * d ≤ 3 * d + 1 by omega)
    (Int.mul_nonneg (Int.le_of_lt hd) (sq_nonneg (d - t)))
  have hlost := Int.mul_le_mul_of_nonneg_left hfloors (show 0 ≤ 3 * t - 2 * d by omega)
  have hlittle := Int.mul_le_mul_of_nonneg_right (show 7 * (3 * t - 2 * d) ≤ 8 * d by omega)
    (Int.le_of_lt hproduct)
  refine Int.lt_of_mul_lt_mul_left ?_ (Int.le_of_lt hd)
  linarith

theorem excess_next :
    4 * (a + b) * (nextInvariant amp a b d - t) ≤ (d - t) ^ 2 + (a + b) := by
  by_contra hfar
  have hsq : 0 ≤ (d - t) ^ 2 := sq_nonneg _
  have hpast : 1 ≤ nextInvariant amp a b d - t := by
    by_contra hless
    have := Int.mul_nonneg (show 0 ≤ 4 * (a + b) by omega)
      (show 0 ≤ -(nextInvariant amp a b d - t) by omega)
    linarith
  have hexcess := h.excess_mul_product_lt hsum hlarge hnear ht habove hpast
  generalize nextInvariant amp a b d - t = excess at *
  have hsquare := Int.mul_le_mul_of_nonneg_right h.sum_sq_le (show 0 ≤ 38 * excess - 8 by omega)
  have hwide := Int.mul_le_mul_of_nonneg_left (show 50 * (3 * d + 1) ≤ 151 * (a + b) by omega) hsq
  have hlinear : 16 * (a + b) * (38 * excess - 8) < 151 * (d - t) ^ 2 := by
    refine Int.lt_of_mul_lt_mul_left (a := a + b) ?_ (by omega)
    linarith
  linarith

end

end Moderate

theorem scale_sq_mul_le {sum distance next scale : Int} (hsum : 2 ≤ sum) (hscale : 5 ≤ scale)
    (hdistance : -1 ≤ distance) (hnext : 4 * sum * next ≤ distance ^ 2 + sum)
    (hnear : scale * (2 * distance - 1) ≤ 8 * sum) : scale ^ 2 * (2 * next - 1) ≤ 8 * sum := by
  by_cases hpast : 1 ≤ distance
  · have hodd : 0 ≤ scale * (2 * distance - 1) := Int.mul_nonneg (by omega) (by omega)
    have hsquare := Int.mul_le_mul hnear hnear hodd (by omega)
    have hcross := Int.mul_le_mul_of_nonneg_left hnear (show 0 ≤ 2 * scale by omega)
    have hscaled := Int.mul_le_mul_of_nonneg_left hnext (show 0 ≤ 4 * scale ^ 2 by positivity)
    have hspare := Int.mul_nonneg (show 0 ≤ scale by omega)
      (Int.mul_nonneg (show 0 ≤ scale - 5 by omega) (show 0 ≤ 4 * sum - 1 by omega))
    have hrest := Int.mul_nonneg (show 0 ≤ scale by omega) (show 0 ≤ 4 * sum - 5 by omega)
    refine Int.le_of_mul_le_mul_left ?_ (show 0 < 8 * sum by omega)
    linarith
  · have hnone : next ≤ 0 := by
      by_contra hmore
      have := Int.mul_le_mul_of_nonneg_left (show 1 ≤ next by omega) (show 0 ≤ 4 * sum by omega)
      obtain rfl | rfl : distance = -1 ∨ distance = 0 := by omega
      · linarith
      · linarith
    have := Int.mul_nonneg (sq_nonneg scale) (show 0 ≤ 1 - 2 * next by omega)
    linarith

/-- An iterate on a rung of the way to the exact invariant: on a scale which, squared once for each
rung, is finer than the sum of the balances, its distance past the whole part is small. -/
structure InvariantNear (amp a b root : Int) (rung : Nat) (d : Int) : Prop where
  within : Within amp a b d
  scale : ∃ scale : Int, 5 ≤ scale ∧ scale * (2 * (d - (root + 1)) - 1) ≤ 8 * (a + b) ∧
    8 * (a + b) < scale ^ 2 ^ rung

theorem lt_scale_sq {n scale : Int} {rung : Nat} (hscale : 5 ≤ scale) (h : n < scale ^ 2 ^ rung) :
    n < (scale ^ 2) ^ 2 ^ (rung - 1) := by
  cases rung with
  | zero =>
    simp only [pow_zero, pow_one, Nat.zero_sub] at h ⊢
    have := Int.mul_le_mul_of_nonneg_left (show 1 ≤ scale by omega) (show 0 ≤ scale by omega)
    linarith
  | succ rung =>
    rw [pow_succ', pow_mul] at h
    exact h

namespace Moderate

variable {amp a b root d : Int} {rung : Nat} (h : Moderate amp a b)
  (hroot : WholeInvariant amp a b root)
include h hroot

theorem root_ge : 4 * (a + b) < 5 * (root + 1) := by
  have hnonneg := hroot.nonneg
  have hsq := four_mul_lt_sq h.amp_pos h.left_pos h.right_pos (show 0 ≤ root + 1 by omega)
    hroot.beyond
  have hsum := h.sum_sq_le
  refine lt_of_pow_lt_pow_left₀ 2 (by omega) ?_
  linarith

theorem near_start (hsize : a + b ≤ 2 ^ 200) : InvariantNear amp a b root 7 (a + b) where
  within := within_start h.amp_pos h.left_pos h.right_pos
  scale := by
    have hge := h.root_ge hroot
    have hlarge := h.sum_ge
    refine ⟨5, by decide, by omega, ?_⟩
    calc 8 * (a + b) ≤ 8 * 2 ^ 200 := by omega
      _ < 5 ^ 2 ^ 7 := by norm_num

theorem near_next (hd : InvariantNear amp a b root rung d) :
    ∃ next, invariantStep amp a b d = .ok next ∧ InvariantNear amp a b root (rung - 1) next := by
  have hlow := hroot.le_of_iterate h.amp_pos h.left_pos h.right_pos hd.within.iterate
  have hsum := hd.within.le_sum
  have hge := h.root_ge hroot
  have hlarge := h.sum_ge
  obtain ⟨scale, hscale, hnear, hfine⟩ := hd.scale
  have hexcess := h.excess_next hsum (show 100 ≤ d by omega) (show root + 1 ≤ d + 1 by omega)
    (by omega) hroot.beyond
  refine ⟨_, invariantStep_eq h.amp_pos h.left_pos h.right_pos hd.within.iterate.pos,
    hd.within.next h.amp_pos h.left_pos h.right_pos, scale ^ 2, ?_,
    scale_sq_mul_le (by omega) hscale (by omega) hexcess hnear, lt_scale_sq hscale hfine⟩
  have := Int.mul_le_mul hscale hscale (by decide) (by omega)
  linarith

theorem le_succ_of_near (hd : InvariantNear amp a b root 0 d) : root ≤ d ∧ d ≤ root + 1 := by
  have hlow := hroot.le_of_iterate h.amp_pos h.left_pos h.right_pos hd.within.iterate
  obtain ⟨scale, hscale, hnear, hfine⟩ := hd.scale
  simp only [pow_zero, pow_one] at hfine
  refine ⟨hlow, ?_⟩
  by_contra hpast
  have := Int.mul_le_mul_of_nonneg_left (show 1 ≤ 2 * (d - (root + 1)) - 1 by omega)
    (show 0 ≤ scale by omega)
  omega

theorem close_of_near {previous current : Int} (hprevious : InvariantNear amp a b root 0 previous)
    (hcurrent : InvariantNear amp a b root 0 current) : close previous current = true := by
  have := h.le_succ_of_near hroot hprevious
  have := h.le_succ_of_near hroot hcurrent
  rw [close_iff]
  omega

omit hroot in
/-- The solver converges, and the exact invariant is less than one away from its answer on either
side. -/
theorem invariant_converges (hsize : a + b ≤ 2 ^ 200) :
    ∃ d, invariant amp a b = pure d ∧ 0 < d ∧ d ≤ a + b ∧
      surplus amp a b (d + 1) < 0 ∧ 0 ≤ surplus amp a b (d - 1) := by
  have hamp := h.amp_pos
  have ha := h.left_pos
  have hb := h.right_pos
  obtain ⟨root, hroot⟩ := exists_wholeInvariant hamp ha hb
  obtain ⟨d, hd⟩ := iterate_converges (N := InvariantNear amp a b root)
    (fun _ _ hnear => h.near_next hroot hnear) (fun _ _ => h.close_of_near hroot)
    (show 7 < maxSteps by decide) 0 (h.near_start hroot hsize)
  have hfirst : close 0 (a + b) = false := close_eq_false_iff.mpr (by omega)
  obtain ⟨_, _, last, hreached, hstep, hclose⟩ := last_step_of_converged hfirst hd
  have hwithin := within_of_reached hamp ha hb hreached
  rw [invariantStep_eq hamp ha hb hwithin.iterate.pos] at hstep
  obtain rfl := Except.ok.inj hstep
  have hnext := hwithin.next hamp ha hb
  have hlow := hroot.le_of_iterate hamp ha hb hwithin.iterate
  have hge := h.root_ge hroot
  have hlarge := h.sum_ge
  refine ⟨_, ?_, hnext.iterate.pos, hnext.le_sum, hnext.iterate.above,
    h.surplus_pred_of_close hwithin.iterate hwithin.le_sum (by omega) hclose⟩
  rw [invariant, solveInvariant_eq_iterate hamp ha hb, hd, Run.liftM_ok_bind, report_of_converged]

end Moderate

end PoolPricing.StableSwap
