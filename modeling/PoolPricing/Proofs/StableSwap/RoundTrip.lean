import PoolPricing.Proofs.StableSwap.BalanceConvergence
import PoolPricing.Proofs.StableSwap.InvariantConvergence
set_option autoImplicit false

/-!
The two solvers one after the other. On a pool that is not too lopsided, the balance found at the
invariant found for two balances is within three of the one that was given: the invariant is off by
less than one, and the floors of the quadratic cost less than that again
(`Moderate.balance_within`). On an even pool the invariant is exact, and where the floors of the
quadratic lose nothing the balance is the given one (`evenPool_exact`).
-/

namespace PoolPricing.StableSwap

open Checked

namespace Moderate

variable {amp x y d : Int} (h : Moderate amp x y)
include h

theorem right_ge : 200 ≤ y := by
  have := h.left_le
  have := h.sum_ge
  omega

theorem sq_le_product (hd : 0 < d) (hsum : d ≤ x + y) : 4 * d ^ 2 ≤ 25 * (x * y) := by
  have hsquare := Int.mul_le_mul hsum hsum (Int.le_of_lt hd) (by omega)
  have := h.sum_sq_le
  linarith

section

variable (hd : 0 < d) (hsum : d ≤ x + y)
include hd hsum

theorem beyond_start : 0 < floorSurplus amp x d d := by
  have hx := h.left_pos
  have hshare : 0 ≤ d / (2 * amp) :=
    Int.ediv_nonneg (Int.le_of_lt hd) (show 0 ≤ 2 * amp by have := h.amp_ge; omega)
  have hsquare := Int.mul_le_mul (show d ≤ 5 * x by have := h.right_le; omega)
    (show d ≤ 5 * x by have := h.right_le; omega) (Int.le_of_lt hd) (by omega)
  have hslope := Int.mul_le_mul_of_nonneg_right h.amp_ge (sq_nonneg x)
  have hmore := Int.mul_nonneg (Int.mul_nonneg (show 0 ≤ amp by have := h.amp_ge; omega)
    (Int.le_of_lt hx)) hshare
  have hx2 : 0 < x ^ 2 := by positivity
  have hfactor : 0 < d * (8 * amp * x * (x + d / (2 * amp)) - d * d) :=
    Int.mul_pos hd (by linarith)
  unfold floorSurplus
  linarith

theorem beyond_add_three (hwithin : 0 ≤ surplus amp x y (d - 1)) :
    0 < floorSurplus amp x (y + 3) d := by
  have hamp := h.amp_ge
  have hx := h.left_pos
  have hy := h.right_ge
  have hxy : 0 < x * y := Int.mul_pos hx h.right_pos
  have hsquare := h.sq_le_product hd hsum
  have hfloor := Int.lt_ediv_add_one_mul_self d (show 0 < 2 * amp by omega)
  unfold surplus at hwithin
  unfold floorSurplus
  generalize d / (2 * amp) = share at *
  have harea : 0 ≤ 4 * x * (y + 3) := Int.mul_nonneg (by omega) (by omega)
  have hshare := Int.mul_le_mul_of_nonneg_left
    (show d - 2 * amp + 1 ≤ 2 * amp * share by linarith) harea
  have hline : 0 ≤ 2 * amp * (x + y) - (2 * amp - 1) * (d - 1) := by
    have := Int.mul_nonneg (show 0 ≤ 2 * amp - 1 by omega) (show 0 ≤ x + y - d by omega)
    linarith
  have hmore := Int.mul_nonneg (show 0 ≤ 12 * x by omega) hline
  have hslope := Int.mul_le_mul_of_nonneg_left (show 22 ≤ 2 * amp + 2 by omega) harea
  linarith

theorem within_sub_three (hbeyond : surplus amp x y (d + 1) < 0) :
    floorSurplus amp x (y - 3) d ≤ 0 := by
  have hamp := h.amp_ge
  have hx := h.left_pos
  have hy := h.right_ge
  have hsquare := h.sq_le_product hd hsum
  have hfloor := Int.ediv_mul_le d (show 2 * amp ≠ 0 by omega)
  unfold surplus at hbeyond
  unfold floorSurplus
  generalize d / (2 * amp) = share at *
  have harea : 0 ≤ 4 * x * (y - 3) := Int.mul_nonneg (by omega) (by omega)
  have hshare := Int.mul_le_mul_of_nonneg_left (show 2 * amp * share ≤ d by linarith) harea
  have hcube : 0 ≤ d ^ 3 := by positivity
  by_cases hline : 0 ≤ 2 * amp * (x + y) - (2 * amp - 1) * (d + 1)
  · have hless := Int.mul_nonneg (show 0 ≤ 12 * x by omega) hline
    have hslope := Int.mul_le_mul_of_nonneg_left (show 41 ≤ 4 * amp + 1 by omega) harea
    have hwide := Int.mul_le_mul_of_nonneg_left hy (Int.le_of_lt hx)
    have hright := h.right_le
    linarith
  · have hnegative := Int.mul_nonneg harea
      (show 0 ≤ 4 * amp + 1 - (2 * amp * (x + y) - (2 * amp - 1) * (d + 1)) by omega)
    linarith

/-- The solver of a balance converges at such an invariant, and comes to within three of the
balance. -/
theorem balance_within (hwithin : 0 ≤ surplus amp x y (d - 1))
    (hbeyond : surplus amp x y (d + 1) < 0) (hsize : x + y ≤ 2 ^ 200) :
    ∃ left, balance amp x d = pure left ∧ y - 3 ≤ left ∧ left ≤ y + 3 := by
  have hamp := h.amp_pos
  have hx := h.left_pos
  have hy := h.right_ge
  have hleft := h.left_le
  have hright := h.right_le
  have habove := (beyond_iff hamp hx d (y + 3)).mpr (h.beyond_add_three hd hsum hwithin)
  have hbelow : quadratic (linearTerm amp x d) (constantTerm amp x d) (y - 3) ≤ 0 := by
    rw [← Int.not_lt, beyond_iff hamp hx, Int.not_lt]
    exact h.within_sub_three hd hsum hbeyond
  have hconstant := constant_nonneg hamp hx (Int.le_of_lt hd)
  rw [← constantTerm_eq] at hconstant
  obtain ⟨bound, hbound⟩ := Int.eq_ofNat_of_zero_le (show 0 ≤ y + 2 by omega)
  rw [show y + 3 = bound + 1 by omega] at habove
  obtain ⟨root, hle, hroot⟩ := exists_wholeRoot hconstant bound habove
  have hlow := (hroot.le_iff (y - 3) (by omega)).mpr hbelow
  have hone : 1 ≤ root := by omega
  have hstart : root ≤ d := by
    have hpast := (beyond_iff hamp hx d d).mpr (h.beyond_start hd hsum)
    by_contra hless
    have := (hroot.le_iff d (Int.le_of_lt hd)).mp (by omega)
    omega
  obtain ⟨left, hsolution⟩ := solveBalance_converges hamp hx (Int.le_of_lt hd) hroot hone hstart
    (show d ≤ 6 * (root + 1) by omega) (by omega)
  have := near_root_of_converged hamp hx (Int.le_of_lt hd) hroot hone hsolution
  exact ⟨left, balance_of_converged hsolution, by omega, by omega⟩

end

end Moderate

/-- In a pool that is not too lopsided neither solver is cut off, and the balance found at the
invariant found for two balances is within three of the one that was given. -/
theorem roundTrip_within_three {amp x y : Int} (hamp : 10 ≤ amp) (hx : 1000 ≤ x)
    (hsize : x ≤ 2 ^ 128) (hlow : x * 3334 / 10000 ≤ y) (hhigh : y ≤ 3 * x) :
    ∃ d left, invariant amp x y = pure d ∧ balance amp x d = pure left ∧
      (left - y).natAbs ≤ 3 := by
  have h : Moderate amp x y := ⟨hamp, by omega, by omega, by omega⟩
  obtain ⟨d, hinvariant, hd, hsum, hbeyond, hwithin⟩ := h.invariant_converges (by omega)
  obtain ⟨left, hbalance, hless, hmore⟩ := h.balance_within hd hsum hwithin hbeyond (by omega)
  exact ⟨d, left, hinvariant, hbalance, by omega⟩

theorem roundTrip_within_three_lopsided :
    (10 : Int) ≤ 15 ∧ (1000 : Int) ≤ 1289 ∧ (1289 : Int) ≤ 2 ^ 128 ∧
    (1289 * 3334 / 10000 : Int) ≤ 3864 ∧ (3864 : Int) ≤ 3 * 1289 ∧
    invariant 15 1289 3864 = pure 5100 ∧ balance 15 1289 5100 = pure 3862 ∧
    ((3862 : Int) - 3864).natAbs ≤ 3 := by
  have hinvariant : invariant 15 1289 3864 = pure 5100 := rfl
  have hbalance : balance 15 1289 5100 = pure 3862 := rfl
  obtain ⟨d, left, hd, hleft, hwithin⟩ :=
    roundTrip_within_three (show (10 : Int) ≤ 15 by decide) (show (1000 : Int) ≤ 1289 by decide)
      (by decide) (show (1289 * 3334 / 10000 : Int) ≤ 3864 by decide) (by decide)
  obtain rfl : 5100 = d := Run.pure_inj (hinvariant.symm.trans hd)
  obtain rfl : 3862 = left := Run.pure_inj (hbalance.symm.trans hleft)
  exact ⟨by decide, by decide, by decide, by decide, by decide, hinvariant, hbalance, hwithin⟩

section

variable {amp k : Int} (hamp : 1 ≤ amp) (hk : 1 ≤ k)
include hamp hk

theorem nextInvariant_even : nextInvariant amp k k (k + k) = k + k := by
  have hproduct : floorProduct k k (k + k) = k + k := by
    rw [floorProduct, show (k + k) * (k + k) = (k + k) * (2 * k) by ring,
      Int.mul_ediv_cancel _ (by omega), show (k + k) * (k + k) = (k + k) * (2 * k) by ring,
      Int.mul_ediv_cancel _ (by omega)]
  rw [nextInvariant, hproduct,
    show (k + k) * (2 * amp * (k + k) + 2 * (k + k)) =
      (k + k) * ((k + k) * (2 * amp - 1) + 3 * (k + k)) by ring]
  have hslope := Int.mul_pos (show 0 < k + k by omega) (show 0 < 2 * amp - 1 by omega)
  exact Int.mul_ediv_cancel _ (by omega)

theorem invariant_even : invariant amp k k = pure (2 * k) := by
  have hclose : close (k + k) (k + k) = true := by
    rw [close_iff]
    omega
  rw [invariant, solveInvariant_eq hamp hk hk, nextInvariant_even hamp hk, iterate_of_close hclose,
    Run.liftM_ok_bind, report_of_converged, two_mul]

theorem terms_even : linearTerm amp (2 * amp * k) (2 * (2 * amp * k)) = 2 * k - 2 * amp * k ∧
    constantTerm amp (2 * amp * k) (2 * (2 * amp * k)) = 2 * k * (2 * amp * k) := by
  have hx : 0 < amp * k := Int.mul_pos (by omega) (by omega)
  constructor
  · rw [linearTerm, show 2 * (2 * amp * k) = 2 * k * (2 * amp) by ring,
      Int.mul_ediv_cancel _ (by omega)]
    ring
  · have hscale : 0 < 4 * (2 * amp * k) * (2 * amp) := Int.mul_pos (by linarith) (by omega)
    rw [constantTerm, show (2 * (2 * amp * k)) ^ 3 =
      2 * k * (2 * amp * k) * (4 * (2 * amp * k) * (2 * amp)) by ring]
    exact Int.mul_ediv_cancel _ (Int.ne_of_gt hscale)

theorem balance_even (hsize : 2 * amp * k ≤ 2 ^ 256) :
    balance amp (2 * amp * k) (2 * (2 * amp * k)) = pure (2 * amp * k) := by
  obtain ⟨hlinear, hconstant⟩ := terms_even hamp hk
  have hx : 2 ≤ 2 * amp * k := by
    have := Int.mul_pos (show 0 < amp by omega) (show 0 < k by omega)
    linarith
  have hzero : quadratic (linearTerm amp (2 * amp * k) (2 * (2 * amp * k)))
      (constantTerm amp (2 * amp * k) (2 * (2 * amp * k))) (2 * amp * k) = 0 := by
    rw [hlinear, hconstant, quadratic]
    ring
  have hroot : WholeRoot (linearTerm amp (2 * amp * k) (2 * (2 * amp * k)))
      (constantTerm amp (2 * amp * k) (2 * (2 * amp * k))) (2 * amp * k) := by
    refine wholeRoot_of_sign ?_ (by omega) (Int.le_of_eq hzero) ?_
    · rw [hconstant]
      exact Int.mul_nonneg (by omega) (by omega)
    · rw [hlinear, hconstant, quadratic]
      linarith
  refine balance_exact hamp (by omega) (by omega) hroot (by omega) (by omega) (by omega) hsize
    (by omega) hzero ?_
  rw [hlinear]
  omega

end

/-- The invariant of an even pool is the sum of its balances, and where each balance is a multiple
of twice the amplification, the balance at that invariant is the given one. Neither solver is cut
off. -/
theorem evenPool_exact {amp k : Int} (hamp : 1 ≤ amp) (hk : 1 ≤ k) :
    invariant amp k k = pure (2 * k) ∧
    (2 * amp * k ≤ 2 ^ 256 →
      ∃ d, invariant amp (2 * amp * k) (2 * amp * k) = pure d ∧
        balance amp (2 * amp * k) d = pure (2 * amp * k)) := by
  refine ⟨invariant_even hamp hk,
    fun hsize => ⟨_, invariant_even hamp ?_, balance_even hamp hk hsize⟩⟩
  have := Int.mul_pos (show 0 < amp by omega) (show 0 < k by omega)
  linarith

theorem evenPool_exact_seventy :
    (1 : Int) ≤ 5 ∧ (1 : Int) ≤ 7 ∧ (2 * 5 * 7 : Int) ≤ 2 ^ 256 ∧
    invariant 5 7 7 = pure 14 ∧
    invariant 5 70 70 = pure 140 ∧ balance 5 70 140 = pure 70 := by
  have hinvariant : invariant 5 70 70 = pure 140 := rfl
  obtain ⟨hsmall, hlarge⟩ := evenPool_exact (show (1 : Int) ≤ 5 by decide)
    (show (1 : Int) ≤ 7 by decide)
  obtain ⟨d, hd, hbalance⟩ := hlarge (by norm_num)
  obtain rfl : 140 = d := Run.pure_inj (hinvariant.symm.trans hd)
  exact ⟨by decide, by decide, by norm_num, hsmall, hinvariant, hbalance⟩

end PoolPricing.StableSwap
