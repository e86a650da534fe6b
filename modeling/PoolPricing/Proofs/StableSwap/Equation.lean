import PoolPricing.StableSwap.Solver
import Mathlib.Tactic.Linarith
import Mathlib.Tactic.Positivity
import Mathlib.Tactic.Ring
set_option autoImplicit false

namespace PoolPricing.StableSwap

/-- How far the equation of the stable curve is from holding at `d`: positive below the invariant of
the balances, negative above it. -/
def surplus (amp x y d : Int) : Int :=
  4 * x * y * (2 * amp * (x + y) - (2 * amp - 1) * d) - d ^ 3

theorem surplus_comm (amp x y d : Int) : surplus amp x y d = surplus amp y x d := by
  unfold surplus
  ring

section

variable {amp x y : Int} (hamp : 1 ≤ amp) (hx : 0 < x) (hy : 0 < y)
include hamp hx hy

theorem surplus_antitone {d e : Int} (h : d ≤ e) : surplus amp x y e ≤ surplus amp x y d := by
  have hlinear : 0 ≤ 4 * x * y * (2 * amp - 1) * (e - d) :=
    Int.mul_nonneg (Int.mul_nonneg (by positivity) (by omega)) (by omega)
  have hcube : d ^ 3 ≤ e ^ 3 := by
    have hdiff : e ^ 3 - d ^ 3 = (e - d) * (e * e + e * d + d * d) := by ring
    have hform : 0 ≤ e * e + e * d + d * d := by
      nlinarith [mul_self_nonneg (e + d), mul_self_nonneg e, mul_self_nonneg d]
    have := Int.mul_nonneg (Int.sub_nonneg_of_le h) hform
    omega
  unfold surplus
  linarith

theorem lt_of_surplus {d e : Int} (hd : 0 ≤ surplus amp x y d) (he : surplus amp x y e < 0) :
    d < e := by
  by_contra h
  have := surplus_antitone hamp hx hy (Int.not_lt.mp h)
  omega

theorem surplus_pos_of_le {x' d : Int} (hd : 0 ≤ d) (hle : x ≤ x')
    (h : 0 < surplus amp x y d) : 0 < surplus amp x' y d := by
  have hcube : 0 ≤ d ^ 3 := by positivity
  have hproduct : 0 < 4 * x * y := by positivity
  have hfactor : 0 ≤ 2 * amp * (x + y) - (2 * amp - 1) * d := by
    by_contra hneg
    have := Int.mul_nonpos_of_nonneg_of_nonpos (Int.le_of_lt hproduct) (by omega :
      2 * amp * (x + y) - (2 * amp - 1) * d ≤ 0)
    unfold surplus at h
    omega
  have hgrown : 4 * x * y ≤ 4 * x' * y :=
    Int.mul_le_mul_of_nonneg_right (by omega) (Int.le_of_lt hy)
  have hsum : 2 * amp * (x + y) ≤ 2 * amp * (x' + y) :=
    Int.mul_le_mul_of_nonneg_left (by omega) (by omega)
  have := Int.mul_le_mul hgrown (Int.sub_le_sub_right hsum ((2 * amp - 1) * d)) hfactor
    (by linarith)
  unfold surplus at h ⊢
  omega

theorem four_mul_lt_sq {t : Int} (ht : 0 ≤ t) (h : surplus amp x y t < 0) : 4 * x * y < t ^ 2 := by
  by_contra hle
  have hroot : t ≤ x + y := by nlinarith [mul_self_nonneg (x - y)]
  have hcube : t ^ 3 ≤ 4 * x * y * t := by nlinarith
  have hrest : 0 ≤ 4 * x * y * (2 * amp) * (x + y - t) :=
    Int.mul_nonneg (by positivity) (by omega)
  unfold surplus at h
  linarith

end

end PoolPricing.StableSwap
