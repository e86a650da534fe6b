import PoolPricing.Proofs.CurveScale
import Mathlib.Data.Int.ConditionallyCompleteOrder
import Mathlib.Data.Rat.Floor
set_option autoImplicit false

namespace PoolPricing

open Checked

theorem Number.floor_div_eq_ediv (m : Int) {d : Int} (hd : 0 < d) : ⌊(m : Rat) / d⌋ = m / d := by
  have hd' : (0 : Rat) < d := Int.cast_pos.mpr hd
  rw [Int.floor_eq_iff, le_div_iff₀ hd', div_lt_iff₀ hd']
  exact ⟨mod_cast Int.ediv_mul_le m (Int.ne_of_gt hd),
    mod_cast Int.lt_ediv_add_one_mul_self m hd⟩

namespace StableCurve

section

variable {curve : StableCurve} (h : curve.CanPrice) (direction : Direction)
include h

theorem galoisConnection_factor :
    GaloisConnection (· * curve.factor direction) (· / curve.factor direction) :=
  fun _ _ => (Int.le_ediv_iff_mul_le (factor_pos h direction)).symm

/-- For either token, named by the direction that pays it in: scaling up multiplies by a positive
factor and scaling down divides by it, rounded down, also below zero. What is scaled up comes back
exactly, and what a number is scaled down to is the most that scales up to no more than it. -/
theorem scale_adjoint :
    ∃ up down : Int → Int,
      (∀ n, curve.upscaleSource direction n = .ok (up n)) ∧
      (∀ m, curve.downscaleSource direction m = .ok (down m)) ∧
      (∀ n, curve.downscaleSource direction (up n) = .ok n) ∧
      (∀ m, IsGreatest {n | up n ≤ m} (down m)) ∧
      0 < curve.factor direction ∧ (∀ n, up n = n * curve.factor direction) ∧
      ∀ m, down m = ⌊(m : Rat) / curve.factor direction⌋ := by
  have hfactor := factor_pos h direction
  refine ⟨(· * curve.factor direction), (· / curve.factor direction), upscaleSource_eq h direction,
    downscaleSource_eq h direction, fun n => ?_,
    fun m => (galoisConnection_factor h direction).isGreatest_u, hfactor, fun _ => rfl,
    fun m => (Number.floor_div_eq_ediv m hfactor).symm⟩
  rw [downscaleSource_eq h direction, Int.mul_ediv_cancel n (Int.ne_of_gt hfactor)]

end

theorem scale_adjoint_tenths :
    let curve := hundredfold ⟨1, 10, 1, by decide, by decide, by decide⟩
      ⟨1100000, 0, .lido, by decide, by decide⟩
    curve.CanPrice ∧ curve.factor .bToA = 11000000 ∧
    curve.upscaleSource .bToA (-2) = .ok (-22000000) ∧
    curve.downscaleSource .bToA (-22000000) = .ok (-2) ∧
    curve.downscaleSource .bToA (-1) = .ok (-1) ∧
    curve.downscaleSource .bToA 21999999 = .ok 1 ∧
    IsGreatest {n : Int | n * 11000000 ≤ -1} (-1) := by
  intro curve
  have hcan : curve.CanPrice := .inr (by decide)
  have hdown : curve.downscaleSource .bToA (-1) = .ok (-1) := rfl
  obtain ⟨up, down, _, hdowns, _, hgreatest, _, hup, _⟩ := scale_adjoint hcan .bToA
  have hdebt := hgreatest (-1)
  rw [Except.ok.inj ((hdowns (-1)).symm.trans hdown)] at hdebt
  simp only [hup] at hdebt
  exact ⟨hcan, rfl, rfl, rfl, hdown, rfl, hdebt⟩

end StableCurve
end PoolPricing
