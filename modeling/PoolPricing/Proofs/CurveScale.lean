import PoolPricing.Curve.Scale
import PoolPricing.Proofs.Outcome
set_option autoImplicit false

namespace PoolPricing.StableCurve

open Checked

/-- A plain curve needs no price; any other needs a cached one. -/
def CanPrice (curve : StableCurve) : Prop := curve.depeg.kind = .none ∨ 0 < curve.depeg.price

/-- The factor of the token that a direction pays in. -/
def factor (curve : StableCurve) (direction : Direction) : Int :=
  match direction with
  | .aToB => curve.multiplier.a * curve.priceFactorA
  | .bToA => curve.multiplier.b * (if curve.depeg.isDepegged then curve.depeg.price else 1)

theorem priceFactorA_pos (curve : StableCurve) : 0 < curve.priceFactorA := by
  unfold priceFactorA
  split <;> decide

theorem canPrice_of_priceFactorB {curve : StableCurve} {factor : Int}
    (h : curve.priceFactorB = .ok factor) : curve.CanPrice := by
  by_cases hplain : curve.depeg.kind = .none
  · exact .inl hplain
  by_cases hzero : curve.depeg.price = 0
  · simp [priceFactorB, cachedPrice, Depeg.State.isDepegged, hplain, hzero] at h
  · have := curve.depeg.price_nonneg
    exact .inr (by omega)

variable {curve : StableCurve} (h : curve.CanPrice)
include h

theorem priceFactorB_eq :
    curve.priceFactorB = .ok (if curve.depeg.isDepegged then curve.depeg.price else 1) ∧
      0 < (if curve.depeg.isDepegged then curve.depeg.price else 1) := by
  cases hkind : curve.depeg.isDepegged with
  | false => simp [priceFactorB, hkind, pure, Except.pure]
  | true =>
    have hprice : 0 < curve.depeg.price := by
      obtain hplain | hpriced := h
      · simp [Depeg.State.isDepegged, hplain] at hkind
      · exact hpriced
    simp [priceFactorB, cachedPrice, hkind, hprice, Int.ne_of_gt hprice, pure, Except.pure]

theorem factor_pos (direction : Direction) : 0 < curve.factor direction := by
  cases direction with
  | aToB => exact Int.mul_pos curve.multiplier.a_pos curve.priceFactorA_pos
  | bToA => exact Int.mul_pos curve.multiplier.b_pos (priceFactorB_eq h).2

theorem upscaleSource_eq (direction : Direction) (amount : Int) :
    curve.upscaleSource direction amount = .ok (amount * curve.factor direction) := by
  cases direction with
  | aToB => rfl
  | bToA =>
    rw [upscaleSource, upscaleB, (priceFactorB_eq h).1, ok_bind, factor]
    rfl

theorem downscaleSource_eq (direction : Direction) (amount : Int) :
    curve.downscaleSource direction amount = .ok (amount / curve.factor direction) := by
  cases direction with
  | aToB =>
    rw [downscaleSource, downscaleA, Int.ediv_ediv_of_nonneg (Int.le_of_lt curve.multiplier.a_pos),
      factor]
    rfl
  | bToA =>
    rw [downscaleSource, downscaleB, (priceFactorB_eq h).1, ok_bind,
      floorDivide_of_pos _ (priceFactorB_eq h).2,
      Int.ediv_ediv_of_nonneg (Int.le_of_lt curve.multiplier.b_pos), factor]

def hundredfold (multiplier : Multiplier) (depeg : Depeg.State) : StableCurve :=
  ⟨100, multiplier, depeg, 0, by decide, by decide⟩

end PoolPricing.StableCurve
