import PoolPricing.Depeg.State
import PoolPricing.Direction
set_option autoImplicit false

namespace PoolPricing

open Checked

@[ext] structure Multiplier where
  a : Int
  b : Int
  decimals : Int
  a_pos : 0 < a
  b_pos : 0 < b
  decimals_nonneg : 0 ≤ decimals
  deriving Repr

instance : DecidableEq Multiplier := fun _ _ =>
  decidable_of_decidable_of_iff Multiplier.ext_iff.symm

namespace Multiplier

def ofNumbers (a b decimals : Int) : Checked Multiplier :=
  if h : a ≤ 0 ∨ b ≤ 0 then refuse (.invalid (.notPositive "token multipliers"))
  else if hd : decimals < 0 then refuse (.invalid (.negativeShown "precision_factor" decimals))
  else .ok ⟨a, b, decimals, by omega, by omega, by omega⟩

def ofDecimals (a b : Nat) : Multiplier :=
  ⟨Int.pow 10 (max a b - a), Int.pow 10 (max a b - b), max a b, Int.pow_pos (by decide),
    Int.pow_pos (by decide), by omega⟩

end Multiplier

/-- A stable curve: its amplification, its unit, its price cache, and when the amplification was
last set, which is carried along but plays no part in pricing. -/
structure StableCurve where
  amp : Int
  multiplier : Multiplier
  depeg : Depeg.State
  ampUpdated : Int
  amp_pos : 1 ≤ amp
  amp_le : amp ≤ 10000
  deriving DecidableEq, Repr

namespace StableCurve

def greatestAmp : Int := 10000

def ofNumbers (amp : Int) (multiplier : Multiplier) (depeg : Depeg.State) (ampUpdated : Int) :
    Checked StableCurve :=
  if h : 1 ≤ amp ∧ amp ≤ 10000 then .ok ⟨amp, multiplier, depeg, ampUpdated, h.1, h.2⟩
  else refuse (.invalid (.outside "amp" 1 greatestAmp amp))

def cachedPrice (curve : StableCurve) : Checked Int :=
  if curve.depeg.price = 0 then refuse (.missingAccount (.noCachedPrice curve.depeg.kind))
  else pure curve.depeg.price

def priceFactorA (curve : StableCurve) : Int :=
  if curve.depeg.isDepegged then Depeg.precision else 1

def priceFactorB (curve : StableCurve) : Checked Int :=
  if curve.depeg.isDepegged then curve.cachedPrice else pure 1

def upscaleA (curve : StableCurve) (amount : Int) : Int :=
  amount * (curve.multiplier.a * curve.priceFactorA)

def upscaleB (curve : StableCurve) (amount : Int) : Checked Int := do
  let factor ← curve.priceFactorB
  pure (amount * (curve.multiplier.b * factor))

/-- Back from the common unit, rounded down twice. -/
def downscaleA (curve : StableCurve) (amount : Int) : Int :=
  amount / curve.multiplier.a / curve.priceFactorA

def downscaleB (curve : StableCurve) (amount : Int) : Checked Int := do
  let factor ← curve.priceFactorB
  floorDivide (amount / curve.multiplier.b) factor

/-- An amount of the token paid in, in the common unit. -/
def upscaleSource (curve : StableCurve) (direction : Direction) (amount : Int) : Checked Int :=
  match direction with
  | .aToB => pure (curve.upscaleA amount)
  | .bToA => curve.upscaleB amount

def downscaleSource (curve : StableCurve) (direction : Direction) (amount : Int) : Checked Int :=
  match direction with
  | .aToB => pure (curve.downscaleA amount)
  | .bToA => curve.downscaleB amount

def upscaleDestination (curve : StableCurve) (direction : Direction) (amount : Int) :
    Checked Int :=
  curve.upscaleSource direction.reverse amount

def downscaleDestination (curve : StableCurve) (direction : Direction) (amount : Int) :
    Checked Int :=
  curve.downscaleSource direction.reverse amount

end StableCurve
end PoolPricing
