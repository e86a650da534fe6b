set_option autoImplicit false

namespace PoolPricing.Number

/-- The number `significand * 2 ^ exponent` with a sign. The significand has 53 bits, or fewer
where the exponent is the least, -1074. -/
structure Binary64 where
  negative : Bool
  significand : Nat
  exponent : Int
  deriving DecidableEq, Repr

/-- The quotient rounded to the nearest whole number, a half to the even one. -/
def roundHalfEven (num den : Nat) : Nat :=
  let q := num / den
  let r := num % den
  if 2 * r < den ∨ (2 * r = den ∧ q % 2 = 0) then q else q + 1

def scaleByPowerOfTwo (num den : Nat) (shift : Int) : Nat × Nat :=
  if 0 ≤ shift then (num * Nat.pow 2 shift.toNat, den)
  else (num, den * Nat.pow 2 (-shift).toNat)

namespace Binary64

def leadingExponent (num den : Nat) : Int :=
  let guess : Int := (Nat.log2 num : Int) - Nat.log2 den
  let scaled := scaleByPowerOfTwo num den (-guess)
  if scaled.1 < scaled.2 then guess - 1 else guess

/-- The number nearest to `num / den`, none if that is beyond the range. -/
def nearest? (negative : Bool) (num den : Nat) : Option Binary64 :=
  if num = 0 then some ⟨negative, 0, -1074⟩
  else
    let exponent := max (leadingExponent num den - 52) (-1074)
    let scaled := scaleByPowerOfTwo num den (-exponent)
    let significand := roundHalfEven scaled.1 scaled.2
    let carried := significand = Nat.pow 2 53
    let exponent := if carried then exponent + 1 else exponent
    let significand := if carried then Nat.pow 2 52 else significand
    if 971 < exponent then none else some ⟨negative, significand, exponent⟩

def ofRat? (q : Rat) : Option Binary64 := nearest? (q.num < 0) q.num.natAbs q.den

def ofDecimal? (negative : Bool) (digits : Nat) (exponent : Int) : Option Binary64 :=
  let magnitude : Int := (Nat.log2 digits : Int) / 4 + exponent
  if digits = 0 ∨ magnitude + Nat.log2 digits < -400 then some ⟨negative, 0, -1074⟩
  else if 400 < magnitude then none
  else if 0 ≤ exponent then nearest? negative (digits * Nat.pow 10 exponent.toNat) 1
  else nearest? negative digits (Nat.pow 10 (-exponent).toNat)

def toRat (x : Binary64) : Rat :=
  let scaled := scaleByPowerOfTwo x.significand 1 x.exponent
  let magnitude := mkRat scaled.1 scaled.2
  if x.negative then -magnitude else magnitude

/-- The 64 bits of the interchange format: sign, biased exponent, significand without its
leading bit. -/
def bits (x : Binary64) : Nat :=
  let magnitude :=
    if x.significand < Nat.pow 2 52 then x.significand
    else (x.exponent + 1075).toNat * Nat.pow 2 52 + (x.significand - Nat.pow 2 52)
  if x.negative then Nat.pow 2 63 + magnitude else magnitude

end Binary64
end PoolPricing.Number
