import PoolPricing.Number.Binary64
set_option autoImplicit false

/-!
Binary numbers together with two infinities and the undefined one, and their arithmetic. Every
result is the nearest number to the exact one; beyond the range it is an infinity. A comparison with
the undefined number has no answer.
-/

namespace PoolPricing.Number

inductive Extended where
  | finite (x : Binary64)
  | infinite (negative : Bool)
  | undefined
  deriving DecidableEq, Repr

namespace Extended

def nearest (zeroNegative : Bool) (q : Rat) : Extended :=
  let negative := q < 0 || (q == 0 && zeroNegative)
  match Binary64.nearest? negative q.num.natAbs q.den with
  | some x => .finite x
  | none => .infinite negative

def isNegative : Extended → Bool
  | .finite x => x.negative
  | .infinite negative => negative
  | .undefined => false

def isZero : Extended → Bool
  | .finite x => x.significand == 0
  | _ => false

def neg : Extended → Extended
  | .finite x => .finite { x with negative := !x.negative }
  | .infinite negative => .infinite !negative
  | .undefined => .undefined

def add : Extended → Extended → Extended
  | .finite x, .finite y => nearest (x.negative && y.negative) (x.toRat + y.toRat)
  | .infinite m, .infinite n => if m = n then .infinite m else .undefined
  | .infinite m, .finite _ | .finite _, .infinite m => .infinite m
  | .undefined, _ | _, .undefined => .undefined

def sub (x y : Extended) : Extended := x.add y.neg

def mul : Extended → Extended → Extended
  | .finite x, .finite y => nearest (x.negative ^^ y.negative) (x.toRat * y.toRat)
  | .undefined, _ | _, .undefined => .undefined
  | x, y => if x.isZero || y.isZero then .undefined else .infinite (x.isNegative ^^ y.isNegative)

def floor : Extended → Extended
  | .finite x => nearest x.negative (x.toRat.floor : Rat)
  | x => x

/-- The quotient rounded to a whole number: down, but up where the division was rounded across a
whole number by more than half. -/
def snap (quotient : Extended) : Extended :=
  let lower := quotient.floor
  match quotient.sub lower with
  | .finite excess => if 1 / 2 < excess.toRat then lower.add (nearest false 1) else lower
  | _ => lower

def remainder (x y : Rat) : Rat :=
  let quotient := x / y
  x - y * (if quotient < 0 then quotient.ceil else quotient.floor : Int)

/-- A finite number divided by another that is not zero, rounded down. The remainder is taken off
first, so that the division meets a whole number up to rounding. -/
def floorDivideFinite (x y : Binary64) : Extended :=
  let rest := remainder x.toRat y.toRat
  let negative := x.negative ^^ y.negative
  let even := match nearest x.negative (x.toRat - rest) with
    | .finite whole => nearest negative (whole.toRat / y.toRat)
    | other => other
  let quotient :=
    if rest ≠ 0 ∧ (rest < 0) ≠ (y.toRat < 0) then even.sub (nearest false 1) else even
  if quotient.isZero then nearest negative 0 else quotient.snap

def floorDivide : Extended → Extended → Extended
  | .finite x, .finite y => floorDivideFinite x y
  | .finite x, .infinite negative =>
    if x.significand ≠ 0 ∧ x.negative ≠ negative then nearest false (-1)
    else nearest (x.negative ^^ negative) 0
  | .infinite _, _ | .undefined, _ | _, .undefined => .undefined

end Extended
end PoolPricing.Number
