import PoolPricing.Checked
import PoolPricing.Number.Extended
set_option autoImplicit false

/-!
Quantities: numbers that may be whole or not, and their arithmetic. Whole numbers are exact; as soon
as one operand is not whole, both are rounded to binary numbers, which a whole number can be too
large for. Comparisons are exact throughout.
-/

namespace PoolPricing.Untyped

open Checked
open Document (Figure Value)
open Number (Extended)

inductive Quantity where
  | whole (n : Int)
  | binary (x : Extended)
  deriving DecidableEq, Repr

/-- Text, lists, objects and null are no quantities; a flag counts as one or zero. -/
def quantity (value : Value) : Checked Quantity :=
  match value with
  | .integer n => pure (.whole n)
  | .flag b => pure (.whole (if b then 1 else 0))
  | .fraction x => pure (.binary (.finite x))
  | _ => refuse (.unusable .kind)

def integral? : Value → Option Int
  | .integer n => some n
  | .flag b => some (if b then 1 else 0)
  | _ => none

def integrals? (x y : Value) : Option (Int × Int) := do
  let x ← integral? x
  let y ← integral? y
  pure (x, y)

namespace Quantity

def ofFigure : Figure → Quantity
  | .whole n => .whole n
  | .flag b => .whole (if b then 1 else 0)
  | .fraction x => .binary (.finite x)

def rounded : Quantity → Checked Extended
  | .whole n =>
    match Number.Binary64.ofRat? n with
    | some x => pure (.finite x)
    | none => refuse (.unusable .tooLarge)
  | .binary x => pure x

def combine (wholes : Int → Int → Int) (binaries : Extended → Extended → Extended)
    (x y : Quantity) : Checked Quantity :=
  match x, y with
  | .whole m, .whole n => pure (.whole (wholes m n))
  | x, y => do
    let x ← x.rounded
    let y ← y.rounded
    pure (.binary (binaries x y))

def plus : Quantity → Quantity → Checked Quantity := combine (· + ·) Extended.add

def minus : Quantity → Quantity → Checked Quantity := combine (· - ·) Extended.sub

def times : Quantity → Quantity → Checked Quantity := combine (· * ·) Extended.mul

def order? : Quantity → Quantity → Option Ordering
  | .binary .undefined, _ | _, .binary .undefined => none
  | .binary (.infinite m), .binary (.infinite n) =>
    some (if m = n then .eq else if m then .lt else .gt)
  | .binary (.infinite negative), _ => some (if negative then .lt else .gt)
  | _, .binary (.infinite negative) => some (if negative then .gt else .lt)
  | .whole m, .whole n => some (compare m n)
  | .whole m, .binary (.finite y) => some (orderOf m y.toRat)
  | .binary (.finite x), .whole n => some (orderOf x.toRat n)
  | .binary (.finite x), .binary (.finite y) => some (orderOf x.toRat y.toRat)
where
  orderOf (p q : Rat) : Ordering := if p < q then .lt else if q < p then .gt else .eq

def isLess (x y : Quantity) : Bool := x.order? y = some .lt

def isAtMost (x y : Quantity) : Bool := x.order? y = some .lt || x.order? y = some .eq

def isZero (x : Quantity) : Bool := x.order? (.whole 0) = some .eq

def floorDivide (x y : Quantity) : Checked Quantity :=
  match x, y with
  | .whole m, .whole n => Quantity.whole <$> Checked.floorDivide m n
  | x, y => do
    let x ← x.rounded
    let y ← y.rounded
    if y.isZero then refuse .zeroDivisor
    pure (.binary (x.floorDivide y))

def value : Quantity → Value
  | .whole n => .integer n
  | .binary (.finite x) => .fraction x
  | .binary _ => .null

def truncated : Quantity → Int
  | .whole n => n
  | .binary (.finite x) => if x.negative then x.toRat.ceil else x.toRat.floor
  | .binary _ => 0

end Quantity

def isZero (value : Value) : Bool :=
  match quantity value with
  | .ok q => q.isZero
  | .error _ => false

end PoolPricing.Untyped
