import PoolPricing.Curve.Scale
import PoolPricing.Document.Field
import PoolPricing.Untyped.Comparison
set_option autoImplicit false

namespace PoolPricing.Untyped

open Checked
open Document (Value)

inductive Scaled where
  | number (q : Quantity)
  | text (s : String) (copies : Nat)
  | list (items : List Value) (copies : Nat)

def greatestCopies : Int := 9223372036854775807

def scale (value : Value) (factor : Int) : Checked Scaled :=
  match value with
  | .text s =>
    if greatestCopies < factor then refuse (.unusable .tooLarge)
    else pure (.text s factor.toNat)
  | .list items =>
    if greatestCopies < factor then refuse (.unusable .tooLarge)
    else pure (.list items factor.toNat)
  | value => do
    let q ← quantity value
    Scaled.number <$> q.times (.whole factor)

namespace Scaled

def isZero : Scaled → Bool
  | .number q => q.isZero
  | _ => false

def quantity : Scaled → Checked Quantity
  | .number q => pure q
  | _ => refuse (.unusable .kind)

def count (subject : String) : Scaled → Checked Int
  | .number (.whole n) => do
    requireNonnegative subject n
    pure n
  | _ => refuse (.mistyped subject .integer)

def front {α : Type} (items : List α) (copies length : Nat) : List α :=
  (List.replicate (min copies length) items).flatten.take length

/-- Whether a scaled value is as great as another or greater. Copies of two sequences that agree as
far as both sequences together are long agree as far as both go. -/
def isAtLeast : Scaled → Scaled → Checked Bool
  | .number p, .number q => pure (q.isAtMost p)
  | .text s m, .text t n =>
    let length := s.length + t.length
    let xs := front s.toList m length
    let ys := front t.toList n length
    if xs = ys then pure (decide (n * t.length ≤ m * s.length))
    else Untyped.isAtLeast (.text (String.ofList xs)) (.text (String.ofList ys))
  | .list xs m, .list ys n =>
    let length := xs.length + ys.length
    let left := front xs m length
    let right := front ys n length
    if equalItems left right then pure (decide (n * ys.length ≤ m * xs.length))
    else areAtLeast left right
  | _, _ => refuse (.unusable .kind)

end Scaled

def upscaleA (curve : StableCurve) (amount : Value) : Checked Scaled :=
  scale amount (curve.upscaleA 1)

def upscaleB (curve : StableCurve) (amount : Value) : Checked Scaled := do
  let factor ← curve.upscaleB 1
  scale amount factor

def upscaleSource (curve : StableCurve) (direction : Direction) (amount : Value) :
    Checked Scaled :=
  match direction with
  | .aToB => upscaleA curve amount
  | .bToA => upscaleB curve amount

def upscaleDestination (curve : StableCurve) (direction : Direction) (amount : Value) :
    Checked Scaled :=
  upscaleSource curve direction.reverse amount

def downscaleA (curve : StableCurve) (amount : Quantity) : Checked Quantity := do
  let amount ← amount.floorDivide (.whole curve.multiplier.a)
  if curve.depeg.isDepegged then amount.floorDivide (.whole Depeg.precision) else pure amount

def downscaleB (curve : StableCurve) (amount : Quantity) : Checked Quantity := do
  let amount ← amount.floorDivide (.whole curve.multiplier.b)
  if curve.depeg.isDepegged then do
    let price ← curve.cachedPrice
    amount.floorDivide (.whole price)
  else pure amount

def downscaleDestination (curve : StableCurve) (direction : Direction) (amount : Quantity) :
    Checked Quantity :=
  match direction with
  | .aToB => downscaleB curve amount
  | .bToA => downscaleA curve amount

end PoolPricing.Untyped
