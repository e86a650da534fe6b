import PoolPricing.Untyped.Quantity
set_option autoImplicit false

namespace PoolPricing.Untyped

open Checked
open Document (Fields Value)

def equalAtoms (x y : Value) : Bool :=
  match x, y with
  | .null, .null => true
  | .text s, .text t => s = t
  | x, y =>
    match quantity x, quantity y with
    | .ok p, .ok q => p.order? q = some .eq
    | _, _ => false

mutual

def equal : Value → Value → Bool
  | .list xs, .list ys => equalItems xs ys
  | .object fields, .object others =>
    fields.length = others.length && equalFields fields others
  | x, y => equalAtoms x y

def equalItems : List Value → List Value → Bool
  | [], [] => true
  | x :: xs, y :: ys => equal x y && equalItems xs ys
  | _, _ => false

def equalFields : List (String × Value) → Fields → Bool
  | [], _ => true
  | (key, x) :: rest, others =>
    match others.get? key with
    | some y => equal x y && equalFields rest others
    | none => false

end

mutual

def isAtLeast : Value → Value → Checked Bool
  | .text s, .text t => pure (!(decide (s < t)))
  | .list xs, .list ys => areAtLeast xs ys
  | x, y => do
    let p ← quantity x
    let q ← quantity y
    pure (q.isAtMost p)

/-- As `isAtLeast` for items: the first two that differ decide, then the lengths. -/
def areAtLeast : List Value → List Value → Checked Bool
  | _, [] => pure true
  | [], _ :: _ => pure false
  | x :: xs, y :: ys => if equal x y then areAtLeast xs ys else isAtLeast x y

end

end PoolPricing.Untyped
