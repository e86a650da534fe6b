import PoolPricing.Curve.Pricing
import PoolPricing.Untyped.Quantity
set_option autoImplicit false

namespace PoolPricing.Untyped

open Checked
open Document (Value)

def isFresh (state : Depeg.State) (now : Value) : Checked Bool :=
  if state.isDepegged then do
    let now ← quantity now
    pure (now.isAtMost (.whole (state.updated + Depeg.lifetime)))
  else pure true

def refreshState (state : Depeg.State) (now : Value) (account : Option Depeg.Bytes) :
    Run Depeg.State :=
  match now with
  | .integer now => state.refresh now account
  | now => do
    if ← isFresh state now then pure state
    else
      let price ← Depeg.price state.kind account
      let now ← quantity now
      Run.note (.priced state.kind state.price price state.updated now.truncated)
      throw (.mistyped "base_cache_updated" .integer)

def refreshCurve (curve : Curve) (now : Value) (account : Option Depeg.Bytes) : Run Curve :=
  match curve with
  | .constantProduct => pure .constantProduct
  | .stable curve => do
    let depeg ← refreshState curve.depeg now account
    pure (.stable { curve with depeg })

end PoolPricing.Untyped
