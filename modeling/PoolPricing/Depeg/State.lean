import PoolPricing.Depeg.Price
import PoolPricing.Run
set_option autoImplicit false

namespace PoolPricing.Depeg

open Checked

/-- A price with the time at which it was read. -/
@[ext] structure State where
  price : Int
  updated : Int
  kind : Kind
  price_nonneg : 0 ≤ price
  updated_nonneg : 0 ≤ updated
  deriving Repr

instance : DecidableEq State := fun _ _ => decidable_of_decidable_of_iff State.ext_iff.symm

def lifetime : Int := 600

namespace State

def ofNumbers (price updated : Int) (kind : Kind) : Checked State :=
  if hp : price < 0 then refuse (.invalid (.negativeShown "base_virtual_price" price))
  else if hu : updated < 0 then refuse (.invalid (.negativeShown "base_cache_updated" updated))
  else pure ⟨price, updated, kind, nonneg_of_not_neg hp, nonneg_of_not_neg hu⟩

def plain : State := ⟨0, 0, .none, zero_nonneg, zero_nonneg⟩

def isDepegged (state : State) : Bool := state.kind ≠ .none

/-- A plain pool is always fresh. -/
def isFresh (state : State) (now : Int) : Bool :=
  !state.isDepegged || now ≤ state.updated + lifetime

def reprice (state : State) (price now : Int) : Checked State := ofNumbers price now state.kind

def refresh (state : State) (now : Int) (account : Option Bytes) : Run State :=
  if state.isFresh now then pure state
  else do
    let price ← Depeg.price state.kind account
    Run.note (.priced state.kind state.price price state.updated now)
    state.reprice price now

/-- The state that a refresh leaves; a failure changes nothing. -/
def afterRefresh (state : State) (now : Int) (account : Option Bytes) : State :=
  match (state.refresh now account).outcome with
  | .ok refreshed => refreshed
  | .error _ => state

end State
end PoolPricing.Depeg
