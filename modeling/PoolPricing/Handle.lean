import PoolPricing.Quote.Deposit
import PoolPricing.Quote.Info
import PoolPricing.Quote.Swap
import PoolPricing.Quote.Withdrawal
import PoolPricing.Settings
set_option autoImplicit false

/-!
Handles: a pool that is followed through a series of snapshots. What outlives a snapshot is the
price cache alone: it is refreshed before a quote, and carried over into a newer snapshot whose own
cache is older. A quote that fails leaves the handle as the refresh before it did.
-/

namespace PoolPricing

structure Handle where
  settings : Settings
  snapshot : Snapshot
  deriving DecidableEq, Repr

namespace Handle

def depeg? (handle : Handle) : Option Depeg.State := handle.snapshot.curve.depeg?

/-- The curve of a new snapshot, with the cache held so far if that is the newer one of its kind. -/
def carryCache (held : Curve) (curve : Curve) : Curve × List Event :=
  match held, curve with
  | .stable old, .stable new =>
    if old.depeg.kind = new.depeg.kind ∧ new.depeg.updated < old.depeg.updated then
      (.stable { new with depeg := old.depeg }, [.cacheKept old.depeg.updated])
    else (curve, [])
  | _, _ => (curve, [])

def update (handle : Handle) (snapshot : Snapshot) : Handle × Run Unit :=
  let carried := carryCache handle.snapshot.curve snapshot.curve
  ({ handle with snapshot := { snapshot with curve := carried.1 } }, ⟨.ok (), carried.2⟩)

def refreshEvents (time : Int) (before after : Option Depeg.State) : List Event :=
  if after = before then []
  else
    [.cacheRefreshed time (before.elim 0 Depeg.State.price) (after.elim 0 Depeg.State.price)]

/-- Makes the price cache fresh at the snapshot's time; a failure changes nothing. -/
def refresh (handle : Handle) : Handle × Run (Option Depeg.State) :=
  let run := handle.snapshot.refreshed
  match run.outcome with
  | .error fault => (handle, ⟨.error fault, run.events⟩)
  | .ok fresh =>
    let after := fresh.curve.depeg?
    ({ handle with snapshot := fresh },
      ⟨.ok after, run.events ++ refreshEvents fresh.time handle.depeg? after⟩)

def quote {α : Type} (handle : Handle) (ask : Snapshot → Run α) : Handle × Run α :=
  let refreshed := handle.refresh
  (refreshed.1, refreshed.2 >>= fun _ => ask refreshed.1.snapshot)

def slippageOr (handle : Handle) (slippage : Option Int) : Int :=
  slippage.getD handle.settings.slippage

def info (handle : Handle) : Handle × Run PoolInfo := handle.quote Snapshot.info

def swapQuote (handle : Handle) (mint : String) (amount : Int) (slippage : Option Int) :
    Handle × Run SwapQuote :=
  handle.quote fun snapshot => snapshot.swapQuote mint amount (handle.slippageOr slippage)

def depositQuote (handle : Handle) (amountA amountB : Int) (balanced : Bool)
    (slippage : Option Int) : Handle × Run DepositQuote :=
  handle.quote fun snapshot =>
    snapshot.depositQuote amountA amountB balanced (handle.slippageOr slippage)

def withdrawalQuote (handle : Handle) (burned : Int) (mint : Option String)
    (slippage : Option Int) : Handle × Run WithdrawalQuote :=
  handle.quote fun snapshot =>
    snapshot.withdrawalQuote burned (handle.slippageOr slippage) mint

def greatestIn (handle : Handle) (mint : String) : Handle × Run Int :=
  handle.quote fun snapshot => snapshot.greatestIn mint

def greatestOut (handle : Handle) (mint : String) : Handle × Run Int :=
  (handle, Run.lift (handle.snapshot.greatestOut mint))

end Handle
end PoolPricing
