import PoolPricing.Curve.Pricing
import PoolPricing.Vault
import PoolPricing.Word
set_option autoImplicit false

namespace PoolPricing

open Checked

/-- One token of a pool: the vault it is kept in, the pool's shares of that vault, all shares of it,
and what of it is at hand. -/
structure Holding where
  mint : String
  vault : Vault
  shares : Word
  supply : Word
  reserve : Word
  mint_nonempty : mint ≠ ""
  shares_le : shares.val ≤ supply.val
  deriving DecidableEq, Repr

/-- Account data by the kind of pool it is for, at most one entry a kind. -/
abbrev Sources := List (Depeg.Kind × Depeg.Bytes)

def Sources.get? (sources : Sources) (kind : Depeg.Kind) : Option Depeg.Bytes :=
  sources.lookup kind

def Sources.put (sources : Sources) (kind : Depeg.Kind) (account : Depeg.Bytes) : Sources :=
  sources.filter (fun entry => entry.1 ≠ kind) ++ [(kind, account)]

structure Snapshot where
  a : Holding
  b : Holding
  curve : Curve
  fees : Fees
  enabled : Bool
  lpSupply : Word
  time : Word
  sources : Sources
  clock : Clock
  opens : Word
  slot : Word
  mints_differ : a.mint ≠ b.mint
  deriving DecidableEq, Repr

namespace Snapshot

/-- A snapshot whose numbers and mints nobody has looked at. -/
structure Draft where
  mintA : String
  mintB : String
  curve : Curve
  fees : Fees
  enabled : Bool
  vaultA : Vault
  vaultB : Vault
  sharesA : Int
  sharesB : Int
  supplyA : Int
  supplyB : Int
  reserveA : Int
  reserveB : Int
  lpSupply : Int
  time : Int
  sources : Sources
  clock : Clock
  opens : Int
  slot : Int

def Draft.check (draft : Draft) : Checked Snapshot :=
  if hm : draft.mintA = "" ∨ draft.mintB = "" then refuse (.invalid .emptyMint)
  else if hd : draft.mintA = draft.mintB then refuse (.invalid .equalMints)
  else do
    let sharesA ← Word.ofInt "pool_vault_a_lp" draft.sharesA
    let sharesB ← Word.ofInt "pool_vault_b_lp" draft.sharesB
    let supplyA ← Word.ofInt "vault_a_lp_supply" draft.supplyA
    let supplyB ← Word.ofInt "vault_b_lp_supply" draft.supplyB
    let reserveA ← Word.ofInt "vault_a_reserve" draft.reserveA
    let reserveB ← Word.ofInt "vault_b_reserve" draft.reserveB
    let lpSupply ← Word.ofInt "pool_lp_supply" draft.lpSupply
    let time ← Word.ofInt "current_time" draft.time
    let opens ← Word.ofInt "activation_point" draft.opens
    let slot ← Word.ofInt "current_slot" draft.slot
    if ha : supplyA.val < sharesA.val then
      refuse (.invalid (.exceeds "pool_vault_a_lp" "vault_a_lp_supply"))
    else if hb : supplyB.val < sharesB.val then
      refuse (.invalid (.exceeds "pool_vault_b_lp" "vault_b_lp_supply"))
    else
      let a : Holding :=
        ⟨draft.mintA, draft.vaultA, sharesA, supplyA, reserveA, fun h => hm (.inl h), by omega⟩
      let b : Holding :=
        ⟨draft.mintB, draft.vaultB, sharesB, supplyB, reserveB, fun h => hm (.inr h), by omega⟩
      pure ⟨a, b, draft.curve, draft.fees, draft.enabled, lpSupply, time, draft.sources,
        draft.clock, opens, slot, hd⟩

def point (snapshot : Snapshot) : Int :=
  match snapshot.clock with
  | .slot => snapshot.slot
  | .timestamp => snapshot.time

def isActivated (snapshot : Snapshot) : Bool := snapshot.opens.val ≤ snapshot.point

def directionOf (snapshot : Snapshot) (mint : String) : Checked Direction :=
  if mint = snapshot.a.mint then pure .aToB
  else if mint = snapshot.b.mint then pure .bToA
  else refuse (.foreignMint mint)

def account? (snapshot : Snapshot) : Option Depeg.Bytes :=
  match snapshot.curve with
  | .constantProduct => none
  | .stable curve => snapshot.sources.get? curve.depeg.kind

def refreshed (snapshot : Snapshot) : Run Snapshot := do
  let curve ← snapshot.curve.refresh snapshot.time snapshot.account?
  pure { snapshot with curve }

end Snapshot

namespace Holding

def withdrawable (holding : Holding) (now : Int) : Checked Int := holding.vault.unlockedAt now

def amount (holding : Holding) (now : Int) : Checked Int := do
  let unlocked ← holding.withdrawable now
  Vault.amountOfShare .down holding.shares unlocked holding.supply

end Holding
end PoolPricing
