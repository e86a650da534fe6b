import PoolPricing.Document.Field
import PoolPricing.Snapshot
set_option autoImplicit false

/-!
Snapshots from documents. A document names the two mints, the curve, either vault with the pool's
shares of it, the pool's supply and the time; it may also set the fees, whether the pool takes swaps
and from which point, and give the accounts of staking programs in hexadecimal. Keys that mean
nothing here are passed over. The parts are read in a fixed order, and the first fault found is
reported.
-/

namespace PoolPricing.Snapshot.Document

open Checked
open PoolPricing.Document (Fields Value)

def depeg (value : Value) : Checked Depeg.State :=
  match value with
  | .null => pure Depeg.State.plain
  | value => do
    let fields ← value.mapping "curve.depeg"
    let price ← fields.countOr "curve.depeg" "base_virtual_price" 0
    let updated ← fields.countOr "curve.depeg" "base_cache_updated" 0
    let kind ← ((fields.get? "depeg_type").getD (.text "none")).depegKind
    Depeg.State.ofNumbers price updated kind

def decimals (value : Value) : Checked Multiplier :=
  match value with
  | .list [a, b] => do
    let a ← a.count "curve.decimals[0]"
    let b ← b.count "curve.decimals[1]"
    pure (Multiplier.ofDecimals a.toNat b.toNat)
  | _ => refuse (.invalid .noMultiplier)

def multiplier (curve : Fields) : Checked Multiplier :=
  match curve.get? "token_multiplier" with
  | some value => do
    let fields ← value.mapping "curve.token_multiplier"
    let a ← fields.count "curve.token_multiplier" "token_a_multiplier"
    let b ← fields.count "curve.token_multiplier" "token_b_multiplier"
    let decimals ← fields.count "curve.token_multiplier" "precision_factor"
    Multiplier.ofNumbers a b decimals
  | none => decimals (curve.getOrNull "decimals")

def stableCurve (fields : Fields) : Checked StableCurve := do
  let amp ← fields.count "curve" "amp"
  let multiplier ← multiplier fields
  let depeg ← depeg (fields.getOrNull "depeg")
  let updated ← fields.countOr "curve" "last_amp_updated_timestamp" 0
  StableCurve.ofNumbers amp multiplier depeg updated

def curve (value : Value) : Checked Curve := do
  let fields ← value.mapping "curve"
  let word := ((fields.get? "type").getD (.text "")).keyword
  if word = "constant_product" then pure .constantProduct
  else if word = "stable_swap" then do
    let curve ← stableCurve fields
    pure (.stable curve)
  else refuse (.invalid (.unknownWord "unsupported curve type" (Document.quotedText word)))

def fees (value : Value) (curve : Curve) : Checked Fees :=
  match value with
  | .null => pure (Fees.standard curve.isStable)
  | value => do
    let fields ← value.mapping "fees"
    let tradeNumerator ← fields.count "fees" "trade_fee_numerator"
    let tradeDenominator ← fields.count "fees" "trade_fee_denominator"
    let ownerNumerator ← fields.count "fees" "owner_trade_fee_numerator"
    let ownerDenominator ← fields.count "fees" "owner_trade_fee_denominator"
    Fees.ofNumbers tradeNumerator tradeDenominator ownerNumerator ownerDenominator

def tracker (value : Value) (scope : String) : Checked Tracker := do
  let fields ← value.mapping scope
  let lockedProfit ← fields.countOr scope "last_updated_locked_profit" 0
  let lastReport ← fields.countOr scope "last_report" 0
  let degradation ← fields.countOr scope "locked_profit_degradation" 0
  Tracker.ofNumbers lockedProfit lastReport degradation

structure VaultAccounts where
  vault : Vault
  supply : Int
  reserve : Int
  shares : Int

def vault (value : Value) (scope : String) : Checked VaultAccounts := do
  let fields ← value.mapping scope
  let trackerScope := Document.fieldName scope "locked_profit_tracker"
  let written := (fields.get? "locked_profit_tracker").getD (.object [])
  discard (written.mapping trackerScope)
  let total ← fields.count scope "total_amount"
  let tracker ← tracker written trackerScope
  let vault ← Vault.ofNumbers total tracker
  let supply ← fields.count scope "lp_supply"
  let reserve ← fields.count scope "reserve"
  let shares ← fields.count scope "pool_lp"
  pure ⟨vault, supply, reserve, shares⟩

def enabled : Value → Checked Bool
  | .flag b => pure b
  | _ => refuse (.mistyped "enabled" .boolean)

/-- The bytes of an account, in hexadecimal with or without the usual mark in front. -/
def account? (text : String) : Option Depeg.Bytes :=
  match Text.trim text.toList with
  | '0' :: 'x' :: rest => Text.bytesOfHex? rest
  | rest => Text.bytesOfHex? rest

def source (key : String) (value : Value) : Checked (Depeg.Kind × Depeg.Bytes) :=
  let field := Document.fieldName "depeg_sources" key
  match value with
  | .text text =>
    match (Value.text key).depegKind, account? text with
    | .ok kind, some account => pure (kind, account)
    | _, _ => refuse (.invalid (.notHex field))
  | _ => refuse (.mistyped field .hexText)

/-- Accounts in the order written, a later one for a kind taking the place of an earlier one. -/
def sourcesOnto (sources : Sources) : Fields → Checked Sources
  | [] => pure sources
  | (key, value) :: rest => do
    let (kind, account) ← source key value
    sourcesOnto (sources.put kind account) rest

def sources : Value → Checked Sources
  | .null => pure []
  | value => do
    let fields ← value.mapping "depeg_sources"
    sourcesOnto [] fields

def mint (fields : Fields) (key : String) : String := (fields.get? key).elim "" Value.plain

def draft (value : Value) : Checked Draft := do
  let fields ← value.mapping "snapshot"
  let curve ← curve (fields.getOrNull "curve")
  let a ← vault (fields.getOrNull "vault_a") "vault_a"
  let b ← vault (fields.getOrNull "vault_b") "vault_b"
  let enabled ← enabled ((fields.get? "enabled").getD (.flag true))
  let fees ← fees (fields.getOrNull "fees") curve
  let lpSupply ← fields.count "snapshot" "pool_lp_supply"
  let time ← fields.count "snapshot" "current_time"
  let sources ← sources (fields.getOrNull "depeg_sources")
  let clock ← ((fields.get? "activation_type").getD (.text "timestamp")).clock
  let opens ← fields.countOr "snapshot" "activation_point" 0
  let slot ← fields.countOr "snapshot" "current_slot" 0
  pure {
    mintA := mint fields "token_a_mint", mintB := mint fields "token_b_mint",
    curve, fees, enabled, vaultA := a.vault, vaultB := b.vault,
    sharesA := a.shares, sharesB := b.shares, supplyA := a.supply, supplyB := b.supply,
    reserveA := a.reserve, reserveB := b.reserve, lpSupply, time, sources, clock, opens, slot }

end PoolPricing.Snapshot.Document

namespace PoolPricing.Snapshot

open PoolPricing.Document (Value)

def ofDocument (value : Value) : Checked Snapshot := do
  let draft ← Document.draft value
  draft.check

def load (path : String) (stored : Option Value) : Run Snapshot := do
  match stored with
  | none => throw (.fileMissing path)
  | some (.object fields) =>
    let snapshot ← ofDocument (Value.object fields).stored
    Run.note (.snapshotLoaded path snapshot.curve.label snapshot.lpSupply snapshot.time)
    pure snapshot
  | some _ => throw (.notADocument path)

end PoolPricing.Snapshot
