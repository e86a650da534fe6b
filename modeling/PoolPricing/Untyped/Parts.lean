import PoolPricing.Curve.Pricing
import PoolPricing.Snapshot.Document
import PoolPricing.Untyped.Comparison
import PoolPricing.Untyped.Pricing
set_option autoImplicit false

namespace PoolPricing.Untyped

open Checked
open Document (Fields Value)

def fees (fields : Fields) : Checked Fees := do
  let tradeNumerator ← countShown "trade_fee_numerator" (fields.getOrNull "trade_fee_numerator")
  let tradeDenominator ←
    countShown "trade_fee_denominator" (fields.getOrNull "trade_fee_denominator")
  let ownerNumerator ←
    countShown "owner_trade_fee_numerator" (fields.getOrNull "owner_trade_fee_numerator")
  let ownerDenominator ←
    countShown "owner_trade_fee_denominator" (fields.getOrNull "owner_trade_fee_denominator")
  Fees.ofNumbers tradeNumerator tradeDenominator ownerNumerator ownerDenominator

def depegState (fields : Fields) : Checked Depeg.State := do
  let kind : Checked Depeg.Kind ←
    match fields.getOrNull "depeg_type" with
    | .text word => do
      let kind ← (Value.text word).depegKind
      pure (pure kind)
    | _ => pure (refuse (.mistyped "depeg_type" .depegKind))
  let price ← countShown "base_virtual_price" (fields.getOrNull "base_virtual_price")
  let updated ← countShown "base_cache_updated" (fields.getOrNull "base_cache_updated")
  let kind ← kind
  Depeg.State.ofNumbers price updated kind

def multiplier (fields : Fields) : Checked Multiplier := do
  let a ← (fields.getOrNull "token_a_multiplier").whole "token_a_multiplier"
  let b ← (fields.getOrNull "token_b_multiplier").whole "token_b_multiplier"
  let decimals ← (fields.getOrNull "precision_factor").whole "precision_factor"
  Multiplier.ofNumbers a b decimals

/-- The least exponent, to within the steps of binary numbers, with which a power of ten is beyond
them. -/
def greatestExponent : Rat := 30825471555991674 / 100000000000000

def powerIsWhole (larger own : Document.Figure) : Checked Bool := do
  match larger, own with
  | .fraction _, _ | _, .fraction _ =>
    let exponent ← (Quantity.ofFigure larger).minus (.ofFigure own)
    match exponent with
    | .binary (.finite x) =>
      if greatestExponent < x.toRat then refuse (.unusable .tooLarge) else pure false
    | _ => refuse (.unusable .tooLarge)
  | _, _ => pure true

/-- The multiplier for two tokens by their decimals, flags counting as one and zero. The larger one
is kept as it was supplied, the first of two equal ones. -/
def multiplierOfDecimals (a b : Value) : Checked Multiplier := do
  let a ← figure a
  if a.toRat < 0 then refuse (.invalid (.negative "decimals"))
  let b ← figure b
  if b.toRat < 0 then refuse (.invalid (.negative "decimals"))
  let larger := if a.toRat < b.toRat then b else a
  let wholeA ← powerIsWhole larger a
  let wholeB ← powerIsWhole larger b
  unless wholeA do refuse (.mistyped "token_a_multiplier" .integer)
  unless wholeB do refuse (.mistyped "token_b_multiplier" .integer)
  match larger with
  | .whole _ => pure (Multiplier.ofDecimals a.toRat.floor.toNat b.toRat.floor.toNat)
  | _ => refuse (.mistyped "precision_factor" .integer)

def tracker (fields : Fields) : Checked Tracker := do
  let lockedProfit ←
    countShown "last_updated_locked_profit" (fields.getOrNull "last_updated_locked_profit")
  let lastReport ← countShown "last_report" (fields.getOrNull "last_report")
  let degradation ←
    countShown "locked_profit_degradation" (fields.getOrNull "locked_profit_degradation")
  Tracker.ofNumbers lockedProfit lastReport degradation

def part {α : Type} (build : Fields → Checked α) : Value → Checked (Option α)
  | .object fields => do
    let built ← build fields
    pure (some built)
  | _ => pure none

def requirePart {α : Type} (subject : String) (expected : Fault.Expected) :
    Option α → Checked α
  | some built => pure built
  | none => refuse (.mistyped subject expected)

def vault (fields : Fields) : Checked Vault := do
  let tracker ← part tracker (fields.getOrNull "locked_profit_tracker")
  let total ← countShown "total_amount" (fields.getOrNull "total_amount")
  let tracker ← requirePart "locked_profit_tracker" .tracker tracker
  Vault.ofNumbers total tracker

def stableCurve (fields : Fields) : Checked StableCurve := do
  let depeg ←
    match fields.get? "depeg" with
    | none => pure (some Depeg.State.plain)
    | some value => part depegState value
  let multiplier ← part multiplier (fields.getOrNull "token_multiplier")
  let amp ← (fields.getOrNull "amp").whole "amp"
  if amp < 1 ∨ StableCurve.greatestAmp < amp then
    refuse (.invalid (.outside "amp" 1 StableCurve.greatestAmp amp))
  let multiplier ← requirePart "token_multiplier" .multiplier multiplier
  let depeg ← requirePart "depeg" .depegState depeg
  StableCurve.ofNumbers amp multiplier depeg 0

structure GivenCurve where
  curve? : Option Curve
  ampUpdated : Value

def givenCurve (fields : Fields) : Checked GivenCurve :=
  let ampUpdated := (fields.get? "last_amp_updated_timestamp").getD (.integer 0)
  match fields.getOrNull "type" with
  | .text "constant_product" => pure ⟨some .constantProduct, ampUpdated⟩
  | .text "stable_swap" => do
    let curve ← stableCurve fields
    pure ⟨some (.stable curve), ampUpdated⟩
  | _ => pure ⟨none, ampUpdated⟩

def isSomething : Value → Bool
  | .null => false
  | .flag b => b
  | .integer n => n ≠ 0
  | .fraction x => x.significand ≠ 0
  | .text s => s ≠ ""
  | .list items => !items.isEmpty
  | .object fields => !fields.isEmpty

def revisedWord (revision : Fields) (key : String) (present : Word) : Checked Int :=
  match revision.get? key with
  | none => pure present.val
  | some value => do
    let revised ← word key value
    pure revised.val

def revisedSources (revision : Fields) (present : Sources) : Sources :=
  match revision.get? "depeg_sources" with
  | none => present
  | some _ => []

/-- A revised snapshot. The mints and the flag may be set to anything that passes the checks, so
they are kept aside, the snapshot having the mints it had. -/
structure Revised where
  snapshot : Snapshot
  mintA : Value
  mintB : Value
  enabled : Value

def revise (snapshot : Snapshot) (revision : Fields) : Checked Revised := do
  let mintA := (revision.get? "token_a_mint").getD (.text snapshot.a.mint)
  let mintB := (revision.get? "token_b_mint").getD (.text snapshot.b.mint)
  let enabled := (revision.get? "enabled").getD (.flag snapshot.enabled)
  unless isSomething mintA ∧ isSomething mintB do refuse (.invalid .emptyMint)
  if equal mintA mintB then refuse (.invalid .equalMints)
  if let some value := revision.get? "curve" then
    refuse (.unsupported (.curve value.kindName))
  if let some _ := revision.get? "fees" then refuse (.mistyped "fees" .fees)
  let sharesA ← revisedWord revision "pool_vault_a_lp" snapshot.a.shares
  let sharesB ← revisedWord revision "pool_vault_b_lp" snapshot.b.shares
  let supplyA ← revisedWord revision "vault_a_lp_supply" snapshot.a.supply
  let supplyB ← revisedWord revision "vault_b_lp_supply" snapshot.b.supply
  let reserveA ← revisedWord revision "vault_a_reserve" snapshot.a.reserve
  let reserveB ← revisedWord revision "vault_b_reserve" snapshot.b.reserve
  let lpSupply ← revisedWord revision "pool_lp_supply" snapshot.lpSupply
  let time ← revisedWord revision "current_time" snapshot.time
  let opens ← revisedWord revision "activation_point" snapshot.opens
  let slot ← revisedWord revision "current_slot" snapshot.slot
  if let some _ := revision.get? "activation_type" then
    refuse (.mistyped "activation_type" .clock)
  let draft : Snapshot.Draft := {
    mintA := snapshot.a.mint, mintB := snapshot.b.mint, curve := snapshot.curve,
    fees := snapshot.fees, enabled := isSomething enabled, vaultA := snapshot.a.vault,
    vaultB := snapshot.b.vault, sharesA, sharesB, supplyA, supplyB, reserveA, reserveB, lpSupply,
    time, sources := revisedSources revision snapshot.sources, clock := snapshot.clock, opens,
    slot }
  let revised ← draft.check
  pure ⟨revised, mintA, mintB, enabled⟩

end PoolPricing.Untyped
