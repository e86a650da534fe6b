import PoolPricing.Checked
set_option autoImplicit false

namespace PoolPricing

open Checked

/-- The trade fee and the owner's fee, as fractions of the input not above one. -/
@[ext] structure Fees where
  tradeNumerator : Int
  tradeDenominator : Int
  ownerNumerator : Int
  ownerDenominator : Int
  trade_nonneg : 0 ≤ tradeNumerator
  trade_le : tradeNumerator ≤ tradeDenominator
  trade_pos : 0 < tradeDenominator
  owner_nonneg : 0 ≤ ownerNumerator
  owner_le : ownerNumerator ≤ ownerDenominator
  owner_pos : 0 < ownerDenominator
  deriving Repr

instance : DecidableEq Fees := fun _ _ => decidable_of_decidable_of_iff Fees.ext_iff.symm

namespace Fees

def requireFraction (numerator denominator : String) (above below : Int) : Checked Unit := do
  if below ≤ 0 then refuse (.invalid (.notPositiveShown denominator (.whole below)))
  if below < above then refuse (.invalid (.numeratorExceeds numerator denominator above below))

theorem requireFraction_ok {numerator denominator : String} {above below : Int}
    (h : requireFraction numerator denominator above below = .ok ()) :
    0 < below ∧ above ≤ below := by
  unfold requireFraction at h
  by_cases hb : below ≤ 0
  · simp [hb, bind, Except.bind, refuse] at h
  · by_cases ha : below < above
    · simp [hb, ha, refuse] at h
    · omega

def ofNumbers (tradeNumerator tradeDenominator ownerNumerator ownerDenominator : Int) :
    Checked Fees :=
  if htn : tradeNumerator < 0 then
    refuse (.invalid (.negativeShown "trade_fee_numerator" tradeNumerator))
  else if tradeDenominator < 0 then
    refuse (.invalid (.negativeShown "trade_fee_denominator" tradeDenominator))
  else if hon : ownerNumerator < 0 then
    refuse (.invalid (.negativeShown "owner_trade_fee_numerator" ownerNumerator))
  else if ownerDenominator < 0 then
    refuse (.invalid (.negativeShown "owner_trade_fee_denominator" ownerDenominator))
  else
    match ht : requireFraction "trade_fee_numerator" "trade_fee_denominator"
        tradeNumerator tradeDenominator with
    | .error fault => .error fault
    | .ok () =>
      match ho : requireFraction "owner_trade_fee_numerator" "owner_trade_fee_denominator"
          ownerNumerator ownerDenominator with
      | .error fault => .error fault
      | .ok () =>
        .ok ⟨tradeNumerator, tradeDenominator, ownerNumerator, ownerDenominator,
          nonneg_of_not_neg htn, (requireFraction_ok ht).2, (requireFraction_ok ht).1,
          nonneg_of_not_neg hon, (requireFraction_ok ho).2, (requireFraction_ok ho).1⟩

def denominator : Int := 100000

def ofConstantProduct : Fees :=
  ⟨250, denominator, 50, denominator, by decide, by decide, by decide, by decide, by decide,
    by decide⟩

def ofStableSwap : Fees :=
  ⟨10, denominator, 5, denominator, by decide, by decide, by decide, by decide, by decide,
    by decide⟩

def standard (stable : Bool) : Fees := if stable then ofStableSwap else ofConstantProduct

/-- The trade fees, in ten-thousandths, among which the creator of a pool may choose. -/
def tiers (stable : Bool) : List Nat := if stable then [1, 4, 10, 100] else [25, 100, 400, 600]

def ofTier (stable : Bool) (tier : Int) : Checked Fees :=
  if tier ∈ (tiers stable).map Int.ofNat then
    ofNumbers (tier * denominator / 10000) denominator (standard stable).ownerNumerator denominator
  else refuse (.invalid (.notAmong "trade_fee_bps" (tiers stable) (toString tier)))

def tradingFee (fees : Fees) (amount : Int) : Int :=
  amount * fees.tradeNumerator / fees.tradeDenominator

def ownerFee (fees : Fees) (amount : Int) : Int :=
  amount * fees.ownerNumerator / fees.ownerDenominator

structure Split where
  trade : Int
  owner : Int
  net : Int
  deriving DecidableEq, Repr

def Split.total (split : Split) : Int := split.trade + split.owner

def split (fees : Fees) (amount : Int) : Checked Split := do
  requireNonnegativeShown "amount" amount
  pure ⟨fees.tradingFee amount, fees.ownerFee amount,
    amount - fees.tradingFee amount - fees.ownerFee amount⟩

end Fees

namespace Slippage

/-- Slippage is given in ten-thousandths. -/
def scale : Int := 10000

def require (slippage : Int) : Checked Unit :=
  if 0 ≤ slippage ∧ slippage ≤ scale then pure ()
  else refuse (.invalid (.outside "slippage_bps" 0 scale slippage))

def least (amount slippage : Int) : Checked Int := do
  require slippage
  pure (amount * (scale - slippage) / scale)

def greatest (amount slippage : Int) : Checked Int := do
  require slippage
  pure (amount * (scale + slippage) / scale)

end Slippage
end PoolPricing
