import PoolPricing.Proofs.Document.Field
import PoolPricing.Proofs.Refresh
import PoolPricing.Snapshot.Document
set_option autoImplicit false

namespace PoolPricing

open Checked

theorem Multiplier.ofNumbers_eq_ok {a b decimals : Int} {multiplier : Multiplier} :
    ofNumbers a b decimals = .ok multiplier ↔
      multiplier.a = a ∧ multiplier.b = b ∧ multiplier.decimals = decimals := by
  constructor
  · intro h
    unfold ofNumbers at h
    split at h
    · contradiction
    · split at h
      · contradiction
      · cases h
        exact ⟨rfl, rfl, rfl⟩
  · rintro ⟨rfl, rfl, rfl⟩
    have ha := multiplier.a_pos
    have hb := multiplier.b_pos
    have hd := multiplier.decimals_nonneg
    rw [ofNumbers, dif_neg (by omega), dif_neg (by omega)]

theorem StableCurve.ofNumbers_eq_ok {amp updated : Int} {multiplier : Multiplier}
    {depeg : Depeg.State} {curve : StableCurve} :
    ofNumbers amp multiplier depeg updated = .ok curve ↔
      curve.amp = amp ∧ curve.multiplier = multiplier ∧ curve.depeg = depeg ∧
        curve.ampUpdated = updated := by
  constructor
  · intro h
    unfold ofNumbers at h
    split at h
    · cases h
      exact ⟨rfl, rfl, rfl, rfl⟩
    · contradiction
  · rintro ⟨rfl, rfl, rfl, rfl⟩
    rw [ofNumbers, dif_pos ⟨curve.amp_pos, curve.amp_le⟩]

theorem Fees.requireFraction_eq_ok {numerator denominator : String} {above below : Int} :
    requireFraction numerator denominator above below = .ok () ↔ 0 < below ∧ above ≤ below := by
  by_cases hbelow : below ≤ 0
  · simp only [requireFraction, hbelow, if_true, refuse_eq, error_bind, reduceCtorEq, false_iff]
    omega
  · by_cases habove : below < above
    · simp only [requireFraction, hbelow, habove, if_true, if_false, refuse_eq, reduceCtorEq,
        false_iff]
      omega
    · simp only [requireFraction, hbelow, habove, if_false, pure_eq_ok, true_iff]
      omega

theorem Fees.ofNumbers_eq_ok {tradeNumerator tradeDenominator ownerNumerator ownerDenominator : Int}
    {fees : Fees} :
    ofNumbers tradeNumerator tradeDenominator ownerNumerator ownerDenominator = .ok fees ↔
      fees.tradeNumerator = tradeNumerator ∧ fees.tradeDenominator = tradeDenominator ∧
        fees.ownerNumerator = ownerNumerator ∧ fees.ownerDenominator = ownerDenominator := by
  constructor
  · intro h
    unfold ofNumbers at h
    repeat' split at h
    all_goals first
      | contradiction
      | cases h
        exact ⟨rfl, rfl, rfl, rfl⟩
  · rintro ⟨rfl, rfl, rfl, rfl⟩
    have htrade := fees.trade_pos
    have howner := fees.owner_pos
    unfold ofNumbers
    rw [dif_neg (Int.not_lt.mpr fees.trade_nonneg), if_neg (by omega),
      dif_neg (Int.not_lt.mpr fees.owner_nonneg), if_neg (by omega)]
    split
    · rename_i fault hfault
      rw [requireFraction_eq_ok.mpr ⟨htrade, fees.trade_le⟩] at hfault
      contradiction
    · split
      · rename_i fault hfault
        rw [requireFraction_eq_ok.mpr ⟨howner, fees.owner_le⟩] at hfault
        contradiction
      · rfl

theorem Tracker.ofNumbers_eq_ok {lockedProfit lastReport degradation : Int} {tracker : Tracker} :
    ofNumbers lockedProfit lastReport degradation = .ok tracker ↔
      tracker.lockedProfit = lockedProfit ∧ tracker.lastReport = lastReport ∧
        tracker.degradation = degradation := by
  constructor
  · intro h
    unfold ofNumbers at h
    repeat' split at h
    all_goals first
      | contradiction
      | cases h
        exact ⟨rfl, rfl, rfl⟩
  · rintro ⟨rfl, rfl, rfl⟩
    rw [ofNumbers, dif_neg (Int.not_lt.mpr tracker.locked_nonneg),
      dif_neg (Int.not_lt.mpr tracker.report_nonneg),
      dif_neg (Int.not_lt.mpr tracker.degradation_nonneg)]

theorem Vault.ofNumbers_eq_ok {total : Int} {tracker : Tracker} {vault : Vault} :
    ofNumbers total tracker = .ok vault ↔ vault.total = total ∧ vault.tracker = tracker := by
  constructor
  · intro h
    unfold ofNumbers at h
    split at h
    · contradiction
    · cases h
      exact ⟨rfl, rfl⟩
  · rintro ⟨rfl, rfl⟩
    rw [ofNumbers, dif_neg (Int.not_lt.mpr vault.total_nonneg)]

end PoolPricing
