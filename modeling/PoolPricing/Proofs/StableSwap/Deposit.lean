import PoolPricing.Proofs.StableSwap.Growth
import PoolPricing.StableSwap.Liquidity
set_option autoImplicit false

/-!
What a deposit can cost the holders of a stable pool. Before fees it mints no more than the
invariant has grown by. After fees it mints by the invariant of the charged balances, which may come
out above that of the full ones, but only by the few units that the solver can be off, and not at
all where the charge is clear.
-/

namespace PoolPricing.StableSwap

open Checked

theorem imbalanceFee_eq_ok {amount numerator denominator fee : Int} :
    imbalanceFee amount numerator denominator = .ok fee ↔
      0 ≤ amount ∧ 0 < denominator ∧ amount * (numerator * 2 / 4) / denominator = fee := by
  simp only [imbalanceFee, refuse_eq, error_bind, bind_eq_ok, guard_eq_ok, requireNonnegative_eq_ok,
    exists_and_left, exists_const]
  refine and_congr_right fun _ => ?_
  constructor
  · rintro ⟨hopen, hfee⟩
    have hpos : 0 < denominator := by omega
    rw [floorDivide_of_pos _ hpos] at hfee
    exact ⟨hpos, Except.ok.inj hfee⟩
  · rintro ⟨hpos, rfl⟩
    exact ⟨Int.not_le.mpr hpos, floorDivide_of_pos _ hpos⟩

theorem imbalanceFee_nonneg {amount numerator denominator : Int} (hamount : 0 ≤ amount)
    (hnumerator : 0 ≤ numerator) (hdenominator : 0 < denominator) :
    0 ≤ amount * (numerator * 2 / 4) / denominator :=
  Int.ediv_nonneg (Int.mul_nonneg hamount (by omega)) (Int.le_of_lt hdenominator)

/-- A new balance less the fee that `chargedBalance` takes. -/
def kept (numerator denominator d0 d1 old new : Int) : Int :=
  new - (d1 * old / d0 - new).natAbs * (numerator * 2 / 4) / denominator

theorem chargedBalance_eq {numerator denominator d0 : Int} (hdenominator : 0 < denominator)
    (hd0 : 0 < d0) (d1 old new : Int) :
    chargedBalance numerator denominator d0 d1 old new =
      .ok (kept numerator denominator d0 d1 old new) := by
  have hfee := imbalanceFee_eq_ok.mpr
    ⟨Int.natCast_nonneg (d1 * old / d0 - new).natAbs, hdenominator,
      (rfl : _ * (numerator * 2 / 4) / denominator = _)⟩
  rw [chargedBalance, floorDivide_of_pos _ hd0, ok_bind, hfee, ok_bind]
  rfl

theorem kept_le {numerator denominator : Int} (hnumerator : 0 ≤ numerator)
    (hdenominator : 0 < denominator) (d0 d1 old new : Int) :
    kept numerator denominator d0 d1 old new ≤ new := by
  have hfee := imbalanceFee_nonneg (Int.natCast_nonneg (d1 * old / d0 - new).natAbs) hnumerator
    hdenominator
  unfold kept
  omega

theorem kept_of_unmoved (numerator denominator : Int) {d0 : Int} (hd0 : 0 < d0) (old : Int) :
    kept numerator denominator d0 d0 old old = old := by
  rw [kept, Int.mul_ediv_cancel_left old (Int.ne_of_gt hd0), Int.sub_self]
  simp

def chargedInvariant (amp numerator denominator a b x y d0 d1 : Int) : Run Int :=
  invariant amp (kept numerator denominator d0 d1 a (a + x))
    (kept numerator denominator d0 d1 b (b + y))

def minted (supply d0 d1 d2 : Int) : Mint :=
  let amount := supply * (d2 - d0) / d0
  let before := supply * (d1 - d0) / d0
  ⟨amount, before, before - amount⟩

section

variable {amp numerator denominator supply a b x y d0 d1 : Int} (hd0 : 0 < d0)
  (hold : (invariant amp a b).outcome = .ok d0)
include hd0 hold

theorem quiet_of_growth (h : (growth amp a b x y).events = []) :
    (invariant amp a b).events = [] ∧ (invariant amp (a + x) (b + y)).events = [] := by
  obtain ⟨hquiet, hrest⟩ := Run.events_bind_eq_nil h hold
  simp only [Int.ne_of_gt hd0, if_false] at hrest
  exact ⟨hquiet, Run.events_of_bind hrest⟩

variable (hnew : (invariant amp (a + x) (b + y)).outcome = .ok d1)
include hnew

theorem growth_outcome : (growth amp a b x y).outcome =
    if d1 < d0 then .error .invariantDecreased else .ok (d0, d1) := by
  simp only [growth, Run.outcome_bind, Run.outcome_ite, Run.outcome_throw, Run.outcome_pure, hold,
    hnew, ok_bind, Int.ne_of_gt hd0, if_false]
  by_cases hfall : d1 < d0
  · simp [hfall]
  · simp [hfall]

theorem mint_eq (hsupply : 0 ≤ supply) (ha : 0 ≤ a) (hb : 0 ≤ b) (hx : 0 ≤ x) (hy : 0 ≤ y)
    (hsome : ¬(x = 0 ∧ y = 0)) (hdenominator : 0 < denominator) :
    mint amp numerator denominator supply a b x y =
      growth amp a b x y >>= fun _ =>
        chargedInvariant amp numerator denominator a b x y d0 d1 >>= fun d2 =>
          pure (minted supply d0 d1 d2) := by
  simp only [mint, requireNonnegative_of_nonneg _ hsupply, requireNonnegative_of_nonneg _ ha,
    requireNonnegative_of_nonneg _ hb, requireNonnegative_of_nonneg _ hx,
    requireNonnegative_of_nonneg _ hy, Run.liftM_ok_bind, hsome, if_false]
  have hgrowth := growth_outcome hd0 hold hnew
  by_cases hfall : d1 < d0
  · rw [if_pos hfall] at hgrowth
    rw [Run.bind_of_error hgrowth, Run.bind_of_error hgrowth]
  · rw [if_neg hfall] at hgrowth
    rw [Run.bind_of_ok hgrowth, Run.bind_of_ok hgrowth]
    simp only [chargedBalance_eq hdenominator hd0, floorDivide_of_pos _ hd0, Run.liftM_ok_bind]
    rfl

end

theorem share_le {d0 : Int} (hd0 : 0 < d0) (supply d : Int) :
    d0 * (supply + supply * (d - d0) / d0) ≤ d * supply := by
  have := Int.mul_ediv_self_le (x := supply * (d - d0)) (k := d0) (Int.ne_of_gt hd0)
  linarith

theorem lt_share {d0 : Int} (hd0 : 0 < d0) (supply d : Int) :
    d * supply < d0 * (supply + supply * (d - d0) / d0 + 1) := by
  have := Int.lt_ediv_add_one_mul_self (supply * (d - d0)) hd0
  linarith

theorem share_mono {d0 : Int} (hd0 : 0 < d0) {supply d e : Int} (hsupply : 0 ≤ supply)
    (h : d ≤ e) : supply * (d - d0) / d0 ≤ supply * (e - d0) / d0 :=
  Int.ediv_le_ediv hd0 (Int.mul_le_mul_of_nonneg_left (by omega) hsupply)

section

variable {amp denominator supply a b x y d0 d1 : Int} (numerator : Int) (hamp : 1 ≤ amp)
  (ha : 0 < a) (hb : 0 < b) (hdenominator : 0 < denominator) (hsupply : 0 ≤ supply)
  (hx : 0 ≤ x) (hy : 0 ≤ y)
  (hold : (invariant amp a b).outcome = .ok d0)
  (hnew : (invariant amp (a + x) (b + y)).outcome = .ok d1)
include hamp ha hb hdenominator hsupply hx hy hold hnew

theorem mint_cases :
    (d1 < d0 ∧ (mint amp numerator denominator supply a b x y).outcome =
      .error .invariantDecreased) ∨
    (d0 ≤ d1 ∧
      ((∃ fault, fault ≠ .invariantDecreased ∧
        (mint amp numerator denominator supply a b x y).outcome = .error fault) ∨
      ∃ d2, (chargedInvariant amp numerator denominator a b x y d0 d1).outcome = .ok d2 ∧
        (mint amp numerator denominator supply a b x y).outcome =
          .ok (minted supply d0 d1 d2))) := by
  obtain ⟨hd0, _⟩ := invariant_above hamp ha hb hold
  by_cases hsome : x = 0 ∧ y = 0
  · obtain ⟨rfl, rfl⟩ := hsome
    simp only [Int.add_zero] at hnew ⊢
    rw [hold] at hnew
    cases hnew
    refine .inr ⟨Int.le_refl d0, .inr ⟨d0, ?_, ?_⟩⟩
    · rw [chargedInvariant, Int.add_zero, Int.add_zero, kept_of_unmoved _ _ hd0,
        kept_of_unmoved _ _ hd0, hold]
    · have hnothing : minted supply d0 d0 d0 = ⟨0, 0, 0⟩ := by simp [minted]
      simp only [mint, requireNonnegative_of_nonneg _ hsupply,
        requireNonnegative_of_nonneg _ (Int.le_of_lt ha),
        requireNonnegative_of_nonneg _ (Int.le_of_lt hb), requireNonnegative_of_nonneg _ hx,
        Run.liftM_ok_bind, and_self, if_true, hnothing]
      rfl
  rw [mint_eq hd0 hold hnew hsupply (Int.le_of_lt ha) (Int.le_of_lt hb) hx hy hsome hdenominator,
    Run.outcome_bind, growth_outcome hd0 hold hnew]
  by_cases hfall : d1 < d0
  · exact .inl ⟨hfall, by rw [if_pos hfall, error_bind]⟩
  refine .inr ⟨Int.not_lt.mp hfall, ?_⟩
  rw [if_neg hfall, ok_bind, Run.outcome_bind]
  cases hcharged : (chargedInvariant amp numerator denominator a b x y d0 d1).outcome with
  | ok d2 => exact .inr ⟨d2, rfl, rfl⟩
  | error fault =>
    refine .inl ⟨fault, ?_, rfl⟩
    rintro rfl
    exact invariant_not_decreased hamp _ _ hcharged

theorem mint_refused_iff :
    (mint amp numerator denominator supply a b x y).outcome = .error .invariantDecreased ↔
      d1 < d0 := by
  obtain ⟨hfall, hmint⟩ | ⟨hgrown, ⟨fault, hother, hmint⟩ | ⟨_, _, hmint⟩⟩ :=
    mint_cases numerator hamp ha hb hdenominator hsupply hx hy hold hnew
  · exact ⟨fun _ => hfall, fun _ => hmint⟩
  · refine ⟨fun hrefused => ?_, fun hfall => by omega⟩
    rw [hmint] at hrefused
    cases hrefused
    contradiction
  · refine ⟨fun hrefused => ?_, fun hfall => by omega⟩
    rw [hmint] at hrefused
    contradiction

theorem mint_ok {result : Mint}
    (h : (mint amp numerator denominator supply a b x y).outcome = .ok result) :
    d0 ≤ d1 ∧ ∃ d2, (chargedInvariant amp numerator denominator a b x y d0 d1).outcome = .ok d2 ∧
      result = minted supply d0 d1 d2 := by
  obtain ⟨_, hrefused⟩ | ⟨hgrown, ⟨_, _, hrefused⟩ | ⟨d2, hcharged, hfound⟩⟩ :=
    mint_cases numerator hamp ha hb hdenominator hsupply hx hy hold hnew
  · rw [h] at hrefused
    contradiction
  · rw [h] at hrefused
    contradiction
  · rw [h] at hfound
    cases hfound
    exact ⟨hgrown, d2, hcharged, rfl⟩

theorem mint_quiet (hsome : ¬(x = 0 ∧ y = 0))
    (hquiet : (mint amp numerator denominator supply a b x y).events = []) :
    (invariant amp a b).events = [] ∧ (invariant amp (a + x) (b + y)).events = [] ∧
      (d0 ≤ d1 → (chargedInvariant amp numerator denominator a b x y d0 d1).events = []) := by
  obtain ⟨hd0, _⟩ := invariant_above hamp ha hb hold
  rw [mint_eq hd0 hold hnew hsupply (Int.le_of_lt ha) (Int.le_of_lt hb) hx hy hsome hdenominator]
    at hquiet
  obtain ⟨hbefore, hafter⟩ := quiet_of_growth hd0 hold (Run.events_of_bind hquiet)
  refine ⟨hbefore, hafter, fun hgrown => ?_⟩
  have hgrowth : (growth amp a b x y).outcome = .ok (d0, d1) := by
    rw [growth_outcome hd0 hold hnew, if_neg (Int.not_lt.mpr hgrown)]
  exact Run.events_of_bind (Run.events_bind_eq_nil hquiet hgrowth).2

/-- No solve cut off, the invariant drops by six at most, from the old balances to the new ones and
from the charged ones to the new ones. -/
theorem mint_drops (hnumerator : 0 ≤ numerator)
    (hquiet : (mint amp numerator denominator supply a b x y).events = []) :
    d0 ≤ d1 + 6 ∧ ∀ d2, d0 ≤ d1 →
      (chargedInvariant amp numerator denominator a b x y d0 d1).outcome = .ok d2 →
      d2 ≤ d1 + 6 := by
  obtain ⟨hd0, _⟩ := invariant_above hamp ha hb hold
  obtain ⟨hd1, _⟩ := invariant_above hamp (by omega) (by omega) hnew
  by_cases hsome : x = 0 ∧ y = 0
  · obtain ⟨rfl, rfl⟩ := hsome
    simp only [Int.add_zero] at hnew ⊢
    rw [hold] at hnew
    cases hnew
    refine ⟨by omega, fun d2 _ hcharged => ?_⟩
    rw [chargedInvariant, Int.add_zero, Int.add_zero, kept_of_unmoved _ _ hd0,
      kept_of_unmoved _ _ hd0, hold] at hcharged
    cases hcharged
    omega
  obtain ⟨hbefore, hafter, hcharge⟩ :=
    mint_quiet numerator hamp ha hb hdenominator hsupply hx hy hold hnew hsome hquiet
  refine ⟨invariant_le_add_six hamp ha hb (by omega) (by omega) hold hbefore hnew hafter,
    fun d2 hgrown hcharged => ?_⟩
  obtain ⟨ha', hb'⟩ | rfl := positive_or_zero hamp hcharged
  · exact invariant_le_add_six hamp ha' hb' (kept_le hnumerator hdenominator d0 d1 a (a + x))
      (kept_le hnumerator hdenominator d0 d1 b (b + y)) hcharged (hcharge hgrown) hnew hafter
  · omega

end

/-- A deposit into positive balances is refused for a decrease of the invariant only where the
solver says so, which it does not where the deposit is clear; a decrease is by six at most unless a
solve was cut off. What is minted before fees dilutes no one; what is minted dilutes by those six at
most, not at all where the charge is clear, and is not negative where the charged deposit still is.
-/
theorem mint_bounds {amp numerator denominator supply a b x y : Int} (hamp : 1 ≤ amp) (ha : 0 < a)
    (hb : 0 < b) (hnumerator : 0 ≤ numerator) (hdenominator : 0 < denominator)
    (hsupply : 0 ≤ supply) (hx : 0 ≤ x) (hy : 0 ≤ y) :
    ∃ d0 d1, (invariant amp a b).outcome = .ok d0 ∧ 0 < d0 ∧
      (invariant amp (a + x) (b + y)).outcome = .ok d1 ∧
      ((mint amp numerator denominator supply a b x y).outcome = .error .invariantDecreased ↔
        d1 < d0) ∧
      (GrowsClearly amp a b (a + x) (b + y) → d0 ≤ d1) ∧
      ((mint amp numerator denominator supply a b x y).events = [] → d0 ≤ d1 + 6) ∧
      ∀ result, (mint amp numerator denominator supply a b x y).outcome = .ok result →
        0 ≤ result.amountBeforeFees ∧
        d0 * (supply + result.amountBeforeFees) ≤ d1 * supply ∧
        result.fees = result.amountBeforeFees - result.amount ∧
        ((mint amp numerator denominator supply a b x y).events = [] →
          d0 * (supply + result.amount) ≤ (d1 + 6) * supply ∧
          -(6 * supply + d0) < d0 * result.fees) ∧
        ∃ a' b', chargedBalance numerator denominator d0 d1 a (a + x) = .ok a' ∧
          chargedBalance numerator denominator d0 d1 b (b + y) = .ok b' ∧
          (GrowsClearly amp a' b' (a + x) (b + y) → result.amount ≤ result.amountBeforeFees ∧
            d0 * (supply + result.amount) ≤ d1 * supply) ∧
          (GrowsClearly amp a b a' b' → 0 ≤ result.amount) ∧
          (a' = a + x → b' = b + y → result.fees = 0) := by
  obtain ⟨_, d0, hold, _⟩ := invariant_ok hamp ha hb
  obtain ⟨_, d1, hnew, _⟩ :=
    invariant_ok hamp (show 0 < a + x by omega) (show 0 < b + y by omega)
  obtain ⟨hd0, _⟩ := invariant_above hamp ha hb hold
  have hdrops := mint_drops numerator hamp ha hb hdenominator hsupply hx hy hold hnew hnumerator
  refine ⟨d0, d1, hold, hd0, hnew,
    mint_refused_iff numerator hamp ha hb hdenominator hsupply hx hy hold hnew,
    fun hclear => invariant_le_of_growsClearly hamp ha hb hclear hold hnew,
    fun hquiet => (hdrops hquiet).1, fun result hresult => ?_⟩
  obtain ⟨hgrown, d2, hcharged, rfl⟩ :=
    mint_ok numerator hamp ha hb hdenominator hsupply hx hy hold hnew hresult
  refine ⟨?_, share_le hd0 supply d1, rfl, fun hquiet => ⟨?_, ?_⟩, _, _,
    chargedBalance_eq hdenominator hd0 d1 a (a + x),
    chargedBalance_eq hdenominator hd0 d1 b (b + y),
    fun hclear => ?_, fun hclear => ?_, fun hfreeA hfreeB => ?_⟩
  · exact Int.ediv_nonneg (Int.mul_nonneg hsupply (by omega)) (Int.le_of_lt hd0)
  · have hdrop := (hdrops hquiet).2 d2 hgrown hcharged
    exact Int.le_trans (share_le hd0 supply d2) (Int.mul_le_mul_of_nonneg_right hdrop hsupply)
  · have hdrop := (hdrops hquiet).2 d2 hgrown hcharged
    have hscaled := Int.mul_le_mul_of_nonneg_right hdrop hsupply
    have hamount := share_le hd0 supply d2
    have hbefore := lt_share hd0 supply d1
    simp only [minted]
    linarith
  · have hle : d2 ≤ d1 := by
      obtain ⟨ha', hb'⟩ | rfl := positive_or_zero hamp hcharged
      · exact invariant_le_of_growsClearly hamp ha' hb' hclear hcharged hnew
      · omega
    exact ⟨share_mono hd0 hsupply hle, Int.le_trans (share_le hd0 supply d2)
      (Int.mul_le_mul_of_nonneg_right hle hsupply)⟩
  · have hle := invariant_le_of_growsClearly hamp ha hb hclear hold hcharged
    exact Int.ediv_nonneg (Int.mul_nonneg hsupply (Int.sub_nonneg_of_le hle)) (Int.le_of_lt hd0)
  · rw [chargedInvariant, hfreeA, hfreeB, hnew] at hcharged
    cases hcharged
    simp [minted]

theorem mint_bounds_million :
    (mint 100 30 10000 1000000 1000000 1000000 500000 400000).outcome =
      .ok ⟨449916, 449991, 75⟩ ∧
    (mint 100 30 10000 1000000 1000000 1000000 500000 400000).events = [] ∧
    GrowsClearly 100 1499925 1399926 1500000 1400000 ∧
    GrowsClearly 100 1000000 1000000 1499925 1399926 ∧
    ∃ d0 d1 : Int, d0 ≤ d1 ∧ d0 * (1000000 + 449916) ≤ d1 * 1000000 := by
  have hmint : (mint 100 30 10000 1000000 1000000 1000000 500000 400000).outcome =
      .ok ⟨449916, 449991, 75⟩ := rfl
  have hquiet : (mint 100 30 10000 1000000 1000000 1000000 500000 400000).events = [] := rfl
  have hcharge : GrowsClearly 100 1499925 1399926 1500000 1400000 := by decide
  have hkept : GrowsClearly 100 1000000 1000000 1499925 1399926 := by decide
  have hold : (invariant 100 1000000 1000000).outcome = .ok 2000000 := rfl
  have hnew : (invariant 100 1500000 1400000).outcome = .ok 2899982 := rfl
  obtain ⟨d0, d1, hd0, _, hd1, _, hgrown, _, hall⟩ := mint_bounds (show (1 : Int) ≤ 100 by decide)
    (show (0 : Int) < 1000000 by decide) (show (0 : Int) < 1000000 by decide)
    (show (0 : Int) ≤ 30 by decide) (show (0 : Int) < 10000 by decide)
    (show (0 : Int) ≤ 1000000 by decide) (show (0 : Int) ≤ 500000 by decide)
    (show (0 : Int) ≤ 400000 by decide)
  rw [hold] at hd0
  rw [show (1000000 + 500000 : Int) = 1500000 by decide,
    show (1000000 + 400000 : Int) = 1400000 by decide, hnew] at hd1
  cases hd0
  cases hd1
  obtain ⟨_, _, _, _, a', b', ha', hb', hfair, _, _⟩ := hall _ hmint
  cases ha'
  cases hb'
  exact ⟨hmint, hquiet, hcharge, hkept, _, _, hgrown (by decide), (hfair hcharge).2⟩

/-- Dust in a lopsided pool. A deposit of one is refused; a deposit of nine mints where, before
fees, nothing would be minted, so that the holders are diluted; a deposit of two mints less than
nothing. Where the solves are cut off, a deposit takes nine from the invariant. -/
theorem dust_against_holders :
    (mint 1 0 1 0 43 1 1 0).outcome = .error .invariantDecreased ∧
    (mint 2 2 2 4 27 1 9 0).outcome = .ok ⟨1, 0, -1⟩ ∧
    (invariant 2 27 1).outcome = .ok 18 ∧ (invariant 2 36 1).outcome = .ok 22 ∧
    ¬(18 * (4 + 1) ≤ 22 * 4) ∧
    (mint 2 2 2 1 35 1 2 0).outcome = .ok ⟨-1, 0, 1⟩ ∧
    (invariant 1 24271 1).outcome = .ok 1666 ∧ (invariant 1 24281 1).outcome = .ok 1657 :=
  ⟨rfl, rfl, rfl, rfl, by decide, rfl, rfl, rfl⟩

end PoolPricing.StableSwap
