import PoolPricing.Curve.Stable
import PoolPricing.Proofs.CurveScale
import PoolPricing.Proofs.Reserves
import PoolPricing.Proofs.StableSwap.Balance
import PoolPricing.Proofs.StableSwap.Invariant
set_option autoImplicit false

/-!
Runs of swaps on a stable curve. A swap leaves the pool strictly above the invariant it was priced
at, and the solver never answers below the whole part of the exact invariant; so the invariants at
which the swaps of a run are priced never fall, in whatever directions the swaps go and even where a
solver was cut off.
-/

namespace PoolPricing.StableCurve

open Checked StableSwap

def swapFor (curve : StableCurve) (reserves : Reserves) (order : Order) : Checked Int :=
  (curve.amountOut order.direction order.amount (reserves.source order.direction)
    (reserves.destination order.direction)).outcome

/-- The invariant at which a swap in a direction is priced. -/
def invariantAt (curve : StableCurve) (reserves : Reserves) (direction : Direction) :
    Checked Int := do
  let (x, y) ← curve.upscalePair direction (reserves.source direction)
    (reserves.destination direction)
  (StableSwap.invariant curve.amp x y).outcome

def settle (curve : StableCurve) (reserves : Reserves) (order : Order) : Reserves :=
  match curve.swapFor reserves order with
  | .ok out => reserves.move order.direction order.amount out
  | .error _ => reserves

def settleAll (curve : StableCurve) (reserves : Reserves) (orders : List Order) : Reserves :=
  orders.foldl curve.settle reserves

/-- The reserves lie strictly above the invariant `d`. -/
def Above (curve : StableCurve) (reserves : Reserves) (d : Int) : Prop :=
  0 < surplus curve.amp (reserves.a * curve.factor .aToB) (reserves.b * curve.factor .bToA) d

theorem above_iff (curve : StableCurve) (reserves : Reserves) (d : Int) (direction : Direction) :
    curve.Above reserves d ↔
      0 < surplus curve.amp (reserves.source direction * curve.factor direction)
        (reserves.destination direction * curve.factor direction.reverse) d := by
  cases direction with
  | aToB => exact Iff.rfl
  | bToA =>
    rw [surplus_comm]
    exact Iff.rfl

section

variable {curve : StableCurve} (h : curve.CanPrice)
include h

theorem upscalePair_eq (direction : Direction) (x y : Int) :
    curve.upscalePair direction x y =
      .ok (x * curve.factor direction, y * curve.factor direction.reverse) := by
  rw [upscalePair, upscaleDestination, upscaleSource_eq h, upscaleSource_eq h]
  rfl

/-- A swap priced at an invariant is refused for want of an output, or leaves of the destination
what is worth more than the balance that the solver asks for: one unit is held back before the
output is rounded down. -/
theorem amountOut_cases {direction : Direction} {amount x y d : Int} (hx : 0 < x)
    (hamount : 0 ≤ amount) (hnonneg : 0 ≤ d)
    (hd : (StableSwap.invariant curve.amp (x * curve.factor direction)
      (y * curve.factor direction.reverse)).outcome = .ok d) :
    ∃ left, (StableSwap.balance curve.amp
        (x * curve.factor direction + amount * curve.factor direction) d).outcome = .ok left ∧
      0 ≤ left ∧
      0 < surplus curve.amp (x * curve.factor direction + amount * curve.factor direction)
        (left + 1) d ∧
      ((curve.amountOut direction amount x y).outcome = .error (.tooSmall .swapIsZero) ∨
        ∃ out, (curve.amountOut direction amount x y).outcome = .ok out ∧ 0 < out ∧
          left + 1 ≤ (y - out) * curve.factor direction.reverse) := by
  have hg := factor_pos h direction.reverse
  have hX := Int.mul_pos hx (factor_pos h direction)
  have hpaid := Int.mul_nonneg hamount (Int.le_of_lt (factor_pos h direction))
  obtain ⟨left, hleft, hleft_nonneg, hbeyond⟩ := balance_ok curve.amp_pos
    (x := x * curve.factor direction + amount * curve.factor direction) (by omega) hnonneg
  refine ⟨left, hleft, hleft_nonneg, hbeyond, ?_⟩
  simp only [amountOut, Run.outcome_bind, Run.outcome_liftM, Run.outcome_ite, Run.outcome_throw,
    Run.outcome_pure, upscalePair_eq h, upscaleSource_eq h, downscaleDestination,
    downscaleSource_eq h, ok_bind, error_bind, hd, hleft]
  have hout := Int.ediv_mul_le (y * curve.factor direction.reverse - left - 1) (Int.ne_of_gt hg)
  generalize (y * curve.factor direction.reverse - left - 1) / curve.factor direction.reverse = out
    at hout
  by_cases hnone : out ≤ 0
  · exact .inl (if_pos hnone)
  · refine .inr ⟨out, if_neg hnone, by omega, ?_⟩
    rw [Int.sub_mul]
    omega

variable {reserves : Reserves} (hreserves : reserves.Positive)
include hreserves

theorem upscaled_pos (direction : Direction) :
    0 < reserves.source direction * curve.factor direction ∧
      0 < reserves.destination direction * curve.factor direction.reverse := by
  obtain ⟨hx, hy⟩ := (reserves.positive_iff direction).mp hreserves
  exact ⟨Int.mul_pos hx (factor_pos h direction), Int.mul_pos hy (factor_pos h direction.reverse)⟩

theorem invariantAt_ok (direction : Direction) :
    ∃ d, curve.invariantAt reserves direction = .ok d ∧ 0 < d ∧
      ∀ e, curve.Above reserves e → e ≤ d := by
  obtain ⟨hx, hy⟩ := upscaled_pos h hreserves direction
  obtain ⟨_, d, hd, _⟩ := invariant_ok curve.amp_pos hx hy
  obtain ⟨hpos, habove⟩ := invariant_above curve.amp_pos hx hy hd
  refine ⟨d, ?_, hpos, fun e he => ?_⟩
  · rw [invariantAt, upscalePair_eq h, ok_bind]
    exact hd
  · have := lt_of_surplus curve.amp_pos hx hy
      (Int.le_of_lt ((above_iff curve reserves e direction).mp he)) habove
    omega

theorem swapFor_ok {order : Order} {out : Int} (hswap : curve.swapFor reserves order = .ok out) :
    ∃ d, curve.invariantAt reserves order.direction = .ok d ∧
      (reserves.move order.direction order.amount out).Positive ∧
      curve.Above (reserves.move order.direction order.amount out) d := by
  obtain ⟨d, hd, hpos, _⟩ := invariantAt_ok h hreserves order.direction
  have hf := factor_pos h order.direction
  have hg := factor_pos h order.direction.reverse
  have hsource := ((reserves.positive_iff order.direction).mp hreserves).1
  have hamount := order.amount_nonneg
  refine ⟨d, hd, ?_⟩
  rw [invariantAt, upscalePair_eq h, ok_bind] at hd
  obtain ⟨left, _, hleft_nonneg, hbeyond, hrefused | ⟨found, hfound, _, hkept⟩⟩ :=
    amountOut_cases h hsource hamount (Int.le_of_lt hpos) hd
  · cases hswap.symm.trans hrefused
  obtain rfl : out = found := Except.ok.inj (hswap.symm.trans hfound)
  have hrest : 0 < reserves.destination order.direction - out :=
    (mul_pos_iff_of_pos_right hg).mp (by omega)
  rw [Reserves.positive_iff _ order.direction, above_iff _ _ _ order.direction]
  simp only [Reserves.move, Reserves.source_ofSides, Reserves.destination_ofSides]
  rw [← Int.add_mul, surplus_comm] at hbeyond
  rw [surplus_comm]
  exact ⟨⟨by omega, hrest⟩, surplus_pos_of_le curve.amp_pos (by omega)
    (Int.mul_pos (by omega) hf) (Int.le_of_lt hpos) hkept hbeyond⟩

theorem settle_cases (order : Order) :
    (∃ fault, curve.swapFor reserves order = .error fault ∧
      curve.settle reserves order = reserves) ∨
    (∃ out d, curve.swapFor reserves order = .ok out ∧
      curve.invariantAt reserves order.direction = .ok d ∧
      curve.settle reserves order = reserves.move order.direction order.amount out ∧
      (curve.settle reserves order).Positive ∧ curve.Above (curve.settle reserves order) d) := by
  cases hswap : curve.swapFor reserves order with
  | error fault => exact .inl ⟨fault, rfl, by rw [settle, hswap]⟩
  | ok out =>
    have hsettle : curve.settle reserves order =
        reserves.move order.direction order.amount out := by rw [settle, hswap]
    obtain ⟨d, hd, hpositive, habove⟩ := swapFor_ok h hreserves hswap
    rw [hsettle]
    exact .inr ⟨out, d, rfl, hd, rfl, hpositive, habove⟩

theorem settle_positive (order : Order) : (curve.settle reserves order).Positive := by
  obtain ⟨_, _, hsame⟩ | ⟨_, _, _, _, _, hpositive, _⟩ := settle_cases h hreserves order
  · rwa [hsame]
  · exact hpositive

theorem settle_above {e : Int} (he : curve.Above reserves e) (order : Order) :
    curve.Above (curve.settle reserves order) e := by
  obtain ⟨_, _, hsame⟩ | ⟨_, d, _, hd, _, hpositive, habove⟩ := settle_cases h hreserves order
  · rwa [hsame]
  · obtain ⟨found, hfound, _, hgreatest⟩ := invariantAt_ok h hreserves order.direction
    rw [hd] at hfound
    cases hfound
    obtain ⟨ha, hb⟩ := upscaled_pos h hpositive .aToB
    exact Int.lt_of_lt_of_le habove (surplus_antitone curve.amp_pos ha hb (hgreatest e he))

end

section

variable {curve : StableCurve} (h : curve.CanPrice)
include h

theorem settleAll_positive {reserves : Reserves} (hreserves : reserves.Positive)
    (orders : List Order) : (curve.settleAll reserves orders).Positive := by
  induction orders generalizing reserves with
  | nil => exact hreserves
  | cons order rest ih => exact ih (settle_positive h hreserves order)

theorem settleAll_above {reserves : Reserves} (hreserves : reserves.Positive) {e : Int}
    (he : curve.Above reserves e) (orders : List Order) :
    curve.Above (curve.settleAll reserves orders) e := by
  induction orders generalizing reserves with
  | nil => exact he
  | cons order rest ih =>
    exact ih (settle_positive h hreserves order) (settle_above h hreserves he order)

end

theorem settleAll_append (curve : StableCurve) (reserves : Reserves) (earlier later : List Order) :
    curve.settleAll reserves (earlier ++ later) =
      curve.settleAll (curve.settleAll reserves earlier) later :=
  List.foldl_append

/-- Over any run of orders on a curve that can price, both reserves stay positive; every swap leaves
them, in the common unit, strictly above the invariant it was priced at; and no later swap, in
either direction, is priced at a smaller one. -/
theorem no_run_lowers_invariant (curve : StableCurve) (h : curve.CanPrice) (start : Reserves)
    (hstart : start.Positive) :
    (∀ orders : List Order, (curve.settleAll start orders).Positive) ∧
    (∀ (earlier : List Order) (order : Order) (out : Int),
      curve.swapFor (curve.settleAll start earlier) order = .ok out →
      curve.settleAll start (earlier ++ [order]) =
        (curve.settleAll start earlier).move order.direction order.amount out ∧
      ∃ d x y, curve.invariantAt (curve.settleAll start earlier) order.direction = .ok d ∧
        curve.upscalePair order.direction
          ((curve.settleAll start (earlier ++ [order])).source order.direction)
          ((curve.settleAll start (earlier ++ [order])).destination order.direction) =
            .ok (x, y) ∧
        d ^ 3 < 4 * x * y * (2 * curve.amp * (x + y) - (2 * curve.amp - 1) * d)) ∧
    (∀ (earlier later : List Order) (order : Order) (out : Int) (next : Direction),
      curve.swapFor (curve.settleAll start earlier) order = .ok out →
      ∃ d e, curve.invariantAt (curve.settleAll start earlier) order.direction = .ok d ∧
        curve.invariantAt (curve.settleAll start (earlier ++ order :: later)) next = .ok e ∧
        d ≤ e) := by
  refine ⟨settleAll_positive h hstart, fun earlier order out hswap => ?_,
    fun earlier later order out next hswap => ?_⟩
  · have hnow := settleAll_positive h hstart earlier
    obtain ⟨d, hd, _, habove⟩ := swapFor_ok h hnow hswap
    have hsettle : curve.settleAll start (earlier ++ [order]) =
        (curve.settleAll start earlier).move order.direction order.amount out := by
      rw [settleAll_append]
      simp only [settleAll, List.foldl_cons, List.foldl_nil, settle] at hswap ⊢
      rw [hswap]
    rw [above_iff _ _ _ order.direction] at habove
    unfold surplus at habove
    rw [hsettle]
    exact ⟨rfl, d, _, _, hd, upscalePair_eq h _ _ _, by omega⟩
  · have hnow := settleAll_positive h hstart earlier
    obtain ⟨_, herror, _⟩ | ⟨_, d, _, hd, _, hpositive, habove⟩ := settle_cases h hnow order
    · rw [hswap] at herror
      contradiction
    · rw [settleAll_append]
      have hlater := settleAll_positive h hpositive later
      obtain ⟨e, he, _, hgreatest⟩ := invariantAt_ok h hlater next
      exact ⟨d, e, hd, he, hgreatest d (settleAll_above h hpositive habove later)⟩

def staked : StableCurve :=
  .hundredfold (.ofDecimals 6 6) ⟨1050000, 0, .marinade, by decide, zero_nonneg⟩

theorem no_run_lowers_invariant_staked :
    staked.CanPrice ∧ (⟨105000, 90000⟩ : Reserves).Positive ∧
    staked.swapFor ⟨105000, 90000⟩ ⟨.aToB, 1000, by decide⟩ = .ok 951 ∧
    ∃ d e, staked.invariantAt ⟨105000, 90000⟩ .aToB = .ok d ∧
      staked.invariantAt (staked.settleAll ⟨105000, 90000⟩ [⟨.aToB, 1000, by decide⟩]) .bToA =
        .ok e ∧ d ≤ e :=
  have hprice : staked.CanPrice := .inr (by decide)
  have hstart : (⟨105000, 90000⟩ : Reserves).Positive := ⟨by decide, by decide⟩
  have hswap : staked.swapFor ⟨105000, 90000⟩ ⟨.aToB, 1000, by decide⟩ = .ok 951 := rfl
  ⟨hprice, hstart, hswap, (no_run_lowers_invariant staked hprice ⟨105000, 90000⟩ hstart).2.2 [] []
    ⟨.aToB, 1000, by decide⟩ 951 .bToA hswap⟩

end PoolPricing.StableCurve
