import PoolPricing.Proofs.Refusal.Basic
import PoolPricing.Proofs.StableSwap.Balance
import PoolPricing.Proofs.StableSwap.Invariant
import PoolPricing.Curve.Pricing
set_option autoImplicit false

namespace PoolPricing

open Checked

namespace ConstantProduct

theorem divideUp_yields (n d : Int) : (divideUp n d).Yields fun _ => True := by
  unfold divideUp
  refine .guard rfl fun hn => ?_
  refine .guard rfl fun hd => ?_
  refine .guard rfl fun _ => ?_
  refine .ite (fun _ => trivial) fun _ => ?_
  have hquotient : 0 ≤ n / d := Int.ediv_nonneg (by omega) (by omega)
  exact .bind (floorDivide_yields _ (by omega)) fun _ _ => trivial

theorem swap_yields (amount source destination : Int) :
    (swap amount source destination).Yields fun _ => True := by
  unfold swap
  refine .bind (requireNonnegative_yields _ _) fun _ _ => ?_
  refine .bind (requireNonnegative_yields _ _) fun _ _ => ?_
  refine .bind (requireNonnegative_yields _ _) fun _ _ => ?_
  refine .guard rfl fun _ => ?_
  exact .bind (divideUp_yields _ _) fun left _ => .guard rfl fun _ => trivial

theorem amountFor_yields (out source destination : Int) :
    (amountFor out source destination).Yields fun _ => True := by
  unfold amountFor
  refine .bind (requireNonnegative_yields _ _) fun _ _ => ?_
  refine .bind (requireNonnegative_yields _ _) fun _ _ => ?_
  refine .bind (requireNonnegative_yields _ _) fun _ _ => ?_
  refine .guard rfl fun _ => ?_
  exact .bind (divideUp_yields _ _) fun needed _ => .guard rfl fun _ => trivial

theorem spotAmount_yields (amount source destination : Int) :
    (spotAmount amount source destination).Yields fun _ => True :=
  .ite (fun _ => trivial) fun hsource => floorDivide_yields _ hsource

theorem invariant_yields (a b : Int) : (invariant a b).Yields fun _ => True :=
  .guard rfl fun _ => trivial

end ConstantProduct

namespace StableSwap

theorem report_yields (solver : Solver) (solution : Solution) :
    (report solver solution).Yields fun value => value = solution.value :=
  Run.yields_of_ok (report_outcome solver solution) rfl

section

variable {amp : Int} (hamp : 1 ≤ amp)
include hamp

theorem solveInvariant_yields (a b : Int) :
    (solveInvariant amp a b).Yields fun solution => solution.value = 0 → a = 0 ∧ b = 0 := by
  by_cases hpos : 0 < a ∧ 0 < b
  · obtain ⟨_, d, hd, _⟩ := invariant_ok hamp hpos.1 hpos.2
    have habove := (invariant_above hamp hpos.1 hpos.2 hd).1
    obtain ⟨solution, hsolution, rfl⟩ := solution_of_invariant hd
    rw [hsolution]
    exact yields_ok fun hzero => by omega
  -- the guards let nothing past but the empty pool
  · unfold solveInvariant
    refine .bind (requireNonnegative_yields _ _) fun _ _ => ?_
    refine .bind (requireNonnegative_yields _ _) fun _ _ => ?_
    refine .bind (requireNonnegative_yields _ _) fun _ _ => ?_
    refine .guard rfl fun _ => ?_
    refine .ite (fun _ => yields_pure fun _ => by omega) fun _ => ?_
    exact .guard rfl fun _ => by omega

theorem invariant_yields (a b : Int) :
    (invariant amp a b).Yields fun d => d = 0 → a = 0 ∧ b = 0 := by
  unfold invariant
  refine .bind (.lift (solveInvariant_yields hamp a b)) fun solution hsolution => ?_
  exact (report_yields _ _).mono fun _ heq => heq ▸ hsolution

theorem solveBalance_yields (x d : Int) :
    (solveBalance amp x d).Yields fun _ => x ≠ 0 := by
  by_cases hrange : 0 < x ∧ 0 ≤ d
  · obtain ⟨solution, hsolution, _⟩ := solveBalance_ok hamp hrange.1 hrange.2
    rw [hsolution]
    exact yields_ok (Int.ne_of_gt hrange.1)
  -- the guards let nothing past
  · unfold solveBalance
    refine .bind (requireNonnegative_yields _ _) fun _ _ => ?_
    refine .bind (requireNonnegative_yields _ _) fun _ _ => ?_
    refine .bind (requireNonnegative_yields _ _) fun _ _ => ?_
    refine .guard rfl fun _ => ?_
    exact .guard rfl fun _ => by omega

theorem balance_yields (x d : Int) : (balance amp x d).Yields fun _ => x ≠ 0 := by
  unfold balance
  refine .bind (.lift (solveBalance_yields hamp x d)) fun solution hx => ?_
  exact (report_yields _ _).mono fun _ _ => hx

end

theorem imbalanceFee_yields (amount numerator denominator : Int) :
    (imbalanceFee amount numerator denominator).Yields fun _ => True := by
  unfold imbalanceFee
  refine .bind (requireNonnegative_yields _ _) fun _ _ => ?_
  exact .guard rfl fun hdenominator => floorDivide_yields _ (by omega)

theorem chargedBalance_yields (numerator denominator : Int) {d0 : Int} (hd0 : d0 ≠ 0)
    (d1 old new : Int) :
    (chargedBalance numerator denominator d0 d1 old new).Yields fun _ => True := by
  unfold chargedBalance
  refine .bind (floorDivide_yields _ hd0) fun ideal _ => ?_
  exact .bind (imbalanceFee_yields _ _ _) fun _ _ => trivial

section

variable {amp : Int} (hamp : 1 ≤ amp)
include hamp

theorem growth_yields (reserveA reserveB depositA depositB : Int) :
    (growth amp reserveA reserveB depositA depositB).Yields fun d => d.1 ≠ 0 := by
  unfold growth
  refine .bind (invariant_yields hamp _ _) fun d0 _ => ?_
  refine .guard rfl fun hd0 => ?_
  refine .bind (invariant_yields hamp _ _) fun d1 _ => ?_
  exact .guard rfl fun _ => hd0

theorem mint_yields (numerator denominator supply reserveA reserveB depositA depositB : Int) :
    (mint amp numerator denominator supply reserveA reserveB depositA depositB).Yields
      fun _ => True := by
  unfold mint
  refine .bind (.lift (requireNonnegative_yields _ _)) fun _ _ => ?_
  refine .bind (.lift (requireNonnegative_yields _ _)) fun _ _ => ?_
  refine .bind (.lift (requireNonnegative_yields _ _)) fun _ _ => ?_
  refine .bind (.lift (requireNonnegative_yields _ _)) fun _ _ => ?_
  refine .bind (.lift (requireNonnegative_yields _ _)) fun _ _ => ?_
  refine .ite (fun _ => trivial) fun _ => ?_
  refine .bind (growth_yields hamp _ _ _ _) fun (d0, d1) hd0 => ?_
  refine .bind (.lift (chargedBalance_yields _ _ hd0 _ _ _)) fun a _ => ?_
  refine .bind (.lift (chargedBalance_yields _ _ hd0 _ _ _)) fun b _ => ?_
  refine .bind (invariant_yields hamp _ _) fun d2 _ => ?_
  refine .bind (.lift (floorDivide_yields _ hd0)) fun amount _ => ?_
  exact .bind (.lift (floorDivide_yields _ hd0)) fun before _ => trivial

/-- An empty pool releases nothing: the solver of the balance has refused its quote balance before
anything is divided by the invariant. -/
theorem release_yields {supply : Int} (hsupply : supply ≠ 0)
    (baseReserve quoteReserve burned : Int) :
    (release amp supply baseReserve quoteReserve burned).Yields fun _ => True := by
  unfold release
  refine .bind (invariant_yields hamp _ _) fun d0 hempty => ?_
  refine .bind (.lift (floorDivide_yields _ hsupply)) fun share _ => ?_
  refine .bind (balance_yields hamp _ _) fun left hquote => ?_
  have hd0 : d0 ≠ 0 := fun hzero => hquote (hempty hzero).2
  refine .bind (.lift (floorDivide_yields _ hd0)) fun baseShare _ => ?_
  refine .bind (.lift (floorDivide_yields _ hd0)) fun quoteShare _ => ?_
  exact .guard rfl fun _ => trivial

theorem withdrawOne_yields
    (numerator denominator supply baseReserve quoteReserve burned : Int) :
    (withdrawOne amp numerator denominator supply baseReserve quoteReserve burned).Yields
      fun _ => True := by
  unfold withdrawOne
  refine .bind (.lift (requireNonnegative_yields _ _)) fun _ _ => ?_
  refine .bind (.lift (requireNonnegative_yields _ _)) fun _ _ => ?_
  refine .bind (.lift (requireNonnegative_yields _ _)) fun _ _ => ?_
  refine .bind (.lift (requireNonnegative_yields _ _)) fun _ _ => ?_
  refine .ite (fun _ => trivial) fun _ => ?_
  refine .guard rfl fun hburned => ?_
  refine .bind (release_yields hamp (fun hzero => hburned (.inl hzero)) _ _ _) fun expected _ => ?_
  refine .bind (.lift (imbalanceFee_yields _ _ _)) fun baseFee _ => ?_
  refine .bind (.lift (imbalanceFee_yields _ _ _)) fun quoteFee _ => ?_
  exact .bind (balance_yields hamp _ _) fun left _ => .guard rfl fun _ => trivial

end

theorem slope?_denominator_pos {amp source destination d numerator denominator : Int}
    (h : slope? amp source destination d = some (numerator, denominator)) : 0 < denominator := by
  unfold slope? at h
  simp only [Option.ite_none_left_eq_some, Option.some.injEq, Prod.mk.injEq] at h
  omega

theorem spotAmount_yields (amp amount source destination d : Int) :
    (spotAmount amp amount source destination d).Yields fun _ => True := by
  unfold spotAmount
  cases hslope : slope? amp source destination d with
  | none => trivial
  | some slope => exact floorDivide_yields _ (Int.ne_of_gt (slope?_denominator_pos hslope))

end StableSwap

namespace Depeg

theorem readWord_yields (subject : String) (account : Bytes) (place : Nat) :
    (readWord subject account place).Yields fun _ => True :=
  .ite (fun _ => rfl) fun _ => trivial

theorem price_yields (kind : Kind) (account : Option Bytes) :
    (price kind account).Yields fun _ => True := by
  cases kind with
  | none => rfl
  | splStake => rfl
  | marinade =>
    cases account with
    | none => rfl
    | some account => exact .bind (readWord_yields _ _ _) fun _ _ => trivial
  | lido =>
    cases account with
    | none => rfl
    | some account =>
      refine .bind (readWord_yields _ _ _) fun supply _ => ?_
      refine .bind (readWord_yields _ _ _) fun balance _ => ?_
      exact .guard rfl fun hsupply => floorDivide_yields _ hsupply

theorem State.refresh_yields (state : State) (now : Int) (account : Option Bytes) :
    (state.refresh now account).Yields fun _ => True := by
  unfold State.refresh
  refine .ite (fun _ => trivial) fun _ => ?_
  refine .bind (.lift (price_yields _ _)) fun price _ => ?_
  refine .bind (Run.yields_note _) fun _ _ => .lift ?_
  unfold State.reprice State.ofNumbers
  split
  · rfl
  · split
    · rfl
    · trivial

end Depeg

namespace StableCurve

variable (curve : StableCurve) (direction : Direction)

theorem priceFactorB_yields : curve.priceFactorB.Yields fun factor => factor ≠ 0 := by
  unfold priceFactorB cachedPrice
  refine .ite (fun _ => ?_) fun _ => yields_pure (by decide)
  exact .ite (fun _ => rfl) fun hprice => yields_pure hprice

theorem upscaleSource_yields (amount : Int) :
    (curve.upscaleSource direction amount).Yields fun _ => True := by
  cases direction with
  | aToB => trivial
  | bToA => exact .bind curve.priceFactorB_yields fun _ _ => trivial

theorem downscaleSource_yields (amount : Int) :
    (curve.downscaleSource direction amount).Yields fun _ => True := by
  cases direction with
  | aToB => trivial
  | bToA => exact .bind curve.priceFactorB_yields fun _ hfactor => floorDivide_yields _ hfactor

theorem upscalePair_yields (source destination : Int) :
    (curve.upscalePair direction source destination).Yields fun _ => True := by
  unfold upscalePair
  refine .bind (curve.upscaleSource_yields _ _) fun x _ => ?_
  exact .bind (curve.upscaleSource_yields _ _) fun y _ => trivial

theorem amountOut_yields (amount source destination : Int) :
    (curve.amountOut direction amount source destination).Yields fun _ => True := by
  unfold amountOut
  refine .bind (.lift (curve.upscalePair_yields _ _ _)) fun (x, y) _ => ?_
  refine .bind (.lift (curve.upscaleSource_yields _ _)) fun paid _ => ?_
  refine .bind (StableSwap.invariant_yields curve.amp_pos _ _) fun d _ => ?_
  refine .bind (StableSwap.balance_yields curve.amp_pos _ _) fun left _ => ?_
  refine .bind (.lift (curve.downscaleSource_yields _ _)) fun out _ => ?_
  exact .guard rfl fun _ => trivial

theorem amountIn_yields (out source destination : Int) :
    (curve.amountIn direction out source destination).Yields fun _ => True := by
  unfold amountIn
  refine .bind (.lift (curve.upscalePair_yields _ _ _)) fun (x, y) _ => ?_
  refine .bind (.lift (curve.upscaleSource_yields _ _)) fun taken _ => ?_
  refine .guard rfl fun _ => ?_
  refine .bind (StableSwap.invariant_yields curve.amp_pos _ _) fun d _ => ?_
  refine .bind (StableSwap.balance_yields curve.amp_pos _ _) fun needed _ => ?_
  refine .bind (.lift (curve.downscaleSource_yields _ _)) fun amount _ => ?_
  exact .guard rfl fun _ => trivial

theorem spotAmountOut_yields (amount source destination : Int) :
    (curve.spotAmountOut direction amount source destination).Yields fun _ => True := by
  unfold spotAmountOut
  refine .bind (.lift (curve.upscalePair_yields _ _ _)) fun (x, y) _ => ?_
  refine .ite (fun _ => trivial) fun _ => ?_
  refine .bind (.lift (curve.upscaleSource_yields _ _)) fun paid _ => ?_
  refine .bind (StableSwap.invariant_yields curve.amp_pos _ _) fun d _ => ?_
  refine .bind (.lift (StableSwap.spotAmount_yields _ _ _ _ _)) fun spot _ => ?_
  exact .lift (curve.downscaleSource_yields _ _)

theorem invariant_yields (a b : Int) : (curve.invariant a b).Yields fun _ => True := by
  unfold invariant
  refine .bind (.lift (curve.upscaleSource_yields .bToA b)) fun y _ => ?_
  exact .bind (StableSwap.invariant_yields curve.amp_pos _ _) fun d _ => trivial

theorem mintForDeposit_yields (fees : Fees) (depositA depositB reserveA reserveB supply : Int) :
    (curve.mintForDeposit fees depositA depositB reserveA reserveB supply).Yields
      fun _ => True := by
  unfold mintForDeposit
  refine .bind (.lift (curve.upscaleSource_yields .bToA reserveB)) fun y _ => ?_
  refine .bind (.lift (curve.upscaleSource_yields .bToA depositB)) fun paidB _ => ?_
  exact .bind (StableSwap.mint_yields curve.amp_pos _ _ _ _ _ _ _) fun minted _ => trivial

theorem withdrawOne_yields (fees : Fees) (burned supply reserveA reserveB : Int) :
    (curve.withdrawOne fees direction burned supply reserveA reserveB).Yields fun _ => True := by
  unfold withdrawOne
  refine .bind (.lift (curve.upscaleSource_yields .bToA reserveB)) fun y _ => ?_
  refine .bind (StableSwap.withdrawOne_yields curve.amp_pos _ _ _ _ _ _) fun released _ => ?_
  exact .lift (curve.downscaleSource_yields _ _)

theorem refresh_yields (now : Int) (account : Option Depeg.Bytes) :
    (curve.refresh now account).Yields fun _ => True :=
  .bind (curve.depeg.refresh_yields now account) fun _ _ => trivial

end StableCurve

namespace Curve

variable (curve : Curve) (direction : Direction)

theorem amountOut_yields (amount source destination : Int) :
    (curve.amountOut direction amount source destination).Yields fun _ => True := by
  cases curve with
  | constantProduct => exact .bind (.lift (ConstantProduct.swap_yields _ _ _)) fun _ _ => trivial
  | stable curve => exact curve.amountOut_yields _ _ _ _

theorem amountIn_yields (out source destination : Int) :
    (curve.amountIn direction out source destination).Yields fun _ => True := by
  cases curve with
  | constantProduct => exact .lift (ConstantProduct.amountFor_yields _ _ _)
  | stable curve => exact curve.amountIn_yields _ _ _ _

theorem spotAmountOut_yields (amount source destination : Int) :
    (curve.spotAmountOut direction amount source destination).Yields fun _ => True := by
  cases curve with
  | constantProduct => exact .lift (ConstantProduct.spotAmount_yields _ _ _)
  | stable curve => exact curve.spotAmountOut_yields _ _ _ _

theorem priceImpact_yields (amount source destination actual : Int) :
    (curve.priceImpact direction amount source destination actual).Yields fun _ => True :=
  .bind (curve.spotAmountOut_yields _ _ _ _) fun _ _ => trivial

theorem invariant_yields (a b : Int) : (curve.invariant a b).Yields fun _ => True := by
  cases curve with
  | constantProduct => exact .lift (ConstantProduct.invariant_yields _ _)
  | stable curve => exact curve.invariant_yields _ _

theorem mintForDeposit_yields (fees : Fees) (depositA depositB reserveA reserveB supply : Int) :
    (curve.mintForDeposit fees depositA depositB reserveA reserveB supply).Yields
      fun _ => True := by
  cases curve with
  | constantProduct => rfl
  | stable curve => exact curve.mintForDeposit_yields _ _ _ _ _ _

theorem withdrawOne_yields (fees : Fees) (burned supply reserveA reserveB : Int) :
    (curve.withdrawOne fees direction burned supply reserveA reserveB).Yields fun _ => True := by
  cases curve with
  | constantProduct => rfl
  | stable curve => exact curve.withdrawOne_yields _ _ _ _ _ _

theorem refresh_yields (now : Int) (account : Option Depeg.Bytes) :
    (curve.refresh now account).Yields fun _ => True := by
  cases curve with
  | constantProduct => trivial
  | stable curve => exact .bind (curve.refresh_yields now account) fun _ _ => trivial

end Curve
end PoolPricing
