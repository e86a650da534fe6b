import PoolPricing.Proofs.AccountPrice
import PoolPricing.Proofs.Ceiling
import PoolPricing.Proofs.CurveScale
import PoolPricing.Proofs.Ending
import PoolPricing.Proofs.Handle.History
set_option autoImplicit false

/-!
When a price cache is of use after a refresh. A cached price of zero is the mark of a pool without a
price, and every pricing on a depegged pool refuses on it; with any other price none of them asks
for an account. But zero is also what a price rounds down to, and freshness looks at the time alone:
so a refresh succeeds with an unusable price where it finds a fresh zero, and where it reads one
(`refreshed_unusable_iff`). No history makes an unusable price out of usable ones (`usable_after`).
-/

namespace PoolPricing

open Checked

def Fault.isMissingAccount : Fault → Bool
  | .missingAccount _ => true
  | _ => false

abbrev Checked.NeedsNoAccount {α : Type} (x : Checked α) : Prop :=
  x.Ends (fun fault => fault.isMissingAccount = false) fun _ => True

abbrev Run.NeedsNoAccount {α : Type} (x : Run α) : Prop :=
  x.Ends (fun fault => fault.isMissingAccount = false) fun _ => True

theorem requireNonnegative_needsNoAccount (subject : String) (n : Int) :
    (requireNonnegative subject n).NeedsNoAccount :=
  .ite (fun _ => .error rfl) fun _ => .ok trivial

theorem floorDivide_needsNoAccount (n d : Int) : (floorDivide n d).NeedsNoAccount :=
  .ite (fun _ => .error rfl) fun _ => .ok trivial

namespace StableSwap

theorem iterate_needsNoAccount {step : Int → Checked Int} (hstep : ∀ n, (step n).NeedsNoAccount)
    (steps : Nat) (previous current : Int) :
    (iterate step steps previous current).NeedsNoAccount := by
  induction steps generalizing previous current with
  | zero => exact .ok trivial
  | succ steps ih =>
    exact .ite (fun _ => .ok trivial) fun _ => .bind (hstep current) fun next _ => ih current next

theorem invariantStep_needsNoAccount (amp a b d : Int) :
    (invariantStep amp a b d).NeedsNoAccount := by
  have hproduct : (invariantProduct a b d).NeedsNoAccount :=
    .bind (floorDivide_needsNoAccount _ _) fun _ _ => floorDivide_needsNoAccount _ _
  exact .bind hproduct fun _ _ => floorDivide_needsNoAccount _ _

theorem solveInvariant_needsNoAccount (amp a b : Int) :
    (solveInvariant amp a b).NeedsNoAccount := by
  unfold solveInvariant
  refine .bind (requireNonnegative_needsNoAccount _ _) fun _ _ => ?_
  refine .bind (requireNonnegative_needsNoAccount _ _) fun _ _ => ?_
  refine .bind (requireNonnegative_needsNoAccount _ _) fun _ _ => ?_
  refine .guard rfl fun _ => .ite (fun _ => .ok trivial) fun _ => .guard rfl fun _ => ?_
  exact iterate_needsNoAccount (invariantStep_needsNoAccount _ _ _) _ _ _

theorem balanceStep_needsNoAccount (linear constant y : Int) :
    (balanceStep linear constant y).NeedsNoAccount :=
  .ite (fun _ => .error rfl) fun _ => floorDivide_needsNoAccount _ _

theorem solveBalance_needsNoAccount (amp x d : Int) : (solveBalance amp x d).NeedsNoAccount := by
  unfold solveBalance
  refine .bind (requireNonnegative_needsNoAccount _ _) fun _ _ => ?_
  refine .bind (requireNonnegative_needsNoAccount _ _) fun _ _ => ?_
  refine .bind (requireNonnegative_needsNoAccount _ _) fun _ _ => ?_
  refine .guard rfl fun _ => .guard rfl fun _ => ?_
  refine .bind (floorDivide_needsNoAccount _ _) fun _ _ => ?_
  refine .bind (floorDivide_needsNoAccount _ _) fun _ _ => ?_
  exact iterate_needsNoAccount (balanceStep_needsNoAccount _ _) _ _ _

theorem report_needsNoAccount (solver : Solver) (solution : Solution) :
    (report solver solution).NeedsNoAccount := by
  obtain ⟨value, converged⟩ := solution
  cases converged <;> exact .ok trivial

theorem invariant_needsNoAccount (amp a b : Int) : (invariant amp a b).NeedsNoAccount :=
  .bind (.lift (solveInvariant_needsNoAccount _ _ _)) fun _ _ => report_needsNoAccount _ _

theorem balance_needsNoAccount (amp x d : Int) : (balance amp x d).NeedsNoAccount :=
  .bind (.lift (solveBalance_needsNoAccount _ _ _)) fun _ _ => report_needsNoAccount _ _

theorem spotAmount_needsNoAccount (amp amount source destination d : Int) :
    (spotAmount amp amount source destination d).NeedsNoAccount := by
  unfold spotAmount
  split
  · exact .ok trivial
  · exact floorDivide_needsNoAccount _ _

theorem imbalanceFee_needsNoAccount (amount numerator denominator : Int) :
    (imbalanceFee amount numerator denominator).NeedsNoAccount :=
  .bind (requireNonnegative_needsNoAccount _ _) fun _ _ =>
    .guard rfl fun _ => floorDivide_needsNoAccount _ _

theorem chargedBalance_needsNoAccount (numerator denominator d0 d1 old new : Int) :
    (chargedBalance numerator denominator d0 d1 old new).NeedsNoAccount :=
  .bind (floorDivide_needsNoAccount _ _) fun _ _ =>
    .bind (imbalanceFee_needsNoAccount _ _ _) fun _ _ => .ok trivial

theorem growth_needsNoAccount (amp reserveA reserveB depositA depositB : Int) :
    (growth amp reserveA reserveB depositA depositB).NeedsNoAccount := by
  unfold growth
  refine .bind (invariant_needsNoAccount _ _ _) fun d0 _ => .guard rfl fun _ => ?_
  exact .bind (invariant_needsNoAccount _ _ _) fun d1 _ => .guard rfl fun _ => .ok trivial

theorem mint_needsNoAccount
    (amp numerator denominator supply reserveA reserveB depositA depositB : Int) :
    (mint amp numerator denominator supply reserveA reserveB depositA depositB).NeedsNoAccount := by
  unfold mint
  refine .bind (.lift (requireNonnegative_needsNoAccount _ _)) fun _ _ => ?_
  refine .bind (.lift (requireNonnegative_needsNoAccount _ _)) fun _ _ => ?_
  refine .bind (.lift (requireNonnegative_needsNoAccount _ _)) fun _ _ => ?_
  refine .bind (.lift (requireNonnegative_needsNoAccount _ _)) fun _ _ => ?_
  refine .bind (.lift (requireNonnegative_needsNoAccount _ _)) fun _ _ => ?_
  refine .ite (fun _ => .ok trivial) fun _ => ?_
  refine .bind (growth_needsNoAccount _ _ _ _ _) fun (d0, d1) _ => ?_
  refine .bind (.lift (chargedBalance_needsNoAccount _ _ _ _ _ _)) fun a _ => ?_
  refine .bind (.lift (chargedBalance_needsNoAccount _ _ _ _ _ _)) fun b _ => ?_
  refine .bind (invariant_needsNoAccount _ _ _) fun d2 _ => ?_
  refine .bind (.lift (floorDivide_needsNoAccount _ _)) fun amount _ => ?_
  exact .bind (.lift (floorDivide_needsNoAccount _ _)) fun before _ => .ok trivial

theorem release_needsNoAccount (amp supply baseReserve quoteReserve burned : Int) :
    (release amp supply baseReserve quoteReserve burned).NeedsNoAccount := by
  unfold release
  refine .bind (invariant_needsNoAccount _ _ _) fun d0 _ => ?_
  refine .bind (.lift (floorDivide_needsNoAccount _ _)) fun share _ => ?_
  refine .bind (balance_needsNoAccount _ _ _) fun left _ => ?_
  refine .bind (.lift (floorDivide_needsNoAccount _ _)) fun baseShare _ => ?_
  refine .bind (.lift (floorDivide_needsNoAccount _ _)) fun quoteShare _ => ?_
  exact .guard rfl fun _ => .ok trivial

theorem withdrawOne_needsNoAccount
    (amp numerator denominator supply baseReserve quoteReserve burned : Int) :
    (withdrawOne amp numerator denominator supply baseReserve quoteReserve
      burned).NeedsNoAccount := by
  unfold withdrawOne
  refine .bind (.lift (requireNonnegative_needsNoAccount _ _)) fun _ _ => ?_
  refine .bind (.lift (requireNonnegative_needsNoAccount _ _)) fun _ _ => ?_
  refine .bind (.lift (requireNonnegative_needsNoAccount _ _)) fun _ _ => ?_
  refine .bind (.lift (requireNonnegative_needsNoAccount _ _)) fun _ _ => ?_
  refine .ite (fun _ => .ok trivial) fun _ => ?_
  refine .guard rfl fun _ => .bind (release_needsNoAccount _ _ _ _ _) fun expected _ => ?_
  refine .bind (.lift (imbalanceFee_needsNoAccount _ _ _)) fun baseFee _ => ?_
  refine .bind (.lift (imbalanceFee_needsNoAccount _ _ _)) fun quoteFee _ => ?_
  exact .bind (balance_needsNoAccount _ _ _) fun left _ => .guard rfl fun _ => .ok trivial

end StableSwap

namespace StableCurve

/-- Whatever a curve is asked to price. -/
inductive Pricing where
  | upscaleB (amount : Int)
  | downscaleB (amount : Int)
  | invariant (a b : Int)
  | amountOut (direction : Direction) (amount source destination : Int)
  | amountIn (direction : Direction) (out source destination : Int)
  | spotAmountOut (direction : Direction) (amount source destination : Int)
  | mintForDeposit (fees : Fees) (depositA depositB reserveA reserveB supply : Int)
  | withdrawOne (fees : Fees) (direction : Direction) (burned supply reserveA reserveB : Int)

def answer (curve : StableCurve) : Pricing → Run Int
  | .upscaleB amount => Run.lift (curve.upscaleB amount)
  | .downscaleB amount => Run.lift (curve.downscaleB amount)
  | .invariant a b => curve.invariant a b
  | .amountOut direction amount source destination =>
    curve.amountOut direction amount source destination
  | .amountIn direction out source destination => curve.amountIn direction out source destination
  | .spotAmountOut direction amount source destination =>
    curve.spotAmountOut direction amount source destination
  | .mintForDeposit fees depositA depositB reserveA reserveB supply =>
    curve.mintForDeposit fees depositA depositB reserveA reserveB supply
  | .withdrawOne fees direction burned supply reserveA reserveB =>
    curve.withdrawOne fees direction burned supply reserveA reserveB

variable {curve : StableCurve}

section

variable (h : curve.CanPrice)
include h

theorem upscaleSource_needsNoAccount (direction : Direction) (amount : Int) :
    (curve.upscaleSource direction amount).NeedsNoAccount := by
  rw [upscaleSource_eq h]
  exact .ok trivial

theorem downscaleSource_needsNoAccount (direction : Direction) (amount : Int) :
    (curve.downscaleSource direction amount).NeedsNoAccount := by
  rw [downscaleSource_eq h]
  exact .ok trivial

theorem upscalePair_needsNoAccount (direction : Direction) (source destination : Int) :
    (curve.upscalePair direction source destination).NeedsNoAccount :=
  .bind (upscaleSource_needsNoAccount h _ _) fun _ _ =>
    .bind (upscaleSource_needsNoAccount h _ _) fun _ _ => .ok trivial

theorem answer_needsNoAccount (pricing : Pricing) : (curve.answer pricing).NeedsNoAccount := by
  cases pricing with
  | upscaleB amount => exact .lift (upscaleSource_needsNoAccount h .bToA amount)
  | downscaleB amount => exact .lift (downscaleSource_needsNoAccount h .bToA amount)
  | invariant a b =>
    refine .bind (.lift (upscaleSource_needsNoAccount h .bToA b)) fun y _ => ?_
    exact .bind (StableSwap.invariant_needsNoAccount _ _ _) fun d _ => .ok trivial
  | amountOut direction amount source destination =>
    refine .bind (.lift (upscalePair_needsNoAccount h _ _ _)) fun (x, y) _ => ?_
    refine .bind (.lift (upscaleSource_needsNoAccount h _ _)) fun paid _ => ?_
    refine .bind (StableSwap.invariant_needsNoAccount _ _ _) fun d _ => ?_
    refine .bind (StableSwap.balance_needsNoAccount _ _ _) fun left _ => ?_
    refine .bind (.lift (downscaleSource_needsNoAccount h _ _)) fun out _ => ?_
    exact .guard rfl fun _ => .ok trivial
  | amountIn direction out source destination =>
    refine .bind (.lift (upscalePair_needsNoAccount h _ _ _)) fun (x, y) _ => ?_
    refine .bind (.lift (upscaleSource_needsNoAccount h _ _)) fun taken _ => .guard rfl fun _ => ?_
    refine .bind (StableSwap.invariant_needsNoAccount _ _ _) fun d _ => ?_
    refine .bind (StableSwap.balance_needsNoAccount _ _ _) fun needed _ => ?_
    refine .bind (.lift (downscaleSource_needsNoAccount h _ _)) fun amount _ => ?_
    exact .guard rfl fun _ => .ok trivial
  | spotAmountOut direction amount source destination =>
    refine .bind (.lift (upscalePair_needsNoAccount h _ _ _)) fun (x, y) _ => ?_
    refine .ite (fun _ => .ok trivial) fun _ => ?_
    refine .bind (.lift (upscaleSource_needsNoAccount h _ _)) fun paid _ => ?_
    refine .bind (StableSwap.invariant_needsNoAccount _ _ _) fun d _ => ?_
    refine .bind (.lift (StableSwap.spotAmount_needsNoAccount _ _ _ _ _)) fun spot _ => ?_
    exact .lift (downscaleSource_needsNoAccount h _ _)
  | mintForDeposit fees depositA depositB reserveA reserveB supply =>
    refine .bind (.lift (upscaleSource_needsNoAccount h .bToA reserveB)) fun y _ => ?_
    refine .bind (.lift (upscaleSource_needsNoAccount h .bToA depositB)) fun paidB _ => ?_
    exact .bind (StableSwap.mint_needsNoAccount _ _ _ _ _ _ _ _) fun minted _ => .ok trivial
  | withdrawOne fees direction burned supply reserveA reserveB =>
    refine .bind (.lift (upscaleSource_needsNoAccount h .bToA reserveB)) fun y _ => ?_
    refine .bind (StableSwap.withdrawOne_needsNoAccount _ _ _ _ _ _ _) fun released _ => ?_
    exact .lift (downscaleSource_needsNoAccount h _ _)

end

section

variable (hdepegged : curve.depeg.kind ≠ .none)
include hdepegged

theorem answer_of_no_price (hprice : curve.depeg.price = 0) (pricing : Pricing) :
    (curve.answer pricing).outcome =
      .error (.missingAccount (.noCachedPrice curve.depeg.kind)) := by
  have hfactor :
      curve.priceFactorB = .error (.missingAccount (.noCachedPrice curve.depeg.kind)) := by
    simp [priceFactorB, cachedPrice, Depeg.State.isDepegged, hdepegged, hprice]
  have hup (amount : Int) :
      curve.upscaleB amount = .error (.missingAccount (.noCachedPrice curve.depeg.kind)) := by
    rw [upscaleB, hfactor, error_bind]
  have hpair (direction : Direction) (source destination : Int) :
      curve.upscalePair direction source destination =
        .error (.missingAccount (.noCachedPrice curve.depeg.kind)) := by
    cases direction <;>
      simp [upscalePair, upscaleDestination, upscaleSource, Direction.reverse, hup, pure,
        Except.pure]
  cases pricing <;>
    simp [answer, downscaleB, invariant, amountOut, amountIn, spotAmountOut, mintForDeposit,
      withdrawOne, hfactor, hup, hpair]

theorem answer_missingAccount_iff (pricing : Pricing) :
    (∃ cause, (curve.answer pricing).outcome = .error (.missingAccount cause)) ↔
      curve.depeg.price = 0 := by
  refine ⟨fun ⟨cause, h⟩ => ?_, fun h => ⟨_, answer_of_no_price hdepegged h pricing⟩⟩
  by_cases hprice : curve.depeg.price = 0
  · exact hprice
  · have hnonneg := curve.depeg.price_nonneg
    have hcan : curve.CanPrice := .inr (by omega)
    have hfine := answer_needsNoAccount hcan pricing
    rw [Run.NeedsNoAccount, Run.Ends, h] at hfine
    exact Bool.noConfusion hfine.of_error

end

end StableCurve

namespace Depeg

/-- Accounts from which a price is read that rounds down to zero: a price below one millionth. -/
def Worthless (kind : Kind) (account : Option Bytes) : Prop :=
  match kind, account with
  | .marinade, some account =>
    marinadePlace + 8 ≤ account.length ∧ wordAt account marinadePlace * precision < Int.pow 2 32
  | .lido, some account =>
    lidoBalancePlace + 8 ≤ account.length ∧ 0 < wordAt account lidoSupplyPlace ∧
      wordAt account lidoBalancePlace * precision < wordAt account lidoSupplyPlace
  | _, _ => False

theorem price_eq_zero_iff (kind : Kind) (account : Option Bytes) :
    price kind account = .ok 0 ↔ Worthless kind account := by
  cases kind with
  | none => simp [price, Worthless]
  | splStake => simp [price, Worthless]
  | marinade =>
    cases account with
    | none => simp [price, marinadePrice, Worthless]
    | some account =>
      have hword := Int.mul_nonneg (wordAt_nonneg account marinadePlace)
        (show 0 ≤ precision by decide)
      simp only [price, marinadePrice, bind_eq_ok, readWord_eq_ok, pure_eq_ok, Worthless]
      rw [← Number.ediv_eq_zero_iff hword (by decide)]
      constructor
      · rintro ⟨_, ⟨hlong, rfl⟩, hzero⟩
        exact ⟨hlong, hzero⟩
      · rintro ⟨hlong, hzero⟩
        exact ⟨_, ⟨hlong, rfl⟩, hzero⟩
  | lido =>
    cases account with
    | none => simp [price, lidoPrice, Worthless]
    | some account =>
      have hsupply := wordAt_nonneg account lidoSupplyPlace
      have hbalance := Int.mul_nonneg (wordAt_nonneg account lidoBalancePlace)
        (show 0 ≤ precision by decide)
      simp only [price, lidoPrice, bind_eq_ok, readWord_eq_ok, Worthless]
      constructor
      · rintro ⟨_, ⟨_, rfl⟩, _, ⟨hlong, rfl⟩, h⟩
        split at h
        · contradiction
        · have hpos : 0 < wordAt account lidoSupplyPlace := by omega
          rw [floorDivide_of_pos _ hpos, Except.ok.injEq,
            Number.ediv_eq_zero_iff hbalance hpos] at h
          exact ⟨hlong, hpos, h⟩
      · rintro ⟨hlong, hpos, hsmall⟩
        refine ⟨_, ⟨Nat.le_trans (by decide) hlong, rfl⟩, _, ⟨hlong, rfl⟩, ?_⟩
        rw [if_neg (Int.ne_of_gt hpos), floorDivide_of_pos _ hpos,
          (Number.ediv_eq_zero_iff hbalance hpos).mpr hsmall]

theorem State.refresh_price_eq_zero_iff {state after : State} {now : Int} {account : Option Bytes}
    (h : (state.refresh now account).outcome = .ok after) :
    after.price = 0 ↔ (state.isFresh now = true ∧ state.price = 0) ∨
      (state.isFresh now = false ∧ Worthless state.kind account) := by
  rcases refresh_ok h with ⟨hfresh, rfl⟩ | ⟨hstale, hprice, _⟩
  · simp [hfresh]
  · rw [← price_eq_zero_iff, hprice]
    simp [hstale]

end Depeg

/-- On a depegged pool, once a refresh has succeeded: pricing wants an account if, and only if, the
price held is zero, in a handle as in the snapshot; and it is zero if, and only if, the cache was
fresh and zero already or the account read is worth nothing. -/
theorem refreshed_unusable_iff (snapshot fresh : Snapshot) (curve : StableCurve)
    (hcurve : snapshot.curve = .stable curve) (hdepegged : curve.depeg.kind ≠ .none)
    (h : snapshot.refreshed.outcome = .ok fresh) :
    ∃ priced : StableCurve, fresh.curve = .stable priced ∧
      (curve.depeg.refresh snapshot.time snapshot.account?).outcome = .ok priced.depeg ∧
      (∀ settings, (Handle.refresh ⟨settings, snapshot⟩).1.depeg? = some priced.depeg) ∧
      (∀ pricing, (∃ cause, (priced.answer pricing).outcome = .error (.missingAccount cause)) ↔
        priced.depeg.price = 0) ∧
      (priced.depeg.price = 0 ↔
        (curve.depeg.isFresh snapshot.time = true ∧ curve.depeg.price = 0) ∨
        (curve.depeg.isFresh snapshot.time = false ∧
          Depeg.Worthless curve.depeg.kind snapshot.account?)) := by
  have hcache : snapshot.cache? = some curve.depeg := by
    rw [Snapshot.cache?, hcurve]
    rfl
  rcases Snapshot.refreshed_ok h with ⟨hnone, _⟩ | ⟨before, after, hbefore, hread, hfresh⟩
  · rw [hcache] at hnone
    contradiction
  · obtain rfl : curve.depeg = before := Option.some.inj (hcache.symm.trans hbefore)
    have hstable : fresh.curve = .stable { curve with depeg := after } := by
      rw [hfresh, Snapshot.withCache, hcurve]
      rfl
    have hkind : after.kind ≠ .none := Depeg.State.refresh_kind hread ▸ hdepegged
    refine ⟨_, hstable, hread, fun settings => ?_, StableCurve.answer_missingAccount_iff hkind,
      Depeg.State.refresh_price_eq_zero_iff hread⟩
    simp [Handle.refresh, h, Handle.depeg?, hstable, Curve.depeg?]

def unbackedSnapshot (time updated : Word) : Snapshot :=
  { Handle.stakedSnapshot time updated with
    sources := [(.lido, List.replicate 73 0 ++ [10, 0, 0, 0, 0, 0, 0, 0, 0, 0, 0, 0, 0, 0, 0, 0])] }

theorem refreshed_unusable_iff_staked :
    let now : Word := ⟨1000, by decide, by decide⟩
    let staked := Handle.stakedSnapshot now .zero
    let unbacked := unbackedSnapshot now .zero
    let curve (price updated : Nat) : StableCurve :=
      ⟨100, .ofDecimals 6 6, ⟨price, updated, .lido, by omega, by omega⟩, 0, by decide, by decide⟩
    staked.curve = .stable (curve 1000000 0) ∧
    staked.refreshed.outcome = .ok { staked with curve := .stable (curve 1100000 1000) } ∧
    unbacked.curve = .stable (curve 1000000 0) ∧
    unbacked.refreshed.outcome = .ok { unbacked with curve := .stable (curve 0 1000) } ∧
    (∃ priced : StableCurve, Curve.stable (curve 1100000 1000) = .stable priced ∧
      (∀ pricing cause, (priced.answer pricing).outcome ≠ .error (.missingAccount cause))) ∧
    (∃ priced : StableCurve, Curve.stable (curve 0 1000) = .stable priced ∧
      (∀ pricing, ∃ cause, (priced.answer pricing).outcome = .error (.missingAccount cause))) := by
  intro now staked unbacked curve
  have hstaked : staked.refreshed.outcome =
      .ok { staked with curve := .stable (curve 1100000 1000) } := by decide +kernel
  have hunbacked : unbacked.refreshed.outcome =
      .ok { unbacked with curve := .stable (curve 0 1000) } := by decide +kernel
  obtain ⟨priced, hpriced, _, _, hiff, _⟩ :=
    refreshed_unusable_iff staked _ (curve 1000000 0) rfl (by decide) hstaked
  obtain ⟨worthless, hworthless, _, _, hiff', _⟩ :=
    refreshed_unusable_iff unbacked _ (curve 1000000 0) rfl (by decide) hunbacked
  refine ⟨rfl, hstaked, rfl, hunbacked, ⟨priced, hpriced, fun pricing cause h => ?_⟩,
    worthless, hworthless, fun pricing => (hiff' pricing).mpr ?_⟩
  · cases hpriced
    exact absurd ((hiff pricing).mp ⟨cause, h⟩) (by decide)
  · cases hworthless
    rfl

/-- A refresh takes a good price away and succeeds; the pool is not priced after it, nor when a
snapshot with a good account of its own comes in. A fresh price of zero is left alone, whatever the
account says. -/
theorem refresh_unprices :
    let unbacked := unbackedSnapshot ⟨1000, by decide, by decide⟩ .zero
    let staked := Handle.stakedSnapshot ⟨1200, by decide, by decide⟩ ⟨500, by decide, by decide⟩
    let emptied := staked.withCache ⟨0, 900, .lido, by decide, by decide⟩
    let handle := Handle.after ⟨.standard, unbacked⟩
    (handle []).depeg? = some ⟨1000000, 0, .lido, by decide, by decide⟩ ∧
    ((handle []).perform .refresh).2.outcome =
      .ok (.refreshed (some ⟨0, 1000, .lido, by decide, by decide⟩)) ∧
    (handle [.refresh]).depeg? = some ⟨0, 1000, .lido, by decide, by decide⟩ ∧
    ((handle [.refresh]).perform (.ask .info)).2.outcome =
      .error (.missingAccount (.noCachedPrice .lido)) ∧
    ((handle [.refresh, .update staked]).perform (.ask .info)).2.outcome =
      .error (.missingAccount (.noCachedPrice .lido)) ∧
    staked.info.outcome.isOk = true ∧
    emptied.refreshed.outcome = .ok emptied ∧
    emptied.info.outcome = .error (.missingAccount (.noCachedPrice .lido)) := by
  intro unbacked staked emptied handle
  refine ⟨?_, ?_, ?_, ?_, ?_, ?_, ?_, ?_⟩ <;> decide +kernel

structure Snapshot.PricesWell (snapshot : Snapshot) : Prop where
  carried : ∀ state, snapshot.cache? = some state → state.kind ≠ .none → 0 < state.price
  read : ∀ kind, snapshot.kind? = some kind → ¬Depeg.Worthless kind snapshot.account?

theorem Snapshot.PricesWell.positive {snapshot : Snapshot} {state : Depeg.State}
    (h : snapshot.PricesWell) (hkind : state.kind ≠ .none) (hvouches : snapshot.Vouches state) :
    0 < state.price := by
  cases hvouches with
  | carried hcache => exact h.carried state hcache hkind
  | read hown hprice _ =>
    have hnonneg := state.price_nonneg
    have hworth := h.read _ hown
    rw [← Depeg.price_eq_zero_iff, hprice, Except.ok.injEq] at hworth
    omega

/-- Over any history of snapshots that price well, a handle on a depegged pool holds a price with
which it can price. -/
theorem Handle.usable_after {settings : Settings} {first : Snapshot} {operations : List Operation}
    (h : ∀ snapshot ∈ first :: installed operations, snapshot.PricesWell) {curve : StableCurve}
    (hcurve : (after ⟨settings, first⟩ operations).snapshot.curve = .stable curve) :
    curve.CanPrice := by
  by_cases hkind : curve.depeg.kind = .none
  · exact .inl hkind
  · have hcache : (after ⟨settings, first⟩ operations).snapshot.cache? = some curve.depeg := by
      rw [Snapshot.cache?, hcurve]
      rfl
    obtain ⟨snapshot, hsnapshot, hvouches⟩ :=
      (follows_after (follows_first settings first) operations).vouched _ hcache
    exact .inr ((h snapshot hsnapshot).positive hkind hvouches)

end PoolPricing
