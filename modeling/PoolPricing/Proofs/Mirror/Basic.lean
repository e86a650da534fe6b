import PoolPricing.Proofs.CurveScale
import PoolPricing.Proofs.Ending
import PoolPricing.Curve.Pricing
set_option autoImplicit false

namespace PoolPricing

open Checked

/-- Faults of one class: the same refusal, or two computations that have both left their domain. -/
inductive Fault.Akin : Fault → Fault → Prop where
  | same (fault : Fault) : Akin fault fault
  | outOfDomain (first second : Fault.OutOfDomain) : Akin (.outOfDomain first) (.outOfDomain second)

def Fault.isOutOfDomain : Fault → Bool
  | .outOfDomain _ => true
  | _ => false

theorem Fault.Akin.of_isOutOfDomain {first second : Fault} (hfirst : first.isOutOfDomain = true)
    (hsecond : second.isOutOfDomain = true) : first.Akin second := by
  cases first with
  | outOfDomain first =>
    cases second with
    | outOfDomain second => exact .outOfDomain first second
    | _ => contradiction
  | _ => contradiction

namespace Checked

variable {α α' β β' : Type} {R : α → α' → Prop} {S : β → β' → Prop} {fault : Fault}

inductive Alike (R : α → α' → Prop) : Checked α → Checked α' → Prop where
  | ok {a : α} {b : α'} (related : R a b) : Alike R (.ok a) (.ok b)
  | error {first second : Fault} (akin : first.Akin second) : Alike R (.error first) (.error second)

theorem Alike.fail : Alike R (.error fault) (.error fault) := .error (.same fault)

theorem Alike.same {R : α → α → Prop} {x : Checked α} (h : ∀ a, x = .ok a → R a a) :
    Alike R x x := by
  cases x with
  | ok a => exact .ok (h a rfl)
  | error fault => exact .fail

theorem Alike.of_eq {x y : Checked α} (h : y = x) : Alike Eq x y :=
  h ▸ .same fun _ _ => rfl

theorem Alike.bind {x : Checked α} {y : Checked α'} {f : α → Checked β} {g : α' → Checked β'}
    (hx : Alike R x y) (hf : ∀ a b, R a b → Alike S (f a) (g b)) : Alike S (x >>= f) (y >>= g) := by
  cases hx with
  | ok related => exact hf _ _ related
  | error akin => exact .error akin

theorem Alike.ok_of_ok {x : Checked α} {y : Checked α'} {a : α} (h : Alike R x y)
    (hx : x = .ok a) : ∃ b, y = .ok b ∧ R a b := by
  cases h with
  | ok related =>
    cases hx
    exact ⟨_, rfl, related⟩
  | error akin => contradiction

theorem Alike.step {x : Checked α} {f : α → Checked β} {g : α → Checked β'}
    (hf : ∀ a, x = .ok a → Alike S (f a) (g a)) : Alike S (x >>= f) (x >>= g) := by
  have hx : Alike (fun a b => b = a ∧ x = .ok a) x x := .same fun a ha => ⟨rfl, ha⟩
  exact hx.bind fun a _ ⟨heq, ha⟩ => heq ▸ hf a ha

theorem Alike.unless {γ γ' : Type} {c : Prop} [Decidable c] {f : γ → Checked β}
    {g : γ' → Checked β'} {x : Checked β} {y : Checked β'} (hx : c → Alike S x y) :
    Alike S (if c then x else refuse fault >>= f) (if c then y else refuse fault >>= g) := by
  split
  · exact hx ‹_›
  · exact .fail

theorem Alike.exchange_checked {x : Checked Unit} {a : α} {a' : α'} {f : α → α' → Checked β}
    {g : α' → α → Checked β'} (hf : Alike S (f a a') (g a' a)) :
    Alike S (do let m ← (do x; pure a); let n ← (do x; pure a'); f m n)
      (do let n ← (do x; pure a'); let m ← (do x; pure a); g n m) := by
  cases x with
  | ok u => exact hf
  | error fault => exact .fail

/-- A value with the property, unless the computation has left its domain. -/
abbrev Evaluates (x : Checked α) (P : α → Prop) : Prop :=
  x.Ends (fun fault => fault.isOutOfDomain = true) P

theorem Alike.exchange {P : α → Prop} {Q : β → Prop} {γ γ' : Type} {T : γ → γ' → Prop}
    {x : Checked α} {y : Checked β} {f : α → β → Checked γ} {g : β → α → Checked γ'}
    (hx : x.Evaluates P) (hy : y.Evaluates Q) (hf : ∀ a b, P a → Q b → Alike T (f a b) (g b a)) :
    Alike T (do let a ← x; let b ← y; f a b) (do let b ← y; let a ← x; g b a) := by
  cases hx with
  | ok hx =>
    cases hy with
    | ok hy => exact hf _ _ hx hy
    | error hy => exact .fail
  | error hx =>
    cases hy with
    | ok hy => exact .fail
    | error hy => exact .error (.of_isOutOfDomain hx hy)

end Checked

namespace Run

variable {α α' β β' : Type} {R : α → α' → Prop} {S : β → β' → Prop} {fault : Fault}

structure Alike (R : α → α' → Prop) (x : Run α) (y : Run α') : Prop where
  outcome : Checked.Alike R x.outcome y.outcome
  events : x.events = y.events

theorem Alike.lift {x : Checked α} {y : Checked α'} (h : Checked.Alike R x y) :
    Alike R (liftM x : Run α) (liftM y : Run α') :=
  ⟨h, rfl⟩

theorem Alike.pure {a : α} {b : α'} (h : R a b) : Alike R (Pure.pure a : Run α) (Pure.pure b) :=
  ⟨.ok h, rfl⟩

theorem Alike.same {R : α → α → Prop} {x : Run α} (h : ∀ a, x.outcome = .ok a → R a a) :
    Alike R x x :=
  ⟨.same h, rfl⟩

theorem Alike.of_eq {x y : Run α} (h : y = x) : Alike Eq x y :=
  h ▸ .same fun _ _ => rfl

theorem Alike.bind {x : Run α} {y : Run α'} {f : α → Run β} {g : α' → Run β'} (hx : Alike R x y)
    (hf : ∀ a b, R a b → Alike S (f a) (g b)) : Alike S (x >>= f) (y >>= g) := by
  obtain ⟨outcome, events⟩ := x
  obtain ⟨outcome', events'⟩ := y
  obtain ⟨houtcome, hevents⟩ := hx
  cases hevents
  cases houtcome with
  | ok related =>
    rw [bind_of_ok rfl, bind_of_ok rfl]
    exact ⟨(hf _ _ related).outcome, congrArg (events ++ ·) (hf _ _ related).events⟩
  | error akin => exact ⟨.error akin, rfl⟩

theorem Alike.step {x : Run α} {f : α → Run β} {g : α → Run β'}
    (hf : ∀ a, x.outcome = .ok a → Alike S (f a) (g a)) : Alike S (x >>= f) (x >>= g) := by
  have hx : Alike (fun a b => b = a ∧ x.outcome = .ok a) x x := .same fun a ha => ⟨rfl, ha⟩
  exact hx.bind fun a _ ⟨heq, ha⟩ => heq ▸ hf a ha

theorem Alike.guard {γ γ' : Type} {c : Prop} [Decidable c] {f : γ → Run β} {g : γ' → Run β'}
    {x : Run β} {y : Run β'} (hx : ¬c → Alike S x y) :
    Alike S (if c then throw fault >>= f else x) (if c then throw fault >>= g else y) := by
  split
  · exact ⟨.fail, rfl⟩
  · exact hx ‹_›

theorem Alike.ite {c : Prop} [Decidable c] {x z : Run β} {y w : Run β'} (hx : c → Alike S x y)
    (hz : ¬c → Alike S z w) : Alike S (if c then x else z) (if c then y else w) := by
  split
  · exact hx ‹_›
  · exact hz ‹_›

end Run

theorem Direction.source_reverse {α : Type} (direction : Direction) (a b : α) :
    direction.reverse.source b a = direction.source a b := by
  cases direction <;> rfl

theorem Direction.destination_reverse {α : Type} (direction : Direction) (a b : α) :
    direction.reverse.destination b a = direction.destination a b := by
  cases direction <;> rfl

/-- A pair of amounts of which one alone is given. -/
def OneSided (a b : Int) : Prop := (0 < a ∧ b = 0) ∨ (a = 0 ∧ 0 < b)

theorem OneSided.scale {a b m n : Int} (h : OneSided a b) (hm : 0 < m) (hn : 0 < n) :
    OneSided (a * m) (b * n) := by
  rcases h with ⟨ha, rfl⟩ | ⟨rfl, hb⟩
  · exact .inl ⟨Int.mul_pos ha hm, Int.zero_mul n⟩
  · exact .inr ⟨Int.zero_mul m, Int.mul_pos hb hn⟩

theorem StableSwap.invariant_comm {amp a b : Int} (h : OneSided a b) :
    invariant amp b a = invariant amp a b := by
  rcases h with ⟨ha, rfl⟩ | ⟨rfl, hb⟩
  · simp [invariant, solveInvariant, requireNonnegative_of_nonneg _ (Int.le_of_lt ha),
      requireNonnegative_of_nonneg _ zero_nonneg]
  · simp [invariant, solveInvariant, requireNonnegative_of_nonneg _ (Int.le_of_lt hb),
      requireNonnegative_of_nonneg _ zero_nonneg]

/-- Of two balances the solver rounds after either, so their order is not always the same to it. -/
example : (StableSwap.invariant 1 1 3).outcome = .ok 3 ∧
    (StableSwap.invariant 1 3 1).outcome = .ok 4 := ⟨rfl, rfl⟩

def Multiplier.mirror (multiplier : Multiplier) : Multiplier :=
  ⟨multiplier.b, multiplier.a, multiplier.decimals, multiplier.b_pos, multiplier.a_pos,
    multiplier.decimals_nonneg⟩

namespace StableCurve

def mirror (curve : StableCurve) : StableCurve :=
  { curve with multiplier := curve.multiplier.mirror }

variable {curve : StableCurve} (hplain : curve.depeg.kind = .none) (direction : Direction)
include hplain

theorem factor_mirror : curve.mirror.factor direction.reverse = curve.factor direction := by
  have hdepegged : curve.depeg.isDepegged = false := by simp [Depeg.State.isDepegged, hplain]
  cases direction <;>
    simp [factor, mirror, Multiplier.mirror, priceFactorA, Direction.reverse, hdepegged]

omit direction in
theorem canPrice_mirror : curve.mirror.CanPrice := .inl hplain

theorem upscaleSource_mirror (amount : Int) :
    curve.mirror.upscaleSource direction.reverse amount = curve.upscaleSource direction amount := by
  rw [upscaleSource_eq (canPrice_mirror hplain), upscaleSource_eq (.inl hplain),
    factor_mirror hplain]

theorem downscaleSource_mirror (amount : Int) :
    curve.mirror.downscaleSource direction.reverse amount =
      curve.downscaleSource direction amount := by
  rw [downscaleSource_eq (canPrice_mirror hplain), downscaleSource_eq (.inl hplain),
    factor_mirror hplain]

theorem upscaleDestination_mirror (amount : Int) :
    curve.mirror.upscaleDestination direction.reverse amount =
      curve.upscaleDestination direction amount :=
  upscaleSource_mirror hplain direction.reverse amount

theorem downscaleDestination_mirror (amount : Int) :
    curve.mirror.downscaleDestination direction.reverse amount =
      curve.downscaleDestination direction amount :=
  downscaleSource_mirror hplain direction.reverse amount

theorem upscalePair_mirror (source destination : Int) :
    curve.mirror.upscalePair direction.reverse source destination =
      curve.upscalePair direction source destination := by
  rw [upscalePair, upscaleSource_mirror hplain, upscaleDestination_mirror hplain]
  rfl

theorem amountOut_mirror (amount source destination : Int) :
    curve.mirror.amountOut direction.reverse amount source destination =
      curve.amountOut direction amount source destination := by
  simp only [amountOut, upscalePair_mirror hplain, upscaleSource_mirror hplain,
    downscaleDestination_mirror hplain]
  rfl

theorem amountIn_mirror (out source destination : Int) :
    curve.mirror.amountIn direction.reverse out source destination =
      curve.amountIn direction out source destination := by
  simp only [amountIn, upscalePair_mirror hplain, upscaleDestination_mirror hplain,
    downscaleSource_mirror hplain]
  rfl

theorem spotAmountOut_mirror (amount source destination : Int) :
    curve.mirror.spotAmountOut direction.reverse amount source destination =
      curve.spotAmountOut direction amount source destination := by
  simp only [spotAmountOut, upscalePair_mirror hplain, upscaleSource_mirror hplain,
    downscaleDestination_mirror hplain]
  rfl

/-- What is withdrawn in one token is priced on the balances of A and B, not of source and
destination, so here the balances change places. -/
theorem withdrawOne_mirror (fees : Fees) (burned supply reserveA reserveB : Int) :
    curve.mirror.withdrawOne fees direction.reverse burned supply reserveB reserveA =
      curve.withdrawOne fees direction burned supply reserveA reserveB := by
  have hy : curve.upscaleB reserveB = .ok (reserveB * curve.factor .bToA) :=
    upscaleSource_eq (.inl hplain) .bToA reserveB
  have hy' : curve.mirror.upscaleB reserveA = .ok (curve.upscaleA reserveA) :=
    upscaleSource_mirror hplain .aToB reserveA
  have hx' : curve.mirror.upscaleA reserveB = reserveB * curve.factor .bToA := by
    rw [← factor_mirror hplain .bToA]
    rfl
  simp only [withdrawOne, hy, hy', hx', Run.liftM_ok_bind, Direction.source_reverse,
    Direction.destination_reverse, downscaleDestination_mirror hplain]
  rfl

theorem invariant_mirror {a b : Int} (h : OneSided a b) :
    curve.mirror.invariant b a = curve.invariant a b := by
  have hb : curve.upscaleB b = .ok (b * curve.factor .bToA) :=
    upscaleSource_eq (.inl hplain) .bToA b
  have ha' : curve.mirror.upscaleB a = .ok (curve.upscaleA a) :=
    upscaleSource_mirror hplain .aToB a
  have hb' : curve.mirror.upscaleA b = b * curve.factor .bToA := by
    rw [← factor_mirror hplain .bToA]
    rfl
  have hsides : OneSided (curve.upscaleA a) (b * curve.factor .bToA) :=
    h.scale (factor_pos (.inl hplain) .aToB) (factor_pos (.inl hplain) .bToA)
  simp only [invariant, hb, ha', hb', Run.liftM_ok_bind]
  rw [show curve.mirror.amp = curve.amp from rfl, StableSwap.invariant_comm hsides]
  rfl

end StableCurve

namespace Curve

def mirror : Curve → Curve
  | .constantProduct => .constantProduct
  | .stable curve => .stable curve.mirror

/-- Without a price of its own. -/
def Plain : Curve → Prop
  | .constantProduct => True
  | .stable curve => curve.depeg.kind = .none

theorem Plain.mirror {curve : Curve} (h : curve.Plain) : curve.mirror.Plain := by
  cases curve <;> exact h

@[simp] theorem isStable_mirror (curve : Curve) : curve.mirror.isStable = curve.isStable := by
  cases curve <;> rfl

variable {curve : Curve} (hplain : curve.Plain) (direction : Direction)
include hplain

theorem amountOut_mirror (amount source destination : Int) :
    curve.mirror.amountOut direction.reverse amount source destination =
      curve.amountOut direction amount source destination := by
  cases curve with
  | constantProduct => rfl
  | stable curve => exact StableCurve.amountOut_mirror hplain direction amount source destination

theorem amountIn_mirror (out source destination : Int) :
    curve.mirror.amountIn direction.reverse out source destination =
      curve.amountIn direction out source destination := by
  cases curve with
  | constantProduct => rfl
  | stable curve => exact StableCurve.amountIn_mirror hplain direction out source destination

theorem priceImpact_mirror (amount source destination actual : Int) :
    curve.mirror.priceImpact direction.reverse amount source destination actual =
      curve.priceImpact direction amount source destination actual := by
  have hspot : curve.mirror.spotAmountOut direction.reverse amount source destination =
      curve.spotAmountOut direction amount source destination := by
    cases curve with
    | constantProduct => rfl
    | stable curve =>
      exact StableCurve.spotAmountOut_mirror hplain direction amount source destination
  rw [priceImpact, priceImpact, hspot]

theorem withdrawOne_mirror (fees : Fees) (burned supply reserveA reserveB : Int) :
    curve.mirror.withdrawOne fees direction.reverse burned supply reserveB reserveA =
      curve.withdrawOne fees direction burned supply reserveA reserveB := by
  cases curve with
  | constantProduct => rfl
  | stable curve =>
    exact StableCurve.withdrawOne_mirror hplain direction fees burned supply reserveA reserveB

omit direction in
theorem invariant_mirror {a b : Int} (h : OneSided a b) :
    curve.mirror.invariant b a = curve.invariant a b := by
  cases curve with
  | constantProduct =>
    simp only [mirror, invariant, ConstantProduct.invariant, Int.mul_comm b a, or_comm]
  | stable curve => exact StableCurve.invariant_mirror hplain h

end Curve
end PoolPricing
