import PoolPricing.Proofs.ConstantProduct
import Mathlib.Order.Bounds.Basic
set_option autoImplicit false

namespace PoolPricing.ConstantProduct

open Checked Number

/-- What an output costs: the source in the ratio of the output to what it leaves of the
destination, rounded up. -/
def cost (out x y : Int) : Int := ceiling (x * out) (y - out)

theorem amountFor_eq {out x y : Int} (hout : 0 ≤ out) (hx : 0 ≤ x) (hy : 0 ≤ y) :
    amountFor out x y =
      if y ≤ out then .error (.tooSmall .drainsDestination)
      else if x = 0 then .error (.tooSmall .ceilingIsZero)
      else if out = 0 then .error (.tooSmall .swapIsZero)
      else .ok (cost out x y) := by
  simp only [amountFor, requireNonnegative_of_nonneg _ hout, requireNonnegative_of_nonneg _ hx,
    requireNonnegative_of_nonneg _ hy, ok_bind, refuse_bind]
  by_cases hdrained : y ≤ out
  · simp only [hdrained, if_true]
  have hkept : 0 < y - out := by omega
  have hempty : x * y < y - out ↔ x = 0 := by
    constructor
    · intro hlt
      by_contra hsource
      have := Int.mul_le_mul_of_nonneg_right (show 1 ≤ x by omega) hy
      omega
    · rintro rfl
      omega
  simp only [hdrained, if_false, divideUp_eq (Int.mul_nonneg hx hy) hkept, hempty]
  by_cases hsource : x = 0
  · simp only [hsource, if_true, error_bind]
  have hneeded : ceiling (x * y) (y - out) - x = cost out x y := by
    rw [ceiling_sub _ _ (Int.ne_of_gt hkept), cost, Int.mul_sub, Int.sub_sub_self]
  have hfree : cost out x y ≤ 0 ↔ out = 0 := by
    rw [cost, ceiling_le_iff hkept, Int.zero_mul]
    constructor
    · intro hnone
      by_contra hsome
      have := Int.mul_pos (show 0 < x by omega) (show 0 < out by omega)
      omega
    · rintro rfl
      omega
  simp only [hsource, if_false, ok_bind, hneeded, hfree]
  rfl

theorem amountFor_eq_ok {out x y price : Int} :
    amountFor out x y = .ok price ↔ 0 < x ∧ 0 < out ∧ out < y ∧ cost out x y = price := by
  constructor
  · intro h
    obtain ⟨hout, hx, hy⟩ : 0 ≤ out ∧ 0 ≤ x ∧ 0 ≤ y := by
      simp only [amountFor, bind_eq_ok, requireNonnegative_eq_ok, exists_and_left, exists_const]
        at h
      exact ⟨h.1, h.2.1, h.2.2.1⟩
    rw [amountFor_eq hout hx hy] at h
    simp only [guard_eq_ok, Except.ok.injEq] at h
    obtain ⟨hdrained, hsource, hsome, hprice⟩ := h
    exact ⟨by omega, by omega, by omega, hprice⟩
  · rintro ⟨hx, hout, hkept, rfl⟩
    rw [amountFor_eq (by omega) (by omega) (by omega), if_neg (by omega), if_neg (by omega),
      if_neg (by omega)]

theorem le_bought_iff {amount out x y : Int} (hsum : 0 < x + amount) (hkept : out < y) :
    out ≤ bought amount x y ↔ cost out x y ≤ amount := by
  rw [bought, Int.le_ediv_iff_mul_le hsum, cost, ceiling_le_iff (show 0 < y - out by omega)]
  constructor
  · intro h
    linarith
  · intro h
    linarith

section

variable {out x y : Int} (hx : 0 < x) (hout : 0 < out) (hkept : out < y)
include hx hout hkept

theorem cost_pos : 0 < cost out x y := by
  have hrest : 0 < y - out := by omega
  have hpart := Int.lt_of_lt_of_le (Int.mul_pos hx hout) (le_ceiling_mul (x * out) hrest)
  exact Int.pos_of_mul_pos_left hpart hrest

theorem add_cost_le_product : x + cost out x y ≤ x * y := by
  have hrest : 1 ≤ y - out := by omega
  -- the cost is the least amount that covers the part, and this amount covers it
  have hcost : cost out x y ≤ x * (y - 1) := by
    refine (ceiling_le_iff hrest).mpr ?_
    calc x * out ≤ x * (y - 1) := Int.mul_le_mul_of_nonneg_left (by omega) (Int.le_of_lt hx)
      _ = x * (y - 1) * 1 := (Int.mul_one _).symm
      _ ≤ x * (y - 1) * (y - out) :=
          Int.mul_le_mul_of_nonneg_left hrest (Int.mul_nonneg (by omega) (by omega))
  linarith

theorem add_cost_le_mul : x + cost out x y ≤ y * cost out x y := by
  have hpart := le_ceiling_mul (x * out) (show 0 < y - out by omega)
  have hpos := cost_pos hx hout hkept
  calc x + cost out x y = 1 * (x + cost out x y) := (Int.one_mul _).symm
    _ ≤ out * (x + cost out x y) := Int.mul_le_mul_of_nonneg_right hout (by omega)
    _ = x * out + out * cost out x y := by ring
    _ ≤ cost out x y * (y - out) + out * cost out x y := Int.add_le_add_right hpart _
    _ = y * cost out x y := by ring

theorem isLeast_cost :
    IsLeast {amount | ∃ trade, swap amount x y = .ok trade ∧ out ≤ trade.received}
      (cost out x y) := by
  have hpos := cost_pos hx hout hkept
  constructor
  · exact ⟨_, swap_eq_ok.mpr ⟨by omega, by omega, by omega, by omega,
      add_cost_le_product hx hout hkept, add_cost_le_mul hx hout hkept, rfl⟩,
      (le_bought_iff (by omega) hkept).mpr (Int.le_refl _)⟩
  · rintro amount ⟨trade, htrade, hle⟩
    obtain ⟨_, _, _, hsum, _, _, rfl⟩ := swap_eq_ok.mp htrade
    exact (le_bought_iff hsum hkept).mp hle

end

/-- Between balances `x` and `y`, an exact input trades just where what it leaves and what it buys
both come to a unit before they are rounded, and it buys its part rounded down. An exact output is
priced just where there is a source and the output neither is nothing nor drains the destination,
and it costs its part rounded up: the least input that buys it. All else is refused as too small. -/
theorem exactOut_adjoint {x y : Int} (hx : 0 ≤ x) (hy : 0 ≤ y) :
    (∀ amount, 0 ≤ amount →
      if 0 < x + amount ∧ x + amount ≤ x * y ∧ x + amount ≤ y * amount then
        swap amount x y = .ok ⟨amount, y * amount / (x + amount), x + amount,
          y - y * amount / (x + amount)⟩
      else ∃ cause, swap amount x y = .error (.tooSmall cause)) ∧
    ∀ out, 0 ≤ out →
      if 1 ≤ x ∧ 1 ≤ out ∧ out < y then
        amountFor out x y = .ok (ceiling (x * out) (y - out)) ∧
        IsLeast {amount | ∃ trade, swap amount x y = .ok trade ∧ out ≤ trade.received}
          (ceiling (x * out) (y - out))
      else ∃ cause, amountFor out x y = .error (.tooSmall cause) := by
  constructor
  · intro amount hamount
    split
    case isTrue hwhole =>
      obtain ⟨hsum, hproduct, hpaid⟩ := hwhole
      exact swap_eq_ok.mpr ⟨hamount, hx, hy, hsum, hproduct, hpaid, rfl⟩
    case isFalse hpart =>
      obtain hrefused | ⟨trade, htrade, _⟩ := swap_cases hamount hx hy
      · exact hrefused
      · obtain ⟨_, _, _, hsum, hproduct, hpaid, _⟩ := swap_eq_ok.mp htrade
        exact absurd ⟨hsum, hproduct, hpaid⟩ hpart
  · intro out hout
    split
    case isTrue hpriced =>
      obtain ⟨hsource, hsome, hkept⟩ := hpriced
      exact ⟨amountFor_eq_ok.mpr ⟨hsource, hsome, hkept, rfl⟩, isLeast_cost hsource hsome hkept⟩
    case isFalse hunpriced =>
      rw [amountFor_eq hout hx hy]
      by_cases hdrained : y ≤ out
      · exact ⟨_, if_pos hdrained⟩
      by_cases hsource : x = 0
      · exact ⟨_, by rw [if_neg hdrained, if_pos hsource]⟩
      exact ⟨_, by rw [if_neg hdrained, if_neg hsource, if_pos (by omega)]⟩

theorem exactOut_adjoint_ten :
    (0 : Int) ≤ 10 ∧ (0 : Int) ≤ 7 ∧
    amountFor 3 10 7 = .ok 8 ∧ swap 8 10 7 = .ok ⟨8, 3, 18, 4⟩ ∧
    swap 7 10 7 = .ok ⟨7, 2, 17, 5⟩ ∧
    IsLeast {amount | ∃ trade, swap amount 10 7 = .ok trade ∧ 3 ≤ trade.received} 8 := by
  obtain ⟨hin, hout⟩ := exactOut_adjoint (show (0 : Int) ≤ 10 by decide)
    (show (0 : Int) ≤ 7 by decide)
  exact ⟨by decide, by decide, (hout 3 (by decide)).1, hin 8 (by decide), hin 7 (by decide),
    (hout 3 (by decide)).2⟩

end PoolPricing.ConstantProduct
