import PoolPricing.Proofs.StableSwap.Balance
import PoolPricing.Proofs.StableSwap.Deposit
set_option autoImplicit false

/-!
What a withdrawal in one token leaves of a stable pool. The invariant is reduced in proportion to
the pool tokens burned, the reduction being rounded down; what is paid is the base balance less a
fee and less the solver's answer for a quote balance that another fee has made smaller. One more
than such an answer lies above the curve, whether or not the solver converged, so that the pool is
short of the reduced invariant by one unit of the base token at most (`withdrawOne_keeps`).
-/

namespace PoolPricing.StableSwap

open Checked

/-- The invariant that is left when pool tokens are burned. -/
def keptInvariant (d0 supply burned : Int) : Int := d0 - burned * d0 / supply

theorem le_keptInvariant {supply : Int} (hsupply : 0 < supply) (d0 burned : Int) :
    d0 * (supply - burned) ≤ keptInvariant d0 supply burned * supply := by
  have := Int.ediv_mul_le (burned * d0) (Int.ne_of_gt hsupply)
  unfold keptInvariant
  linarith

theorem pos_of_balance {amp x d left : Int} (h : (balance amp x d).outcome = .ok left) :
    0 < x ∧ 0 ≤ d := by
  simp only [balance, solveBalance, Run.outcome_bind, Run.outcome_liftM, refuse_eq, error_bind,
    bind_eq_ok, guard_eq_ok, requireNonnegative_eq_ok] at h
  obtain ⟨_, ⟨_, _, _, hx, _, hd, _, hsome, _⟩, _⟩ := h
  exact ⟨by omega, hd⟩

theorem surplus_pos_of_le_of_le {amp x x' y y' d : Int} (hamp : 1 ≤ amp) (hx : 0 < x) (hy : 0 < y)
    (hd : 0 ≤ d) (hxx' : x ≤ x') (hyy' : y ≤ y') (h : 0 < surplus amp x y d) :
    0 < surplus amp x' y' d := by
  have hgrown := surplus_pos_of_le hamp hx hy hd hxx' h
  rw [surplus_comm] at hgrown ⊢
  exact surplus_pos_of_le hamp hy (by omega) hd hyy' hgrown

section

variable {amp numerator denominator supply base quote burned : Int}

theorem release_ok {expected : Release} (hsupply : 0 < supply)
    (h : (release amp supply base quote burned).outcome = .ok expected) :
    ∃ d0, (invariant amp base quote).outcome = .ok d0 ∧
      expected.invariant = keptInvariant d0 supply burned := by
  simp only [release, floorDivide_of_pos _ hsupply, Run.outcome_bind, Run.outcome_liftM,
    Run.outcome_ite, Run.outcome_throw, Run.outcome_pure, ok_bind, error_bind, bind_eq_ok,
    guard_eq_ok, Except.ok.injEq] at h
  obtain ⟨d0, hd0, _, _, _, _, _, _, _, rfl⟩ := h
  exact ⟨d0, hd0, rfl⟩

theorem withdrawOne_ok {result : Withdrawal} (hnumerator : 0 ≤ numerator) (hburned : 0 < burned)
    (h : (withdrawOne amp numerator denominator supply base quote burned).outcome = .ok result) :
    0 < supply ∧ 0 ≤ result.amount ∧ ∃ d0 baseFee quoteFee left, 0 ≤ baseFee ∧ 0 ≤ quoteFee ∧
      (invariant amp base quote).outcome = .ok d0 ∧
      (balance amp (quote - quoteFee) (keptInvariant d0 supply burned)).outcome = .ok left ∧
      result.amount = base - baseFee - left := by
  simp only [withdrawOne, Int.ne_of_gt hburned, if_false, Run.outcome_bind, Run.outcome_liftM,
    Run.outcome_ite, Run.outcome_throw, Run.outcome_pure, error_bind, bind_eq_ok, guard_eq_ok,
    Except.ok.injEq, requireNonnegative_eq_ok, imbalanceFee_eq_ok] at h
  obtain ⟨_, _, _, _, _, _, _, _, hpool, expected, hexpected, _, ⟨hbase, hdenominator, rfl⟩, _,
    ⟨hquote, _, rfl⟩, left, hleft, hpaid, rfl⟩ := h
  have hsupply : 0 < supply := by omega
  obtain ⟨d0, hd0, hkept⟩ := release_ok hsupply hexpected
  rw [hkept] at hleft
  exact ⟨hsupply, Int.not_lt.mp hpaid, d0, _, _, _,
    imbalanceFee_nonneg hbase hnumerator hdenominator,
    imbalanceFee_nonneg hquote hnumerator hdenominator, hd0, hleft, rfl⟩

/-- A withdrawal of something pays no more than there is and reduces the invariant by no more than
in proportion; with one more unit of the base token, what it leaves is above the curve of the
reduced invariant. -/
theorem withdrawOne_keeps {result : Withdrawal} (hamp : 1 ≤ amp) (hnumerator : 0 ≤ numerator)
    (hburned : 0 < burned)
    (h : (withdrawOne amp numerator denominator supply base quote burned).outcome = .ok result) :
    ∃ d0, (invariant amp base quote).outcome = .ok d0 ∧
      0 ≤ result.amount ∧ result.amount ≤ base ∧
      d0 * (supply - burned) ≤ keptInvariant d0 supply burned * supply ∧
      0 < surplus amp quote (base - result.amount + 1) (keptInvariant d0 supply burned) := by
  obtain ⟨hsupply, hpaid, d0, baseFee, quoteFee, left, hbaseFee, hquoteFee, hd0, hleft, hamount⟩ :=
    withdrawOne_ok hnumerator hburned h
  obtain ⟨hrest, hkept⟩ := pos_of_balance hleft
  obtain ⟨found, hfound, hnonneg, habove⟩ := balance_ok hamp hrest hkept
  obtain rfl : left = found := Except.ok.inj (hleft.symm.trans hfound)
  -- both fees stay in the pool, so either balance is at least the one that the solver spoke of
  refine ⟨d0, hd0, hpaid, by omega, le_keptInvariant hsupply d0 burned, ?_⟩
  exact surplus_pos_of_le_of_le hamp hrest (by omega) hkept (by omega) (by omega) habove

end

end PoolPricing.StableSwap
