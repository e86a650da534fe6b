import PoolPricing.Proofs.StableSwap.Equation
import PoolPricing.Proofs.StableSwap.Iteration
set_option autoImplicit false

/-!
The solver of a balance. It never meets a divisor that is not positive, and one more than its answer
always lies beyond the root of the quadratic it solves, hence above the balance that the equation of
the stable curve asks for. Where it was not cut off, one less than its answer does not lie beyond
the root; and since the equation does not tell the two balances apart, the answer for one balance
then bounds the answer for the other (`le_balance_of_lt`).
-/

namespace PoolPricing.StableSwap

open Checked

/-- The quadratic whose positive root the solver looks for. -/
def quadratic (linear constant t : Int) : Int := t * t + linear * t - constant

def nextBalance (linear constant y : Int) : Int := (y * y + constant) / (2 * y + linear)

theorem balanceStep_eq {linear constant y : Int} (h : 0 < 2 * y + linear) :
    balanceStep linear constant y = .ok (nextBalance linear constant y) := by
  rw [balanceStep, if_neg (Int.not_le.mpr h), floorDivide_of_pos _ h, nextBalance]

theorem quadratic_pos_of_step {linear constant y t : Int}
    (h : y * y + constant < t * (2 * y + linear)) : 0 < quadratic linear constant t := by
  have hsquare : quadratic linear constant t =
      (t - y) * (t - y) + (t * (2 * y + linear) - (y * y + constant)) := by
    unfold quadratic
    ring
  have := mul_self_nonneg (t - y)
  omega

theorem quadratic_pred_of_close {linear constant y next : Int} (hconstant : 0 ≤ constant)
    (hnext : 0 ≤ next) (hden : 0 < 2 * y + linear)
    (hlow : y * y + constant < (next + 1) * (2 * y + linear))
    (hhigh : next * (2 * y + linear) ≤ y * y + constant) (hclose : close y next = true) :
    next = 0 ∨ quadratic linear constant (next - 1) ≤ 0 := by
  rw [close_iff] at hclose
  unfold quadratic
  obtain rfl | rfl | rfl : next = y + 1 ∨ next = y ∨ next = y - 1 := by omega
  · right; linarith
  · right; linarith
  · by_cases hsteep : 4 ≤ 2 * y + linear
    · right; linarith
    -- a divisor this small is met at one and two alone
    have hsmall : y < 3 := by
      by_contra hlarge
      have := Int.mul_le_mul_of_nonneg_left (show 2 * y + linear ≤ 3 by omega)
        (show 0 ≤ y by omega)
      have := Int.mul_le_mul_of_nonneg_left (Int.not_lt.mp hlarge) (show 0 ≤ y by omega)
      linarith
    obtain rfl | rfl : y = 1 ∨ y = 2 := by omega
    · exact .inl rfl
    · right; linarith

/-- An iterate of the balance after at least one step. The next divisor is positive unless the
iteration stops here, and where it stops here the root is near. -/
structure BalanceIterate (linear constant previous current : Int) : Prop where
  nonneg : 0 ≤ current
  beyond : 0 < quadratic linear constant (current + 1)
  divisor : close previous current = false → 0 < 2 * current + linear
  near : close previous current = true →
    current = 0 ∨ quadratic linear constant (current - 1) ≤ 0

theorem balanceIterate_next {linear constant y : Int} (hy : 0 ≤ y) (hconstant : 0 ≤ constant)
    (hden : 0 < 2 * y + linear) :
    BalanceIterate linear constant y (nextBalance linear constant y) := by
  have hlow := Int.lt_ediv_add_one_mul_self (y * y + constant) hden
  have hhigh := Int.ediv_mul_le (y * y + constant) (Int.ne_of_gt hden)
  have hnonneg : 0 ≤ nextBalance linear constant y :=
    Int.ediv_nonneg (by nlinarith) (Int.le_of_lt hden)
  change _ < (nextBalance linear constant y + 1) * _ at hlow
  change nextBalance linear constant y * _ ≤ _ at hhigh
  generalize nextBalance linear constant y = next at *
  have hbeyond := quadratic_pos_of_step hlow
  refine ⟨hnonneg, hbeyond, fun hfar => ?_,
    quadratic_pred_of_close hconstant hnonneg hden hlow hhigh⟩
  by_contra hstuck
  have hlinear : 0 ≤ next + linear := by
    unfold quadratic at hbeyond
    nlinarith
  -- the divisor vanishes only at zero, which is reached from one
  have hzero : next = 0 ∧ linear = 0 := by omega
  obtain ⟨rfl, rfl⟩ := hzero
  have hone : y = 1 := by nlinarith
  subst hone
  rw [close_eq_false_iff] at hfar
  omega

/-- The surplus as the solver of a balance sees it, the quotient of the invariant being rounded
down. -/
def floorSurplus (amp x y d : Int) : Int :=
  8 * amp * x * y * (x + y + d / (2 * amp) - d) - d * d * d

theorem floorSurplus_comm (amp x y d : Int) : floorSurplus amp x y d = floorSurplus amp y x d := by
  unfold floorSurplus
  ring

theorem floorSurplus_le {amp x y : Int} (hamp : 1 ≤ amp) (hx : 0 ≤ x) (hy : 0 ≤ y) (d : Int) :
    floorSurplus amp x y d ≤ surplus amp x y d := by
  have hshare := Int.mul_ediv_self_le (x := d) (k := 2 * amp) (by omega)
  have hlinear := Int.mul_le_mul_of_nonneg_left hshare (show 0 ≤ 4 * x * y by positivity)
  unfold floorSurplus surplus
  linarith

theorem quadratic_pos_iff {amp x : Int} (hamp : 1 ≤ amp) (hx : 0 < x) (d t : Int) :
    0 < quadratic (x + d / (2 * amp) - d) (d * d * d / (2 * (2 * (x * (2 * amp))))) t ↔
      0 < floorSurplus amp x t d := by
  have hscale : 0 < 2 * (2 * (x * (2 * amp))) := by positivity
  have hexpand : floorSurplus amp x t d = (t * t + (x + d / (2 * amp) - d) * t) *
      (2 * (2 * (x * (2 * amp)))) - d * d * d := by
    unfold floorSurplus
    ring
  rw [quadratic, hexpand, Int.sub_pos, Int.sub_pos, Int.ediv_lt_iff_lt_mul hscale]

theorem floorSurplus_pos_of_le {amp x y y' d : Int} (hamp : 1 ≤ amp) (hx : 0 < x) (hy : 0 < y)
    (hd : 0 ≤ d) (hle : y ≤ y') (h : 0 < floorSurplus amp x y d) : 0 < floorSurplus amp x y' d := by
  have hcube : 0 ≤ d * d * d := by positivity
  have hproduct : 0 < 8 * amp * x * y := by positivity
  unfold floorSurplus at h ⊢
  have hfactor : 0 < x + y + d / (2 * amp) - d :=
    (mul_pos_iff_of_pos_left hproduct).mp (by omega)
  have hgrown : 8 * amp * x * y ≤ 8 * amp * x * y' :=
    Int.mul_le_mul_of_nonneg_left hle (by positivity)
  have hshifted : x + y + d / (2 * amp) - d ≤ x + y' + d / (2 * amp) - d := by omega
  have := Int.mul_le_mul hgrown hshifted (Int.le_of_lt hfactor) (by omega)
  omega

theorem balance_outcome {amp x d : Int} {solution : Solution}
    (h : solveBalance amp x d = .ok solution) : (balance amp x d).outcome = .ok solution.value := by
  simp only [balance, Run.outcome_bind, Run.outcome_liftM, h, ok_bind]
  exact report_outcome .balance solution

section

variable {amp x d : Int} (hamp : 1 ≤ amp) (hx : 0 < x) (hd : 0 ≤ d)
include hamp hx hd

theorem constant_nonneg : 0 ≤ d * d * d / (2 * (2 * (x * (2 * amp)))) := by
  have hscale : 0 < 2 * (2 * (x * (2 * amp))) := by positivity
  exact Int.ediv_nonneg (by positivity) (Int.le_of_lt hscale)

theorem first_divisor_pos : 0 < 2 * d + (x + d / (2 * amp) - d) := by
  have hshare : 0 ≤ d / (2 * amp) := Int.ediv_nonneg hd (by omega)
  omega

theorem solveBalance_eq : solveBalance amp x d =
    iterate (balanceStep (x + d / (2 * amp) - d) (d * d * d / (2 * (2 * (x * (2 * amp))))))
      maxSteps 0 d := by
  have hscale : 0 < 2 * (2 * (x * (2 * amp))) := by positivity
  simp only [solveBalance, requireNonnegative_of_nonneg _ (show 0 ≤ amp by omega),
    requireNonnegative_of_nonneg _ (Int.le_of_lt hx), requireNonnegative_of_nonneg _ hd, ok_bind,
    show amp ≠ 0 by omega, Int.ne_of_gt hx, if_false,
    floorDivide_of_pos _ (show 0 < 2 * amp by omega), floorDivide_of_pos _ hscale]

/-- The solver always has an answer, and one more than it is beyond the root. One less is not,
unless the solver was cut off. -/
theorem solveBalance_ok :
    ∃ solution, solveBalance amp x d = .ok solution ∧ 0 ≤ solution.value ∧
      0 < quadratic (x + d / (2 * amp) - d) (d * d * d / (2 * (2 * (x * (2 * amp)))))
        (solution.value + 1) ∧
      (solution.converged = true → solution.value = 0 ∨
        quadratic (x + d / (2 * amp) - d) (d * d * d / (2 * (2 * (x * (2 * amp)))))
          (solution.value - 1) ≤ 0) := by
  have hconstant := constant_nonneg hamp hx hd
  rw [solveBalance_eq hamp hx hd]
  cases hclose : close 0 d with
  | true =>
    obtain hsmall : d = 0 ∨ d = 1 := by
      rw [close_iff] at hclose
      omega
    have hscale : 8 ≤ 2 * (2 * (x * (2 * amp))) := by nlinarith
    have hzero : d * d * d / (2 * (2 * (x * (2 * amp)))) = 0 ∧ d / (2 * amp) = 0 := by
      obtain rfl | rfl := hsmall <;>
        exact ⟨Int.ediv_eq_zero_of_lt (by decide) (by omega),
          Int.ediv_eq_zero_of_lt (by decide) (by omega)⟩
    refine ⟨_, iterate_of_close hclose, hd, ?_, fun _ => ?_⟩
    · rw [hzero.1, hzero.2]
      unfold quadratic
      nlinarith
    · rw [hzero.1, hzero.2]
      unfold quadratic
      obtain rfl | rfl := hsmall
      · exact .inl rfl
      · right; simp
  | false =>
    have hden := first_divisor_pos hamp hx hd
    rw [maxSteps, iterate_of_far hclose, balanceStep_eq hden, ok_bind]
    obtain ⟨last, solution, hsolution, hlast, hstop⟩ :=
      iterate_keeps (P := BalanceIterate (x + d / (2 * amp) - d)
        (d * d * d / (2 * (2 * (x * (2 * amp))))))
        (fun previous current h hfar =>
          ⟨_, balanceStep_eq (h.divisor hfar),
            balanceIterate_next h.nonneg hconstant (h.divisor hfar)⟩)
        19 (balanceIterate_next hd hconstant hden)
    exact ⟨solution, hsolution, hlast.nonneg, hlast.beyond,
      fun hconverged => hlast.near (hstop ▸ hconverged)⟩

theorem balance_ok :
    ∃ left, (balance amp x d).outcome = .ok left ∧ 0 ≤ left ∧
      0 < surplus amp x (left + 1) d := by
  obtain ⟨solution, hsolution, hnonneg, hbeyond, _⟩ := solveBalance_ok hamp hx hd
  rw [quadratic_pos_iff hamp hx] at hbeyond
  exact ⟨solution.value, balance_outcome hsolution, hnonneg, Int.lt_of_lt_of_le hbeyond
    (floorSurplus_le hamp (Int.le_of_lt hx) (by omega) d)⟩

end

theorem le_balance_of_lt {amp x y d needed left : Int} (hamp : 1 ≤ amp) (hx : 0 < x) (hy : 0 < y)
    (hd : 0 ≤ d) (hneeded : (balance amp y d).outcome = .ok needed)
    (hquiet : .unconverged .balance ∉ (balance amp y d).events) (hlt : x < needed)
    (hleft : (balance amp x d).outcome = .ok left) : y ≤ left := by
  obtain ⟨atY, hatY, _, _, hnear⟩ := solveBalance_ok hamp hy hd
  obtain ⟨atX, hatX, hnonneg, hbeyond, _⟩ := solveBalance_ok hamp hx hd
  obtain rfl : needed = atY.value := Except.ok.inj (hneeded.symm.trans (balance_outcome hatY))
  obtain rfl : left = atX.value := Except.ok.inj (hleft.symm.trans (balance_outcome hatX))
  by_contra hless
  rw [quadratic_pos_iff hamp hx] at hbeyond
  have hgrown := floorSurplus_pos_of_le hamp hx (show 0 < atX.value + 1 by omega) hd
    (Int.add_one_le_of_lt (Int.not_le.mp hless)) hbeyond
  rw [floorSurplus_comm] at hgrown
  have hbelow := floorSurplus_pos_of_le hamp hy hx hd (Int.le_sub_one_of_lt hlt) hgrown
  rw [← quadratic_pos_iff hamp hy] at hbelow
  have hconverged := converged_of_not_noted ((Run.not_mem_events_bind hquiet).2 _ hatY)
  obtain hzero | hnear := hnear hconverged <;> omega

end PoolPricing.StableSwap
