import PoolPricing.Proofs.StableSwap.Equation
import PoolPricing.Proofs.StableSwap.Iteration
set_option autoImplicit false

namespace PoolPricing.StableSwap

open Checked

def floorProduct (a b d : Int) : Int := d * d / (2 * a) * d / (2 * b)

def nextInvariant (amp a b d : Int) : Int :=
  d * (2 * amp * (a + b) + 2 * floorProduct a b d) /
    (d * (2 * amp - 1) + 3 * floorProduct a b d)

theorem solution_of_invariant {amp a b d : Int} (h : (invariant amp a b).outcome = .ok d) :
    ∃ solution, solveInvariant amp a b = .ok solution ∧ d = solution.value := by
  simp only [invariant, Run.outcome_bind, Run.outcome_liftM, bind_eq_ok] at h
  obtain ⟨solution, hsolution, h⟩ := h
  rw [report_outcome] at h
  cases h
  exact ⟨solution, hsolution, rfl⟩

section

variable {amp a b : Int} (hamp : 1 ≤ amp) (ha : 0 < a) (hb : 0 < b)

theorem floorProduct_nonneg {d : Int} (ha : 0 < a) (hb : 0 < b) (hd : 0 ≤ d) :
    0 ≤ floorProduct a b d := by
  have honce : 0 ≤ d * d / (2 * a) := Int.ediv_nonneg (mul_self_nonneg d) (by omega)
  exact Int.ediv_nonneg (Int.mul_nonneg honce hd) (by omega)

include ha hb in
theorem floorProduct_le {d : Int} (hd : 0 ≤ d) : 4 * a * b * floorProduct a b d ≤ d ^ 3 := by
  have hinner := Int.mul_ediv_self_le (x := d * d) (k := 2 * a) (by omega)
  have houter := Int.mul_ediv_self_le (x := d * d / (2 * a) * d) (k := 2 * b) (by omega)
  calc 4 * a * b * floorProduct a b d
      = 2 * a * (2 * b * (d * d / (2 * a) * d / (2 * b))) := by rw [floorProduct]; ring
    _ ≤ 2 * a * (d * d / (2 * a) * d) := Int.mul_le_mul_of_nonneg_left houter (by omega)
    _ = 2 * a * (d * d / (2 * a)) * d := by ring
    _ ≤ d * d * d := Int.mul_le_mul_of_nonneg_right hinner hd
    _ = d ^ 3 := by ring

theorem invariantProduct_eq (d : Int) (ha : 0 < a) (hb : 0 < b) :
    invariantProduct a b d = .ok (floorProduct a b d) := by
  have h2a : 0 < 2 * a := by omega
  have h2b : 0 < 2 * b := by omega
  rw [invariantProduct, floorDivide_of_pos _ h2a, ok_bind, floorDivide_of_pos _ h2b, floorProduct]

include hamp ha hb

theorem denominator_pos {d : Int} (hd : 0 < d) :
    0 < d * (2 * amp - 1) + 3 * floorProduct a b d := by
  have hp := floorProduct_nonneg ha hb (Int.le_of_lt hd)
  have hslope : 0 < 2 * amp - 1 := by omega
  have := Int.mul_pos hd hslope
  omega

theorem invariantStep_eq {d : Int} (hd : 0 < d) :
    invariantStep amp a b d = .ok (nextInvariant amp a b d) := by
  rw [invariantStep, invariantProduct_eq d ha hb, ok_bind,
    floorDivide_of_pos _ (denominator_pos hamp ha hb hd), nextInvariant]

/-- A number above the quotient of a step is above the exact invariant, whatever the product is
rounded down to. The square of `t - d` is what Newton's step gains on the curve. -/
theorem surplus_neg_of_step {d p t : Int} (hd : 0 < d)
    (hrange : 2 * (2 * amp - 1) * d ≤ 6 * amp * (a + b)) (hp : 0 ≤ p)
    (hproduct : 4 * a * b * p ≤ d ^ 3)
    (hstep : d * (2 * amp * (a + b) + 2 * p) < t * (d * (2 * amp - 1) + 3 * p)) :
    0 < t ∧ surplus amp a b t < 0 := by
  have hden : 0 < d * (2 * amp - 1) + 3 * p := by
    have hslope : 0 < 2 * amp - 1 := by omega
    have := Int.mul_pos hd hslope
    omega
  have hthird : 2 * d < 3 * t := by
    have hcover : 2 * d * (d * (2 * amp - 1) + 3 * p) ≤
        3 * (d * (2 * amp * (a + b) + 2 * p)) := by
      have := Int.mul_le_mul_of_nonneg_left hrange (Int.le_of_lt hd)
      linarith
    refine Int.lt_of_mul_lt_mul_right ?_ (Int.le_of_lt hden)
    linarith
  have hpos : 0 < t := by omega
  have hconvex : 0 ≤ d * ((t - d) ^ 2 * (t + 2 * d)) := by positivity
  have hrounding : 0 ≤ (d ^ 3 - 4 * a * b * p) * (3 * t - 2 * d) :=
    Int.mul_nonneg (by omega) (by omega)
  have hslope : 0 < 4 * a * b * (t * (d * (2 * amp - 1) + 3 * p) -
      d * (2 * amp * (a + b) + 2 * p)) := Int.mul_pos (by positivity) (by omega)
  refine ⟨hpos, ?_⟩
  by_contra hsurplus
  have := Int.mul_nonneg (Int.le_of_lt hd) (Int.not_lt.mp hsurplus)
  unfold surplus at this
  nlinarith

/-- An iterate in the range where the floors only lengthen a step, its exact position being above
the invariant once the lost fraction is added. -/
structure Iterate (amp a b d : Int) : Prop where
  pos : 0 < d
  range : 2 * (2 * amp - 1) * d ≤ 6 * amp * (a + b)
  above : surplus amp a b (d + 1) < 0

theorem iterate_start : Iterate amp a b (a + b) := by
  have hamp0 : 0 < amp := by omega
  have hsum : 0 < a + b := by omega
  refine ⟨hsum, ?_, ?_⟩
  · have := Int.mul_pos hamp0 hsum
    linarith
  · have hsquare : 4 * a * b ≤ (a + b) ^ 2 := by nlinarith [sq_nonneg (a - b)]
    have hcube := Int.mul_le_mul_of_nonneg_right hsquare (Int.le_of_lt hsum)
    have hproduct : 0 < 4 * a * b := by positivity
    unfold surplus
    nlinarith

theorem iterate_next {d : Int} (h : Iterate amp a b d) :
    Iterate amp a b (nextInvariant amp a b d) := by
  have hp := floorProduct_nonneg ha hb (Int.le_of_lt h.pos)
  have hden := denominator_pos hamp ha hb h.pos
  have hlow := Int.lt_ediv_add_one_mul_self
    (d * (2 * amp * (a + b) + 2 * floorProduct a b d)) hden
  have hhigh := Int.ediv_mul_le
    (d * (2 * amp * (a + b) + 2 * floorProduct a b d)) (Int.ne_of_gt hden)
  change nextInvariant amp a b d * _ ≤ _ at hhigh
  change _ < (nextInvariant amp a b d + 1) * _ at hlow
  obtain ⟨hpos, habove⟩ := surplus_neg_of_step hamp ha hb h.pos h.range hp
    (floorProduct_le ha hb (Int.le_of_lt h.pos)) hlow
  have hsq := four_mul_lt_sq hamp ha hb (Int.le_of_lt hpos) habove
  have hab : 1 ≤ a * b := Int.mul_pos ha hb
  refine ⟨?_, ?_, habove⟩
  · by_contra hzero
    nlinarith
  · have hann : 0 < 2 * amp - 1 := by omega
    have hsum : 0 < amp * (a + b) := Int.mul_pos (by omega) (by omega)
    have hshort := Int.mul_le_mul_of_nonneg_left h.range hp
    have hlong := Int.mul_le_mul_of_nonneg_left hhigh (Int.le_of_lt hann)
    have hleft := Int.mul_nonneg (Int.le_of_lt hsum) hp
    have hright := Int.mul_pos hsum (Int.mul_pos hann h.pos)
    refine Int.le_of_mul_le_mul_right ?_ hden
    linarith

theorem iterate_invariant {P : Int → Prop}
    (hP : ∀ d, Iterate amp a b d → P d → P (nextInvariant amp a b d)) (steps : Nat) {d : Int}
    (h : Iterate amp a b d) (hnow : P (nextInvariant amp a b d)) :
    ∃ last solution,
      iterate (invariantStep amp a b) steps d (nextInvariant amp a b d) = .ok solution ∧
      Iterate amp a b last ∧ solution.value = nextInvariant amp a b last ∧ P solution.value ∧
      solution.converged = close last solution.value := by
  have hstep : ∀ previous current,
      (Iterate amp a b previous ∧ current = nextInvariant amp a b previous ∧ P current) →
      close previous current = false → ∃ next, invariantStep amp a b current = .ok next ∧
        Iterate amp a b current ∧ next = nextInvariant amp a b current ∧ P next := by
    rintro previous _ ⟨hprevious, rfl, hcurrent⟩ _
    have hnext := iterate_next hamp ha hb hprevious
    exact ⟨_, invariantStep_eq hamp ha hb hnext.pos, hnext, rfl, hP _ hnext hcurrent⟩
  obtain ⟨last, solution, hsolution, ⟨hlast, hvalue, hkept⟩, hclose⟩ :=
    iterate_keeps hstep steps ⟨h, rfl, hnow⟩
  exact ⟨last, solution, hsolution, hlast, hvalue, hkept, hclose⟩

theorem solveInvariant_eq_iterate : solveInvariant amp a b =
    iterate (invariantStep amp a b) maxSteps 0 (a + b) := by
  have hamp' : amp ≠ 0 := by omega
  have hsum : a + b ≠ 0 := by omega
  have hnone : ¬(a = 0 ∨ b = 0) := by omega
  simp only [solveInvariant, requireNonnegative_of_nonneg _ (show 0 ≤ amp by omega),
    requireNonnegative_of_nonneg _ (Int.le_of_lt ha),
    requireNonnegative_of_nonneg _ (Int.le_of_lt hb), ok_bind, hamp', hsum, hnone, if_false]

theorem solveInvariant_eq : solveInvariant amp a b =
    iterate (invariantStep amp a b) 19 (a + b) (nextInvariant amp a b (a + b)) := by
  have hfar : close 0 (a + b) = false := close_eq_false_iff.mpr (by omega)
  rw [solveInvariant_eq_iterate hamp ha hb, maxSteps, iterate_of_far hfar,
    invariantStep_eq hamp ha hb (show 0 < a + b by omega), ok_bind]

/-- The solver stops, and where it stops is the step of a last iterate. -/
theorem invariant_ok :
    ∃ last d, (invariant amp a b).outcome = .ok d ∧ Iterate amp a b last ∧
      d = nextInvariant amp a b last ∧
      ((invariant amp a b).events = [] → close last d = true) := by
  obtain ⟨last, solution, hiterate, hlast, hvalue, _, hclose⟩ :=
    iterate_invariant hamp ha hb (P := fun _ => True) (fun _ _ _ => trivial) 19
      (iterate_start hamp ha hb) trivial
  have hsolution : solveInvariant amp a b = .ok solution := by
    rw [solveInvariant_eq hamp ha hb, hiterate]
  refine ⟨last, solution.value, ?_, hlast, hvalue, fun hquiet => ?_⟩
  · simp only [invariant, Run.outcome_bind, Run.outcome_liftM, hsolution, ok_bind]
    exact report_outcome .invariant solution
  · obtain ⟨_, hquiet⟩ := Run.events_bind_eq_nil hquiet hsolution
    rw [← hclose]
    exact report_quiet hquiet

/-- Whether or not the solver converged, one more than its answer is above the exact invariant. -/
theorem invariant_above {d : Int} (h : (invariant amp a b).outcome = .ok d) :
    0 < d ∧ surplus amp a b (d + 1) < 0 := by
  obtain ⟨last, found, hfound, hlast, hvalue, _⟩ := invariant_ok hamp ha hb
  rw [h] at hfound
  cases hfound
  have hnext := hvalue ▸ iterate_next hamp ha hb hlast
  exact ⟨hnext.pos, hnext.above⟩

end

theorem invariant_cases {amp : Int} (hamp : 1 ≤ amp) (a b : Int) :
    (0 < a ∧ 0 < b) ∨ (a = 0 ∧ b = 0 ∧ (invariant amp a b).outcome = .ok 0) ∨
      ∃ fault, fault ≠ .invariantDecreased ∧ (invariant amp a b).outcome = .error fault := by
  by_cases hpos : 0 < a ∧ 0 < b
  · exact .inl hpos
  refine .inr ?_
  simp only [invariant, Run.outcome_bind, Run.outcome_liftM, solveInvariant,
    requireNonnegative_of_nonneg _ (show 0 ≤ amp by omega), ok_bind, show amp ≠ 0 by omega,
    if_false]
  by_cases ha : a < 0
  · refine .inr ⟨.invalid (.negative "amount_a"), by simp, ?_⟩
    simp [requireNonnegative, ha]
  by_cases hb : b < 0
  · refine .inr ⟨.invalid (.negative "amount_b"), by simp, ?_⟩
    rw [requireNonnegative_of_nonneg _ (Int.not_lt.mp ha)]
    simp [requireNonnegative, hb]
  simp only [requireNonnegative_of_nonneg _ (Int.not_lt.mp ha),
    requireNonnegative_of_nonneg _ (Int.not_lt.mp hb), ok_bind]
  by_cases hzero : a + b = 0
  · refine .inl ⟨by omega, by omega, ?_⟩
    simp only [hzero, if_true]
    rfl
  · refine .inr ⟨.outOfDomain .invariantNeedsBothBalances, by simp, ?_⟩
    simp [hzero, show a = 0 ∨ b = 0 by omega]

theorem invariant_not_decreased {amp : Int} (hamp : 1 ≤ amp) (a b : Int) :
    (invariant amp a b).outcome ≠ .error .invariantDecreased := by
  intro h
  obtain ⟨ha, hb⟩ | ⟨_, _, hzero⟩ | ⟨fault, hother, hfault⟩ := invariant_cases hamp a b
  · obtain ⟨_, _, hok, _⟩ := invariant_ok hamp ha hb
    rw [h] at hok
    contradiction
  · rw [h] at hzero
    contradiction
  · rw [h] at hfault
    cases hfault
    contradiction

theorem positive_or_zero {amp : Int} (hamp : 1 ≤ amp) {a b d : Int}
    (h : (invariant amp a b).outcome = .ok d) : (0 < a ∧ 0 < b) ∨ d = 0 := by
  obtain hpositive | ⟨_, _, hzero⟩ | ⟨_, _, hfault⟩ := invariant_cases hamp a b
  · exact .inl hpositive
  · rw [h] at hzero
    cases hzero
    exact .inr rfl
  · rw [h] at hfault
    contradiction

theorem positive_of_product {amp : Int} (hamp : 1 ≤ amp) {a b d : Int}
    (h : (invariant amp a b).outcome = .ok d) (hproduct : 0 < a * b) : 0 < a ∧ 0 < b := by
  obtain hpositive | ⟨rfl, rfl, _⟩ | ⟨_, _, hfault⟩ := invariant_cases hamp a b
  · exact hpositive
  · contradiction
  · rw [h] at hfault
    contradiction

end PoolPricing.StableSwap
