import PoolPricing.Proofs.StableSwap.Iteration
set_option autoImplicit false

namespace PoolPricing.StableSwap

/-- What an iteration has reached after so many steps, with the iterate before it. A step is taken
only from an iterate that is not close to the one before. -/
inductive Reached (step : Int → Checked Int) (start : Int) : Nat → Int → Int → Prop where
  | start : Reached step start 0 0 start
  | next {steps : Nat} {previous current next : Int} (h : Reached step start steps previous current)
      (far : close previous current = false) (ok : step current = .ok next) :
      Reached step start (steps + 1) current next

variable {step : Int → Checked Int} {start : Int} {P : Int → Int → Prop}

theorem Reached.keeps (hstart : P 0 start)
    (hstep : ∀ previous current next, P previous current → close previous current = false →
      step current = .ok next → P current next)
    {steps : Nat} {previous current : Int} (h : Reached step start steps previous current) :
    P previous current := by
  induction h with
  | start => exact hstart
  | next _ far ok ih => exact hstep _ _ _ ih far ok

theorem reached_of_iterate {allowed taken : Nat} {previous current : Int} {solution : Solution}
    (h : Reached step start taken previous current)
    (hsolution : iterate step allowed previous current = .ok solution) :
    ∃ steps last, Reached step start steps last solution.value ∧ steps ≤ taken + allowed ∧
      solution.converged = close last solution.value ∧
      (solution.converged = false → steps = taken + allowed) := by
  induction allowed generalizing taken previous current with
  | zero =>
    cases hsolution
    exact ⟨taken, previous, h, Nat.le_refl _, rfl, fun _ => rfl⟩
  | succ allowed ih =>
    cases hclose : close previous current with
    | true =>
      rw [iterate_of_close hclose] at hsolution
      cases hsolution
      exact ⟨taken, previous, h, by omega, hclose.symm, fun hfar => nomatch hfar⟩
    | false =>
      rw [iterate_of_far hclose] at hsolution
      obtain ⟨next, hnext, hsolution⟩ := Checked.bind_eq_ok.mp hsolution
      obtain ⟨steps, last, hreached, hsteps, hconverged, hcut⟩ := ih (h.next hclose hnext) hsolution
      exact ⟨steps, last, hreached, by omega, hconverged, fun hfar => by
        have := hcut hfar
        omega⟩

/-- The answer of an iteration is on its course: the last iterate of all that are allowed, or close
to the one before it. -/
theorem iterate_course {allowed : Nat} {solution : Solution}
    (h : iterate step allowed 0 start = .ok solution) :
    ∃ steps previous, Reached step start steps previous solution.value ∧ steps ≤ allowed ∧
      (close previous solution.value = true ∨ steps = allowed) := by
  obtain ⟨steps, previous, hreached, hsteps, hconverged, hcut⟩ := reached_of_iterate .start h
  refine ⟨steps, previous, hreached, by omega, ?_⟩
  rw [← hconverged]
  cases hclose : solution.converged with
  | true => exact .inl rfl
  | false => exact .inr (by have := hcut hclose; omega)

theorem last_step_of_converged {allowed : Nat} {value : Int} (hfar : close 0 start = false)
    (h : iterate step allowed 0 start = .ok ⟨value, true⟩) :
    ∃ steps previous last, Reached step start steps previous last ∧ step last = .ok value ∧
      close last value = true := by
  obtain ⟨steps, last, hreached, _, hclose, _⟩ := reached_of_iterate .start h
  cases hreached with
  | start => rw [hfar] at hclose; contradiction
  | next hbefore _ hstep => exact ⟨_, _, last, hbefore, hstep, hclose.symm⟩

end PoolPricing.StableSwap
