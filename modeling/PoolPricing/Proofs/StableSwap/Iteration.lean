import PoolPricing.Proofs.Outcome
import PoolPricing.StableSwap.Solver
set_option autoImplicit false

namespace PoolPricing.StableSwap

open Checked

variable {step : Int → Checked Int} {P : Int → Int → Prop}

theorem iterate_of_far {steps : Nat} {previous current : Int}
    (h : close previous current = false) :
    iterate step (steps + 1) previous current = step current >>= iterate step steps current := by
  simp [iterate, h]

theorem iterate_of_close {steps : Nat} {previous current : Int}
    (h : close previous current = true) :
    iterate step steps previous current = .ok ⟨current, true⟩ := by
  cases steps with
  | zero => rw [iterate, h]; rfl
  | succ steps => rw [iterate, if_pos h]; rfl

theorem iterate_keeps
    (hstep : ∀ previous current, P previous current → close previous current = false →
      ∃ next, step current = .ok next ∧ P current next)
    (steps : Nat) {previous current : Int} (h : P previous current) :
    ∃ last solution, iterate step steps previous current = .ok solution ∧
      P last solution.value ∧ solution.converged = close last solution.value := by
  induction steps generalizing previous current with
  | zero => exact ⟨previous, _, rfl, h, rfl⟩
  | succ steps ih =>
    cases hclose : close previous current with
    | true => exact ⟨previous, _, iterate_of_close hclose, h, hclose.symm⟩
    | false =>
      obtain ⟨next, hnext, hkept⟩ := hstep previous current h hclose
      obtain ⟨last, solution, hsolution, hlast⟩ := ih hkept
      exact ⟨last, solution, by rw [iterate_of_far hclose, hnext]; exact hsolution, hlast⟩

theorem close_iff {previous current : Int} :
    close previous current = true ↔ previous - 1 ≤ current ∧ current ≤ previous + 1 := by
  simp only [close, decide_eq_true_eq]
  omega

theorem close_eq_false_iff {previous current : Int} :
    close previous current = false ↔ current < previous - 1 ∨ previous + 1 < current := by
  rw [← Bool.not_eq_true, close_iff]
  omega

/-- Where a step brings an iterate from each rung to the one below, and two iterates on the lowest
rung are close, the iteration converges within one step more than there are rungs below the first
iterate. -/
theorem iterate_converges {N : Nat → Int → Prop}
    (hstep : ∀ rung current, N rung current → ∃ next, step current = .ok next ∧ N (rung - 1) next)
    (hclose : ∀ previous current, N 0 previous → N 0 current → close previous current = true)
    {steps rung : Nat} (hsteps : rung < steps) (previous : Int) {current : Int}
    (h : N rung current) : ∃ value, iterate step steps previous current = .ok ⟨value, true⟩ := by
  induction steps generalizing rung previous current with
  | zero => omega
  | succ steps ih =>
    cases hstop : close previous current with
    | true => exact ⟨current, iterate_of_close hstop⟩
    | false =>
      obtain ⟨next, hnext, hnear⟩ := hstep rung current h
      rw [iterate_of_far hstop, hnext, Checked.ok_bind]
      cases rung with
      | zero => exact ⟨next, iterate_of_close (hclose current next h hnear)⟩
      | succ rung => exact ih (show rung + 1 - 1 < steps by omega) current hnear

theorem report_of_converged (solver : Solver) (value : Int) :
    report solver ⟨value, true⟩ = pure value := rfl

theorem report_outcome (solver : Solver) (solution : Solution) :
    (report solver solution).outcome = .ok solution.value := by
  rw [report]
  cases solution.converged <;> rfl

theorem converged_of_not_noted {solver : Solver} {solution : Solution}
    (h : .unconverged solver ∉ (report solver solution).events) : solution.converged = true := by
  cases hc : solution.converged with
  | true => rfl
  | false =>
    have hnoted : (report solver solution).events = [.unconverged solver] := by
      simp only [report, hc]
      rfl
    rw [hnoted] at h
    exact absurd (List.mem_singleton.mpr rfl) h

theorem report_quiet {solver : Solver} {solution : Solution}
    (h : (report solver solution).events = []) : solution.converged = true :=
  converged_of_not_noted (by rw [h]; exact List.not_mem_nil)

end PoolPricing.StableSwap
