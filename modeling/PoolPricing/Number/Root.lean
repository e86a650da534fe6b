set_option autoImplicit false

namespace PoolPricing.Number

/-- Doubles the root of a quarter, and adds one where that still fits. -/
def root (n : Nat) : Nat :=
  if n = 0 then 0
  else
    let r := 2 * root (n / 4)
    if (r + 1) * (r + 1) ≤ n then r + 1 else r
termination_by n
decreasing_by omega

theorem root_bounds (n : Nat) : root n * root n ≤ n ∧ n < (root n + 1) * (root n + 1) := by
  induction n using Nat.strongRecOn with
  | ind n ih =>
    rw [root]
    by_cases hn : n = 0
    · simp [hn]
    · have hquarter := ih (n / 4) (by omega)
      simp only [hn, if_false]
      generalize root (n / 4) = r at hquarter ⊢
      have hlow : 2 * r * (2 * r) = 4 * (r * r) := by
        rw [Nat.mul_mul_mul_comm]
      have hmid : (2 * r + 1) * (2 * r + 1) = 4 * (r * r) + 4 * r + 1 := by
        rw [Nat.add_mul, Nat.mul_add, hlow]; omega
      have hhigh : (2 * r + 1 + 1) * (2 * r + 1 + 1) = 4 * (r * r) + 8 * r + 4 := by
        rw [Nat.add_mul, Nat.mul_add, hmid]; omega
      have hnext : (r + 1) * (r + 1) = r * r + 2 * r + 1 := by
        rw [Nat.add_mul, Nat.mul_add]; omega
      split <;> omega

theorem root_sq_le (n : Nat) : root n * root n ≤ n := (root_bounds n).1

theorem lt_succ_root_sq (n : Nat) : n < (root n + 1) * (root n + 1) := (root_bounds n).2

end PoolPricing.Number
