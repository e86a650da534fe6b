import PoolPricing.Proofs.StableSwap.Balance
import PoolPricing.Proofs.StableSwap.Course
set_option autoImplicit false

namespace PoolPricing.StableSwap

open Checked

/-- The coefficients of the quadratic of which the balance is the root. -/
def linearTerm (amp x d : Int) : Int := x + d / (2 * amp) - d

def constantTerm (amp x d : Int) : Int := d ^ 3 / (4 * x * (2 * amp))

theorem constantTerm_eq (amp x d : Int) :
    constantTerm amp x d = d * d * d / (2 * (2 * (x * (2 * amp)))) := by
  unfold constantTerm
  ring_nf

/-- The whole part of the root: the greatest number from zero on that is not beyond it. -/
structure WholeRoot (linear constant root : Int) : Prop where
  nonneg : 0 ≤ root
  le_iff : ∀ t, 0 ≤ t → (t ≤ root ↔ quadratic linear constant t ≤ 0)

section

variable {linear constant : Int} (hconstant : 0 ≤ constant)
include hconstant

theorem quadratic_pos_of_le {t t' : Int} (ht : 0 < t) (hle : t ≤ t')
    (h : 0 < quadratic linear constant t) : 0 < quadratic linear constant t' := by
  unfold quadratic at h ⊢
  have hfactor : 0 < t + linear := by
    refine (mul_pos_iff_of_pos_left ht).mp ?_
    linarith
  have := Int.mul_le_mul hle (show t + linear ≤ t' + linear by omega) (Int.le_of_lt hfactor)
    (by omega)
  linarith

theorem wholeRoot_of_sign {root : Int} (hroot : 0 ≤ root)
    (hwithin : quadratic linear constant root ≤ 0)
    (hbeyond : 0 < quadratic linear constant (root + 1)) : WholeRoot linear constant root where
  nonneg := hroot
  le_iff t ht := by
    constructor
    · intro hle
      by_contra hpos
      obtain rfl | ht : t = 0 ∨ 0 < t := by omega
      · unfold quadratic at hpos
        omega
      · have := quadratic_pos_of_le hconstant ht hle (Int.not_le.mp hpos)
        omega
    · intro hnonpos
      by_contra hless
      have := quadratic_pos_of_le hconstant (by omega) (show root + 1 ≤ t by omega) hbeyond
      omega

theorem exists_wholeRoot (bound : Nat) (hbeyond : 0 < quadratic linear constant (bound + 1)) :
    ∃ root ≤ (bound : Int), WholeRoot linear constant root := by
  induction bound with
  | zero =>
    refine ⟨0, Int.le_refl _, wholeRoot_of_sign hconstant (Int.le_refl _) ?_ hbeyond⟩
    unfold quadratic
    omega
  | succ bound ih =>
    by_cases hpos : 0 < quadratic linear constant (bound + 1)
    · obtain ⟨root, hle, hroot⟩ := ih hpos
      exact ⟨root, by omega, hroot⟩
    · exact ⟨_, Int.le_refl _,
        wholeRoot_of_sign hconstant (by omega) (by push_cast; omega) hbeyond⟩

end

section

variable {amp x d : Int} (hamp : 1 ≤ amp) (hx : 0 < x) (hd : 0 ≤ d)
include hamp hx hd

theorem balanceIterate_of_reached {steps : Nat} {previous y : Int}
    (h : Reached (balanceStep (x + d / (2 * amp) - d)
      (d * d * d / (2 * (2 * (x * (2 * amp)))))) d steps previous y) :
    y = d ∨ BalanceIterate (x + d / (2 * amp) - d) (d * d * d / (2 * (2 * (x * (2 * amp)))))
      previous y := by
  have hconstant := constant_nonneg hamp hx hd
  refine h.keeps (P := fun previous y => y = d ∨ BalanceIterate _ _ previous y) (.inl rfl) ?_
  rintro previous y next hy hfar hnext
  obtain ⟨hden, hnonneg⟩ : 0 < 2 * y + (x + d / (2 * amp) - d) ∧ 0 ≤ y := by
    obtain rfl | hy := hy
    · exact ⟨first_divisor_pos hamp hx hd, hd⟩
    · exact ⟨hy.divisor hfar, hy.nonneg⟩
  rw [balanceStep_eq hden] at hnext
  cases hnext
  exact .inr (balanceIterate_next hnonneg hconstant hden)

theorem divisor_pos_of_reached {steps : Nat} {previous y : Int}
    (h : Reached (balanceStep (x + d / (2 * amp) - d)
      (d * d * d / (2 * (2 * (x * (2 * amp)))))) d steps previous y)
    (hfar : close previous y = false) : 0 < 2 * y + (x + d / (2 * amp) - d) := by
  obtain rfl | hy := balanceIterate_of_reached hamp hx hd h
  · exact first_divisor_pos hamp hx hd
  · exact hy.divisor hfar

end

/-- The solver of a balance divides by a positive number in every step and comes to an answer. The
answer is no less than the whole part of the root of the quadratic, and is that or one more unless
the solver was cut off. -/
theorem balance_brackets {amp x d : Int} (hamp : 1 ≤ amp) (hx : 1 ≤ x) (hd : 0 ≤ d) :
    (∀ steps previous y,
      Reached (balanceStep (linearTerm amp x d) (constantTerm amp x d)) d steps previous y →
      close previous y = false → 0 < 2 * y + linearTerm amp x d) ∧
    ∃ y, (balance amp x d).outcome = .ok y ∧
      (∃ steps previous,
        Reached (balanceStep (linearTerm amp x d) (constantTerm amp x d)) d steps previous y ∧
        steps ≤ maxSteps ∧ (close previous y = true ∨ steps = maxSteps)) ∧
      0 ≤ y ∧ 0 < quadratic (linearTerm amp x d) (constantTerm amp x d) (y + 1) ∧
      (.unconverged .balance ∉ (balance amp x d).events →
        y = 0 ∨ quadratic (linearTerm amp x d) (constantTerm amp x d) (y - 1) ≤ 0) ∧
      ∃ root, WholeRoot (linearTerm amp x d) (constantTerm amp x d) root ∧ root ≤ y ∧
        (.unconverged .balance ∉ (balance amp x d).events → y = root ∨ y = root + 1) := by
  rw [constantTerm_eq, linearTerm]
  have hconstant := constant_nonneg hamp hx hd
  obtain ⟨solution, hsolution, hnonneg, hbeyond, hnear⟩ := solveBalance_ok hamp hx hd
  obtain ⟨steps, previous, hreached, hcourse⟩ :=
    iterate_course ((solveBalance_eq hamp hx hd).symm.trans hsolution)
  have hquiet : .unconverged .balance ∉ (balance amp x d).events → solution.converged = true :=
    fun h => converged_of_not_noted ((Run.not_mem_events_bind h).2 _ hsolution)
  obtain ⟨bound, hbound⟩ := Int.eq_ofNat_of_zero_le hnonneg
  rw [hbound] at hbeyond
  obtain ⟨root, hle, hroot⟩ := exists_wholeRoot hconstant bound hbeyond
  rw [← hbound] at hbeyond hle
  refine ⟨fun _ _ _ h => divisor_pos_of_reached hamp hx hd h, solution.value,
    balance_outcome hsolution, ⟨steps, previous, hreached, hcourse⟩, hnonneg, hbeyond,
    fun h => hnear (hquiet h), root, hroot, hle, fun h => ?_⟩
  have hpositive := hroot.nonneg
  -- The answer is past the whole part by at most one, as its predecessor is not beyond the root.
  obtain hzero | hwithin := hnear (hquiet h)
  · omega
  · by_cases hone : 1 ≤ solution.value
    · have := (hroot.le_iff (solution.value - 1) (by omega)).mpr hwithin
      omega
    · omega

theorem balance_brackets_steep :
    (1 : Int) ≤ 1 ∧ (0 : Int) ≤ 47 ∧ (balance 1 1 47).outcome = .ok 126 ∧
    .unconverged .balance ∉ (balance 1 1 47).events ∧
    0 < quadratic (-23) 12977 (126 + 1) ∧ quadratic (-23) 12977 (126 - 1) ≤ 0 ∧
    ∃ root, WholeRoot (-23) 12977 root ∧ (126 = root ∨ 126 = root + 1) := by
  have hfound : (balance 1 1 47).outcome = .ok 126 := rfl
  have hquiet : .unconverged .balance ∉ (balance 1 1 47).events := by decide
  obtain ⟨_, y, hy, _, _, hbeyond, hnear, root, hroot, _, hwhole⟩ :=
    balance_brackets (show (1 : Int) ≤ 1 by decide) (show (1 : Int) ≤ 1 by decide)
      (show (0 : Int) ≤ 47 by decide)
  obtain rfl : 126 = y := Except.ok.inj (hfound.symm.trans hy)
  obtain hzero | hwithin := hnear hquiet
  · contradiction
  · exact ⟨by decide, by decide, hfound, hquiet, hbeyond, hwithin, root, hroot, hwhole hquiet⟩

end PoolPricing.StableSwap
