import PoolPricing.Proofs.StableSwap.Root
set_option autoImplicit false

/-!
How fast the solver of a balance converges. Past the root, the distance of an iterate from it is a
part of the iterate, and a step squares that part (`excess_mul_sq_le`); so a part below one is soon
too small to be seen. Where the root is a whole number, the solver comes to it and not to the number
above (`balance_exact`).
-/

namespace PoolPricing.StableSwap

open Checked

section

variable {linear constant root y : Int} (hconstant : 0 ≤ constant)
  (hroot : WholeRoot linear constant root)
include hroot

theorem WholeRoot.beyond : 0 < quadratic linear constant (root + 1) := by
  have hnonneg := hroot.nonneg
  by_contra hwithin
  have := (hroot.le_iff (root + 1) (by omega)).mpr (Int.not_lt.mp hwithin)
  omega

theorem WholeRoot.le_of_beyond (hy : 0 ≤ y) (h : 0 < quadratic linear constant (y + 1)) :
    root ≤ y := by
  by_contra hless
  have := (hroot.le_iff (y + 1) (by omega)).mp (by omega)
  omega

theorem excess_mul_divisor_lt (hden : 0 < 2 * y + linear) :
    (nextBalance linear constant y - (root + 1)) * (2 * y + linear) < (y - (root + 1)) ^ 2 := by
  have hbeyond := hroot.beyond
  have hstep := Int.ediv_mul_le (y * y + constant) (Int.ne_of_gt hden)
  change nextBalance linear constant y * _ ≤ _ at hstep
  unfold quadratic at hbeyond
  linarith

include hconstant

theorem WholeRoot.slope_pos : 0 < root + 1 + linear := by
  have hbeyond := hroot.beyond
  have hnonneg := hroot.nonneg
  unfold quadratic at hbeyond
  refine (mul_pos_iff_of_pos_left (show 0 < root + 1 by omega)).mp ?_
  linarith

theorem WholeRoot.divisor_pos (hone : 1 ≤ root) (hy : root ≤ y) : 0 < 2 * y + linear := by
  have := hroot.slope_pos hconstant
  omega

theorem nextBalance_le_succ (hone : 1 ≤ root) (hy : root ≤ y) (hnear : y ≤ root + 1) :
    nextBalance linear constant y ≤ root + 1 := by
  have hden := hroot.divisor_pos hconstant hone hy
  have hexcess := excess_mul_divisor_lt hroot hden
  by_contra hpast
  have hdistance : (y - (root + 1)) ^ 2 ≤ 1 := by
    obtain rfl | rfl : y = root ∨ y = root + 1 := by omega
    · linarith
    · linarith
  have := Int.mul_le_mul_of_nonneg_right
    (show 1 ≤ nextBalance linear constant y - (root + 1) by omega) (Int.le_of_lt hden)
  omega

/-- What part of an iterate its distance past the root is: the next part is no more than the square
of this one. -/
theorem excess_mul_sq_le (hone : 1 ≤ root) (hpast : root + 1 ≤ y)
    (hnext : 0 ≤ nextBalance linear constant y) :
    (nextBalance linear constant y - (root + 1)) * y ^ 2 ≤
      (y - (root + 1)) ^ 2 * nextBalance linear constant y := by
  have hexcess := excess_mul_divisor_lt hroot
    (hroot.divisor_pos hconstant hone (show root ≤ y by omega))
  have hslope := hroot.slope_pos hconstant
  generalize nextBalance linear constant y = next at *
  obtain ⟨e, rfl⟩ : ∃ e, y = root + 1 + e := ⟨y - (root + 1), by ring⟩
  obtain ⟨e', rfl⟩ : ∃ e', next = root + 1 + e' := ⟨next - (root + 1), by ring⟩
  simp only [add_sub_cancel_left] at hexcess ⊢
  by_cases hbeyond : 0 < e'
  · have hdivisor : 2 * e + (root + 1) ≤ 2 * (root + 1 + e) + linear := by omega
    have hscaled := Int.mul_le_mul_of_nonneg_left hdivisor (Int.le_of_lt hbeyond)
    have hpart : e' * (2 * e + (root + 1)) ≤ e ^ 2 := by linarith
    have := Int.mul_le_mul_of_nonneg_right hpart (show 0 ≤ root + 1 by omega)
    linarith
  · have hleft := Int.mul_nonneg (show 0 ≤ -e' by omega) (sq_nonneg (root + 1 + e))
    have hright := Int.mul_nonneg (sq_nonneg e) hnext
    linarith

end

/-- An iterate on a rung of the way to the root: its distance past the root is a part of it which,
squared once for each rung, is too small to be seen. -/
structure BalanceNear (root : Int) (rung : Nat) (y : Int) : Prop where
  root_le : root ≤ y
  part : ∃ part whole : Int, 0 ≤ part ∧ 0 ≤ whole ∧ whole * (y - (root + 1)) ≤ part * y ∧
    part ^ 2 ^ rung * (root + 2) < whole ^ 2 ^ rung

theorem BalanceNear.le_succ {root y : Int} (hroot : 0 ≤ root) (h : BalanceNear root 0 y) :
    y ≤ root + 1 := by
  obtain ⟨part, whole, hpart, _, hnear, hsmall⟩ := h.part
  simp only [pow_zero, pow_one] at hsmall
  by_contra hpast
  have hpartRoot : 0 ≤ part * (root + 1) := Int.mul_nonneg hpart (by omega)
  have hrest : part * (root + 1) < whole - part := by linarith
  have hone : 1 ≤ y - (root + 1) := by omega
  have := Int.mul_le_mul_of_nonneg_left hone (show 0 ≤ whole - part by omega)
  linarith

theorem close_of_balanceNear {root previous current : Int} (hroot : 0 ≤ root)
    (hprevious : BalanceNear root 0 previous) (hcurrent : BalanceNear root 0 current) :
    close previous current = true := by
  have hlow := hprevious.root_le
  have hhigh := hprevious.le_succ hroot
  have hlow' := hcurrent.root_le
  have hhigh' := hcurrent.le_succ hroot
  rw [close_iff]
  omega

theorem part_sq_lt {part whole root : Int} {rung : Nat} (hpart : 0 ≤ part) (hroot : 0 ≤ root)
    (h : part ^ 2 ^ rung * (root + 2) < whole ^ 2 ^ rung) :
    (part ^ 2) ^ 2 ^ (rung - 1) * (root + 2) < (whole ^ 2) ^ 2 ^ (rung - 1) := by
  cases rung with
  | zero =>
    simp only [pow_zero, pow_one, Nat.zero_sub] at h ⊢
    have hproduct : 0 ≤ part * (root + 2) := Int.mul_nonneg hpart (by omega)
    have hsquare := Int.mul_lt_mul' (Int.le_of_lt h) h hproduct (by omega)
    have hless : part ^ 2 * (root + 2) ≤ part * (root + 2) * (part * (root + 2)) := by
      have := Int.mul_le_mul_of_nonneg_left (show 1 ≤ root + 2 by omega)
        (Int.mul_nonneg (sq_nonneg part) (show 0 ≤ root + 2 by omega))
      linarith
    linarith
  | succ rung =>
    rw [pow_succ', pow_mul, pow_mul] at h
    exact h

section

variable {linear constant root y : Int} {rung : Nat} (hconstant : 0 ≤ constant)
  (hroot : WholeRoot linear constant root) (hone : 1 ≤ root)
include hconstant hroot hone

theorem BalanceNear.next (h : BalanceNear root rung y) :
    ∃ next, balanceStep linear constant y = .ok next ∧ BalanceNear root (rung - 1) next := by
  have hden := hroot.divisor_pos hconstant hone h.root_le
  have hiterate := balanceIterate_next (show 0 ≤ y by have := h.root_le; omega) hconstant hden
  have hle := hroot.le_of_beyond hiterate.nonneg hiterate.beyond
  obtain ⟨part, whole, hpart, hwhole, hnear, hsmall⟩ := h.part
  refine ⟨_, balanceStep_eq hden, hle, part ^ 2, whole ^ 2, sq_nonneg _, sq_nonneg _, ?_,
    part_sq_lt hpart hroot.nonneg hsmall⟩
  by_cases hpast : root + 1 ≤ y
  · have hexcess := excess_mul_sq_le hconstant hroot hone hpast hiterate.nonneg
    have hsquare := Int.mul_le_mul hnear hnear (Int.mul_nonneg hwhole (by omega))
      (Int.mul_nonneg hpart (by omega))
    have hscaled := Int.mul_le_mul_of_nonneg_left hexcess (sq_nonneg whole)
    have hgrown := Int.mul_le_mul_of_nonneg_right hsquare hiterate.nonneg
    refine Int.le_of_mul_le_mul_right ?_ (show 0 < y ^ 2 from pow_pos (by omega) 2)
    linarith
  · have hstay := nextBalance_le_succ hconstant hroot hone h.root_le (by omega)
    have hleft := Int.mul_nonneg (sq_nonneg whole)
      (show 0 ≤ root + 1 - nextBalance linear constant y by omega)
    have hright := Int.mul_nonneg (sq_nonneg part) hiterate.nonneg
    linarith

/-- Starting no further than at six times the root, the solver converges with steps to spare. -/
theorem iterate_balance_converges {start : Int} (hstart : root ≤ start)
    (hfar : start ≤ 6 * (root + 1)) (hsize : root ≤ 2 ^ 256) :
    ∃ value, iterate (balanceStep linear constant) maxSteps 0 start = .ok ⟨value, true⟩ := by
  refine iterate_converges (N := BalanceNear root) (fun _ _ h => h.next hconstant hroot hone)
    (fun _ _ => close_of_balanceNear hroot.nonneg) (show 11 < maxSteps by decide) 0
    ⟨hstart, 5, 6, ?_⟩
  refine ⟨by decide, by decide, by omega, ?_⟩
  have hbase : (5 : Int) ^ 4 * 2 < 6 ^ 4 := by norm_num
  have hroom : root + 2 ≤ 2 ^ 512 := by
    rw [show 512 = 256 + 256 by norm_num, pow_add]
    have := Int.mul_le_mul_of_nonneg_left (show (2 : Int) ≤ 2 ^ 256 by norm_num)
      (show (0 : Int) ≤ 2 ^ 256 by positivity)
    omega
  rw [show 2 ^ 11 = 4 * 512 by norm_num, pow_mul, pow_mul]
  calc ((5 : Int) ^ 4) ^ 512 * (root + 2) ≤ (5 ^ 4) ^ 512 * 2 ^ 512 :=
        Int.mul_le_mul_of_nonneg_left hroom (pow_nonneg (by decide) 512)
    _ = (5 ^ 4 * 2) ^ 512 := (mul_pow _ _ _).symm
    _ < (6 ^ 4) ^ 512 := pow_lt_pow_left₀ hbase (by decide) (by decide)

end

theorem nextBalance_eq_root {linear constant root y : Int}
    (hzero : quadratic linear constant root = 0) (hslope : 2 ≤ 2 * root + linear)
    (hy : root ≤ y) (hclose : close y (nextBalance linear constant y) = true) :
    nextBalance linear constant y = root := by
  obtain ⟨e, rfl⟩ : ∃ e, y = root + e := ⟨y - root, by ring⟩
  have hvalue : nextBalance linear constant (root + e) =
      root + e ^ 2 / (2 * e + (2 * root + linear)) := by
    have hnumerator : (root + e) * (root + e) + constant =
        e ^ 2 + root * (2 * e + (2 * root + linear)) := by
      unfold quadratic at hzero
      linarith
    rw [nextBalance, hnumerator,
      show 2 * (root + e) + linear = 2 * e + (2 * root + linear) by ring,
      Int.add_mul_ediv_right _ _ (by omega)]
    ring
  rw [hvalue] at hclose ⊢
  rw [close_iff] at hclose
  have hquotient := Int.ediv_mul_le (e ^ 2) (show 2 * e + (2 * root + linear) ≠ 0 by omega)
  have hshort : e ≤ 1 := by
    by_contra hlong
    have hfall := Int.mul_le_mul_of_nonneg_right
      (show e - 1 ≤ e ^ 2 / (2 * e + (2 * root + linear)) by omega)
      (show 0 ≤ 2 * e + (2 * root + linear) by omega)
    have hsteep := Int.mul_le_mul_of_nonneg_left
      (show 2 * e + 2 ≤ 2 * e + (2 * root + linear) by omega) (show 0 ≤ e - 1 by omega)
    have hlarge := Int.mul_le_mul (show 2 ≤ e by omega) (show 2 ≤ e by omega) (by decide) (by omega)
    linarith
  obtain rfl | rfl : e = 0 ∨ e = 1 := by omega
  · simp
  · rw [Int.ediv_eq_zero_of_lt (by decide) (by omega), Int.add_zero]

theorem beyond_iff {amp x : Int} (hamp : 1 ≤ amp) (hx : 0 < x) (d t : Int) :
    0 < quadratic (linearTerm amp x d) (constantTerm amp x d) t ↔ 0 < floorSurplus amp x t d := by
  rw [constantTerm_eq, linearTerm, quadratic_pos_iff hamp hx]

theorem balance_of_converged {amp x d value : Int} (h : solveBalance amp x d = .ok ⟨value, true⟩) :
    balance amp x d = pure value := by
  rw [balance, h, Run.liftM_ok_bind, report_of_converged]

section

variable {amp x d root : Int} (hamp : 1 ≤ amp) (hx : 0 < x) (hd : 0 ≤ d)
  (hroot : WholeRoot (linearTerm amp x d) (constantTerm amp x d) root) (hone : 1 ≤ root)
include hamp hx hd hroot hone

theorem near_root_of_converged {value : Int} (h : solveBalance amp x d = .ok ⟨value, true⟩) :
    root ≤ value ∧ value ≤ root + 1 := by
  obtain ⟨solution, hsolution, hnonneg, hbeyond, hnear⟩ := solveBalance_ok hamp hx hd
  obtain rfl : ⟨value, true⟩ = solution := Except.ok.inj (h.symm.trans hsolution)
  rw [← constantTerm_eq] at hbeyond hnear
  dsimp only at hnonneg hbeyond hnear
  refine ⟨hroot.le_of_beyond hnonneg hbeyond, ?_⟩
  obtain hzero | hwithin := hnear rfl
  · omega
  · by_contra hpast
    have := (hroot.le_iff (value - 1) (by omega)).mpr hwithin
    omega

variable (hstart : root ≤ d) (hfar : d ≤ 6 * (root + 1)) (hsize : root ≤ 2 ^ 256)
include hstart hfar hsize

theorem solveBalance_converges : ∃ value, solveBalance amp x d = .ok ⟨value, true⟩ := by
  have hconstant := constant_nonneg hamp hx hd
  rw [solveBalance_eq hamp hx hd]
  rw [← constantTerm_eq] at hconstant ⊢
  exact iterate_balance_converges hconstant hroot hone hstart hfar hsize

theorem balance_exact (hapart : 2 ≤ d)
    (hzero : quadratic (linearTerm amp x d) (constantTerm amp x d) root = 0)
    (hslope : 2 ≤ 2 * root + linearTerm amp x d) : balance amp x d = pure root := by
  obtain ⟨value, hsolution⟩ := solveBalance_converges hamp hx hd hroot hone hstart hfar hsize
  have hbalance := balance_of_converged hsolution
  have hconstant := constant_nonneg hamp hx hd
  rw [solveBalance_eq hamp hx hd] at hsolution
  have hfirst : close 0 d = false := close_eq_false_iff.mpr (by omega)
  obtain ⟨_, _, last, hreached, hstep, hclose⟩ := last_step_of_converged hfirst hsolution
  have hiterate := balanceIterate_of_reached hamp hx hd hreached
  rw [← constantTerm_eq] at hconstant hstep hiterate
  have hlast : root ≤ last := by
    obtain rfl | hiterate := hiterate
    · exact hstart
    · exact hroot.le_of_beyond hiterate.nonneg hiterate.beyond
  rw [← linearTerm, balanceStep_eq (hroot.divisor_pos hconstant hone hlast)] at hstep
  obtain rfl := Except.ok.inj hstep
  rw [hbalance, nextBalance_eq_root hzero hslope hlast hclose]

end

end PoolPricing.StableSwap
