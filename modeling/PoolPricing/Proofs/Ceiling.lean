import Mathlib.Tactic.Linarith
import Mathlib.Tactic.Ring
set_option autoImplicit false

namespace PoolPricing.Number

def ceiling (n d : Int) : Int := -(-n / d)

theorem le_ceiling_mul (n : Int) {d : Int} (hd : 0 < d) : n ≤ ceiling n d * d := by
  have h := Int.ediv_mul_le (-n) (Int.ne_of_gt hd)
  rw [ceiling, Int.neg_mul]
  omega

theorem ceiling_mul_lt (n : Int) {d : Int} (hd : 0 < d) : (ceiling n d - 1) * d < n := by
  have h := Int.lt_ediv_add_one_mul_self (-n) hd
  have hneg : (ceiling n d - 1) * d = -((-n / d + 1) * d) := by rw [ceiling]; ring
  omega

theorem ceiling_nonneg {n d : Int} (hn : 0 ≤ n) (hd : 0 < d) : 0 ≤ ceiling n d := by
  have h : -n / d ≤ 0 := Int.ediv_nonpos_of_nonpos_of_neg (by omega) hd
  rw [ceiling]
  omega

theorem ceiling_le_iff {n d q : Int} (hd : 0 < d) : ceiling n d ≤ q ↔ n ≤ q * d := by
  have h := Int.le_ediv_iff_mul_le (a := -q) (b := -n) hd
  rw [Int.neg_mul] at h
  rw [ceiling]
  omega

theorem sub_ceiling (k n : Int) {d : Int} (hd : d ≠ 0) : k - ceiling n d = (k * d - n) / d := by
  have h := Int.add_mul_ediv_right (-n) k hd
  rw [show -n + k * d = k * d - n by omega] at h
  rw [h, ceiling]
  omega

theorem ceiling_sub (n k : Int) {d : Int} (hd : d ≠ 0) :
    ceiling n d - k = ceiling (n - k * d) d := by
  have h := sub_ceiling k n hd
  rw [ceiling.eq_1 (n - k * d), Int.neg_sub, ← h]
  omega

theorem ceiling_eq {n d q : Int} (hd : 0 < d) (hlow : (q - 1) * d < n) (hhigh : n ≤ q * d) :
    ceiling n d = q := by
  have hl := Int.lt_of_lt_of_le hlow (le_ceiling_mul n hd)
  have hh := Int.lt_of_lt_of_le (ceiling_mul_lt n hd) hhigh
  have h₁ : q - 1 < ceiling n d := Int.lt_of_mul_lt_mul_right hl (Int.le_of_lt hd)
  have h₂ : ceiling n d - 1 < q := Int.lt_of_mul_lt_mul_right hh (Int.le_of_lt hd)
  omega

theorem ceiling_of_dvd {n d : Int} (hd : 0 < d) (h : n % d = 0) : ceiling n d = n / d := by
  have hn := Int.mul_ediv_add_emod n d
  apply ceiling_eq hd <;> nlinarith

theorem ceiling_of_not_dvd {n d : Int} (hd : 0 < d) (h : n % d ≠ 0) :
    ceiling n d = n / d + 1 := by
  have hn := Int.mul_ediv_add_emod n d
  have hlt := Int.emod_lt_of_pos n hd
  have hpos : 0 < n % d := by
    have := Int.emod_nonneg n (Int.ne_of_gt hd)
    omega
  apply ceiling_eq hd <;> nlinarith

theorem ediv_eq_zero_iff {n d : Int} (hn : 0 ≤ n) (hd : 0 < d) : n / d = 0 ↔ n < d := by
  have hquotient := Int.ediv_nonneg hn (Int.le_of_lt hd)
  have hlt : n / d < 1 ↔ n < 1 * d := Int.ediv_lt_iff_lt_mul hd
  omega

theorem ediv_le_ediv_of_cross {n d n' d' : Int} (hd : 0 < d) (hd' : 0 < d')
    (h : n * d' ≤ n' * d) : n / d ≤ n' / d' := by
  refine (Int.le_ediv_iff_mul_le hd').mpr (Int.le_of_mul_le_mul_right ?_ hd)
  calc n / d * d' * d = n / d * d * d' := by ring
    _ ≤ n * d' := Int.mul_le_mul_of_nonneg_right (Int.ediv_mul_le n (Int.ne_of_gt hd)) (by omega)
    _ ≤ n' * d := h

theorem ediv_eq_ediv_of_cross {n d n' d' : Int} (hd : 0 < d) (hd' : 0 < d')
    (h : n * d' = n' * d) : n / d = n' / d' :=
  Int.le_antisymm (ediv_le_ediv_of_cross hd hd' (Int.le_of_eq h))
    (ediv_le_ediv_of_cross hd' hd (Int.le_of_eq h.symm))

end PoolPricing.Number
