import PoolPricing.Proofs.ConstantProduct
import Mathlib.Data.Rat.Floor
set_option autoImplicit false

/-!
The divisor that goes with a quotient rounded up. A quotient suffices for a divisor just where the
divisor suffices for the quotient (`ceiling_le_comm`), so rounding up twice finds the least divisor
that has the quotient, and rounding up again changes nothing.
-/

namespace PoolPricing

open Checked

namespace Number

theorem ceil_div_eq_ceiling (n : Int) {d : Int} (hd : 0 < d) : ⌈(n : Rat) / d⌉ = ceiling n d := by
  have hd' : (0 : Rat) < d := Int.cast_pos.mpr hd
  rw [Int.ceil_eq_iff, lt_div_iff₀ hd', div_le_iff₀ hd']
  exact ⟨mod_cast ceiling_mul_lt n hd, mod_cast le_ceiling_mul n hd⟩

theorem ceiling_pos {n d : Int} (hn : 0 < n) (hd : 0 < d) : 0 < ceiling n d :=
  Int.pos_of_mul_pos_left (Int.lt_of_lt_of_le hn (le_ceiling_mul n hd)) hd

theorem ceiling_le_comm {n d q : Int} (hd : 0 < d) (hq : 0 < q) :
    ceiling n d ≤ q ↔ ceiling n q ≤ d := by
  rw [ceiling_le_iff hd, ceiling_le_iff hq, Int.mul_comm]

section

variable {n d : Int} (hn : 0 < n) (hd : 0 < d)
include hn hd

theorem ceiling_ceiling_le : ceiling n (ceiling n d) ≤ d :=
  (ceiling_le_comm hd (ceiling_pos hn hd)).mp (Int.le_refl _)

theorem ceiling_ceiling_ceiling : ceiling n (ceiling n (ceiling n d)) = ceiling n d := by
  have hq := ceiling_pos hn hd
  have hd' := ceiling_pos hn hq
  refine Int.le_antisymm (ceiling_ceiling_le hn hq) ((ceiling_le_iff hd).mpr ?_)
  calc n ≤ ceiling n (ceiling n (ceiling n d)) * ceiling n (ceiling n d) := le_ceiling_mul n hd'
    _ ≤ ceiling n (ceiling n (ceiling n d)) * d :=
        Int.mul_le_mul_of_nonneg_left (ceiling_ceiling_le hn hd)
          (Int.le_of_lt (ceiling_pos hn hd'))

end

end Number

namespace ConstantProduct

open Number

theorem divideUp_tooSmall_iff {n d : Int} (hn : 0 ≤ n) (hd : 0 < d) :
    (∃ cause, divideUp n d = .error (.tooSmall cause)) ↔ n < d := by
  rw [divideUp_eq hn hd]
  by_cases hlt : n < d <;> simp [hlt]

theorem divideUp_tightened {n d : Int} (hd : 0 < d) (hle : d ≤ n) :
    divideUp n (ceiling n (ceiling n d)) = .ok ⟨ceiling n d, ceiling n (ceiling n d)⟩ := by
  have hn : 0 < n := by omega
  have htight := ceiling_ceiling_le hn hd
  rw [divideUp_eq (Int.le_of_lt hn) (ceiling_pos hn (ceiling_pos hn hd)), if_neg (by omega),
    ceiling_ceiling_ceiling hn hd]

/-- A quotient below one is refused. Any other is exact, rounded up, and so is the divisor that
comes with it: the two cover the dividend, one unit less of either does not, and no lesser divisor
has the quotient, so that dividing by this one gives both again. -/
theorem divideUp_tightest {n d : Int} (hn : 0 ≤ n) (hd : 0 < d) :
    ((∃ cause, divideUp n d = .error (.tooSmall cause)) ↔ n < d) ∧
    (d ≤ n → ∃ q tight, divideUp n d = .ok ⟨q, tight⟩ ∧
      q = ⌈(n : Rat) / d⌉ ∧ tight = ⌈(n : Rat) / q⌉ ∧ 1 ≤ tight ∧ tight ≤ d ∧
      n ≤ q * tight ∧ (q - 1) * tight < n ∧ q * (tight - 1) < n ∧
      IsLeast {divisor : Int | 0 < divisor ∧ ⌈(n : Rat) / divisor⌉ = q} tight ∧
      divideUp n tight = .ok ⟨q, tight⟩) := by
  refine ⟨divideUp_tooSmall_iff hn hd, fun hle => ?_⟩
  have hn : 0 < n := by omega
  have hq := ceiling_pos hn hd
  have htight := ceiling_pos hn hq
  have hsame := ceiling_ceiling_ceiling hn hd
  refine ⟨ceiling n d, ceiling n (ceiling n d), ?_, (ceil_div_eq_ceiling n hd).symm,
    (ceil_div_eq_ceiling n hq).symm, htight, ceiling_ceiling_le hn hd, ?_, ?_, ?_,
    ⟨⟨htight, ?_⟩, ?_⟩, divideUp_tightened hd hle⟩
  · rw [divideUp_eq (Int.le_of_lt hn) hd, if_neg (Int.not_lt.mpr hle)]
  · rw [Int.mul_comm]
    exact le_ceiling_mul n hq
  · have hbelow := ceiling_mul_lt n htight
    rwa [hsame] at hbelow
  · rw [Int.mul_comm]
    exact ceiling_mul_lt n hq
  · rw [ceil_div_eq_ceiling n htight, hsame]
  · rintro divisor ⟨hpos, hquotient⟩
    rw [ceil_div_eq_ceiling n hpos] at hquotient
    exact (ceiling_le_comm hpos hq).mp (Int.le_of_eq hquotient)

theorem divideUp_tightest_hundred :
    (0 : Int) ≤ 100 ∧ (0 : Int) < 30 ∧ (30 : Int) ≤ 100 ∧
    divideUp 100 30 = .ok ⟨4, 25⟩ ∧ divideUp 100 25 = .ok ⟨4, 25⟩ ∧
    (4 : Int) = ⌈((100 : Int) : Rat) / ((30 : Int) : Rat)⌉ ∧
    IsLeast {divisor : Int | 0 < divisor ∧ ⌈((100 : Int) : Rat) / divisor⌉ = 4} 25 := by
  have h : divideUp 100 30 = .ok ⟨4, 25⟩ := rfl
  obtain ⟨q, tight, hfound, hquotient, _, _, _, _, _, _, hleast, hagain⟩ :=
    (divideUp_tightest (show (0 : Int) ≤ 100 by decide) (show (0 : Int) < 30 by decide)).2
      (show (30 : Int) ≤ 100 by decide)
  obtain ⟨rfl, rfl⟩ := Ceiling.mk.inj (Except.ok.inj (h.symm.trans hfound))
  exact ⟨by decide, by decide, by decide, h, hagain, hquotient, hleast⟩

end ConstantProduct
end PoolPricing
