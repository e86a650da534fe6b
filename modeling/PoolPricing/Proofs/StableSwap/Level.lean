import PoolPricing.Proofs.StableSwap.Invariant
set_option autoImplicit false

namespace PoolPricing.StableSwap

/-- The left side of the equation that the solver sees, the right one being `2 * amp * (a + b)`. -/
def level (amp a b d : Int) : Int := (2 * amp - 1) * d + floorProduct a b d

theorem ediv_le_ediv_divisor {n k m : Int} (hn : 0 ≤ n) (hk : 0 < k) (h : k ≤ m) :
    n / m ≤ n / k := by
  refine (Int.le_ediv_iff_mul_le hk).mpr ?_
  calc n / m * k ≤ n / m * m := Int.mul_le_mul_of_nonneg_left h (Int.ediv_nonneg hn (by omega))
    _ ≤ n := Int.ediv_mul_le n (by omega)

section

variable {a b : Int} (ha : 0 < a) (hb : 0 < b)
include ha hb

theorem floorProduct_proportion {x y : Int} (hx : 0 ≤ x) (hxy : x ≤ y) :
    y * floorProduct a b x ≤ x * (floorProduct a b y + 1) := by
  have h2b : 0 < 2 * b := by omega
  have hlow := Int.ediv_mul_le (x * x / (2 * a) * x) (Int.ne_of_gt h2b)
  have hhigh := Int.lt_ediv_add_one_mul_self (y * y / (2 * a) * y) h2b
  have honce : x * x / (2 * a) ≤ y * y / (2 * a) :=
    Int.ediv_le_ediv (by omega) (Int.mul_le_mul hxy hxy hx (by omega))
  unfold floorProduct
  generalize x * x / (2 * a) = u at *
  generalize y * y / (2 * a) = w at *
  generalize u * x / (2 * b) = p at *
  generalize w * y / (2 * b) = q at *
  refine Int.le_of_mul_le_mul_right ?_ h2b
  calc y * p * (2 * b) = y * (p * (2 * b)) := by ring
    _ ≤ y * (u * x) := Int.mul_le_mul_of_nonneg_left hlow (by omega)
    _ = x * y * u := by ring
    _ ≤ x * y * w := Int.mul_le_mul_of_nonneg_left honce (Int.mul_nonneg hx (by omega))
    _ = x * (w * y) := by ring
    _ ≤ x * ((q + 1) * (2 * b)) := Int.mul_le_mul_of_nonneg_left (Int.le_of_lt hhigh) hx
    _ = x * (q + 1) * (2 * b) := by ring

theorem floorProduct_mono {x y : Int} (hx : 0 ≤ x) (hxy : x ≤ y) :
    floorProduct a b x ≤ floorProduct a b y := by
  have honce : x * x / (2 * a) ≤ y * y / (2 * a) :=
    Int.ediv_le_ediv (by omega) (Int.mul_le_mul hxy hxy hx (by omega))
  have hnonneg : 0 ≤ y * y / (2 * a) := Int.ediv_nonneg (mul_self_nonneg y) (by omega)
  exact Int.ediv_le_ediv (by omega) (Int.mul_le_mul honce hxy hx hnonneg)

theorem floorProduct_anti {a' b' d : Int} (hd : 0 ≤ d) (haa : a ≤ a') (hbb : b ≤ b') :
    floorProduct a' b' d ≤ floorProduct a b d := by
  have honce : d * d / (2 * a') ≤ d * d / (2 * a) :=
    ediv_le_ediv_divisor (mul_self_nonneg d) (by omega) (by omega)
  have hnonneg : 0 ≤ d * d / (2 * a) := Int.ediv_nonneg (mul_self_nonneg d) (by omega)
  calc d * d / (2 * a') * d / (2 * b')
      ≤ d * d / (2 * a) * d / (2 * b') :=
        Int.ediv_le_ediv (by omega) (Int.mul_le_mul_of_nonneg_right honce hd)
    _ ≤ d * d / (2 * a) * d / (2 * b) :=
        ediv_le_ediv_divisor (Int.mul_nonneg hnonneg hd) (by omega) (by omega)

theorem level_anti (amp : Int) {a' b' d : Int} (hd : 0 ≤ d) (haa : a ≤ a') (hbb : b ≤ b') :
    level amp a' b' d ≤ level amp a b d :=
  Int.add_le_add_left (floorProduct_anti ha hb hd haa hbb) _

variable {amp : Int} (hamp : 1 ≤ amp)
include hamp

theorem level_mono {x y : Int} (hx : 0 ≤ x) (hxy : x ≤ y) :
    level amp a b x ≤ level amp a b y :=
  Int.add_le_add (Int.mul_le_mul_of_nonneg_left hxy (by omega)) (floorProduct_mono ha hb hx hxy)

theorem step_bounds {d : Int} (hd : 0 < d) :
    (nextInvariant amp a b d - d) * (d * (2 * amp - 1) + 3 * floorProduct a b d) ≤
        d * (2 * amp * (a + b) - level amp a b d) ∧
      d * (2 * amp * (a + b) - level amp a b d) <
        (nextInvariant amp a b d - d + 1) * (d * (2 * amp - 1) + 3 * floorProduct a b d) := by
  have hden := denominator_pos hamp ha hb hd
  have hlow := Int.ediv_mul_le
    (d * (2 * amp * (a + b) + 2 * floorProduct a b d)) (Int.ne_of_gt hden)
  have hhigh := Int.lt_ediv_add_one_mul_self
    (d * (2 * amp * (a + b) + 2 * floorProduct a b d)) hden
  change nextInvariant amp a b d * _ ≤ _ at hlow
  change _ < (nextInvariant amp a b d + 1) * _ at hhigh
  unfold level
  constructor <;> linarith

theorem level_le_of_close {d : Int} (h : Iterate amp a b d)
    (hclose : close d (nextInvariant amp a b d) = true) :
    level amp a b (nextInvariant amp a b d - 2) ≤ 2 * amp * (a + b) := by
  have hnext := iterate_next hamp ha hb h
  have hsq := four_mul_lt_sq hamp ha hb (by linarith [hnext.pos]) hnext.above
  have htwo : 2 ≤ nextInvariant amp a b d := by
    by_contra hsmall
    have hone : nextInvariant amp a b d = 1 := by
      have := hnext.pos
      omega
    have := Int.mul_pos ha hb
    rw [hone] at hsq
    linarith
  have hlow := (step_bounds ha hb hamp h.pos).1
  have hp := floorProduct_nonneg ha hb (Int.le_of_lt h.pos)
  have hden := denominator_pos hamp ha hb h.pos
  rw [close_iff] at hclose
  generalize nextInvariant amp a b d = next at *
  by_cases hdown : next < d
  · -- a step down by one passed the top by no more than the slope at `d`
    obtain rfl : next = d - 1 := by omega
    have hprop := floorProduct_proportion ha hb (x := d - 1 - 2) (y := d) (by omega) (by omega)
    have hrate : 0 < 2 * amp - 1 := by omega
    have hslope := Int.mul_pos hrate h.pos
    refine Int.le_of_mul_le_mul_left ?_ h.pos
    unfold level at hlow ⊢
    nlinarith
  · have hbelow := level_mono ha hb hamp (x := next - 2) (y := d) (by omega) (by omega)
    have hrise : 0 ≤ next - d := by omega
    have hgain := Int.le_trans (Int.mul_nonneg hrise (Int.le_of_lt hden)) hlow
    have := Int.nonneg_of_mul_nonneg_right hgain h.pos
    omega

theorem lt_level_of_close {d : Int} (h : Iterate amp a b d)
    (hclose : close d (nextInvariant amp a b d) = true) :
    2 * amp * (a + b) < level amp a b (nextInvariant amp a b d + 5) := by
  have hhigh := (step_bounds ha hb hamp h.pos).2
  have hp := floorProduct_nonneg ha hb (Int.le_of_lt h.pos)
  rw [close_iff] at hclose
  generalize nextInvariant amp a b d = next at *
  have hprop := floorProduct_proportion ha hb (x := d) (y := next + 5) (Int.le_of_lt h.pos)
    (by omega)
  have hrate : 0 < 2 * amp - 1 := by omega
  have hslope := Int.mul_pos hrate h.pos
  refine Int.lt_of_mul_lt_mul_left ?_ (Int.le_of_lt h.pos)
  unfold level at hhigh ⊢
  obtain rfl | rfl | rfl : next = d - 1 ∨ next = d ∨ next = d + 1 := by omega
  · nlinarith
  · nlinarith
  · nlinarith

end

/-- Where neither solve was cut off, more of either balance takes at most six from the invariant. -/
theorem invariant_le_add_six {amp a b a' b' d d' : Int} (hamp : 1 ≤ amp) (ha : 0 < a) (hb : 0 < b)
    (haa : a ≤ a') (hbb : b ≤ b')
    (h : (invariant amp a b).outcome = .ok d) (hquiet : (invariant amp a b).events = [])
    (h' : (invariant amp a' b').outcome = .ok d') (hquiet' : (invariant amp a' b').events = []) :
    d ≤ d' + 6 := by
  have ha' : 0 < a' := by omega
  have hb' : 0 < b' := by omega
  obtain ⟨last, _, hfound, hlast, rfl, hclose⟩ := invariant_ok hamp ha hb
  obtain ⟨last', _, hfound', hlast', rfl, hclose'⟩ := invariant_ok hamp ha' hb'
  rw [h] at hfound
  rw [h'] at hfound'
  cases hfound
  cases hfound'
  have hpos' := (iterate_next hamp ha' hb' hlast').pos
  have hlow := level_le_of_close ha hb hamp hlast (hclose hquiet)
  have hhigh := lt_level_of_close ha' hb' hamp hlast' (hclose' hquiet')
  have hanti := level_anti ha hb amp (d := nextInvariant amp a' b' last' + 5) (by omega)
    haa hbb
  have hsum : 2 * amp * (a + b) ≤ 2 * amp * (a' + b') :=
    Int.mul_le_mul_of_nonneg_left (by omega) (by omega)
  by_contra hfall
  have := level_mono ha hb hamp (x := nextInvariant amp a' b' last' + 5)
    (y := nextInvariant amp a b last - 2) (by omega) (by omega)
  omega

end PoolPricing.StableSwap
