import PoolPricing.Proofs.StableSwap.Level
set_option autoImplicit false

/-!
How far above the exact invariant a step can land that does not come down. Such a step starts near
the exact invariant, so it is short, and what it overshoots by is small against the square of the
sum of the balances (`Iterate.overshoot_le`).
-/

namespace PoolPricing.StableSwap

section

variable {a b : Int} (ha : 0 < a) (hb : 0 < b)
include ha hb

theorem le_floorProduct {d : Int} (hd : 0 ≤ d) :
    d ^ 3 + d + 2 * a ≤ 4 * a * b * floorProduct a b d + 2 * a * d + 4 * a * b := by
  have h2a : 0 < 2 * a := by omega
  have h2b : 0 < 2 * b := by omega
  have hinner := Int.lt_ediv_add_one_mul_self (d * d) h2a
  have houter := Int.lt_ediv_add_one_mul_self (d * d / (2 * a) * d) h2b
  unfold floorProduct
  generalize d * d / (2 * a) = u at *
  generalize u * d / (2 * b) = p at *
  have hscaled := Int.mul_le_mul_of_nonneg_left (Int.add_one_le_of_lt houter) (Int.le_of_lt h2a)
  have hsquare := Int.mul_le_mul_of_nonneg_right (Int.add_one_le_of_lt hinner) hd
  linarith

theorem self_le_floorProduct_of_sq {d : Int} (hd : 0 ≤ d) (h : 4 * a * b ≤ d ^ 2) :
    d ≤ floorProduct a b d := by
  have honce : 2 * b ≤ d * d / (2 * a) := by
    refine (Int.le_ediv_iff_mul_le (by omega)).mpr ?_
    linarith
  refine (Int.le_ediv_iff_mul_le (by omega)).mpr ?_
  have := Int.mul_le_mul_of_nonneg_right honce hd
  linarith

theorem self_le_floorProduct {d : Int} (hd : a + b ≤ d) : d ≤ floorProduct a b d := by
  have hsum := Int.mul_le_mul hd hd (by omega) (by omega)
  exact self_le_floorProduct_of_sq ha hb (by omega) (by nlinarith [mul_self_nonneg (a - b)])

variable {amp : Int} (hamp : 1 ≤ amp)
include hamp

theorem Iterate.two_le {d : Int} (h : Iterate amp a b d) : 2 ≤ d := by
  have hsq := four_mul_lt_sq hamp ha hb (by linarith [h.pos]) h.above
  by_contra hsmall
  obtain rfl : d = 1 := by
    have := h.pos
    omega
  have := Int.mul_pos ha hb
  linarith

theorem Iterate.le_three_mul {d : Int} (h : Iterate amp a b d) : d ≤ 3 * (a + b) := by
  have hrange := h.range
  by_contra hgreat
  have hbeyond : 3 * (a + b) + 1 ≤ d := by omega
  have hslope : 0 ≤ 2 * (2 * amp - 1) := by omega
  have := Int.mul_le_mul_of_nonneg_left hbeyond hslope
  nlinarith

theorem Iterate.lt_of_rise {d : Int} (h : Iterate amp a b d)
    (hrise : d < nextInvariant amp a b d) : d < a + b := by
  by_contra hbeyond
  have hlow := (step_bounds ha hb hamp h.pos).1
  have hp := self_le_floorProduct ha hb (Int.not_lt.mp hbeyond)
  have hden := denominator_pos hamp ha hb h.pos
  have hgain := Int.mul_pos (Int.sub_pos_of_lt hrise) hden
  have htop : 0 < 2 * amp * (a + b) - level amp a b d :=
    (mul_pos_iff_of_pos_left h.pos).mp (by omega)
  have hamp' : 0 ≤ 2 * amp := by omega
  have := Int.mul_le_mul_of_nonneg_left (Int.not_lt.mp hbeyond) hamp'
  unfold level at htop
  linarith

end

/-- What is known of a rise by `j` from `d` where the product is `p`. The amplification is gone: the
least one makes for the longest rise. -/
structure Rise (a b d p j : Int) : Prop where
  square : 4 * a * b ≤ d ^ 2 + 2 * d
  cube : 4 * a * b * (a + b) < (d + 1) ^ 3
  lost : d ^ 3 + d + 2 * a ≤ 4 * a * b * p + 2 * a * d + 4 * a * b
  short : (j - 1) * (4 * a * b * d + 3 * (4 * a * b * p)) ≤
    d ^ 4 + 3 * d ^ 3 + 3 * d ^ 2 - 4 * a * b * p * (d + 3)

namespace Rise

section

variable {a b d p j : Int} (ha : 0 < a) (hb : 0 < b) (hd : 3 ≤ d) (h : Rise a b d p j)
include ha hb hd h

theorem three_mul_le_sq : 3 * a ≤ d ^ 2 := by
  have hlow : 4 * (a * (a + 1)) < (d + 1) ^ 3 := by
    have hab : a ≤ a * b := by nlinarith
    have hsum : a + 1 ≤ a + b := by omega
    have := Int.mul_le_mul hab hsum (by omega) (by nlinarith)
    linarith [h.cube]
  by_contra hlarge
  obtain rfl | hfour : d = 3 ∨ 4 ≤ d := by omega
  · have : 4 ≤ a := by omega
    nlinarith
  · have hwide : d ^ 2 + 1 ≤ 3 * a := by omega
    have hwider : d ^ 2 + 4 ≤ 3 * (a + 1) := by omega
    have hd2 : 0 ≤ d ^ 2 := by positivity
    have hd3 : 0 ≤ d ^ 3 := by positivity
    have hsquare := Int.mul_le_mul hwide hwider (by positivity) (by omega)
    have hcubic := Int.mul_le_mul_of_nonneg_right hfour hd2
    have hquartic := Int.mul_le_mul_of_nonneg_right hfour hd3
    nlinarith

theorem slope_ge : 2 * d ^ 3 ≤ 4 * a * b * d + 3 * (4 * a * b * p) := by
  have hd0 : 0 ≤ d := by omega
  have hmore : 0 ≤ d + 3 := by omega
  have hless : 0 ≤ d - 3 := by omega
  have hone : 4 * a ≤ 4 * a * b := by nlinarith
  have hwidth := Int.mul_le_mul_of_nonneg_right (h.three_mul_le_sq ha hb hd) hmore
  have hproduct := Int.mul_le_mul_of_nonneg_right hone hless
  have hsquare := Int.mul_nonneg hd0 (mul_self_nonneg (d - 3))
  linarith [h.lost]

theorem length_le : j * d ≤ 2 * (a + d) := by
  have hwidth := h.three_mul_le_sq ha hb hd
  by_contra hfar
  have hd0 : 0 ≤ d := by omega
  have hmore : 0 ≤ d + 3 := by omega
  have hmany : 2 ≤ j - 1 := by
    by_contra hfew
    have hj : j ≤ 2 := by omega
    have := Int.mul_le_mul_of_nonneg_right hj hd0
    omega
  have hgain : (j - 1) * (2 * d ^ 3) ≤
      d ^ 4 + 3 * d ^ 3 + 3 * d ^ 2 - 4 * a * b * p * (d + 3) :=
    Int.le_trans (Int.mul_le_mul_of_nonneg_left (h.slope_ge ha hb hd) (by omega)) h.short
  have hlost := Int.mul_le_mul_of_nonneg_right h.lost hmore
  have hsquare := Int.mul_le_mul_of_nonneg_right h.square hmore
  -- the estimate that serves from five on is too coarse below
  obtain rfl | rfl | hfive : d = 3 ∨ d = 4 ∨ 5 ≤ d := by omega
  · obtain rfl | rfl | rfl : a = 1 ∨ a = 2 ∨ a = 3 := by omega
    all_goals
      have := h.square
      omega
  · obtain rfl | hmore : a = 1 ∨ 2 ≤ a := by omega
    · have := h.square
      omega
    · nlinarith
  · have hover : 2 * a + d + 1 ≤ (j - 1) * d := by linarith
    have had : 0 ≤ a * d := by positivity
    have hd2 : 0 ≤ 2 * d ^ 2 := by positivity
    have hlong := Int.mul_le_mul_of_nonneg_right hover hd2
    have htotal : 2 * a * d ^ 2 + d ^ 3 ≤ 4 * a * d - 6 * a + 5 * d ^ 2 + 3 * d := by linarith
    have hwide := Int.mul_le_mul_of_nonneg_left hfive had
    have htall := Int.mul_le_mul_of_nonneg_left hfive (sq_nonneg d)
    nlinarith

end

theorem length_le_four {a b p j : Int} (ha : 0 < a) (hb : 0 < b) (hsum : 2 < a + b) (hp : 0 ≤ p)
    (h : Rise a b 2 p j) : j ≤ 4 := by
  have hab : 2 ≤ a * b := by nlinarith
  have hproduct : 0 ≤ 4 * a * b * p := by positivity
  have hshort := h.short
  by_contra hmore
  have hlength : 4 ≤ j - 1 := by omega
  have hslope : 16 ≤ 4 * a * b * 2 + 3 * (4 * a * b * p) := by linarith
  have := Int.mul_le_mul hlength hslope (by decide) (by omega)
  linarith

end Rise

/-- By how much the surplus can be below zero after a step by `j` from `d`, times `d`: the curvature
and the floors make for one part each. -/
def overshoot (a b d j : Int) : Int :=
  d * (j ^ 2 * (3 * d + j)) + (d + 3 * j) * (2 * a * d + 4 * a * b)

section

variable {a b d j : Int} (ha : 0 < a) (hb : 0 < b)
include ha hb

theorem overshoot_le_of_near (hd : 2 ≤ d) (hrange : d ≤ 3 * (a + b)) (hlow : -1 ≤ j)
    (hhigh : j ≤ 1) : overshoot a b d j ≤ 32 * (a + b) ^ 2 * d := by
  have hd0 : 0 ≤ d := by omega
  have hloss : 2 * a * d + 4 * a * b ≤ 6 * (a + b) ^ 2 := by
    have h2a : 0 ≤ 2 * a := by omega
    have := Int.mul_le_mul_of_nonneg_left hrange h2a
    nlinarith [Int.mul_pos ha hb, mul_self_nonneg b]
  have hscaled := Int.mul_le_mul_of_nonneg_left hloss hd0
  have hnonneg : 0 ≤ 2 * a * d + 4 * a * b := by positivity
  have hhalf := Int.mul_le_mul_of_nonneg_right hd hnonneg
  have hnarrow : 3 * d + 1 ≤ 5 * (a + b) ^ 2 := by nlinarith
  have hstep := Int.mul_le_mul_of_nonneg_left hnarrow hd0
  unfold overshoot
  obtain rfl | rfl | rfl : j = -1 ∨ j = 0 ∨ j = 1 := by omega
  · linarith
  · nlinarith
  · linarith

theorem overshoot_le_of_small (hd : d = 2 ∨ d = 3) (had : a ≤ d)
    (hsquare : 4 * a * b ≤ d ^ 2 + 2 * d) (hsum : d < a + b) (hj : 0 ≤ j) (hfour : j ≤ 4) :
    overshoot a b d j ≤ 32 * (a + b) ^ 2 * d := by
  have hwidth : (d + 1) ^ 2 ≤ (a + b) ^ 2 := by nlinarith
  have hlength : j ^ 2 ≤ 16 := by nlinarith
  unfold overshoot
  obtain rfl | rfl := hd
  · have hcurve : 3 * 2 + j ≤ 10 := by omega
    have hrate : 2 + 3 * j ≤ 14 := by omega
    have hloss : 2 * a * 2 + 4 * a * b ≤ 16 := by omega
    have hcurved := Int.mul_le_mul hlength hcurve (by omega) (by decide)
    have hfloored := Int.mul_le_mul hrate hloss (by positivity) (by decide)
    linarith
  · have hcurve : 3 * 3 + j ≤ 13 := by omega
    have hrate : 3 + 3 * j ≤ 15 := by omega
    have hloss : 2 * a * 3 + 4 * a * b ≤ 33 := by omega
    have hcurved := Int.mul_le_mul hlength hcurve (by omega) (by decide)
    have hfloored := Int.mul_le_mul hrate hloss (by positivity) (by decide)
    linarith

theorem overshoot_le_of_large (hd : 4 ≤ d) (hsum : d ≤ a + b) (hwidth : 3 * a ≤ d ^ 2)
    (hj : 0 ≤ j) (hlength : j * d ≤ 2 * (a + d)) :
    overshoot a b d j ≤ 32 * (a + b) ^ 2 * d := by
  have hjd : 0 ≤ j * d := Int.mul_nonneg hj (by omega)
  have hthird : 3 * (j * d) ≤ 2 * d ^ 2 + 6 * d := by omega
  have hsquare : (j * d) ^ 2 ≤ 16 * (a + b) ^ 2 := by nlinarith
  have hd2 : 0 < d ^ 2 := by positivity
  have hcubic := Int.mul_le_mul_of_nonneg_right hd (Int.le_of_lt hd2)
  have hcurved : 4 * ((j * d) ^ 2 * d ^ 2) ≤ 16 * ((a + b) ^ 2 * d ^ 3) := by
    have hscaled := Int.mul_le_mul_of_nonneg_right hsquare (Int.le_of_lt hd2)
    have := Int.mul_le_mul_of_nonneg_left hcubic (sq_nonneg (a + b))
    linarith
  have hbent : 3 * (j * d) ^ 3 ≤ 16 * ((a + b) ^ 2 * d ^ 3) := by
    have hcube : 3 * (j * d) ≤ d ^ 3 := by nlinarith
    have hscaled := Int.mul_le_mul hsquare hcube (by positivity) (by positivity)
    linarith
  have hfloored : 4 * ((d ^ 3 + 3 * (j * d) * d) * (2 * a * d + 4 * a * b)) ≤
      50 * ((a + b) ^ 2 * d ^ 3) := by
    have hloss : 2 * (2 * a * d + 4 * a * b) ≤ 5 * (a + b) ^ 2 := by
      have h4a : 0 ≤ 4 * a := by omega
      have := Int.mul_le_mul_of_nonneg_left hsum h4a
      nlinarith [sq_nonneg (a - b)]
    have hrate : d ^ 3 + 3 * (j * d) * d ≤ 5 * d ^ 3 := by
      have hd0 : 0 ≤ d := by omega
      have := Int.mul_le_mul_of_nonneg_right hthird hd0
      linarith
    have := Int.mul_le_mul hrate hloss (by positivity) (by positivity)
    linarith
  have hwhole : 0 ≤ (a + b) ^ 2 * d ^ 3 := by positivity
  refine Int.le_of_mul_le_mul_left ?_ hd2
  unfold overshoot
  linarith

end

section

variable {amp a b d : Int} (hamp : 1 ≤ amp) (ha : 0 < a) (hb : 0 < b) (h : Iterate amp a b d)
include hamp ha hb h

theorem Iterate.rise (hrise : d < nextInvariant amp a b d) :
    Rise a b d (floorProduct a b d) (nextInvariant amp a b d - d) := by
  have hd := h.pos
  have hsum := h.lt_of_rise ha hb hamp hrise
  have hab : 0 < 4 * a * b := by positivity
  have hsquare := four_mul_lt_sq hamp ha hb (by omega) h.above
  have habove := h.above
  have hstep := Int.mul_le_mul_of_nonneg_left (step_bounds ha hb hamp hd).1 (Int.le_of_lt hab)
  unfold surplus at habove
  unfold level at hstep
  refine ⟨by linarith, ?_, le_floorProduct ha hb (Int.le_of_lt hd), ?_⟩
  · have hroom : a + b ≤ 2 * amp * (a + b) - (2 * amp - 1) * (d + 1) := by
      have hslope : 0 ≤ 2 * amp - 1 := by omega
      have := Int.mul_le_mul_of_nonneg_left (Int.add_one_le_of_lt hsum) hslope
      linarith
    have := Int.mul_le_mul_of_nonneg_left hroom (Int.le_of_lt hab)
    omega
  · generalize nextInvariant amp a b d = next at *
    generalize floorProduct a b d = p at *
    have hbelow : 4 * a * b * (2 * amp * (a + b) - (2 * amp - 1) * (d + 1)) + 1 ≤
        (d + 1) ^ 3 := by omega
    have hlength : 0 ≤ next - d - 1 := by omega
    have hspare : 0 ≤ 2 * amp - 2 := by omega
    have htop := Int.mul_le_mul_of_nonneg_left hbelow (Int.le_of_lt hd)
    have habd := Int.mul_nonneg (Int.le_of_lt hab) (Int.le_of_lt hd)
    have hslope := Int.mul_nonneg (Int.mul_nonneg hlength habd) hspare
    linarith

theorem Iterate.overshoot_le (hstay : d - 1 ≤ nextInvariant amp a b d) :
    overshoot a b d (nextInvariant amp a b d - d) ≤ 32 * (a + b) ^ 2 * d := by
  have htwo := h.two_le ha hb hamp
  by_cases hnear : nextInvariant amp a b d ≤ d + 1
  · exact overshoot_le_of_near ha hb htwo (h.le_three_mul ha hb hamp) (by omega) (by omega)
  have hsum := h.lt_of_rise ha hb hamp (by omega)
  have hrise := h.rise hamp ha hb (by omega)
  have hsquare := hrise.square
  obtain rfl | rfl | hfour : d = 2 ∨ d = 3 ∨ 4 ≤ d := by omega
  · have hp := floorProduct_nonneg ha hb (show 0 ≤ 2 by decide)
    exact overshoot_le_of_small ha hb (.inl rfl) (by nlinarith) hsquare hsum (by omega)
      (hrise.length_le_four ha hb hsum hp)
  · have hwidth := hrise.three_mul_le_sq ha hb (by decide)
    have hlength := hrise.length_le ha hb (by decide)
    exact overshoot_le_of_small ha hb (.inr rfl) (by omega) hsquare hsum (by omega) (by omega)
  · have hwidth := hrise.three_mul_le_sq ha hb (by omega)
    exact overshoot_le_of_large ha hb hfour (by omega) hwidth (by omega)
      (hrise.length_le ha hb (by omega))

end

end PoolPricing.StableSwap
