import PoolPricing.Proofs.StableSwap.Overshoot
set_option autoImplicit false

/-!
When balances grow clearly, the invariant does not fall, whether or not a solve is cut off. As long
as the iterates before the growth come down, those after it stay above them step by step; once the
former turn, they are near the exact invariant for good (`Settled`), and a clear growth lifts the
exact invariant past that.
-/

namespace PoolPricing.StableSwap

open Checked

/-- Balances that stay the same, or whose product does not fall while their sum grows by more than
what the floors of the solver can lose. In an even pool `16 / amp` is enough. -/
def GrowsClearly (amp a b a' b' : Int) : Prop :=
  a * b ≤ a' * b' ∧
    ((a' = a ∧ b' = b) ∨ 4 * (a + b) ^ 2 ≤ amp * (a' + b' - a - b) * (a * b))

instance (amp a b a' b' : Int) : Decidable (GrowsClearly amp a b a' b') :=
  inferInstanceAs (Decidable (_ ∧ _))

/-- No further above the exact invariant than a clear growth lifts it. -/
def Settled (amp a b d : Int) : Prop := -(32 * (a + b) ^ 2) ≤ surplus amp a b d

section

variable {amp a b : Int} (hamp : 1 ≤ amp) (ha : 0 < a) (hb : 0 < b)
include hamp ha hb

theorem Iterate.settled_of_stay {d : Int} (h : Iterate amp a b d)
    (hstay : d - 1 ≤ nextInvariant amp a b d) :
    Settled amp a b (nextInvariant amp a b d) := by
  have hover := h.overshoot_le hamp ha hb hstay
  have hlost := le_floorProduct ha hb (Int.le_of_lt h.pos)
  have hnext := (iterate_next hamp ha hb h).two_le ha hb hamp
  have hd := h.pos
  have hab : 0 < 4 * a * b := by positivity
  have hlow := Int.mul_le_mul_of_nonneg_left (step_bounds ha hb hamp h.pos).1 (Int.le_of_lt hab)
  unfold overshoot at hover
  unfold level at hlow
  unfold Settled surplus
  generalize nextInvariant amp a b d = next at *
  generalize floorProduct a b d = p at *
  have hleft : d ^ 3 - (2 * a * d + 4 * a * b) ≤ 4 * a * b * p := by omega
  have hlength : 0 ≤ d + 3 * (next - d) := by omega
  have hrate := Int.mul_le_mul_of_nonneg_right hleft hlength
  refine Int.le_of_mul_le_mul_left ?_ hd
  linarith

theorem Iterate.settled_next {d : Int} (h : Iterate amp a b d) (hsettled : Settled amp a b d) :
    Settled amp a b (nextInvariant amp a b d) := by
  by_cases hstay : d - 1 ≤ nextInvariant amp a b d
  · exact h.settled_of_stay hamp ha hb hstay
  · exact Int.le_trans hsettled (surplus_antitone hamp ha hb (by omega))

theorem Iterate.settled_or_le_next {d bound : Int} (h : Iterate amp a b d)
    (hd : Settled amp a b d ∨ d ≤ bound) :
    Settled amp a b (nextInvariant amp a b d) ∨ nextInvariant amp a b d ≤ bound := by
  obtain hsettled | hle := hd
  · exact .inl (h.settled_next hamp ha hb hsettled)
  · by_cases hstay : d - 1 ≤ nextInvariant amp a b d
    · exact .inl (h.settled_of_stay hamp ha hb hstay)
    · exact .inr (by omega)

end

theorem iterate_settled_or_le {amp a b : Int} (hamp : 1 ≤ amp) (ha : 0 < a) (hb : 0 < b)
    {steps : Nat} {last bound : Int} {solution : Solution} (h : Iterate amp a b last)
    (hnow : Settled amp a b (nextInvariant amp a b last) ∨ nextInvariant amp a b last ≤ bound)
    (hsolution : iterate (invariantStep amp a b) steps last (nextInvariant amp a b last) =
      .ok solution) :
    Settled amp a b solution.value ∨ solution.value ≤ bound := by
  obtain ⟨_, found, hfound, _, _, hkept, _⟩ := iterate_invariant hamp ha hb
    (P := fun d => Settled amp a b d ∨ d ≤ bound)
    (fun d hd => hd.settled_or_le_next hamp ha hb) steps h hnow
  rw [hsolution] at hfound
  cases hfound
  exact hkept

theorem cubic_antitone {t d e : Int} (hd : 0 < d) (ht : t ≤ d) (he : d ≤ e) :
    (3 * t - 2 * e) * e ^ 2 ≤ (3 * t - 2 * d) * d ^ 2 := by
  have hfactor : 0 ≤ 2 * (e ^ 2 + e * d + d ^ 2) - 3 * t * (e + d) := by nlinarith
  have := Int.mul_nonneg (Int.sub_nonneg_of_le he) hfactor
  linarith

section

variable {amp a b a' b' : Int} (hamp : 1 ≤ amp) (ha : 0 < a) (hb : 0 < b) (ha' : 0 < a')
  (hb' : 0 < b') (hproduct : a * b ≤ a' * b')
  (hgain : 4 * (a + b) ^ 2 ≤ amp * (a' + b' - a - b) * (a * b))
include ha hb hgain

theorem Settled.surplus_nonneg (hproduct : a * b ≤ a' * b') {d : Int} (hd : 0 < d)
    (h : Settled amp a b d) : 0 ≤ surplus amp a' b' d := by
  have hcube : 0 < d ^ 3 := by positivity
  have hab : 0 < 4 * a * b := by positivity
  have hlift : d ^ 3 ≤ 4 * a * b * (2 * amp * (a' + b') - (2 * amp - 1) * d) := by
    unfold Settled surplus at h
    linarith
  have hroom : 0 ≤ 2 * amp * (a' + b') - (2 * amp - 1) * d :=
    Int.le_of_lt ((mul_pos_iff_of_pos_left hab).mp (by omega))
  have hgrown : 4 * a * b ≤ 4 * a' * b' := by linarith
  have := Int.mul_le_mul_of_nonneg_right hgrown hroom
  unfold surplus
  omega

include hamp

theorem sum_le_of_gain : a + b ≤ a' + b' := by
  have hrate : 0 < amp * (a * b) := Int.mul_pos (by omega) (Int.mul_pos ha hb)
  by_contra hless
  have := Int.mul_pos hrate (Int.sub_pos_of_lt (Int.not_le.mp hless))
  nlinarith

theorem Iterate.room {d : Int} (h : Iterate amp a b d) (hdown : nextInvariant amp a b d ≤ d)
    (hshort : 2 * d < 3 * nextInvariant amp a b d) :
    (3 * nextInvariant amp a b d - 2 * d) * d ^ 2 ≤
      4 * a * b * (2 * amp * (a' + b') - (2 * amp - 1) * nextInvariant amp a b d) := by
  have hd := h.pos
  have hab : 0 < 4 * a * b := by positivity
  have hlost := le_floorProduct ha hb (Int.le_of_lt hd)
  have h2a : 0 ≤ 2 * a := by omega
  have hwide := Int.mul_le_mul_of_nonneg_left (h.le_three_mul ha hb hamp) h2a
  have hlow := Int.mul_le_mul_of_nonneg_left (step_bounds ha hb hamp hd).1 (Int.le_of_lt hab)
  unfold level at hlow
  generalize nextInvariant amp a b d = next at *
  generalize floorProduct a b d = p at *
  have hloss : 2 * a * d + 4 * a * b ≤ 32 * (a + b) ^ 2 := by
    nlinarith [Int.mul_pos ha hb, mul_self_nonneg b]
  have hleft : d ^ 3 - (2 * a * d + 4 * a * b) ≤ 4 * a * b * p := by omega
  have hlength : 0 ≤ 3 * next - 2 * d := by omega
  have hdown' : 3 * next - 2 * d ≤ d := by omega
  have hrate := Int.mul_le_mul_of_nonneg_right hleft hlength
  have hpart := Int.mul_le_mul hdown' hloss (by positivity) (Int.le_of_lt hd)
  have hlift := Int.mul_le_mul_of_nonneg_left hgain (Int.le_of_lt hd)
  refine Int.le_of_mul_le_mul_left ?_ hd
  linarith

theorem Iterate.room_nonneg {d : Int} (h : Iterate amp a b d)
    (hdown : nextInvariant amp a b d ≤ d) :
    0 ≤ 2 * amp * (a' + b') - (2 * amp - 1) * nextInvariant amp a b d := by
  have hroom := h.room hamp ha hb hgain hdown
  have hrange := h.range
  have hamp2 : 0 ≤ 2 * amp := by omega
  have hslope : 0 ≤ 2 * amp - 1 := by omega
  have hsum := Int.mul_le_mul_of_nonneg_left (sum_le_of_gain hamp ha hb hgain) hamp2
  generalize nextInvariant amp a b d = next at *
  by_cases hshort : 2 * d < 3 * next
  · have hab : 0 < 4 * a * b := by positivity
    have hpart := Int.mul_nonneg (Int.sub_nonneg_of_le (Int.le_of_lt hshort)) (sq_nonneg d)
    by_contra hnone
    have := Int.mul_neg_of_pos_of_neg hab (Int.not_le.mp hnone)
    have := hroom hshort
    omega
  · have := Int.mul_le_mul_of_nonneg_left (Int.not_lt.mp hshort) hslope
    linarith

include ha' hb' hproduct

theorem Iterate.step_le_step {d e : Int} (h : Iterate amp a b d) (he : d ≤ e)
    (hdown : nextInvariant amp a b d ≤ d) :
    nextInvariant amp a b d ≤ nextInvariant amp a' b' e := by
  have hd := h.pos
  have he' : 0 < e := by omega
  have hroom := h.room hamp ha hb hgain hdown
  have hp := floorProduct_nonneg ha' hb' (Int.le_of_lt he')
  have hcube := floorProduct_le ha' hb' (Int.le_of_lt he')
  have hscaled := Int.mul_nonneg (Int.le_of_lt he') (h.room_nonneg hamp ha hb hgain hdown)
  refine (Int.le_ediv_iff_mul_le (denominator_pos hamp ha' hb' he')).mpr ?_
  generalize nextInvariant amp a b d = next at *
  generalize floorProduct a' b' e = p at *
  by_cases hsteep : 2 * e < 3 * next
  · have hab : 4 * a * b ≤ 4 * a' * b' := by linarith
    have hab' : 0 < 4 * a' * b' := by positivity
    have hgrown := Int.mul_le_mul_of_nonneg_right hab hscaled
    have hfall := Int.mul_le_mul_of_nonneg_left (cubic_antitone hd hdown he) (Int.le_of_lt he')
    have hkept := Int.mul_le_mul_of_nonneg_left (hroom (by omega)) (Int.le_of_lt he')
    have hpart := Int.mul_le_mul_of_nonneg_right hcube (Int.sub_nonneg_of_le (Int.le_of_lt hsteep))
    refine Int.le_of_mul_le_mul_left ?_ hab'
    linarith
  · have := Int.mul_le_mul_of_nonneg_right (Int.not_lt.mp hsteep) hp
    linarith

theorem Iterate.lockstep {d e : Int} (h : Iterate amp a b d) (he : Settled amp a b d ∨ d ≤ e) :
    Settled amp a b (nextInvariant amp a b d) ∨
      nextInvariant amp a b d ≤ nextInvariant amp a' b' e := by
  obtain hsettled | hle := he
  · exact .inl (h.settled_next hamp ha hb hsettled)
  · by_cases hstay : d - 1 ≤ nextInvariant amp a b d
    · exact .inl (h.settled_of_stay hamp ha hb hstay)
    · exact .inr (h.step_le_step hamp ha hb ha' hb' hproduct hgain hle (by omega))

/-- Both solves in step, the first settled or below the second. Where the second stops first, the
first goes on coming down until it settles. -/
theorem iterate_lockstep (steps : Nat) {last last' : Int} {solution solution' : Solution}
    (h : Iterate amp a b last) (h' : Iterate amp a' b' last')
    (hnow : Settled amp a b (nextInvariant amp a b last) ∨
      nextInvariant amp a b last ≤ nextInvariant amp a' b' last')
    (hsolution : iterate (invariantStep amp a b) steps last (nextInvariant amp a b last) =
      .ok solution)
    (hsolution' : iterate (invariantStep amp a' b') steps last' (nextInvariant amp a' b' last') =
      .ok solution') :
    Settled amp a b solution.value ∨ solution.value ≤ solution'.value := by
  induction steps generalizing last last' with
  | zero =>
    cases hsolution
    cases hsolution'
    exact hnow
  | succ steps ih =>
    have hnext := iterate_next hamp ha hb h
    have hnext' := iterate_next hamp ha' hb' h'
    cases hclose : close last (nextInvariant amp a b last) with
    | true =>
      rw [iterate_of_close hclose] at hsolution
      cases hsolution
      exact .inl (h.settled_of_stay hamp ha hb (close_iff.mp hclose).1)
    | false =>
      cases hclose' : close last' (nextInvariant amp a' b' last') with
      | true =>
        rw [iterate_of_close hclose'] at hsolution'
        cases hsolution'
        exact iterate_settled_or_le hamp ha hb h hnow hsolution
      | false =>
        rw [iterate_of_far hclose, invariantStep_eq hamp ha hb hnext.pos, ok_bind] at hsolution
        rw [iterate_of_far hclose', invariantStep_eq hamp ha' hb' hnext'.pos,
          ok_bind] at hsolution'
        exact ih hnext hnext' (hnext.lockstep hamp ha hb ha' hb' hproduct hgain hnow)
          hsolution hsolution'

end

/-- When balances grow clearly, the invariant does not fall, even where a solve was cut off. -/
theorem invariant_le_of_growsClearly {amp a b a' b' d d' : Int} (hamp : 1 ≤ amp) (ha : 0 < a)
    (hb : 0 < b) (hgrowth : GrowsClearly amp a b a' b')
    (h : (invariant amp a b).outcome = .ok d) (h' : (invariant amp a' b').outcome = .ok d') :
    d ≤ d' := by
  obtain ⟨hproduct, ⟨rfl, rfl⟩ | hgain⟩ := hgrowth
  · rw [h] at h'
    cases h'
    exact Int.le_refl d
  have hpositive := Int.lt_of_lt_of_le (Int.mul_pos ha hb) hproduct
  obtain ⟨ha', hb'⟩ := positive_of_product hamp h' hpositive
  obtain ⟨hpos, _⟩ := invariant_above hamp ha hb h
  obtain ⟨_, habove⟩ := invariant_above hamp ha' hb' h'
  obtain ⟨solution, hsolution, rfl⟩ := solution_of_invariant h
  obtain ⟨solution', hsolution', rfl⟩ := solution_of_invariant h'
  rw [solveInvariant_eq hamp ha hb] at hsolution
  rw [solveInvariant_eq hamp ha' hb'] at hsolution'
  have hstart := iterate_start hamp ha hb
  have hsum := sum_le_of_gain hamp ha hb hgain
  obtain hsettled | hle := iterate_lockstep hamp ha hb ha' hb' hproduct hgain 19 hstart
    (iterate_start hamp ha' hb')
    (hstart.lockstep hamp ha hb ha' hb' hproduct hgain (.inr hsum)) hsolution hsolution'
  · have := lt_of_surplus hamp ha' hb' (hsettled.surplus_nonneg ha hb hgain hproduct hpos) habove
    omega
  · exact hle

end PoolPricing.StableSwap
