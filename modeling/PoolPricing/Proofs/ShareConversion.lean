import PoolPricing.Proofs.Vault
import Mathlib.Data.Int.ConditionallyCompleteOrder
import Mathlib.Tactic.Linarith
set_option autoImplicit false

/-!
Shares against amounts. Rounding down the one way goes with rounding up the other: an amount pays
for just the shares from none up to its own worth in shares rounded down (`affordable_eq`), and it
takes its worth in shares rounded up to come to the amount (`sufficient_eq`). Rounding down both
ways loses less than a unit and the price of a share.
-/

namespace PoolPricing.Vault

open Checked Number

/-- The shares whose price, rounded up, an amount pays. -/
def affordable (amount total supply : Int) : Set Int :=
  {share | ∃ price, amountOfShare .up share total supply = .ok price ∧ price ≤ amount}

/-- The shares whose worth, rounded down, comes to an amount. -/
def sufficient (amount total supply : Int) : Set Int :=
  {share | ∃ worth, amountOfShare .down share total supply = .ok worth ∧ amount ≤ worth}

section

variable {amount total supply : Int} (htotal : 0 < total) (hsupply : 0 < supply)
include htotal hsupply

theorem amountOfShare_returns (rounding : Rounding) {share : Int} (hshare : 0 ≤ share) :
    ∃ worth, amountOfShare rounding share total supply = .ok worth :=
  ⟨_, amountOfShare_eq_ok.mpr ⟨hshare, Int.le_of_lt htotal, hsupply, rfl⟩⟩

theorem affordable_eq : affordable amount total supply = Set.Icc 0 (amount * supply / total) := by
  ext share
  simp only [affordable, amountOfShare_eq_ok, Set.mem_ofPred_eq, Set.mem_Icc]
  constructor
  · rintro ⟨_, ⟨hshare, _, _, rfl⟩, hprice⟩
    exact ⟨hshare, (Int.le_ediv_iff_mul_le htotal).mpr ((ceiling_le_iff hsupply).mp hprice)⟩
  · rintro ⟨hshare, hle⟩
    exact ⟨_, ⟨hshare, Int.le_of_lt htotal, hsupply, rfl⟩,
      (ceiling_le_iff hsupply).mpr ((Int.le_ediv_iff_mul_le htotal).mp hle)⟩

theorem sufficient_eq (hamount : 0 ≤ amount) :
    sufficient amount total supply = Set.Ici (ceiling (amount * supply) total) := by
  ext share
  simp only [sufficient, amountOfShare_eq_ok, Set.mem_ofPred_eq, Set.mem_Ici]
  constructor
  · rintro ⟨_, ⟨_, _, _, rfl⟩, hworth⟩
    exact (ceiling_le_iff htotal).mpr ((Int.le_ediv_iff_mul_le hsupply).mp hworth)
  · intro hle
    have hnonneg := ceiling_nonneg (Int.mul_nonneg hamount (Int.le_of_lt hsupply)) htotal
    exact ⟨_, ⟨by omega, Int.le_of_lt htotal, hsupply, rfl⟩,
      (Int.le_ediv_iff_mul_le hsupply).mpr ((ceiling_le_iff htotal).mp hle)⟩

theorem roundTrip_bounds (amount : Int) :
    amount * supply / total * total / supply ≤ amount ∧
      (amount - amount * supply / total * total / supply - 1) * supply < total := by
  have hshare := Int.ediv_mul_le (amount * supply) (Int.ne_of_gt htotal)
  have hlost := Int.lt_ediv_add_one_mul_self (amount * supply) htotal
  generalize amount * supply / total = share at *
  have hback := Int.lt_ediv_add_one_mul_self (share * total) hsupply
  exact ⟨Int.ediv_le_of_le_mul hsupply hshare, by linarith⟩

end

/-- Where a vault holds something and has shares, every share has a price and a worth. An amount's
worth in shares is, rounded down, the most shares that it pays for, burning shares for a payout
being no different, and rounded up the fewest that are worth it. There and back, both rounded down,
loses less than one unit and the price of a share, so one unit at most where no share is dearer than
that. -/
theorem conversions_adjoint {amount total supply : Int} (htotal : 1 ≤ total) (hsupply : 1 ≤ supply)
    (hamount : 0 ≤ amount) :
    (∀ rounding share, 0 ≤ share → ∃ worth, amountOfShare rounding share total supply = .ok worth) ∧
    (∃ share back, shareOfAmount .down amount total supply = .ok share ∧
      sharesToBurn amount total supply = .ok share ∧
      IsGreatest (affordable amount total supply) share ∧
      amountOfShare .down share total supply = .ok back ∧
      back ≤ amount ∧ (amount - back - 1) * supply < total ∧
      (total ≤ supply → back = amount ∨ back = amount - 1)) ∧
    ∃ share, shareOfAmount .up amount total supply = .ok share ∧
      IsLeast (sufficient amount total supply) share := by
  have hvalue := Int.mul_nonneg hamount (show 0 ≤ supply by omega)
  have hshare := Int.ediv_nonneg hvalue (show 0 ≤ total by omega)
  obtain ⟨hback, hlost⟩ := roundTrip_bounds htotal hsupply amount
  refine ⟨fun rounding share => amountOfShare_returns htotal hsupply rounding,
    ⟨_, _, shareOfAmount_down_of_pos hamount htotal (by omega),
      (sharesToBurn_eq_ok (by omega)).mpr ⟨hamount, htotal, rfl⟩, ?_,
      amountOfShare_down_of_pos hshare (by omega) hsupply, hback, hlost, fun hcheap => ?_⟩,
    _, (shareOfAmount_eq_ok htotal).mpr ⟨hamount, by omega, rfl⟩, ?_⟩
  · rw [affordable_eq htotal hsupply]
    exact isGreatest_Icc hshare
  · have hone := Int.lt_of_mul_lt_mul_right (Int.lt_of_lt_of_le hlost
      (show total ≤ 1 * supply by omega)) (by omega)
    omega
  · rw [sufficient_eq htotal hsupply hamount]
    exact isLeast_Ici

theorem conversions_adjoint_hundred :
    (1 : Int) ≤ 100 ∧ (1 : Int) ≤ 7 ∧ (0 : Int) ≤ 50 ∧
    shareOfAmount .down 50 100 7 = .ok 3 ∧ IsGreatest (affordable 50 100 7) 3 ∧
    amountOfShare .up 3 100 7 = .ok 43 ∧
    shareOfAmount .up 50 100 7 = .ok 4 ∧ IsLeast (sufficient 50 100 7) 4 ∧
    amountOfShare .down 3 100 7 = .ok 42 ∧ (50 - 42 - 1 : Int) * 7 < 100 := by
  have hshare : shareOfAmount .down 50 100 7 = .ok 3 := rfl
  have hcover : shareOfAmount .up 50 100 7 = .ok 4 := rfl
  have hworth : amountOfShare .down 3 100 7 = .ok 42 := rfl
  obtain ⟨_, ⟨share, back, hdown, _, hmost, hback, _, hlost, _⟩, covering, hup, hleast⟩ :=
    conversions_adjoint (show (1 : Int) ≤ 100 by decide) (show (1 : Int) ≤ 7 by decide)
      (show (0 : Int) ≤ 50 by decide)
  obtain rfl : 3 = share := Except.ok.inj (hshare.symm.trans hdown)
  obtain rfl : 4 = covering := Except.ok.inj (hcover.symm.trans hup)
  obtain rfl : 42 = back := Except.ok.inj (hworth.symm.trans hback)
  exact ⟨by decide, by decide, by decide, hshare, hmost, rfl, hcover, hleast, hworth, hlost⟩

end PoolPricing.Vault
