import PoolPricing.Quote.Position
import PoolPricing.Proofs.Ceiling
import PoolPricing.Proofs.Outcome
import Mathlib.Tactic.Linarith
import Mathlib.Tactic.Ring
set_option autoImplicit false

namespace PoolPricing

open Checked

def Rounding.quotient (rounding : Rounding) (n d : Int) : Int :=
  match rounding with
  | .down => n / d
  | .up => Number.ceiling n d

namespace Vault

theorem divide_eq_ok {rounding : Rounding} {n d q : Int} (hd : 0 ≤ d) :
    divide rounding n d = .ok q ↔ 0 < d ∧ rounding.quotient n d = q := by
  by_cases hzero : d = 0
  · simp [divide, hzero]
  · have hpos : 0 < d := by omega
    cases rounding with
    | down => simp [divide_down_of_pos n hpos, hpos, Rounding.quotient]
    | up => simp [divide_up_of_pos n hpos, hpos, Rounding.quotient, Number.ceiling]

theorem amountOfShare_eq_ok {rounding : Rounding} {share total supply worth : Int} :
    amountOfShare rounding share total supply = .ok worth ↔
      0 ≤ share ∧ 0 ≤ total ∧ 0 < supply ∧ rounding.quotient (share * total) supply = worth := by
  simp only [amountOfShare, bind_eq_ok, requireNonnegativeShown_eq_ok, exists_and_left,
    exists_const]
  refine and_congr_right fun _ => and_congr_right fun _ => ?_
  constructor
  · rintro ⟨hsupply, h⟩
    exact (divide_eq_ok hsupply).mp h
  · rintro ⟨hsupply, h⟩
    have hnonneg := Int.le_of_lt hsupply
    exact ⟨hnonneg, (divide_eq_ok hnonneg).mpr ⟨hsupply, h⟩⟩

theorem shareOfAmount_eq_ok {rounding : Rounding} {amount total supply share : Int}
    (htotal : 0 < total) :
    shareOfAmount rounding amount total supply = .ok share ↔
      0 ≤ amount ∧ 0 ≤ supply ∧ rounding.quotient (amount * supply) total = share := by
  have hnonneg := Int.le_of_lt htotal
  simp only [shareOfAmount, bind_eq_ok, requireNonnegativeShown_eq_ok, exists_and_left,
    exists_const, Int.ne_of_gt htotal, if_false, divide_eq_ok hnonneg, htotal, hnonneg, true_and]

theorem sharesToBurn_eq_ok {amount unlocked supply share : Int} (hunlocked : 0 ≤ unlocked) :
    sharesToBurn amount unlocked supply = .ok share ↔
      0 ≤ amount ∧ 0 < unlocked ∧ amount * supply / unlocked = share := by
  simp only [sharesToBurn, bind_eq_ok, requireNonnegativeShown_eq_ok, exists_and_left,
    exists_const, divide_eq_ok hunlocked, Rounding.quotient]

theorem shareOfAmount_down_of_pos {amount total supply : Int} (hamount : 0 ≤ amount)
    (htotal : 0 < total) (hsupply : 0 ≤ supply) :
    shareOfAmount .down amount total supply = .ok (amount * supply / total) :=
  (shareOfAmount_eq_ok htotal).mpr ⟨hamount, hsupply, rfl⟩

theorem amountOfShare_down_of_pos {share total supply : Int} (hshare : 0 ≤ share)
    (htotal : 0 ≤ total) (hsupply : 0 < supply) :
    amountOfShare .down share total supply = .ok (share * total / supply) :=
  amountOfShare_eq_ok.mpr ⟨hshare, htotal, hsupply, rfl⟩

theorem shareOfAmount_ok {amount total supply share : Int}
    (h : shareOfAmount .down amount total supply = .ok share) :
    0 ≤ share ∧ share * total ≤ amount * supply := by
  have hguards := h
  simp only [shareOfAmount, bind_eq_ok, requireNonnegativeShown_eq_ok, exists_and_left,
    exists_const] at hguards
  obtain ⟨hamount, htotal, hsupply, hquotient⟩ := hguards
  have hvalue : 0 ≤ amount * supply := Int.mul_nonneg hamount hsupply
  by_cases hzero : total = 0
  · simp only [hzero, if_true, pure_eq_ok] at hquotient
    subst hquotient hzero
    simpa using hvalue
  · obtain ⟨_, _, rfl⟩ := (shareOfAmount_eq_ok (show 0 < total by omega)).mp h
    exact ⟨Int.ediv_nonneg hvalue htotal, Int.ediv_mul_le _ hzero⟩

def issued (supply total deposit : Int) : Int := deposit * supply / total

def worthAfter (balance supply total deposit minted : Int) : Int :=
  (balance + minted) * (total + deposit) / (supply + minted)

theorem issued_nonneg {supply total deposit : Int} (hsupply : 0 < supply) (htotal : 0 < total)
    (hdeposit : 0 ≤ deposit) : 0 ≤ issued supply total deposit :=
  Int.ediv_nonneg (Int.mul_nonneg hdeposit (Int.le_of_lt hsupply)) (Int.le_of_lt htotal)

theorem issued_mono {supply total less more : Int} (hsupply : 0 < supply) (htotal : 0 < total)
    (hle : less ≤ more) : issued supply total less ≤ issued supply total more :=
  Int.ediv_le_ediv htotal (Int.mul_le_mul_of_nonneg_right hle (Int.le_of_lt hsupply))

/-- The shares of everyone else do not lose value by a deposit, so the depositor's own shares gain
at most the deposit. -/
theorem worthAfter_le {balance supply total deposit minted : Int} (hle : balance ≤ supply)
    (hsupply : 0 < supply) (htotal : 0 < total) (hdeposit : 0 ≤ deposit) (hminted : 0 ≤ minted)
    (hissue : minted * total ≤ deposit * supply) :
    worthAfter balance supply total deposit minted ≤ balance * total / supply + deposit := by
  have hfloor := Int.lt_ediv_add_one_mul_self (balance * total) hsupply
  generalize balance * total / supply = before at *
  have hkept : 0 ≤ deposit * (supply - balance) :=
    Int.mul_nonneg hdeposit (Int.sub_nonneg_of_le hle)
  have hothers : minted * (total - before - 1) ≤ deposit * (supply - balance) := by
    by_cases hworth : total - before - 1 ≤ 0
    · exact Int.le_trans (Int.mul_nonpos_of_nonneg_of_nonpos hminted hworth) hkept
    · have hstep : (total - before - 1) * supply ≤ total * (supply - balance) := by nlinarith
      have hscaled := Int.mul_le_mul hissue hstep
        (Int.mul_nonneg (by omega) (Int.le_of_lt hsupply))
        (Int.mul_nonneg hdeposit (Int.le_of_lt hsupply))
      refine Int.le_of_mul_le_mul_right ?_ (Int.mul_pos htotal hsupply)
      linarith
  apply Int.le_of_lt_add_one
  apply Int.ediv_lt_of_lt_mul (by omega)
  linarith

theorem worthAfter_mono {balance supply total less more few many : Int} (hbalance : 0 ≤ balance)
    (hle : balance ≤ supply) (hsupply : 0 < supply) (htotal : 0 < total) (hless : 0 ≤ less)
    (hmore : less ≤ more) (hfew : 0 ≤ few) (hmany : few ≤ many) :
    worthAfter balance supply total less few ≤ worthAfter balance supply total more many := by
  refine Number.ediv_le_ediv_of_cross (by omega) (by omega) ?_
  have hpart : (balance + few) * (supply + many) ≤ (balance + many) * (supply + few) := by
    have := Int.mul_le_mul_of_nonneg_right hle (Int.sub_nonneg_of_le hmany)
    linarith
  calc (balance + few) * (total + less) * (supply + many)
      = (balance + few) * (supply + many) * (total + less) := by ring
    _ ≤ (balance + many) * (supply + few) * (total + less) :=
        Int.mul_le_mul_of_nonneg_right hpart (by omega)
    _ ≤ (balance + many) * (supply + few) * (total + more) :=
        Int.mul_le_mul_of_nonneg_left (by omega) (Int.mul_nonneg (by omega) (by omega))
    _ = (balance + many) * (total + more) * (supply + few) := by ring

theorem nonneg_of_gainOfDeposit {deposit before balance supply total gain : Int}
    (h : gainOfDeposit deposit before balance supply total = .ok gain) : 0 ≤ deposit := by
  obtain ⟨_, hguard, _⟩ := bind_eq_ok.mp h
  exact requireNonnegativeShown_eq_ok.mp hguard

theorem gainOfDeposit_eq {deposit balance supply total : Int} (hdeposit : 0 ≤ deposit)
    (hsupply : 0 < supply) (htotal : 0 < total) :
    gainOfDeposit deposit (balance * total / supply) balance supply total =
      .ok (worthAfter balance supply total deposit (issued supply total deposit) -
        balance * total / supply) := by
  have hminted := issued_nonneg hsupply htotal hdeposit
  simp only [gainOfDeposit, requireNonnegativeShown_of_nonneg _ hdeposit, ok_bind]
  by_cases hnone : deposit = 0
  · simp [hnone, worthAfter, issued, pure, Except.pure]
  · simp only [hnone, Int.ne_of_gt htotal, if_false, floorDivide_of_pos _ htotal, ok_bind]
    change divide .down _ (supply + issued supply total deposit) >>= _ = _
    rw [divide_down_of_pos _ (show 0 < supply + issued supply total deposit by omega)]
    rfl

theorem gainOfDeposit_mono {balance supply total less more gain gain' : Int}
    (hbalance : 0 ≤ balance) (hle : balance ≤ supply) (hsupply : 0 < supply) (htotal : 0 < total)
    (hmore : less ≤ more)
    (h : gainOfDeposit less (balance * total / supply) balance supply total = .ok gain)
    (h' : gainOfDeposit more (balance * total / supply) balance supply total = .ok gain') :
    gain ≤ gain' := by
  have hless := nonneg_of_gainOfDeposit h
  rw [gainOfDeposit_eq hless hsupply htotal] at h
  rw [gainOfDeposit_eq (Int.le_trans hless hmore) hsupply htotal] at h'
  cases h
  cases h'
  exact Int.sub_le_sub_right (worthAfter_mono hbalance hle hsupply htotal hless hmore
    (issued_nonneg hsupply htotal hless) (issued_mono hsupply htotal hmore)) _

theorem gainOfDeposit_le {deposit balance supply total gain : Int} (hle : balance ≤ supply)
    (hsupply : 0 < supply) (htotal : 0 ≤ total)
    (h : gainOfDeposit deposit (balance * total / supply) balance supply total = .ok gain) :
    gain ≤ deposit := by
  have hdeposit := nonneg_of_gainOfDeposit h
  by_cases hempty : total = 0
  · simp only [gainOfDeposit, requireNonnegativeShown_of_nonneg _ hdeposit, ok_bind, hempty,
      if_true, refuse_bind] at h
    by_cases hnone : deposit = 0 <;> simp only [hnone, if_true, if_false, pure_eq_ok] at h
    · omega
    · contradiction
  · have hpos : 0 < total := by omega
    rw [gainOfDeposit_eq hdeposit hsupply hpos] at h
    cases h
    have hafter := worthAfter_le hle hsupply hpos hdeposit (issued_nonneg hsupply hpos hdeposit)
      (Int.ediv_mul_le (deposit * supply) hempty)
    omega

end Vault

/-- A position whose amount is what its shares are worth. -/
structure Position.Backed (position : Position) : Prop where
  shares_nonneg : 0 ≤ position.shares
  shares_le : position.shares ≤ position.supply
  supply_pos : 0 < position.supply
  withdrawable_nonneg : 0 ≤ position.withdrawable
  reserve_nonneg : 0 ≤ position.reserve
  amount_eq : position.amount = position.shares * position.withdrawable / position.supply

theorem Holding.position_backed {holding : Holding} {now : Int} {position : Position}
    (h : holding.position now = .ok position) : position.Backed := by
  obtain ⟨amount, hamount, h⟩ := bind_eq_ok.mp h
  obtain ⟨withdrawable, hwithdrawable, h⟩ := bind_eq_ok.mp h
  obtain ⟨unlocked, hunlocked, hvalue⟩ := bind_eq_ok.mp hamount
  rw [hwithdrawable] at hunlocked
  cases hunlocked
  cases h
  obtain ⟨hshares, htotal, hsupply, rfl⟩ := Vault.amountOfShare_eq_ok.mp hvalue
  exact ⟨hshares, holding.shares_le, hsupply, htotal, holding.reserve.nonneg, rfl⟩

namespace Position

variable {position : Position}

theorem Backed.gain_le (hbacked : position.Backed) {deposit gain : Int}
    (h : position.gain deposit = .ok gain) : gain ≤ deposit := by
  rw [Position.gain, hbacked.amount_eq] at h
  exact Vault.gainOfDeposit_le hbacked.shares_le hbacked.supply_pos hbacked.withdrawable_nonneg h

theorem Backed.payout_le (hbacked : position.Backed) {amount paid : Int}
    (h : position.payout amount = .ok paid) : paid ≤ amount := by
  obtain ⟨burned, hburned, h⟩ := bind_eq_ok.mp h
  obtain ⟨_, _, hsupply, rfl⟩ := Vault.amountOfShare_eq_ok.mp h
  obtain ⟨_, hpos, rfl⟩ := (Vault.sharesToBurn_eq_ok hbacked.withdrawable_nonneg).mp hburned
  refine Int.ediv_le_of_le_mul hsupply ?_
  exact Int.ediv_mul_le (amount * position.supply) (Int.ne_of_gt hpos)

theorem Backed.withdrawable_pos (hbacked : position.Backed) (h : 0 < position.amount) :
    0 < position.withdrawable := by
  have hnonneg := hbacked.withdrawable_nonneg
  rw [hbacked.amount_eq] at h
  by_contra hnone
  have hzero : position.withdrawable = 0 := by omega
  simp [hzero] at h

theorem Backed.gain_eq (hbacked : position.Backed) (hworth : 0 < position.withdrawable)
    {deposit : Int} (hdeposit : 0 ≤ deposit) :
    position.gain deposit =
      .ok ((position.shares + deposit * position.supply / position.withdrawable) *
        (position.withdrawable + deposit) /
        (position.supply + deposit * position.supply / position.withdrawable) -
        position.amount) := by
  rw [gain, hbacked.amount_eq]
  exact Vault.gainOfDeposit_eq hdeposit hbacked.supply_pos hworth

theorem Backed.payout_eq (hbacked : position.Backed) (hworth : 0 < position.withdrawable)
    {amount : Int} (hamount : 0 ≤ amount) :
    position.payout amount = .ok (amount * position.supply / position.withdrawable *
      position.withdrawable / position.supply) := by
  have hburned : 0 ≤ amount * position.supply / position.withdrawable :=
    Int.ediv_nonneg (Int.mul_nonneg hamount (Int.le_of_lt hbacked.supply_pos))
      (Int.le_of_lt hworth)
  rw [Position.payout, (Vault.sharesToBurn_eq_ok (Int.le_of_lt hworth)).mpr ⟨hamount, hworth, rfl⟩,
    ok_bind]
  exact Vault.amountOfShare_down_of_pos hburned (Int.le_of_lt hworth) hbacked.supply_pos

end Position
end PoolPricing
