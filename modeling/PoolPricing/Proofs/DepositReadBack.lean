import PoolPricing.Proofs.Vault
set_option autoImplicit false

namespace PoolPricing.Vault

open Checked

section

variable {balance supply total deposit minted : Int}

theorem worthAfter_all (hsupply : 0 < supply) (hminted : 0 ≤ minted) :
    worthAfter supply supply total deposit minted = supply * total / supply + deposit := by
  rw [worthAfter, Int.mul_ediv_cancel_left _ (show supply + minted ≠ 0 by omega),
    Int.mul_ediv_cancel_left _ (Int.ne_of_gt hsupply)]

variable (hbalance : 0 ≤ balance) (hle : balance ≤ supply) (hsupply : 0 < supply)
  (htotal : 0 < total) (hminted : 0 ≤ minted)
  (hdust : deposit * supply < (minted + 1) * total)
include hbalance hle htotal hminted hdust

/-- What the others' shares gain of the dust, over the shares after the deposit. -/
theorem dust_le :
    (supply - balance) * (deposit * supply - minted * total) ≤ total * (supply + minted) := by
  have hunder : deposit * supply - minted * total ≤ total := by linarith
  calc (supply - balance) * (deposit * supply - minted * total)
      ≤ (supply - balance) * total := Int.mul_le_mul_of_nonneg_left hunder (by omega)
    _ ≤ (supply + minted) * total := Int.mul_le_mul_of_nonneg_right (by omega) (Int.le_of_lt htotal)
    _ = total * (supply + minted) := Int.mul_comm _ _

include hsupply in
theorem loss_lt :
    (deposit - (worthAfter balance supply total deposit minted - balance * total / supply) - 1) *
      supply < total := by
  have hsum : 0 < supply + minted := by omega
  have hbefore := Int.ediv_mul_le (balance * total) (Int.ne_of_gt hsupply)
  have hafter := Int.lt_ediv_add_one_mul_self ((balance + minted) * (total + deposit)) hsum
  unfold worthAfter
  generalize balance * total / supply = before at *
  generalize (balance + minted) * (total + deposit) / (supply + minted) = after at *
  have hbefore := Int.mul_le_mul_of_nonneg_right hbefore (Int.le_of_lt hsum)
  have hafter := Int.mul_lt_mul_of_pos_right hafter hsupply
  -- over the shares before and after, the loss is the dust that falls to the others
  refine Int.lt_of_mul_lt_mul_right (a := supply + minted) ?_ (Int.le_of_lt hsum)
  calc (deposit - (after - before) - 1) * supply * (supply + minted)
      < (supply - balance) * (deposit * supply - minted * total) := by linarith
    _ ≤ total * (supply + minted) := dust_le hbalance hle htotal hminted hdust

end

/-- Where a vault holds something and has shares, reading a balance back after a deposit gives a
gain: at most the deposit, and short of it by less than a unit and the price of a share; the whole
deposit for whoever has all the shares; and no less for a larger deposit. -/
theorem deposit_readBack {balance supply total : Int} (htotal : 1 ≤ total) (hsupply : 1 ≤ supply)
    (hbalance : 0 ≤ balance) (hle : balance ≤ supply) :
    (∀ deposit, 0 ≤ deposit → ∃ gain,
      gainOfDeposit deposit (balance * total / supply) balance supply total = .ok gain ∧
      0 ≤ gain ∧ gain ≤ deposit ∧ (deposit - gain - 1) * supply < total ∧
      (balance = supply → gain = deposit)) ∧
    ∀ less more gain gain', less ≤ more →
      gainOfDeposit less (balance * total / supply) balance supply total = .ok gain →
      gainOfDeposit more (balance * total / supply) balance supply total = .ok gain' →
      gain ≤ gain' := by
  have hmono := @gainOfDeposit_mono balance supply total
  refine ⟨fun deposit hdeposit => ?_, fun less more gain gain' hmore =>
    hmono hbalance hle hsupply htotal hmore⟩
  have hgain := @gainOfDeposit_eq deposit balance supply total hdeposit hsupply htotal
  have hminted := issued_nonneg hsupply htotal hdeposit
  refine ⟨_, hgain, hmono hbalance hle hsupply htotal hdeposit rfl hgain,
    gainOfDeposit_le hle hsupply (by omega) hgain, ?_, ?_⟩
  · exact loss_lt hbalance hle hsupply htotal hminted
      (Int.lt_ediv_add_one_mul_self (deposit * supply) htotal)
  · rintro rfl
    rw [worthAfter_all hsupply hminted]
    omega

theorem deposit_readBack_hundred :
    (1 : Int) ≤ 100 ∧ (1 : Int) ≤ 7 ∧ (0 : Int) ≤ 1 ∧ (1 : Int) ≤ 7 ∧
    gainOfDeposit 14 (1 * 100 / 7) 1 7 100 = .ok 2 ∧
    (2 : Int) ≤ 14 ∧ (14 - 2 - 1 : Int) * 7 < 100 ∧
    gainOfDeposit 15 (1 * 100 / 7) 1 7 100 = .ok 14 ∧ (2 : Int) ≤ 14 ∧
    gainOfDeposit 14 (7 * 100 / 7) 7 7 100 = .ok 14 := by
  have hfew : gainOfDeposit 14 (1 * 100 / 7) 1 7 100 = .ok 2 := rfl
  have hmany : gainOfDeposit 15 (1 * 100 / 7) 1 7 100 = .ok 14 := rfl
  obtain ⟨hread, hmono⟩ := deposit_readBack (show (1 : Int) ≤ 100 by decide)
    (show (1 : Int) ≤ 7 by decide) (show (0 : Int) ≤ 1 by decide) (by decide)
  obtain ⟨gain, hgain, _, hle, hlost, _⟩ := hread 14 (by decide)
  obtain rfl : 2 = gain := Except.ok.inj (hfew.symm.trans hgain)
  obtain ⟨all, hall, _, _, _, hwhole⟩ := (deposit_readBack (show (1 : Int) ≤ 100 by decide)
    (show (1 : Int) ≤ 7 by decide) (show (0 : Int) ≤ 7 by decide) (by decide)).1 14 (by decide)
  rw [hwhole rfl] at hall
  exact ⟨by decide, by decide, by decide, by decide, hfew, hle, hlost, hmany,
    hmono 14 15 2 14 (by decide) hfew hmany, hall⟩

end PoolPricing.Vault
