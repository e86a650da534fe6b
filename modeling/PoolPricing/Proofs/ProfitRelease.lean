import PoolPricing.Proofs.Vault
set_option autoImplicit false

/-!
The release of a vault's profit as time goes on. What is locked falls evenly to nothing and stays
there, rounded down on the way (`lockedAfter_antitone`); where the release ends nothing jumps, as
the two branches are one formula. So what can be withdrawn only grows, and once it can be told it
can be told at every later time.
-/

namespace PoolPricing

open Checked

namespace Tracker

/-- The profit still locked once so many parts of `releaseScale` have been released. -/
def lockedAfter (tracker : Tracker) (released : Int) : Int :=
  tracker.lockedProfit * (releaseScale - released).toNat / releaseScale

/-- The parts of `releaseScale` released at a time, more than all of them once the release is over.
-/
def releasedAt (tracker : Tracker) (now : Int) : Int :=
  (now - tracker.lastReport) * tracker.degradation

variable (tracker : Tracker) {now earlier later locked : Int}

theorem releaseScale_pos : 0 < releaseScale := by decide

theorem lockedAt_eq_ok :
    tracker.lockedAt now = .ok locked ↔
      tracker.lastReport ≤ now ∧ tracker.lockedAfter (tracker.releasedAt now) = locked := by
  simp only [lockedAt, refuse_eq, guard_eq_ok, Int.not_lt]
  refine and_congr_right fun _ => ?_
  unfold lockedAfter releasedAt
  split
  · rename_i hover
    rw [Int.toNat_of_nonpos (by omega)]
    simp [pure_eq_ok]
  · rename_i hunder
    rw [Int.toNat_of_nonneg (by omega), pure_eq_ok]

theorem lockedAfter_nonneg (released : Int) : 0 ≤ tracker.lockedAfter released :=
  Int.ediv_nonneg (Int.mul_nonneg tracker.locked_nonneg (Int.natCast_nonneg _))
    (Int.le_of_lt releaseScale_pos)

theorem lockedAfter_antitone {less more : Int} (h : less ≤ more) :
    tracker.lockedAfter more ≤ tracker.lockedAfter less := by
  refine Int.ediv_le_ediv releaseScale_pos ?_
  exact Int.mul_le_mul_of_nonneg_left (by omega) tracker.locked_nonneg

theorem lockedAfter_zero : tracker.lockedAfter 0 = tracker.lockedProfit :=
  Int.mul_ediv_cancel _ (Int.ne_of_gt releaseScale_pos)

theorem lockedAfter_of_scale_le {released : Int} (h : releaseScale ≤ released) :
    tracker.lockedAfter released = 0 := by
  rw [lockedAfter, Int.toNat_of_nonpos (by omega)]
  simp

theorem releasedAt_nonneg (h : tracker.lastReport ≤ now) : 0 ≤ tracker.releasedAt now :=
  Int.mul_nonneg (by omega) tracker.degradation_nonneg

theorem releasedAt_mono (h : earlier ≤ later) :
    tracker.releasedAt earlier ≤ tracker.releasedAt later :=
  Int.mul_le_mul_of_nonneg_right (by omega) tracker.degradation_nonneg

theorem lastReport_le_of_released (h : 0 < tracker.releasedAt now) : tracker.lastReport ≤ now := by
  by_contra hbefore
  have := Int.mul_nonpos_of_nonpos_of_nonneg (show now - tracker.lastReport ≤ 0 by omega)
    tracker.degradation_nonneg
  unfold releasedAt at h
  omega

theorem lockedAt_lastReport : tracker.lockedAt tracker.lastReport = .ok tracker.lockedProfit := by
  refine tracker.lockedAt_eq_ok.mpr ⟨Int.le_refl _, ?_⟩
  rw [releasedAt, Int.sub_self, Int.zero_mul, lockedAfter_zero]

theorem lockedAt_bounds (h : tracker.lockedAt now = .ok locked) :
    0 ≤ locked ∧ locked ≤ tracker.lockedProfit := by
  obtain ⟨hreport, rfl⟩ := tracker.lockedAt_eq_ok.mp h
  refine ⟨tracker.lockedAfter_nonneg _, ?_⟩
  have := tracker.lockedAfter_antitone (tracker.releasedAt_nonneg hreport)
  rwa [lockedAfter_zero] at this

theorem lockedAt_antitone (hle : earlier ≤ later) (h : tracker.lockedAt earlier = .ok locked) :
    ∃ less, tracker.lockedAt later = .ok less ∧ less ≤ locked := by
  obtain ⟨hreport, rfl⟩ := tracker.lockedAt_eq_ok.mp h
  exact ⟨_, tracker.lockedAt_eq_ok.mpr ⟨Int.le_trans hreport hle, rfl⟩,
    tracker.lockedAfter_antitone (tracker.releasedAt_mono hle)⟩

theorem lockedAt_of_released (h : releaseScale ≤ tracker.releasedAt now) :
    tracker.lockedAt now = .ok 0 :=
  tracker.lockedAt_eq_ok.mpr
    ⟨tracker.lastReport_le_of_released (Int.lt_of_lt_of_le releaseScale_pos h),
      tracker.lockedAfter_of_scale_le h⟩

end Tracker

namespace Vault

variable (vault : Vault) {now earlier later unlocked : Int}

theorem unlockedAt_eq_ok :
    vault.unlockedAt now = .ok unlocked ↔
      ∃ locked, vault.lockedAt now = .ok locked ∧ locked ≤ vault.total ∧
        vault.total - locked = unlocked := by
  simp only [unlockedAt, bind_eq_ok, refuse_bind, guard_eq_ok, pure_eq_ok]
  refine exists_congr fun locked => and_congr_right fun _ => and_congr_left fun _ => ?_
  omega

theorem unlockedAt_bounds (h : vault.unlockedAt now = .ok unlocked) :
    0 ≤ unlocked ∧ unlocked ≤ vault.total := by
  obtain ⟨locked, hlocked, hle, rfl⟩ := vault.unlockedAt_eq_ok.mp h
  have := (vault.tracker.lockedAt_bounds hlocked).1
  omega

theorem unlockedAt_mono (hle : earlier ≤ later) (h : vault.unlockedAt earlier = .ok unlocked) :
    ∃ more, vault.unlockedAt later = .ok more ∧ unlocked ≤ more := by
  obtain ⟨locked, hlocked, hcovered, rfl⟩ := vault.unlockedAt_eq_ok.mp h
  obtain ⟨less, hless, hfallen⟩ := vault.tracker.lockedAt_antitone hle hlocked
  exact ⟨_, vault.unlockedAt_eq_ok.mpr ⟨less, hless, by omega, rfl⟩, by omega⟩

theorem unlockedAt_of_released (h : Tracker.releaseScale ≤ vault.tracker.releasedAt now) :
    vault.unlockedAt now = .ok vault.total := by
  refine vault.unlockedAt_eq_ok.mpr ⟨0, vault.tracker.lockedAt_of_released h,
    vault.total_nonneg, ?_⟩
  omega

theorem amountOfShareAt_eq_ok {share supply worth : Int} :
    vault.amountOfShareAt now share supply = .ok worth ↔
      ∃ unlocked, vault.unlockedAt now = .ok unlocked ∧ 0 ≤ share ∧ 0 < supply ∧
        share * unlocked / supply = worth := by
  simp only [amountOfShareAt, bind_eq_ok]
  refine exists_congr fun unlocked => and_congr_right fun h => ?_
  simp [amountOfShare_eq_ok, (vault.unlockedAt_bounds h).1, Rounding.quotient]

theorem sharesToBurnAt_eq_ok {amount supply burned : Int} :
    vault.sharesToBurnAt now amount supply = .ok burned ↔
      ∃ unlocked, vault.unlockedAt now = .ok unlocked ∧ 0 ≤ amount ∧ 0 < unlocked ∧
        amount * supply / unlocked = burned := by
  simp only [sharesToBurnAt, bind_eq_ok]
  exact exists_congr fun unlocked => and_congr_right fun h =>
    sharesToBurn_eq_ok (vault.unlockedAt_bounds h).1

theorem amountOfShareAt_mono {share supply worth : Int} (hle : earlier ≤ later)
    (h : vault.amountOfShareAt earlier share supply = .ok worth) :
    ∃ more, vault.amountOfShareAt later share supply = .ok more ∧ worth ≤ more := by
  obtain ⟨unlocked, hunlocked, hshare, hsupply, rfl⟩ := vault.amountOfShareAt_eq_ok.mp h
  obtain ⟨more, hmore, hgrown⟩ := vault.unlockedAt_mono hle hunlocked
  refine ⟨_, vault.amountOfShareAt_eq_ok.mpr ⟨more, hmore, hshare, hsupply, rfl⟩, ?_⟩
  exact Int.ediv_le_ediv hsupply (Int.mul_le_mul_of_nonneg_left hgrown hshare)

theorem sharesToBurnAt_antitone {amount supply burned : Int} (hsupply : 0 < supply)
    (hle : earlier ≤ later) (h : vault.sharesToBurnAt earlier amount supply = .ok burned) :
    ∃ fewer, vault.sharesToBurnAt later amount supply = .ok fewer ∧ fewer ≤ burned := by
  obtain ⟨unlocked, hunlocked, hamount, hpos, rfl⟩ := vault.sharesToBurnAt_eq_ok.mp h
  obtain ⟨more, hmore, hgrown⟩ := vault.unlockedAt_mono hle hunlocked
  have hmorePos : 0 < more := Int.lt_of_lt_of_le hpos hgrown
  have hvalue : 0 ≤ amount * supply := Int.mul_nonneg hamount (Int.le_of_lt hsupply)
  refine ⟨_, vault.sharesToBurnAt_eq_ok.mpr ⟨more, hmore, hamount, hmorePos, rfl⟩, ?_⟩
  exact Number.ediv_le_ediv_of_cross hmorePos hpos (Int.mul_le_mul_of_nonneg_left hgrown hvalue)

/-- A vault locks the reported profit at the report and never more than that. Once all of it is
released the whole vault can be withdrawn. Where it can be told what can be withdrawn, it can be
told at every later time, and it has only grown, up to what the vault holds. So a share is worth no
less later, and a payout burns no more shares, as long as there is something to pay it out of. -/
theorem profit_only_unlocks (vault : Vault) {supply earlier later : Int} (hsupply : 0 < supply)
    (hle : earlier ≤ later) :
    vault.lockedAt vault.tracker.lastReport = .ok vault.tracker.lockedProfit ∧
    (∀ now locked, vault.lockedAt now = .ok locked →
      0 ≤ locked ∧ locked ≤ vault.tracker.lockedProfit) ∧
    (∀ now, Tracker.releaseScale ≤
      (now - vault.tracker.lastReport) * vault.tracker.degradation →
      vault.unlockedAt now = .ok vault.total) ∧
    (∀ unlocked, vault.unlockedAt earlier = .ok unlocked →
      (∃ more, vault.unlockedAt later = .ok more ∧
        0 ≤ unlocked ∧ unlocked ≤ more ∧ more ≤ vault.total) ∧
      (∀ share, 0 ≤ share ↔
        ∃ worth, vault.amountOfShareAt earlier share supply = .ok worth) ∧
      ∀ amount, 0 ≤ amount ∧ 0 < unlocked ↔
        ∃ burned, vault.sharesToBurnAt earlier amount supply = .ok burned) ∧
    (∀ share worth, vault.amountOfShareAt earlier share supply = .ok worth →
      ∃ more, vault.amountOfShareAt later share supply = .ok more ∧ worth ≤ more) ∧
    ∀ amount burned, vault.sharesToBurnAt earlier amount supply = .ok burned →
      ∃ fewer, vault.sharesToBurnAt later amount supply = .ok fewer ∧ fewer ≤ burned := by
  refine ⟨vault.tracker.lockedAt_lastReport, fun _ _ => vault.tracker.lockedAt_bounds,
    fun _ => vault.unlockedAt_of_released,
    fun unlocked h => ⟨?_, fun share => ?_, fun amount => ?_⟩,
    fun _ _ => vault.amountOfShareAt_mono hle,
    fun _ _ => vault.sharesToBurnAt_antitone hsupply hle⟩
  · obtain ⟨more, hmore, hgrown⟩ := vault.unlockedAt_mono hle h
    exact ⟨more, hmore, (vault.unlockedAt_bounds h).1, hgrown, (vault.unlockedAt_bounds hmore).2⟩
  · simp [amountOfShareAt_eq_ok, h, hsupply]
  · simp [sharesToBurnAt_eq_ok, h]

theorem profit_only_unlocks_hundred :
    let vault : Vault := ⟨100, ⟨7, 10, 300000000000, by decide, by decide, by decide⟩, by decide⟩
    (0 : Int) < 50 ∧ (11 : Int) ≤ 14 ∧
    vault.lockedAt 10 = .ok 7 ∧ vault.lockedAt 11 = .ok 4 ∧ (0 : Int) ≤ 4 ∧ (4 : Int) ≤ 7 ∧
    Tracker.releaseScale ≤ (14 - 10) * 300000000000 ∧ vault.unlockedAt 14 = .ok 100 ∧
    vault.unlockedAt 11 = .ok 96 ∧ (0 : Int) ≤ 96 ∧ (96 : Int) ≤ 100 ∧
    vault.amountOfShareAt 11 25 50 = .ok 48 ∧ vault.amountOfShareAt 14 25 50 = .ok 50 ∧
    (48 : Int) ≤ 50 ∧
    vault.sharesToBurnAt 11 96 50 = .ok 50 ∧ vault.sharesToBurnAt 14 96 50 = .ok 48 ∧
    (48 : Int) ≤ 50 := by
  intro vault
  have hlocked : vault.lockedAt 11 = .ok 4 := rfl
  have hunlocked : vault.unlockedAt 11 = .ok 96 := rfl
  have hworth : vault.amountOfShareAt 11 25 50 = .ok 48 := rfl
  have hburned : vault.sharesToBurnAt 11 96 50 = .ok 50 := rfl
  obtain ⟨hreport, hbounds, hreleased, hgrows, hshares, hpayouts⟩ :=
    profit_only_unlocks vault (show (0 : Int) < 50 by decide) (show (11 : Int) ≤ 14 by decide)
  have hall := hreleased 14 (by decide)
  obtain ⟨⟨more, hmore, hnonneg, hgrown, _⟩, _⟩ := hgrows 96 hunlocked
  obtain rfl : 100 = more := Except.ok.inj (hall.symm.trans hmore)
  obtain ⟨dearer, hdearer, hworthMore⟩ := hshares 25 48 hworth
  obtain rfl : 50 = dearer :=
    Except.ok.inj (Eq.trans (show Except.ok 50 = vault.amountOfShareAt 14 25 50 from rfl) hdearer)
  obtain ⟨fewer, hfewer, hburnedLess⟩ := hpayouts 96 50 hburned
  obtain rfl : 48 = fewer :=
    Except.ok.inj (Eq.trans (show Except.ok 48 = vault.sharesToBurnAt 14 96 50 from rfl) hfewer)
  exact ⟨by decide, by decide, hreport, hlocked, (hbounds 11 4 hlocked).1, (hbounds 11 4 hlocked).2,
    by decide, hall, hunlocked, hnonneg, hgrown, hworth, hdearer, hworthMore, hburned, hfewer,
    hburnedLess⟩

end Vault
end PoolPricing
