import PoolPricing.Proofs.SwapQuote
import PoolPricing.Quote.Deposit
set_option autoImplicit false

namespace PoolPricing

open Checked Number

theorem Slippage.le_greatest {amount slippage greatest : Int} (hamount : 0 ≤ amount)
    (h : Slippage.greatest amount slippage = .ok greatest) : amount ≤ greatest := by
  obtain ⟨_, hguard, h⟩ := bind_eq_ok.mp h
  have hrange : 0 ≤ slippage := by
    by_contra hout
    simp [Slippage.require, hout] at hguard
  cases h
  refine Int.le_ediv_of_mul_le (by decide) ?_
  exact Int.mul_le_mul_of_nonneg_left (by omega) hamount

theorem DepositQuote.buffered_le {minted : Int} (h : 0 ≤ minted) : buffered minted ≤ minted := by
  unfold buffered
  omega

theorem DepositQuote.buffered_nonneg {share : Int} (h : 0 ≤ share) : 0 ≤ buffered share := by
  unfold buffered
  omega

/-- The vault takes a deposit and mints `gained` shares for it, which add to the pool's shares in at
least the proportion in which `minted` adds to the pool tokens. -/
structure Position.Undiluted (position : Position) (deposit gained minted lpSupply : Int) :
    Prop where
  gained_eq : gained = deposit * position.supply / position.withdrawable
  gain_eq : position.gain deposit = .ok ((position.shares + gained) *
    (position.withdrawable + deposit) / (position.supply + gained) - position.amount)
  covers : minted * position.shares ≤ gained * lpSupply
  undiluted : position.shares * (lpSupply + minted) ≤ (position.shares + gained) * lpSupply

/-- `minted` is at most the part of the pool tokens that an amount is of what the side holds. -/
def Position.WithinShare (position : Position) (amount minted lpSupply : Int) : Prop :=
  ∃ share, Vault.shareOfAmount .down amount position.amount lpSupply = .ok share ∧
    minted ≤ share ∧ minted * position.amount ≤ amount * lpSupply

namespace Position

variable {position : Position} {minted lpSupply needed deposit : Int}

theorem amountForMint_ok (hpool : 0 < lpSupply)
    (h : position.amountForMint minted lpSupply = .ok needed) :
    0 < position.supply ∧ 0 ≤ needed ∧
      needed = ceiling (ceiling (minted * position.shares) lpSupply * position.withdrawable)
        position.supply := by
  obtain ⟨shares, hshares, h⟩ := bind_eq_ok.mp h
  obtain ⟨_, _, rfl⟩ := (Vault.shareOfAmount_eq_ok hpool).mp hshares
  obtain ⟨hnonneg, htotal, hsupply, rfl⟩ := Vault.amountOfShare_eq_ok.mp h
  exact ⟨hsupply, ceiling_nonneg (Int.mul_nonneg hnonneg htotal) hsupply, rfl⟩

/-- Both roundings on the way to an amount are up, so the vault's own rounding down still leaves the
shares that were asked for. -/
theorem amountForMint_covers (hpool : 0 < lpSupply) (hworth : 0 < position.withdrawable)
    (h : position.amountForMint minted lpSupply = .ok needed) (hdeposit : needed ≤ deposit) :
    minted * position.shares ≤ deposit * position.supply / position.withdrawable * lpSupply := by
  obtain ⟨hsupply, _, rfl⟩ := amountForMint_ok hpool h
  have hasked := le_ceiling_mul (minted * position.shares) hpool
  generalize ceiling (minted * position.shares) lpSupply = shares at *
  have hcovered : shares * position.withdrawable ≤ deposit * position.supply :=
    calc shares * position.withdrawable
        ≤ ceiling (shares * position.withdrawable) position.supply * position.supply :=
          le_ceiling_mul _ hsupply
      _ ≤ deposit * position.supply :=
          Int.mul_le_mul_of_nonneg_right hdeposit (Int.le_of_lt hsupply)
  calc minted * position.shares ≤ shares * lpSupply := hasked
    _ ≤ deposit * position.supply / position.withdrawable * lpSupply :=
        Int.mul_le_mul_of_nonneg_right (Int.le_ediv_of_mul_le hworth hcovered)
          (Int.le_of_lt hpool)

theorem Backed.undiluted (hbacked : position.Backed) (hworth : 0 < position.withdrawable)
    (hpool : 0 < lpSupply) {share slippage : Int} (hshare : minted ≤ share)
    (hneeded : position.amountForMint share lpSupply = .ok needed)
    (hdeposit : Slippage.greatest needed slippage = .ok deposit) :
    ∃ gained, position.Undiluted deposit gained minted lpSupply := by
  obtain ⟨_, hneeded_nonneg, _⟩ := amountForMint_ok hpool hneeded
  have hle := Slippage.le_greatest hneeded_nonneg hdeposit
  have hshares := amountForMint_covers hpool hworth hneeded hle
  have hcovers := Int.le_trans (Int.mul_le_mul_of_nonneg_right hshare hbacked.shares_nonneg) hshares
  refine ⟨_, rfl, hbacked.gain_eq hworth (by omega), hcovers, ?_⟩
  linarith

theorem Backed.withinShare (hbacked : position.Backed) {amount share : Int}
    (hshare : Vault.shareOfAmount .down amount position.amount lpSupply = .ok share)
    (hminted : minted ≤ share) : position.WithinShare amount minted lpSupply :=
  ⟨share, hshare, hminted,
    Int.le_trans (Int.mul_le_mul_of_nonneg_right hminted hbacked.amount_nonneg)
      (Vault.shareOfAmount_ok hshare).2⟩

end Position

namespace Snapshot

theorem balancedShare_ok {a b : Position} {amountA amountB lpSupply share : Int}
    (h : balancedShare a b amountA amountB lpSupply = .ok share) :
    (0 < amountA ∧ Vault.shareOfAmount .down amountA a.amount lpSupply = .ok share) ∨
      (¬0 < amountA ∧ Vault.shareOfAmount .down amountB b.amount lpSupply = .ok share) := by
  unfold balancedShare at h
  by_cases hgiven : 0 < amountA
  · simp only [hgiven, if_true, refuse_eq, error_bind, bind_eq_ok, guard_eq_ok, pure_eq_ok] at h
    obtain ⟨_, hshare, _, rfl⟩ := h
    exact .inl ⟨hgiven, hshare⟩
  · simp only [hgiven, if_false, refuse_eq, error_bind, bind_eq_ok, guard_eq_ok, pure_eq_ok] at h
    obtain ⟨_, hshare, _, rfl⟩ := h
    exact .inr ⟨hgiven, hshare⟩

theorem admitDeposit_balanced {amountA amountB : Int} {u : Unit}
    (h : admitDeposit amountA amountB true = .ok u) :
    (0 < amountA ∧ amountB = 0) ∨ (amountA = 0 ∧ 0 < amountB) := by
  by_contra hform
  simp only [admitDeposit, refuse_eq, error_bind, guard_eq_ok, true_and] at h
  omega

theorem balancedConstantProduct_ok {a b : Position} {lpSupply share slippage : Int}
    {quote : DepositQuote}
    (h : balancedConstantProduct a b lpSupply share slippage = .ok quote) :
    quote.minted = DepositQuote.buffered share ∧
      (∃ needed, a.amountForMint share lpSupply = .ok needed ∧
        Slippage.greatest needed slippage = .ok quote.amountA) ∧
      ∃ needed, b.amountForMint share lpSupply = .ok needed ∧
        Slippage.greatest needed slippage = .ok quote.amountB := by
  obtain ⟨needA, hneedA, h⟩ := bind_eq_ok.mp h
  obtain ⟨needB, hneedB, h⟩ := bind_eq_ok.mp h
  obtain ⟨amountA, hamountA, h⟩ := bind_eq_ok.mp h
  obtain ⟨amountB, hamountB, h⟩ := bind_eq_ok.mp h
  cases h
  exact ⟨rfl, ⟨needA, hneedA, hamountA⟩, needB, hneedB, hamountB⟩

theorem depositQuote_balanced {snapshot : Snapshot} {a b : Position}
    {amountA amountB slippage : Int} {quote : DepositQuote}
    (hcurve : snapshot.curve = .constantProduct) (hpool : 0 < snapshot.lpSupply.val)
    (hpositions : snapshot.positions = .ok (a, b))
    (h : (snapshot.depositQuote amountA amountB true slippage).outcome = .ok quote) :
    ((0 < amountA ∧ amountB = 0) ∨ (amountA = 0 ∧ 0 < amountB)) ∧
      ∃ share, balancedShare a b amountA amountB snapshot.lpSupply = .ok share ∧
        balancedConstantProduct a b snapshot.lpSupply share slippage = .ok quote := by
  simp only [depositQuote, Run.outcome_bind, Run.outcome_liftM, Run.outcome_ite, bind_eq_ok,
    if_true] at h
  obtain ⟨_, hform, fresh, hfresh, h⟩ := h
  have hsupply : fresh.lpSupply = snapshot.lpSupply := by
    obtain ⟨_, rfl⟩ := refreshed_withCache hfresh
    rfl
  have hplain : fresh.curve.isStable = false := by
    rw [refreshed_constantProduct hfresh hcurve]
    rfl
  rw [hsupply, if_neg (Int.ne_of_gt hpool), (refreshed_positions hfresh).1, hpositions] at h
  obtain ⟨_, hsame, h⟩ := bind_eq_ok.mp h
  cases hsame
  obtain ⟨share, hshare, h⟩ := bind_eq_ok.mp h
  rw [hplain] at h
  exact ⟨admitDeposit_balanced hform, share, hshare, h⟩

end Snapshot

/-- A balanced deposit into a constant product pool dilutes nobody, on either side, and is quoted at
most the share of the pool that the amount given is. -/
theorem balancedDeposit_keeps {snapshot : Snapshot} {a b : Position}
    {amountA amountB slippage : Int} {quote : DepositQuote}
    (hcurve : snapshot.curve = .constantProduct) (hpool : 0 < snapshot.lpSupply.val)
    (hpositions : snapshot.positions = .ok (a, b)) (ha : 0 < a.withdrawable)
    (hb : 0 < b.withdrawable)
    (h : (snapshot.depositQuote amountA amountB true slippage).outcome = .ok quote) :
    (∃ gained, a.Undiluted quote.amountA gained quote.minted snapshot.lpSupply) ∧
    (∃ gained, b.Undiluted quote.amountB gained quote.minted snapshot.lpSupply) ∧
    ((0 < amountA ∧ amountB = 0 ∧ a.WithinShare amountA quote.minted snapshot.lpSupply) ∨
      (amountA = 0 ∧ 0 < amountB ∧ b.WithinShare amountB quote.minted snapshot.lpSupply)) := by
  obtain ⟨hform, share, hshare, hquote⟩ := Snapshot.depositQuote_balanced hcurve hpool hpositions h
  obtain ⟨hminted, ⟨needA, hneedA, hamountA⟩, needB, hneedB, hamountB⟩ :=
    Snapshot.balancedConstantProduct_ok hquote
  obtain ⟨hbackedA, hbackedB⟩ := Snapshot.positions_backed hpositions
  have hgiven := Snapshot.balancedShare_ok hshare
  have hle : quote.minted ≤ share := by
    rw [hminted]
    refine DepositQuote.buffered_le ?_
    rcases hgiven with ⟨_, hworth⟩ | ⟨_, hworth⟩ <;> exact (Vault.shareOfAmount_ok hworth).1
  refine ⟨hbackedA.undiluted ha hpool hle hneedA hamountA,
    hbackedB.undiluted hb hpool hle hneedB hamountB, ?_⟩
  rcases hgiven with ⟨hpos, hworth⟩ | ⟨hzero, hworth⟩
  · exact .inl ⟨hpos, by omega, hbackedA.withinShare hworth hle⟩
  · exact .inr ⟨by omega, by omega, hbackedB.withinShare hworth hle⟩

theorem balancedDeposit_keeps_million :
    let million : Position := ⟨1000000, 1000000, 1000000, 1000000, 1000000⟩
    Snapshot.million.positions = .ok (million, million) ∧
    (Snapshot.million.depositQuote 1000 0 true 100).outcome = .ok ⟨998, 998, 1010, 1010⟩ ∧
    (∃ gained, million.Undiluted 1010 gained 998 1000000) ∧
    million.WithinShare 1000 998 1000000 := by
  intro million
  have hpositions : Snapshot.million.positions = .ok (million, million) := rfl
  have h : (Snapshot.million.depositQuote 1000 0 true 100).outcome =
      .ok ⟨998, 998, 1010, 1010⟩ := rfl
  obtain ⟨_, hkept, hgiven⟩ := balancedDeposit_keeps (a := million) rfl (by decide) hpositions
    (by decide) (by decide) h
  rcases hgiven with ⟨_, _, hshare⟩ | ⟨hzero, _⟩
  · exact ⟨hpositions, h, hkept, hshare⟩
  · contradiction

end PoolPricing
