import PoolPricing.Proofs.BalancedWithdrawal
import PoolPricing.Proofs.Mirror.Quote
set_option autoImplicit false

namespace PoolPricing

open Checked

def DepositQuote.ofShare (share slippage amountA amountB : Int) : DepositQuote :=
  ⟨buffered share, buffered share * (10000 - slippage) / 10000, amountA, amountB⟩

theorem DepositQuote.buffered_mul_le (amount supply : Int) {total : Int} (h : 0 < total) :
    buffered (amount * supply / total) * (1000 * total) ≤ 998 * (supply * amount) := by
  have hshare := Int.ediv_mul_le (amount * supply) (Int.ne_of_gt h)
  generalize amount * supply / total = share at *
  have hbuffer := Int.ediv_mul_le (share * 998) (show (1000 : Int) ≠ 0 by decide)
  calc buffered share * (1000 * total) = buffered share * 1000 * total := by ring
    _ ≤ share * 998 * total := Int.mul_le_mul_of_nonneg_right hbuffer (Int.le_of_lt h)
    _ = 998 * (share * total) := by ring
    _ ≤ 998 * (amount * supply) := Int.mul_le_mul_of_nonneg_left hshare (by decide)
    _ = 998 * (supply * amount) := by rw [Int.mul_comm amount]

@[simp] theorem Curve.isStable_withCache (curve : Curve) (state : Depeg.State) :
    (curve.withCache state).isStable = curve.isStable := by
  cases curve <;> rfl

namespace Snapshot

section

variable {a b : Position} {amount lpSupply : Int}

theorem balancedShare_first (hamount : 0 < amount) (hside : 0 < a.amount) (hpool : 0 < lpSupply) :
    balancedShare a b amount 0 lpSupply =
      if amount * lpSupply / a.amount = 0 then .error (.tooSmall .depositMintsNothing)
      else .ok (amount * lpSupply / a.amount) := by
  simp only [balancedShare, if_pos hamount, Vault.shareOfAmount_down_of_pos (Int.le_of_lt hamount)
    hside (Int.le_of_lt hpool), ok_bind, refuse_eq, error_bind]
  rfl

theorem balancedShare_second (hamount : 0 < amount) (hside : 0 < b.amount) (hpool : 0 < lpSupply) :
    balancedShare a b 0 amount lpSupply =
      if amount * lpSupply / b.amount = 0 then .error (.tooSmall .depositMintsNothing)
      else .ok (amount * lpSupply / b.amount) := by
  rw [← balancedShare_comm (.inr ⟨rfl, hamount⟩)]
  exact balancedShare_first hamount hside hpool

theorem balancedStable_first (hamount : 0 < amount) (hside : 0 < a.amount)
    {share slippage : Int} (hslippage : 0 ≤ slippage ∧ slippage ≤ 10000) :
    balancedStable a b amount 0 share slippage =
      .ok (.ofShare share slippage amount (amount * b.amount / a.amount)) := by
  simp only [balancedStable, if_pos hamount, floorDivide_of_pos _ hside, ok_bind, pure_bind,
    Slippage.least_eq_ok.mpr ⟨hslippage, rfl⟩]
  rfl

theorem balancedStable_second (hside : 0 < b.amount) {share slippage : Int}
    (hslippage : 0 ≤ slippage ∧ slippage ≤ 10000) :
    balancedStable a b 0 amount share slippage =
      .ok (.ofShare share slippage (amount * a.amount / b.amount) amount) := by
  simp only [balancedStable, if_neg (Int.lt_irrefl 0), floorDivide_of_pos _ hside, ok_bind,
    pure_bind, Slippage.least_eq_ok.mpr ⟨hslippage, rfl⟩]
  rfl

end

theorem admitDeposit_of_oneSided {amountA amountB : Int} (h : OneSided amountA amountB) :
    admitDeposit amountA amountB true = .ok () := by
  have hform : ¬(amountA < 0 ∨ amountB < 0) ∧ ¬(amountA = 0 ∧ amountB = 0) ∧
      ¬(0 < amountA ∧ 0 < amountB) := by
    unfold OneSided at h
    omega
  simp only [admitDeposit, hform, if_false, true_and]
  rfl

/-- A balanced deposit into a stable pool that has pool tokens is quoted in two stages: the share of
the pool that the given amount is, and the other amount that goes with it. -/
theorem depositQuote_stable {snapshot fresh : Snapshot} {a b : Position} {amountA amountB : Int}
    (hstable : snapshot.curve.isStable = true) (hfresh : snapshot.refreshed.outcome = .ok fresh)
    (hpool : 0 < snapshot.lpSupply.val) (hpositions : snapshot.positions = .ok (a, b))
    (hsided : OneSided amountA amountB) (slippage : Int) :
    snapshot.depositQuote amountA amountB true slippage =
      ⟨balancedShare a b amountA amountB snapshot.lpSupply >>= fun share =>
        balancedStable a b amountA amountB share slippage, snapshot.refreshed.events⟩ := by
  have hkind : fresh.curve.isStable = true := by
    obtain ⟨state, rfl⟩ := refreshed_withCache hfresh
    rw [withCache, Curve.isStable_withCache, hstable]
  rw [depositQuote, admitDeposit_of_oneSided hsided, Run.liftM_ok_bind, Run.bind_of_ok hfresh,
    refreshed_lpSupply hfresh, if_neg (Int.ne_of_gt hpool), (refreshed_positions hfresh).1,
    hpositions, Run.liftM_ok_bind]
  simp only [if_true, hkind]
  rw [Run.liftM_bind, Run.outcome_liftM, Run.events_liftM, List.append_nil]

section

variable {snapshot fresh : Snapshot} {a b : Position} {amountA amountB slippage : Int}
  (hstable : snapshot.curve.isStable = true) (hfresh : snapshot.refreshed.outcome = .ok fresh)
  (hpool : 0 < snapshot.lpSupply.val) (hpositions : snapshot.positions = .ok (a, b))
include hstable hfresh hpool hpositions

theorem depositQuote_first (ha : 0 < a.amount) (hA : 0 < amountA)
    (hratio : amountA * b.amount = amountB * a.amount)
    (hslippage : 0 ≤ slippage ∧ slippage ≤ 10000) :
    snapshot.depositQuote amountA 0 true slippage =
      ⟨if amountA * snapshot.lpSupply / a.amount = 0 then .error (.tooSmall .depositMintsNothing)
        else .ok (.ofShare (amountA * snapshot.lpSupply / a.amount) slippage amountA amountB),
        snapshot.refreshed.events⟩ := by
  rw [depositQuote_stable hstable hfresh hpool hpositions (.inl ⟨hA, rfl⟩),
    balancedShare_first hA ha hpool]
  split
  · rfl
  · rw [ok_bind, balancedStable_first hA ha hslippage, hratio,
      Int.mul_ediv_cancel _ (Int.ne_of_gt ha)]

theorem depositQuote_second (hb : 0 < b.amount) (hB : 0 < amountB)
    (hratio : amountA * b.amount = amountB * a.amount)
    (hslippage : 0 ≤ slippage ∧ slippage ≤ 10000) :
    snapshot.depositQuote 0 amountB true slippage =
      ⟨if amountB * snapshot.lpSupply / b.amount = 0 then .error (.tooSmall .depositMintsNothing)
        else .ok (.ofShare (amountB * snapshot.lpSupply / b.amount) slippage amountA amountB),
        snapshot.refreshed.events⟩ := by
  rw [depositQuote_stable hstable hfresh hpool hpositions (.inr ⟨rfl, hB⟩),
    balancedShare_second hB hb hpool]
  split
  · rfl
  · rw [ok_bind, balancedStable_second hb hslippage, ← hratio,
      Int.mul_ediv_cancel _ (Int.ne_of_gt hb)]

end
end Snapshot

/-- Amounts of the two tokens in the proportion in which a stable pool holds them are one balanced
deposit, whichever is given: it is refused where it comes to less than a pool token, and else quoted
for both amounts and at most 998 thousandths of the part of the pool that either is. -/
theorem balancedDeposit_either_side {snapshot fresh : Snapshot} {a b : Position}
    {amountA amountB slippage : Int} (hstable : snapshot.curve.isStable = true)
    (hfresh : snapshot.refreshed.outcome = .ok fresh) (hpool : 0 < snapshot.lpSupply.val)
    (hpositions : snapshot.positions = .ok (a, b)) (ha : 0 < a.amount) (hb : 0 < b.amount)
    (hA : 0 < amountA) (hB : 0 < amountB) (hratio : amountA * b.amount = amountB * a.amount)
    (hslippage : 0 ≤ slippage ∧ slippage ≤ 10000) :
    snapshot.depositQuote amountA 0 true slippage = snapshot.depositQuote 0 amountB true slippage ∧
    ((amountA * snapshot.lpSupply.val < a.amount ∧
        (snapshot.depositQuote amountA 0 true slippage).outcome =
          .error (.tooSmall .depositMintsNothing)) ∨
      (a.amount ≤ amountA * snapshot.lpSupply.val ∧
        ∃ quote, (snapshot.depositQuote amountA 0 true slippage).outcome = .ok quote ∧
          quote.amountA = amountA ∧ quote.amountB = amountB ∧ 0 ≤ quote.minted ∧
          quote.minted * (1000 * a.amount) ≤ 998 * (snapshot.lpSupply.val * amountA) ∧
          quote.leastMinted = quote.minted * (10000 - slippage) / 10000)) := by
  have hshare : amountB * snapshot.lpSupply / b.amount = amountA * snapshot.lpSupply / a.amount :=
    Number.ediv_eq_ediv_of_cross hb ha (by
      rw [Int.mul_right_comm, Int.mul_right_comm amountA, hratio])
  have hfirst := Snapshot.depositQuote_first hstable hfresh hpool hpositions ha hA hratio hslippage
  have hsecond :=
    Snapshot.depositQuote_second hstable hfresh hpool hpositions hb hB hratio hslippage
  have hworth := Int.mul_nonneg (Int.le_of_lt hA) (Int.le_of_lt hpool)
  rw [hshare, ← hfirst] at hsecond
  refine ⟨hsecond.symm, ?_⟩
  rw [hfirst]
  by_cases hnone : amountA * snapshot.lpSupply / a.amount = 0
  · exact .inl ⟨(Number.ediv_eq_zero_iff hworth ha).mp hnone, if_pos hnone⟩
  · have hsome := mt (Number.ediv_eq_zero_iff hworth ha).mpr hnone
    exact .inr ⟨Int.not_lt.mp hsome, _, if_neg hnone, rfl, rfl,
      DepositQuote.buffered_nonneg (Int.ediv_nonneg hworth (Int.le_of_lt ha)),
      DepositQuote.buffered_mul_le amountA snapshot.lpSupply ha, rfl⟩

def Snapshot.threefold : Snapshot :=
  { Snapshot.million with
    b := .sole "B" ⟨3000000, by decide, by decide⟩ ⟨3000000, by decide, by decide⟩
      Holding.mintB_nonempty
    curve := .stable (.hundredfold (.ofDecimals 6 6) .plain)
    mints_differ := by decide }

theorem balancedDeposit_either_side_threefold :
    let million : Position := ⟨1000000, 1000000, 1000000, 1000000, 1000000⟩
    let threefold : Position := ⟨3000000, 3000000, 3000000, 3000000, 3000000⟩
    Snapshot.threefold.positions = .ok (million, threefold) ∧
    (Snapshot.threefold.depositQuote 1001 0 true 100).outcome = .ok ⟨998, 988, 1001, 3003⟩ ∧
    (Snapshot.threefold.depositQuote 0 3003 true 100).outcome = .ok ⟨998, 988, 1001, 3003⟩ := by
  intro million threefold
  have hpositions : Snapshot.threefold.positions = .ok (million, threefold) := rfl
  have h : (Snapshot.threefold.depositQuote 1001 0 true 100).outcome =
      .ok ⟨998, 988, 1001, 3003⟩ := rfl
  have hfresh : Snapshot.threefold.refreshed.outcome = .ok Snapshot.threefold := rfl
  have hratio : (1001 : Int) * threefold.amount = 3003 * million.amount := by decide
  have hslippage : (0 : Int) ≤ 100 ∧ (100 : Int) ≤ 10000 := by decide
  obtain ⟨hsame, _⟩ := balancedDeposit_either_side rfl hfresh (by decide) hpositions (by decide)
    (by decide) (by decide) (by decide) hratio hslippage
  exact ⟨hpositions, h, hsame ▸ h⟩

end PoolPricing
