import PoolPricing.Proofs.SwapQuote
import PoolPricing.Quote.Withdrawal
import Mathlib.Algebra.Order.BigOperators.Group.List
set_option autoImplicit false

/-!
Balanced withdrawals. What a side releases is rounded down twice, from pool tokens to shares of the
vault and from shares to tokens. Either quotient of a sum is at least the sum of the quotients, so a
withdrawal in parts never releases more than one of the whole, and whoever stays keeps at least his
shares of the vaults (`balancedWithdrawals_fair`).
-/

namespace PoolPricing

open Checked

theorem ediv_add_ediv_le (m n : Int) {d : Int} (hd : 0 < d) : m / d + n / d ≤ (m + n) / d := by
  refine (Int.le_ediv_iff_mul_le hd).mpr ?_
  rw [Int.add_mul]
  exact Int.add_le_add (Int.ediv_mul_le m (Int.ne_of_gt hd)) (Int.ediv_mul_le n (Int.ne_of_gt hd))

theorem Slippage.least_eq_ok {amount slippage least : Int} :
    Slippage.least amount slippage = .ok least ↔
      (0 ≤ slippage ∧ slippage ≤ scale) ∧ amount * (scale - slippage) / scale = least := by
  by_cases hrange : 0 ≤ slippage ∧ slippage ≤ scale
  · simp [Slippage.least, Slippage.require, hrange, pure, Except.pure]
  · simp only [Slippage.least, Slippage.require, hrange, if_false, refuse_bind, false_and,
      reduceCtorEq]

namespace Position

def sharesFor (position : Position) (lpSupply burned : Int) : Int :=
  burned * position.shares / lpSupply

/-- What those shares are worth, the value of `release`. -/
def released (position : Position) (lpSupply burned : Int) : Int :=
  position.sharesFor lpSupply burned * position.withdrawable / position.supply

section

variable {position : Position} (hbacked : position.Backed) {lpSupply : Int} (hpool : 0 < lpSupply)
include hbacked hpool

theorem Backed.sharesFor_mono {less more : Int} (h : less ≤ more) :
    position.sharesFor lpSupply less ≤ position.sharesFor lpSupply more :=
  Int.ediv_le_ediv hpool (Int.mul_le_mul_of_nonneg_right h hbacked.shares_nonneg)

theorem Backed.sharesFor_nonneg {burned : Int} (h : 0 ≤ burned) :
    0 ≤ position.sharesFor lpSupply burned :=
  Int.ediv_nonneg (Int.mul_nonneg h hbacked.shares_nonneg) (Int.le_of_lt hpool)

theorem Backed.release_eq {burned : Int} (h : 0 ≤ burned) :
    position.release burned lpSupply = .ok (position.released lpSupply burned) := by
  rw [release, Vault.shareOfAmount_down_of_pos h hpool hbacked.shares_nonneg, ok_bind]
  exact Vault.amountOfShare_down_of_pos (hbacked.sharesFor_nonneg hpool h)
    hbacked.withdrawable_nonneg hbacked.supply_pos

theorem Backed.released_mono {less more : Int} (h : less ≤ more) :
    position.released lpSupply less ≤ position.released lpSupply more :=
  Int.ediv_le_ediv hbacked.supply_pos
    (Int.mul_le_mul_of_nonneg_right (hbacked.sharesFor_mono hpool h) hbacked.withdrawable_nonneg)

theorem Backed.released_all : position.released lpSupply lpSupply = position.amount := by
  rw [released, sharesFor, Int.mul_ediv_cancel_left _ (Int.ne_of_gt hpool), hbacked.amount_eq]

omit hbacked hpool in
variable (position lpSupply) in
theorem released_none : position.released lpSupply 0 = 0 := by simp [released, sharesFor]

theorem Backed.released_nonneg {burned : Int} (h : 0 ≤ burned) :
    0 ≤ position.released lpSupply burned := by
  rw [← released_none position lpSupply]
  exact hbacked.released_mono hpool h

theorem Backed.released_add_le (m n : Int) :
    position.released lpSupply m + position.released lpSupply n ≤
      position.released lpSupply (m + n) := by
  have hshares : position.sharesFor lpSupply m + position.sharesFor lpSupply n ≤
      position.sharesFor lpSupply (m + n) := by
    unfold sharesFor
    rw [Int.add_mul]
    exact ediv_add_ediv_le _ _ hpool
  have hworth := Int.mul_le_mul_of_nonneg_right hshares hbacked.withdrawable_nonneg
  rw [Int.add_mul] at hworth
  exact Int.le_trans (ediv_add_ediv_le _ _ hbacked.supply_pos)
    (Int.ediv_le_ediv hbacked.supply_pos hworth)

theorem Backed.released_sum_le (parts : List Int) :
    (parts.map (position.released lpSupply)).sum ≤ position.released lpSupply parts.sum := by
  induction parts with
  | nil => simp [released_none]
  | cons part rest ih =>
    have hstep := hbacked.released_add_le hpool part rest.sum
    simp only [List.map_cons, List.sum_cons]
    omega

end

/-- A side's part in a balanced withdrawal: `amount` is what shares of the vault are worth that are
no more than in proportion, so that those left behind are no fewer. -/
structure FairRelease (position : Position) (lpSupply burned amount least : Int) : Prop where
  amount_nonneg : 0 ≤ amount
  amount_le : amount ≤ position.amount
  amount_of_all : burned = lpSupply → amount = position.amount
  from_shares : ∃ shares, Vault.shareOfAmount .down burned lpSupply position.shares = .ok shares ∧
    Vault.amountOfShare .down shares position.withdrawable position.supply = .ok amount ∧
    shares * lpSupply ≤ burned * position.shares ∧
    position.shares * (lpSupply - burned) ≤ (position.shares - shares) * lpSupply
  least_nonneg : 0 ≤ least
  least_le : least ≤ amount

theorem Backed.fairRelease {position : Position} (hbacked : position.Backed)
    {lpSupply burned slippage least : Int} (hburned : 0 < burned) (hle : burned ≤ lpSupply)
    (hleast : Slippage.least (position.released lpSupply burned) slippage = .ok least) :
    position.FairRelease lpSupply burned (position.released lpSupply burned) least := by
  have hpool : 0 < lpSupply := by omega
  have hamount := hbacked.released_nonneg hpool (Int.le_of_lt hburned)
  have hpart := Int.ediv_mul_le (burned * position.shares) (Int.ne_of_gt hpool)
  obtain ⟨hleast_nonneg, hleast_le⟩ := Slippage.least_ok hamount hleast
  refine ⟨hamount, ?_, fun hall => ?_, ⟨_, Vault.shareOfAmount_down_of_pos (Int.le_of_lt hburned)
    hpool hbacked.shares_nonneg, ?_, hpart, ?_⟩, hleast_nonneg, hleast_le⟩
  · rw [← hbacked.released_all hpool]
    exact hbacked.released_mono hpool hle
  · rw [hall, hbacked.released_all hpool]
  · exact Vault.amountOfShare_down_of_pos (hbacked.sharesFor_nonneg hpool (Int.le_of_lt hburned))
      hbacked.withdrawable_nonneg hbacked.supply_pos
  · linarith

end Position

namespace Snapshot

theorem admitBurn_eq_ok {snapshot : Snapshot} {burned : Int} {u : Unit} :
    snapshot.admitBurn burned = .ok u ↔ 0 < burned ∧ burned ≤ snapshot.lpSupply.val := by
  simp only [admitBurn, refuse_eq, error_bind, guard_eq_ok, pure_eq_ok, and_true]
  omega

theorem balancedWithdrawal_eq_ok {a b : Position} (ha : a.Backed) (hb : b.Backed)
    {lpSupply burned slippage : Int} {quote : WithdrawalQuote} (hpool : 0 < lpSupply)
    (hburned : 0 ≤ burned) :
    balancedWithdrawal lpSupply a b burned slippage = .ok quote ↔
      ∃ leastA leastB, Slippage.least (a.released lpSupply burned) slippage = .ok leastA ∧
        Slippage.least (b.released lpSupply burned) slippage = .ok leastB ∧
        ⟨burned, a.released lpSupply burned, b.released lpSupply burned, leastA, leastB⟩ =
          quote := by
  simp only [balancedWithdrawal, ha.release_eq hpool hburned, hb.release_eq hpool hburned, ok_bind,
    bind_eq_ok, pure_eq_ok, exists_and_left]

theorem withdrawalQuote_balanced {snapshot : Snapshot} {burned slippage : Int}
    {quote : WithdrawalQuote} :
    (snapshot.withdrawalQuote burned slippage none).outcome = .ok quote ↔
      0 < burned ∧ burned ≤ snapshot.lpSupply.val ∧
      (∃ fresh, snapshot.refreshed.outcome = .ok fresh) ∧
      ∃ a b leastA leastB, snapshot.positions = .ok (a, b) ∧
        Slippage.least (a.released snapshot.lpSupply burned) slippage = .ok leastA ∧
        Slippage.least (b.released snapshot.lpSupply burned) slippage = .ok leastB ∧
        ⟨burned, a.released snapshot.lpSupply burned, b.released snapshot.lpSupply burned, leastA,
          leastB⟩ = quote := by
  simp only [withdrawalQuote, Run.outcome_bind, Run.outcome_liftM, bind_eq_ok, admitBurn_eq_ok]
  constructor
  · rintro ⟨_, ⟨hburned, hle⟩, fresh, hfresh, ⟨a, b⟩, hpositions, h⟩
    rw [(refreshed_positions hfresh).1] at hpositions
    obtain ⟨ha, hb⟩ := positions_backed hpositions
    rw [refreshed_lpSupply hfresh] at h
    obtain ⟨leastA, leastB, h⟩ :=
      (balancedWithdrawal_eq_ok ha hb (by omega) (Int.le_of_lt hburned)).mp h
    exact ⟨hburned, hle, ⟨fresh, hfresh⟩, a, b, leastA, leastB, hpositions, h⟩
  · rintro ⟨hburned, hle, ⟨fresh, hfresh⟩, a, b, leastA, leastB, hpositions, h⟩
    obtain ⟨ha, hb⟩ := positions_backed hpositions
    refine ⟨(), ⟨hburned, hle⟩, fresh, hfresh, (a, b), ?_, ?_⟩
    · rw [(refreshed_positions hfresh).1, hpositions]
    · rw [refreshed_lpSupply hfresh]
      exact (balancedWithdrawal_eq_ok ha hb (by omega) (Int.le_of_lt hburned)).mpr
        ⟨leastA, leastB, h⟩

/-- A balanced withdrawal that is quoted at some slippage. -/
def Quoted (snapshot : Snapshot) (quote : WithdrawalQuote) : Prop :=
  ∃ slippage, (snapshot.withdrawalQuote quote.burned slippage none).outcome = .ok quote

theorem Quoted.burned_pos {snapshot : Snapshot} {quote : WithdrawalQuote}
    (h : snapshot.Quoted quote) : 0 < quote.burned := by
  obtain ⟨_, h⟩ := h
  exact (withdrawalQuote_balanced.mp h).1

theorem Quoted.amounts {snapshot : Snapshot} {quote : WithdrawalQuote} {a b : Position}
    (h : snapshot.Quoted quote) (hpositions : snapshot.positions = .ok (a, b)) :
    quote.amountA = a.released snapshot.lpSupply quote.burned ∧
      quote.amountB = b.released snapshot.lpSupply quote.burned := by
  obtain ⟨slippage, h⟩ := h
  obtain ⟨_, _, _, a', b', leastA, leastB, hsame, _, _, hquote⟩ := withdrawalQuote_balanced.mp h
  rw [hpositions] at hsame
  cases hsame
  rw [← hquote]
  exact ⟨rfl, rfl⟩

section

variable {snapshot : Snapshot} {parts : List WithdrawalQuote}
  (hparts : ∀ part ∈ parts, snapshot.Quoted part)
include hparts

theorem sum_burned_pos (hsome : parts ≠ []) : 0 < (parts.map WithdrawalQuote.burned).sum := by
  refine List.sum_pos _ (fun burned hmem => ?_) (by simpa using hsome)
  obtain ⟨part, hpart, rfl⟩ := List.mem_map.mp hmem
  exact (hparts part hpart).burned_pos

theorem sum_amounts_le {a b : Position} (hpositions : snapshot.positions = .ok (a, b))
    (hpool : 0 < snapshot.lpSupply.val) :
    (parts.map WithdrawalQuote.amountA).sum ≤
        a.released snapshot.lpSupply (parts.map WithdrawalQuote.burned).sum ∧
      (parts.map WithdrawalQuote.amountB).sum ≤
        b.released snapshot.lpSupply (parts.map WithdrawalQuote.burned).sum := by
  obtain ⟨ha, hb⟩ := positions_backed hpositions
  have hamountsA : parts.map WithdrawalQuote.amountA =
      (parts.map WithdrawalQuote.burned).map (a.released snapshot.lpSupply) := by
    rw [List.map_map]
    exact List.map_congr_left fun part hpart => ((hparts part hpart).amounts hpositions).1
  have hamountsB : parts.map WithdrawalQuote.amountB =
      (parts.map WithdrawalQuote.burned).map (b.released snapshot.lpSupply) := by
    rw [List.map_map]
    exact List.map_congr_left fun part hpart => ((hparts part hpart).amounts hpositions).2
  rw [hamountsA, hamountsB]
  exact ⟨ha.released_sum_le hpool _, hb.released_sum_le hpool _⟩

end

end Snapshot

/-- Balanced withdrawals are fair: each side releases what its part of the pool's shares is worth,
all of it for all pool tokens, and the shares left behind are no fewer than in proportion; more pool
tokens never release less; and withdrawals in parts never release more than one of their sum, which
is quoted whenever the pool has that many tokens. -/
theorem balancedWithdrawals_fair (snapshot : Snapshot) :
    (∀ burned slippage quote,
      (snapshot.withdrawalQuote burned slippage none).outcome = .ok quote →
      quote.burned = burned ∧ ∃ a b, snapshot.positions = .ok (a, b) ∧
        a.FairRelease snapshot.lpSupply burned quote.amountA quote.leastA ∧
        b.FairRelease snapshot.lpSupply burned quote.amountB quote.leastB) ∧
    (∀ less more, snapshot.Quoted less → snapshot.Quoted more → less.burned ≤ more.burned →
      less.amountA ≤ more.amountA ∧ less.amountB ≤ more.amountB) ∧
    (∀ parts : List WithdrawalQuote, parts ≠ [] → (∀ part ∈ parts, snapshot.Quoted part) →
      (parts.map WithdrawalQuote.burned).sum ≤ snapshot.lpSupply.val →
      ∀ slippage, 0 ≤ slippage → slippage ≤ Slippage.scale →
      ∃ whole, (snapshot.withdrawalQuote (parts.map WithdrawalQuote.burned).sum slippage
          none).outcome = .ok whole ∧
        (parts.map WithdrawalQuote.amountA).sum ≤ whole.amountA ∧
        (parts.map WithdrawalQuote.amountB).sum ≤ whole.amountB) := by
  refine ⟨fun burned slippage quote h => ?_, fun less more hless hmore hle => ?_,
    fun parts hsome hparts hsum slippage hlow hhigh => ?_⟩
  · obtain ⟨hburned, hle, _, a, b, leastA, leastB, hpositions, hleastA, hleastB, rfl⟩ :=
      Snapshot.withdrawalQuote_balanced.mp h
    obtain ⟨ha, hb⟩ := Snapshot.positions_backed hpositions
    exact ⟨rfl, a, b, hpositions, ha.fairRelease hburned hle hleastA,
      hb.fairRelease hburned hle hleastB⟩
  · obtain ⟨_, h⟩ := id hless
    obtain ⟨hburned, hburned_le, _, a, b, _, _, hpositions, _⟩ :=
      Snapshot.withdrawalQuote_balanced.mp h
    obtain ⟨ha, hb⟩ := Snapshot.positions_backed hpositions
    obtain ⟨hlessA, hlessB⟩ := hless.amounts hpositions
    obtain ⟨hmoreA, hmoreB⟩ := hmore.amounts hpositions
    have hpool : 0 < snapshot.lpSupply.val := by omega
    rw [hlessA, hlessB, hmoreA, hmoreB]
    exact ⟨ha.released_mono hpool hle, hb.released_mono hpool hle⟩
  · obtain ⟨first, hfirst⟩ := List.exists_mem_of_ne_nil parts hsome
    obtain ⟨_, h⟩ := hparts first hfirst
    obtain ⟨hburned, hburned_le, hfresh, a, b, _, _, hpositions, _⟩ :=
      Snapshot.withdrawalQuote_balanced.mp h
    have hwhole := Snapshot.withdrawalQuote_balanced.mpr
      ⟨Snapshot.sum_burned_pos hparts hsome, hsum, hfresh, a, b, _, _, hpositions,
      Slippage.least_eq_ok.mpr ⟨⟨hlow, hhigh⟩, rfl⟩,
      Slippage.least_eq_ok.mpr ⟨⟨hlow, hhigh⟩, rfl⟩, rfl⟩
    exact ⟨_, hwhole, Snapshot.sum_amounts_le hparts hpositions (by omega)⟩

def Word.hundred : Word := ⟨100, by decide, by decide⟩

def Snapshot.ten : Snapshot :=
  { Snapshot.million with
    a := ⟨"A", ⟨100, .empty, by decide⟩, ⟨7, by decide, by decide⟩, ⟨9, by decide, by decide⟩,
      .hundred, Holding.mintA_nonempty, by decide⟩
    b := ⟨"B", ⟨100, .empty, by decide⟩, ⟨7, by decide, by decide⟩, ⟨9, by decide, by decide⟩,
      .hundred, Holding.mintB_nonempty, by decide⟩
    lpSupply := ⟨10, Int.natCast_nonneg 10, by decide⟩
    mints_differ := by decide }

theorem balancedWithdrawals_fair_ten :
    (Snapshot.ten.withdrawalQuote 3 100 none).outcome = .ok ⟨3, 22, 22, 21, 21⟩ ∧
    (Snapshot.ten.withdrawalQuote 4 100 none).outcome = .ok ⟨4, 22, 22, 21, 21⟩ ∧
    (Snapshot.ten.withdrawalQuote 10 100 none).outcome = .ok ⟨10, 77, 77, 76, 76⟩ ∧
    ([22, 22, 22] : List Int).sum ≤ 77 := by
  have hthree : (Snapshot.ten.withdrawalQuote 3 100 none).outcome = .ok ⟨3, 22, 22, 21, 21⟩ := rfl
  have hfour : (Snapshot.ten.withdrawalQuote 4 100 none).outcome = .ok ⟨4, 22, 22, 21, 21⟩ := rfl
  have hall : (Snapshot.ten.withdrawalQuote 10 100 none).outcome = .ok ⟨10, 77, 77, 76, 76⟩ := rfl
  obtain ⟨whole, hwhole, hamountA, _⟩ := (balancedWithdrawals_fair Snapshot.ten).2.2
    [⟨3, 22, 22, 21, 21⟩, ⟨3, 22, 22, 21, 21⟩, ⟨4, 22, 22, 21, 21⟩] (by simp)
    (by rintro part (_ | ⟨_, _ | ⟨_, _ | ⟨_, ⟨⟩⟩⟩⟩)
        · exact ⟨100, hthree⟩
        · exact ⟨100, hthree⟩
        · exact ⟨100, hfour⟩)
    (by decide) 100 (by decide) (by decide)
  have hsame : (⟨10, 77, 77, 76, 76⟩ : WithdrawalQuote) = whole :=
    Except.ok.inj (hall.symm.trans hwhole)
  rw [← hsame] at hamountA
  exact ⟨hthree, hfour, hall, hamountA⟩

end PoolPricing
